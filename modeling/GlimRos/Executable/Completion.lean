import GlimRos.Executable.Playback
import GlimRos.Rosbag.Progress

/-!
# `glim_rosbag` can always come to its end

Whatever the clock, the keys, the modules, live messages and the workers have
done so far, some continuation plays the bags out, returns from every callback
and leaves `main`.  The player lowers its rank whenever its input lets it go
on, and between two steps of the player `main` goes through few places.
-/

namespace GlimRos.Rosbag

variable {settings : Settings} {input : Input} {player : Player}

def Pc.unended : Pc → Nat
  | .done _ => 0
  | _ => 1

theorem unended_of_running (running : ¬ player.Finished) :
    player.pc.unended = 1 := by
  cases here : player.pc with
  | done stopped => exact (running ⟨stopped, here⟩).elim
  | _ => rfl

/-- How far the player is from its end, the pause key included. -/
def Player.potential (player : Player) : Nat ×ₗ (Nat ×ₗ Nat ×ₗ Nat) ×ₗ Nat :=
  toLex
    (player.pc.unended,
      toLex (player.rank, if player.paused then 1 else 0))

/-- The input lets the player leave the waiting loop it is in. -/
def Player.GoesOn (settings : Settings) (input : Input) (player : Player) :
    Prop :=
  match player.pc with
  | .paused _ _ => player.paused = true →
      input.ok = false ∨ settings.keyboardActive = true ∧ input.keys = [' ']
  | .throttle read =>
      settings.throttles player.bagT0 player.realT0 input.now read = false
  | .needsWait since => 1000000000 < input.now - since
  | _ => True

theorem Player.potential_of_finished {next : Player}
    (running : ¬ player.Finished) (finished : next.Finished) :
    next.potential < player.potential := by
  obtain ⟨stopped, through⟩ := finished
  rw [Player.potential, Player.potential, Prod.Lex.toLex_lt_toLex]
  left
  rw [unended_of_running running, through]
  exact Nat.zero_lt_one

/-- A player that may go on does, unless it has been paused and the key is
pressed again. -/
theorem progress_of_goesOn (goesOn : player.GoesOn settings input) :
    ((step settings input player).Finished ∨
        (step settings input player).rank < player.rank) ∨
      player.SameButPause (step settings input player) ∧
        (∃ read since, player.pc = .paused read since) ∧ input.ok = true ∧
        player.paused = true ∧ (step settings input player).paused = false := by
  rcases progress_move (step_move settings input player) with
    moved | ⟨same, spins⟩
  · exact .inl moved
  · cases here : player.pc with
    | paused read since =>
        rw [Player.spins, here] at spins
        rw [Player.GoesOn, here] at goesOn
        have paused : player.paused = true := spins
        cases up : input.ok with
        | false => exact .inl (.inl ⟨true, by simp [step, here, up]⟩)
        | true =>
            rcases goesOn paused with down | ⟨active, keys⟩
            · cases up.symm.trans down
            · refine .inr ⟨same, ⟨read, since, rfl⟩, rfl, paused, ?_⟩
              simp [step, here, paused, up, active, keys, keyboardUpdate]
    | throttle read =>
        rw [Player.spins, here] at spins
        rw [Player.GoesOn, here] at goesOn
        cases spins.symm.trans goesOn
    | needsWait since =>
        rw [Player.spins, here] at spins
        rw [Player.GoesOn, here] at goesOn
        simp [goesOn] at spins
    | _ =>
        rw [Player.spins, here] at spins
        cases spins

/-- A player that may go on comes closer to its end. -/
theorem potential_lower (running : ¬ player.Finished)
    (goesOn : player.GoesOn settings input) :
    (step settings input player).potential < player.potential := by
  by_cases ends : (step settings input player).Finished
  · exact Player.potential_of_finished running ends
  · rw [Player.potential, Player.potential, Prod.Lex.toLex_lt_toLex,
      Prod.Lex.toLex_lt_toLex, unended_of_running ends,
      unended_of_running running]
    refine .inr ⟨rfl, ?_⟩
    rcases progress_of_goesOn goesOn with
      (finished | lower) | ⟨same, _, _, paused, released⟩
    · exact (ends finished).elim
    · exact .inl lower
    · exact .inr ⟨same.rank, by simp [paused, released]⟩

/-- The pause key only works with a keyboard. -/
theorem step_pausedActive (settings : Settings) (input : Input)
    (active : player.paused = true → settings.keyboardActive = true)
    (paused : (step settings input player).paused = true) :
    settings.keyboardActive = true := by
  have update : keyboardUpdate settings.keyboardActive input.keys
      player.paused = true → settings.keyboardActive = true := by
    intro pressed
    cases terminal : settings.keyboardActive with
    | true => rfl
    | false =>
        rw [keyboardUpdate, terminal] at pressed
        exact terminal.symm.trans (active pressed)
  have move := step_move settings input player
  generalize step settings input player = next at move paused
  cases move with
  | pauses pc pressed => exact update pressed
  | staysPaused pc held => exact update paused
  | plays pc => cases paused
  | _ => exact active paused

/-- The clock no longer holds the player back. -/
def Player.Due (settings : Settings) (now : Int) (player : Player) : Prop :=
  match player.pc with
  | .throttle read =>
      settings.throttles player.bagT0 player.realT0 now read = false
  | .needsWait since => 1000000000 < now - since
  | _ => True

theorem exists_due (settings : Settings) (player : Player) :
    ∃ bound : Int, ∀ now, bound ≤ now → player.Due settings now := by
  unfold Player.Due
  cases player.pc with
  | throttle read =>
      exact throttles_false settings player.bagT0 player.realT0 read
  | needsWait since =>
      exact ⟨since + 1000000001, fun now late => by dsimp only; omega⟩
  | _ => exact ⟨0, fun _ _ => trivial⟩

/-- Some input lets the player go on. -/
theorem exists_goesOn (settings : Settings) (player : Player)
    (active : player.paused = true → settings.keyboardActive = true)
    (ok needsWait : Bool) :
    ∃ input : Input, input.ok = ok ∧ input.needsWait = needsWait ∧
      player.GoesOn settings input := by
  obtain ⟨now, due⟩ := exists_due settings player
  have here := due now le_rfl
  refine ⟨{ now, ok, keys := [' '], needsWait }, rfl, rfl, ?_⟩
  unfold Player.GoesOn
  unfold Player.Due at here
  cases pc : player.pc with
  | paused read since => exact fun held => .inr ⟨active held, rfl⟩
  | throttle read =>
      rw [pc] at here
      exact here
  | needsWait since =>
      rw [pc] at here
      exact here
  | _ => trivial

end GlimRos.Rosbag

namespace GlimRos.Executable

open Transition

open Rosbag (Bag Input Player)

variable {K : Type} {glim : Glim K} {Module : Type}

/-! ## What `main` keeps -/

/-- The messages that did not come from a bag. -/
def RosbagMain.live (main : RosbagMain glim Module) : List (Arrival glim) :=
  main.arrivals.filter fun arrival => !arrival.fromBag

section Steps

variable [Field K] [LinearOrder K] {setup : RosbagSetup glim}
  {main next : RosbagMain glim Module}

/-- A step without a live message.  ROS is shut down only if `main` would
spin for ever otherwise. -/
structure Proceeds (setup : RosbagSetup glim)
    (main next : RosbagMain glim Module) : Prop where
  step : RosbagStep setup main next
  live : next.live = main.live
  ok : setup.autoQuit = true → next.node.rclcppOk = main.node.rclcppOk

def proceedingSystem (setup : RosbagSetup glim)
    (start : RosbagMain glim Module) :
    Transition.System (RosbagMain glim Module) :=
  { Init := fun main => main = start
    Step := Proceeds setup }

/-- Only a keyboard pauses, and `main` spins only if it was not told to
quit. -/
structure Orderly (setup : RosbagSetup glim) (main : RosbagMain glim Module) :
    Prop where
  active : main.player.paused = true → setup.settings.keyboardActive = true
  spins : main.pc = .spin → setup.autoQuit = false

theorem rosbagStep_orderly (orderly : Orderly setup main)
    (step : RosbagStep setup main next) : Orderly setup next := by
  obtain ⟨active, spins⟩ := orderly
  cases step with
  | plays input pc sees direct quiet =>
      exact ⟨Rosbag.step_pausedActive _ _ active, spins⟩
  | spunSome input pc idle ok needsWait =>
      exact ⟨Rosbag.step_pausedActive _ _ active, nofun⟩
  | hands input pc sees here continues =>
      exact ⟨Rosbag.step_pausedActive _ _ active, nofun⟩
  | handsLast input pc sees here last =>
      exact ⟨Rosbag.step_pausedActive _ _ active, nofun⟩
  | callsSpinSome | delivers | returns | quits | spun | saves | unloads =>
      exact ⟨active, nofun⟩
  | receives | timerFires | statement | works | interrupt =>
      exact ⟨active, spins⟩
  | spins pc through stays =>
      refine ⟨active, fun _ => ?_⟩
      simp only [Bool.or_eq_false_iff] at stays
      exact stays.1
  | destroys pc =>
      refine ⟨active, ?_⟩
      cases dumps : main.glimRos.dumpOnUnload <;> nofun

variable {bags : List Bag} {startOffset : Rat}
  {glimRos : LoadedNode glim Module}

theorem reachable_orderly
    (reachable :
      (rosbagSystem setup
        (RosbagMain.start bags startOffset glimRos)).Reachable main) :
    Orderly setup main := by
  refine reachable.invariant (Orderly setup) ?_ ?_
  · rintro _ rfl
    exact ⟨nofun, nofun⟩
  · exact fun _ _ _ orderly step => rosbagStep_orderly orderly step

/-! ## Callbacks return to `main` -/

theorem callbackStep_proceeds (main : RosbagMain glim Module)
    {node : Node glim} (step : callbackSystem.Step main.node node) :
    Proceeds setup main (main.withNode node) := by
  rcases step with advanced | works
  · exact ⟨.statement true nofun advanced, rfl, fun _ =>
      statement_rclcppOk (advance_statement advanced)⟩
  · exact ⟨.works works, rfl, fun _ => (works_pc works).2⟩

theorem callbackSteps_proceed {node : Node glim}
    (steps : callbackSystem.Steps main.node node) :
    Relation.ReflTransGen (Proceeds setup) main (main.withNode node) := by
  refine Relation.ReflTransGen.lift (fun node => main.withNode node) ?_ _ _
    steps
  intro node next step
  exact callbackStep_proceeds (main.withNode node) step

theorem reachable_unblocked (fresh : glimRos.Fresh)
    (reachable :
      (rosbagSystem setup
        (RosbagMain.start bags startOffset glimRos)).Reachable main) :
    main.node.Unblocked := by
  have coupled := reachable_coupled fresh reachable
  exact ⟨coupled.received.backed fresh.idle, coupled.argument⟩

theorem proceeds_reachable {start : RosbagMain glim Module}
    (reachable : (rosbagSystem setup start).Reachable main)
    (steps : Relation.ReflTransGen (Proceeds setup) main next) :
    (rosbagSystem setup start).Reachable next := by
  induction steps with
  | refl => exact reachable
  | tail _ proceeds induction => exact induction.step proceeds.step

/-- The running callback can return to `main`, and to `main` alone. -/
theorem exists_returned (fresh : glimRos.Fresh)
    (reachable :
      (rosbagSystem setup
        (RosbagMain.start bags startOffset glimRos)).Reachable main) :
    ∃ node, Relation.ReflTransGen (Proceeds setup) main (main.withNode node) ∧
      main.pc.Admits node.pc ∧ (node.pc = .idle ∨ node.pc = .waited) := by
  obtain ⟨node, steps, _, returned⟩ :=
    callback_returns (reachable_unblocked fresh reachable)
  have proceeds :
      Relation.ReflTransGen (Proceeds setup) main (main.withNode node) :=
    callbackSteps_proceed steps
  have later := reachable_coupled fresh (proceeds_reachable reachable proceeds)
  exact ⟨node, proceeds, later.admits, returned⟩

/-! ## The way to the exit -/

/-- The places of `main` between two steps of the player, counted back from
the exit. -/
def MainPc.place : MainPc → Nat
  | .callback _ => 9
  | .timer | .lastCallback => 8
  | .playing => 7
  | .spinSome => 6
  | .spin => 5
  | .wait => 4
  | .saved => 3
  | .unload => 2
  | .exited => 1

def RosbagMain.rank (main : RosbagMain glim Module) :
    (Nat ×ₗ (Nat ×ₗ Nat ×ₗ Nat) ×ₗ Nat) ×ₗ Nat :=
  toLex (main.player.potential, main.pc.place)

omit [Field K] [LinearOrder K] in
theorem rank_lt_of_place {here there : MainPc}
    (same : next.player = main.player) (pc : main.pc = here)
    (moved : next.pc = there) (lower : there.place < here.place) :
    next.rank < main.rank := by
  rw [RosbagMain.rank, RosbagMain.rank, same, pc, moved,
    Prod.Lex.toLex_lt_toLex]
  exact .inr ⟨rfl, lower⟩

omit [Field K] [LinearOrder K] in
theorem rank_lt_of_player {input : Input}
    (running : ¬ main.player.Finished)
    (goesOn : main.player.GoesOn setup.settings input)
    (moved : next.player = Rosbag.step setup.settings input main.player) :
    next.rank < main.rank := by
  rw [RosbagMain.rank, RosbagMain.rank, moved, Prod.Lex.toLex_lt_toLex]
  exact .inl (Rosbag.potential_lower running goesOn)

omit [Field K] [LinearOrder K] in
theorem live_handOn (setup : RosbagSetup glim)
    (arrivals : List (Arrival glim)) (read : Rosbag.Read)
    (core : Option Rosbag.Callback) :
    (arrivals ++ setup.arrival read core).filter
        (fun arrival => !arrival.fromBag) =
      arrivals.filter fun arrival => !arrival.fromBag := by
  cases core <;> simp [RosbagSetup.arrival, Arrival.fromBag]

omit [Field K] [LinearOrder K] in
theorem idle_of_outside {node : Node glim}
    (returned : node.pc = .idle ∨ node.pc = .waited)
    (outside : node.pc.inWait = false) : node.pc = .idle := by
  rcases returned with idle | waited
  · exact idle
  · rw [waited] at outside
    cases outside

omit [Field K] [LinearOrder K] in
theorem waited_of_inside {node : Node glim}
    (returned : node.pc = .idle ∨ node.pc = .waited)
    (inside : node.pc.inWait = true) : node.pc = .waited := by
  rcases returned with idle | waited
  · rw [idle] at inside
    cases inside
  · exact waited

/-- `main` is in the loops over the bags, in `spin_some` or `spin` without a
callback, or has left. -/
def RosbagMain.Halts (main : RosbagMain glim Module) : Prop :=
  main.pc = .playing ∧ ¬ main.player.Finished ∨ main.Spinning ∨
    main.pc = .exited

/-- Elsewhere, `main` gets on as soon as the running callback has returned. -/
theorem exists_leaves (setup : RosbagSetup glim)
    (admits : main.pc.Admits main.node.pc)
    (returned : main.node.pc = .idle ∨ main.node.pc = .waited)
    (halts : ¬ main.Halts) :
    ∃ later, Proceeds setup main later ∧ later.player = main.player ∧
      later.pc.place < main.pc.place := by
  cases pc : main.pc with
  | playing =>
      have through : main.player.Finished := by
        by_contra running
        exact halts (.inl ⟨pc, running⟩)
      obtain ⟨stopped, through⟩ := through
      cases quits : setup.autoQuit || stopped with
      | true =>
          exact ⟨_, ⟨.quits pc through quits, rfl, fun _ => rfl⟩, rfl,
            by simp [MainPc.place]⟩
      | false =>
          exact ⟨_, ⟨.spins pc through quits, rfl, fun _ => rfl⟩, rfl,
            by simp [MainPc.place]⟩
  | spinSome =>
      rw [pc] at admits
      have idle := idle_of_outside returned admits
      exact (halts (.inr (.inl ⟨.inl pc, idle⟩))).elim
  | spin =>
      rw [pc] at admits
      have idle := idle_of_outside returned admits
      exact (halts (.inr (.inl ⟨.inr pc, idle⟩))).elim
  | exited => exact (halts (.inr (.inr pc))).elim
  | callback read =>
      rw [pc] at admits
      have idle := idle_of_outside returned admits
      exact ⟨_, ⟨.delivers pc idle true (by simp [RosbagMain.ModulesSay]), rfl,
          fun _ => Bool.and_true _⟩, rfl, by simp [MainPc.place]⟩
  | lastCallback =>
      rw [pc] at admits
      have idle := idle_of_outside returned admits
      exact ⟨_, ⟨.returns (.inr pc) idle, rfl, fun _ => rfl⟩, rfl,
        by simp [MainPc.place]⟩
  | timer =>
      rw [pc] at admits
      have idle := idle_of_outside returned admits
      exact ⟨_, ⟨.returns (.inl pc) idle, rfl, fun _ => rfl⟩, rfl,
        by simp [MainPc.place]⟩
  | wait =>
      rw [pc] at admits
      have waited := waited_of_inside returned admits
      exact ⟨_, ⟨.saves pc waited, rfl, fun _ => rfl⟩, rfl,
        by simp [MainPc.place]⟩
  | saved =>
      refine ⟨_, ⟨.destroys pc, rfl, fun _ => ?_⟩, rfl, ?_⟩
      · simp only [RosbagMain.node]
        split <;> rfl
      · split <;> simp [MainPc.place]
  | unload =>
      rw [pc] at admits
      have waited := waited_of_inside returned admits
      exact ⟨_, ⟨.unloads pc waited, rfl, fun _ => rfl⟩, rfl,
        by simp [MainPc.place]⟩

/-- In the loops over the bags, `main` calls `spin_some` or moves the
player. -/
theorem exists_plays (setup : RosbagSetup glim) {input : Input}
    (sees : main.Sees input) (pc : main.pc = .playing) :
    ∃ later, Proceeds setup main later ∧
      (later.pc = .spinSome ∧ later.player = main.player ∨
        later.player = Rosbag.step setup.settings input main.player) := by
  cases calls : callsSpinSome main.player input with
  | true =>
      exact ⟨_, ⟨.callsSpinSome input pc sees calls, rfl, fun _ => rfl⟩,
        .inl ⟨rfl, rfl⟩⟩
  | false =>
      by_cases quiet : ∀ read, main.player.pc = .dispatch read →
          Rosbag.coreDispatch setup.settings read = .mismatch
      · exact ⟨_, ⟨.plays input pc sees calls quiet, rfl, fun _ => rfl⟩,
          .inr rfl⟩
      · simp only [not_forall] at quiet
        obtain ⟨read, here, matched⟩ := quiet
        cases core : Rosbag.coreDispatch setup.settings read with
        | mismatch => exact (matched core).elim
        | endTimeReached =>
            exact ⟨_, ⟨.handsLast input pc sees here core,
                live_handOn setup main.arrivals read _,
                fun _ => handOn_rclcppOk setup main.node read (some .points)⟩,
              .inr rfl⟩
        | continues callback =>
            exact ⟨_, ⟨.hands input pc sees here core,
                live_handOn setup main.arrivals read _,
                fun _ => handOn_rclcppOk setup main.node read _⟩,
              .inr rfl⟩

/-- Between two callbacks, `main` gets on. -/
theorem exists_lower (orderly : Orderly setup main)
    (stands : main.pc.Stands main.player)
    (admits : main.pc.Admits main.node.pc)
    (returned : main.node.pc = .idle ∨ main.node.pc = .waited)
    (running : main.pc ≠ .exited) :
    ∃ later, Relation.ReflTransGen (Proceeds setup) main later ∧
      later.rank < main.rank := by
  by_cases halts : main.Halts
  · rcases halts with ⟨pc, through⟩ | ⟨pc | pc, idle⟩ | pc
    · obtain ⟨input, ok, needsWait, goesOn⟩ :=
        Rosbag.exists_goesOn setup.settings main.player orderly.active
          main.node.rclcppOk false
      have sees : main.Sees input := ⟨ok, by rw [needsWait]; nofun⟩
      obtain ⟨later, proceeds, ⟨spins, same⟩ | moved⟩ :=
        exists_plays setup sees pc
      · exact ⟨later, .single proceeds,
          rank_lt_of_place same pc spins (by simp [MainPc.place])⟩
      · exact ⟨later, .single proceeds,
          rank_lt_of_player through goesOn moved⟩
    · rw [pc] at stands
      obtain ⟨called, calls⟩ := stands
      have running : ¬ main.player.Finished := by
        rintro ⟨stopped, through⟩
        simp [callsSpinSome, through] at calls
      obtain ⟨input, ok, needsWait, goesOn⟩ :=
        Rosbag.exists_goesOn setup.settings main.player orderly.active
          true true
      exact ⟨_, .single ⟨.spunSome input pc idle ok needsWait, rfl,
          fun _ => rfl⟩, rank_lt_of_player running goesOn rfl⟩
    · have stays := orderly.spins pc
      -- only a signal ends the spinning
      have interrupted : Proceeds setup main
          (main.withNode { main.node with rclcppOk := false }) :=
        ⟨.interrupt, rfl, by simp [stays]⟩
      refine ⟨_, .tail (.single interrupted)
        ⟨.spun pc idle rfl, rfl, by simp [stays]⟩, ?_⟩
      exact rank_lt_of_place rfl pc rfl (by simp [MainPc.place])
    · exact (running pc).elim
  · obtain ⟨later, proceeds, same, lower⟩ :=
      exists_leaves setup admits returned halts
    exact ⟨later, .single proceeds, rank_lt_of_place same rfl rfl lower⟩

/-- From every reachable state `main` can come to the exit. -/
theorem reaches_exit (fresh : glimRos.Fresh)
    (reachable :
      (rosbagSystem setup
        (RosbagMain.start bags startOffset glimRos)).Reachable main) :
    ∃ last, Relation.ReflTransGen (Proceeds setup) main last ∧
      (rosbagSystem setup
        (RosbagMain.start bags startOffset glimRos)).Reachable last ∧
      last.pc = .exited := by
  have progress : ∀ current : RosbagMain glim Module,
      (rosbagSystem setup
        (RosbagMain.start bags startOffset glimRos)).Reachable current →
      current.pc ≠ .exited →
      ∃ later,
        (proceedingSystem setup main).Steps current later ∧
        (rosbagSystem setup
          (RosbagMain.start bags startOffset glimRos)).Reachable later ∧
        later.rank < current.rank := by
    intro current reachable running
    obtain ⟨node, callback, admits, returned⟩ :=
      exists_returned fresh reachable
    have back := proceeds_reachable reachable callback
    obtain ⟨later, proceeds, lower⟩ :=
      exists_lower (reachable_orderly back) (reachable_follows back).1.stands
        admits returned running
    have steps := callback.trans proceeds
    exact ⟨later, steps, proceeds_reachable reachable steps, lower⟩
  exact (proceedingSystem setup main).can_finish _ RosbagMain.rank _ progress
    reachable

/-- What a run without live messages keeps. -/
theorem proceeds_keep
    (steps : Relation.ReflTransGen (Proceeds setup) main next) :
    next.live = main.live ∧
      (setup.autoQuit = true →
        next.node.rclcppOk = main.node.rclcppOk) := by
  induction steps with
  | refl => exact ⟨rfl, fun _ => rfl⟩
  | tail _ proceeds induction =>
      obtain ⟨live, ok⟩ := induction
      exact ⟨proceeds.live.trans live,
        fun quits => (proceeds.ok quits).trans (ok quits)⟩

/-- At the exit the bags were played out, unless ROS was shut down. -/
theorem playedOut_of_exited
    (reachable :
      (rosbagSystem setup
        (RosbagMain.start bags startOffset glimRos)).Reachable main)
    (exited : main.pc = .exited) (up : main.node.rclcppOk = true) :
    main.PlayedOut := by
  have stands := (reachable_follows reachable).1.stands
  rw [exited] at stands
  obtain ⟨stopped, through⟩ := stands
  cases stopped with
  | false => exact .inl through
  | true => exact .inr ⟨through, up⟩

/-- From every reachable state of `glim_rosbag`, some continuation without
another live message returns from every callback and comes to the exit.  If
`main` was told to quit, it needs no signal for that, and with ROS up the bags
were played out then. -/
theorem rosbag_can_finish (fresh : glimRos.Fresh)
    (reachable :
      (rosbagSystem setup
        (RosbagMain.start bags startOffset glimRos)).Reachable main) :
    ∃ last,
      (rosbagSystem setup
        (RosbagMain.start bags startOffset glimRos)).Steps main last ∧
      last.pc = .exited ∧ last.live = main.live ∧
      (setup.autoQuit = true → main.node.rclcppOk = true →
        last.node.rclcppOk = true ∧ last.PlayedOut) := by
  obtain ⟨last, steps, ends, exited⟩ := reaches_exit fresh reachable
  obtain ⟨live, ok⟩ := proceeds_keep steps
  have weakened := Relation.ReflTransGen.mono
    (fun _ _ (proceeds : Proceeds setup _ _) => proceeds.step) _ _ steps
  refine ⟨last, weakened, exited, live, fun quits up => ?_⟩
  have stillUp := (ok quits).trans up
  exact ⟨stillUp, playedOut_of_exited ends exited stillUp⟩

/-- If it was told to quit, `main` can leave without a signal and without a
live message. -/
theorem exists_exit (setup : RosbagSetup glim) (fresh : glimRos.Fresh)
    (quits : setup.autoQuit = true) (bags : List Bag) (startOffset : Rat) :
    ∃ last,
      (rosbagSystem setup
        (RosbagMain.start bags startOffset glimRos)).Reachable last ∧
      last.pc = .exited ∧ last.live = [] ∧ last.PlayedOut := by
  obtain ⟨last, steps, ends, exited⟩ := reaches_exit fresh
    (.init rfl : (rosbagSystem setup
      (RosbagMain.start bags startOffset glimRos)).Reachable _)
  obtain ⟨live, ok⟩ := proceeds_keep steps
  exact ⟨last, ends, exited, live,
    playedOut_of_exited ends exited ((ok quits).trans fresh.up)⟩

end Steps

/-! ## Sample programs -/

def oneImuBag : Bag :=
  Rosbag.splitBag
    [{ topicName := "imu"
       recvTimestamp := 1000000000
       stampSec := 1
       stampNanosec := 0 }]

/-- The message of the sample bag as it is read. -/
def imuRead : Rosbag.Read :=
  { message :=
      { topicName := "imu"
        recvTimestamp := 1000000000
        stampSec := 1
        stampNanosec := 0 }
    topicType := "sensor_msgs/msg/Imu" }

/-- Every message of a topic has the same data. -/
def sampleDecoder : Decoder numberedGlim :=
  { imu := fun _ => levelImu
    points := fun _ => { frameId := "lidar", data := (0 : Nat) }
    image := fun _ =>
      { frameId := "camera", sec := 1, nanosec := 0, data := (0 : Nat) } }

def quittingSetup : RosbagSetup numberedGlim :=
  { config := defaultNodeConfig
    settings := Rosbag.splitSettings
    decode := sampleDecoder.decode
    autoQuit := true
    dumpPath := "/tmp/map" }

/-- A node with all stages and one module, which dumps on unload. -/
def dumpingNode : LoadedNode numberedGlim String :=
  { node := Node.start numberedGlim .empty 1 () true true
    extensionModules := ["librviz_viewer.so"]
    dumpOnUnload := true
    dump := [] }

theorem dumpingNode_fresh : dumpingNode.Fresh :=
  ⟨⟨_, _, _, _, _, rfl⟩, rfl⟩

/-- A node with odometry alone. -/
def odometryNode : LoadedNode numberedGlim Empty :=
  { node := Node.start numberedGlim .empty 1 () false false
    extensionModules := []
    dumpOnUnload := false
    dump := [] }

theorem odometryNode_fresh : odometryNode.Fresh :=
  ⟨⟨_, _, _, _, _, rfl⟩, rfl⟩

/-- A machine with one module, which subscribes to the IMU topic, and a bag
with two IMU messages. -/
def loggingCall : RosbagCall numberedGlim String :=
  { installation :=
      { packageShareDirectory := fun _ => some "/share"
        config := fun _ _ =>
          { paramBool := fun _ _ => none
            paramDouble := fun _ _ => none
            paramString := fun _ name =>
              [("imu_topic", "/imu"), ("points_topic", "/points"),
                ("image_topic", "/image")].lookup name
            paramStrings := fun _ _ => some ["liblogger.so"] }
        metaConfig := fun _ => .empty
        newTimeKeeper := ()
        loadOdometryEstimation := fun _ => true
        loadSubMapping := fun _ => true
        loadGlobalMapping := fun _ => true
        loadExtension := some
        createSubscriptions := fun _ => ["/imu"] }
    options :=
      { boolParameter := fun name =>
          some (name == "auto_quit" || name == "dump_on_unload")
        doubleParameter := fun _ => none
        stringParameter := fun name =>
          if name = "dump_path" then some "/tmp/map" else none }
    decoder := sampleDecoder
    args := ["drive"]
    given := List.cons_ne_nil _ _
    glob := fun pattern => [pattern]
    disk := fun _ =>
      { messages := [⟨"/imu", 1000000000, 1, 0⟩, ⟨"/imu", 2000000000, 2, 0⟩]
        topicsAndTypes := [("/imu", "sensor_msgs/msg/Imu")] }
    isTerminal := true }

theorem rosbag_can_finish_quitting :
    ∃ last,
      (rosbagSystem quittingSetup
        (RosbagMain.start [oneImuBag] 0 dumpingNode)).Steps
          (RosbagMain.start [oneImuBag] 0 dumpingNode) last ∧
      last.pc = .exited ∧ last.PlayedOut := by
  obtain ⟨last, steps, exited, _, quits⟩ := rosbag_can_finish
    dumpingNode_fresh
    (.init rfl : (rosbagSystem quittingSetup
      (RosbagMain.start [oneImuBag] 0 dumpingNode)).Reachable _)
  exact ⟨last, steps, exited, (quits rfl rfl).2⟩

end GlimRos.Executable
