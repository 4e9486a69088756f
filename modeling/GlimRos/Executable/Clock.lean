import GlimRos.Executable.Exit
import GlimRos.Node.Liveness

/-!
# `glim_rosbag` with its clock and its threads

A step of the loops over the bags reads the clock.  The thread of `main`, the
running callback and the workers act one after the other, and between two
halts of `main` somebody can always act: in the loops over the bags, in
`spin_some` and `spin` without a callback, or after the exit.
-/

namespace GlimRos.Executable

open Transition

open Rosbag (Bag Input Player)

variable {K : Type} {glim : Glim K} {Module : Type}

/-! ## The clock -/

/-- `main` at a reading of the clock. -/
structure TimedMain (glim : Glim K) (Module : Type) where
  main : RosbagMain glim Module
  now : Int

/-- A condition of the loops over the bags is evaluated. -/
def Evaluates (main next : RosbagMain glim Module) : Prop :=
  next.player ≠ main.player ∨ main.pc = .spinSome ∧ next.pc = .playing

/-- The loops over the bags go on with what the clock says. -/
def Advances (setup : RosbagSetup glim) (timed : TimedMain glim Module)
    (next : RosbagMain glim Module) : Prop :=
  ∃ input : Input, input.now = timed.now ∧
    (timed.main.pc = .playing → timed.main.Sees input) ∧
    next.player = Rosbag.step setup.settings input timed.main.player

section Steps

variable [Field K] [LinearOrder K]

/-- Time passes, or a step is made that reads the clock when the loops do. -/
inductive TimedStep (setup : RosbagSetup glim)
    (timed next : TimedMain glim Module) : Prop where
  | passes (same : next.main = timed.main)
  | steps (step : RosbagStep setup timed.main next.main)
      (reads : Evaluates timed.main next.main →
        Advances setup timed next.main)

/-- `glim_rosbag` with its clock. -/
def timedSystem (setup : RosbagSetup glim) (start : RosbagMain glim Module) :
    Transition.System (TimedMain glim Module) :=
  { Init := fun timed => timed.main = start
    Step := TimedStep setup }

/-- The thread of `main` gets on: it leaves its place, or the loops over the
bags go round. -/
structure MainActs (setup : RosbagSetup glim)
    (timed next : TimedMain glim Module) : Prop where
  step : TimedStep setup timed next
  moves : next.main.pc ≠ timed.main.pc ∨
    timed.main.pc = .playing ∧ ¬ timed.main.player.Finished ∧
      Advances setup timed next.main

/-- The running callback or a worker of the node gets on. -/
structure NodeActs (party : Party) (timed next : TimedMain glim Module) :
    Prop where
  acts : party.Acts timed.main.node next.main.node
  alone : next.main = timed.main.withNode next.main.node

/-- Surroundings in which nothing holds `main` up for ever: the threads get
their turns, the clock passes every bound for good, and no pause is endless
with ROS up. -/
structure Attended (setup : RosbagSetup glim)
    (run : Nat → TimedMain glim Module) : Prop where
  main : StronglyFair (MainActs setup) run
  node : ∀ party : Party, WeaklyFair (NodeActs party) run
  clock : ∀ bound : Int, ∃ index, ∀ later, index ≤ later →
    bound ≤ (run later).now
  unpaused : ∀ index, ∃ later, index ≤ later ∧
    ((run later).main.player.paused = false ∨
      (run later).main.node.rclcppOk = false ∨
      (run later).main.player.Finished)

variable {setup : RosbagSetup glim} {main next : RosbagMain glim Module}

/-- Only the loops themselves evaluate their conditions. -/
theorem rosbagStep_evaluates (step : RosbagStep setup main next)
    (evaluates : Evaluates main next) :
    main.pc = .playing ∧ (∃ input, main.Sees input ∧
        next.player = Rosbag.step setup.settings input main.player) ∨
      main.pc = .spinSome ∧ next.pc = .playing ∧
        ∃ input : Input,
          next.player = Rosbag.step setup.settings input main.player := by
  cases step with
  | plays input pc sees direct quiet => exact .inl ⟨pc, input, sees, rfl⟩
  | hands input pc sees here continues => exact .inl ⟨pc, input, sees, rfl⟩
  | handsLast input pc sees here last => exact .inl ⟨pc, input, sees, rfl⟩
  | spunSome input pc idle ok needsWait => exact .inr ⟨pc, rfl, input, rfl⟩
  | returns pc idle =>
      rcases evaluates with moved | ⟨spins, _⟩
      · exact (moved rfl).elim
      · rcases pc with pc | pc <;> cases pc.symm.trans spins
  | callsSpinSome input pc | delivers pc | quits pc | spins pc | spun pc
  | saves pc | destroys pc | unloads pc =>
      rcases evaluates with moved | ⟨spins, _⟩
      · exact (moved rfl).elim
      · cases pc.symm.trans spins
  | receives | timerFires | statement | works | interrupt =>
      rcases evaluates with moved | ⟨spins, playing⟩
      · exact (moved rfl).elim
      · cases spins.symm.trans playing

/-- The clock restricts no step: it can be read at any time. -/
theorem timedSteps_of_step {start : RosbagMain glim Module}
    (step : RosbagStep setup main next) (now : Int) :
    ∃ later, (timedSystem setup start).Steps ⟨main, now⟩ ⟨next, later⟩ := by
  have waits (later : Int) :
      (timedSystem setup start).Step ⟨main, now⟩ ⟨main, later⟩ := .passes rfl
  by_cases evaluates : Evaluates main next
  · rcases rosbagStep_evaluates step evaluates with
      ⟨_, input, sees, moved⟩ | ⟨spins, _, input, moved⟩
    · exact ⟨input.now, .tail (.single (waits input.now))
        (.steps step fun _ => ⟨input, rfl, fun _ => sees, moved⟩)⟩
    · refine ⟨input.now, .tail (.single (waits input.now))
        (.steps step fun _ => ⟨input, rfl, fun playing => ?_, moved⟩)⟩
      cases spins.symm.trans playing
  · exact ⟨now, .single (.steps step fun evaluates' =>
      (evaluates evaluates').elim)⟩

/-- The program with its clock refines the one without. -/
def clockSimulation (setup : RosbagSetup glim)
    (start : RosbagMain glim Module) :
    Simulation (timedSystem setup start) (rosbagSystem setup start) where
  Related timed main := timed.main = main
  init started := ⟨_, started, rfl⟩
  step := by
    rintro timed next _ rfl (same | ⟨step, _⟩)
    · exact ⟨timed.main, .refl _ _, same⟩
    · exact ⟨next.main, .single step, rfl⟩

/-- Every run of the program without a clock is one with a clock. -/
def clockRefinement (setup : RosbagSetup glim)
    (start : RosbagMain glim Module) :
    Simulation (rosbagSystem setup start) (timedSystem setup start) where
  Related main timed := timed.main = main
  init started := ⟨⟨_, 0⟩, started, rfl⟩
  step := by
    rintro main next ⟨_, now⟩ rfl step
    obtain ⟨later, steps⟩ := timedSteps_of_step step now
    exact ⟨⟨next, later⟩, steps, rfl⟩

/-- A run is attended if what is left of it after some time is. -/
theorem Attended.of_rest {whole rest : Nat → TimedMain glim Module}
    {offset : Nat} (attended : Attended setup rest)
    (same : ∀ index, whole (offset + index) = rest index) :
    Attended setup whole := by
  refine ⟨attended.main.of_rest same,
    fun party => (attended.node party).of_rest same, fun bound => ?_,
    fun index => ?_⟩
  · obtain ⟨index, past⟩ := attended.clock bound
    refine ⟨offset + index, fun later after => ?_⟩
    obtain ⟨distance, rfl⟩ :=
      Nat.exists_eq_add_of_le (show offset ≤ later by omega)
    rw [same]
    exact past distance (by omega)
  · obtain ⟨later, after, released⟩ := attended.unpaused index
    refine ⟨offset + later, by omega, ?_⟩
    rw [same]
    exact released

/-! ## Between two halts -/

theorem timedStep_acts {timed later : TimedMain glim Module}
    (step : TimedStep setup timed later) :
    (later.main.pc = timed.main.pc ∧
        later.main.player = timed.main.player) ∨
      MainActs setup timed later := by
  by_cases stays : later.main.pc = timed.main.pc
  · by_cases same : later.main.player = timed.main.player
    · exact .inl ⟨stays, same⟩
    · refine .inr ⟨step, .inr ?_⟩
      rcases step with passes | ⟨moves, reads⟩
      · exact (same (congrArg RosbagMain.player passes)).elim
      · have advances := reads (.inl same)
        rcases rosbagStep_evaluates moves (.inl same) with
          ⟨playing, _⟩ | ⟨spins, playing, _⟩
        · refine ⟨playing, ?_, advances⟩
          rintro ⟨stopped, through⟩
          obtain ⟨input, _, _, moved⟩ := advances
          exact same (moved.trans
            ((Rosbag.step_move _ _ _).of_done through))
        · rw [stays, spins] at playing
          cases playing
  · exact .inr ⟨step, .inl stays⟩

omit [Field K] [LinearOrder K] in
/-- The thread that has to act for `main` to get on. -/
def RosbagMain.awaited (main : RosbagMain glim Module) : Option Party :=
  match main.node.pc with
  | .idle | .waited => none
  | _ => some main.node.awaited

omit [Field K] [LinearOrder K] in
theorem awaited_of_returned
    (returned : main.node.pc = .idle ∨ main.node.pc = .waited) :
    main.awaited = none := by
  rcases returned with idle | waited
  · simp [RosbagMain.awaited, idle]
  · simp [RosbagMain.awaited, waited]

omit [Field K] [LinearOrder K] in
theorem awaited_of_running
    (running : ¬ (main.node.pc = .idle ∨ main.node.pc = .waited)) :
    main.awaited = some main.node.awaited := by
  unfold RosbagMain.awaited
  split <;> simp_all

omit [Field K] [LinearOrder K] in
theorem awaited_congr (same : next.node.pc = main.node.pc)
    (awaited : next.node.awaited = main.node.awaited) :
    next.awaited = main.awaited := by
  rw [RosbagMain.awaited, RosbagMain.awaited, same, awaited]

omit [Field K] [LinearOrder K] in
/-- How far `main` is from its next halt. -/
def RosbagMain.toHalt (main : RosbagMain glim Module) : Nat ×ₗ Nat ×ₗ Nat :=
  toLex (main.pc.place, main.node.workLeft)

omit [Field K] [LinearOrder K] in
theorem toHalt_lt_of_place (lower : next.pc.place < main.pc.place) :
    next.toHalt < main.toHalt := by
  rw [RosbagMain.toHalt, RosbagMain.toHalt, Prod.Lex.toLex_lt_toLex]
  exact .inl lower

omit [Field K] [LinearOrder K] in
theorem toHalt_lt_of_work (same : next.pc = main.pc)
    (lower : next.node.workLeft < main.node.workLeft) :
    next.toHalt < main.toHalt := by
  rw [RosbagMain.toHalt, RosbagMain.toHalt, same, Prod.Lex.toLex_lt_toLex]
  exact .inr ⟨rfl, lower⟩

omit [Field K] [LinearOrder K] in
theorem place_le_of_toHalt (atMost : next.toHalt ≤ main.toHalt) :
    next.pc.place ≤ main.pc.place :=
  Prod.Lex.monotone_fst _ _ atMost

/-- From one halt to the next the player stands still, and every step brings
`main` closer or keeps its place and the thread that is awaited. -/
theorem rosbagStep_between (halts : ¬ main.Halts)
    (leaves : ¬ main.node.Polls) (step : RosbagStep setup main next) :
    next.player = main.player ∧
      (next.toHalt < main.toHalt ∨
        next.toHalt = main.toHalt ∧ next.pc = main.pc ∧
          next.awaited = main.awaited) := by
  have finished (pc : main.pc = .playing) : main.player.Finished := by
    by_contra running
    exact halts (.inl ⟨pc, running⟩)
  have leavesPlace {there : RosbagMain glim Module} {here : MainPc}
      (pc : main.pc = here) (lower : there.pc.place < here.place) :
      there.toHalt < main.toHalt := toHalt_lt_of_place (pc ▸ lower)
  cases step with
  | plays input pc sees direct quiet =>
      obtain ⟨stopped, through⟩ := finished pc
      have stands := (Rosbag.step_move setup.settings input
        main.player).of_done through
      exact ⟨stands, .inr ⟨rfl, rfl, rfl⟩⟩
  | callsSpinSome input pc sees calls =>
      obtain ⟨stopped, through⟩ := finished pc
      simp [callsSpinSome, through] at calls
  | spunSome input pc idle =>
      exact (halts (.inr (.inl ⟨.inl pc, idle⟩))).elim
  | hands input pc sees here | handsLast input pc sees here =>
      obtain ⟨_, through⟩ := finished pc
      cases here.symm.trans through
  | delivers pc idle modulesOk said =>
      exact ⟨rfl, .inl (leavesPlace pc (by simp [MainPc.place]))⟩
  | returns pc idle =>
      refine ⟨rfl, .inl ?_⟩
      rcases pc with pc | pc <;> exact leavesPlace pc (by simp [MainPc.place])
  | receives spinning | timerFires spinning =>
      exact (halts (.inr (.inl spinning))).elim
  | statement modulesOk said advanced =>
      exact ⟨rfl, .inl (toHalt_lt_of_work rfl (advance_lowers leaves advanced))⟩
  | works works =>
      refine ⟨rfl, ?_⟩
      rcases works_keeps works with lower | ⟨same, awaited⟩
      · exact .inl (toHalt_lt_of_work rfl lower)
      · exact .inr ⟨congrArg (fun left => toLex (main.pc.place, left)) same,
          rfl, awaited_congr (works_pc works).1 awaited⟩
  | interrupt => exact ⟨rfl, .inr ⟨rfl, rfl, rfl⟩⟩
  | quits pc | spins pc | saves pc | unloads pc =>
      exact ⟨rfl, .inl (leavesPlace pc (by simp [MainPc.place]))⟩
  | spun pc idle => exact (halts (.inr (.inl ⟨.inr pc, idle⟩))).elim
  | destroys pc =>
      refine ⟨rfl, .inl (leavesPlace pc ?_)⟩
      dsimp only
      split <;> simp [MainPc.place]

/-- The thread of `main`, or one of those of the node. -/
def TimedActs (setup : RosbagSetup glim) :
    Option Party → TimedMain glim Module → TimedMain glim Module → Prop
  | none => MainActs setup
  | some party => NodeActs party

variable {bags : List Bag} {startOffset : Rat}
  {glimRos : LoadedNode glim Module} {run : Nat → TimedMain glim Module}

theorem reachable_main {timed : TimedMain glim Module}
    (reachable :
      (timedSystem setup
        (RosbagMain.start bags startOffset glimRos)).Reachable timed) :
    (rosbagSystem setup
      (RosbagMain.start bags startOffset glimRos)).Reachable timed.main := by
  obtain ⟨_, reached, rfl⟩ := (clockSimulation setup _).reachable reachable
  exact reached

theorem never_polls (fresh : glimRos.Fresh)
    (reachable :
      (rosbagSystem setup
        (RosbagMain.start bags startOffset glimRos)).Reachable main) :
    ¬ main.node.Polls := by
  rintro ⟨polling, up⟩
  have down := (reachable_coupled fresh reachable).argument
    (by rw [polling]; rfl)
  cases down.symm.trans up

variable {timed later : TimedMain glim Module}

/-- Between two halts, whoever is awaited can act. -/
theorem awaited_acts (fresh : glimRos.Fresh)
    (reachable :
      (rosbagSystem setup
        (RosbagMain.start bags startOffset glimRos)).Reachable timed.main)
    (halts : ¬ timed.main.Halts) :
    ∃ later, TimedActs setup timed.main.awaited timed later := by
  by_cases returned :
    timed.main.node.pc = .idle ∨ timed.main.node.pc = .waited
  · obtain ⟨later, proceeds, still, lower⟩ := exists_leaves setup
      (reachable_coupled fresh reachable).admits returned halts
    rw [awaited_of_returned returned]
    refine ⟨⟨later, timed.now⟩, .steps proceeds.step ?_, .inl ?_⟩
    · rintro (moved | ⟨spins, playing⟩)
      · exact (moved still).elim
      · rw [spins, show later.pc = .playing from playing] at lower
        simp [MainPc.place] at lower
    · intro stays
      exact lower.ne (congrArg MainPc.place stays)
  · obtain ⟨node, acts⟩ :=
      awaited_enabled (reachable_unblocked fresh reachable).backed returned
    rw [awaited_of_running returned]
    exact ⟨⟨timed.main.withNode node, timed.now⟩, acts, rfl⟩

theorem timedStep_between (halts : ¬ timed.main.Halts)
    (leaves : ¬ timed.main.node.Polls) (step : TimedStep setup timed later) :
    later.main.player = timed.main.player ∧
      (later.main.toHalt < timed.main.toHalt ∨
        later.main.toHalt = timed.main.toHalt ∧
          later.main.pc = timed.main.pc ∧
          later.main.awaited = timed.main.awaited) := by
  rcases step with passes | ⟨moves, _⟩
  · rw [passes]
    exact ⟨rfl, .inr ⟨rfl, rfl, rfl⟩⟩
  · exact rosbagStep_between halts leaves moves

theorem awaited_toHalt (halts : ¬ timed.main.Halts)
    (leaves : ¬ timed.main.node.Polls)
    (acts : TimedActs setup timed.main.awaited timed later) :
    later.main.toHalt < timed.main.toHalt := by
  by_cases returned :
    timed.main.node.pc = .idle ∨ timed.main.node.pc = .waited
  · rw [awaited_of_returned returned] at acts
    obtain ⟨step, moved | ⟨playing, running, _⟩⟩ := acts
    · rcases (timedStep_between halts leaves step).2 with lower | ⟨_, stays, _⟩
      · exact lower
      · exact (moved stays).elim
    · exact (halts (.inl ⟨playing, running⟩)).elim
  · rw [awaited_of_running returned] at acts
    obtain ⟨acts, alone⟩ := acts
    have stays : later.main.pc = timed.main.pc :=
      (congrArg RosbagMain.pc alone).trans rfl
    exact toHalt_lt_of_work stays (awaited_lowers leaves acts)

/-- `main` comes to the next halt, and the player has not moved by then. -/
theorem comes_to_halt (fresh : glimRos.Fresh)
    (runs :
      (timedSystem setup
        (RosbagMain.start bags startOffset glimRos)).Runs run)
    (attended : Attended setup run) (index : Nat) :
    ∃ later, index ≤ later ∧ (run later).main.Halts ∧
      (run later).main.player = (run index).main.player ∧
      (run later).main.toHalt ≤ (run index).main.toHalt := by
  have fair : ∀ party, WeaklyFair (TimedActs setup party) run := by
    rintro (_ | party)
    · exact attended.main.weaklyFair
    · exact attended.node party
  apply leads_of_fair fair runs
    (fun timed =>
      (timedSystem setup
        (RosbagMain.start bags startOffset glimRos)).Reachable timed ∧
      timed.main.player = (run index).main.player ∧
      timed.main.toHalt ≤ (run index).main.toHalt)
    (fun timed => timed.main.Halts ∧
      timed.main.player = (run index).main.player ∧
      timed.main.toHalt ≤ (run index).main.toHalt)
    (fun timed => timed.main.toHalt) (fun timed => timed.main.awaited)
  · rintro timed ⟨reachable, same, within⟩ going
    exact awaited_acts fresh (reachable_main reachable)
      fun halts => going ⟨halts, same, within⟩
  · rintro timed next ⟨reachable, same, within⟩ going step
    have leaves := never_polls fresh (reachable_main reachable)
    obtain ⟨still, progress⟩ := timedStep_between
      (fun halts => going ⟨halts, same, within⟩) leaves step
    have atMost : next.main.toHalt ≤ timed.main.toHalt := by
      rcases progress with lower | ⟨level, _⟩
      · exact lower.le
      · exact level.le
    exact .inr
      ⟨⟨reachable.step step, still.trans same, atMost.trans within⟩,
        progress.imp_right fun level => ⟨level.1, level.2.2⟩⟩
  · rintro timed next ⟨reachable, same, within⟩ going acts
    have leaves := never_polls fresh (reachable_main reachable)
    exact .inr (awaited_toHalt
      (fun halts => going ⟨halts, same, within⟩) leaves acts)
  · exact ⟨runs.reachable index, rfl, le_rfl⟩

end Steps

end GlimRos.Executable
