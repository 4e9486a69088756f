import GlimRos.Executable.Coupling

/-!
# What the bags give to the node and to the extensions

The player of `main` moves as it does alone.  What it has handed on is what
has arrived at the node from the bags and, but for the message whose callback
is running, what the extension subscriptions have got.
-/

namespace GlimRos.Rosbag

variable {settings : Settings} {input : Input} {player next : Player}

/-- Only a move that ends the playback depends on ROS being down. -/
theorem Move.up (move : Move settings input player next) :
    (input.ok = false ∧ next.pc = .done true) ∨
      Move settings { input with ok := true } player next := by
  cases move with
  | shutdown pc reader down => exact .inl ⟨down, rfl⟩
  | quitsPause pc down => exact .inl ⟨down, rfl⟩
  | noBagLeft pc bags => exact .inr (.noBagLeft pc bags)
  | opens pc bags => exact .inr (.opens pc bags)
  | bagEnds pc reader => exact .inr (.bagEnds pc reader)
  | seeks pc reader up offset => exact .inr (.seeks pc reader rfl offset)
  | refuses pc reader up offset refused =>
      exact .inr (.refuses pc reader rfl offset refused)
  | accepts pc reader up offset accepted =>
      exact .inr (.accepts pc reader rfl offset accepted)
  | pauses pc pressed => exact .inr (.pauses pc pressed)
  | plays pc => exact .inr (.plays pc)
  | staysPaused pc paused => exact .inr (.staysPaused pc paused)
  | resumes pc => exact .inr (.resumes pc)
  | throttles pc early => exact .inr (.throttles pc early)
  | releases pc due => exact .inr (.releases pc due)
  | mismatches pc core => exact .inr (.mismatches pc core)
  | handsLast pc core => exact .inr (.handsLast pc core)
  | hands pc core => exact .inr (.hands pc core)
  | waits pc short => exact .inr (.waits pc short)
  | waited pc => exact .inr (.waited pc)
  | stays pc => exact .inr (.stays pc)

/-- A step keeps the outcome unless it ends the playback with ROS down. -/
theorem outcome_cut (coherent : Coherent player)
    (move : Move settings input player next) :
    next.outcome settings = player.outcome settings ∨
      input.ok = false ∧ next.pc = .done true ∧
        next.outcome settings <+: player.outcome settings := by
  rcases move.up with ⟨down, through⟩ | up
  · rcases outcome_move coherent move with same | ⟨_, part⟩
    · exact .inl same
    · exact .inr ⟨down, through, part⟩
  · rcases outcome_move coherent up with same | ⟨down, _⟩
    · exact .inl same
    · cases down

/-- A playback that is over stays so. -/
theorem Move.of_done {stopped : Bool} (through : player.pc = .done stopped)
    (move : Move settings input player next) : next = player := by
  cases move <;> simp_all

/-- A step that dispatches nothing hands nothing on. -/
theorem processed_of_quiet (move : Move settings input player next)
    (quiet : ∀ read, player.pc = .dispatch read →
      coreDispatch settings read = .mismatch) :
    next.processed = player.processed := by
  rcases processed_move move with ⟨same, _⟩ | ⟨entry, _, here, dispatches⟩
  · exact same
  · have mismatch := quiet entry.read here
    rcases dispatches with ⟨past, _⟩ | ⟨continues, _⟩
    · rw [coreDispatch_eq_endTimeReached_iff.mpr past] at mismatch
      cases mismatch
    · cases continues.symm.trans mismatch

theorem step_hands {read : Read} {core : Option Callback}
    (here : player.pc = .dispatch read)
    (continues : coreDispatch settings read = .continues core) :
    (step settings input player).pc = .needsWait input.now ∧
      (step settings input player).processed =
        player.processed ++
          [{ read := read
             now := input.now
             core := core
             extensions := settings.subscriptionMap read.message.topicName }] := by
  simp [step, here, dispatch, continues, Player.processed]

theorem step_handsLast {read : Read} (here : player.pc = .dispatch read)
    (last : coreDispatch settings read = .endTimeReached) :
    (step settings input player).pc = .done true ∧
      (step settings input player).processed =
        player.processed ++
          [{ read := read
             now := input.now
             core := some .points
             extensions := [] }] := by
  simp [step, here, dispatch, last, Player.processed]

end GlimRos.Rosbag

namespace GlimRos.Executable

open Transition

open Rosbag (Bag Coherent Handed Input Player Read Settings Subscription)

variable {K : Type} {glim : Glim K} {Module : Type}

/-! ## Where the player stands -/

/-- Where the player stands while `main` is at a place. -/
def MainPc.Stands : MainPc → Player → Prop
  | .playing, _ => True
  | .spinSome, player => ∃ input, callsSpinSome player input = true
  | .callback _, player | .timer, player =>
      ∃ since, player.pc = .needsWait since
  | .lastCallback, player => player.pc = .done true
  | .spin, player | .wait, player | .saved, player | .unload, player
  | .exited, player => ∃ stopped, player.pc = .done stopped

/-- `spin_some` is never called in front of a dispatch. -/
theorem dispatch_calls_nothing {player : Player} {read : Read}
    (here : player.pc = .dispatch read) (input : Input) :
    callsSpinSome player input = false := by
  simp [callsSpinSome, here]

/-- The player keeps to its outcome, which only a shutdown can cut. -/
structure Follows (settings : Settings) (whole : List Read)
    (main : RosbagMain glim Module) : Prop where
  coherent : Coherent main.player
  outcome :
    main.player.outcome settings = whole ∨
      main.node.rclcppOk = false ∧ main.player.pc = .done true ∧
        main.player.outcome settings <+: whole
  stands : main.pc.Stands main.player

section Steps

variable [Field K] [LinearOrder K] {setup : RosbagSetup glim}
  {main next : RosbagMain glim Module} {whole : List Read}

/-- A step that leaves the player where it is. -/
theorem Follows.keep (follows : Follows setup.settings whole main)
    (step : RosbagStep setup main next) (same : next.player = main.player)
    (stands : next.pc.Stands main.player) :
    Follows setup.settings whole next := by
  obtain ⟨coherent, outcome, _⟩ := follows
  refine ⟨same ▸ coherent, ?_, same ▸ stands⟩
  rw [same]
  exact outcome.imp_right fun cut => ⟨rosbagStep_down step cut.1, cut.2⟩

/-- A step that moves the player. -/
theorem Follows.move (follows : Follows setup.settings whole main)
    (step : RosbagStep setup main next) {input : Input}
    (ok : input.ok = main.node.rclcppOk ∨ input.ok = true)
    (moved : next.player =
      Rosbag.step setup.settings input main.player)
    (stands : next.pc.Stands next.player) :
    Follows setup.settings whole next := by
  obtain ⟨coherent, outcome, _⟩ := follows
  have move := Rosbag.step_move setup.settings input main.player
  rw [← moved] at move
  refine ⟨coherent.move move, ?_, stands⟩
  rcases outcome with same | ⟨down, through, part⟩
  · rcases Rosbag.outcome_cut coherent move with kept | ⟨off, through, part⟩
    · exact .inl (kept.trans same)
    · have down : main.node.rclcppOk = false := by
        rcases ok with seen | up
        · exact seen.symm.trans off
        · cases off.symm.trans up
      exact .inr ⟨rosbagStep_down step down, through, same ▸ part⟩
  · rw [Rosbag.Move.of_done through move]
    exact .inr ⟨rosbagStep_down step down, through, part⟩

theorem rosbagStep_follows (follows : Follows setup.settings whole main)
    (step : RosbagStep setup main next) :
    Follows setup.settings whole next := by
  have stands := follows.stands
  cases step with
  | plays input pc sees direct quiet =>
      exact follows.move (.plays input pc sees direct quiet) (.inl sees.ok)
        rfl (by rw [pc]; trivial)
  | callsSpinSome input pc sees calls =>
      exact follows.keep (.callsSpinSome input pc sees calls) rfl
        ⟨input, calls⟩
  | spunSome input pc idle ok needsWait =>
      exact follows.move (.spunSome input pc idle ok needsWait) (.inr ok)
        rfl trivial
  | hands input pc sees here continues =>
      exact follows.move (.hands input pc sees here continues) (.inl sees.ok)
        rfl ⟨_, (Rosbag.step_hands here continues).1⟩
  | handsLast input pc sees here last =>
      exact follows.move (.handsLast input pc sees here last) (.inl sees.ok)
        rfl (Rosbag.step_handsLast here last).1
  | delivers pc idle modulesOk said =>
      rw [pc] at stands
      exact follows.keep (.delivers pc idle modulesOk said) rfl stands
  | returns pc idle => exact follows.keep (.returns pc idle) rfl trivial
  | receives spinning message =>
      exact follows.keep (.receives spinning message) rfl stands
  | timerFires spinning modulesOk said =>
      exact follows.keep (.timerFires spinning modulesOk said) rfl stands
  | statement modulesOk said advanced =>
      exact follows.keep (.statement modulesOk said advanced) rfl stands
  | works works => exact follows.keep (.works works) rfl stands
  | interrupt => exact follows.keep .interrupt rfl stands
  | quits pc through autoQuit =>
      exact follows.keep (.quits pc through autoQuit) rfl ⟨_, through⟩
  | spins pc through stays =>
      exact follows.keep (.spins pc through stays) rfl ⟨_, through⟩
  | spun pc idle down =>
      rw [pc] at stands
      exact follows.keep (.spun pc idle down) rfl stands
  | saves pc waited =>
      rw [pc] at stands
      exact follows.keep (.saves pc waited) rfl stands
  | destroys pc =>
      rw [pc] at stands
      refine follows.keep (.destroys pc) rfl ?_
      dsimp only
      split <;> exact stands
  | unloads pc waited =>
      rw [pc] at stands
      exact follows.keep (.unloads pc waited) rfl stands

/-! ## What was handed on -/

/-- The deliveries of the message whose core callback is running. -/
def RosbagMain.undelivered (main : RosbagMain glim Module)
    (setup : RosbagSetup glim) : List (Subscription × Read) :=
  match main.pc with
  | .callback read =>
      (setup.settings.subscriptionMap read.message.topicName).map
        fun sub => (sub, read)
  | _ => []

/-- The deliveries that an entry of the log of the player stands for. -/
def deliveries (entry : Handed) : List (Subscription × Read) :=
  entry.extensions.map fun sub => (sub, entry.read)

/-- What arrived from the bags and what was delivered is what the player has
handed on. -/
structure Accounts (setup : RosbagSetup glim) (main : RosbagMain glim Module) :
    Prop where
  arrivals : main.arrivals.filter Arrival.fromBag =
    main.player.processed.flatMap fun entry =>
      setup.arrival entry.read entry.core
  delivered : main.delivered ++ main.undelivered setup =
    main.player.processed.flatMap deliveries
  dispatches : ∀ entry ∈ main.player.processed,
    entry.Dispatches setup.settings

omit [Field K] [LinearOrder K] in
theorem arrival_fromBag (setup : RosbagSetup glim) (read : Read)
    (core : Option Rosbag.Callback) :
    (setup.arrival read core).filter Arrival.fromBag =
      setup.arrival read core := by
  cases core <;> rfl

omit [Field K] [LinearOrder K] in
/-- A step that hands nothing on. -/
theorem Accounts.keep (accounts : Accounts setup main)
    (processed : next.player.processed = main.player.processed)
    (arrivals : next.arrivals.filter Arrival.fromBag =
      main.arrivals.filter Arrival.fromBag)
    (delivered : next.delivered ++ next.undelivered setup =
      main.delivered ++ main.undelivered setup) :
    Accounts setup next := by
  obtain ⟨arrived, handed, dispatches⟩ := accounts
  rw [← processed] at arrived handed dispatches
  exact ⟨arrivals.trans arrived, delivered.trans handed, dispatches⟩

omit [Field K] [LinearOrder K] in
/-- A step that hands a message on. -/
theorem Accounts.hand (accounts : Accounts setup main) {entry : Handed}
    (settled : main.undelivered setup = [])
    (dispatches : entry.Dispatches setup.settings)
    (processed : next.player.processed = main.player.processed ++ [entry])
    (arrivals : next.arrivals =
      main.arrivals ++ setup.arrival entry.read entry.core)
    (delivered : next.delivered = main.delivered)
    (undelivered : next.undelivered setup = deliveries entry) :
    Accounts setup next := by
  obtain ⟨arrived, handed, earlier⟩ := accounts
  rw [settled, List.append_nil] at handed
  constructor
  · rw [arrivals, processed, List.filter_append, arrival_fromBag, arrived,
      List.flatMap_append, List.flatMap_singleton]
  · rw [delivered, undelivered, processed, handed, List.flatMap_append,
      List.flatMap_singleton]
  · rw [processed]
    intro other member
    rcases List.mem_append.mp member with before | last
    · exact earlier other before
    · exact List.mem_singleton.mp last ▸ dispatches

theorem rosbagStep_accounts (stands : main.pc.Stands main.player)
    (accounts : Accounts setup main) (step : RosbagStep setup main next) :
    Accounts setup next := by
  cases step with
  | plays input pc sees direct quiet =>
      have move := Rosbag.step_move setup.settings input main.player
      exact accounts.keep (Rosbag.processed_of_quiet move quiet) rfl rfl
  | callsSpinSome input pc sees calls =>
      exact accounts.keep rfl rfl (by simp [RosbagMain.undelivered, pc])
  | spunSome input pc idle ok needsWait =>
      rw [pc] at stands
      obtain ⟨called, calls⟩ := stands
      have move := Rosbag.step_move setup.settings input main.player
      have quiet := Rosbag.processed_of_quiet move fun read here => by
        rw [dispatch_calls_nothing here called] at calls
        cases calls
      exact accounts.keep quiet rfl (by simp [RosbagMain.undelivered, pc])
  | hands input pc sees here continues =>
      refine accounts.hand ?_ ?_ (Rosbag.step_hands here continues).2 rfl rfl rfl
      · simp [RosbagMain.undelivered, pc]
      · exact .inr ⟨continues, rfl⟩
  | handsLast input pc sees here last =>
      refine accounts.hand ?_ ?_ (Rosbag.step_handsLast here last).2 rfl rfl rfl
      · simp [RosbagMain.undelivered, pc]
      · exact .inl
          ⟨Rosbag.coreDispatch_eq_endTimeReached_iff.mp last, rfl, rfl⟩
  | delivers pc idle modulesOk said =>
      exact accounts.keep rfl rfl (by simp [RosbagMain.undelivered, pc])
  | returns pc idle =>
      refine accounts.keep rfl rfl ?_
      rcases pc with pc | pc <;> simp [RosbagMain.undelivered, pc]
  | receives spinning message =>
      refine accounts.keep rfl ?_ rfl
      simp [Arrival.fromBag]
  | quits pc through _ | spins pc through _ =>
      refine accounts.keep rfl rfl ?_
      simp [RosbagMain.undelivered, RosbagMain.withNode, pc]
  | spun pc idle _ =>
      refine accounts.keep rfl rfl ?_
      simp [RosbagMain.undelivered, RosbagMain.withNode, pc]
  | saves pc waited | unloads pc waited =>
      exact accounts.keep rfl rfl (by simp [RosbagMain.undelivered, pc])
  | destroys pc =>
      refine accounts.keep rfl rfl ?_
      cases dumps : main.glimRos.dumpOnUnload <;>
        simp [RosbagMain.undelivered, pc]
  | timerFires | statement | works | interrupt =>
      exact accounts.keep rfl rfl rfl

end Steps

/-! ## Whole runs -/

/-- The messages that an uninterrupted playback hands on. -/
def RosbagSetup.recorded (setup : RosbagSetup glim) (bags : List Bag)
    (startOffset : Rat) : List Read :=
  Rosbag.played setup.settings 0
    (Rosbag.timeline startOffset (bags.map setup.settings.openBag))

/-- What a message of a bag is for the node. -/
def RosbagSetup.messages (setup : RosbagSetup glim) (read : Read) :
    List (Message glim) :=
  match Rosbag.coreDispatch setup.settings read with
  | .mismatch => []
  | .endTimeReached => [setup.decode read .points]
  | .continues core => core.toList.map (setup.decode read)

/-- The loops over the bags ended, and not because ROS was shut down. -/
def RosbagMain.PlayedOut (main : RosbagMain glim Module) : Prop :=
  main.player.pc = .done false ∨
    main.player.pc = .done true ∧ main.node.rclcppOk = true

theorem Follows.playedOut {settings : Settings} {whole : List Read}
    {main : RosbagMain glim Module} (follows : Follows settings whole main)
    (through : main.PlayedOut) : main.player.processed.map Handed.read = whole := by
  have complete : main.player.outcome settings = whole := by
    rcases follows.outcome with same | ⟨down, cut, _⟩
    · exact same
    · rcases through with here | ⟨_, up⟩
      · cases here.symm.trans cut
      · cases down.symm.trans up
  rw [← complete, Player.outcome]
  rcases through with here | ⟨here, _⟩ <;> simp [Player.future, here]

theorem Follows.isPrefix {settings : Settings} {whole : List Read}
    {main : RosbagMain glim Module} (follows : Follows settings whole main) :
    main.player.processed.map Handed.read <+: whole := by
  have part : main.player.outcome settings <+: whole := by
    rcases follows.outcome with same | ⟨_, _, part⟩
    · exact same ▸ List.prefix_refl _
    · exact part
  exact (List.prefix_append _ _).trans part

theorem arrival_messages {setup : RosbagSetup glim} {entry : Handed}
    (dispatches : entry.Dispatches setup.settings) :
    (setup.arrival entry.read entry.core).map Arrival.message =
      setup.messages entry.read := by
  rcases dispatches with ⟨past, core, _⟩ | ⟨continues, _⟩
  · have last := Rosbag.coreDispatch_eq_endTimeReached_iff.mpr past
    rw [RosbagSetup.messages, last, core]
    rfl
  · rw [RosbagSetup.messages, continues, RosbagSetup.arrival, List.map_map]
    rfl

/-- The messages that arrived from the bags, by what was handed on. -/
theorem Accounts.messages {setup : RosbagSetup glim}
    {main : RosbagMain glim Module} (accounts : Accounts setup main) :
    (main.arrivals.filter Arrival.fromBag).map Arrival.message =
      (main.player.processed.map Handed.read).flatMap setup.messages := by
  rw [accounts.arrivals, List.map_flatMap, List.flatMap_map]
  apply List.flatMap_congr
  intro entry member
  exact arrival_messages (accounts.dispatches entry member)

section Runs

variable [Field K] [LinearOrder K] {setup : RosbagSetup glim}
  {bags : List Bag} {startOffset : Rat} {glimRos : LoadedNode glim Module}
  {main : RosbagMain glim Module}

theorem reachable_follows
    (reachable :
      (rosbagSystem setup
        (RosbagMain.start bags startOffset glimRos)).Reachable main) :
    Follows setup.settings (setup.recorded bags startOffset) main ∧
      Accounts setup main := by
  refine reachable.invariant
    (fun main => Follows setup.settings (setup.recorded bags startOffset) main ∧
      Accounts setup main) ?_ ?_
  · rintro _ rfl
    refine ⟨⟨Rosbag.coherent_start bags startOffset, .inl ?_, trivial⟩,
      ⟨rfl, rfl, ?_⟩⟩
    · exact Rosbag.outcome_start bags startOffset
    · intro entry member
      simp [RosbagMain.start, Player.start, Player.processed] at member
  · rintro current later _ ⟨follows, accounts⟩ step
    exact ⟨rosbagStep_follows follows step,
      rosbagStep_accounts follows.stands accounts step⟩

theorem reachable_handled (fresh : glimRos.Fresh)
    (reachable :
      (rosbagSystem setup
        (RosbagMain.start bags startOffset glimRos)).Reachable main) :
    (frontEndTransducer glim setup.config).run glimRos.node.frontEnd
        (main.arrivals.map Arrival.message) =
      (main.node.frontEnd, main.node.odometryInputs) := by
  exact (reachable_coupled fresh reachable).received.handled fresh.untouched

/-- What arrives from the bags is a beginning of the recording, and all of it
once the bags were played out. -/
theorem reachable_fromBag
    (reachable :
      (rosbagSystem setup
        (RosbagMain.start bags startOffset glimRos)).Reachable main) :
    (main.arrivals.filter Arrival.fromBag).map Arrival.message <+:
        (setup.recorded bags startOffset).flatMap setup.messages ∧
      (main.PlayedOut →
        (main.arrivals.filter Arrival.fromBag).map Arrival.message =
          (setup.recorded bags startOffset).flatMap setup.messages) := by
  obtain ⟨follows, accounts⟩ := reachable_follows reachable
  rw [accounts.messages]
  constructor
  · obtain ⟨rest, split⟩ := follows.isPrefix
    rw [← split, List.flatMap_append]
    exact List.prefix_append _ _
  · intro through
    rw [follows.playedOut through]

end Runs

end GlimRos.Executable
