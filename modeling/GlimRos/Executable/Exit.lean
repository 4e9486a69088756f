import GlimRos.Executable.Completion
import GlimRos.Node.AtRest

/-!
# What `glim_rosbag` leaves behind

`main` waits, saves and destroys the node, which waits and saves once more if
it dumps on unload.  Whenever sub mapping exists or global mapping does not,
nothing is left in the pipeline by then, and both dumps hold the same map.
-/

namespace GlimRos.Executable

open Transition

open Rosbag (Bag)

variable {K : Type} {glim : Glim K} {Module : Type}

/-- The calls of `save`. -/
def savedTo (path : String) (globalMapping : Option (GlobalMappingStage glim))
    (extensionModules : List Module) : List (DumpCall glim Module) :=
  globalMapping.toList.map (.saveGlobalMapping path) ++
    extensionModules.map fun extModule => .atExit extModule path

theorem save_dump (loaded : LoadedNode glim Module) (path : String) :
    (loaded.save path).dump =
      loaded.dump ++
        savedTo path loaded.node.globalMapping loaded.extensionModules := by
  cases present : loaded.node.globalMapping <;>
    simp [LoadedNode.save, savedTo, present]

/-- `main` has saved, and `wait` has returned before that. -/
@[simp] def MainPc.hasSaved : MainPc → Bool
  | .saved | .unload | .exited => true
  | _ => false

/-- The destructor has cleared the extension modules. -/
@[simp] def MainPc.hasCleared : MainPc → Bool
  | .unload | .exited => true
  | _ => false

/-- What was dumped when `main` is at a place, with the stage that global
mapping is by then. -/
def MainPc.dumped (pc : MainPc) (path : String)
    (loaded : LoadedNode glim Module)
    (globalMapping : Option (GlobalMappingStage glim)) :
    List (DumpCall glim Module) :=
  match pc with
  | .saved | .unload => savedTo path globalMapping loaded.extensionModules
  | .exited =>
      savedTo path globalMapping loaded.extensionModules ++
        if loaded.dumpOnUnload then savedTo GlimRos.dumpPath globalMapping []
        else []
  | _ => []

/-- What `main` has done to the node that was loaded. -/
structure Ends (setup : RosbagSetup glim) (loaded : LoadedNode glim Module)
    (main : RosbagMain glim Module) : Prop where
  extensionModules : main.glimRos.extensionModules =
    if main.pc.hasCleared then [] else loaded.extensionModules
  dumpOnUnload : main.glimRos.dumpOnUnload = loaded.dumpOnUnload
  unloads : main.pc = .unload → loaded.dumpOnUnload = true
  rest : main.pc.hasSaved = true → main.node.AtRest
  dump : main.glimRos.dump =
    main.pc.dumped setup.dumpPath loaded main.node.globalMapping

variable {setup : RosbagSetup glim} {loaded : LoadedNode glim Module}
  {main next : RosbagMain glim Module}

/-- A step before `main` has saved, to a place before that. -/
theorem Ends.before (ends : Ends setup loaded main)
    (early : main.pc.hasSaved = false) (stillEarly : next.pc.hasSaved = false)
    (extensionModules :
      next.glimRos.extensionModules = main.glimRos.extensionModules)
    (dumpOnUnload : next.glimRos.dumpOnUnload = main.glimRos.dumpOnUnload)
    (dump : next.glimRos.dump = main.glimRos.dump) :
    Ends setup loaded next := by
  obtain ⟨sameModules, sameDumps, _, _, dumped⟩ := ends
  have uncleared (pc : MainPc) (unsaved : pc.hasSaved = false) :
      pc.hasCleared = false := by
    cases pc <;> simp_all
  have nothing (pc : MainPc) (unsaved : pc.hasSaved = false)
      (globalMapping : Option (GlobalMappingStage glim)) :
      pc.dumped setup.dumpPath loaded globalMapping = [] := by
    cases pc <;> simp_all [MainPc.dumped]
  constructor
  · rw [extensionModules, sameModules, uncleared _ early,
      uncleared _ stillEarly]
  · exact dumpOnUnload.trans sameDumps
  · intro unload
    rw [unload] at stillEarly
    cases stillEarly
  · intro hasSaved
    cases stillEarly.symm.trans hasSaved
  · rw [dump, dumped, nothing _ early, nothing _ stillEarly]

/-- A step of the node in the second `wait`, or after everything. -/
theorem Ends.within (ends : Ends setup loaded main)
    {node : Node glim} (same : main.node.SameStages node)
    (waiting : main.pc.hasSaved = true → node.pc.Waiting) :
    Ends setup loaded (main.withNode node) := by
  obtain ⟨sameModules, sameDumps, unloads, rest, dumped⟩ := ends
  refine ⟨sameModules, sameDumps, unloads, ?_, ?_⟩
  · exact fun hasSaved => (rest hasSaved).congr same (waiting hasSaved)
  · exact dumped.trans (by rw [← same.globalMapping]; rfl)

/-- The step that returns from the first `save`. -/
theorem Ends.save (ends : Ends setup loaded main) (pc : main.pc = .wait)
    (rest : main.node.AtRest) :
    Ends setup loaded
      { main with
        glimRos := main.glimRos.save setup.dumpPath
        pc := .saved } := by
  obtain ⟨sameModules, sameDumps, _, _, dumped⟩ := ends
  rw [pc] at sameModules dumped
  refine ⟨sameModules, sameDumps, nofun, fun _ => rest, ?_⟩
  simp only [save_dump, dumped, sameModules]
  rfl

theorem Ends.destroy (ends : Ends setup loaded main) (pc : main.pc = .saved) :
    Ends setup loaded
      { main with
        glimRos :=
          { main.glimRos with
            extensionModules := []
            node :=
              if main.glimRos.dumpOnUnload then
                { main.node with pc := .joinOdometry true }
              else main.node }
        pc := if main.glimRos.dumpOnUnload then .unload else .exited } := by
  obtain ⟨_, sameDumps, _, rest, dumped⟩ := ends
  rw [pc] at rest dumped
  have atRest := rest rfl
  cases dumps : main.glimRos.dumpOnUnload with
  | false =>
      refine ⟨rfl, sameDumps, nofun, fun _ => atRest, ?_⟩
      rw [dumps] at sameDumps
      simp [dumped, MainPc.dumped, ← sameDumps]
      rfl
  | true =>
      refine ⟨rfl, sameDumps, fun _ => sameDumps.symm.trans dumps, ?_, dumped⟩
      exact fun _ => atRest.congr ⟨rfl, rfl, rfl⟩ trivial

/-- The step that returns from the `save` of the destructor. -/
theorem Ends.unload (ends : Ends setup loaded main) (pc : main.pc = .unload) :
    Ends setup loaded
      { main with
        glimRos := main.glimRos.save GlimRos.dumpPath
        pc := .exited } := by
  obtain ⟨sameModules, sameDumps, unloads, rest, dumped⟩ := ends
  rw [pc] at sameModules rest dumped
  refine ⟨sameModules, sameDumps, nofun, fun _ => rest rfl, ?_⟩
  simp only [save_dump, dumped, sameModules, MainPc.dumped, unloads pc]
  rfl

section Runs

variable [Field K] [LinearOrder K]

theorem rosbagStep_ends (ends : Ends setup loaded main)
    (phases : main.node.Phases) (intact : main.node.Sealed)
    (joins : main.node.subMapping.isSome ∨ main.node.globalMapping = none)
    (step : RosbagStep setup main next) : Ends setup loaded next := by
  cases step with
  | plays input pc sees direct quiet =>
      exact ends.before (by rw [pc]; rfl) (by rw [pc]; rfl) rfl rfl rfl
  | callsSpinSome input pc sees calls =>
      exact ends.before (by rw [pc]; rfl) rfl rfl rfl rfl
  | spunSome input pc idle ok needsWait =>
      exact ends.before (by rw [pc]; rfl) rfl rfl rfl rfl
  | hands input pc sees here continues =>
      exact ends.before (by rw [pc]; rfl) rfl rfl rfl rfl
  | handsLast input pc sees here last =>
      exact ends.before (by rw [pc]; rfl) rfl rfl rfl rfl
  | delivers pc idle modulesOk said =>
      exact ends.before (by rw [pc]; rfl) rfl rfl rfl rfl
  | returns pc idle =>
      refine ends.before ?_ rfl rfl rfl rfl
      rcases pc with pc | pc <;> rw [pc] <;> rfl
  | receives spinning message =>
      have early : main.pc.hasSaved = false := by
        rcases spinning.1 with pc | pc <;> rw [pc] <;> rfl
      exact ends.before early early rfl rfl rfl
  | timerFires spinning modulesOk said =>
      have early : main.pc.hasSaved = false := by
        rcases spinning.1 with pc | pc <;> rw [pc] <;> rfl
      exact ends.before early early rfl rfl rfl
  | @statement modulesOk said node advanced =>
      cases early : main.pc.hasSaved with
      | false => exact ends.before early early rfl rfl rfl
      | true =>
          obtain ⟨same, waiting⟩ := statement_atRest
            (advance_statement advanced) phases (ends.rest early)
          exact ends.within same fun _ => waiting
  | works works =>
      cases early : main.pc.hasSaved with
      | false => exact ends.before early early rfl rfl rfl
      | true => cases (ends.rest early).no_work works
  | interrupt =>
      exact ends.within ⟨rfl, rfl, rfl⟩ fun hasSaved =>
        (ends.rest hasSaved).waiting
  | quits pc through autoQuit =>
      exact ends.before (by rw [pc]; rfl) rfl rfl rfl rfl
  | spins pc through stays =>
      exact ends.before (by rw [pc]; rfl) rfl rfl rfl rfl
  | spun pc idle down =>
      exact ends.before (by rw [pc]; rfl) rfl rfl rfl rfl
  | saves pc waited =>
      exact ends.save pc (atRest_of_waited phases intact joins waited)
  | destroys pc => exact ends.destroy pc
  | unloads pc waited => exact ends.unload pc

/-- The destroyed modules stay destroyed. -/
theorem rosbagStep_cleared (step : RosbagStep setup main next)
    (cleared : main.pc.hasCleared = true) : next.pc.hasCleared = true := by
  cases step with
  | returns pc idle => rcases pc with pc | pc <;> simp [pc] at cleared
  | receives spinning message =>
      rcases spinning.1 with pc | pc <;> simp [pc] at cleared
  | timerFires spinning modulesOk said =>
      rcases spinning.1 with pc | pc <;> simp [pc] at cleared
  | statement | works | interrupt => exact cleared
  | unloads => rfl
  | _ => simp_all

/-! ## Every run -/

variable {bags : List Bag} {startOffset : Rat}

theorem reachable_ends (fresh : loaded.Fresh)
    (joins : loaded.node.subMapping.isSome ∨
      loaded.node.globalMapping = none)
    (reachable :
      (rosbagSystem setup
        (RosbagMain.start bags startOffset loaded)).Reachable main) :
    Ends setup loaded main := by
  refine reachable.invariant (Ends setup loaded) ?_ ?_
  · rintro _ rfl
    exact ⟨rfl, rfl, nofun, nofun, fresh.dump⟩
  · intro current later reachable ends step
    have received := (reachable_coupled fresh reachable).received
    obtain ⟨phases, intact⟩ :=
      reachable_joins fresh.idle fresh.unjoined received.reachable
    obtain ⟨subMapping, globalMapping⟩ :=
      reachable_stages received.reachable
    refine rosbagStep_ends ends phases intact ?_ step
    rw [subMapping]
    refine joins.imp_right fun missing => ?_
    rw [missing] at globalMapping
    exact Option.isNone_iff_eq_none.mp (by simpa using globalMapping)

/-- The loop of `wait` over the extension modules is left at once whenever
`glim_rosbag` comes to it: either `wait` was told to quit or ROS is down. -/
theorem rosbag_never_polls (fresh : loaded.Fresh)
    (reachable :
      (rosbagSystem setup
        (RosbagMain.start bags startOffset loaded)).Reachable main)
    {autoQuit : Bool} (polling : main.node.pc = .pollModules autoQuit)
    (modulesOk : Bool) :
    advance main.node modulesOk = some { main.node with pc := .waited } := by
  have coupled := reachable_coupled fresh reachable
  have leaves : (autoQuit || !main.node.rclcppOk || !modulesOk) = true := by
    cases autoQuit with
    | true => rfl
    | false =>
        have down := coupled.argument (by rw [polling]; rfl)
        simp [down]
  rw [advance, polling]
  exact if_pos leaves

/-- What a program has made of a loaded node and of the messages it got. -/
structure LeavesBehind (config : NodeConfig K) (dumpPath : String)
    (loaded : LoadedNode glim Module) (messages : List (Message glim))
    (after : LoadedNode glim Module) : Prop where
  finished : after.node.Finished
  dump : after.dump =
    savedTo dumpPath after.node.globalMapping loaded.extensionModules ++
      (if loaded.dumpOnUnload then
        savedTo GlimRos.dumpPath after.node.globalMapping []
      else [])
  globalMapping :
    after.node.globalMapping.isSome = loaded.node.globalMapping.isSome
  complete : ∀ globalMapping, after.node.globalMapping = some globalMapping →
    MapComplete after.node globalMapping
  handled :
    (frontEndTransducer glim config).run loaded.node.frontEnd messages =
      (after.node.frontEnd, after.node.odometryEstimation.inserted)

theorem leavesBehind_of_exited (fresh : loaded.Fresh)
    (joins : loaded.node.subMapping.isSome ∨
      loaded.node.globalMapping = none)
    (reachable :
      (rosbagSystem setup
        (RosbagMain.start bags startOffset loaded)).Reachable main)
    (exited : main.pc = .exited) :
    LeavesBehind setup.config setup.dumpPath loaded
      (main.arrivals.map Arrival.message) main.glimRos := by
  have coupled := reachable_coupled fresh reachable
  obtain ⟨_, _, _, rest, dumped⟩ := reachable_ends fresh joins reachable
  have waited : main.node.pc = .waited := by
    have admits := coupled.admits
    rw [exited] at admits
    exact admits
  rw [exited] at rest dumped
  have atRest := rest rfl
  have handled := reachable_handled fresh reachable
  rw [Node.odometryInputs, waited] at handled
  exact
    { finished := atRest.finished
      dump := dumped
      globalMapping := (reachable_stages coupled.received.reachable).2
      complete := fun _ present =>
        coupled.received.mapComplete fresh.node joins atRest waited present
      handled := by simpa [RosbagMain.node] using handled }

/-- In every run of `glim_rosbag` that has come to its exit, with a sub
mapping or without a global mapping, every stage has consumed everything it
was given.  What was dumped is the map and the `at_exit` of each module in
load order, and the map alone once more if the node dumps on unload; both
times the map was built from everything that arrived, every frame odometry
emitted and every submap.  Unless ROS was shut down, what arrived from the
bags is the whole recording. -/
theorem rosbag_dumps (call : RosbagCall glim Module)
    {made : GlimRosNode glim Module}
    (constructed :
      GlimRosNode.construct call.installation call.options = some made)
    (joins : made.loaded.node.subMapping.isSome ∨
      made.loaded.node.globalMapping = none)
    (reachable :
      (rosbagSystem (call.setup made)
        (RosbagMain.start call.bags call.startOffset
          made.loaded)).Reachable main)
    (exited : main.pc = .exited) :
    LeavesBehind made.config (call.setup made).dumpPath made.loaded
        (main.arrivals.map Arrival.message) main.glimRos ∧
      (main.node.rclcppOk = true →
        (main.arrivals.filter Arrival.fromBag).map Arrival.message =
          ((call.setup made).recorded call.bags call.startOffset).flatMap
            (call.setup made).messages) := by
  have fresh := GlimRosNode.construct_fresh constructed
  refine ⟨leavesBehind_of_exited fresh joins reachable exited, fun up => ?_⟩
  exact (reachable_fromBag reachable).2
    (playedOut_of_exited reachable exited up)

/-- In every run of `glim_rosbag`, where `main` has waited before: from the
moment that the destructor has destroyed the extension modules, no worker steps
any more, so none can call into one of them. -/
theorem modules_outlive_workers (fresh : loaded.Fresh)
    (joins : loaded.node.subMapping.isSome ∨
      loaded.node.globalMapping = none)
    (reachable :
      (rosbagSystem setup
        (RosbagMain.start bags startOffset loaded)).Reachable main)
    (cleared : main.pc.hasCleared = true) {later : RosbagMain glim Module}
    (steps :
      (rosbagSystem setup
        (RosbagMain.start bags startOffset loaded)).Steps main later)
    (node : Node glim) :
    later.glimRos.extensionModules = [] ∧ ¬ Works later.node node := by
  have stillCleared : later.pc.hasCleared = true :=
    steps.preserves (fun main => main.pc.hasCleared = true)
      (fun _ _ cleared step => rosbagStep_cleared step cleared) cleared
  have ends := reachable_ends fresh joins (reachable.steps steps)
  constructor
  · rw [ends.extensionModules, if_pos stillCleared]
  · apply Node.AtRest.no_work
    apply ends.rest
    cases pc : later.pc <;> simp [pc] at stillCleared ⊢

end Runs

/-- Without bags, `main` comes to the loop of `wait` and leaves it. -/
theorem rosbag_never_polls_odometry :
    ∃ main : RosbagMain numberedGlim Empty,
      main.node.pc = .pollModules true ∧
        ∀ modulesOk, advance main.node modulesOk =
          some { main.node with pc := .waited } := by
  have started : (rosbagSystem quittingSetup
      (RosbagMain.start [] 0 odometryNode)).Reachable _ := .init rfl
  have through := started.step
    (.plays (Rosbag.unattended 0) rfl ⟨rfl, nofun⟩ rfl nofun)
  have waits := through.step (.quits rfl rfl rfl)
  have joined := waits.step (.statement true nofun rfl)
  exact ⟨_, rfl, rosbag_never_polls odometryNode_fresh joined rfl⟩

/-- The map and the dump of the module are written to the path of `main`, and
the same map once more by the destructor. -/
theorem rosbag_dumps_twice :
    ∃ (main : RosbagMain numberedGlim String)
        (globalMapping : GlobalMappingStage numberedGlim),
      main.PlayedOut ∧ MapComplete main.node globalMapping ∧
        main.glimRos.dump =
          [.saveGlobalMapping "/tmp/map" globalMapping,
            .atExit "liblogger.so" "/tmp/map",
            .saveGlobalMapping "/tmp/dump" globalMapping] := by
  have constructed :
      GlimRosNode.construct loggingCall.installation loggingCall.options =
        some _ := rfl
  obtain ⟨main, reachable, exited, _, through⟩ :=
    exists_exit (loggingCall.setup _)
      (GlimRosNode.construct_fresh constructed) rfl loggingCall.bags
      loggingCall.startOffset
  obtain ⟨left, _⟩ :=
    rosbag_dumps loggingCall constructed (.inl rfl) reachable exited
  obtain ⟨globalMapping, present⟩ :=
    Option.isSome_iff_exists.mp (left.globalMapping.trans rfl)
  refine ⟨main, globalMapping, through, left.complete globalMapping present, ?_⟩
  rw [left.dump, present]
  rfl

theorem modules_outlive_workers_unloaded :
    ∃ main : RosbagMain numberedGlim String,
      main.pc = .exited ∧ ∀ node, ¬ Works main.node node := by
  obtain ⟨main, reachable, exited, _, _⟩ :=
    exists_exit quittingSetup dumpingNode_fresh rfl [oneImuBag] 0
  exact ⟨main, exited, fun node =>
    (modules_outlive_workers dumpingNode_fresh (.inl rfl) reachable
      (by rw [exited]; rfl) (.refl _ main) node).2⟩

end GlimRos.Executable
