import GlimRos.Executable.Completion
import GlimRos.Node.Backlog

/-!
# No message waits behind another

`main` runs `timer_callback` after each message.  With both mapping stages,
everything that the workers have emitted when a message is handed on has
reached the next stage before `main` reads on.
-/

namespace GlimRos.Executable

open Transition

open Rosbag (Bag Read)

variable {K : Type} {glim : Glim K} {Module : Type} [Field K] [LinearOrder K]
  {setup : RosbagSetup glim} {start : Node glim}
  {main next later : RosbagMain glim Module}

theorem handOn_node {node : Node glim} (idle : node.pc = .idle) (read : Read)
    (core : Option Rosbag.Callback) :
    setup.handOn node read core = node ∨
      NodeStep setup.config node (setup.handOn node read core) := by
  cases core with
  | none => exact .inl rfl
  | some callback => exact .inr (.receives idle _)

/-- A step of `main` is a step of its node or leaves the node alone. -/
theorem rosbagStep_node (admits : main.pc.Admits main.node.pc)
    (step : RosbagStep setup main next) :
    next.node = main.node ∨ NodeStep setup.config main.node next.node := by
  cases step with
  | @hands input pc sees read here core continues =>
      rw [pc] at admits
      exact handOn_node admits read core
  | @handsLast input pc sees read here last =>
      rw [pc] at admits
      exact handOn_node admits read (some .points)
  | delivers pc idle modulesOk said => exact .inr (.timer idle modulesOk)
  | receives spinning message =>
      exact .inr (.receives spinning.2 message)
  | timerFires spinning modulesOk said =>
      exact .inr (.timer spinning.2 modulesOk)
  | statement modulesOk said advanced =>
      exact .inr (.statement modulesOk advanced)
  | works works => exact .inr (.works works)
  | interrupt => exact .inr (.silent .shutdown)
  | quits pc through autoQuit =>
      rw [pc] at admits
      exact .inr (.wait (.inl admits) true)
  | spun pc idle down => exact .inr (.wait (.inl idle) false)
  | destroys pc =>
      rw [pc] at admits
      cases dumps : main.glimRos.dumpOnUnload with
      | false => exact .inl (by simp [RosbagMain.node])
      | true =>
          refine .inr ?_
          simpa [RosbagMain.node, dumps] using
            NodeStep.wait (.inr admits) true
  | _ => exact .inl rfl

/-- The given frames and submaps were emitted, and `main` has come to the
timer of a message, or beyond it, since then. -/
structure Passes (frames : List (Emission K glim.EstimationFrame))
    (submaps : List (Emission K glim.SubMap))
    (main : RosbagMain glim Module) : Prop where
  emittedFrames : frames <+: main.node.odometryEstimation.emitted
  emittedSubmaps : submaps <+: stageEmitted main.node.subMapping
  takes : (∃ read, main.pc = .callback read) ∨ main.node.Takes frames submaps

variable {frames : List (Emission K glim.EstimationFrame)}
  {submaps : List (Emission K glim.SubMap)}

theorem rosbagStep_passes (admits : main.pc.Admits main.node.pc)
    (enabled : main.node.MappingEnabled) (accounted : main.node.Accounted)
    (passes : Passes frames submaps main)
    (step : RosbagStep setup main next) : Passes frames submaps next := by
  obtain ⟨emittedFrames, emittedSubmaps, takes⟩ := passes
  have moved := rosbagStep_node admits step
  have kept : frames <+: next.node.odometryEstimation.emitted ∧
      submaps <+: stageEmitted next.node.subMapping := by
    rcases moved with same | nodeStep
    · rw [same]
      exact ⟨emittedFrames, emittedSubmaps⟩
    · have grows := nodeStep_grows nodeStep enabled
      exact ⟨emittedFrames.trans grows.emittedFrames,
        emittedSubmaps.trans grows.emittedSubmaps⟩
  refine ⟨kept.1, kept.2, ?_⟩
  rcases takes with ⟨read, here⟩ | takes
  · cases step with
    | delivers pc idle modulesOk said =>
        exact .inr ⟨.inl ⟨rfl, emittedFrames⟩, .inl ⟨rfl, emittedSubmaps⟩⟩
    | statement | works | interrupt => exact .inl ⟨read, here⟩
    | receives spinning message =>
        rcases spinning.1 with pc | pc <;> cases pc.symm.trans here
    | timerFires spinning modulesOk said =>
        rcases spinning.1 with pc | pc <;> cases pc.symm.trans here
    | returns pc idle =>
        rcases pc with pc | pc <;> cases pc.symm.trans here
    | plays _ pc | callsSpinSome _ pc | spunSome _ pc | hands _ pc
    | handsLast _ pc | quits pc | spins pc | spun pc | saves pc
    | destroys pc | unloads pc => cases pc.symm.trans here
  · rcases moved with same | nodeStep
    · exact .inr (same ▸ takes)
    · exact .inr (nodeStep_takes nodeStep enabled accounted takes)

variable {bags : List Bag} {startOffset : Rat}
  {glimRos : LoadedNode glim Module}

theorem reachable_mapping (fresh : glimRos.Fresh)
    (enabled : glimRos.node.MappingEnabled)
    (reachable :
      (rosbagSystem setup
        (RosbagMain.start bags startOffset glimRos)).Reachable main) :
    main.node.MappingEnabled ∧ main.node.Accounted := by
  have reached := (reachable_coupled fresh reachable).received.reachable
  obtain ⟨subMapping, globalMapping⟩ := reachable_stages reached
  refine ⟨⟨?_, ?_⟩, ?_⟩
  · exact subMapping.trans enabled.subMapping
  · exact globalMapping.trans enabled.globalMapping
  · obtain ⟨metaConfig, accScale, timeKeeper, withSub, withGlobal, started⟩ :=
      fresh.node
    rw [started] at enabled reached
    cases withSub with
    | false => cases enabled.subMapping
    | true =>
        cases withGlobal with
        | false => cases enabled.globalMapping
        | true => exact reachable_accounted reached

/-- In every run with both mapping stages, whatever the workers do meanwhile:
once `main` is back in the loops, every frame that odometry had emitted when
the callback of a message ran is in sub mapping, and every submap that sub
mapping had emitted by then is in global mapping. -/
theorem message_drains (fresh : glimRos.Fresh)
    (enabled : glimRos.node.MappingEnabled)
    (reachable :
      (rosbagSystem setup
        (RosbagMain.start bags startOffset glimRos)).Reachable main)
    {read : Read} (handed : main.pc = .callback read)
    (steps :
      (rosbagSystem setup
        (RosbagMain.start bags startOffset glimRos)).Steps main later)
    (back : later.pc = .playing) :
    main.node.odometryEstimation.emitted <+:
        stagePayloads later.node.subMapping ∧
      stageEmitted main.node.subMapping <+:
        stagePayloads later.node.globalMapping := by
  have here : Passes main.node.odometryEstimation.emitted
      (stageEmitted main.node.subMapping) main :=
    ⟨List.prefix_rfl, List.prefix_rfl, .inl ⟨read, handed⟩⟩
  obtain ⟨reached, passes⟩ := steps.preserves
    (fun current =>
      (rosbagSystem setup
        (RosbagMain.start bags startOffset glimRos)).Reachable current ∧
      Passes main.node.odometryEstimation.emitted
        (stageEmitted main.node.subMapping) current)
    (fun current next held step => by
      obtain ⟨reached, passes⟩ := held
      have admits := (reachable_coupled fresh reached).admits
      obtain ⟨currentEnabled, accounted⟩ :=
        reachable_mapping fresh enabled reached
      exact ⟨reached.step step,
        rosbagStep_passes admits currentEnabled accounted passes step⟩)
    ⟨reachable, here⟩
  have idle : later.node.pc = .idle := by
    have admits := (reachable_coupled fresh reached).admits
    rw [back] at admits
    exact admits
  obtain ⟨_, _, ⟨other, away⟩ | takes⟩ := passes
  · cases away.symm.trans back
  · obtain ⟨takesFrames, takesSubmaps⟩ := takes
    simpa [idle, Node.takenFrames, Node.takenSubmaps] using
      And.intro takesFrames takesSubmaps

/-- Odometry emits a frame while the callback of the message runs, and `main`
is back in the loops with the frame in sub mapping. -/
theorem message_drains_early :
    ∃ main later : RosbagMain numberedGlim String,
      main.node.odometryEstimation.emitted.map Emission.value =
          [(1 : Nat)] ∧
        main.node.odometryEstimation.emitted <+:
          stagePayloads later.node.subMapping ∧
        stageEmitted main.node.subMapping <+:
          stagePayloads later.node.globalMapping := by
  have started : (rosbagSystem quittingSetup
      (RosbagMain.start [oneImuBag] 0 dumpingNode)).Reachable _ := .init rfl
  have opened := started.step
    (.plays (Rosbag.unattended 0) rfl ⟨rfl, nofun⟩ rfl nofun)
  have spins := opened.step
    (.callsSpinSome (Rosbag.unattended 0) rfl ⟨rfl, nofun⟩ rfl)
  have accepted := spins.step
    (.spunSome { Rosbag.unattended 0 with needsWait := true } rfl rfl rfl rfl)
  have plays := accepted.step
    (.plays (Rosbag.unattended 0) rfl ⟨rfl, nofun⟩ rfl nofun)
  have released := plays.step
    (.plays (Rosbag.unattended 0) rfl ⟨rfl, nofun⟩ rfl nofun)
  have handed := released.step
    (@RosbagStep.hands _ _ _ _ _ _ _ (Rosbag.unattended 0) rfl ⟨rfl, nofun⟩
      imuRead (by decide +kernel) (some .imu) (by decide +kernel))
  have odometry := handed.step (.statement true nofun rfl)
  have emitted := odometry.step (.works (.odometryEmits (1 : Nat) rfl))
  have drained := message_drains dumpingNode_fresh ⟨rfl, rfl⟩ emitted rfl
    (Relation.ReflTransGen.head (.statement true nofun rfl)
      (.head (.statement true nofun rfl)
        (.head (.delivers rfl rfl true nofun)
          (.head (.statement true nofun rfl)
            (.head (.statement true nofun rfl)
              (.head (.statement true nofun rfl)
                (.head (.statement true nofun rfl)
                  (.head (.statement true nofun rfl)
                    (.single (.returns (.inl rfl) rfl)))))))))) rfl
  exact ⟨_, _, rfl, drained⟩

end GlimRos.Executable
