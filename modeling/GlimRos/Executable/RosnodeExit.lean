import GlimRos.Executable.Rosnode
import GlimRos.Executable.Termination

/-!
# `glim_rosnode` comes to its exit

A run of `glim_rosnode` is what is left of a run of `glim_rosbag` without
bags after its last bag, and the clock of that run may tick with every step.
So the node exits once ROS is shut down, and leaves the whole map behind.
-/

namespace GlimRos.Executable

open Transition

open Rosbag (Callback Read Settings)

variable {K : Type} {glim : Glim K} {Module : Type}

section Steps

variable [Field K] [LinearOrder K] {setup : RosnodeSetup glim}
  {settings : Settings} {decode : Read → Callback → Message glim}
  {main next : RosnodeMain glim Module} {loaded : LoadedNode glim Module}
  {run : Nat → RosnodeMain glim Module}

/-- The thread of `main` leaves its place. -/
structure RosnodeActs (setup : RosnodeSetup glim)
    (main next : RosnodeMain glim Module) : Prop where
  step : RosnodeStep setup main next
  moves : next.pc ≠ main.pc

/-- The running callback or a worker of the node gets on. -/
structure RosnodeNodeActs (party : Party)
    (main next : RosnodeMain glim Module) : Prop where
  acts : party.Acts main.node next.node
  alone : next = main.withNode next.node

omit [Field K] [LinearOrder K] in
/-- After the last bag, no condition of the loops over the bags is read. -/
theorem asRosbag_not_evaluates :
    ¬ Evaluates main.asRosbag next.asRosbag := by
  rintro (moved | ⟨spins, _⟩)
  · exact moved rfl
  · cases here : main.pc <;>
      simp [RosnodeMain.asRosbag, RosnodePc.asRosbag, here] at spins

/-- `main` of `glim_rosbag` after the last bag, with a clock that ticks. -/
def RosnodeMain.timed (main : RosnodeMain glim Module) (now : Int) :
    TimedMain glim Module :=
  { main := main.asRosbag
    now := now }

theorem rosnodeStep_timed (step : RosnodeStep setup main next)
    (now later : Int) :
    TimedStep (setup.asRosbag settings decode) (main.timed now)
      (next.timed later) :=
  .steps (rosnodeStep_rosbag step)
    fun evaluates => (asRosbag_not_evaluates evaluates).elim

theorem rosnodeActs_timed (acts : RosnodeActs setup main next)
    (now later : Int) :
    MainActs (setup.asRosbag settings decode) (main.timed now)
      (next.timed later) :=
  { step := rosnodeStep_timed acts.step now later
    moves := .inl fun same =>
      acts.moves ((asRosbag_pc main.pc).mp
        (same.trans ((asRosbag_pc main.pc).mpr rfl))) }

theorem timed_rosnodeActs {now : Int} {image : TimedMain glim Module}
    (acts : MainActs (setup.asRosbag settings decode) (main.timed now)
      image) : ∃ next, RosnodeActs setup main next := by
  obtain ⟨step, moves | ⟨playing, _⟩⟩ := acts
  · rcases step with passes | ⟨step, _⟩
    · exact (moves (congrArg RosbagMain.pc passes)).elim
    · obtain ⟨next, step, same⟩ := rosbagStep_rosnode step
      refine ⟨next, step, fun stays => moves ?_⟩
      rw [same]
      exact congrArg RosnodePc.asRosbag stays
  · cases here : main.pc <;>
      simp [RosnodeMain.timed, RosnodeMain.asRosbag, RosnodePc.asRosbag,
        here] at playing

/-- The image of a fair run of `glim_rosnode` is attended. -/
theorem asRosbag_attended (main : StronglyFair (RosnodeActs setup) run)
    (node : ∀ party : Party, WeaklyFair (RosnodeNodeActs party) run) :
    Attended (setup.asRosbag settings decode)
      fun index => (run index).timed index := by
  refine ⟨main.map ?_ ?_, fun party => (node party).map ?_ ?_, ?_, ?_⟩
  · exact fun index next acts => timed_rosnodeActs acts
  · exact fun index acts => rosnodeActs_timed acts _ _
  · intro index next acts
    exact ⟨(run index).withNode next.main.node, acts.acts, rfl⟩
  · rintro index ⟨acts, alone⟩
    exact ⟨acts, congrArg RosnodeMain.asRosbag alone⟩
  · intro bound
    refine ⟨bound.toNat, fun later after => ?_⟩
    change bound ≤ (later : Int)
    omega
  · exact fun index => ⟨index, le_rfl, .inl rfl⟩

/-- `glim_rosbag` with a clock comes to spin the node at any time. -/
theorem timed_start (fresh : loaded.Fresh) {now : Int} :
    (timedSystem (setup.asRosbag settings decode)
      (RosbagMain.start [] 0 loaded)).Reachable
      ((RosnodeMain.start loaded).timed now) := by
  obtain ⟨image, reached, same⟩ :=
    (clockRefinement (setup.asRosbag settings decode) _).reachable
      (asRosbag_start fresh)
  exact reached.step (.passes same.symm)

/-- A run of `glim_rosnode` is what is left of one of `glim_rosbag`. -/
theorem exists_rosbag_run (fresh : loaded.Fresh)
    (runs : (rosnodeSystem setup (RosnodeMain.start loaded)).Runs run) :
    ∃ whole offset,
      (timedSystem (setup.asRosbag settings decode)
        (RosbagMain.start [] 0 loaded)).Runs whole ∧
      ∀ index, whole (offset + index) = (run index).timed index := by
  have start : (timedSystem (setup.asRosbag settings decode)
      (RosbagMain.start [] 0 loaded)).Reachable
      ((RosnodeMain.start loaded).timed 0) := timed_start fresh
  refine start.exists_runs_before ?_ fun index => .inr ?_
  · rw [runs.init]
    rfl
  · rcases runs.step index with same | step
    · exact .passes (congrArg RosnodeMain.asRosbag same)
    · exact rosnodeStep_timed step _ _

/-- In every run of `glim_rosnode` in which the threads get their turns, with
a sub mapping or without a global mapping: once ROS is down, `main` comes to
its exit, out of whichever callback is running, and leaves behind what the
messages it received make of the node. -/
theorem rosnode_exits (fresh : loaded.Fresh)
    (joins : loaded.node.subMapping.isSome ∨
      loaded.node.globalMapping = none)
    (runs : (rosnodeSystem setup (RosnodeMain.start loaded)).Runs run)
    (main : StronglyFair (RosnodeActs setup) run)
    (node : ∀ party : Party, WeaklyFair (RosnodeNodeActs party) run)
    (down : ∃ index, (run index).node.rclcppOk = false) :
    ∃ index, (run index).pc = .exited ∧
      LeavesBehind setup.config setup.dumpPath loaded (run index).messages
        (run index).glimRos := by
  have attended : Attended
      (setup.asRosbag Rosbag.splitSettings undecoded)
      fun index => (run index).timed index := asRosbag_attended main node
  obtain ⟨whole, offset, wholeRuns, same⟩ := exists_rosbag_run fresh runs
  have goesDown : ∃ index, (whole index).main.node.rclcppOk = false := by
    obtain ⟨index, down⟩ := down
    refine ⟨offset + index, ?_⟩
    rw [same]
    exact down
  obtain ⟨index, exited⟩ := eventually_exited fresh wholeRuns
    (attended.of_rest same) (.inr goesDown)
  have exits := runs_exited wholeRuns (Nat.le_add_left index offset) exited
  rw [same] at exits
  have left : (run index).pc = .exited := (asRosbag_pc .exited).mp exits
  exact ⟨index, left,
    rosnode_leavesBehind fresh joins (runs.reachable index) left⟩

/-- At the exit, the thread of `main` is through and so is the node. -/
theorem rosnode_stops (exited : main.pc = .exited) :
    ¬ RosnodeActs setup main next := by
  rintro ⟨step, moves⟩
  cases step with
  | receives | timerFires | statement | works | interrupt => exact moves rfl
  | spun spinning => cases exited.symm.trans spinning.1
  | saves pc | destroys pc | unloads pc => cases exited.symm.trans pc

theorem rosnode_waited (fresh : loaded.Fresh)
    (reachable :
      (rosnodeSystem setup (RosnodeMain.start loaded)).Reachable main)
    (exited : main.pc = .exited) : main.node.pc = .waited := by
  have image : (rosbagSystem
      (setup.asRosbag Rosbag.splitSettings undecoded)
      (RosbagMain.start [] 0 loaded)).Reachable main.asRosbag :=
    asRosbag_reachable fresh reachable
  have admits := (reachable_coupled fresh image).admits
  rw [(asRosbag_pc .exited).mpr exited] at admits
  exact admits

end Steps

/-- A cloud has arrived, and the process is told to stop before its callback
has inserted it. -/
theorem rosnode_exits_interrupted :
    ∃ (run : Nat → RosnodeMain numberedGlim String) (index later : Nat),
      (run index).node.pc = .insertFrame (1 : Nat) ∧
        (run index).node.rclcppOk = false ∧
        (run later).pc = .exited ∧
        (run later).node.Finished := by
  have started : (rosnodeSystem ⟨defaultNodeConfig, "/tmp/map"⟩
      (RosnodeMain.start dumpingNode)).Reachable _ := .init rfl
  have received := started.step (.receives ⟨rfl, rfl⟩
    (.points { frameId := "lidar", data := (1 : Nat) }))
  have interrupted := received.step .interrupt
  obtain ⟨last, steps, exited, _⟩ :=
    rosnode_reaches_exit dumpingNode_fresh interrupted
  have reached := interrupted.steps steps
  have waited := rosnode_waited dumpingNode_fresh reached exited
  have left := rosnode_leavesBehind dumpingNode_fresh (.inl rfl) reached exited
  obtain ⟨run, index, stop, runs, here, stops⟩ :=
    interrupted.exists_runs_through steps
  obtain ⟨later, exits, leaves⟩ := rosnode_exits dumpingNode_fresh (.inl rfl)
    runs
    (.of_stops stops fun next => rosnode_stops exited)
    (fun party => .of_stops stops fun next acts =>
      disabled_of_finished waited left.finished party _ acts.acts)
    ⟨index, by rw [here]; rfl⟩
  exact ⟨run, index, later, by rw [here]; rfl, by rw [here]; rfl, exits,
    leaves.finished⟩

end GlimRos.Executable
