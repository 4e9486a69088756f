import GlimRos.Library.Transition
import GlimRos.Viewer.GlobalMap
import GlimRos.Viewer.OdometryNewFrame

/-!
# The three threads of the viewer

The odometry thread runs `odometry_new_frame`, the mapping thread runs
`globalmap_on_update_submaps`, and the thread of the viewer runs `spin_once`
in a loop.  They interleave at the two mutexes and between the tasks.
-/

namespace GlimRos.Viewer

open Rigid Transition

variable {K : Type} [CommRing K]

/-- Where the odometry thread stands. -/
inductive OdometryPc (K : Type) [CommRing K] where
  | idle
  /-- Before `trajectory_mutex` is locked. -/
  | lock (call : Call K)
  /-- After it is released. -/
  | publish (call : Call K) (snapshot : Snapshot K)

/-- What was published for one frame, and under which circumstances. -/
structure Batch (api : ViewerApi K) where
  ids : FrameIds
  call : Call K
  snapshot : Snapshot K
  subscribed : Publisher → Bool
  lookup : String → String → Time → Option (TransformStamped K)
  outputs : List (Output api)

structure RvizViewer (api : ViewerApi K) where
  /-- The `meta` section, which other parts of the process change. -/
  metaConfig : MetaConfig
  ids : FrameIds
  trajectory : api.TrajectoryManager
  submaps : List (Shared (PointCloud K))
  invokeQueue : List (MapTask K)
  /-- The tasks that a running `spin_once` has taken and not run yet. -/
  taken : List (MapTask K)
  lastGlobalmapPubTime : Int
  odometryPc : OdometryPc K
  /-- The task that the mapping thread is about to `invoke`. -/
  mappingPc : Option (MapTask K)
  /-- The viewer thread ran into undefined behaviour. -/
  halted : Bool
  published : List (Batch api)
  /-- The lists that `on_update_submaps` was raised with. -/
  notified : List (List (SubMap K))
  runs : List (TaskRun api)

def RvizViewer.start (api : ViewerApi K) (ids : FrameIds)
    (metaConfig : MetaConfig) (now : Int) : RvizViewer api :=
  { metaConfig := metaConfig
    ids := ids
    trajectory := api.newTrajectory
    submaps := []
    invokeQueue := []
    taken := []
    lastGlobalmapPubTime := now
    odometryPc := .idle
    mappingPc := none
    halted := false
    published := []
    notified := []
    runs := [] }

/-- One atomic step of one of the threads, or a change of the `meta`
section. -/
inductive ViewerStep (api : ViewerApi K) (config : ViewerConfig K)
    (viewer : RvizViewer api) : RvizViewer api → Prop where
  | detect (metaConfig : MetaConfig) :
      ViewerStep api config viewer { viewer with metaConfig := metaConfig }
  | newFrame (call : Call K) (pc : viewer.odometryPc = .idle) :
      ViewerStep api config viewer
        { viewer with
          ids := viewer.ids.resolved viewer.metaConfig
          odometryPc := .lock call }
  | lock {call : Call K} (pc : viewer.odometryPc = .lock call) :
      ViewerStep api config viewer
        { viewer with
          trajectory :=
            (takeSnapshot api call.frame viewer.trajectory).1
          odometryPc :=
            .publish call
              (takeSnapshot api call.frame viewer.trajectory).2 }
  | publish {call : Call K} {snapshot : Snapshot K}
      (pc : viewer.odometryPc = .publish call snapshot)
      (subscribed : Publisher → Bool)
      (lookup : String → String → Time → Option (TransformStamped K)) :
      ViewerStep api config viewer
        { viewer with
          odometryPc := .idle
          published := viewer.published ++
            [{ ids := viewer.ids
               call := call
               snapshot := snapshot
               subscribed := subscribed
               lookup := lookup
               outputs :=
                Viewer.publish api config viewer.ids call snapshot subscribed
                  lookup }] }
  | notify (submaps : List (SubMap K)) (pc : viewer.mappingPc = none)
      {trajectory : api.TrajectoryManager} {task : MapTask K}
      (captured :
        globalmapOnUpdateSubmaps api submaps viewer.trajectory =
          some (trajectory, task)) :
      ViewerStep api config viewer
        { viewer with
          trajectory := trajectory
          mappingPc := some task
          notified := viewer.notified ++ [submaps] }
  | invoke {task : MapTask K} (pc : viewer.mappingPc = some task) :
      ViewerStep api config viewer
        { viewer with
          invokeQueue := viewer.invokeQueue ++ [task]
          mappingPc := none }
  | spinOnce (running : viewer.halted = false)
      (finished : viewer.taken = []) :
      ViewerStep api config viewer
        { viewer with
          invokeQueue := []
          taken := viewer.invokeQueue }
  | runTask {task : MapTask K} {rest : List (MapTask K)}
      (running : viewer.halted = false)
      (taken : viewer.taken = task :: rest)
      (subscribed : Bool) (now : Int)
      {taskRun : TaskRun api} {pubTime : Int}
      (result :
        Viewer.runTask api config subscribed now viewer.lastGlobalmapPubTime
          viewer.submaps task = (taskRun, pubTime)) :
      ViewerStep api config viewer
        { viewer with
          submaps := taskRun.submaps
          taken := rest
          lastGlobalmapPubTime := pubTime
          halted := taskRun.outcome.isUndefined
          runs := viewer.runs ++ [taskRun] }

/-- All interleavings of the three threads from a fresh viewer. -/
def viewerSystem (api : ViewerApi K) (config : ViewerConfig K)
    (start : RvizViewer api) : System (RvizViewer api) :=
  { Init := fun viewer => viewer = start
    Step := ViewerStep api config }

/-! ## What the odometry and mapping threads can always do -/

section Runs

variable {api : ViewerApi K} {config : ViewerConfig K}
  {start viewer : RvizViewer api}

/-- The batch published for a frame if no other thread steps in between. -/
def frameBatch (config : ViewerConfig K) (viewer : RvizViewer api)
    (call : Call K) (subscribed : Publisher → Bool)
    (lookup : String → String → Time → Option (TransformStamped K)) :
    Batch api :=
  let ids := viewer.ids.resolved viewer.metaConfig
  let snapshot := (takeSnapshot api call.frame viewer.trajectory).2
  { ids := ids
    call := call
    snapshot := snapshot
    subscribed := subscribed
    lookup := lookup
    outputs := publish api config ids call snapshot subscribed lookup }

/-- The viewer after such a frame. -/
def afterFrame (config : ViewerConfig K) (viewer : RvizViewer api)
    (call : Call K) (subscribed : Publisher → Bool)
    (lookup : String → String → Time → Option (TransformStamped K)) :
    RvizViewer api :=
  { viewer with
    ids := viewer.ids.resolved viewer.metaConfig
    trajectory := (takeSnapshot api call.frame viewer.trajectory).1
    odometryPc := .idle
    published := viewer.published ++
      [frameBatch config viewer call subscribed lookup] }

/-- An idle odometry thread can publish any frame. -/
theorem reachable_afterFrame
    (reachable : (viewerSystem api config start).Reachable viewer)
    (idle : viewer.odometryPc = .idle) (call : Call K)
    (subscribed : Publisher → Bool)
    (lookup : String → String → Time → Option (TransformStamped K)) :
    (viewerSystem api config start).Reachable
      (afterFrame config viewer call subscribed lookup) := by
  have called := reachable.step (ViewerStep.newFrame call idle)
  have locked := called.step (ViewerStep.lock rfl)
  exact locked.step (ViewerStep.publish rfl subscribed lookup)

/-- An idle mapping thread can be notified, and invokes its task. -/
theorem reachable_afterNotify
    (reachable : (viewerSystem api config start).Reachable viewer)
    (idle : viewer.mappingPc = none) (submaps : List (SubMap K))
    {trajectory : api.TrajectoryManager} {task : MapTask K}
    (captured :
      globalmapOnUpdateSubmaps api submaps viewer.trajectory =
        some (trajectory, task)) :
    (viewerSystem api config start).Reachable
      { viewer with
        trajectory := trajectory
        invokeQueue := viewer.invokeQueue ++ [task]
        mappingPc := none
        notified := viewer.notified ++ [submaps] } := by
  have notified := reachable.step (ViewerStep.notify submaps idle captured)
  exact notified.step (ViewerStep.invoke rfl)

/-- The viewer after a notification whose task runs at once. -/
def afterTask (config : ViewerConfig K) (viewer : RvizViewer api)
    (submaps : List (SubMap K)) (trajectory : api.TrajectoryManager)
    (task : MapTask K) (subscribed : Bool) (now : Int) : RvizViewer api :=
  let result := runTask api config subscribed now
    viewer.lastGlobalmapPubTime viewer.submaps task
  { viewer with
    trajectory := trajectory
    submaps := result.1.submaps
    invokeQueue := []
    taken := []
    lastGlobalmapPubTime := result.2
    mappingPc := none
    halted := result.1.outcome.isUndefined
    notified := viewer.notified ++ [submaps]
    runs := viewer.runs ++ [result.1] }

/-- If all tasks have run, a notification and its task can run at once. -/
theorem reachable_afterTask
    (reachable : (viewerSystem api config start).Reachable viewer)
    (idle : viewer.mappingPc = none) (running : viewer.halted = false)
    (empty : viewer.invokeQueue = []) (finished : viewer.taken = [])
    (submaps : List (SubMap K)) {trajectory : api.TrajectoryManager}
    {task : MapTask K}
    (captured :
      globalmapOnUpdateSubmaps api submaps viewer.trajectory =
        some (trajectory, task))
    (subscribed : Bool) (now : Int) :
    (viewerSystem api config start).Reachable
      (afterTask config viewer submaps trajectory task subscribed now) := by
  have invoked := reachable_afterNotify reachable idle submaps captured
  have spun := invoked.step (ViewerStep.spinOnce running finished)
  have queued : viewer.invokeQueue ++ [task] = task :: [] := by
    rw [empty, List.nil_append]
  refine spun.step (@ViewerStep.runTask _ _ _ _ _ task [] ?_ ?_ subscribed now
    _ _ ?_)
  · exact running
  · exact queued
  · rfl

end Runs

end GlimRos.Viewer
