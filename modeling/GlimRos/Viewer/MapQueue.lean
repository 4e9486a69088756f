import GlimRos.Library.Channel
import GlimRos.Library.History
import GlimRos.Viewer.Merge
import GlimRos.Viewer.RealApi

/-!
# The queue of map tasks

The mapping thread captures the poses of a notification in a task, and the
viewer thread stores one frame per task.  The queue between them is a
first-in first-out channel, so the task that runs after `n` others belongs to
the notification that came after `n` others.  Poses and frames are aligned
exactly when every notification so far brought one new submap.
-/

namespace GlimRos.Viewer

open Rigid Transition History

variable {K : Type} [CommRing K] {api : ViewerApi K}
  {config : ViewerConfig K}

/-! ## Tasks of notifications -/

/-- What the lambda of a notification captures. -/
def MapTask.capture (submaps : List (SubMap K)) : Option (MapTask K) :=
  submaps.getLast?.map fun latest =>
    { latestFrame := latest.frame
      submapPoses := submaps.map SubMap.tWorldOrigin }

theorem capture_of_update {submaps : List (SubMap K)}
    {trajectory later : api.TrajectoryManager} {task : MapTask K}
    (captured :
      globalmapOnUpdateSubmaps api submaps trajectory =
        some (later, task)) :
    MapTask.capture submaps = some task := by
  unfold globalmapOnUpdateSubmaps at captured
  cases newest : submaps.getLast? with
  | none => simp [newest] at captured
  | some latest =>
      cases endpoint : latest.odomStamps.getLast? with
      | none => simp [newest, endpoint] at captured
      | some stamp =>
          simp only [newest, endpoint, Option.bind_eq_bind,
            Option.bind_some, Option.some.injEq, Prod.mk.injEq] at captured
          rw [MapTask.capture, newest, Option.map_some, captured.2]

theorem capture_poses {submaps : List (SubMap K)} {task : MapTask K}
    (captured : MapTask.capture submaps = some task) :
    task.submapPoses = submaps.map SubMap.tWorldOrigin := by
  obtain ⟨latest, _, rfl⟩ := Option.map_eq_some_iff.mp captured
  rfl

theorem capture_latestFrame (submaps : List (SubMap K)) :
    (MapTask.capture submaps).map MapTask.latestFrame =
      (submaps.map SubMap.frame).getLast? := by
  rw [MapTask.capture, Option.map_map, List.getLast?_map]
  rfl

/-! ## Runs of tasks -/

/-- What a run made of the submaps it saw. -/
structure TaskRun.Merges (config : ViewerConfig K) (run : TaskRun api) :
    Prop where
  undefined : run.outcome = .undefined →
    mergeSubmaps api run.submaps run.task.submapPoses = none
  published : ∀ message, run.outcome = .published message →
    ∃ points stamp,
      mergeSubmaps api run.submaps run.task.submapPoses = some points ∧
        message =
          api.frameToPointcloud2 config.mapFrameId stamp
            { points := points
              times := none
              intensities := none }

theorem runTask_spec {subscribed : Bool} {now lastGlobalmapPubTime : Int}
    {stored : List (Shared (PointCloud K))} {task : MapTask K}
    {taskRun : TaskRun api} {pubTime : Int}
    (result :
      runTask api config subscribed now lastGlobalmapPubTime stored task =
        (taskRun, pubTime)) :
    taskRun.task = task ∧
      taskRun.submaps = stored ++ [task.latestFrame] ∧
      taskRun.Merges config := by
  unfold runTask at result
  dsimp only at result
  split at result
  · cases result
    exact ⟨rfl, rfl, nofun, nofun⟩
  · split at result
    · cases result
      exact ⟨rfl, rfl, nofun, nofun⟩
    · split at result
      next failed =>
        cases result
        exact ⟨rfl, rfl, fun _ => failed, nofun⟩
      next points merged =>
        cases result
        refine ⟨rfl, rfl, nofun, ?_⟩
        intro message sent
        cases sent
        exact ⟨points, _, merged, rfl⟩

/-- A run whose submaps can be merged ends well, and publishes nothing but the
merged points. -/
theorem TaskRun.Merges.cloud {run : TaskRun api}
    (merges : run.Merges config) (exactClouds : api.ExactClouds)
    {points : List (Vector4d K)}
    (merged :
      mergeSubmaps api run.submaps run.task.submapPoses = some points) :
    run.outcome ≠ .undefined ∧
      ∀ message, run.outcome = .published message →
        api.points message = points ∧
        api.headerFrameId message = config.mapFrameId := by
  constructor
  · intro undefined
    have failed := merges.undefined undefined
    rw [merged] at failed
    cases failed
  · intro message sent
    obtain ⟨found, stamp, same, rfl⟩ := merges.published message sent
    rw [merged] at same
    cases same
    obtain ⟨frameId, kept⟩ :=
      exactClouds config.mapFrameId stamp
        { points := points
          times := none
          intensities := none }
    exact ⟨kept, frameId⟩

/-! ## The queue is a channel -/

/-- Notifications send their tasks, and running a task receives it.  In
between a task is about to be invoked, in the queue or taken from it. -/
def CarriesTasks (viewer : RvizViewer api)
    (channel : Channel (MapTask K)) : Prop :=
  ∃ tasks, viewer.notified.map MapTask.capture = tasks.map some ∧
    channel.Carries tasks (viewer.runs.map TaskRun.task)
      (viewer.taken ++ viewer.invokeQueue ++ viewer.mappingPc.toList)

theorem step_carriesTasks {viewer next : RvizViewer api}
    {channel : Channel (MapTask K)}
    (carries : CarriesTasks viewer channel)
    (step : ViewerStep api config viewer next) :
    ∃ later, Channel.system.Steps channel later ∧
      CarriesTasks next later := by
  obtain ⟨tasks, captures, queue⟩ := carries
  cases step with
  | detect metaConfig =>
      exact ⟨channel, .refl _ _, tasks, captures, queue⟩
  | newFrame call pc =>
      exact ⟨channel, .refl _ _, tasks, captures, queue⟩
  | lock pc =>
      exact ⟨channel, .refl _ _, tasks, captures, queue⟩
  | publish pc subscribed lookup =>
      exact ⟨channel, .refl _ _, tasks, captures, queue⟩
  | @notify submaps pc trajectory task captured =>
      have last :
          viewer.taken ++ viewer.invokeQueue ++ [task] =
            viewer.taken ++ viewer.invokeQueue ++
              viewer.mappingPc.toList ++ [task] := by
        rw [pc, Option.toList_none, List.append_nil]
      obtain ⟨later, steps, sent⟩ := queue.sends task rfl rfl last
      refine ⟨later, steps, tasks ++ [task], ?_, sent⟩
      rw [List.map_append, List.map_append, captures, List.map_singleton,
        List.map_singleton, capture_of_update captured]
  | @invoke task pc =>
      have queued :
          viewer.taken ++ (viewer.invokeQueue ++ [task]) ++ [] =
            viewer.taken ++ viewer.invokeQueue ++
              viewer.mappingPc.toList := by
        rw [pc, Option.toList_some, List.append_nil, List.append_assoc]
      obtain ⟨later, steps, same⟩ := queue.stutter rfl rfl queued
      exact ⟨later, steps, tasks, captures, same⟩
  | spinOnce running finished =>
      have swapped :
          viewer.invokeQueue ++ [] ++ viewer.mappingPc.toList =
            viewer.taken ++ viewer.invokeQueue ++
              viewer.mappingPc.toList := by
        rw [finished, List.nil_append, List.append_nil]
      obtain ⟨later, steps, same⟩ := queue.stutter rfl rfl swapped
      exact ⟨later, steps, tasks, captures, same⟩
  | @runTask task rest running taken subscribed now taskRun pubTime result =>
      obtain ⟨sameTask, _, _⟩ := runTask_spec result
      have ran : (viewer.runs ++ [taskRun]).map TaskRun.task =
          viewer.runs.map TaskRun.task ++ [task] := by
        rw [List.map_append, List.map_singleton, sameTask]
      have oldest :
          viewer.taken ++ viewer.invokeQueue ++ viewer.mappingPc.toList =
            task ::
              (rest ++ viewer.invokeQueue ++ viewer.mappingPc.toList) := by
        rw [taken, List.cons_append, List.cons_append]
      obtain ⟨later, steps, received⟩ := queue.receives task rfl ran oldest
      exact ⟨later, steps, tasks, captures, received⟩

/-- The map tasks of the viewer refine the channel. -/
def taskSimulation (config : ViewerConfig K) (ids : FrameIds)
    (metaConfig : MetaConfig) (now : Int) :
    Simulation
      (viewerSystem api config (RvizViewer.start api ids metaConfig now))
      (Channel.system : System (Channel (MapTask K))) :=
  { Related := CarriesTasks
    init := by
      rintro viewer rfl
      exact ⟨Channel.empty, rfl, [], rfl, rfl, rfl, rfl⟩
    step := step_carriesTasks }

/-! ## What a run saw -/

/-- The viewer thread stores the frame of every task that ran, and each run
saw the frames up to its own. -/
structure RunsInOrder (config : ViewerConfig K) (viewer : RvizViewer api) :
    Prop where
  stored : viewer.submaps = viewer.runs.map fun run => run.task.latestFrame
  saw : Lawful
    (fun before run =>
      run.submaps = (before ++ [run]).map fun run => run.task.latestFrame)
    viewer.runs
  merges : ∀ run ∈ viewer.runs, run.Merges config

theorem step_runsInOrder {viewer next : RvizViewer api}
    (inOrder : RunsInOrder config viewer)
    (step : ViewerStep api config viewer next) :
    RunsInOrder config next := by
  obtain ⟨stored, saw, merges⟩ := inOrder
  cases step with
  | detect | newFrame | lock | publish | notify | invoke | spinOnce =>
      exact ⟨stored, saw, merges⟩
  | @runTask task rest running taken subscribed now taskRun pubTime result =>
      obtain ⟨sameTask, sawAll, merged⟩ := runTask_spec result
      have order : taskRun.submaps =
          (viewer.runs ++ [taskRun]).map fun run => run.task.latestFrame := by
        rw [sawAll, stored, List.map_append, List.map_singleton, sameTask]
      refine ⟨order, saw.concat order, ?_⟩
      intro run member
      rcases List.mem_append.mp member with earlier | newest
      · exact merges run earlier
      · rw [List.mem_singleton.mp newest]
        exact merged

theorem reachable_runsInOrder (ids : FrameIds) (metaConfig : MetaConfig)
    (now : Int) {viewer : RvizViewer api}
    (reachable :
      (viewerSystem api config
        (RvizViewer.start api ids metaConfig now)).Reachable viewer) :
    RunsInOrder config viewer := by
  apply reachable.invariant (RunsInOrder config)
  · rintro _ rfl
    exact ⟨rfl, Lawful.nil, nofun⟩
  · intro current next _ inOrder step
    exact step_runsInOrder inOrder step

/-- The notification that a run belongs to: as many notifications came before
it as runs before the run, and its task is the one that ran. -/
structure RunOf (viewer : RvizViewer api) (before : List (TaskRun api))
    (run : TaskRun api) (submaps : List (SubMap K)) : Prop where
  turn : viewer.notified[before.length]? = some submaps
  captured : MapTask.capture submaps = some run.task

/-- A run sees the newest submap of every notification up to its own. -/
theorem run_notification (ids : FrameIds) (metaConfig : MetaConfig)
    (now : Int) {viewer : RvizViewer api}
    (reachable :
      (viewerSystem api config
        (RvizViewer.start api ids metaConfig now)).Reachable viewer)
    {before after : List (TaskRun api)} {run : TaskRun api}
    (split : viewer.runs = before ++ run :: after) :
    ∃ earlier submaps later,
      viewer.notified = earlier ++ submaps :: later ∧
      earlier.length = before.length ∧ RunOf viewer before run submaps ∧
      run.submaps.map some =
        ((earlier ++ [submaps]).map (List.map SubMap.frame)).map
          List.getLast? := by
  have inOrder := reachable_runsInOrder ids metaConfig now reachable
  obtain ⟨channel, _, tasks, captures, queue⟩ :=
    (taskSimulation config ids metaConfig now).reachable reachable
  -- what ran, then this run, then what is still to run
  have order : viewer.notified.map MapTask.capture =
      (before.map TaskRun.task).map some ++ some run.task ::
        (after.map TaskRun.task ++
          (viewer.taken ++ viewer.invokeQueue ++
            viewer.mappingPc.toList)).map some := by
    rw [captures, ← queue.accounted, split]
    simp
  obtain ⟨earlier, others, places, ofBefore, ofOthers⟩ :=
    List.map_eq_append_iff.mp order
  obtain ⟨submaps, later, rfl, captured, _⟩ :=
    List.map_eq_cons_iff.mp ofOthers
  have turn : earlier.length = before.length := by
    simpa using congrArg List.length ofBefore
  refine ⟨earlier, submaps, later, places, turn, ⟨?_, captured⟩, ?_⟩
  · rw [places, ← turn, List.getElem?_append_right le_rfl, Nat.sub_self]
    rfl
  · have upTo : (earlier ++ [submaps]).map MapTask.capture =
        ((before ++ [run]).map TaskRun.task).map some := by
      rw [List.map_append, ofBefore, List.map_singleton, captured]
      simp
    calc
      run.submaps.map some =
          (((before ++ [run]).map TaskRun.task).map some).map
            (Option.map MapTask.latestFrame) := by
        rw [inOrder.saw before run after split]
        simp
      _ = ((earlier ++ [submaps]).map MapTask.capture).map
            (Option.map MapTask.latestFrame) := by
        rw [upTo]
      _ = ((earlier ++ [submaps]).map (List.map SubMap.frame)).map
            List.getLast? := by
        rw [List.map_map, List.map_map]
        apply List.map_congr_left
        intro list _
        exact capture_latestFrame list

end GlimRos.Viewer
