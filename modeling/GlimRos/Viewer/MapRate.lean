import GlimRos.Library.RateLimit
import GlimRos.Viewer.RealApi

/-!
# How often the map is published

A task publishes the map only ten seconds after the last one, counted by the
clock that it reads.  This holds over all tasks of a run, in whichever order
and batches they run and whatever the clock does.
-/

namespace GlimRos.Viewer

open RateLimit Rigid Transition

variable {K : Type} [CommRing K] {api : ViewerApi K}
  {config : ViewerConfig K}

/-- Ten seconds, in nanoseconds. -/
def mapPeriod : Int := 10000000000

def TaskRun.map? (run : TaskRun api) : Option api.PointCloud2 :=
  match run.outcome with
  | .published message => some message
  | .returned | .undefined => none

/-- The maps published so far, in order. -/
def RvizViewer.maps (viewer : RvizViewer api) : List api.PointCloud2 :=
  viewer.runs.filterMap TaskRun.map?

/-- The map as it is published at a time. -/
def MapAt (config : ViewerConfig K) (message : api.PointCloud2) (time : Int) :
    Prop :=
  ∃ points, message =
    api.frameToPointcloud2 config.mapFrameId (api.seconds time)
      { points := points
        times := none
        intensities := none }

/-- A task publishes nothing, or it publishes the map a period later. -/
theorem runTask_map {subscribed : Bool} {now lastGlobalmapPubTime : Int}
    {stored : List (Shared (PointCloud K))} {task : MapTask K}
    {taskRun : TaskRun api} {pubTime : Int}
    (result :
      runTask api config subscribed now lastGlobalmapPubTime stored task =
        (taskRun, pubTime)) :
    taskRun.map? = none ∧ lastGlobalmapPubTime ≤ pubTime ∨
      ∃ message, taskRun.map? = some message ∧
        MapAt config message pubTime ∧
        lastGlobalmapPubTime + mapPeriod ≤ pubTime := by
  unfold runTask at result
  dsimp only at result
  split at result
  · cases result
    exact .inl ⟨rfl, Int.le_refl _⟩
  · split at result
    next early =>
      cases result
      exact .inl ⟨rfl, Int.le_refl _⟩
    next due =>
      have passed : lastGlobalmapPubTime + mapPeriod ≤ now := by
        rw [mapPeriod]
        omega
      split at result
      next failed =>
        cases result
        refine .inl ⟨rfl, ?_⟩
        rw [mapPeriod] at passed
        omega
      next points merged =>
        cases result
        exact .inr ⟨_, rfl, ⟨points, rfl⟩, passed⟩

/-- The maps were published at spaced times after the start. -/
structure Paced (config : ViewerConfig K) (start : Int) (times : List Int)
    (viewer : RvizViewer api) : Prop where
  spaced : Spaced mapPeriod (start :: times)
  maps : List.Forall₂ (MapAt config) viewer.maps times
  last : times.getLastD start ≤ viewer.lastGlobalmapPubTime

theorem viewerStep_paced {start : Int} {times : List Int}
    {viewer next : RvizViewer api} (paced : Paced config start times viewer)
    (step : ViewerStep api config viewer next) :
    ∃ later, Paced config start later next := by
  obtain ⟨spaced, maps, last⟩ := paced
  cases step with
  | @runTask task rest running taken subscribed now taskRun pubTime result =>
      have runs : RvizViewer.maps
          { viewer with
            submaps := taskRun.submaps
            taken := rest
            lastGlobalmapPubTime := pubTime
            halted := taskRun.outcome.isUndefined
            runs := viewer.runs ++ [taskRun] } =
          viewer.maps ++ taskRun.map?.toList := by
        simp only [RvizViewer.maps, List.filterMap_append]
        cases published : taskRun.map? <;> simp [published]
      rcases runTask_map result with
        ⟨silent, later⟩ | ⟨message, published, here, due⟩
      · refine ⟨times, spaced, ?_, last.trans later⟩
        rw [runs, silent, Option.toList_none, List.append_nil]
        exact maps
      · refine ⟨times ++ [pubTime], spaced.concat (by omega), ?_, ?_⟩
        · rw [runs, published]
          exact List.rel_append maps (.cons here .nil)
        · rw [List.getLastD_concat]
  | _ => exact ⟨times, spaced, maps, last⟩

/-- In every run of the three threads and under every clock, even one that is
set back: the maps are published at times that are ten seconds apart at
least, from each other and from the start of the viewer, and carry these
times as their stamps.  So many maps have taken so many times ten seconds. -/
theorem maps_spaced (config : ViewerConfig K) (ids : FrameIds)
    (metaConfig : MetaConfig) (now : Int) {viewer : RvizViewer api}
    (reachable :
      (viewerSystem api config
        (RvizViewer.start api ids metaConfig now)).Reachable viewer) :
    ∃ times, Spaced mapPeriod (now :: times) ∧
      List.Forall₂ (MapAt config) viewer.maps times ∧
      now + viewer.maps.length • mapPeriod ≤ viewer.lastGlobalmapPubTime := by
  obtain ⟨times, spaced, maps, last⟩ := reachable.invariant
    (fun viewer => ∃ times, Paced config now times viewer)
    (by
      rintro _ rfl
      exact ⟨[], .singleton _ _, .nil, Int.le_refl _⟩)
    (fun _ _ _ paced step => by
      obtain ⟨times, paced⟩ := paced
      exact viewerStep_paced paced step)
  refine ⟨times, spaced, maps, ?_⟩
  rw [maps.length_eq]
  exact spaced.elapsed.trans last

/-- The task of an empty submap. -/
def emptyTask : MapTask ℝ :=
  { latestFrame := (submapAt 0 1 []).frame
    submapPoses := [1] }

theorem runTask_emptyTask :
    runTask realApi realConfig true mapPeriod 0 [] emptyTask =
      ({ task := emptyTask
         submaps := [emptyTask.latestFrame]
         outcome := .published ("map", []) },
        mapPeriod) := by
  have empty : toInt 0 = 0 := by decide
  simp [runTask, mapPeriod, mergeSubmaps, totalNumPoints, mergeFrom,
    transformInto, emptyTask, submapAt, Shared.size, empty, realApi,
    realConfig]

/-- An empty submap makes a first map after exactly ten seconds. -/
theorem maps_spaced_first :
    ∃ (viewer : RvizViewer realApi) (times : List Int),
      viewer.maps.length = 1 ∧ Spaced mapPeriod (0 :: times) ∧
        List.Forall₂ (MapAt realConfig) viewer.maps times := by
  have notified := realStart_reachable.step
    (.notify [submapAt 0 1 []] rfl rfl)
  have invoked := notified.step (.invoke rfl)
  have spun := invoked.step (.spinOnce rfl rfl)
  have ran := spun.step (.runTask rfl rfl true mapPeriod runTask_emptyTask)
  obtain ⟨times, spaced, maps, _⟩ :=
    maps_spaced realConfig (FrameIds.configured "" "" "") MetaConfig.empty 0
      ran
  exact ⟨_, times, rfl, spaced, maps⟩

end GlimRos.Viewer
