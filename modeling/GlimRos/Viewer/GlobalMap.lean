import GlimRos.Viewer.Basic

/-!
# `RvizViewer::globalmap_on_update_submaps` and its task

The callback updates the anchor and captures the newest submap frame and all
submap poses in a task.  The task appends the frame to the submaps of the
viewer thread and, now and then, merges their points.  Reading past the poses
or writing past the storage is undefined, as is the callback on an empty
list.
-/

namespace GlimRos.Viewer

open Rigid

variable {K : Type} [CommRing K]

/-- What the lambda given to `invoke` captures. -/
structure MapTask (K : Type) [CommRing K] where
  latestFrame : Shared (PointCloud K)
  submapPoses : List (Isometry3d K)

/-- The callback up to `invoke`: the trajectory afterwards and the task. -/
def globalmapOnUpdateSubmaps (api : ViewerApi K)
    (submaps : List (SubMap K)) (trajectory : api.TrajectoryManager) :
    Option (api.TrajectoryManager × MapTask K) := do
  let latest ← submaps.getLast?
  let stampEndpointR ← latest.odomStamps.getLast?
  some
    (api.updateAnchor trajectory stampEndpointR
        (latest.tWorldOrigin * latest.tOriginEndpointR),
      { latestFrame := latest.frame
        submapPoses := submaps.map SubMap.tWorldOrigin })

/-! ## Merging -/

/-- `submap->size()`. -/
def Shared.size (frame : Shared (PointCloud K)) : Nat :=
  frame.object.points.length

/-- The conversion of a sum to `int`. -/
def toInt (value : Int) : Int :=
  value.bmod (2 ^ 32)

/-- The loop that computes `total_num_points`. -/
def totalNumPoints (submaps : List (Shared (PointCloud K))) : Int :=
  submaps.foldl (fun total submap => toInt (total + submap.size)) 0

/-- `std::transform` of the points of a submap to `merged->points + begin`.
The pose is read for every point, so not at all for an empty submap. -/
def transformInto (submapPose : Option (Isometry3d K))
    (points : List (Vector4d K)) (begin : Int)
    (storage : List (Vector4d K)) : Option (List (Vector4d K)) :=
  if points = [] then some storage
  else
    match submapPose with
    | none => none
    | some transform =>
        if 0 ≤ begin ∧ begin + points.length ≤ storage.length then
          some
            (storage.take begin.toNat ++
              points.map (fun point => transform • point) ++
              storage.drop (begin.toNat + points.length))
        else none

/-- The loop over the submaps from index `i` on. -/
def mergeFrom (submapPoses : List (Isometry3d K)) :
    List (Shared (PointCloud K)) → Nat → Int → List (Vector4d K) →
    Option (List (Vector4d K))
  | [], _, _, storage => some storage
  | submap :: submaps, i, begin, storage =>
      match transformInto submapPoses[i]? submap.object.points begin storage
        with
      | none => none
      | some storage =>
          mergeFrom submapPoses submaps (i + 1) (toInt (begin + submap.size))
            storage

/-- The points of `merged`.  A negative size makes `resize` throw. -/
def mergeSubmaps (api : ViewerApi K)
    (submaps : List (Shared (PointCloud K)))
    (submapPoses : List (Isometry3d K)) : Option (List (Vector4d K)) :=
  if totalNumPoints submaps < 0 then none
  else
    mergeFrom submapPoses submaps 0 0
      (List.replicate (totalNumPoints submaps).toNat api.uninitialized)

/-! ## The task -/

inductive TaskOutcome (api : ViewerApi K) where
  /-- No subscriber, or less than ten seconds since the last map. -/
  | returned
  | undefined
  | published (message : api.PointCloud2)

def TaskOutcome.isUndefined {api : ViewerApi K} :
    TaskOutcome api → Bool
  | .undefined => true
  | .returned | .published _ => false

/-- A task that ran, with the stored submaps it saw. -/
structure TaskRun (api : ViewerApi K) where
  task : MapTask K
  submaps : List (Shared (PointCloud K))
  outcome : TaskOutcome api

/-- The task on the viewer thread: what it did and the new
`last_globalmap_pub_time`, in nanoseconds. -/
def runTask (api : ViewerApi K) (config : ViewerConfig K)
    (subscribed : Bool) (now lastGlobalmapPubTime : Int)
    (stored : List (Shared (PointCloud K))) (task : MapTask K) :
    TaskRun api × Int :=
  let submaps := stored ++ [task.latestFrame]
  if !subscribed then
    ({ task, submaps, outcome := .returned }, lastGlobalmapPubTime)
  else if now - lastGlobalmapPubTime < 10000000000 then
    ({ task, submaps, outcome := .returned }, lastGlobalmapPubTime)
  else
    match mergeSubmaps api submaps task.submapPoses with
    | none => ({ task, submaps, outcome := .undefined }, now)
    | some points =>
        ({ task
           submaps
           outcome :=
            .published
              (api.frameToPointcloud2 config.mapFrameId (api.seconds now)
                { points := points
                  times := none
                  intensities := none }) },
          now)

end GlimRos.Viewer
