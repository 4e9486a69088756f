import GlimRos.Viewer.FrameIds

/-!
# The broadcast edges as a forest of frames

The viewer broadcasts `map -> odom`, `odom -> base` and `imu -> lidar`.  The
base frame may be the IMU, and then needs no lookup.  Nothing asks whether
the LiDAR frame is the IMU or the base: two sensors with one frame name give
an edge from the frame to itself, and a base frame that is the LiDAR gets
two parents.
-/

namespace GlimRos.Viewer

open Rigid Transition

/-- No link leads from a frame to itself, and no frame has two parents.  A
link is a pair of a parent and a child. -/
structure Forest {Frame : Type} (links : List (Frame × Frame)) : Prop where
  noLoop : ∀ link ∈ links, link.1 ≠ link.2
  oneParent : ∀ first ∈ links, ∀ second ∈ links,
    first.2 = second.2 → first.1 = second.1

variable {K : Type} [CommRing K] {api : ViewerApi K}
  {config : ViewerConfig K}

/-- The frames that an edge links. -/
def TransformStamped.link (edge : TransformStamped K) : String × String :=
  (edge.header.frameId, edge.childFrameId)

/-- The links of all edges that a run has broadcast. -/
def RvizViewer.links (viewer : RvizViewer api) : List (String × String) :=
  viewer.published.flatMap fun batch =>
    (edges batch.outputs).map TransformStamped.link

/-- The names of the map and odometry frames differ from each other and from
all sensor and base frames. -/
structure ViewerConfig.Apart (config : ViewerConfig K) (ids : FrameIds) :
    Prop where
  mapOdom : config.mapFrameId ≠ config.odomFrameId
  map : config.mapFrameId ∉ [ids.imu, ids.lidar, ids.base]
  odom : config.odomFrameId ∉ [ids.imu, ids.lidar, ids.base]

/-- The base frame is the IMU or was found in the transform buffer. -/
def Batch.BaseKnown (batch : Batch api) : Prop :=
  batch.ids.base = batch.ids.imu ∨
    (batch.lookup batch.ids.imu batch.ids.base
      (api.fromSec batch.call.frame.stamp)).isSome

/-- The edge to the base frame is broadcast when the base is known. -/
theorem mem_odomToBase_links (batch : Batch api) (link : String × String) :
    link ∈ (odomToBase api config batch.ids batch.call
        batch.lookup).toList.map TransformStamped.link ↔
      batch.BaseKnown ∧ link = (config.odomFrameId, batch.ids.base) := by
  by_cases base : batch.ids.base = batch.ids.imu
  · simp [odomToBase, Batch.BaseKnown, base, TransformStamped.link,
      transformStamped]
  · cases found : batch.lookup batch.ids.imu batch.ids.base
        (api.fromSec batch.call.frame.stamp) with
    | none => simp [odomToBase, Batch.BaseKnown, base, found]
    | some imuBase =>
        simp [odomToBase, Batch.BaseKnown, base, found,
          TransformStamped.link, transformStamped]

/-- The links of the edges broadcast for one frame. -/
theorem mem_broadcast_links (batch : Batch api) (link : String × String) :
    link ∈ (broadcastTransforms api config batch.ids batch.call
        batch.snapshot batch.lookup).map TransformStamped.link ↔
      batch.call.corrected = false ∧
        (batch.BaseKnown ∧ link = (config.odomFrameId, batch.ids.base) ∨
          link = (config.mapFrameId, config.odomFrameId) ∨
          config.publishImu2lidar = true ∧
            link = (batch.ids.imu, batch.ids.lidar)) := by
  unfold broadcastTransforms
  cases batch.call.corrected with
  | true => simp
  | false =>
      simp only [Bool.false_eq_true, if_false, List.map_append,
        List.mem_append, mem_odomToBase_links, true_and, or_assoc]
      cases config.publishImu2lidar with
      | true =>
          simp [worldToOdom, imuToLidar, transformStamped,
            TransformStamped.link]
      | false =>
          simp [worldToOdom, transformStamped, TransformStamped.link]

variable {imu lidar base : String} {viewer : RvizViewer api}

/-- All links of a run, with the names that the viewer uses. -/
theorem NamesFrames.mem_links
    (names : NamesFrames config imu lidar base viewer)
    (link : String × String) :
    link ∈ viewer.links ↔
      ∃ batch ∈ viewer.published, batch.call.corrected = false ∧
        (batch.BaseKnown ∧ link = (config.odomFrameId, viewer.ids.base) ∨
          link = (config.mapFrameId, config.odomFrameId) ∨
          config.publishImu2lidar = true ∧
            link = (viewer.ids.imu, viewer.ids.lidar)) := by
  rw [RvizViewer.links, List.mem_flatMap]
  refine exists_congr fun batch => and_congr_right fun member => ?_
  obtain ⟨ids, outputs⟩ := names.published batch member
  rw [outputs, edges_publish, mem_broadcast_links, ids]

/-- While the LiDAR edge is broadcast, the LiDAR frame is not the IMU, and it
is not a base frame that a new frame found in the transform buffer. -/
def RvizViewer.LidarApart (viewer : RvizViewer api) : Prop :=
  ∀ batch ∈ viewer.published, batch.call.corrected = false →
    viewer.ids.lidar ≠ viewer.ids.imu ∧
      (viewer.ids.lidar = viewer.ids.base →
        batch.lookup viewer.ids.imu viewer.ids.base
          (api.fromSec batch.call.frame.stamp) = none)

/-- A LiDAR frame that is kept apart is no base frame that is known. -/
theorem RvizViewer.LidarApart.base_ne
    (names : NamesFrames config imu lidar base viewer)
    (lidarApart : viewer.LidarApart) {batch : Batch api}
    (member : batch ∈ viewer.published)
    (new : batch.call.corrected = false) (known : batch.BaseKnown) :
    viewer.ids.base ≠ viewer.ids.lidar := by
  obtain ⟨notImu, notFound⟩ := lidarApart batch member new
  have ids := (names.published batch member).1
  intro same
  rcases known with baseImu | found
  · rw [ids] at baseImu
    exact notImu (same.symm.trans baseImu)
  · rw [ids, notFound same.symm] at found
    cases found

theorem forest_of_lidarApart
    (names : NamesFrames config imu lidar base viewer)
    (apart : config.Apart viewer.ids)
    (lidarApart : config.publishImu2lidar = true → viewer.LidarApart) :
    Forest viewer.links := by
  obtain ⟨mapOdom, map, odom⟩ := apart
  simp only [List.mem_cons, List.not_mem_nil, or_false, not_or] at map odom
  constructor
  · intro link member
    obtain ⟨batch, inRun, new, kind⟩ := (names.mem_links link).mp member
    rcases kind with ⟨_, rfl⟩ | rfl | ⟨extrinsic, rfl⟩
    · exact odom.2.2
    · exact mapOdom
    · exact (lidarApart extrinsic batch inRun new).1.symm
  · intro first firstMember second secondMember sameChild
    obtain ⟨firstBatch, firstIn, firstNew, firstKind⟩ :=
      (names.mem_links first).mp firstMember
    obtain ⟨secondBatch, secondIn, secondNew, secondKind⟩ :=
      (names.mem_links second).mp secondMember
    rcases firstKind with ⟨firstKnown, rfl⟩ | rfl | ⟨firstExtrinsic, rfl⟩ <;>
      rcases secondKind with ⟨secondKnown, rfl⟩ | rfl | ⟨extrinsic, rfl⟩
    case inl.inl => rfl
    case inl.inr.inl => exact (odom.2.2 sameChild.symm).elim
    case inl.inr.inr =>
      exact ((lidarApart extrinsic).base_ne names firstIn firstNew
        firstKnown sameChild).elim
    case inr.inl.inl => exact (odom.2.2 sameChild).elim
    case inr.inl.inr.inl => rfl
    case inr.inl.inr.inr => exact (odom.2.1 sameChild).elim
    case inr.inr.inl =>
      exact ((lidarApart firstExtrinsic).base_ne names secondIn secondNew
        secondKnown sameChild.symm).elim
    case inr.inr.inr.inl => exact (odom.2.1 sameChild.symm).elim
    case inr.inr.inr.inr => rfl

theorem lidarApart_of_forest
    (names : NamesFrames config imu lidar base viewer)
    (apart : config.Apart viewer.ids) (forest : Forest viewer.links)
    (extrinsic : config.publishImu2lidar = true) : viewer.LidarApart := by
  intro batch member new
  have toLidar : (viewer.ids.imu, viewer.ids.lidar) ∈ viewer.links :=
    (names.mem_links _).mpr
      ⟨batch, member, new, .inr (.inr ⟨extrinsic, rfl⟩)⟩
  refine ⟨(forest.noLoop _ toLidar).symm, fun same => ?_⟩
  by_contra found
  have known : batch.BaseKnown := by
    right
    rw [(names.published batch member).1]
    exact Option.isSome_iff_ne_none.mpr found
  have toBase : (config.odomFrameId, viewer.ids.base) ∈ viewer.links :=
    (names.mem_links _).mpr ⟨batch, member, new, .inl ⟨known, rfl⟩⟩
  have parents : config.odomFrameId = viewer.ids.imu :=
    forest.oneParent _ toBase _ toLidar same.symm
  exact apart.odom (by simp [parents])

/-- In every run with map and odometry frames of their own, the broadcast
edges form a forest exactly when the edge to the LiDAR is not broadcast, or
the LiDAR frame is kept apart from the IMU and from a base frame that is
found. -/
theorem broadcast_forest_iff (api : ViewerApi K) (config : ViewerConfig K)
    (imu lidar base : String) (metaConfig : MetaConfig) (now : Int)
    {viewer : RvizViewer api}
    (reachable :
      (viewerSystem api config
        (RvizViewer.start api (FrameIds.configured imu lidar base)
          metaConfig now)).Reachable viewer)
    (apart : config.Apart viewer.ids) :
    Forest viewer.links ↔
      (config.publishImu2lidar = true →
        ∀ batch ∈ viewer.published, batch.call.corrected = false →
          viewer.ids.lidar ≠ viewer.ids.imu ∧
            (viewer.ids.lidar = viewer.ids.base →
              batch.lookup viewer.ids.imu viewer.ids.base
                (api.fromSec batch.call.frame.stamp) = none)) := by
  have names :=
    reachable_namesFrames imu lidar base metaConfig now reachable
  exact ⟨lidarApart_of_forest names apart, forest_of_lidarApart names apart⟩

/-- Nothing is configured or detected, and the built-in names are used. -/
theorem broadcast_forest_builtIn :
    Forest (afterFrame realConfig realStart (scan 0 1) (fun _ => true)
      (fun _ _ _ => none)).links := by
  have reachable :=
    reachable_afterFrame realStart_reachable rfl (scan 0 1)
      (fun _ => true) (fun _ _ _ => none)
  have apart : realConfig.Apart ⟨"imu", "lidar", "imu"⟩ :=
    ⟨by decide, by decide, by decide⟩
  apply (broadcast_forest_iff realApi realConfig "" "" "" _ _ reachable
    apart).mpr
  intro _ batch member _
  cases List.mem_singleton.mp member
  exact ⟨by decide, fun _ => rfl⟩

/-- An IMU and a LiDAR that stamp their messages with one frame name: the
first frame broadcasts an edge from that frame to itself. -/
theorem broadcast_loop_of_shared_frame :
    ∃ viewer : RvizViewer realApi,
      (viewerSystem realApi realConfig realStart).Reachable viewer ∧
        viewer.ids.imu = "livox_frame" ∧
        viewer.ids.lidar = "livox_frame" ∧
        realConfig.Apart viewer.ids ∧ ¬ Forest viewer.links := by
  have detected := realStart_reachable.step
    (ViewerStep.detect
      { imuFrameId := some "livox_frame"
        lidarFrameId := some "livox_frame"
        imageFrame := none })
  have reachable :=
    reachable_afterFrame detected rfl (scan 0 1) (fun _ => true)
      (fun _ _ _ => none)
  have apart :
      realConfig.Apart ⟨"livox_frame", "livox_frame", "livox_frame"⟩ :=
    ⟨by decide, by decide, by decide⟩
  refine ⟨_, reachable, by decide, by decide, apart, fun forest => ?_⟩
  have names := reachable_namesFrames "" "" "" _ _ reachable
  have lidarApart := lidarApart_of_forest names apart forest rfl _
    (List.mem_singleton.mpr rfl) rfl
  exact lidarApart.1 (by decide)

end GlimRos.Viewer
