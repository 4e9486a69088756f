import GlimRos.Viewer.LidarEdges

/-!
# The aligned points against the map frame

`T_world_sensor` moves points to the frame in which odometry works, and the
result is published under the name of the map frame.  The two frames coincide
until the first anchor update moves `T_world_odom` away from the identity.
-/

namespace GlimRos.Viewer

open Rigid Transition

variable {K : Type} [CommRing K] {api : ViewerApi K}
  {config : ViewerConfig K} {batch : Batch api}

/-- The pose of the IMU or, for LiDAR points, of the LiDAR in the odometry
frame. -/
def tOdomSensor (frame : EstimationFrame K) : Isometry3d K :=
  match frame.frameId with
  | .lidar => frame.tWorldImu * frame.tLidarImu⁻¹
  | .imu | .world => frame.tWorldImu

theorem tWorldSensor_eq (exact : api.ExactSensor) (frame : EstimationFrame K)
    (sensor : frame.frameId ≠ .world) :
    api.tWorldSensor frame = tOdomSensor frame := by
  obtain ⟨inLidar, inImu⟩ := exact frame
  unfold tOdomSensor
  split
  next frameId => exact inLidar frameId
  next frameId => exact inImu frameId
  next frameId => exact (sensor frameId).elim

/-- The aligned cloud of a batch is its point cloud carried into the map
frame. -/
def AlignedInMap (batch : Batch api) : Prop :=
  ∀ aligned,
    .points { topic := .alignedPoints, corrected := batch.call.corrected }
        aligned ∈ batch.outputs →
    api.points aligned =
      batch.call.frame.frame.points.map fun point =>
        batch.snapshot.tWorldOdom • tOdomSensor batch.call.frame • point

theorem Recorded.points_iff (recorded : Recorded api config batch)
    (topic : Topic) (cloud : api.PointCloud2) :
    .points { topic := topic, corrected := batch.call.corrected } cloud ∈
        batch.outputs ↔
      batch.subscribed { topic := topic, corrected := batch.call.corrected } =
          true ∧
        .points { topic := topic, corrected := batch.call.corrected } cloud =
          messageOn api config batch.ids batch.call batch.snapshot topic :=
  recorded.mem_outputs_iff rfl

/-- A cloud on `points` holds the points of the frame. -/
theorem Recorded.points_eq (recorded : Recorded api config batch)
    (exact : api.ExactClouds) {cloud : api.PointCloud2}
    (published : .points
      { topic := .points, corrected := batch.call.corrected } cloud ∈
        batch.outputs) :
    api.points cloud = batch.call.frame.frame.points := by
  have message := ((recorded.points_iff .points cloud).mp published).2
  cases message
  exact (exact _ _ _).2

/-- A cloud on `aligned_points` is named after the map frame and holds the
points of the frame, carried by `T_world_sensor`. -/
theorem Recorded.alignedPoints_eq (recorded : Recorded api config batch)
    (exact : api.ExactClouds) {aligned : api.PointCloud2}
    (published : .points
      { topic := .alignedPoints, corrected := batch.call.corrected } aligned ∈
        batch.outputs) :
    api.headerFrameId aligned = config.mapFrameId ∧
      api.points aligned =
        batch.call.frame.frame.points.map fun point =>
          api.tWorldSensor batch.call.frame • point := by
  have message := ((recorded.points_iff .alignedPoints aligned).mp published).2
  cases message
  exact exact _ _ _

theorem Recorded.alignedInMap_iff (recorded : Recorded api config batch)
    (exactSensor : api.ExactSensor) (exactClouds : api.ExactClouds)
    (sensor : batch.call.frame.frameId ≠ .world) :
    AlignedInMap batch ↔
      batch.subscribed
          { topic := .alignedPoints, corrected := batch.call.corrected } =
          false ∨
        ∀ point ∈ batch.call.frame.frame.points,
          batch.snapshot.tWorldOdom • tOdomSensor batch.call.frame • point =
            tOdomSensor batch.call.frame • point := by
  have same := tWorldSensor_eq exactSensor batch.call.frame sensor
  constructor
  · intro inMap
    cases heard : batch.subscribed
        { topic := .alignedPoints, corrected := batch.call.corrected } with
    | false => exact .inl rfl
    | true =>
        have published :=
          (recorded.points_iff .alignedPoints _).mpr ⟨heard, rfl⟩
        have moved := inMap _ published
        rw [(recorded.alignedPoints_eq exactClouds published).2, same] at moved
        right
        intro point member
        exact (List.map_inj_left.mp moved point member).symm
  · rintro (silent | unmoved) aligned published
    · have heard := ((recorded.points_iff .alignedPoints aligned).mp
        published).1
      rw [silent] at heard
      cases heard
    · rw [(recorded.alignedPoints_eq exactClouds published).2, same]
      apply List.map_inj_left.mpr
      intro point member
      exact (unmoved point member).symm

/-- All points of a sensor stay where they are exactly under the identity. -/
theorem unmoved_iff (tWorldOdom tSensor : Isometry3d K) :
    (∀ point : Vector4d K, point.w = 1 →
        tWorldOdom • tSensor • point = tSensor • point) ↔
      tWorldOdom = 1 := by
  rw [Isometry3d.eq_one_iff_fixes_points]
  constructor
  · intro unmoved point proper
    have fixed := unmoved (tSensor⁻¹ • point) proper
    rwa [smul_inv_smul] at fixed
  · intro fixes point proper
    exact fixes (tSensor • point) proper

/-- In every run, a cloud on `aligned_points`, which is named after the map
frame, lies in the map frame exactly when the anchor leaves each of its
points in place.  It does so for every cloud only if it is the identity. -/
theorem aligned_points_iff
    (api : ViewerApi K) (config : ViewerConfig K)
    (exactAnchor : api.ExactAnchor) (exactSensor : api.ExactSensor)
    (exactClouds : api.ExactClouds)
    (ids : FrameIds) (metaConfig : MetaConfig) (now : Int)
    {viewer : RvizViewer api}
    (reachable :
      (viewerSystem api config
        (RvizViewer.start api ids metaConfig now)).Reachable viewer)
    {batch : Batch api} (member : batch ∈ viewer.published)
    (sensor : batch.call.frame.frameId ≠ .world) :
    (∀ cloud,
      .points { topic := .points, corrected := batch.call.corrected } cloud ∈
          batch.outputs →
        api.points cloud = batch.call.frame.frame.points) ∧
    (∀ aligned,
      .points { topic := .alignedPoints, corrected := batch.call.corrected }
          aligned ∈ batch.outputs →
        api.headerFrameId aligned = config.mapFrameId) ∧
    (AlignedInMap batch ↔
      batch.subscribed
          { topic := .alignedPoints, corrected := batch.call.corrected } =
          false ∨
        ∀ point ∈ batch.call.frame.frame.points,
          batch.snapshot.tWorldOdom • tOdomSensor batch.call.frame • point =
            tOdomSensor batch.call.frame • point) ∧
    ((∀ point : Vector4d K, point.w = 1 →
        batch.snapshot.tWorldOdom • tOdomSensor batch.call.frame • point =
          tOdomSensor batch.call.frame • point) ↔
      batch.snapshot.tWorldOdom = 1) := by
  have recorded := reachable_recorded exactAnchor ids metaConfig now
    reachable batch member
  exact
    ⟨fun _ published => recorded.points_eq exactClouds published,
      fun _ published => (recorded.alignedPoints_eq exactClouds published).1,
      recorded.alignedInMap_iff exactSensor exactClouds sensor,
      unmoved_iff _ _⟩

/-- Before the first anchor update the aligned cloud lies in the map
frame. -/
theorem aligned_points_first_scan :
    AlignedInMap
      (frameBatch realConfig realStart (scan 0 1) (fun _ => true)
        (fun _ _ _ => none)) := by
  have reachable :=
    reachable_afterFrame realStart_reachable rfl (scan 0 1)
      (fun _ => true) (fun _ _ _ => none)
  obtain ⟨_, _, agree, _⟩ :=
    aligned_points_iff realApi realConfig realApi_exactAnchor
      realApi_exactSensor realApi_exactClouds _ _ _ reachable
      (List.mem_singleton.mpr rfl) nofun
  apply agree.mpr
  right
  intro point _
  exact one_smul _ _

/-- After the loop closure the aligned cloud of the next scan is one metre
away from the map frame that it names. -/
theorem aligned_points_after_closure :
    ∃ (viewer : RvizViewer realApi) (batch : Batch realApi),
      (viewerSystem realApi realConfig realStart).Reachable viewer ∧
        batch ∈ viewer.published ∧
        batch.call.frame.frameId = .lidar ∧
        ¬ AlignedInMap batch := by
  have reachable :=
    reachable_afterFrame (closedViewer_reachable (.configured "" "" "")) rfl
      (scan 1 1) (fun _ => true) (fun _ _ _ => none)
  have member :
      frameBatch realConfig (closedViewer (.configured "" "" "")) (scan 1 1)
          (fun _ => true) (fun _ _ _ => none) ∈
        (afterFrame realConfig (closedViewer (.configured "" "" ""))
          (scan 1 1) (fun _ => true) (fun _ _ _ => none)).published :=
    List.mem_append_right _ (List.mem_singleton.mpr rfl)
  have recorded := reachable_recorded realApi_exactAnchor _ _ _ reachable
    _ member
  have anchor :
      (frameBatch realConfig (closedViewer (.configured "" "" "")) (scan 1 1)
        (fun _ => true) (fun _ _ _ => none)).snapshot.tWorldOdom = shift 1 :=
    closedViewer_anchor _
  refine ⟨_, _, reachable, member, rfl, ?_⟩
  rw [recorded.alignedInMap_iff realApi_exactSensor realApi_exactClouds nofun]
  rintro (silent | unmoved)
  · cases silent
  · have fixed := unmoved origin (List.mem_singleton.mpr rfl)
    have still : tOdomSensor (scan 1 1).frame = 1 := mul_inv_cancel 1
    rw [anchor] at fixed
    have moved : shift 1 • (1 : Isometry3d ℝ) • origin =
        (1 : Isometry3d ℝ) • origin := still ▸ fixed
    rw [one_smul] at moved
    have first := congrFun (congrArg Vector4d.head moved) 0
    simp [shift, origin] at first

end GlimRos.Viewer
