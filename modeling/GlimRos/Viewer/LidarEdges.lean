import GlimRos.Viewer.Consistency

/-!
# The edge to the LiDAR against the LiDAR topics

An edge from `A` to `B` stands for the pose of `B` in `A`.  The edge from the
IMU to the LiDAR is filled in with `T_lidar_imu`, the pose of the IMU in the
LiDAR frame, while the LiDAR topics use its inverse.
-/

namespace GlimRos.Viewer

open Rigid Transition

variable {K : Type} [CommRing K] {api : ViewerApi K}
  {config : ViewerConfig K} {batch : Batch api}

/-- The LiDAR poses of a batch are those at the end of the broadcast chains
from `odom` and from `map`. -/
def ChainsAgree (odomImu mapOdom imuLidar : TransformStamped K)
    (batch : Batch api) : Prop :=
  (∀ message,
    .odometry { topic := .lidarOdom, corrected := false } message ∈
      batch.outputs →
    odomImu.isometry * imuLidar.isometry = message.pose.isometry) ∧
  (∀ message,
    .pose { topic := .lidarPose, corrected := false } message ∈
      batch.outputs →
    mapOdom.isometry * odomImu.isometry * imuLidar.isometry =
      message.pose.isometry)

theorem mem_on {publisher : Publisher} {output : Output api}
    {outputs : List (Output api)} :
    output ∈ on publisher outputs ↔
      output ∈ outputs ∧ output.publisher = some publisher := by
  simp [on]

/-- A topic of a batch carries its message if it is subscribed, and no
other. -/
theorem Recorded.mem_outputs_iff (recorded : Recorded api config batch)
    {topic : Topic} {output : Output api}
    (published : output.publisher =
      some { topic := topic, corrected := batch.call.corrected }) :
    output ∈ batch.outputs ↔
      batch.subscribed
          { topic := topic, corrected := batch.call.corrected } = true ∧
        output = messageOn api config batch.ids batch.call batch.snapshot
          topic := by
  have onTopic := on_publish api config batch.ids batch.call batch.snapshot
    batch.subscribed batch.lookup topic
  rw [← recorded.outputs] at onTopic
  have member : output ∈ batch.outputs ↔
      output ∈ on { topic := topic, corrected := batch.call.corrected }
        batch.outputs := by
    rw [mem_on]
    exact (and_iff_left published).symm
  rw [member, onTopic]
  cases batch.subscribed
      { topic := topic, corrected := batch.call.corrected }
  · simp
  · simp

/-- The three edges of a new frame whose base frame is the IMU. -/
theorem Recorded.three_edges (recorded : Recorded api config batch)
    (new : batch.call.corrected = false)
    (base : batch.ids.base = batch.ids.imu)
    (extrinsic : config.publishImu2lidar = true) :
    edges batch.outputs =
      [transformStamped api config batch.call config.odomFrameId
          batch.ids.imu batch.call.frame.tWorldImu,
        worldToOdom api config batch.call batch.snapshot,
        imuToLidar api config batch.ids batch.call] := by
  rw [recorded.broadcast new, odomToBase, if_pos base, extrinsic, base]
  rfl

theorem Recorded.lidarOdom_iff (recorded : Recorded api config batch)
    (new : batch.call.corrected = false) (message : Odometry K) :
    .odometry { topic := .lidarOdom, corrected := false } message ∈
        batch.outputs ↔
      batch.subscribed { topic := .lidarOdom, corrected := false } = true ∧
        message =
          odometryFor api config batch.ids batch.call .lidar .stamp := by
  have published :
      (Output.odometry { topic := .lidarOdom, corrected := false }
        message : Output api).publisher =
        some { topic := .lidarOdom, corrected := batch.call.corrected } := by
    rw [Output.publisher, new]
  rw [recorded.mem_outputs_iff published, messageOn, new,
    Output.odometry.injEq, odometryFor]
  simp

theorem Recorded.lidarPose_iff (recorded : Recorded api config batch)
    (new : batch.call.corrected = false) (message : PoseStamped K) :
    .pose { topic := .lidarPose, corrected := false } message ∈
        batch.outputs ↔
      batch.subscribed { topic := .lidarPose, corrected := false } = true ∧
        message =
          poseFor api config batch.call batch.snapshot .lidar .stamp := by
  have published :
      (Output.pose { topic := .lidarPose, corrected := false }
        message : Output api).publisher =
        some { topic := .lidarPose, corrected := batch.call.corrected } := by
    rw [Output.publisher, new]
  rw [recorded.mem_outputs_iff published, messageOn, new,
    Output.pose.injEq, poseFor]
  simp

/-- Following an extrinsic and following its inverse lead to the same pose
exactly when the extrinsic undoes itself. -/
theorem mul_eq_mul_inv_iff (transform extrinsic : Isometry3d K) :
    transform * extrinsic = transform * extrinsic⁻¹ ↔
      extrinsic * extrinsic = 1 := by
  rw [mul_right_inj]
  exact extrinsic.eq_inv_iff_mul_self

/-- Along the edges of a new frame, the LiDAR topics agree exactly when the
extrinsic undoes itself or nobody listens to them. -/
theorem Recorded.chainsAgree_iff (recorded : Recorded api config batch)
    (new : batch.call.corrected = false) :
    ChainsAgree
        (transformStamped api config batch.call config.odomFrameId
          batch.ids.imu batch.call.frame.tWorldImu)
        (worldToOdom api config batch.call batch.snapshot)
        (imuToLidar api config batch.ids batch.call) batch ↔
      batch.call.frame.tLidarImu * batch.call.frame.tLidarImu = 1 ∨
        batch.subscribed { topic := .lidarOdom, corrected := false } =
            false ∧
          batch.subscribed { topic := .lidarPose, corrected := false } =
            false := by
  have odomPose :
      (odometryFor api config batch.ids batch.call .lidar
          .stamp).pose.isometry =
        batch.call.frame.tWorldImu * batch.call.frame.tLidarImu⁻¹ := by
    rw [odometryFor, convertToLidarOdom_isometry, odom_isometry]
  have mapPose :
      (poseFor api config batch.call batch.snapshot .lidar
          .stamp).pose.isometry =
        batch.snapshot.tWorldOdom * batch.call.frame.tWorldImu *
          batch.call.frame.tLidarImu⁻¹ := by
    rw [poseFor, convertToLidarPose_isometry, pose_isometry,
      recorded.anchored]
  unfold ChainsAgree worldToOdom imuToLidar
  simp only [transformStamped_isometry, recorded.lidarOdom_iff new,
    recorded.lidarPose_iff new]
  constructor
  · rintro ⟨odomAgrees, poseAgrees⟩
    cases odomHeard : batch.subscribed
        { topic := .lidarOdom, corrected := false } with
    | true =>
        have agrees := odomAgrees _ ⟨odomHeard, rfl⟩
        rw [odomPose] at agrees
        exact .inl ((mul_eq_mul_inv_iff _ _).mp agrees)
    | false =>
        cases poseHeard : batch.subscribed
            { topic := .lidarPose, corrected := false } with
        | true =>
            have agrees := poseAgrees _ ⟨poseHeard, rfl⟩
            rw [mapPose] at agrees
            exact .inl ((mul_eq_mul_inv_iff _ _).mp agrees)
        | false => exact .inr ⟨rfl, rfl⟩
  · rintro (undone | ⟨odomSilent, poseSilent⟩)
    · constructor
      · rintro message ⟨_, rfl⟩
        rw [odomPose]
        exact (mul_eq_mul_inv_iff _ _).mpr undone
      · rintro message ⟨_, rfl⟩
        rw [mapPose]
        exact (mul_eq_mul_inv_iff _ _).mpr undone
    · constructor
      · rintro message ⟨heard, _⟩
        rw [odomSilent] at heard
        cases heard
      · rintro message ⟨heard, _⟩
        rw [poseSilent] at heard
        cases heard

/-- In every run, the three edges of a new frame whose base frame is the IMU
lead to the poses of the LiDAR topics exactly when the extrinsic undoes
itself or nobody listens to these topics. -/
theorem lidar_chains_agree_iff
    (api : ViewerApi K) (config : ViewerConfig K) (exact : api.ExactAnchor)
    (ids : FrameIds) (metaConfig : MetaConfig) (now : Int)
    {viewer : RvizViewer api}
    (reachable :
      (viewerSystem api config
        (RvizViewer.start api ids metaConfig now)).Reachable viewer)
    {batch : Batch api} (member : batch ∈ viewer.published)
    (new : batch.call.corrected = false)
    (base : batch.ids.base = batch.ids.imu)
    (extrinsic : config.publishImu2lidar = true) :
    ∃ odomImu mapOdom imuLidar,
      edges batch.outputs = [odomImu, mapOdom, imuLidar] ∧
      (odomImu.header.frameId = config.odomFrameId ∧
        odomImu.childFrameId = batch.ids.imu) ∧
      (mapOdom.header.frameId = config.mapFrameId ∧
        mapOdom.childFrameId = config.odomFrameId) ∧
      (imuLidar.header.frameId = batch.ids.imu ∧
        imuLidar.childFrameId = batch.ids.lidar) ∧
      (ChainsAgree odomImu mapOdom imuLidar batch ↔
        batch.call.frame.tLidarImu * batch.call.frame.tLidarImu = 1 ∨
          batch.subscribed { topic := .lidarOdom, corrected := false } =
              false ∧
            batch.subscribed { topic := .lidarPose, corrected := false } =
              false) := by
  have recorded := reachable_recorded exact ids metaConfig now reachable
    batch member
  exact ⟨_, _, _, recorded.three_edges new base extrinsic, ⟨rfl, rfl⟩,
    ⟨rfl, rfl⟩, ⟨rfl, rfl⟩, recorded.chainsAgree_iff new⟩

/-- The LiDAR looks back from a metre ahead of the IMU. -/
def lookingBack : Isometry3d ℝ :=
  .ofParts halfTurn ![1, 0, 0]

theorem lookingBack_undone : lookingBack * lookingBack = 1 := by
  ext1
  · apply Subtype.ext
    ext row column
    fin_cases row <;> fin_cases column <;>
      norm_num [lookingBack, halfTurn, UnitQuaternion.toRotation,
        UnitQuaternion.toRotationMatrix, Matrix.mul_apply,
        Fin.sum_univ_three]
  · ext index
    fin_cases index <;>
      norm_num [lookingBack, halfTurn, UnitQuaternion.toRotation,
        UnitQuaternion.toRotationMatrix, Rotation.apply, Matrix.mulVec,
        Fin.sum_univ_three]

/-- With a LiDAR that looks back the chains agree. -/
theorem lidar_chains_agree_mounted :
    ∃ odomImu mapOdom imuLidar,
      edges (frameBatch realConfig realStart (scan 0 lookingBack)
        (fun _ => true) (fun _ _ _ => none)).outputs =
          [odomImu, mapOdom, imuLidar] ∧
      ChainsAgree odomImu mapOdom imuLidar
        (frameBatch realConfig realStart (scan 0 lookingBack)
          (fun _ => true) (fun _ _ _ => none)) := by
  have reachable :=
    reachable_afterFrame realStart_reachable rfl (scan 0 lookingBack)
      (fun _ => true) (fun _ _ _ => none)
  obtain ⟨odomImu, mapOdom, imuLidar, listed, _, _, _, agree⟩ :=
    lidar_chains_agree_iff realApi realConfig realApi_exactAnchor _ _ _
      reachable (List.mem_singleton.mpr rfl) rfl rfl rfl
  exact ⟨odomImu, mapOdom, imuLidar, listed, agree.mpr (.inl lookingBack_undone)⟩

/-- With an extrinsic of one metre the edges lead to a pose two metres away
from the published one. -/
theorem lidar_chains_disagree_shift :
    ∃ (viewer : RvizViewer realApi) (batch : Batch realApi)
      (odomImu mapOdom imuLidar : TransformStamped ℝ),
      (viewerSystem realApi realConfig realStart).Reachable viewer ∧
        batch ∈ viewer.published ∧ batch.call.corrected = false ∧
        batch.ids.base = batch.ids.imu ∧
        edges batch.outputs = [odomImu, mapOdom, imuLidar] ∧
        ¬ ChainsAgree odomImu mapOdom imuLidar batch := by
  have reachable :=
    reachable_afterFrame realStart_reachable rfl (scan 0 (shift 1))
      (fun _ => true) (fun _ _ _ => none)
  have member :
      frameBatch realConfig realStart (scan 0 (shift 1)) (fun _ => true)
          (fun _ _ _ => none) ∈
        (afterFrame realConfig realStart (scan 0 (shift 1)) (fun _ => true)
          (fun _ _ _ => none)).published :=
    List.mem_singleton.mpr rfl
  have recorded := reachable_recorded realApi_exactAnchor _ _ _ reachable
    _ member
  refine ⟨_, _, _, _, _, reachable, member, rfl, rfl,
    recorded.three_edges rfl rfl rfl, ?_⟩
  rw [recorded.chainsAgree_iff rfl]
  rintro (undone | ⟨silent, _⟩)
  · have twice : shift 1 * shift 1 = 1 := undone
    rw [shift_mul, shift_eq_one_iff] at twice
    norm_num at twice
  · cases silent

end GlimRos.Viewer
