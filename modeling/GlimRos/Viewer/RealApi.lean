import GlimRos.Library.RealQuaternion
import GlimRos.Viewer.Threads

/-!
# The environment of the viewer over the reals

The assumptions on the other packages can be met together: over the reals
every rotation has a quaternion, and a trajectory that remembers its odometry
poses can compute its anchor from a pose in the map frame.
-/

namespace GlimRos.Viewer

open Rigid Transition

/-- Odometry poses with their stamps, and the current anchor. -/
structure AnchoredTrajectory where
  odometry : List (ℝ × Isometry3d ℝ)
  tWorldOdom : Isometry3d ℝ

namespace AnchoredTrajectory

/-- The odometry pose with a given stamp. -/
noncomputable def poseAt (trajectory : AnchoredTrajectory) (stamp : ℝ) :
    Option (Isometry3d ℝ) :=
  (trajectory.odometry.find? fun entry => decide (entry.1 = stamp)).map
    Prod.snd

/-- The anchor that carries the odometry pose at the stamp to a pose in the
map frame. -/
noncomputable def updateAnchor (trajectory : AnchoredTrajectory) (stamp : ℝ)
    (tWorldSensor : Isometry3d ℝ) : AnchoredTrajectory :=
  match trajectory.poseAt stamp with
  | none => trajectory
  | some tOdomSensor =>
      { trajectory with tWorldOdom := tWorldSensor * tOdomSensor⁻¹ }

/-- With one odometry pose the anchor carries it to the given pose. -/
theorem updateAnchor_single (stamp : ℝ)
    (tOdomSensor tWorldOdom tWorldSensor : Isometry3d ℝ) :
    (updateAnchor
        { odometry := [(stamp, tOdomSensor)]
          tWorldOdom := tWorldOdom }
        stamp tWorldSensor).tWorldOdom = tWorldSensor * tOdomSensor⁻¹ := by
  simp [updateAnchor, poseAt]

end AnchoredTrajectory

noncomputable def realApi : ViewerApi ℝ :=
  { quaternions := realConversion
    TrajectoryManager := AnchoredTrajectory
    newTrajectory :=
      { odometry := []
        tWorldOdom := 1 }
    addOdom := fun trajectory stamp pose _ =>
      { trajectory with
        odometry := trajectory.odometry ++ [(stamp, pose)] }
    updateAnchor := AnchoredTrajectory.updateAnchor
    getTWorldOdom := AnchoredTrajectory.tWorldOdom
    odom2world := fun trajectory pose => trajectory.tWorldOdom * pose
    tWorldSensor := fun frame =>
      match frame.frameId with
      | .lidar => frame.tWorldImu * frame.tLidarImu⁻¹
      | .imu => frame.tWorldImu
      | .world => 1
    fromSec := fun sec =>
      { sec := ⌊sec⌋
        nanosec := ⌊Int.fract sec * 1000000000⌋.toNat }
    seconds := fun nanoseconds => (nanoseconds : ℝ) / 1000000000
    PointCloud2 := String × List (Vector4d ℝ)
    frameToPointcloud2 := fun frameId _ cloud => (frameId, cloud.points)
    headerFrameId := Prod.fst
    points := Prod.snd
    uninitialized :=
      { head := 0
        w := 0 } }

theorem realApi_exactAnchor : realApi.ExactAnchor :=
  fun _ _ => rfl

theorem realApi_exactSensor : realApi.ExactSensor := by
  intro frame
  constructor
  · intro inLidar
    simp [realApi, inLidar]
  · intro inImu
    simp [realApi, inImu]

theorem realApi_exactClouds : realApi.ExactClouds :=
  fun _ _ _ => ⟨rfl, rfl⟩

/-! ## A scan with a given extrinsic -/

/-- The translation along the first axis. -/
def shift (distance : ℝ) : Isometry3d ℝ :=
  { linear := 1
    translation := ![distance, 0, 0] }

@[simp] theorem shift_mul (first second : ℝ) :
    shift first * shift second = shift (first + second) := by
  ext1
  · simp [shift]
  · ext index
    fin_cases index
    · simp [shift, add_comm]
    · simp [shift]
    · simp [shift]

@[simp] theorem shift_eq_one_iff (distance : ℝ) :
    shift distance = 1 ↔ distance = 0 := by
  constructor
  · intro same
    exact congrFun (congrArg Isometry3d.translation same) 0
  · rintro rfl
    ext1
    · rfl
    · ext index
      fin_cases index
      · rfl
      · rfl
      · rfl

/-- A translation moves a pose without turning it. -/
theorem shift_mul_ofParts (distance : ℝ) (orientation : UnitQuaternion ℝ)
    (translation : Fin 3 → ℝ) :
    shift distance * .ofParts orientation translation =
      .ofParts orientation (translation + ![distance, 0, 0]) := by
  ext1
  · exact one_mul _
  · simp [shift]

/-- Half a turn about the third axis. -/
def halfTurn : UnitQuaternion ℝ :=
  { w := 0
    x := 0
    y := 0
    z := 1
    unit := by norm_num }

/-- Half a turn about the first axis. -/
def upsideDown : UnitQuaternion ℝ :=
  { w := 0
    x := 1
    y := 0
    z := 0
    unit := by norm_num }

def origin : Vector4d ℝ :=
  { head := 0
    w := 1 }

/-- A frame at rest, with one LiDAR point at the origin. -/
def scan (stamp : ℝ) (tLidarImu : Isometry3d ℝ) : Call ℝ :=
  { frame :=
      { stamp := stamp
        tWorldImu := 1
        vWorldImu := 0
        tLidarImu := tLidarImu
        imuRateTrajectory := []
        frameId := .lidar
        frame :=
          { points := [origin]
            times := none
            intensities := none } }
    corrected := false }

/-- A submap that ends where odometry started. -/
def submapAt (address : Nat) (tWorldOrigin : Isometry3d ℝ)
    (points : List (Vector4d ℝ)) : SubMap ℝ :=
  { odomStamps := [0]
    tWorldOrigin := tWorldOrigin
    tOriginEndpointR := 1
    frame :=
      { address := address
        object :=
          { points := points
            times := none
            intensities := none } } }

noncomputable def realConfig : ViewerConfig ℝ :=
  { odomFrameId := "odom"
    mapFrameId := "map"
    publishImu2lidar := true
    tfTimeOffset := 1e-6 }

/-- A viewer without configured frame names. -/
noncomputable def realStart : RvizViewer realApi :=
  RvizViewer.start realApi (FrameIds.configured "" "" "") MetaConfig.empty 0

theorem realStart_reachable :
    (viewerSystem realApi realConfig realStart).Reachable realStart :=
  .init rfl

/-- The viewer after a scan and a loop closure that moves the anchor. -/
noncomputable def closedViewer (ids : FrameIds) : RvizViewer realApi :=
  let viewer := afterFrame realConfig
    (RvizViewer.start realApi ids MetaConfig.empty 0) (scan 0 1)
    (fun _ => true) (fun _ _ _ => none)
  { viewer with
    trajectory := realApi.updateAnchor viewer.trajectory 0 (shift 1 * 1)
    invokeQueue := viewer.invokeQueue ++
      [{ latestFrame := (submapAt 0 (shift 1) []).frame
         submapPoses := [shift 1] }]
    mappingPc := none
    notified := viewer.notified ++ [[submapAt 0 (shift 1) []]] }

theorem closedViewer_reachable (ids : FrameIds) :
    (viewerSystem realApi realConfig
      (RvizViewer.start realApi ids MetaConfig.empty 0)).Reachable
      (closedViewer ids) := by
  have scanned :=
    reachable_afterFrame
      (.init rfl : (viewerSystem realApi realConfig
        (RvizViewer.start realApi ids MetaConfig.empty 0)).Reachable _)
      rfl (scan 0 1) (fun _ => true) (fun _ _ _ => none)
  exact reachable_afterNotify scanned rfl [submapAt 0 (shift 1) []] rfl

/-- The loop closure has moved the anchor by a metre. -/
theorem closedViewer_anchor (ids : FrameIds) :
    realApi.getTWorldOdom (closedViewer ids).trajectory = shift 1 := by
  refine (AnchoredTrajectory.updateAnchor_single 0 1 1 _).trans ?_
  rw [inv_one, mul_one, mul_one]

end GlimRos.Viewer
