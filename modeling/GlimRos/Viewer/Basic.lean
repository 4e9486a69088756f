import GlimRos.Library.RigidTransform
import GlimRos.Ros
import Mathlib.Algebra.Field.Basic
import Mathlib.Data.Fin.VecNotation

/-!
# Data of `RvizViewer`

Doubles are elements of a field, so transforms compose exactly.  An
orientation in a message or in an IMU-rate trajectory is a unit quaternion by
construction.  What the viewer takes from other packages is a parameter.
-/

namespace GlimRos

section Vectors

variable {K : Type}

def Vector3.ofVector (vector : Fin 3 → K) : Vector3 K :=
  { x := Matrix.vecHead vector
    y := Matrix.vecHead (Matrix.vecTail vector)
    z := Matrix.vecHead (Matrix.vecTail (Matrix.vecTail vector)) }

def Vector3.toVector (fields : Vector3 K) : Fin 3 → K :=
  ![fields.x, fields.y, fields.z]

@[simp] theorem Vector3.toVector_ofVector (vector : Fin 3 → K) :
    (Vector3.ofVector vector).toVector = vector := by
  ext index
  fin_cases index
  · rfl
  · rfl
  · rfl

end Vectors

end GlimRos

namespace GlimRos.Viewer

open Rigid

/-! ## Messages -/

/-- `builtin_interfaces/Time`. -/
structure Time where
  sec : Int
  nanosec : Nat
  deriving DecidableEq, Repr

/-- `std_msgs/Header`. -/
structure Header where
  stamp : Time
  frameId : String
  deriving DecidableEq, Repr

section Messages

variable (K : Type) [CommRing K]

/-- `geometry_msgs/Pose`. -/
structure Pose where
  position : Vector3 K
  orientation : UnitQuaternion K

/-- `nav_msgs/Odometry` without the fields left at their defaults. -/
structure Odometry where
  header : Header
  childFrameId : String
  pose : Pose K
  twistLinear : Vector3 K

/-- `geometry_msgs/PoseStamped`. -/
structure PoseStamped where
  header : Header
  pose : Pose K

/-- `geometry_msgs/TransformStamped`. -/
structure TransformStamped where
  header : Header
  childFrameId : String
  translation : Vector3 K
  rotation : UnitQuaternion K

end Messages

section Isometries

variable {K : Type} [CommRing K]

/-- The fields of a pose, set from a transform. -/
def Pose.ofIsometry (quaternions : QuaternionConversion K)
    (transform : Isometry3d K) : Pose K :=
  { position := .ofVector transform.translation
    orientation := quaternions.ofRotation transform.linear }

/-- The transform read back from the fields of a pose. -/
def Pose.isometry (pose : Pose K) : Isometry3d K :=
  .ofParts pose.orientation pose.position.toVector

/-- The transform that an edge stands for. -/
def TransformStamped.isometry (edge : TransformStamped K) : Isometry3d K :=
  .ofParts edge.rotation edge.translation.toVector

@[simp] theorem Pose.isometry_ofIsometry
    (quaternions : QuaternionConversion K) (transform : Isometry3d K) :
    (Pose.ofIsometry quaternions transform).isometry = transform := by
  simp [Pose.isometry, Pose.ofIsometry]

end Isometries

/-! ## Frames and submaps -/

/-- `FrameID`. -/
inductive FrameID where
  | lidar
  | imu
  | world
  deriving DecidableEq, Repr

/-- The fields of a point cloud that the viewer touches. -/
structure PointCloud (K : Type) where
  points : List (Vector4d K)
  times : Option (List K)
  intensities : Option (List K)

/-- A shared pointer: the object and its identity. -/
structure Shared (Object : Type) where
  address : Nat
  object : Object
  deriving DecidableEq, Repr

/-- A column of `imu_rate_trajectory`: stamp, position and orientation. -/
structure ImuRateColumn (K : Type) [CommRing K] where
  stamp : K
  position : Fin 3 → K
  orientation : UnitQuaternion K

def ImuRateColumn.isometry {K : Type} [CommRing K]
    (column : ImuRateColumn K) : Isometry3d K :=
  .ofParts column.orientation column.position

structure EstimationFrame (K : Type) [CommRing K] where
  stamp : K
  tWorldImu : Isometry3d K
  vWorldImu : Fin 3 → K
  tLidarImu : Isometry3d K
  imuRateTrajectory : List (ImuRateColumn K)
  frameId : FrameID
  frame : PointCloud K

structure SubMap (K : Type) [CommRing K] where
  /-- The stamps of `odom_frames`. -/
  odomStamps : List K
  tWorldOrigin : Isometry3d K
  tOriginEndpointR : Isometry3d K
  frame : Shared (PointCloud K)

/-! ## Other packages -/

/-- What the viewer calls outside its own code. -/
structure ViewerApi (K : Type) [CommRing K] where
  /-- The conversions of `Eigen::Quaterniond`. -/
  quaternions : QuaternionConversion K
  TrajectoryManager : Type
  newTrajectory : TrajectoryManager
  addOdom : TrajectoryManager → K → Isometry3d K → Int → TrajectoryManager
  updateAnchor : TrajectoryManager → K → Isometry3d K → TrajectoryManager
  getTWorldOdom : TrajectoryManager → Isometry3d K
  odom2world : TrajectoryManager → Isometry3d K → Isometry3d K
  /-- `EstimationFrame::T_world_sensor`. -/
  tWorldSensor : EstimationFrame K → Isometry3d K
  fromSec : K → Time
  /-- `rclcpp::Time::seconds` of nanoseconds. -/
  seconds : Int → K
  PointCloud2 : Type
  frameToPointcloud2 : String → K → PointCloud K → PointCloud2
  headerFrameId : PointCloud2 → String
  points : PointCloud2 → List (Vector4d K)
  /-- What a fresh element of `points_storage` holds. -/
  uninitialized : Vector4d K

namespace ViewerApi

variable {K : Type} [CommRing K] (api : ViewerApi K)

/-- `odom2world(T)` is `T_world_odom * T`. -/
def ExactAnchor : Prop :=
  ∀ trajectory pose,
    api.odom2world trajectory pose = api.getTWorldOdom trajectory * pose

/-- `T_world_sensor()` is the sensor pose that the frame id names, in the
frame in which `T_world_imu` is given. -/
def ExactSensor : Prop :=
  ∀ frame : EstimationFrame K,
    (frame.frameId = .lidar →
      api.tWorldSensor frame = frame.tWorldImu * frame.tLidarImu⁻¹) ∧
    (frame.frameId = .imu → api.tWorldSensor frame = frame.tWorldImu)

/-- `frame_to_pointcloud2` keeps the frame name and the points. -/
def ExactClouds : Prop :=
  ∀ frameId stamp cloud,
    api.headerFrameId (api.frameToPointcloud2 frameId stamp cloud) =
      frameId ∧
    api.points (api.frameToPointcloud2 frameId stamp cloud) = cloud.points

end ViewerApi

/-- The parameters that stay fixed after the constructor. -/
structure ViewerConfig (K : Type) where
  odomFrameId : String
  mapFrameId : String
  publishImu2lidar : Bool
  tfTimeOffset : K

end GlimRos.Viewer
