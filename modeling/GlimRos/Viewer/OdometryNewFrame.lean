import GlimRos.Viewer.Basic

/-!
# `RvizViewer::odometry_new_frame`

The function is cut where another thread can interfere: it resolves the frame
names, takes a snapshot of the trajectory under the mutex, and publishes.
The snapshot is the only shared data that the third part reads.
-/

namespace GlimRos.Viewer

open Rigid

/-! ## Frame names -/

structure FrameIds where
  imu : String
  lidar : String
  base : String
  deriving DecidableEq, Repr

namespace FrameIds

/-- The names after the constructor. -/
def configured (imu lidar base : String) : FrameIds :=
  { imu := imu
    lidar := lidar
    base := if base = "" then imu else base }

/-- A name that is still empty is taken from the detected ones, with a
built-in default. -/
def resolve (frameId : String) (detected : Option String)
    (default : String) : String :=
  if frameId = "" then
    if detected.getD "" = "" then default else detected.getD ""
  else frameId

/-- The three names at the beginning of `odometry_new_frame`. -/
def resolved (ids : FrameIds) (metaConfig : MetaConfig) : FrameIds :=
  let imu := resolve ids.imu metaConfig.imuFrameId "imu"
  { imu := imu
    lidar := resolve ids.lidar metaConfig.lidarFrameId "lidar"
    base := if ids.base = "" then imu else ids.base }

end FrameIds

/-! ## Topics -/

inductive Topic where
  | points
  | alignedPoints
  | odom
  | odomScanend
  | lidarOdom
  | lidarOdomScanend
  | pose
  | poseScanend
  | lidarPose
  | lidarPoseScanend
  deriving DecidableEq, Repr

/-- A publisher: a topic and its `_corrected` variant. -/
structure Publisher where
  topic : Topic
  corrected : Bool
  deriving DecidableEq, Repr

section Functions

variable {K : Type} [CommRing K]

inductive Output (api : ViewerApi K) where
  | transform (edge : TransformStamped K)
  | odometry (publisher : Publisher) (message : Odometry K)
  | pose (publisher : Publisher) (message : PoseStamped K)
  | points (publisher : Publisher) (message : api.PointCloud2)

/-- What stays fixed while one frame is published. -/
structure Call (K : Type) [CommRing K] where
  frame : EstimationFrame K
  corrected : Bool

/-- `T_world_odom` and `T_world_imu`, read under the mutex. -/
structure Snapshot (K : Type) [CommRing K] where
  tWorldOdom : Isometry3d K
  tWorldImu : Isometry3d K

/-- The locked part: the trajectory afterwards and what was read from it. -/
def takeSnapshot (api : ViewerApi K) (frame : EstimationFrame K)
    (trajectory : api.TrajectoryManager) :
    api.TrajectoryManager × Snapshot K :=
  let trajectory := api.addOdom trajectory frame.stamp frame.tWorldImu 1
  (trajectory,
    { tWorldOdom := api.getTWorldOdom trajectory
      tWorldImu := api.odom2world trajectory frame.tWorldImu })

/-- `T_imubegin_imuend`. -/
def imuBeginToEnd (frame : EstimationFrame K) : Isometry3d K :=
  match frame.imuRateTrajectory with
  | [] => 1
  | first :: rest =>
      first.isometry⁻¹ * ((first :: rest).getLast (by simp)).isometry

def imuEndTime (frame : EstimationFrame K) : K :=
  match frame.imuRateTrajectory with
  | [] => frame.stamp
  | first :: rest => ((first :: rest).getLast (by simp)).stamp

/-! ## Transforms -/

section Publishing

variable (api : ViewerApi K) (config : ViewerConfig K) (ids : FrameIds)
  (call : Call K) (snapshot : Snapshot K)

/-- A `TransformStamped` filled in from a transform and the quaternion of its
linear part. -/
def transformStamped (frameId childFrameId : String)
    (transform : Isometry3d K) : TransformStamped K :=
  { header :=
      { stamp := api.fromSec (call.frame.stamp + config.tfTimeOffset)
        frameId := frameId }
    childFrameId := childFrameId
    translation := .ofVector transform.translation
    rotation := api.quaternions.ofRotation transform.linear }

/-- The edge `Odom -> Base`.  The lookup is `tf_buffer->lookupTransform`,
`none` when it throws. -/
def odomToBase
    (lookup : String → String → Time → Option (TransformStamped K)) :
    Option (TransformStamped K) :=
  if ids.base = ids.imu then
    some (transformStamped api config call config.odomFrameId ids.base
      call.frame.tWorldImu)
  else
    (lookup ids.imu ids.base (api.fromSec call.frame.stamp)).map
      fun imuBase =>
        transformStamped api config call config.odomFrameId ids.base
          (call.frame.tWorldImu * imuBase.isometry)

/-- The edge `World -> Odom`. -/
def worldToOdom : TransformStamped K :=
  transformStamped api config call config.mapFrameId config.odomFrameId
    snapshot.tWorldOdom

/-- The edge `IMU -> LiDAR`, filled in with `T_lidar_imu`. -/
def imuToLidar : TransformStamped K :=
  transformStamped api config call ids.imu ids.lidar call.frame.tLidarImu

/-- The edges broadcast for a frame that is not a correction. -/
def broadcastTransforms
    (lookup : String → String → Time → Option (TransformStamped K)) :
    List (TransformStamped K) :=
  if call.corrected then []
  else
    (odomToBase api config ids call lookup).toList ++
      [worldToOdom api config call snapshot] ++
      if config.publishImu2lidar then [imuToLidar api config ids call]
      else []

/-! ## Poses -/

/-- `convert_to_lidar_odom`. -/
def convertToLidarOdom (odom : Odometry K) : Odometry K :=
  { odom with
    childFrameId := ids.lidar
    pose :=
      .ofIsometry api.quaternions
        (odom.pose.isometry * call.frame.tLidarImu⁻¹) }

/-- `convert_to_lidar_pose`. -/
def convertToLidarPose (pose : PoseStamped K) : PoseStamped K :=
  { pose with
    pose :=
      .ofIsometry api.quaternions
        (pose.pose.isometry * call.frame.tLidarImu⁻¹) }

/-- An `Odometry` message for an IMU pose in the odometry frame. -/
def odometryMessage (stamp : K) (tOdomImu : Isometry3d K) : Odometry K :=
  { header :=
      { stamp := api.fromSec stamp
        frameId := config.odomFrameId }
    childFrameId := ids.imu
    pose := .ofIsometry api.quaternions tOdomImu
    twistLinear := .ofVector call.frame.vWorldImu }

/-- A `PoseStamped` message for an IMU pose in the map frame. -/
def poseMessage (stamp : K) (tWorldImu : Isometry3d K) : PoseStamped K :=
  { header :=
      { stamp := api.fromSec stamp
        frameId := config.mapFrameId }
    pose := .ofIsometry api.quaternions tWorldImu }

/-- Sensor pose without loop closure. -/
def odom : Odometry K :=
  odometryMessage api config ids call call.frame.stamp call.frame.tWorldImu

/-- Sensor pose at the end of the scan without loop closure. -/
def odomScanend : Odometry K :=
  odometryMessage api config ids call (imuEndTime call.frame)
    (call.frame.tWorldImu * imuBeginToEnd call.frame)

/-- Sensor pose with loop closure. -/
def pose : PoseStamped K :=
  poseMessage api config call.frame.stamp snapshot.tWorldImu

/-- Sensor pose at the end of the scan with loop closure. -/
def poseScanend : PoseStamped K :=
  poseMessage api config (imuEndTime call.frame)
    (snapshot.tWorldImu * imuBeginToEnd call.frame)

variable (subscribed : Publisher → Bool)

/-- One block for an `Odometry` topic and its LiDAR variant. -/
def publishOdometry (imuTopic lidarTopic : Topic) (message : Odometry K) :
    List (Output api) :=
  let imuPub : Publisher := { topic := imuTopic, corrected := call.corrected }
  let lidarPub : Publisher :=
    { topic := lidarTopic, corrected := call.corrected }
  if subscribed imuPub || subscribed lidarPub then
    (if subscribed imuPub then [.odometry imuPub message] else []) ++
      if subscribed lidarPub then
        [.odometry lidarPub (convertToLidarOdom api ids call message)]
      else []
  else []

/-- One block for a `PoseStamped` topic and its LiDAR variant. -/
def publishPose (imuTopic lidarTopic : Topic) (message : PoseStamped K) :
    List (Output api) :=
  let imuPub : Publisher := { topic := imuTopic, corrected := call.corrected }
  let lidarPub : Publisher :=
    { topic := lidarTopic, corrected := call.corrected }
  if subscribed imuPub || subscribed lidarPub then
    (if subscribed imuPub then [.pose imuPub message] else []) ++
      if subscribed lidarPub then
        [.pose lidarPub (convertToLidarPose api call message)]
      else []
  else []

/-! ## Points -/

/-- The frame name of the points. -/
def pointsFrameId : String :=
  match call.frame.frameId with
  | .lidar => ids.lidar
  | .imu => ids.imu
  | .world => config.mapFrameId

def points : api.PointCloud2 :=
  api.frameToPointcloud2 (pointsFrameId config ids call) call.frame.stamp
    call.frame.frame

/-- The points carried by `T_world_sensor`, published in the map frame. -/
def alignedPoints : api.PointCloud2 :=
  api.frameToPointcloud2 config.mapFrameId call.frame.stamp
    { points :=
        call.frame.frame.points.map fun point =>
          api.tWorldSensor call.frame • point
      times := call.frame.frame.times
      intensities := call.frame.frame.intensities }

def publishPoints (topic : Topic) (message : api.PointCloud2) :
    List (Output api) :=
  let pub : Publisher := { topic := topic, corrected := call.corrected }
  if subscribed pub then [.points pub message] else []

/-- Everything published for one frame, in order. -/
def publish
    (lookup : String → String → Time → Option (TransformStamped K)) :
    List (Output api) :=
  (broadcastTransforms api config ids call snapshot lookup).map .transform ++
    publishOdometry api ids call subscribed .odom .lidarOdom
      (odom api config ids call) ++
    publishOdometry api ids call subscribed .odomScanend .lidarOdomScanend
      (odomScanend api config ids call) ++
    publishPose api call subscribed .pose .lidarPose
      (pose api config call snapshot) ++
    publishPose api call subscribed .poseScanend .lidarPoseScanend
      (poseScanend api config call snapshot) ++
    publishPoints api call subscribed .points
      (points api config ids call) ++
    publishPoints api call subscribed .alignedPoints
      (alignedPoints api config call)

end Publishing

end Functions

end GlimRos.Viewer
