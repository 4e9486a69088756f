import GlimRos.Ros
import GlimRos.Library.AsyncStage
import Mathlib.Algebra.Order.Field.Basic
import Mathlib.Algebra.Order.Field.Rat
import Mathlib.Algebra.Order.Group.Unbundled.Abs

/-!
# The state of `GlimROS`

`GlimROS` feeds three asynchronous stages.  The executor, the bag loop and
the shutdown code run its callbacks one at a time on one thread; the program
counter of that thread is part of the state, so that a worker can step
between any two statements.  Doubles are exact elements of an ordered field.
-/

namespace GlimRos

/-- The types and functions of `glim` and `cv_bridge` that the node uses. -/
structure Glim (K : Type) where
  ImageData : Type
  CvImage : Type
  toCvCopy : ImageData → CvImage
  CloudData : Type
  RawPoints : Type
  extractRawPoints :
    CloudData → (intensityField ringField : String) → Option RawPoints
  shiftStamp : K → RawPoints → RawPoints
  TimeKeeper : Type
  validateImuStamp : TimeKeeper → K → Bool × TimeKeeper
  /-- `TimeKeeper::process` may also rewrite the points it is given. -/
  process : TimeKeeper → RawPoints → Bool × TimeKeeper × RawPoints
  PreprocessedFrame : Type
  preprocess : RawPoints → PreprocessedFrame
  setRawPoints : PreprocessedFrame → RawPoints → PreprocessedFrame
  EstimationFrame : Type
  SubMap : Type
  norm : Vector3 K → K

/-- `sensor_msgs/Imu`, less the covariances and the orientation. -/
structure ImuMsg (K : Type) where
  frameId : String
  sec : Int
  nanosec : Nat
  linearAcceleration : Vector3 K
  angularVelocity : Vector3 K

structure ImageMsg {K : Type} (glim : Glim K) where
  frameId : String
  sec : Int
  nanosec : Nat
  data : glim.ImageData

structure PointCloudMsg {K : Type} (glim : Glim K) where
  frameId : String
  data : glim.CloudData

/-- The arguments of `insert_imu`. -/
structure ImuSample (K : Type) where
  stamp : K
  linearAcc : Vector3 K
  angularVel : Vector3 K

/-- What a caller can insert into a stage: IMU samples, images, and the
frames or submaps that the stage works on. -/
inductive StageInput {K : Type} (glim : Glim K) (Payload : Type) where
  | imu (sample : ImuSample K)
  | image (stamp : K) (image : glim.CvImage)
  | payload (item : Payload)

namespace StageInput

variable {K : Type} {glim : Glim K} {Payload : Type}

def imu? : StageInput glim Payload → Option (ImuSample K)
  | .imu sample => some sample
  | _ => none

def payload? : StageInput glim Payload → Option Payload
  | .payload item => some item
  | _ => none

/-- The IMU samples of an insertion history, in order. -/
def imus (history : List (StageInput glim Payload)) : List (ImuSample K) :=
  history.filterMap imu?

/-- The frames or submaps of an insertion history, in order. -/
def payloads (history : List (StageInput glim Payload)) : List Payload :=
  history.filterMap payload?

variable (history : List (StageInput glim Payload))

@[simp] theorem imus_append (later : List (StageInput glim Payload)) :
    imus (history ++ later) = imus history ++ imus later := by
  simp [imus]

@[simp] theorem payloads_append (later : List (StageInput glim Payload)) :
    payloads (history ++ later) = payloads history ++ payloads later := by
  simp [payloads]

@[simp] theorem imus_imu (sample : ImuSample K) :
    imus [(.imu sample : StageInput glim Payload)] = [sample] := rfl

@[simp] theorem imus_image (stamp : K) (image : glim.CvImage) :
    imus [(.image stamp image : StageInput glim Payload)] = [] := rfl

@[simp] theorem imus_payload (item : Payload) :
    imus [(.payload item : StageInput glim Payload)] = [] := rfl

@[simp] theorem payloads_imu (sample : ImuSample K) :
    payloads [(.imu sample : StageInput glim Payload)] = [] := rfl

@[simp] theorem payloads_image (stamp : K) (image : glim.CvImage) :
    payloads [(.image stamp image : StageInput glim Payload)] = [] := rfl

@[simp] theorem payloads_payload (item : Payload) :
    payloads [(.payload item : StageInput glim Payload)] = [item] := rfl

end StageInput

/-- An output of a worker together with a record, used by no code, of the
IMU samples that upstream stages had been given when it was emitted. -/
structure Emission (K Value : Type) where
  value : Value
  odometryImus : List (ImuSample K)
  subMappingImus : List (ImuSample K)

section Stages

variable {K : Type} (glim : Glim K)

abbrev OdometryStage :=
  Stage (StageInput glim glim.PreprocessedFrame)
    (Emission K glim.EstimationFrame)

abbrev SubMappingStage :=
  Stage (StageInput glim (Emission K glim.EstimationFrame))
    (Emission K glim.SubMap)

/-- The node fetches no results from global mapping. -/
abbrev GlobalMappingStage :=
  Stage (StageInput glim (Emission K glim.SubMap)) Empty

end Stages

/-- The stage an `insert_imu` or `insert_image` statement feeds. -/
inductive Target where
  | odometryEstimation
  | subMapping
  | globalMapping
  deriving DecidableEq, Repr

/-- The two functions that drain the stages. -/
inductive Caller where
  | timer
  | wait (autoQuit : Bool)
  deriving DecidableEq, Repr

/-- The next statement of the running callback, with its live locals. -/
inductive Pc {K : Type} (glim : Glim K) where
  /-- No callback is running. -/
  | idle
  | insertImu (target : Target) (sample : ImuSample K)
  | insertImage (target : Target) (stamp : K) (image : glim.CvImage)
  | insertFrame (preprocessed : glim.PreprocessedFrame)
  /-- `odometry_estimation->join()` at the head of `wait`. -/
  | joinOdometry (autoQuit : Bool)
  | getResults (caller : Caller)
  /-- The loop over `marginalized_frames`, with the frames still to insert. -/
  | insertFrames (caller : Caller)
      (marginalized : List (Emission K glim.EstimationFrame))
  | joinSubMapping (autoQuit : Bool)
  | getSubmaps (caller : Caller)
  /-- The loop over `submaps`, with the submaps still to insert. -/
  | insertSubmaps (caller : Caller) (submaps : List (Emission K glim.SubMap))
  | joinGlobalMapping (autoQuit : Bool)
  /-- The loop of `wait` that polls the extension modules. -/
  | pollModules (autoQuit : Bool)
  /-- `wait` has returned. -/
  | waited

/-- The configuration the constructor reads. -/
structure NodeConfig (K : Type) where
  keepRawPoints : Bool
  imuTimeOffset : K
  pointsTimeOffset : K
  intensityField : String
  ringField : String

/-- A `GlimROS` node; a disabled stage is a null pointer. -/
@[ext]
structure Node {K : Type} (glim : Glim K) where
  metaConfig : MetaConfig
  accScale : K
  timeKeeper : glim.TimeKeeper
  odometryEstimation : OdometryStage glim
  subMapping : Option (SubMappingStage glim)
  globalMapping : Option (GlobalMappingStage glim)
  rclcppOk : Bool
  pc : Pc glim

/-- The node after the constructor. -/
def Node.start {K : Type} (glim : Glim K) (metaConfig : MetaConfig)
    (accScale : K) (timeKeeper : glim.TimeKeeper)
    (enableSubMapping enableGlobalMapping : Bool) : Node glim :=
  { metaConfig := metaConfig
    accScale := accScale
    timeKeeper := timeKeeper
    odometryEstimation := .empty
    subMapping := if enableSubMapping then some .empty else none
    globalMapping := if enableGlobalMapping then some .empty else none
    rclcppOk := true
    pc := .idle }

/-- A library whose frames and submaps are numbers and whose time keeper
accepts every stamp; accelerations along one axis have the right norm. -/
def numberedGlim : Glim Rat :=
  { ImageData := Nat
    CvImage := Nat
    toCvCopy := id
    CloudData := Nat
    RawPoints := Nat
    extractRawPoints := fun cloud _ _ => some cloud
    shiftStamp := fun _ cloud => cloud
    TimeKeeper := Unit
    validateImuStamp := fun timeKeeper _ => (true, timeKeeper)
    process := fun timeKeeper cloud => (true, timeKeeper, cloud)
    PreprocessedFrame := Nat
    preprocess := id
    setRawPoints := fun preprocessed _ => preprocessed
    EstimationFrame := Nat
    SubMap := Nat
    norm := fun vector => |vector.x| + |vector.y| + |vector.z| }

def defaultNodeConfig : NodeConfig Rat :=
  { keepRawPoints := false
    imuTimeOffset := 0
    pointsTimeOffset := 0
    intensityField := "intensity"
    ringField := "" }

def levelImu : ImuMsg Rat :=
  { frameId := "imu"
    sec := 1
    nanosec := 0
    linearAcceleration := ⟨0, 0, 49 / 5⟩
    angularVelocity := ⟨0, 0, 0⟩ }

end GlimRos
