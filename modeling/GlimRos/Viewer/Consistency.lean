import GlimRos.Viewer.RealApi

/-!
# The poses published for one frame agree with each other

All map-frame poses come from one snapshot of the trajectory, so an anchor
update between two blocks of `odometry_new_frame` cannot tear them apart.
The LiDAR variants are computed from the fields of a message, which is the
same as computing with the transform that the fields were set from.
-/

namespace GlimRos.Viewer

open Rigid Transition

variable {K : Type} [CommRing K] {api : ViewerApi K}
  {config : ViewerConfig K}

/-! ## Topics by sensor and moment -/

inductive Sensor where
  | imu
  | lidar
  deriving DecidableEq, Repr

/-- The stamp of the frame or the end of the scan. -/
inductive Moment where
  | stamp
  | scanend
  deriving DecidableEq, Repr

def odometryTopic : Sensor → Moment → Topic
  | .imu, .stamp => .odom
  | .imu, .scanend => .odomScanend
  | .lidar, .stamp => .lidarOdom
  | .lidar, .scanend => .lidarOdomScanend

def poseTopic : Sensor → Moment → Topic
  | .imu, .stamp => .pose
  | .imu, .scanend => .poseScanend
  | .lidar, .stamp => .lidarPose
  | .lidar, .scanend => .lidarPoseScanend

/-! ## What goes to which publisher -/

def Output.publisher : Output api → Option Publisher
  | .transform _ => none
  | .odometry publisher _ | .pose publisher _ | .points publisher _ =>
      some publisher

/-- The messages of one publisher, in order. -/
def on (publisher : Publisher) (outputs : List (Output api)) :
    List (Output api) :=
  outputs.filter fun output => decide (output.publisher = some publisher)

/-- The broadcast edges, in order. -/
def edges (outputs : List (Output api)) : List (TransformStamped K) :=
  outputs.filterMap fun output =>
    match output with
    | .transform edge => some edge
    | .odometry _ _ | .pose _ _ | .points _ _ => none

section Blocks

variable (publisher : Publisher) (left right : List (Output api))

@[simp] theorem on_append :
    on publisher (left ++ right) =
      on publisher left ++ on publisher right :=
  List.filter_append ..

@[simp] theorem edges_append :
    edges (left ++ right) = edges left ++ edges right :=
  List.filterMap_append

variable (broadcast : List (TransformStamped K))

@[simp] theorem on_transforms :
    on publisher (broadcast.map .transform : List (Output api)) = [] := by
  simp [on, Output.publisher]

@[simp] theorem edges_transforms :
    edges (broadcast.map .transform : List (Output api)) = broadcast := by
  induction broadcast with
  | nil => rfl
  | cons edge rest induction =>
      rw [List.map_cons, edges, List.filterMap_cons]
      exact congrArg (edge :: ·) induction

variable (ids : FrameIds) (call : Call K) (subscribed : Publisher → Bool)
  (imuTopic lidarTopic : Topic)

/-- A block publishes the IMU message and the LiDAR message, each on its own
topic and for its own subscribers. -/
theorem publishOdometry_eq (message : Odometry K) :
    publishOdometry api ids call subscribed imuTopic lidarTopic message =
      (if subscribed { topic := imuTopic, corrected := call.corrected } then
        [.odometry { topic := imuTopic, corrected := call.corrected } message]
      else []) ++
      if subscribed { topic := lidarTopic, corrected := call.corrected } then
        [.odometry { topic := lidarTopic, corrected := call.corrected }
          (convertToLidarOdom api ids call message)]
      else [] := by
  unfold publishOdometry
  dsimp only
  cases subscribed { topic := imuTopic, corrected := call.corrected }
  · cases subscribed { topic := lidarTopic, corrected := call.corrected }
    · rfl
    · rfl
  · rfl

theorem publishPose_eq (message : PoseStamped K) :
    publishPose api call subscribed imuTopic lidarTopic message =
      (if subscribed { topic := imuTopic, corrected := call.corrected } then
        [.pose { topic := imuTopic, corrected := call.corrected } message]
      else []) ++
      if subscribed { topic := lidarTopic, corrected := call.corrected } then
        [.pose { topic := lidarTopic, corrected := call.corrected }
          (convertToLidarPose api call message)]
      else [] := by
  unfold publishPose
  dsimp only
  cases subscribed { topic := imuTopic, corrected := call.corrected }
  · cases subscribed { topic := lidarTopic, corrected := call.corrected }
    · rfl
    · rfl
  · rfl

/-- A guarded message is the only thing its guard lets through. -/
theorem on_guarded (guard : Bool) (message : Output api) :
    on publisher (if guard then [message] else []) =
      if guard && decide (message.publisher = some publisher) then [message]
      else [] := by
  cases guard
  · rfl
  · rw [on, if_pos rfl, List.filter_cons, List.filter_nil, Bool.true_and]

end Blocks

section Publishing

variable (api) (config) (ids : FrameIds) (call : Call K)
  (snapshot : Snapshot K)

/-- The message that a topic carries for a frame. -/
def messageOn (topic : Topic) : Output api :=
  let publisher : Publisher :=
    { topic := topic
      corrected := call.corrected }
  match topic with
  | .points => .points publisher (points api config ids call)
  | .alignedPoints => .points publisher (alignedPoints api config call)
  | .odom => .odometry publisher (odom api config ids call)
  | .odomScanend => .odometry publisher (odomScanend api config ids call)
  | .lidarOdom =>
      .odometry publisher
        (convertToLidarOdom api ids call (odom api config ids call))
  | .lidarOdomScanend =>
      .odometry publisher
        (convertToLidarOdom api ids call (odomScanend api config ids call))
  | .pose => .pose publisher (pose api config call snapshot)
  | .poseScanend => .pose publisher (poseScanend api config call snapshot)
  | .lidarPose =>
      .pose publisher
        (convertToLidarPose api call (pose api config call snapshot))
  | .lidarPoseScanend =>
      .pose publisher
        (convertToLidarPose api call (poseScanend api config call snapshot))

variable (subscribed : Publisher → Bool)
  (lookup : String → String → Time → Option (TransformStamped K))

/-- Each topic gets its message once if it is subscribed and nothing
otherwise, whatever the other topics do. -/
theorem on_publish (topic : Topic) :
    on { topic := topic, corrected := call.corrected }
        (publish api config ids call snapshot subscribed lookup) =
      if subscribed { topic := topic, corrected := call.corrected } then
        [messageOn api config ids call snapshot topic]
      else [] := by
  unfold publish
  simp only [on_append, on_transforms, publishOdometry_eq, publishPose_eq,
    publishPoints, on_guarded, Output.publisher, Option.some_inj,
    Publisher.mk.injEq, and_true]
  cases topic <;> simp [messageOn]

theorem edges_publish :
    edges (publish api config ids call snapshot subscribed lookup) =
      broadcastTransforms api config ids call snapshot lookup := by
  have guarded (guard : Bool) (message : Output api)
      (silent : edges [message] = []) :
      edges (if guard then [message] else []) = [] := by
    cases guard
    · rfl
    · exact silent
  unfold publish
  simp only [edges_append, edges_transforms, publishOdometry_eq,
    publishPose_eq, publishPoints]
  repeat rw [guarded _ _ rfl]
  simp only [List.append_nil]

/-! ## The transforms behind the fields -/

@[simp] theorem transformStamped_isometry (frameId childFrameId : String)
    (transform : Isometry3d K) :
    (transformStamped api config call frameId childFrameId
      transform).isometry = transform := by
  simp [transformStamped, TransformStamped.isometry]

@[simp] theorem odom_isometry :
    (odom api config ids call).pose.isometry = call.frame.tWorldImu :=
  Pose.isometry_ofIsometry _ _

@[simp] theorem odomScanend_isometry :
    (odomScanend api config ids call).pose.isometry =
      call.frame.tWorldImu * imuBeginToEnd call.frame :=
  Pose.isometry_ofIsometry _ _

@[simp] theorem pose_isometry :
    (pose api config call snapshot).pose.isometry = snapshot.tWorldImu :=
  Pose.isometry_ofIsometry _ _

@[simp] theorem poseScanend_isometry :
    (poseScanend api config call snapshot).pose.isometry =
      snapshot.tWorldImu * imuBeginToEnd call.frame :=
  Pose.isometry_ofIsometry _ _

@[simp] theorem convertToLidarOdom_isometry (message : Odometry K) :
    (convertToLidarOdom api ids call message).pose.isometry =
      message.pose.isometry * call.frame.tLidarImu⁻¹ :=
  Pose.isometry_ofIsometry _ _

@[simp] theorem convertToLidarPose_isometry (message : PoseStamped K) :
    (convertToLidarPose api call message).pose.isometry =
      message.pose.isometry * call.frame.tLidarImu⁻¹ :=
  Pose.isometry_ofIsometry _ _

def odometryFor : Sensor → Moment → Odometry K
  | .imu, .stamp => odom api config ids call
  | .imu, .scanend => odomScanend api config ids call
  | .lidar, .stamp =>
      convertToLidarOdom api ids call (odom api config ids call)
  | .lidar, .scanend =>
      convertToLidarOdom api ids call (odomScanend api config ids call)

def poseFor : Sensor → Moment → PoseStamped K
  | .imu, .stamp => pose api config call snapshot
  | .imu, .scanend => poseScanend api config call snapshot
  | .lidar, .stamp =>
      convertToLidarPose api call (pose api config call snapshot)
  | .lidar, .scanend =>
      convertToLidarPose api call (poseScanend api config call snapshot)

theorem messageOn_odometry (sensor : Sensor) (moment : Moment) :
    messageOn api config ids call snapshot (odometryTopic sensor moment) =
      .odometry
        { topic := odometryTopic sensor moment
          corrected := call.corrected }
        (odometryFor api config ids call sensor moment) := by
  cases sensor <;> cases moment <;> rfl

theorem messageOn_pose (sensor : Sensor) (moment : Moment) :
    messageOn api config ids call snapshot (poseTopic sensor moment) =
      .pose
        { topic := poseTopic sensor moment
          corrected := call.corrected }
        (poseFor api config call snapshot sensor moment) := by
  cases sensor <;> cases moment <;> rfl

/-- The LiDAR pose is the IMU pose times the inverse extrinsic. -/
theorem odometryFor_lidar (moment : Moment) :
    (odometryFor api config ids call .lidar moment).pose.isometry =
      (odometryFor api config ids call .imu moment).pose.isometry *
        call.frame.tLidarImu⁻¹ := by
  cases moment <;> simp [odometryFor]

theorem poseFor_lidar (moment : Moment) :
    (poseFor api config call snapshot .lidar moment).pose.isometry =
      (poseFor api config call snapshot .imu moment).pose.isometry *
        call.frame.tLidarImu⁻¹ := by
  cases moment <;> simp [poseFor]

/-- With a snapshot of one trajectory the map-frame poses are the
odometry-frame poses moved by its anchor. -/
theorem poseFor_eq (anchored : snapshot.tWorldImu =
      snapshot.tWorldOdom * call.frame.tWorldImu)
    (sensor : Sensor) (moment : Moment) :
    (poseFor api config call snapshot sensor moment).pose.isometry =
      snapshot.tWorldOdom *
        (odometryFor api config ids call sensor moment).pose.isometry := by
  cases sensor <;> cases moment <;>
    simp [poseFor, odometryFor, anchored, mul_assoc]

/-- A trajectory that starts at the pose of the frame ends at the scan-end
pose. -/
theorem odomScanend_of_start {first last : ImuRateColumn K}
    (begins : call.frame.imuRateTrajectory.head? = some first)
    (ends : call.frame.imuRateTrajectory.getLast? = some last)
    (start : Isometry3d.ofParts first.orientation first.position =
      call.frame.tWorldImu) :
    (odomScanend api config ids call).pose.isometry =
      Isometry3d.ofParts last.orientation last.position := by
  have relative : imuBeginToEnd call.frame =
      call.frame.tWorldImu⁻¹ *
        Isometry3d.ofParts last.orientation last.position := by
    rw [← start]
    unfold imuBeginToEnd
    split
    next empty => rw [empty] at begins; cases begins
    next head tail same =>
      rw [same, List.head?_cons, Option.some_inj] at begins
      rw [same, List.getLast?_eq_getLast_of_ne_nil (List.cons_ne_nil _ _),
        Option.some_inj] at ends
      rw [ends, begins]
      rfl
  rw [odomScanend_isometry, relative, mul_inv_cancel_left]

theorem odomScanend_of_empty
    (trajectory : call.frame.imuRateTrajectory = []) :
    (odomScanend api config ids call).pose.isometry =
      call.frame.tWorldImu := by
  have relative : imuBeginToEnd call.frame = 1 := by
    unfold imuBeginToEnd
    split
    next _ => rfl
    next head tail same => rw [trajectory] at same; cases same
  rw [odomScanend_isometry, relative, mul_one]

end Publishing

/-! ## Every run -/

/-- A batch was published from a snapshot of one trajectory. -/
structure Recorded (api : ViewerApi K) (config : ViewerConfig K)
    (batch : Batch api) : Prop where
  outputs : batch.outputs =
    publish api config batch.ids batch.call batch.snapshot batch.subscribed
      batch.lookup
  anchored : batch.snapshot.tWorldImu =
    batch.snapshot.tWorldOdom * batch.call.frame.tWorldImu

/-- All batches are recorded, and so will be the one under way. -/
structure Publishes (config : ViewerConfig K) (viewer : RvizViewer api) :
    Prop where
  underWay : ∀ call snapshot, viewer.odometryPc = .publish call snapshot →
    snapshot.tWorldImu = snapshot.tWorldOdom * call.frame.tWorldImu
  published : ∀ batch ∈ viewer.published, Recorded api config batch

theorem Publishes.step (exact : api.ExactAnchor)
    {viewer next : RvizViewer api} (publishes : Publishes config viewer)
    (step : ViewerStep api config viewer next) : Publishes config next := by
  obtain ⟨underWay, published⟩ := publishes
  cases step with
  | newFrame call pc =>
      refine ⟨?_, published⟩
      intro other snapshot same
      cases same
  | @lock call pc =>
      refine ⟨?_, published⟩
      intro other snapshot same
      cases same
      exact exact _ _
  | @publish call snapshot pc subscribed lookup =>
      constructor
      · intro other later same
        cases same
      · intro batch member
        rcases List.mem_append.mp member with earlier | last
        · exact published batch earlier
        · cases List.mem_singleton.mp last
          exact ⟨rfl, underWay call snapshot pc⟩
  | detect metaConfig => exact ⟨underWay, published⟩
  | notify submaps pc captured => exact ⟨underWay, published⟩
  | invoke pc => exact ⟨underWay, published⟩
  | spinOnce running finished => exact ⟨underWay, published⟩
  | runTask running taken subscribed now result =>
      exact ⟨underWay, published⟩

theorem reachable_recorded (exact : api.ExactAnchor) (ids : FrameIds)
    (metaConfig : MetaConfig) (now : Int) {viewer : RvizViewer api}
    (reachable :
      (viewerSystem api config
        (RvizViewer.start api ids metaConfig now)).Reachable viewer) :
    ∀ batch ∈ viewer.published, Recorded api config batch := by
  have publishes : Publishes config viewer := by
    apply reachable.invariant (Publishes config)
    · intro state init
      cases init
      constructor
      · intro call snapshot same
        cases same
      · intro batch member
        cases member
    · intro state next _ publishes step
      exact publishes.step exact step
  exact publishes.published

/-- What ties the messages and edges of a batch together: one anchor, one
message for every topic, and one extrinsic. -/
structure Consistent (api : ViewerApi K) (config : ViewerConfig K)
    (batch : Batch api) (tWorldOdom : Isometry3d K)
    (odometry : Sensor → Moment → Odometry K)
    (poses : Sensor → Moment → PoseStamped K) : Prop where
  outputs : batch.outputs =
    publish api config batch.ids batch.call batch.snapshot batch.subscribed
      batch.lookup
  /-- A topic carries the same message under every set of subscriptions that
  contains it. -/
  independent : ∀ topic, ∃ message, ∀ subscribed lookup,
    on { topic := topic, corrected := batch.call.corrected }
        (publish api config batch.ids batch.call batch.snapshot subscribed
          lookup) =
      if subscribed { topic := topic, corrected := batch.call.corrected } then
        [message]
      else []
  odometryMessages : ∀ sensor moment subscribed lookup,
    on { topic := odometryTopic sensor moment
         corrected := batch.call.corrected }
        (publish api config batch.ids batch.call batch.snapshot subscribed
          lookup) =
      if subscribed
          { topic := odometryTopic sensor moment
            corrected := batch.call.corrected } then
        [.odometry
          { topic := odometryTopic sensor moment
            corrected := batch.call.corrected }
          (odometry sensor moment)]
      else []
  poseMessages : ∀ sensor moment subscribed lookup,
    on { topic := poseTopic sensor moment
         corrected := batch.call.corrected }
        (publish api config batch.ids batch.call batch.snapshot subscribed
          lookup) =
      if subscribed
          { topic := poseTopic sensor moment
            corrected := batch.call.corrected } then
        [.pose
          { topic := poseTopic sensor moment
            corrected := batch.call.corrected }
          (poses sensor moment)]
      else []
  frameIds : ∀ sensor moment,
    (odometry sensor moment).header.frameId = config.odomFrameId ∧
      (poses sensor moment).header.frameId = config.mapFrameId
  anchored : ∀ sensor moment,
    (poses sensor moment).pose.isometry =
      tWorldOdom * (odometry sensor moment).pose.isometry
  lidar : ∀ moment,
    (odometry .lidar moment).pose.isometry =
        (odometry .imu moment).pose.isometry *
          batch.call.frame.tLidarImu⁻¹ ∧
      (poses .lidar moment).pose.isometry =
        (poses .imu moment).pose.isometry * batch.call.frame.tLidarImu⁻¹
  scanendOfStart : ∀ first last,
    batch.call.frame.imuRateTrajectory.head? = some first →
    batch.call.frame.imuRateTrajectory.getLast? = some last →
    Isometry3d.ofParts first.orientation first.position =
      batch.call.frame.tWorldImu →
    (odometry .imu .scanend).pose.isometry =
      Isometry3d.ofParts last.orientation last.position
  scanendOfEmpty : batch.call.frame.imuRateTrajectory = [] →
    (odometry .imu .scanend).pose.isometry = batch.call.frame.tWorldImu
  quiet : batch.call.corrected = true → edges batch.outputs = []
  broadcast : batch.call.corrected = false →
    ∃ (base : Option (TransformStamped K)) (world : TransformStamped K)
      (extrinsic : Option (TransformStamped K)),
      edges batch.outputs = base.toList ++ [world] ++ extrinsic.toList ∧
      world.header.frameId = config.mapFrameId ∧
      world.childFrameId = config.odomFrameId ∧
      world.isometry = tWorldOdom ∧
      ∀ imuBase, batch.ids.base ≠ batch.ids.imu →
        batch.lookup batch.ids.imu batch.ids.base
            (api.fromSec batch.call.frame.stamp) = some imuBase →
        ∃ edge, base = some edge ∧
          edge.header.frameId = config.odomFrameId ∧
          edge.childFrameId = batch.ids.base ∧
          edge.isometry * imuBase.isometry⁻¹ =
            (odometry .imu .stamp).pose.isometry

theorem Recorded.broadcast {batch : Batch api}
    (recorded : Recorded api config batch)
    (new : batch.call.corrected = false) :
    edges batch.outputs =
      (odomToBase api config batch.ids batch.call batch.lookup).toList ++
        [worldToOdom api config batch.call batch.snapshot] ++
        (if config.publishImu2lidar then
          some (imuToLidar api config batch.ids batch.call)
        else none).toList := by
  rw [recorded.outputs, edges_publish, broadcastTransforms, new]
  cases config.publishImu2lidar
  · rfl
  · rfl

/-- The edge to a looked-up base frame, followed back to the IMU. -/
theorem odomToBase_of_lookup (config : ViewerConfig K) {ids : FrameIds}
    {call : Call K}
    {lookup : String → String → Time → Option (TransformStamped K)}
    {imuBase : TransformStamped K} (other : ids.base ≠ ids.imu)
    (found : lookup ids.imu ids.base (api.fromSec call.frame.stamp) =
      some imuBase) :
    ∃ edge, odomToBase api config ids call lookup = some edge ∧
      edge.header.frameId = config.odomFrameId ∧
      edge.childFrameId = ids.base ∧
      edge.isometry * imuBase.isometry⁻¹ = call.frame.tWorldImu := by
  refine ⟨_, by rw [odomToBase, if_neg other, found, Option.map_some],
    rfl, rfl, ?_⟩
  rw [transformStamped_isometry, mul_inv_cancel_right]

/-- Everything published for a frame is consistent, in every run and under
every interleaving with anchor updates. -/
theorem published_consistent
    (api : ViewerApi K) (config : ViewerConfig K) (exact : api.ExactAnchor)
    (ids : FrameIds) (metaConfig : MetaConfig) (now : Int)
    {viewer : RvizViewer api}
    (reachable :
      (viewerSystem api config
        (RvizViewer.start api ids metaConfig now)).Reachable viewer)
    {batch : Batch api} (member : batch ∈ viewer.published) :
    ∃ tWorldOdom odometry poses,
      Consistent api config batch tWorldOdom odometry poses := by
  have recorded := reachable_recorded exact ids metaConfig now reachable
    batch member
  refine ⟨batch.snapshot.tWorldOdom,
    odometryFor api config batch.ids batch.call,
    poseFor api config batch.call batch.snapshot, ?_⟩
  constructor
  case outputs => exact recorded.outputs
  case independent =>
    intro topic
    exact ⟨_, fun subscribed lookup => on_publish _ _ _ _ _ _ _ topic⟩
  case odometryMessages =>
    intro sensor moment subscribed lookup
    rw [on_publish, messageOn_odometry]
  case poseMessages =>
    intro sensor moment subscribed lookup
    rw [on_publish, messageOn_pose]
  case frameIds =>
    intro sensor moment
    cases sensor <;> cases moment <;> exact ⟨rfl, rfl⟩
  case anchored => exact poseFor_eq _ _ _ _ _ recorded.anchored
  case lidar =>
    intro moment
    exact ⟨odometryFor_lidar _ _ _ _ moment, poseFor_lidar _ _ _ _ moment⟩
  case scanendOfStart =>
    intro first last begins ends start
    exact odomScanend_of_start _ _ _ _ begins ends start
  case scanendOfEmpty =>
    intro trajectory
    exact odomScanend_of_empty _ _ _ _ trajectory
  case quiet =>
    intro corrected
    rw [recorded.outputs, edges_publish, broadcastTransforms,
      if_pos corrected]
  case broadcast =>
    intro new
    refine ⟨_, _, _, recorded.broadcast new, rfl, rfl,
      transformStamped_isometry _ _ _ _ _ _, ?_⟩
    intro imuBase other found
    obtain ⟨edge, same, frameId, child, back⟩ :=
      odomToBase_of_lookup config other found
    refine ⟨edge, same, frameId, child, ?_⟩
    rw [back, odometryFor, odom_isometry]

def sweepStart : ImuRateColumn ℝ :=
  { stamp := 1
    position := ![1, 0, 0]
    orientation := halfTurn }

def sweepEnd : ImuRateColumn ℝ :=
  { stamp := 1.1
    position := ![1.5, 1, 0]
    orientation := upsideDown }

/-- A frame one metre ahead and half turned, with a scan that ends another
half a metre ahead and one aside, upside down. -/
def sweep : Call ℝ :=
  { frame :=
      { (scan 1 (shift 1)).frame with
        tWorldImu := .ofParts halfTurn ![1, 0, 0]
        imuRateTrajectory := [sweepStart, sweepEnd] }
    corrected := false }

/-- The base frame looks back from half a metre above the IMU. -/
noncomputable def imuToBase : TransformStamped ℝ :=
  { header :=
      { stamp := { sec := 1, nanosec := 0 }
        frameId := "imu" }
    childFrameId := "base_link"
    translation := ⟨0, 0, 0.5⟩
    rotation := halfTurn }

/-- The frame comes after a loop closure that has moved the anchor by a
metre; its base frame is looked up. -/
theorem published_consistent_scan :
    ∃ (viewer : RvizViewer realApi) (batch : Batch realApi)
        (tWorldOdom : Isometry3d ℝ) (odometry : Sensor → Moment → Odometry ℝ)
        (poses : Sensor → Moment → PoseStamped ℝ),
      (viewerSystem realApi realConfig
        (RvizViewer.start realApi (.configured "" "" "base_link") .empty
          0)).Reachable viewer ∧
        batch ∈ viewer.published ∧ batch.call = sweep ∧
        Consistent realApi realConfig batch tWorldOdom odometry poses ∧
        tWorldOdom = shift 1 ∧
        (odometry .imu .scanend).pose.isometry =
          .ofParts upsideDown ![1.5, 1, 0] ∧
        (poses .imu .scanend).pose.isometry =
          .ofParts upsideDown ![2.5, 1, 0] := by
  have reachable :=
    reachable_afterFrame (closedViewer_reachable (.configured "" "" "base_link"))
      rfl sweep (fun _ => true) (fun _ _ _ => some imuToBase)
  have member :
      frameBatch realConfig (closedViewer (.configured "" "" "base_link"))
          sweep (fun _ => true) (fun _ _ _ => some imuToBase) ∈
        (afterFrame realConfig (closedViewer (.configured "" "" "base_link"))
          sweep (fun _ => true) (fun _ _ _ => some imuToBase)).published :=
    List.mem_append_right _ (List.mem_singleton.mpr rfl)
  obtain ⟨tWorldOdom, odometry, poses, consistent⟩ :=
    published_consistent realApi realConfig realApi_exactAnchor _ _ _
      reachable member
  have anchor : tWorldOdom = shift 1 := by
    obtain ⟨base, world, extrinsic, listed, _, _, anchored, looked⟩ :=
      consistent.broadcast rfl
    obtain ⟨edge, rfl, _⟩ := looked imuToBase (by decide) rfl
    rw [consistent.outputs, edges_publish] at listed
    obtain ⟨_, rest⟩ := List.cons.inj listed
    obtain ⟨rfl, _⟩ := List.cons.inj rest
    rw [← anchored, worldToOdom, transformStamped_isometry]
    exact closedViewer_anchor _
  have odomScanend : (odometry .imu .scanend).pose.isometry =
      .ofParts upsideDown ![1.5, 1, 0] :=
    consistent.scanendOfStart sweepStart sweepEnd rfl rfl rfl
  have moved : (![1.5, 1, 0] + ![1, 0, 0] : Fin 3 → ℝ) = ![2.5, 1, 0] := by
    ext index
    fin_cases index <;> norm_num
  refine ⟨_, _, tWorldOdom, odometry, poses, reachable, member, rfl,
    consistent, anchor, odomScanend, ?_⟩
  rw [consistent.anchored, odomScanend, anchor, shift_mul_ofParts, moved]

end GlimRos.Viewer
