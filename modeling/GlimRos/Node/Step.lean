import GlimRos.Node.Basic
import GlimRos.Library.Transition
import Mathlib.Algebra.Order.Ring.Unbundled.Rat

/-!
# The callbacks of `GlimROS` and its worker threads

Each callback is split at the statements that touch a stage: the part before
the first of them runs when the callback is entered, and `advance` executes
one statement at a time.  Worker threads may step in between.
-/

namespace GlimRos

variable {K : Type} [Field K] [LinearOrder K] {glim : Glim K}

/-- `imu_callback`: latch the acceleration unit while no scale is set. -/
def detectAccScale (glim : Glim K) (accScale : K)
    (linearAcceleration : Vector3 K) : K :=
  if |accScale| < 1e-6 then
    let norm := glim.norm linearAcceleration
    if 7.0 < norm ∧ norm < 12.0 then 1.0
    else if 0.8 < norm ∧ norm < 1.2 then 9.80665
    else 1.0
  else accScale

def scaled (scale : K) (vector : Vector3 K) : Vector3 K :=
  { x := scale * vector.x
    y := scale * vector.y
    z := scale * vector.z }

/-- `imu_callback` up to the stamp check. -/
def imuCallback (config : NodeConfig K) (node : Node glim)
    (msg : ImuMsg K) : Node glim :=
  let accScale := detectAccScale glim node.accScale msg.linearAcceleration
  let sample : ImuSample K :=
    { stamp := (msg.sec : K) + (msg.nanosec : K) / 1e9 + config.imuTimeOffset
      linearAcc := scaled accScale msg.linearAcceleration
      angularVel := msg.angularVelocity }
  let (valid, timeKeeper) := glim.validateImuStamp node.timeKeeper sample.stamp
  { node with
    metaConfig :=
      { node.metaConfig with
        imuFrameId :=
          MetaConfig.detect node.metaConfig.imuFrameId msg.frameId }
    accScale := accScale
    timeKeeper := timeKeeper
    pc := if valid then .insertImu .odometryEstimation sample else .idle }

/-- `image_callback` up to the first insertion. -/
def imageCallback (node : Node glim) (msg : ImageMsg glim) : Node glim :=
  { node with
    metaConfig :=
      { node.metaConfig with
        imageFrame :=
          MetaConfig.detect node.metaConfig.imageFrame msg.frameId }
    pc := .insertImage .odometryEstimation
      ((msg.sec : K) + (msg.nanosec : K) / 1e9) (glim.toCvCopy msg.data) }

/-- `points_callback` up to the insertion of the preprocessed frame. -/
def pointsCallback (config : NodeConfig K) (node : Node glim)
    (msg : PointCloudMsg glim) : Node glim :=
  let node :=
    { node with
      metaConfig :=
        { node.metaConfig with
          lidarFrameId :=
            MetaConfig.detect node.metaConfig.lidarFrameId msg.frameId } }
  match glim.extractRawPoints msg.data config.intensityField
      config.ringField with
  | none => node
  | some extracted =>
      let (valid, timeKeeper, rawPoints) :=
        glim.process node.timeKeeper
          (glim.shiftStamp config.pointsTimeOffset extracted)
      let preprocessed := glim.preprocess rawPoints
      let preprocessed :=
        if config.keepRawPoints then
          glim.setRawPoints preprocessed rawPoints
        else preprocessed
      { node with
        timeKeeper := timeKeeper
        pc := if valid then .insertFrame preprocessed else .idle }

/-- `timer_callback` up to `get_results`: a module that is not ok shuts ROS
down, and the callback goes on. -/
def timerCallback (node : Node glim) (modulesOk : Bool) : Node glim :=
  { node with
    rclcppOk := node.rclcppOk && modulesOk
    pc := .getResults .timer }

/-- The statement after the submaps of a drain were handled. -/
def afterSubmaps (globalMappingEnabled : Bool) : Caller → Pc glim
  | .timer => .idle
  | .wait autoQuit =>
      if globalMappingEnabled then .joinGlobalMapping autoQuit
      else .pollModules autoQuit

/-- Insert one input into a stage unless its pointer is null. -/
def insertIfEnabled {Input Output : Type}
    (stage : Option (Stage Input Output)) (input : Input) :
    Option (Stage Input Output) :=
  stage.map fun enabled => enabled.insert input

/-- Execute the next statement of the running callback.  `none` means that
no callback is running or that the statement is a join that blocks. -/
def advance (node : Node glim) (modulesOk : Bool) : Option (Node glim) :=
  match node.pc with
  | .idle | .waited => none
  | .insertImu .odometryEstimation sample =>
      some { node with
        odometryEstimation := node.odometryEstimation.insert (.imu sample)
        pc := .insertImu .subMapping sample }
  | .insertImu .subMapping sample =>
      some { node with
        subMapping := insertIfEnabled node.subMapping (.imu sample)
        pc := .insertImu .globalMapping sample }
  | .insertImu .globalMapping sample =>
      some { node with
        globalMapping := insertIfEnabled node.globalMapping (.imu sample)
        pc := .idle }
  | .insertImage .odometryEstimation stamp image =>
      some { node with
        odometryEstimation :=
          node.odometryEstimation.insert (.image stamp image)
        pc := .insertImage .subMapping stamp image }
  | .insertImage .subMapping stamp image =>
      some { node with
        subMapping := insertIfEnabled node.subMapping (.image stamp image)
        pc := .insertImage .globalMapping stamp image }
  | .insertImage .globalMapping stamp image =>
      some { node with
        globalMapping :=
          insertIfEnabled node.globalMapping (.image stamp image)
        pc := .idle }
  | .insertFrame preprocessed =>
      some { node with
        odometryEstimation :=
          node.odometryEstimation.insert (.payload preprocessed)
        pc := .idle }
  | .joinOdometry autoQuit =>
      if node.odometryEstimation.joinReturns then
        some { node with
          odometryEstimation := node.odometryEstimation.join
          pc :=
            if node.subMapping.isSome then .getResults (.wait autoQuit)
            else .pollModules autoQuit }
      else none
  | .getResults caller =>
      some { node with
        odometryEstimation := node.odometryEstimation.fetched
        -- without sub mapping only the timer gets here, and it drops them
        pc :=
          if node.subMapping.isSome then
            .insertFrames caller node.odometryEstimation.buffer
          else .idle }
  | .insertFrames caller (frame :: marginalized) =>
      some { node with
        subMapping := insertIfEnabled node.subMapping (.payload frame)
        pc := .insertFrames caller marginalized }
  | .insertFrames .timer [] => some { node with pc := .getSubmaps .timer }
  | .insertFrames (.wait autoQuit) [] =>
      some { node with pc := .joinSubMapping autoQuit }
  | .joinSubMapping autoQuit =>
      node.subMapping.bind fun subMapping =>
        if subMapping.joinReturns then
          some { node with
            subMapping := some subMapping.join
            pc := .getSubmaps (.wait autoQuit) }
        else none
  | .getSubmaps caller =>
      node.subMapping.bind fun subMapping =>
        some { node with
          subMapping := some subMapping.fetched
          pc :=
            if node.globalMapping.isSome then
              .insertSubmaps caller subMapping.buffer
            else afterSubmaps false caller }
  | .insertSubmaps caller (submap :: submaps) =>
      some { node with
        globalMapping := insertIfEnabled node.globalMapping (.payload submap)
        pc := .insertSubmaps caller submaps }
  | .insertSubmaps caller [] =>
      some { node with pc := afterSubmaps true caller }
  | .joinGlobalMapping autoQuit =>
      node.globalMapping.bind fun globalMapping =>
        if globalMapping.joinReturns then
          some { node with
            globalMapping := some globalMapping.join
            pc := .pollModules autoQuit }
        else none
  | .pollModules autoQuit =>
      -- `while (!terminate && rclcpp::ok())`, skipped with `auto_quit`
      if autoQuit || !node.rclcppOk || !modulesOk then
        some { node with pc := .waited }
      else some node

/-- The IMU samples inserted into an optional mapping stage so far. -/
def stageImus {Payload Output : Type}
    (stage : Option (Stage (StageInput glim Payload) Output)) :
    List (ImuSample K) :=
  stage.elim [] fun enabled => StageInput.imus enabled.inserted

/-- The odometry worker emits a marginalized frame. -/
def odometryEmits (node : Node glim) (frame : glim.EstimationFrame) :
    Node glim :=
  { node with
    odometryEstimation := node.odometryEstimation.emit
      { value := frame
        odometryImus := StageInput.imus node.odometryEstimation.inserted
        subMappingImus := stageImus node.subMapping } }

/-- The sub mapping worker emits a submap. -/
def subMappingEmits (node : Node glim) (subMapping : SubMappingStage glim)
    (submap : glim.SubMap) : Node glim :=
  { node with
    subMapping := some (subMapping.emit
      { value := submap
        odometryImus := StageInput.imus node.odometryEstimation.inserted
        subMappingImus := StageInput.imus subMapping.inserted }) }

/-- The actions of the worker threads. -/
inductive Works : Node glim → Node glim → Prop where
  | odometryConsumes {node : Node glim}
      {input : StageInput glim glim.PreprocessedFrame}
      {rest : List (StageInput glim glim.PreprocessedFrame)}
      (consumes : node.odometryEstimation.Consumes input rest) :
      Works node
        { node with
          odometryEstimation := node.odometryEstimation.consume rest }
  | odometryEmits {node : Node glim} (frame : glim.EstimationFrame)
      (running : node.odometryEstimation.joined = false) :
      Works node (odometryEmits node frame)
  | subMappingConsumes {node : Node glim} {subMapping : SubMappingStage glim}
      (enabled : node.subMapping = some subMapping)
      {input : StageInput glim (Emission K glim.EstimationFrame)}
      {rest : List (StageInput glim (Emission K glim.EstimationFrame))}
      (consumes : subMapping.Consumes input rest) :
      Works node { node with subMapping := some (subMapping.consume rest) }
  | subMappingEmits {node : Node glim} {subMapping : SubMappingStage glim}
      (enabled : node.subMapping = some subMapping) (submap : glim.SubMap)
      (running : subMapping.joined = false) :
      Works node (subMappingEmits node subMapping submap)
  | globalMappingConsumes {node : Node glim}
      {globalMapping : GlobalMappingStage glim}
      (enabled : node.globalMapping = some globalMapping)
      {input : StageInput glim (Emission K glim.SubMap)}
      {rest : List (StageInput glim (Emission K glim.SubMap))}
      (consumes : globalMapping.Consumes input rest) :
      Works node
        { node with globalMapping := some (globalMapping.consume rest) }

/-- A step that is not the arrival of a message.  `wait` may be called again
after it returned, as the destructor does. -/
inductive SilentStep : Node glim → Node glim → Prop where
  | timer {node : Node glim} (idle : node.pc = .idle) (modulesOk : Bool) :
      SilentStep node (timerCallback node modulesOk)
  | wait {node : Node glim} (ready : node.pc = .idle ∨ node.pc = .waited)
      (autoQuit : Bool) :
      SilentStep node { node with pc := .joinOdometry autoQuit }
  | statement {node next : Node glim} (modulesOk : Bool)
      (advanced : advance node modulesOk = some next) : SilentStep node next
  | works {node next : Node glim} (works : Works node next) :
      SilentStep node next
  | shutdown {node : Node glim} :
      SilentStep node { node with rclcppOk := false }

/-- A message at one of the callbacks. -/
inductive Message (glim : Glim K) where
  | imu (msg : ImuMsg K)
  | image (msg : ImageMsg glim)
  | points (msg : PointCloudMsg glim)

/-- The entry of the callback of a message. -/
def Node.receive (config : NodeConfig K) (node : Node glim) :
    Message glim → Node glim
  | .imu msg => imuCallback config node msg
  | .image msg => imageCallback node msg
  | .points msg => pointsCallback config node msg

/-- One step of the callback thread or of a worker.  Callbacks start only
when none is running and `wait` has not been called. -/
inductive NodeStep (config : NodeConfig K) : Node glim → Node glim → Prop where
  | receives {node : Node glim} (idle : node.pc = .idle)
      (message : Message glim) :
      NodeStep config node (node.receive config message)
  | silent {node next : Node glim} (step : SilentStep node next) :
      NodeStep config node next

namespace NodeStep

variable {config : NodeConfig K} {node next : Node glim}

theorem imu (idle : node.pc = .idle) (msg : ImuMsg K) :
    NodeStep config node (imuCallback config node msg) :=
  .receives idle (.imu msg)

theorem timer (idle : node.pc = .idle) (modulesOk : Bool) :
    NodeStep config node (timerCallback node modulesOk) :=
  .silent (.timer idle modulesOk)

theorem wait (ready : node.pc = .idle ∨ node.pc = .waited)
    (autoQuit : Bool) :
    NodeStep config node { node with pc := .joinOdometry autoQuit } :=
  .silent (.wait ready autoQuit)

theorem statement (modulesOk : Bool)
    (advanced : advance node modulesOk = some next) :
    NodeStep config node next :=
  .silent (.statement modulesOk advanced)

theorem works (works : Works node next) : NodeStep config node next :=
  .silent (.works works)

end NodeStep

/-- The node with given stages, over all interleavings. -/
def nodeSystem (config : NodeConfig K) (start : Node glim) :
    Transition.System (Node glim) :=
  { Init := fun node => node = start
    Step := NodeStep config }

end GlimRos
