import GlimRos.Library.Transducer
import GlimRos.Node.ImuStream

/-!
# What odometry is given

The callbacks keep the detected frame names, the acceleration scale and the
time keeper from one message to the next.  Whatever the timer, the workers
and `wait` do in between, odometry is given what handling the messages one
after the other yields.
-/

namespace GlimRos

open Transition

variable {K : Type} {glim : Glim K}

/-- The arguments of the insertions into odometry. -/
abbrev OdometryInput (glim : Glim K) :=
  StageInput glim glim.PreprocessedFrame

/-- What the callbacks keep from one message to the next. -/
@[ext]
structure FrontEnd (glim : Glim K) where
  metaConfig : MetaConfig
  accScale : K
  timeKeeper : glim.TimeKeeper

def Node.frontEnd (node : Node glim) : FrontEnd glim :=
  { metaConfig := node.metaConfig
    accScale := node.accScale
    timeKeeper := node.timeKeeper }

/-- The input that the running callback has not inserted anywhere. -/
@[simp] def Pc.odometryInputLag : Pc glim → List (OdometryInput glim)
  | .insertImu .odometryEstimation sample => [.imu sample]
  | .insertImage .odometryEstimation stamp image => [.image stamp image]
  | .insertFrame preprocessed => [.payload preprocessed]
  | _ => []

/-- All inputs that odometry has got or is about to get. -/
def Node.odometryInputs (node : Node glim) : List (OdometryInput glim) :=
  node.odometryEstimation.inserted ++ node.pc.odometryInputLag

section Callbacks

variable [Field K] [LinearOrder K]

/-- `imu_callback` with nothing running beside it. -/
def FrontEnd.handleImu (config : NodeConfig K) (frontEnd : FrontEnd glim)
    (msg : ImuMsg K) : FrontEnd glim × List (OdometryInput glim) :=
  let accScale :=
    detectAccScale glim frontEnd.accScale msg.linearAcceleration
  let (valid, timeKeeper) :=
    glim.validateImuStamp frontEnd.timeKeeper (imuStamp config msg)
  ({ metaConfig :=
      { frontEnd.metaConfig with
        imuFrameId :=
          MetaConfig.detect frontEnd.metaConfig.imuFrameId msg.frameId }
     accScale := accScale
     timeKeeper := timeKeeper },
    if valid then [.imu (imuSample config accScale msg)] else [])

/-- `image_callback` with nothing running beside it. -/
def FrontEnd.handleImage (frontEnd : FrontEnd glim) (msg : ImageMsg glim) :
    FrontEnd glim × List (OdometryInput glim) :=
  ({ frontEnd with
     metaConfig :=
      { frontEnd.metaConfig with
        imageFrame :=
          MetaConfig.detect frontEnd.metaConfig.imageFrame msg.frameId } },
    [.image ((msg.sec : K) + (msg.nanosec : K) / 1e9)
      (glim.toCvCopy msg.data)])

/-- `points_callback` with nothing running beside it. -/
def FrontEnd.handlePoints (config : NodeConfig K) (frontEnd : FrontEnd glim)
    (msg : PointCloudMsg glim) : FrontEnd glim × List (OdometryInput glim) :=
  let metaConfig :=
    { frontEnd.metaConfig with
      lidarFrameId :=
        MetaConfig.detect frontEnd.metaConfig.lidarFrameId msg.frameId }
  match glim.extractRawPoints msg.data config.intensityField
      config.ringField with
  | none => ({ frontEnd with metaConfig := metaConfig }, [])
  | some extracted =>
      let (valid, timeKeeper, rawPoints) :=
        glim.process frontEnd.timeKeeper
          (glim.shiftStamp config.pointsTimeOffset extracted)
      let preprocessed := glim.preprocess rawPoints
      ({ frontEnd with metaConfig := metaConfig, timeKeeper := timeKeeper },
        if valid then
          [.payload
            (if config.keepRawPoints then
              glim.setRawPoints preprocessed rawPoints
            else preprocessed)]
        else [])

/-- The callbacks as a sequential transducer from messages to the input of
odometry. -/
def frontEndTransducer (glim : Glim K) (config : NodeConfig K) :
    Transducer (FrontEnd glim) (Message glim) (OdometryInput glim) :=
  { handle := fun frontEnd message =>
      match message with
      | .imu msg => frontEnd.handleImu config msg
      | .image msg => frontEnd.handleImage msg
      | .points msg => frontEnd.handlePoints config msg }

/-! ## Runs with the messages they received -/

/-- The states of a run together with the messages received so far. -/
inductive Received (config : NodeConfig K) (start : Node glim) :
    List (Message glim) → Node glim → Prop where
  | start : Received config start [] start
  | message {log : List (Message glim)} {node : Node glim}
      (earlier : Received config start log node) (idle : node.pc = .idle)
      (message : Message glim) :
      Received config start (log ++ [message]) (node.receive config message)
  | silent {log : List (Message glim)} {node next : Node glim}
      (earlier : Received config start log node)
      (step : SilentStep node next) : Received config start log next

variable {config : NodeConfig K} {start node next : Node glim}
  {log : List (Message glim)}

theorem Received.reachable (received : Received config start log node) :
    (nodeSystem config start).Reachable node := by
  induction received with
  | start => exact .init rfl
  | message earlier idle message induction =>
      exact induction.step (.receives idle message)
  | silent earlier step induction => exact induction.step (.silent step)

/-- Every run has received some messages. -/
theorem exists_received (reachable : (nodeSystem config start).Reachable node) :
    ∃ log, Received config start log node := by
  refine reachable.invariant
    (fun node => ∃ log, Received config start log node) ?_ ?_
  · rintro _ rfl
    exact ⟨[], .start⟩
  · rintro node next _ ⟨log, received⟩ step
    cases step with
    | receives idle message => exact ⟨_, received.message idle message⟩
    | silent step => exact ⟨_, received.silent step⟩

/-- What a message starts: nothing, or the insertions of its callback. -/
inductive Pc.Started : Pc glim → Prop where
  | idle : Started .idle
  | insertImu (sample : ImuSample K) :
      Started (.insertImu .odometryEstimation sample)
  | insertImage (stamp : K) (image : glim.CvImage) :
      Started (.insertImage .odometryEstimation stamp image)
  | insertFrame (preprocessed : glim.PreprocessedFrame) :
      Started (.insertFrame preprocessed)

theorem receive_started (config : NodeConfig K) (idle : node.pc = .idle)
    (message : Message glim) :
    (node.receive config message).pc.Started := by
  cases message with
  | imu msg =>
      simp only [Node.receive, imuCallback]
      split
      · exact .insertImu _
      · exact .idle
  | image msg => exact .insertImage _ _
  | points msg =>
      simp only [Node.receive, pointsCallback]
      split
      · simpa [idle] using Pc.Started.idle
      · dsimp only
        split
        · exact .insertFrame _
        · exact .idle

/-! ## The callbacks handle their messages in turn -/

omit [Field K] [LinearOrder K] in
/-- A callback that rejects its message has nothing to insert. -/
theorem odometryInputLag_ite (valid : Bool) (pc : Pc glim) :
    (if valid then pc else .idle).odometryInputLag =
      if valid then pc.odometryInputLag else [] := by
  cases valid <;> rfl

/-- Entering a callback handles its message. -/
theorem receive_handles (idle : node.pc = .idle) (message : Message glim) :
    (node.receive config message).frontEnd =
        ((frontEndTransducer glim config).handle node.frontEnd message).1 ∧
      (node.receive config message).odometryInputs =
        node.odometryInputs ++
          ((frontEndTransducer glim config).handle node.frontEnd message).2 := by
  have caughtUp : node.odometryInputs = node.odometryEstimation.inserted := by
    simp [Node.odometryInputs, idle]
  rw [caughtUp]
  cases message with
  | imu msg =>
      refine ⟨rfl, ?_⟩
      exact congrArg (node.odometryEstimation.inserted ++ ·)
        (odometryInputLag_ite _ _)
  | image msg => exact ⟨rfl, rfl⟩
  | points msg =>
      simp only [Node.receive, Node.odometryInputs, frontEndTransducer,
        FrontEnd.handlePoints, pointsCallback, Node.frontEnd]
      cases glim.extractRawPoints msg.data config.intensityField
          config.ringField with
      | none => simp [idle]
      | some extracted =>
          refine ⟨rfl, ?_⟩
          exact congrArg (node.odometryEstimation.inserted ++ ·)
            (odometryInputLag_ite _ _)

omit [Field K] [LinearOrder K] in
theorem statement_inputs (statement : Statement node next) :
    next.frontEnd = node.frontEnd ∧
      next.odometryInputs = node.odometryInputs := by
  cases statement with
  | joinOdometry here returns target =>
      subst target
      refine ⟨rfl, ?_⟩
      split <;> simp [Node.odometryInputs, here]
  | getResults here target =>
      subst target
      refine ⟨rfl, ?_⟩
      split <;> simp [Node.odometryInputs, here]
  | @framesDone caller _ here target =>
      subst target
      cases caller <;> exact ⟨rfl, by simp [Node.odometryInputs, here]⟩
  | @getSubmaps caller _ _ here present target =>
      subst target
      refine ⟨rfl, ?_⟩
      cases caller <;> split <;>
        simp [Node.odometryInputs, here, afterSubmaps]
  | @submapsDone caller here =>
      cases caller <;>
        exact ⟨rfl, by simp [Node.odometryInputs, here, afterSubmaps]⟩
  | poll here => exact ⟨rfl, rfl⟩
  | _ here => exact ⟨rfl, by simp [Node.odometryInputs, here]⟩

omit [Field K] [LinearOrder K] in
/-- No other step touches what the callbacks keep or the input of odometry. -/
theorem silentStep_inputs (step : SilentStep node next) :
    next.frontEnd = node.frontEnd ∧
      next.odometryInputs = node.odometryInputs := by
  cases step with
  | timer idle modulesOk =>
      exact ⟨rfl, by simp [Node.odometryInputs, timerCallback, idle]⟩
  | wait ready autoQuit =>
      refine ⟨rfl, ?_⟩
      rcases ready with idle | waited
      · simp [Node.odometryInputs, idle]
      · simp [Node.odometryInputs, waited]
  | statement modulesOk advanced =>
      exact statement_inputs (advance_statement advanced)
  | works works => cases works <;> exact ⟨rfl, rfl⟩
  | shutdown => exact ⟨rfl, rfl⟩

/-- In every run the input of odometry is what handling the received messages
one after the other yields. -/
theorem Received.handled (fresh : start.odometryInputs = [])
    (received : Received config start log node) :
    (frontEndTransducer glim config).run start.frontEnd log =
      (node.frontEnd, node.odometryInputs) := by
  induction received with
  | start => rw [Transducer.run_nil, fresh]
  | message earlier idle message induction =>
      obtain ⟨frontEnd, inputs⟩ := receive_handles idle message
      rw [Transducer.run_concat, induction, frontEnd, inputs]
  | silent earlier step induction =>
      obtain ⟨frontEnd, inputs⟩ := silentStep_inputs step
      rw [induction, frontEnd, inputs]

end Callbacks

end GlimRos
