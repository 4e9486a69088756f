import GlimRos.Node.FrontEnd

/-!
# The sensor data of the mapping stages

`imu_callback` and `image_callback` feed odometry first and the mapping
stages after that, each on its own condition.  A mapping stage that exists
has the IMU samples and images of odometry, interleaved as odometry has them,
but for the one that the running callback still carries.
-/

namespace GlimRos

open Transition

variable {K : Type} {glim : Glim K}

/-- What `insert_imu` and `insert_image` take. -/
inductive SensorInput (glim : Glim K) where
  | imu (sample : ImuSample K)
  | image (stamp : K) (image : glim.CvImage)

section Inputs

variable {Payload Output : Type}

def StageInput.sensor? : StageInput glim Payload → Option (SensorInput glim)
  | .imu sample => some (.imu sample)
  | .image stamp cvImage => some (.image stamp cvImage)
  | .payload _ => none

/-- The IMU samples and images of an insertion history, in order. -/
def StageInput.sensors (history : List (StageInput glim Payload)) :
    List (SensorInput glim) :=
  history.filterMap StageInput.sensor?

@[simp] theorem sensors_append (history later : List (StageInput glim Payload)) :
    StageInput.sensors (history ++ later) =
      StageInput.sensors history ++ StageInput.sensors later := by
  simp [StageInput.sensors]

@[simp] theorem sensors_imu (sample : ImuSample K) :
    StageInput.sensors [(.imu sample : StageInput glim Payload)] =
      [.imu sample] := rfl

@[simp] theorem sensors_image (stamp : K) (image : glim.CvImage) :
    StageInput.sensors [(.image stamp image : StageInput glim Payload)] =
      [.image stamp image] := rfl

@[simp] theorem sensors_payload (item : Payload) :
    StageInput.sensors [(.payload item : StageInput glim Payload)] = [] := rfl

/-- The sensor data inserted into an optional stage. -/
def stageSensors (stage : Option (Stage (StageInput glim Payload) Output)) :
    List (SensorInput glim) :=
  stage.elim [] fun enabled => StageInput.sensors enabled.inserted

@[simp] theorem stageSensors_some
    (stage : Stage (StageInput glim Payload) Output) :
    stageSensors (some stage) = StageInput.sensors stage.inserted := rfl

/-- An input inserted into a stage that exists adds its own sensor data. -/
theorem insertIfEnabled_sensors
    {stage : Option (Stage (StageInput glim Payload) Output)}
    (enabled : stage.isSome) (input : StageInput glim Payload) :
    stageSensors (insertIfEnabled stage input) =
      stageSensors stage ++ StageInput.sensors [input] := by
  cases stage with
  | none => cases enabled
  | some stage => simp [insertIfEnabled]

end Inputs

namespace Pc

/-- The sensor datum that odometry has and sub mapping still lacks. -/
@[simp] def subMappingSensorLag : Pc glim → List (SensorInput glim)
  | .insertImu .subMapping sample => [.imu sample]
  | .insertImage .subMapping stamp image => [.image stamp image]
  | _ => []

/-- The sensor datum that odometry has and global mapping still lacks. -/
@[simp] def globalMappingSensorLag : Pc glim → List (SensorInput glim)
  | .insertImu .subMapping sample => [.imu sample]
  | .insertImu .globalMapping sample => [.imu sample]
  | .insertImage .subMapping stamp image => [.image stamp image]
  | .insertImage .globalMapping stamp image => [.image stamp image]
  | _ => []

/-- No callback is between its insertions. -/
def Between (pc : Pc glim) : Prop :=
  pc.subMappingSensorLag = [] ∧ pc.globalMappingSensorLag = []

end Pc

/-- The mapping stages that exist follow odometry. -/
structure SensorsFollow (node : Node glim) : Prop where
  subMapping : node.subMapping.isSome →
    StageInput.sensors node.odometryEstimation.inserted =
      stageSensors node.subMapping ++ node.pc.subMappingSensorLag
  globalMapping : node.globalMapping.isSome →
    StageInput.sensors node.odometryEstimation.inserted =
      stageSensors node.globalMapping ++ node.pc.globalMappingSensorLag

theorem sensorsFollow_start (metaConfig : MetaConfig) (accScale : K)
    (timeKeeper : glim.TimeKeeper)
    (enableSubMapping enableGlobalMapping : Bool) :
    SensorsFollow (Node.start glim metaConfig accScale timeKeeper
      enableSubMapping enableGlobalMapping) := by
  cases enableSubMapping <;> cases enableGlobalMapping <;>
    exact ⟨fun _ => rfl, fun _ => rfl⟩

/-- What the invariant reads of the stages. -/
structure SameSensors (node next : Node glim) : Prop where
  odometry : StageInput.sensors next.odometryEstimation.inserted =
    StageInput.sensors node.odometryEstimation.inserted
  subMappingExists : next.subMapping.isSome = node.subMapping.isSome
  subMapping : stageSensors next.subMapping = stageSensors node.subMapping
  globalMappingExists : next.globalMapping.isSome = node.globalMapping.isSome
  globalMapping :
    stageSensors next.globalMapping = stageSensors node.globalMapping
  subMappingLag : next.pc.subMappingSensorLag = node.pc.subMappingSensorLag
  globalMappingLag :
    next.pc.globalMappingSensorLag = node.pc.globalMappingSensorLag

variable {node next : Node glim}

theorem SensorsFollow.congr (follow : SensorsFollow node)
    (same : SameSensors node next) : SensorsFollow next := by
  constructor
  · rw [same.subMappingExists, same.odometry, same.subMapping,
      same.subMappingLag]
    exact follow.subMapping
  · rw [same.globalMappingExists, same.odometry, same.globalMapping,
      same.globalMappingLag]
    exact follow.globalMapping

/-- A callback that is entered leaves the stages alone. -/
theorem Enters.sameSensors (enters : Enters node next)
    (between : next.pc.Between) : SameSensors node next := by
  have before : node.pc.Between := by
    rcases enters.ready with here | here <;> rw [here] <;> exact ⟨rfl, rfl⟩
  exact
    { odometry := by rw [enters.odometryEstimation]
      subMappingExists := by rw [enters.subMapping]
      subMapping := by rw [enters.subMapping]
      globalMappingExists := by rw [enters.globalMapping]
      globalMapping := by rw [enters.globalMapping]
      subMappingLag := between.1.trans before.1.symm
      globalMappingLag := between.2.trans before.2.symm }

theorem works_sameSensors (works : Works node next) :
    SameSensors node next := by
  cases works with
  | odometryConsumes consumes => constructor <;> rfl
  | odometryEmits frame running => constructor <;> rfl
  | subMappingConsumes present consumes =>
      constructor <;> simp [present]
  | subMappingEmits present submap running =>
      constructor <;> simp [present, subMappingEmits]
  | globalMappingConsumes present consumes =>
      constructor <;> simp [present]

@[simp] theorem insertIfEnabled_payload_sensors {Payload Output : Type}
    (stage : Option (Stage (StageInput glim Payload) Output))
    (item : Payload) :
    stageSensors (insertIfEnabled stage (.payload item)) =
      stageSensors stage := by
  cases stage <;> simp [insertIfEnabled, stageSensors]

theorem statement_sensorsFollow (statement : Statement node next)
    (follow : SensorsFollow node) : SensorsFollow next := by
  obtain ⟨subMapping, globalMapping⟩ := follow
  cases statement with
  | imuOdometry here | imageOdometry here =>
      constructor
      · intro exist
        simpa [here] using subMapping exist
      · intro exist
        simpa [here] using globalMapping exist
  | imuSubMapping here | imageSubMapping here =>
      constructor
      · intro exist
        rw [insertIfEnabled_isSome] at exist
        simpa [here, insertIfEnabled_sensors exist] using subMapping exist
      · intro exist
        simpa [here] using globalMapping exist
  | imuGlobalMapping here | imageGlobalMapping here =>
      constructor
      · intro exist
        simpa [here] using subMapping exist
      · intro exist
        rw [insertIfEnabled_isSome] at exist
        simpa [here, insertIfEnabled_sensors exist] using globalMapping exist
  | insertFrame here =>
      constructor
      · intro exist
        simpa [here] using subMapping exist
      · intro exist
        simpa [here] using globalMapping exist
  | @joinOdometry autoQuit _ here returns target =>
      subst target
      constructor <;> intro exist <;> split <;> simp_all
  | @getResults caller _ here target =>
      subst target
      constructor <;> intro exist <;> split <;> simp_all
  | @getSubmaps caller stage _ here present target =>
      subst target
      constructor <;> intro exist <;> split <;> cases caller <;>
        simp_all [afterSubmaps]
  | @framesDone caller _ here target =>
      subst target
      cases caller <;> exact ⟨by simpa [here] using subMapping,
        by simpa [here] using globalMapping⟩
  | @submapsDone caller here =>
      cases caller with
      | timer =>
          exact ⟨by simpa [here, afterSubmaps] using subMapping,
            by simpa [here, afterSubmaps] using globalMapping⟩
      | wait autoQuit =>
          exact ⟨by simpa [here, afterSubmaps] using subMapping,
            by simpa [here, afterSubmaps] using globalMapping⟩
  | insertMarginalized here | insertSubmap here =>
      exact ⟨by simpa [here] using subMapping,
        by simpa [here] using globalMapping⟩
  | joinSubMapping here present returns
  | joinGlobalMapping here present returns =>
      exact ⟨by simpa [here, present] using subMapping,
        by simpa [here, present] using globalMapping⟩
  | quit here =>
      exact ⟨by simpa [here] using subMapping,
        by simpa [here] using globalMapping⟩
  | poll here => exact ⟨subMapping, globalMapping⟩

section Runs

variable [Field K] [LinearOrder K] {config : NodeConfig K}

omit [Field K] [LinearOrder K] in
theorem Pc.Started.between {pc : Pc glim} (started : pc.Started) :
    pc.Between := by
  cases started <;> exact ⟨rfl, rfl⟩

omit [Field K] [LinearOrder K] in
theorem silentStep_sensorsFollow (step : SilentStep node next)
    (follow : SensorsFollow node) : SensorsFollow next := by
  cases step with
  | timer idle modulesOk =>
      exact ⟨by simpa [idle, timerCallback] using follow.subMapping,
        by simpa [idle, timerCallback] using follow.globalMapping⟩
  | wait ready autoQuit =>
      rcases ready with here | here <;>
        exact ⟨by simpa [here] using follow.subMapping,
          by simpa [here] using follow.globalMapping⟩
  | statement modulesOk advanced =>
      exact statement_sensorsFollow (advance_statement advanced) follow
  | works works => exact follow.congr (works_sameSensors works)
  | shutdown => exact ⟨follow.subMapping, follow.globalMapping⟩

theorem Received.sensorsFollow {start : Node glim}
    {log : List (Message glim)} (fresh : SensorsFollow start)
    (received : Received config start log node) : SensorsFollow node := by
  induction received with
  | start => exact fresh
  | message earlier idle message induction =>
      exact induction.congr
        ((receive_enters idle config message).sameSensors
          (receive_started config idle message).between)
  | silent earlier step induction =>
      exact silentStep_sensorsFollow step induction

/-- In every run, for every choice of enabled stages and whatever the timer,
`wait` and the workers do in between: the messages received so far determine
all input of odometry, and the mapping stages that exist have the same IMU
samples and images in the same order, less the one that the running callback
is about to insert. -/
theorem stages_share_sensors (config : NodeConfig K) (metaConfig : MetaConfig)
    (accScale : K) (timeKeeper : glim.TimeKeeper)
    (enableSubMapping enableGlobalMapping : Bool)
    {log : List (Message glim)} {node : Node glim}
    (received : Received config
      (Node.start glim metaConfig accScale timeKeeper
        enableSubMapping enableGlobalMapping) log node) :
    (frontEndTransducer glim config).run
        { metaConfig, accScale, timeKeeper } log =
      (node.frontEnd, node.odometryInputs) ∧
      SensorsFollow node ∧
      node.pc.subMappingSensorLag.length ≤ 1 ∧
      node.pc.globalMappingSensorLag.length ≤ 1 := by
  refine ⟨received.handled rfl, ?_, ?_, ?_⟩
  · exact received.sensorsFollow (sensorsFollow_start metaConfig accScale
      timeKeeper enableSubMapping enableGlobalMapping)
  · cases node.pc with
    | insertImu target | insertImage target => cases target <;> simp
    | _ => simp
  · cases node.pc with
    | insertImu target | insertImage target => cases target <;> simp
    | _ => simp

end Runs

/-- An image and a sample behind it, which global mapping lacks, with a frame
emitted meanwhile.  Odometry has them as the messages came. -/
theorem stages_share_sensors_lagging :
    ∃ node : Node numberedGlim,
      Received defaultNodeConfig (Node.start numberedGlim .empty 1 () true true)
        [.image
          { frameId := "camera", sec := 1, nanosec := 0, data := (7 : Nat) },
         .imu levelImu] node ∧
        node.odometryInputs =
          [.image 1 (7 : Nat), .imu ⟨1, ⟨0, 0, 49 / 5⟩, ⟨0, 0, 0⟩⟩] ∧
        node.pc.globalMappingSensorLag.length = 1 ∧
        (stageSensors node.globalMapping).length = 1 ∧
        SensorsFollow node := by
  have started : Received defaultNodeConfig
      (Node.start numberedGlim .empty 1 () true true) [] _ := .start
  have image := started.message rfl
    (.image { frameId := "camera", sec := 1, nanosec := 0, data := (7 : Nat) })
  have odometryImage := image.silent (.statement true rfl)
  have subMappingImage := odometryImage.silent (.statement true rfl)
  have globalMappingImage := subMappingImage.silent (.statement true rfl)
  have imu := globalMappingImage.message rfl (.imu levelImu)
  have odometryImu := imu.silent (.statement true rfl)
  have emitted := odometryImu.silent (.works (.odometryEmits (1 : Nat) rfl))
  have subMappingImu := emitted.silent (.statement true rfl)
  obtain ⟨handled, follow, _, _⟩ :=
    @stages_share_sensors _ numberedGlim _ _ defaultNodeConfig .empty 1 ()
      true true _ _ subMappingImu
  have inputs := congrArg Prod.snd handled
  refine ⟨_, subMappingImu, inputs.symm.trans ?_, rfl, rfl, follow⟩
  have set : ¬ (1 : Rat) < 1e-6 := by norm_num
  rw [List.nil_append, List.singleton_append, Transducer.run_cons,
    Transducer.run_cons, Transducer.run_nil]
  simp [frontEndTransducer, FrontEnd.handleImage, FrontEnd.handleImu,
    detectAccScale, set, imuSample, imuStamp, defaultNodeConfig, levelImu,
    numberedGlim]
  rfl

end GlimRos
