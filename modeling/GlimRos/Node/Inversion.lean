import GlimRos.Node.Step

/-!
# What a step of the node can do

Every step is a callback entry, which touches no stage, one statement of the
running callback, or one action of a worker.  All invariants of the node are
derived from this classification.
-/

namespace GlimRos

variable {K : Type} {glim : Glim K}

namespace Pc

/-- The marginalized frames in the local vector of the running callback. -/
@[simp] def localFrames : Pc glim → List (Emission K glim.EstimationFrame)
  | .insertFrames _ marginalized => marginalized
  | _ => []

/-- The submaps in the local vector of the running callback. -/
@[simp] def localSubmaps : Pc glim → List (Emission K glim.SubMap)
  | .insertSubmaps _ submaps => submaps
  | _ => []

/-- The sample that odometry has and sub mapping still lacks. -/
@[simp] def subMappingLag : Pc glim → List (ImuSample K)
  | .insertImu .subMapping sample => [sample]
  | _ => []

/-- The sample that odometry has and global mapping still lacks. -/
@[simp] def globalMappingLag : Pc glim → List (ImuSample K)
  | .insertImu .subMapping sample => [sample]
  | .insertImu .globalMapping sample => [sample]
  | _ => []

/-- How far a running `wait` has got: past the first join, past fetching the
frames, past the second join, past fetching the submaps. -/
@[simp] def waitPhase : Pc glim → Nat
  | .getResults (.wait _) => 1
  | .insertFrames (.wait _) _ | .joinSubMapping _ => 2
  | .getSubmaps (.wait _) => 3
  | .insertSubmaps (.wait _) _ | .joinGlobalMapping _ => 4
  | .pollModules _ | .waited => 4
  | _ => 0

end Pc

/-! ## Views of optional stages -/

section Views

variable {Payload Output : Type}

/-- The frames or submaps inserted into an optional stage. -/
def stagePayloads
    (stage : Option (Stage (StageInput glim Payload) Output)) :
    List Payload :=
  stage.elim [] fun enabled => StageInput.payloads enabled.inserted

def stageEmitted {Input : Type} (stage : Option (Stage Input Output)) :
    List Output :=
  stage.elim [] Stage.emitted

def stageBuffer {Input : Type} (stage : Option (Stage Input Output)) :
    List Output :=
  stage.elim [] Stage.buffer

@[simp] theorem stageImus_some
    (stage : Stage (StageInput glim Payload) Output) :
    stageImus (some stage) = StageInput.imus stage.inserted := rfl

@[simp] theorem stagePayloads_some
    (stage : Stage (StageInput glim Payload) Output) :
    stagePayloads (some stage) = StageInput.payloads stage.inserted := rfl

@[simp] theorem stageEmitted_some {Input : Type}
    (stage : Stage Input Output) :
    stageEmitted (some stage) = stage.emitted := rfl

@[simp] theorem stageBuffer_some {Input : Type}
    (stage : Stage Input Output) :
    stageBuffer (some stage) = stage.buffer := rfl

@[simp] theorem stageBuffer_none {Input : Type} :
    stageBuffer (none : Option (Stage Input Output)) = [] := rfl

@[simp] theorem insertIfEnabled_isSome {Input : Type}
    (stage : Option (Stage Input Output)) (input : Input) :
    (insertIfEnabled stage input).isSome = stage.isSome := by
  cases stage <;> rfl

@[simp] theorem insertIfEnabled_emitted {Input : Type}
    (stage : Option (Stage Input Output)) (input : Input) :
    stageEmitted (insertIfEnabled stage input) = stageEmitted stage := by
  cases stage <;> rfl

@[simp] theorem insertIfEnabled_buffer {Input : Type}
    (stage : Option (Stage Input Output)) (input : Input) :
    stageBuffer (insertIfEnabled stage input) = stageBuffer stage := by
  cases stage <;> rfl

variable (stage : Option (Stage (StageInput glim Payload) Output))

@[simp] theorem insertIfEnabled_imu_payloads (sample : ImuSample K) :
    stagePayloads (insertIfEnabled stage (.imu sample)) =
      stagePayloads stage := by
  cases stage <;> simp [insertIfEnabled, stagePayloads]

@[simp] theorem insertIfEnabled_image_payloads (stamp : K)
    (image : glim.CvImage) :
    stagePayloads (insertIfEnabled stage (.image stamp image)) =
      stagePayloads stage := by
  cases stage <;> simp [insertIfEnabled, stagePayloads]

theorem insertIfEnabled_payload_payloads (enabled : stage.isSome)
    (item : Payload) :
    stagePayloads (insertIfEnabled stage (.payload item)) =
      stagePayloads stage ++ [item] := by
  cases stage with
  | none => cases enabled
  | some stage => simp [insertIfEnabled]

/-- An input inserted into an enabled stage adds its own samples. -/
theorem insertIfEnabled_imus (enabled : stage.isSome)
    (input : StageInput glim Payload) :
    stageImus (insertIfEnabled stage input) =
      stageImus stage ++ StageInput.imus [input] := by
  cases stage with
  | none => cases enabled
  | some stage => simp [insertIfEnabled]

@[simp] theorem insertIfEnabled_payload_imus (item : Payload) :
    stageImus (insertIfEnabled stage (.payload item)) = stageImus stage := by
  cases stage <;> simp [insertIfEnabled, stageImus]

end Views

/-! ## Statements -/

/-- The statements of the callbacks as a relation, one constructor for each
way a statement can end. -/
inductive Statement : Node glim → Node glim → Prop where
  | imuOdometry {node : Node glim} {sample : ImuSample K}
      (here : node.pc = .insertImu .odometryEstimation sample) :
      Statement node
        { node with
          odometryEstimation := node.odometryEstimation.insert (.imu sample)
          pc := .insertImu .subMapping sample }
  | imuSubMapping {node : Node glim} {sample : ImuSample K}
      (here : node.pc = .insertImu .subMapping sample) :
      Statement node
        { node with
          subMapping := insertIfEnabled node.subMapping (.imu sample)
          pc := .insertImu .globalMapping sample }
  | imuGlobalMapping {node : Node glim} {sample : ImuSample K}
      (here : node.pc = .insertImu .globalMapping sample) :
      Statement node
        { node with
          globalMapping := insertIfEnabled node.globalMapping (.imu sample)
          pc := .idle }
  | imageOdometry {node : Node glim} {stamp : K} {image : glim.CvImage}
      (here : node.pc = .insertImage .odometryEstimation stamp image) :
      Statement node
        { node with
          odometryEstimation :=
            node.odometryEstimation.insert (.image stamp image)
          pc := .insertImage .subMapping stamp image }
  | imageSubMapping {node : Node glim} {stamp : K} {image : glim.CvImage}
      (here : node.pc = .insertImage .subMapping stamp image) :
      Statement node
        { node with
          subMapping := insertIfEnabled node.subMapping (.image stamp image)
          pc := .insertImage .globalMapping stamp image }
  | imageGlobalMapping {node : Node glim} {stamp : K} {image : glim.CvImage}
      (here : node.pc = .insertImage .globalMapping stamp image) :
      Statement node
        { node with
          globalMapping :=
            insertIfEnabled node.globalMapping (.image stamp image)
          pc := .idle }
  | insertFrame {node : Node glim} {preprocessed : glim.PreprocessedFrame}
      (here : node.pc = .insertFrame preprocessed) :
      Statement node
        { node with
          odometryEstimation :=
            node.odometryEstimation.insert (.payload preprocessed)
          pc := .idle }
  | joinOdometry {node : Node glim} {autoQuit : Bool} {pc : Pc glim}
      (here : node.pc = .joinOdometry autoQuit)
      (returns : node.odometryEstimation.joinReturns = true)
      (target : pc =
        if node.subMapping.isSome then .getResults (.wait autoQuit)
        else .pollModules autoQuit) :
      Statement node
        { node with
          odometryEstimation := node.odometryEstimation.join
          pc := pc }
  | getResults {node : Node glim} {caller : Caller} {pc : Pc glim}
      (here : node.pc = .getResults caller)
      (target : pc =
        if node.subMapping.isSome then
          .insertFrames caller node.odometryEstimation.buffer
        else .idle) :
      Statement node
        { node with
          odometryEstimation := node.odometryEstimation.fetched
          pc := pc }
  | insertMarginalized {node : Node glim} {caller : Caller}
      {frame : Emission K glim.EstimationFrame}
      {marginalized : List (Emission K glim.EstimationFrame)}
      (here : node.pc = .insertFrames caller (frame :: marginalized)) :
      Statement node
        { node with
          subMapping := insertIfEnabled node.subMapping (.payload frame)
          pc := .insertFrames caller marginalized }
  | framesDone {node : Node glim} {caller : Caller} {pc : Pc glim}
      (here : node.pc = .insertFrames caller [])
      (target : pc =
        match caller with
        | .timer => .getSubmaps .timer
        | .wait autoQuit => .joinSubMapping autoQuit) :
      Statement node { node with pc := pc }
  | joinSubMapping {node : Node glim} {autoQuit : Bool}
      {subMapping : SubMappingStage glim}
      (here : node.pc = .joinSubMapping autoQuit)
      (enabled : node.subMapping = some subMapping)
      (returns : subMapping.joinReturns = true) :
      Statement node
        { node with
          subMapping := some subMapping.join
          pc := .getSubmaps (.wait autoQuit) }
  | getSubmaps {node : Node glim} {caller : Caller}
      {subMapping : SubMappingStage glim} {pc : Pc glim}
      (here : node.pc = .getSubmaps caller)
      (enabled : node.subMapping = some subMapping)
      (target : pc =
        if node.globalMapping.isSome then
          .insertSubmaps caller subMapping.buffer
        else afterSubmaps false caller) :
      Statement node
        { node with
          subMapping := some subMapping.fetched
          pc := pc }
  | insertSubmap {node : Node glim} {caller : Caller}
      {submap : Emission K glim.SubMap}
      {submaps : List (Emission K glim.SubMap)}
      (here : node.pc = .insertSubmaps caller (submap :: submaps)) :
      Statement node
        { node with
          globalMapping :=
            insertIfEnabled node.globalMapping (.payload submap)
          pc := .insertSubmaps caller submaps }
  | submapsDone {node : Node glim} {caller : Caller}
      (here : node.pc = .insertSubmaps caller []) :
      Statement node { node with pc := afterSubmaps true caller }
  | joinGlobalMapping {node : Node glim} {autoQuit : Bool}
      {globalMapping : GlobalMappingStage glim}
      (here : node.pc = .joinGlobalMapping autoQuit)
      (enabled : node.globalMapping = some globalMapping)
      (returns : globalMapping.joinReturns = true) :
      Statement node
        { node with
          globalMapping := some globalMapping.join
          pc := .pollModules autoQuit }
  | quit {node : Node glim} {autoQuit : Bool}
      (here : node.pc = .pollModules autoQuit) :
      Statement node { node with pc := .waited }
  | poll {node : Node glim} {autoQuit : Bool}
      (here : node.pc = .pollModules autoQuit) :
      Statement node node

theorem advance_statement {node next : Node glim} {modulesOk : Bool}
    (advanced : advance node modulesOk = some next) :
    Statement node next := by
  unfold advance at advanced
  split at advanced
  case h_1 | h_2 => cases advanced
  case h_3 here => cases advanced; exact .imuOdometry here
  case h_4 here => cases advanced; exact .imuSubMapping here
  case h_5 here => cases advanced; exact .imuGlobalMapping here
  case h_6 here => cases advanced; exact .imageOdometry here
  case h_7 here => cases advanced; exact .imageSubMapping here
  case h_8 here => cases advanced; exact .imageGlobalMapping here
  case h_9 here => cases advanced; exact .insertFrame here
  case h_10 here =>
    split at advanced
    case isTrue returns =>
      cases advanced
      exact .joinOdometry here returns rfl
    case isFalse => cases advanced
  case h_11 here => cases advanced; exact .getResults here rfl
  case h_12 here => cases advanced; exact .insertMarginalized here
  case h_13 here => cases advanced; exact .framesDone here rfl
  case h_14 here => cases advanced; exact .framesDone here rfl
  case h_15 here =>
    obtain ⟨subMapping, enabled, advanced⟩ :=
      Option.bind_eq_some_iff.mp advanced
    split at advanced
    case isTrue returns =>
      cases advanced
      exact .joinSubMapping here enabled returns
    case isFalse => cases advanced
  case h_16 here =>
    obtain ⟨subMapping, enabled, advanced⟩ :=
      Option.bind_eq_some_iff.mp advanced
    cases advanced
    exact .getSubmaps here enabled rfl
  case h_17 here => cases advanced; exact .insertSubmap here
  case h_18 here => cases advanced; exact .submapsDone here
  case h_19 here =>
    obtain ⟨globalMapping, enabled, advanced⟩ :=
      Option.bind_eq_some_iff.mp advanced
    split at advanced
    case isTrue returns =>
      cases advanced
      exact .joinGlobalMapping here enabled returns
    case isFalse => cases advanced
  case h_20 here =>
    split at advanced
    case isTrue => cases advanced; exact .quit here
    case isFalse => cases advanced; exact .poll here

/-! ## Callback entries and workers -/

/-- Entering a callback runs no statement that touches a stage, and leaves
nothing in local vectors. -/
structure Enters (node next : Node glim) : Prop where
  ready : node.pc = .idle ∨ node.pc = .waited
  odometryEstimation : next.odometryEstimation = node.odometryEstimation
  subMapping : next.subMapping = node.subMapping
  globalMapping : next.globalMapping = node.globalMapping
  localFrames : next.pc.localFrames = []
  localSubmaps : next.pc.localSubmaps = []
  subMappingLag : next.pc.subMappingLag = []
  globalMappingLag : next.pc.globalMappingLag = []
  waitPhase : next.pc.waitPhase = 0
  again : node.pc = .waited → ∃ autoQuit, next.pc = .joinOdometry autoQuit

namespace Enters

variable {node next : Node glim}

theorem localFrames_eq (enters : Enters node next) :
    next.pc.localFrames = node.pc.localFrames := by
  rw [enters.localFrames]
  rcases enters.ready with here | here <;> rw [here] <;> rfl

theorem localSubmaps_eq (enters : Enters node next) :
    next.pc.localSubmaps = node.pc.localSubmaps := by
  rw [enters.localSubmaps]
  rcases enters.ready with here | here <;> rw [here] <;> rfl

theorem subMappingLag_eq (enters : Enters node next) :
    next.pc.subMappingLag = node.pc.subMappingLag := by
  rw [enters.subMappingLag]
  rcases enters.ready with here | here <;> rw [here] <;> rfl

theorem globalMappingLag_eq (enters : Enters node next) :
    next.pc.globalMappingLag = node.pc.globalMappingLag := by
  rw [enters.globalMappingLag]
  rcases enters.ready with here | here <;> rw [here] <;> rfl

end Enters

theorem pointsCallback_enters {node : Node glim} (idle : node.pc = .idle)
    (config : NodeConfig K) (msg : PointCloudMsg glim) :
    Enters node (pointsCallback config node msg) := by
  have shape : ∃ metaConfig timeKeeper,
      pointsCallback config node msg =
          { node with metaConfig := metaConfig, timeKeeper := timeKeeper } ∨
        ∃ preprocessed, pointsCallback config node msg =
          { node with
            metaConfig := metaConfig
            timeKeeper := timeKeeper
            pc := .insertFrame preprocessed } := by
    unfold pointsCallback
    split
    · exact ⟨_, node.timeKeeper, .inl rfl⟩
    · simp only
      split
      · exact ⟨_, _, .inr ⟨_, rfl⟩⟩
      · exact ⟨_, _, .inl (by rw [← idle])⟩
  obtain ⟨metaConfig, timeKeeper, rejected | ⟨preprocessed, accepted⟩⟩ :=
    shape
  · rw [rejected]
    constructor <;> first
      | exact .inl idle
      | (intro waited; rw [idle] at waited; cases waited)
      | simp [idle]
  · rw [accepted]
    constructor <;> first
      | exact .inl idle
      | rfl
      | (intro waited; rw [idle] at waited; cases waited)

variable [Field K] [LinearOrder K]

theorem imuCallback_enters {node : Node glim} (idle : node.pc = .idle)
    (config : NodeConfig K) (msg : ImuMsg K) :
    Enters node (imuCallback config node msg) := by
  have pcAfter : (imuCallback config node msg).pc = .idle ∨
      ∃ sample, (imuCallback config node msg).pc =
        .insertImu .odometryEstimation sample := by
    simp only [imuCallback]
    split
    · exact .inr ⟨_, rfl⟩
    · exact .inl rfl
  constructor <;> first
    | exact .inl idle
    | rfl
    | (intro waited; rw [idle] at waited; cases waited)
    | (rcases pcAfter with same | ⟨sample, started⟩
       · rw [same]; rfl
       · rw [started]; rfl)

/-- Every arrival enters a callback. -/
theorem receive_enters {node : Node glim} (idle : node.pc = .idle)
    (config : NodeConfig K) (message : Message glim) :
    Enters node (node.receive config message) := by
  cases message with
  | imu msg => exact imuCallback_enters idle config msg
  | image msg =>
      refine ⟨.inl idle, rfl, rfl, rfl, rfl, rfl, rfl, rfl, rfl, ?_⟩
      intro waited
      rw [idle] at waited
      cases waited
  | points msg => exact pointsCallback_enters idle config msg

omit [Field K] [LinearOrder K] in
theorem silentStep_cases {node next : Node glim}
    (step : SilentStep node next) :
    Enters node next ∨ Statement node next ∨ Works node next ∨
      next = { node with rclcppOk := false } := by
  cases step with
  | timer idle modulesOk =>
      refine .inl ⟨.inl idle, rfl, rfl, rfl, rfl, rfl, rfl, rfl, rfl, ?_⟩
      intro waited
      rw [idle] at waited
      cases waited
  | wait ready autoQuit =>
      exact .inl ⟨ready, rfl, rfl, rfl, rfl, rfl, rfl, rfl, rfl,
        fun _ => ⟨autoQuit, rfl⟩⟩
  | statement modulesOk advanced =>
      exact .inr (.inl (advance_statement advanced))
  | works works => exact .inr (.inr (.inl works))
  | shutdown => exact .inr (.inr (.inr rfl))

/-- The classification every invariant of the node is derived from. -/
theorem nodeStep_cases {config : NodeConfig K} {node next : Node glim}
    (step : NodeStep config node next) :
    Enters node next ∨ Statement node next ∨ Works node next ∨
      next = { node with rclcppOk := false } := by
  cases step with
  | receives idle message => exact .inl (receive_enters idle config message)
  | silent step => exact silentStep_cases step

/-- No step creates or destroys a stage. -/
theorem nodeStep_stages {config : NodeConfig K} {node next : Node glim}
    (step : NodeStep config node next) :
    next.subMapping.isSome = node.subMapping.isSome ∧
      next.globalMapping.isSome = node.globalMapping.isSome := by
  rcases nodeStep_cases step with enters | statement | works | rfl
  · rw [enters.subMapping, enters.globalMapping]
    exact ⟨rfl, rfl⟩
  · cases statement <;> simp_all
  · cases works <;> simp_all [odometryEmits, subMappingEmits]
  · exact ⟨rfl, rfl⟩

/-- The stages that exist are those that the constructor made. -/
theorem reachable_stages {config : NodeConfig K} {start node : Node glim}
    (reachable : (nodeSystem config start).Reachable node) :
    node.subMapping.isSome = start.subMapping.isSome ∧
      node.globalMapping.isSome = start.globalMapping.isSome := by
  refine reachable.invariant
    (fun node => node.subMapping.isSome = start.subMapping.isSome ∧
      node.globalMapping.isSome = start.globalMapping.isSome) ?_ ?_
  · intro state init
    cases init
    exact ⟨rfl, rfl⟩
  · rintro state next _ ⟨subMapping, globalMapping⟩ step
    obtain ⟨sameSub, sameGlobal⟩ := nodeStep_stages step
    exact ⟨sameSub.trans subMapping, sameGlobal.trans globalMapping⟩

end GlimRos
