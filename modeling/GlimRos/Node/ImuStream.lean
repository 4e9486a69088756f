import GlimRos.Node.Causality
import Mathlib.Algebra.Order.Ring.Abs
import Mathlib.Tactic.Linarith
import Mathlib.Tactic.NormNum

/-!
# One stream of IMU samples with one factor

`imu_callback` latches the unit of the accelerations before it asks the time
keeper, so the first message of a run fixes the factor even if it is
rejected.  Each accepted message then reaches every stage that exists, with
that factor.
-/

namespace GlimRos

open Transition

variable {K : Type} [Field K] [LinearOrder K] {glim : Glim K}

/-! ## Runs with the messages they received -/

/-- An IMU message with the verdict of the time keeper. -/
structure HeardImu (K : Type) where
  msg : ImuMsg K
  accepted : Bool

/-- `imu_stamp`. -/
def imuStamp (config : NodeConfig K) (msg : ImuMsg K) : K :=
  (msg.sec : K) + (msg.nanosec : K) / 1e9 + config.imuTimeOffset

def heardBy (config : NodeConfig K) (node : Node glim) (msg : ImuMsg K) :
    HeardImu K :=
  { msg := msg
    accepted :=
      (glim.validateImuStamp node.timeKeeper (imuStamp config msg)).1 }

omit [LinearOrder K] in
@[simp] theorem heardBy_msg (config : NodeConfig K) (node : Node glim)
    (msg : ImuMsg K) : (heardBy config node msg).msg = msg := rfl

/-- A step that is not the arrival of an IMU message. -/
inductive QuietStep (config : NodeConfig K) :
    Node glim → Node glim → Prop where
  | receives {node : Node glim} (idle : node.pc = .idle)
      (message : Message glim) (other : ∀ msg, message ≠ .imu msg) :
      QuietStep config node (node.receive config message)
  | silent {node next : Node glim} (step : SilentStep node next) :
      QuietStep config node next

/-- The states of a run together with the IMU messages received so far. -/
inductive Heard (config : NodeConfig K) (start : Node glim) :
    List (HeardImu K) → Node glim → Prop where
  | start : Heard config start [] start
  | imu {log : List (HeardImu K)} {node : Node glim}
      (earlier : Heard config start log node) (idle : node.pc = .idle)
      (msg : ImuMsg K) :
      Heard config start (log ++ [heardBy config node msg])
        (imuCallback config node msg)
  | quiet {log : List (HeardImu K)} {node next : Node glim}
      (earlier : Heard config start log node)
      (step : QuietStep config node next) : Heard config start log next

theorem QuietStep.nodeStep {config : NodeConfig K} {node next : Node glim}
    (step : QuietStep config node next) : NodeStep config node next := by
  cases step with
  | receives idle message other => exact .receives idle message
  | silent step => exact .silent step

theorem Heard.reachable {config : NodeConfig K} {start node : Node glim}
    {log : List (HeardImu K)} (heard : Heard config start log node) :
    (nodeSystem config start).Reachable node := by
  induction heard with
  | start => exact .init rfl
  | imu earlier idle msg induction => exact induction.step (.imu idle msg)
  | quiet earlier step induction => exact induction.step step.nodeStep

/-! ## The samples of odometry -/

/-- The sample that the running `imu_callback` has not inserted anywhere. -/
@[simp] def Pc.odometryLag : Pc glim → List (ImuSample K)
  | .insertImu .odometryEstimation sample => [sample]
  | _ => []

/-- The sample made of a message: its acceleration times a factor. -/
def imuSample (config : NodeConfig K) (factor : K) (msg : ImuMsg K) :
    ImuSample K :=
  { stamp := imuStamp config msg
    linearAcc :=
      { x := factor * msg.linearAcceleration.x
        y := factor * msg.linearAcceleration.y
        z := factor * msg.linearAcceleration.z }
    angularVel := msg.angularVelocity }

/-- The samples of the accepted messages, in arrival order. -/
def acceptedSamples (config : NodeConfig K) (factor : K)
    (log : List (HeardImu K)) : List (ImuSample K) :=
  (log.filter HeardImu.accepted).map fun heard =>
    imuSample config factor heard.msg

omit [LinearOrder K] in
theorem acceptedSamples_append (config : NodeConfig K) (factor : K)
    (log later : List (HeardImu K)) :
    acceptedSamples config factor (log ++ later) =
      acceptedSamples config factor log ++
        acceptedSamples config factor later := by
  simp [acceptedSamples]

/-- The factor of a run: the configured one unless it is zero up to 1e-6, and
then the unit that the first message suggests. -/
def accFactor (glim : Glim K) (accScale : K) (first : Option (ImuMsg K)) :
    K :=
  if 1e-6 ≤ |accScale| then accScale
  else
    match first with
    | some msg =>
        if 0.8 < glim.norm msg.linearAcceleration ∧
            glim.norm msg.linearAcceleration < 1.2 then 9.80665
        else 1
    | none => 1

variable {config : NodeConfig K} {node next : Node glim}

/-- All samples that odometry has got or is about to get. -/
def Node.odometrySamples (node : Node glim) : List (ImuSample K) :=
  StageInput.imus node.odometryEstimation.inserted ++ node.pc.odometryLag

omit [Field K] [LinearOrder K] in
theorem pointsCallback_keeps (idle : node.pc = .idle)
    (msg : PointCloudMsg glim) :
    (pointsCallback config node msg).accScale = node.accScale ∧
      (pointsCallback config node msg).pc.odometryLag = [] := by
  unfold pointsCallback
  split
  · simp [idle]
  · dsimp only
    split
    · exact ⟨rfl, rfl⟩
    · exact ⟨rfl, rfl⟩

omit [Field K] [LinearOrder K] in
theorem statement_keeps (statement : Statement node next) :
    next.accScale = node.accScale ∧
      next.odometrySamples = node.odometrySamples := by
  cases statement with
  | joinOdometry here returns target =>
      subst target
      refine ⟨rfl, ?_⟩
      split <;> simp [Node.odometrySamples, here]
  | getResults here target =>
      subst target
      refine ⟨rfl, ?_⟩
      split <;> simp [Node.odometrySamples, here]
  | @framesDone caller _ here target =>
      subst target
      cases caller <;> exact ⟨rfl, by simp [Node.odometrySamples, here]⟩
  | @getSubmaps caller _ _ here present target =>
      subst target
      refine ⟨rfl, ?_⟩
      cases caller <;> split <;>
        simp [Node.odometrySamples, here, afterSubmaps]
  | @submapsDone caller here =>
      cases caller <;>
        exact ⟨rfl, by simp [Node.odometrySamples, here, afterSubmaps]⟩
  | poll here => exact ⟨rfl, rfl⟩
  | _ here => exact ⟨rfl, by simp [Node.odometrySamples, here]⟩

omit [Field K] [LinearOrder K] in
theorem silentStep_keeps (step : SilentStep node next) :
    next.accScale = node.accScale ∧
      next.odometrySamples = node.odometrySamples := by
  cases step with
  | timer idle modulesOk =>
      exact ⟨rfl, by simp [Node.odometrySamples, timerCallback, idle]⟩
  | wait ready autoQuit =>
      refine ⟨rfl, ?_⟩
      rcases ready with idle | waited
      · simp [Node.odometrySamples, idle]
      · simp [Node.odometrySamples, waited]
  | statement modulesOk advanced =>
      exact statement_keeps (advance_statement advanced)
  | works works => cases works <;> exact ⟨rfl, rfl⟩
  | shutdown => exact ⟨rfl, rfl⟩

/-- No quiet step touches the factor or the samples of odometry. -/
theorem quietStep_keeps (step : QuietStep config node next) :
    next.accScale = node.accScale ∧
      next.odometrySamples = node.odometrySamples := by
  cases step with
  | receives idle message other =>
      cases message with
      | imu msg => exact (other msg rfl).elim
      | image msg =>
          refine ⟨rfl, ?_⟩
          simp [Node.odometrySamples, Node.receive, imageCallback, idle]
      | points msg =>
          obtain ⟨accScale, lag⟩ := pointsCallback_keeps idle msg
          have stage :=
            (pointsCallback_enters idle config msg).odometryEstimation
          refine ⟨accScale, ?_⟩
          rw [Node.odometrySamples, Node.odometrySamples, Node.receive, stage,
            lag, idle]
          rfl
  | silent step => exact silentStep_keeps step

/-- The arrival of a message latches the factor and adds the sample, if the
message is accepted. -/
theorem imuCallback_samples (idle : node.pc = .idle) (msg : ImuMsg K) :
    (imuCallback config node msg).odometrySamples =
      node.odometrySamples ++
        acceptedSamples config
          (detectAccScale glim node.accScale msg.linearAcceleration)
          [heardBy config node msg] := by
  have verdict : (imuCallback config node msg).pc =
      if (heardBy config node msg).accepted then
        .insertImu .odometryEstimation
          (imuSample config
            (detectAccScale glim node.accScale msg.linearAcceleration) msg)
      else .idle := rfl
  have stage := (imuCallback_enters idle config msg).odometryEstimation
  rw [Node.odometrySamples, Node.odometrySamples, stage, verdict, idle]
  cases accepted : (heardBy config node msg).accepted with
  | true => simp [acceptedSamples, accepted]
  | false => simp [acceptedSamples, accepted]

/-! ## The factor -/

section Factor

variable [IsStrictOrderedRing K]

/-- The factor that the first message leaves behind. -/
theorem detectAccScale_eq (accScale : K) (msg : ImuMsg K) :
    detectAccScale glim accScale msg.linearAcceleration =
      accFactor glim accScale (some msg) := by
  unfold detectAccScale accFactor
  by_cases unset : |accScale| < 1e-6
  · rw [if_pos unset, if_neg (not_le.mpr unset)]
    dsimp only
    split_ifs with metres gravity gravity
    · linarith [metres.1, gravity.2]
    · norm_num
    · rfl
    · norm_num
  · rw [if_neg unset, if_pos (not_lt.mp unset)]

/-- The factor of a run is away from zero, so it is never detected again. -/
theorem le_abs_accFactor (glim : Glim K) (accScale : K)
    (first : Option (ImuMsg K)) :
    1e-6 ≤ |accFactor glim accScale first| := by
  unfold accFactor
  split_ifs with set
  · exact set
  · cases first with
    | none => norm_num
    | some msg =>
        dsimp only
        split_ifs
        · norm_num
        · norm_num

theorem accFactor_ne_zero (glim : Glim K) (accScale : K)
    (first : Option (ImuMsg K)) :
    accFactor glim accScale first ≠ 0 := by
  intro zero
  have bound := le_abs_accFactor glim accScale first
  rw [zero, abs_zero] at bound
  norm_num at bound

theorem detectAccScale_of_factor (accScale : K)
    (first : Option (ImuMsg K)) (acceleration : Vector3 K) :
    detectAccScale glim (accFactor glim accScale first) acceleration =
      accFactor glim accScale first :=
  if_neg (not_lt.mpr (le_abs_accFactor glim accScale first))

/-- What holds after some messages: the scale is the configured one or, from
the first message on, the factor, and odometry has the accepted samples. -/
structure Latched (config : NodeConfig K) (accScale : K)
    (log : List (HeardImu K)) (node : Node glim) : Prop where
  scale : node.accScale =
    if log = [] then accScale
    else accFactor glim accScale (log.head?.map HeardImu.msg)
  samples : node.odometrySamples =
    acceptedSamples config
      (accFactor glim accScale (log.head?.map HeardImu.msg)) log

theorem Latched.imu {accScale : K} {log : List (HeardImu K)}
    (latched : Latched config accScale log node) (idle : node.pc = .idle)
    (msg : ImuMsg K) :
    Latched config accScale (log ++ [heardBy config node msg])
      (imuCallback config node msg) := by
  obtain ⟨scale, samples⟩ := latched
  have factor :
      detectAccScale glim node.accScale msg.linearAcceleration =
        accFactor glim accScale
          ((log ++ [heardBy config node msg]).head?.map HeardImu.msg) := by
    cases log with
    | nil =>
        rw [scale, if_pos rfl]
        exact detectAccScale_eq accScale msg
    | cons first rest =>
        rw [scale, if_neg (List.cons_ne_nil _ _)]
        exact detectAccScale_of_factor accScale _ _
  constructor
  · have grown : log ++ [heardBy config node msg] ≠ [] := by simp
    rw [if_neg grown, ← factor]
    rfl
  · rw [imuCallback_samples idle, samples, factor, acceptedSamples_append]
    -- an empty log has no samples, and a longer one its first message
    cases log with
    | nil => rfl
    | cons first rest => rfl

omit [IsStrictOrderedRing K] in
theorem Latched.quiet {accScale : K} {log : List (HeardImu K)}
    (latched : Latched config accScale log node)
    (step : QuietStep config node next) :
    Latched config accScale log next := by
  obtain ⟨scale, samples⟩ := quietStep_keeps step
  exact ⟨scale.trans latched.scale, samples.trans latched.samples⟩

theorem Heard.latched {start : Node glim} {log : List (HeardImu K)}
    (fresh : start.odometrySamples = [])
    (heard : Heard config start log node) :
    Latched config start.accScale log node := by
  induction heard with
  | start => exact ⟨rfl, fresh⟩
  | imu earlier idle msg induction => exact induction.imu idle msg
  | quiet earlier step induction => exact induction.quiet step

/-- What each stage has got of a stream of samples: all of them, less the one
that the running `imu_callback` still has for it. -/
structure Streams (node : Node glim) (samples : List (ImuSample K)) :
    Prop where
  odometryEstimation :
    StageInput.imus node.odometryEstimation.inserted ++
      node.pc.odometryLag = samples
  subMapping : node.subMapping.isSome →
    stageImus node.subMapping ++ node.pc.subMappingLag ++
      node.pc.odometryLag = samples
  globalMapping : node.globalMapping.isSome →
    stageImus node.globalMapping ++ node.pc.globalMappingLag ++
      node.pc.odometryLag = samples

/-- In every run, every stage that exists gets the accepted IMU messages in
arrival order, with every acceleration multiplied by one factor that is not
zero: the configured scale or, if that is zero up to 1e-6, the unit that the
first message of the run suggests.  While no callback runs, nothing of the
stream is missing anywhere. -/
theorem imu_streams (config : NodeConfig K) (metaConfig : MetaConfig)
    (accScale : K) (timeKeeper : glim.TimeKeeper)
    (enableSubMapping enableGlobalMapping : Bool)
    {log : List (HeardImu K)} {node : Node glim}
    (heard : Heard config
      (Node.start glim metaConfig accScale timeKeeper
        enableSubMapping enableGlobalMapping) log node) :
    ∃ factor,
      factor = accFactor glim accScale (log.head?.map HeardImu.msg) ∧
      factor ≠ 0 ∧
      Streams node (acceptedSamples config factor log) ∧
      (node.pc = .idle →
        StageInput.imus node.odometryEstimation.inserted =
            acceptedSamples config factor log ∧
          (enableSubMapping = true →
            stageImus node.subMapping =
              acceptedSamples config factor log) ∧
          (enableGlobalMapping = true →
            stageImus node.globalMapping =
              acceptedSamples config factor log)) := by
  have reachable := heard.reachable
  have causal := reachable_causal reachable
  obtain ⟨subMappingExists, globalMappingExists⟩ :=
    reachable_stages reachable
  have odometry := (heard.latched rfl).samples
  rw [Node.odometrySamples] at odometry
  refine ⟨_, rfl, accFactor_ne_zero glim accScale _, ?_, ?_⟩
  · refine ⟨odometry, ?_, ?_⟩
    · intro present
      rw [← causal.subMappingImus present]
      exact odometry
    · intro present
      rw [← causal.globalMappingImus present]
      exact odometry
  · intro idle
    simp only [idle, Pc.odometryLag, List.append_nil] at odometry
    refine ⟨odometry, ?_, ?_⟩
    · intro enabled
      have present : node.subMapping.isSome = true := by
        rw [subMappingExists, enabled]
        rfl
      have same := causal.subMappingImus present
      simp only [idle, Pc.subMappingLag, List.append_nil] at same
      exact same.symm.trans odometry
    · intro enabled
      have present : node.globalMapping.isSome = true := by
        rw [globalMappingExists, enabled]
        rfl
      have same := causal.globalMappingImus present
      simp only [idle, Pc.globalMappingLag, List.append_nil] at same
      exact same.symm.trans odometry

end Factor

/-- A library whose time keeper rejects the first stamp it sees. -/
def warmUpGlim : Glim Rat :=
  { numberedGlim with
    TimeKeeper := Bool
    validateImuStamp := fun warm _ => (warm, true)
    process := fun warm cloud => (true, warm, cloud) }

def imuAt (sec : Int) (linearAcceleration : Vector3 Rat) : ImuMsg Rat :=
  { frameId := "imu"
    sec := sec
    nanosec := 0
    linearAcceleration := linearAcceleration
    angularVelocity := ⟨0, 0, 0⟩ }

theorem accFactor_gravity :
    accFactor warmUpGlim 0 (some (imuAt 0 ⟨0, 0, 1⟩)) = 9.80665 := by
  have unset : ¬ (1e-6 : Rat) ≤ |0| := by norm_num
  have gravity : (0.8 : Rat) < |0| + |0| + |1| ∧
      |0| + |0| + |1| < (1.2 : Rat) := by norm_num
  rw [accFactor, if_neg unset]
  exact if_pos gravity

/-- The first message is in units of gravity and rejected.  The second one is
scaled with the factor of the first. -/
theorem imu_streams_gravity :
    ∃ node : Node warmUpGlim,
      Heard defaultNodeConfig (Node.start warmUpGlim .empty 0 false true true)
        [⟨imuAt 0 ⟨0, 0, 1⟩, false⟩, ⟨imuAt 1 ⟨1, 2, 9⟩, true⟩] node ∧
        stageImus node.subMapping =
          [⟨1, ⟨9.80665, 19.6133, 88.25985⟩, ⟨0, 0, 0⟩⟩] ∧
        stageImus node.globalMapping =
          [⟨1, ⟨9.80665, 19.6133, 88.25985⟩, ⟨0, 0, 0⟩⟩] := by
  have started : Heard defaultNodeConfig
      (Node.start warmUpGlim .empty 0 false true true) [] _ := .start
  have rejected := started.imu rfl (imuAt 0 ⟨0, 0, 1⟩)
  have accepted := rejected.imu rfl (imuAt 1 ⟨1, 2, 9⟩)
  have odometry := accepted.quiet (.silent (.statement true rfl))
  have subMapping := odometry.quiet (.silent (.statement true rfl))
  have globalMapping := subMapping.quiet (.silent (.statement true rfl))
  obtain ⟨factor, first, _, _, streams⟩ :=
    @imu_streams Rat _ _ warmUpGlim _ defaultNodeConfig .empty 0 false true true
      _ _ globalMapping
  have gravity : factor = 9.80665 := first.trans accFactor_gravity
  obtain ⟨_, inSubMapping, inGlobalMapping⟩ := streams rfl
  have samples : acceptedSamples defaultNodeConfig (9.80665 : Rat)
      [⟨imuAt 0 ⟨0, 0, 1⟩, false⟩, ⟨imuAt 1 ⟨1, 2, 9⟩, true⟩] =
        [⟨1, ⟨9.80665, 19.6133, 88.25985⟩, ⟨0, 0, 0⟩⟩] := by
    norm_num [acceptedSamples, imuSample, imuStamp, imuAt, defaultNodeConfig]
  rw [gravity] at inSubMapping inGlobalMapping
  exact ⟨_, globalMapping, (inSubMapping rfl).trans samples,
    (inGlobalMapping rfl).trans samples⟩

end GlimRos
