import GlimRos.Library.History
import GlimRos.Node.Inversion

/-!
# Frames never overtake their IMU samples

`imu_callback` feeds the stages one after the other, so an upstream worker
can emit a frame that used a sample the downstream stage lacks.  The frame is
handed on by a later callback only, and by then the downstream stage has
caught up: between callbacks all stages have the same samples.
-/

namespace GlimRos

open Transition

variable {K : Type} {glim : Glim K}

/-- Every frame or submap of an insertion history comes after the samples
that `Seen` asks for. -/
def Preceded {Payload : Type}
    (Seen : Payload → List (ImuSample K) → Prop)
    (history : List (StageInput glim Payload)) : Prop :=
  ∀ before item after, history = before ++ .payload item :: after →
    Seen item (StageInput.imus before)

/-- The frame was emitted when odometry had been given a prefix of `imus`. -/
def FrameSeen (frame : Emission K glim.EstimationFrame)
    (imus : List (ImuSample K)) : Prop :=
  frame.odometryImus <+: imus

/-- The submap was emitted when odometry and sub mapping had been given
prefixes of `imus`. -/
def SubmapSeen (submap : Emission K glim.SubMap)
    (imus : List (ImuSample K)) : Prop :=
  submap.odometryImus <+: imus ∧ submap.subMappingImus <+: imus

/-- The inputs inserted into an optional stage. -/
def stageHistory {Input Output : Type}
    (stage : Option (Stage Input Output)) : List Input :=
  stage.elim [] Stage.inserted

@[simp] theorem stageHistory_some {Input Output : Type}
    (stage : Stage Input Output) :
    stageHistory (some stage) = stage.inserted := rfl

theorem FrameSeen.mono {frame : Emission K glim.EstimationFrame}
    {imus later : List (ImuSample K)} (seen : FrameSeen frame imus)
    (grown : imus <+: later) : FrameSeen frame later :=
  seen.trans grown

theorem SubmapSeen.mono {submap : Emission K glim.SubMap}
    {imus later : List (ImuSample K)} (seen : SubmapSeen submap imus)
    (grown : imus <+: later) : SubmapSeen submap later :=
  ⟨seen.1.trans grown, seen.2.trans grown⟩

section Preceded

variable {Payload Output : Type}
  {Seen : Payload → List (ImuSample K) → Prop}

theorem Preceded.nil :
    Preceded Seen ([] : List (StageInput glim Payload)) := by
  intro before item after split
  have impossible := congrArg List.length split
  simp at impossible

/-- Inserting behind a history keeps it ordered if the new input is not a
payload or its samples are already there. -/
theorem Preceded.snoc {history : List (StageInput glim Payload)}
    {input : StageInput glim Payload} (ordered : Preceded Seen history)
    (last : ∀ item, input = .payload item →
      Seen item (StageInput.imus history)) :
    Preceded Seen (history ++ [input]) := by
  intro before item after split
  rcases History.split_concat split with ⟨rest, earlier⟩ | ⟨rfl, same⟩
  · exact ordered before item rest earlier
  · exact last item same.symm

theorem Preceded.insert
    {stage : Option (Stage (StageInput glim Payload) Output)}
    {input : StageInput glim Payload}
    (ordered : Preceded Seen (stageHistory stage))
    (last : ∀ item, input = .payload item → stage.isSome →
      Seen item (stageImus stage)) :
    Preceded Seen (stageHistory (insertIfEnabled stage input)) := by
  cases stage with
  | none => exact Preceded.nil
  | some stage => exact ordered.snoc fun item same => last item same rfl

theorem Preceded.insertOther
    {stage : Option (Stage (StageInput glim Payload) Output)}
    {input : StageInput glim Payload}
    (ordered : Preceded Seen (stageHistory stage))
    (notPayload : StageInput.payloads [input] = []) :
    Preceded Seen (stageHistory (insertIfEnabled stage input)) := by
  apply ordered.insert
  intro item same
  subst same
  cases notPayload

end Preceded

/-- The causality invariant. -/
structure Causal (node : Node glim) : Prop where
  subMappingImus : node.subMapping.isSome →
    StageInput.imus node.odometryEstimation.inserted =
      stageImus node.subMapping ++ node.pc.subMappingLag
  globalMappingImus : node.globalMapping.isSome →
    StageInput.imus node.odometryEstimation.inserted =
      stageImus node.globalMapping ++ node.pc.globalMappingLag
  framesSeen : ∀ frame ∈
    node.pc.localFrames ++ node.odometryEstimation.buffer,
      FrameSeen frame (StageInput.imus node.odometryEstimation.inserted)
  submapsSeen : ∀ submap ∈
    node.pc.localSubmaps ++ stageBuffer node.subMapping,
      SubmapSeen submap (StageInput.imus node.odometryEstimation.inserted)
  framesPreceded : Preceded FrameSeen (stageHistory node.subMapping)
  submapsPreceded : Preceded SubmapSeen (stageHistory node.globalMapping)

theorem causal_start (metaConfig : MetaConfig) (accScale : K)
    (timeKeeper : glim.TimeKeeper)
    (enableSubMapping enableGlobalMapping : Bool) :
    Causal (Node.start glim metaConfig accScale timeKeeper
      enableSubMapping enableGlobalMapping) := by
  cases enableSubMapping <;> cases enableGlobalMapping <;>
    exact
      { subMappingImus := fun _ => rfl
        globalMappingImus := fun _ => rfl
        framesSeen := by
          intro frame member
          cases member
        submapsSeen := by
          intro submap member
          cases member
        framesPreceded := Preceded.nil
        submapsPreceded := Preceded.nil }

theorem enters_causal {node next : Node glim} (enters : Enters node next)
    (causal : Causal node) : Causal next := by
  obtain ⟨subMappingImus, globalMappingImus, framesSeen, submapsSeen,
    framesPreceded, submapsPreceded⟩ := causal
  constructor
  · rw [enters.subMapping, enters.odometryEstimation,
      enters.subMappingLag_eq]
    exact subMappingImus
  · rw [enters.globalMapping, enters.odometryEstimation,
      enters.globalMappingLag_eq]
    exact globalMappingImus
  · rw [enters.odometryEstimation, enters.localFrames_eq]
    exact framesSeen
  · rw [enters.odometryEstimation, enters.subMapping,
      enters.localSubmaps_eq]
    exact submapsSeen
  · rw [enters.subMapping]
    exact framesPreceded
  · rw [enters.globalMapping]
    exact submapsPreceded

/-- What the invariant reads of the stages. -/
structure SameViews (node next : Node glim) : Prop where
  odometryInserted :
    next.odometryEstimation.inserted = node.odometryEstimation.inserted
  odometryBuffer :
    next.odometryEstimation.buffer = node.odometryEstimation.buffer
  subMapping : next.subMapping.isSome = node.subMapping.isSome
  subMappingHistory : stageHistory next.subMapping =
    stageHistory node.subMapping
  subMappingBuffer : stageBuffer next.subMapping =
    stageBuffer node.subMapping
  globalMapping : next.globalMapping.isSome = node.globalMapping.isSome
  globalMappingHistory : stageHistory next.globalMapping =
    stageHistory node.globalMapping
  pc : next.pc = node.pc

theorem stageImus_eq {Payload Output : Type}
    (stage : Option (Stage (StageInput glim Payload) Output)) :
    stageImus stage = StageInput.imus (stageHistory stage) := by
  cases stage with
  | none => rfl
  | some stage => rfl

/-- Joining a stage and consuming its input change nothing for the
invariant. -/
theorem Causal.congr {node next : Node glim} (causal : Causal node)
    (same : SameViews node next) : Causal next := by
  constructor
  · rw [same.subMapping, same.odometryInserted, stageImus_eq,
      same.subMappingHistory, same.pc, ← stageImus_eq]
    exact causal.subMappingImus
  · rw [same.globalMapping, same.odometryInserted, stageImus_eq,
      same.globalMappingHistory, same.pc, ← stageImus_eq]
    exact causal.globalMappingImus
  · rw [same.odometryBuffer, same.odometryInserted, same.pc]
    exact causal.framesSeen
  · rw [same.subMappingBuffer, same.odometryInserted, same.pc]
    exact causal.submapsSeen
  · rw [same.subMappingHistory]
    exact causal.framesPreceded
  · rw [same.globalMappingHistory]
    exact causal.submapsPreceded

theorem works_causal {node next : Node glim} (works : Works node next)
    (causal : Causal node) : Causal next := by
  cases works with
  | odometryConsumes consumes =>
      apply causal.congr
      constructor <;> rfl
  | odometryEmits frame running =>
      refine ⟨causal.subMappingImus, causal.globalMappingImus, ?_,
        causal.submapsSeen, causal.framesPreceded, causal.submapsPreceded⟩
      intro emitted member
      simp only [odometryEmits, Stage.emit_buffer, ← List.append_assoc,
        List.mem_append, List.mem_singleton] at member
      rcases member with earlier | rfl
      · exact causal.framesSeen emitted (List.mem_append.mpr earlier)
      · exact List.prefix_refl _
  | subMappingConsumes present consumes =>
      apply causal.congr
      constructor <;> simp [present]
  | @subMappingEmits subMapping present submap running =>
      obtain ⟨subMappingImus, globalMappingImus, framesSeen, submapsSeen,
        framesPreceded, submapsPreceded⟩ := causal
      rw [present] at subMappingImus submapsSeen framesPreceded
      refine ⟨subMappingImus, globalMappingImus, framesSeen, ?_,
        framesPreceded, submapsPreceded⟩
      intro emitted member
      simp only [subMappingEmits, stageBuffer_some, Stage.emit_buffer,
        ← List.append_assoc, List.mem_append, List.mem_singleton] at member
      rcases member with earlier | rfl
      · exact submapsSeen emitted (List.mem_append.mpr earlier)
      · refine ⟨List.prefix_refl _, ?_⟩
        exact ⟨node.pc.subMappingLag, (subMappingImus rfl).symm⟩
  | globalMappingConsumes present consumes =>
      apply causal.congr
      constructor <;> simp [present]

/-- A statement that leaves all stages alone moves the local vectors at most
out of scope. -/
theorem causal_of_pc {node : Node glim} {pc : Pc glim} (causal : Causal node)
    (subMappingLag : pc.subMappingLag = node.pc.subMappingLag)
    (globalMappingLag : pc.globalMappingLag = node.pc.globalMappingLag)
    (localFrames : pc.localFrames = [])
    (localSubmaps : pc.localSubmaps = []) :
    Causal { node with pc := pc } := by
  obtain ⟨subMappingImus, globalMappingImus, framesSeen, submapsSeen,
    framesPreceded, submapsPreceded⟩ := causal
  constructor
  · simpa only [subMappingLag] using subMappingImus
  · simpa only [globalMappingLag] using globalMappingImus
  · intro frame member
    simp only [localFrames, List.nil_append] at member
    exact framesSeen frame (List.mem_append_right _ member)
  · intro submap member
    simp only [localSubmaps, List.nil_append] at member
    exact submapsSeen submap (List.mem_append_right _ member)
  · exact framesPreceded
  · exact submapsPreceded

/-- Inserting an input that is no IMU sample into odometry. -/
theorem causal_insert_odometry {node : Node glim} {pc : Pc glim}
    {input : StageInput glim glim.PreprocessedFrame}
    (causal : Causal node) (notImu : StageInput.imus [input] = [])
    (here : node.pc.subMappingLag = [] ∧ node.pc.globalMappingLag = [])
    (quiet : pc.subMappingLag = [] ∧ pc.globalMappingLag = [] ∧
      pc.localFrames = [] ∧ pc.localSubmaps = []) :
    Causal
      { node with
        odometryEstimation := node.odometryEstimation.insert input
        pc := pc } := by
  have moved : Causal { node with pc := pc } := causal_of_pc causal
    (quiet.1.trans here.1.symm) (quiet.2.1.trans here.2.symm)
    quiet.2.2.1 quiet.2.2.2
  obtain ⟨subMappingImus, globalMappingImus, framesSeen, submapsSeen,
    framesPreceded, submapsPreceded⟩ := moved
  have same : StageInput.imus
      (node.odometryEstimation.inserted ++ [input]) =
        StageInput.imus node.odometryEstimation.inserted := by
    rw [StageInput.imus_append, notImu, List.append_nil]
  constructor <;> simp only [Stage.insert_inserted, same]
  · exact subMappingImus
  · exact globalMappingImus
  · exact framesSeen
  · exact submapsSeen
  · exact framesPreceded
  · exact submapsPreceded

/-- Inserting an input that is no frame into sub mapping: if it is the sample
that sub mapping lacks, sub mapping catches up. -/
theorem causal_insert_subMapping {node : Node glim} {pc : Pc glim}
    {input : StageInput glim (Emission K glim.EstimationFrame)}
    (causal : Causal node) (notFrame : StageInput.payloads [input] = [])
    (subMappingLag :
      StageInput.imus [input] ++ pc.subMappingLag = node.pc.subMappingLag)
    (globalMappingLag : pc.globalMappingLag = node.pc.globalMappingLag)
    (localFrames : pc.localFrames = [])
    (localSubmaps : pc.localSubmaps = []) :
    Causal
      { node with
        subMapping := insertIfEnabled node.subMapping input
        pc := pc } := by
  constructor
  · intro enabled
    rw [insertIfEnabled_isSome] at enabled
    rw [insertIfEnabled_imus _ enabled, List.append_assoc, subMappingLag]
    exact causal.subMappingImus enabled
  · rw [globalMappingLag]
    exact causal.globalMappingImus
  · intro frame member
    rw [localFrames, List.nil_append] at member
    exact causal.framesSeen frame (List.mem_append_right _ member)
  · intro submap member
    rw [localSubmaps, List.nil_append, insertIfEnabled_buffer] at member
    exact causal.submapsSeen submap (List.mem_append_right _ member)
  · exact causal.framesPreceded.insertOther notFrame
  · exact causal.submapsPreceded

/-- Inserting an input that is no submap into global mapping. -/
theorem causal_insert_globalMapping {node : Node glim} {pc : Pc glim}
    {input : StageInput glim (Emission K glim.SubMap)}
    (causal : Causal node) (notSubmap : StageInput.payloads [input] = [])
    (subMappingLag : pc.subMappingLag = node.pc.subMappingLag)
    (globalMappingLag :
      StageInput.imus [input] ++ pc.globalMappingLag =
        node.pc.globalMappingLag)
    (localFrames : pc.localFrames = [])
    (localSubmaps : pc.localSubmaps = []) :
    Causal
      { node with
        globalMapping := insertIfEnabled node.globalMapping input
        pc := pc } := by
  constructor
  · rw [subMappingLag]
    exact causal.subMappingImus
  · intro enabled
    rw [insertIfEnabled_isSome] at enabled
    rw [insertIfEnabled_imus _ enabled, List.append_assoc, globalMappingLag]
    exact causal.globalMappingImus enabled
  · intro frame member
    rw [localFrames, List.nil_append] at member
    exact causal.framesSeen frame (List.mem_append_right _ member)
  · intro submap member
    rw [localSubmaps, List.nil_append] at member
    exact causal.submapsSeen submap (List.mem_append_right _ member)
  · exact causal.framesPreceded
  · exact causal.submapsPreceded.insertOther notSubmap

/-- Inserting a sample into odometry: both mapping stages fall behind. -/
theorem causal_insert_imu {node : Node glim} {sample : ImuSample K}
    (causal : Causal node)
    (here : node.pc = .insertImu .odometryEstimation sample) :
    Causal
      { node with
        odometryEstimation := node.odometryEstimation.insert (.imu sample)
        pc := .insertImu .subMapping sample } := by
  obtain ⟨subMappingImus, globalMappingImus, framesSeen, submapsSeen,
    framesPreceded, submapsPreceded⟩ := causal
  rw [here] at subMappingImus globalMappingImus framesSeen submapsSeen
  have grown : StageInput.imus node.odometryEstimation.inserted <+:
      StageInput.imus
        (node.odometryEstimation.insert (.imu sample)).inserted := by
    rw [Stage.insert_inserted, StageInput.imus_append]
    exact List.prefix_append _ _
  constructor
  · intro enabled
    have caughtUp := subMappingImus enabled
    simp at caughtUp ⊢
    exact caughtUp
  · intro enabled
    have caughtUp := globalMappingImus enabled
    simp at caughtUp ⊢
    exact caughtUp
  · intro frame member
    exact (framesSeen frame member).mono grown
  · intro submap member
    exact (submapsSeen submap member).mono grown
  · exact framesPreceded
  · exact submapsPreceded

/-- The next marginalized frame has its samples before it: no `imu_callback`
is running, so sub mapping has every sample that odometry has. -/
theorem causal_insert_marginalized {node : Node glim} {caller : Caller}
    {frame : Emission K glim.EstimationFrame}
    {marginalized : List (Emission K glim.EstimationFrame)}
    (causal : Causal node)
    (here : node.pc = .insertFrames caller (frame :: marginalized)) :
    Causal
      { node with
        subMapping := insertIfEnabled node.subMapping (.payload frame)
        pc := .insertFrames caller marginalized } := by
  obtain ⟨subMappingImus, globalMappingImus, framesSeen, submapsSeen,
    framesPreceded, submapsPreceded⟩ := causal
  rw [here] at subMappingImus globalMappingImus framesSeen submapsSeen
  constructor
  · simpa using subMappingImus
  · exact globalMappingImus
  · intro other member
    exact framesSeen other (List.mem_cons_of_mem frame member)
  · simpa using submapsSeen
  · apply framesPreceded.insert
    intro item same enabled
    have caughtUp := subMappingImus enabled
    simp only [Pc.subMappingLag, List.append_nil] at caughtUp
    cases same
    rw [← caughtUp]
    exact framesSeen frame List.mem_cons_self
  · exact submapsPreceded

/-- The next submap has its samples before it. -/
theorem causal_insert_submap {node : Node glim} {caller : Caller}
    {submap : Emission K glim.SubMap}
    {submaps : List (Emission K glim.SubMap)} (causal : Causal node)
    (here : node.pc = .insertSubmaps caller (submap :: submaps)) :
    Causal
      { node with
        globalMapping := insertIfEnabled node.globalMapping (.payload submap)
        pc := .insertSubmaps caller submaps } := by
  obtain ⟨subMappingImus, globalMappingImus, framesSeen, submapsSeen,
    framesPreceded, submapsPreceded⟩ := causal
  rw [here] at subMappingImus globalMappingImus framesSeen submapsSeen
  constructor
  · exact subMappingImus
  · simpa using globalMappingImus
  · exact framesSeen
  · intro other member
    exact submapsSeen other (List.mem_cons_of_mem submap member)
  · exact framesPreceded
  · apply submapsPreceded.insert
    intro item same enabled
    have caughtUp := globalMappingImus enabled
    simp only [Pc.globalMappingLag, List.append_nil] at caughtUp
    cases same
    rw [← caughtUp]
    exact submapsSeen submap List.mem_cons_self

theorem statement_causal {node next : Node glim}
    (statement : Statement node next) (causal : Causal node) :
    Causal next := by
  cases statement with
  | imuOdometry here => exact causal_insert_imu causal here
  | imuSubMapping here =>
      apply causal_insert_subMapping causal <;> simp [here]
  | imuGlobalMapping here =>
      apply causal_insert_globalMapping causal <;> simp [here]
  | imageOdometry here =>
      apply causal_insert_odometry causal <;> simp [here]
  | imageSubMapping here =>
      apply causal_insert_subMapping causal <;> simp [here]
  | imageGlobalMapping here =>
      apply causal_insert_globalMapping causal <;> simp [here]
  | insertFrame here =>
      apply causal_insert_odometry causal <;> simp [here]
  | @joinOdometry autoQuit _ here returns target =>
      subst target
      have moved : Causal { node with
          pc :=
            if node.subMapping.isSome then .getResults (.wait autoQuit)
            else .pollModules autoQuit } := by
        apply causal_of_pc causal <;> split <;> simp [here]
      apply moved.congr
      constructor <;> simp
  | @getResults caller _ here target =>
      subst target
      obtain ⟨subMappingImus, globalMappingImus, framesSeen, submapsSeen,
        framesPreceded, submapsPreceded⟩ := causal
      rw [here] at subMappingImus globalMappingImus framesSeen submapsSeen
      cases enabled : node.subMapping.isSome <;>
        simp only [Bool.false_eq_true, if_true, if_false] <;>
        constructor <;>
        simp_all
  | insertMarginalized here => exact causal_insert_marginalized causal here
  | @framesDone caller _ here target =>
      subst target
      cases caller <;> apply causal_of_pc causal <;> simp [here]
  | @joinSubMapping autoQuit _ here present returns =>
      have moved : Causal { node with pc := .getSubmaps (.wait autoQuit) } := by
        apply causal_of_pc causal <;> simp [here]
      apply moved.congr
      constructor <;> simp [present]
  | @getSubmaps caller subMapping _ here present target =>
      subst target
      obtain ⟨subMappingImus, globalMappingImus, framesSeen, submapsSeen,
        framesPreceded, submapsPreceded⟩ := causal
      rw [here] at subMappingImus globalMappingImus framesSeen submapsSeen
      rw [present] at subMappingImus submapsSeen framesPreceded
      cases enabled : node.globalMapping.isSome <;> cases caller <;>
        simp only [Bool.false_eq_true, if_true, if_false] <;>
        constructor <;>
        simp_all [afterSubmaps]
  | insertSubmap here => exact causal_insert_submap causal here
  | @submapsDone caller here =>
      cases caller <;> apply causal_of_pc causal <;>
        simp [here, afterSubmaps]
  | @joinGlobalMapping autoQuit _ here present returns =>
      have moved : Causal { node with pc := .pollModules autoQuit } := by
        apply causal_of_pc causal <;> simp [here]
      apply moved.congr
      constructor <;> simp [present]
  | quit here => apply causal_of_pc causal <;> simp [here]
  | poll here => exact causal

theorem nodeStep_causal [Field K] [LinearOrder K] {config : NodeConfig K}
    {node next : Node glim} (step : NodeStep config node next)
    (causal : Causal node) : Causal next := by
  rcases nodeStep_cases step with enters | statement | works | rfl
  · exact enters_causal enters causal
  · exact statement_causal statement causal
  · exact works_causal works causal
  · apply causal.congr
    constructor <;> rfl

theorem reachable_causal [Field K] [LinearOrder K] {config : NodeConfig K}
    {metaConfig : MetaConfig} {accScale : K} {timeKeeper : glim.TimeKeeper}
    {enableSubMapping enableGlobalMapping : Bool} {node : Node glim}
    (reachable :
      (nodeSystem config
        (Node.start glim metaConfig accScale timeKeeper
          enableSubMapping enableGlobalMapping)).Reachable node) :
    Causal node := by
  refine reachable.invariant Causal ?_ ?_
  · intro state init
    cases init
    exact causal_start metaConfig accScale timeKeeper
      enableSubMapping enableGlobalMapping
  · intro state next _ causal step
    exact nodeStep_causal step causal

/-- In every run and for every choice of enabled stages, a frame is inserted
into sub mapping only behind all IMU samples that odometry had been given
when it emitted the frame, and a submap is inserted into global mapping only
behind all samples that odometry or sub mapping had been given by then. -/
theorem node_causal [Field K] [LinearOrder K] (config : NodeConfig K)
    (metaConfig : MetaConfig) (accScale : K) (timeKeeper : glim.TimeKeeper)
    (enableSubMapping enableGlobalMapping : Bool) {node : Node glim}
    (reachable :
      (nodeSystem config
        (Node.start glim metaConfig accScale timeKeeper
          enableSubMapping enableGlobalMapping)).Reachable node) :
    Preceded FrameSeen (stageHistory node.subMapping) ∧
      Preceded SubmapSeen (stageHistory node.globalMapping) := by
  have causal := reachable_causal reachable
  exact ⟨causal.framesPreceded, causal.submapsPreceded⟩

/-- Odometry emits a frame while `imu_callback` still has the sample to
insert into the mapping stages. -/
theorem node_causal_early_frame :
    ∃ (node : Node numberedGlim) (sample : ImuSample Rat),
      stageHistory node.subMapping =
          [.imu sample, .payload ⟨(1 : Nat), [sample], []⟩] ∧
        Preceded FrameSeen (stageHistory node.subMapping) ∧
        Preceded SubmapSeen (stageHistory node.globalMapping) := by
  have started : (nodeSystem defaultNodeConfig
      (Node.start numberedGlim .empty 1 () true true)).Reachable _ := .init rfl
  have called := started.step (.imu rfl levelImu)
  have odometry := called.step (.statement true rfl)
  have emitted := odometry.step (.works (.odometryEmits (1 : Nat) rfl))
  have subMapping := emitted.step (.statement true rfl)
  have globalMapping := subMapping.step (.statement true rfl)
  have timer := globalMapping.step (.timer rfl true)
  have fetched := timer.step (.statement true rfl)
  have inserted := fetched.step (.statement true rfl)
  exact ⟨_, _, rfl,
    node_causal defaultNodeConfig .empty 1 () true true inserted⟩

end GlimRos
