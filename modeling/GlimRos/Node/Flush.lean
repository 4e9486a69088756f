import GlimRos.Node.Joins
import GlimRos.Library.Channel

/-!
# No frame and no submap is lost, doubled or reordered

With both mapping stages enabled, the path of marginalized frames from
odometry to sub mapping and the path of submaps from sub mapping to global
mapping are first-in first-out channels: the output buffer and the local
vector of the running callback are what is in transit.  `wait` drains both,
and nothing moves any more once it has returned.
-/

namespace GlimRos

open Transition

variable {K : Type} {glim : Glim K}

/-- Both mapping stages exist. -/
structure Node.MappingEnabled (node : Node glim) : Prop where
  subMapping : node.subMapping.isSome
  globalMapping : node.globalMapping.isSome

/-- The node carries marginalized frames like `channel`. -/
def CarriesFrames (node : Node glim)
    (channel : Channel (Emission K glim.EstimationFrame)) : Prop :=
  channel.Carries node.odometryEstimation.emitted
    (stagePayloads node.subMapping)
    (node.pc.localFrames ++ node.odometryEstimation.buffer)

/-- The node carries submaps like `channel`. -/
def CarriesSubmaps (node : Node glim)
    (channel : Channel (Emission K glim.SubMap)) : Prop :=
  channel.Carries (stageEmitted node.subMapping)
    (stagePayloads node.globalMapping)
    (node.pc.localSubmaps ++ stageBuffer node.subMapping)

theorem nodeStep_mappingEnabled [Field K] [LinearOrder K] {config : NodeConfig K}
    {node next : Node glim} (step : NodeStep config node next)
    (enabled : node.MappingEnabled) : next.MappingEnabled := by
  obtain ⟨subMapping, globalMapping⟩ := nodeStep_stages step
  exact ⟨subMapping ▸ enabled.subMapping, globalMapping ▸ enabled.globalMapping⟩

/-! ## One step of each channel -/

theorem enters_carriesFrames {node next : Node glim}
    {channel : Channel (Emission K glim.EstimationFrame)}
    (enters : Enters node next) (carries : CarriesFrames node channel) :
    ∃ later, Channel.system.Steps channel later ∧
      CarriesFrames next later := by
  apply Channel.Carries.stutter carries
  · rw [enters.odometryEstimation]
  · rw [enters.subMapping]
  · rw [enters.odometryEstimation, enters.localFrames_eq]

theorem statement_carriesFrames {node next : Node glim}
    {channel : Channel (Emission K glim.EstimationFrame)}
    (statement : Statement node next) (enabled : node.MappingEnabled)
    (carries : CarriesFrames node channel) :
    ∃ later, Channel.system.Steps channel later ∧
      CarriesFrames next later := by
  cases statement with
  | @insertMarginalized caller frame marginalized here =>
      apply Channel.Carries.receives carries frame
      · rfl
      · exact insertIfEnabled_payload_payloads _ enabled.subMapping frame
      · simp [here]
  | joinOdometry here returns target =>
      subst target
      apply Channel.Carries.stutter carries <;>
        simp [here, enabled.subMapping]
  | getResults here target =>
      subst target
      apply Channel.Carries.stutter carries <;>
        simp [here, enabled.subMapping]
  | @framesDone caller _ here target =>
      subst target
      apply Channel.Carries.stutter carries
      · rfl
      · rfl
      · cases caller <;> simp [here]
  | joinSubMapping here present returns =>
      apply Channel.Carries.stutter carries <;>
        simp [here, present]
  | @getSubmaps caller _ _ here present target =>
      subst target
      apply Channel.Carries.stutter carries
      · rfl
      · simp [present]
      · simp [here, enabled.globalMapping]
  | @submapsDone caller here =>
      apply Channel.Carries.stutter carries
      · rfl
      · rfl
      · cases caller <;> simp [here, afterSubmaps]
  | poll here => exact Channel.Carries.stutter carries rfl rfl rfl
  | _ here =>
      apply Channel.Carries.stutter carries <;>
        simp [here]

theorem works_carriesFrames {node next : Node glim}
    {channel : Channel (Emission K glim.EstimationFrame)}
    (works : Works node next) (carries : CarriesFrames node channel) :
    ∃ later, Channel.system.Steps channel later ∧
      CarriesFrames next later := by
  cases works with
  | odometryEmits frame running =>
      apply Channel.Carries.sends carries
      · rfl
      · rfl
      · simp [odometryEmits]
  | odometryConsumes consumes =>
      exact Channel.Carries.stutter carries rfl rfl rfl
  | globalMappingConsumes present consumes =>
      exact Channel.Carries.stutter carries rfl rfl rfl
  | subMappingConsumes present consumes =>
      apply Channel.Carries.stutter carries <;> simp [present]
  | subMappingEmits present submap running =>
      apply Channel.Carries.stutter carries <;>
        simp [present, subMappingEmits]

theorem enters_carriesSubmaps {node next : Node glim}
    {channel : Channel (Emission K glim.SubMap)}
    (enters : Enters node next) (carries : CarriesSubmaps node channel) :
    ∃ later, Channel.system.Steps channel later ∧
      CarriesSubmaps next later := by
  apply Channel.Carries.stutter carries
  · rw [enters.subMapping]
  · rw [enters.globalMapping]
  · rw [enters.subMapping, enters.localSubmaps_eq]

theorem statement_carriesSubmaps {node next : Node glim}
    {channel : Channel (Emission K glim.SubMap)}
    (statement : Statement node next) (enabled : node.MappingEnabled)
    (carries : CarriesSubmaps node channel) :
    ∃ later, Channel.system.Steps channel later ∧
      CarriesSubmaps next later := by
  cases statement with
  | @insertSubmap caller submap submaps here =>
      apply Channel.Carries.receives carries submap
      · rfl
      · exact insertIfEnabled_payload_payloads _ enabled.globalMapping submap
      · simp [here]
  | joinOdometry here returns target =>
      subst target
      apply Channel.Carries.stutter carries <;>
        simp [here, enabled.subMapping]
  | getResults here target =>
      subst target
      apply Channel.Carries.stutter carries <;>
        simp [here, enabled.subMapping]
  | @framesDone caller _ here target =>
      subst target
      apply Channel.Carries.stutter carries
      · rfl
      · rfl
      · cases caller <;> simp [here]
  | joinSubMapping here present returns =>
      apply Channel.Carries.stutter carries <;>
        simp [here, present]
  | getSubmaps here present target =>
      subst target
      apply Channel.Carries.stutter carries <;>
        simp [here, present, enabled.globalMapping]
  | @submapsDone caller here =>
      apply Channel.Carries.stutter carries
      · rfl
      · rfl
      · cases caller <;> simp [here, afterSubmaps]
  | joinGlobalMapping here present returns =>
      apply Channel.Carries.stutter carries <;>
        simp [here, present]
  | poll here => exact Channel.Carries.stutter carries rfl rfl rfl
  | _ here =>
      apply Channel.Carries.stutter carries <;>
        simp [here]

theorem works_carriesSubmaps {node next : Node glim}
    {channel : Channel (Emission K glim.SubMap)}
    (works : Works node next) (carries : CarriesSubmaps node channel) :
    ∃ later, Channel.system.Steps channel later ∧
      CarriesSubmaps next later := by
  cases works with
  | subMappingEmits present submap running =>
      apply Channel.Carries.sends carries
      · simp [present, subMappingEmits]
        rfl
      · rfl
      · simp [present, subMappingEmits]
  | subMappingConsumes present consumes =>
      apply Channel.Carries.stutter carries <;> simp [present]
  | globalMappingConsumes present consumes =>
      apply Channel.Carries.stutter carries <;> simp [present]
  | odometryConsumes consumes =>
      exact Channel.Carries.stutter carries rfl rfl rfl
  | odometryEmits frame running =>
      exact Channel.Carries.stutter carries rfl rfl rfl

/-! ## The two simulations -/

section Simulations

variable [Field K] [LinearOrder K]

/-- A path of the node that every kind of step carries on like a channel
refines the channel. -/
def pathSimulation {Item : Type} (config : NodeConfig K) (start : Node glim)
    (enabled : start.MappingEnabled)
    (Carried : Node glim → Channel Item → Prop)
    (fresh : Carried start Channel.empty)
    (enters : ∀ {node next channel}, Enters node next →
      Carried node channel →
      ∃ later, Channel.system.Steps channel later ∧ Carried next later)
    (statement : ∀ {node next channel}, Statement node next →
      node.MappingEnabled → Carried node channel →
      ∃ later, Channel.system.Steps channel later ∧ Carried next later)
    (works : ∀ {node next channel}, Works node next →
      Carried node channel →
      ∃ later, Channel.system.Steps channel later ∧ Carried next later)
    (shutdown : ∀ {node channel}, Carried node channel →
      Carried { node with rclcppOk := false } channel) :
    Simulation (nodeSystem config start) (@Channel.system Item) :=
  { Related := fun node channel =>
      node.MappingEnabled ∧ Carried node channel
    init := by
      intro node init
      cases init
      exact ⟨Channel.empty, rfl, enabled, fresh⟩
    step := by
      rintro node next channel ⟨enabled, carried⟩ step
      have stillEnabled := nodeStep_mappingEnabled step enabled
      rcases nodeStep_cases step with entered | stated | worked | rfl
      · obtain ⟨later, steps, kept⟩ := enters entered carried
        exact ⟨later, steps, stillEnabled, kept⟩
      · obtain ⟨later, steps, kept⟩ := statement stated enabled carried
        exact ⟨later, steps, stillEnabled, kept⟩
      · obtain ⟨later, steps, kept⟩ := works worked carried
        exact ⟨later, steps, stillEnabled, kept⟩
      · exact ⟨channel, .refl _ channel, stillEnabled, shutdown carried⟩ }

/-- The frame path of the node refines a channel. -/
def frameSimulation (config : NodeConfig K) (start : Node glim)
    (enabled : start.MappingEnabled)
    (fresh : CarriesFrames start Channel.empty) :
    Simulation (nodeSystem config start)
      (@Channel.system (Emission K glim.EstimationFrame)) :=
  pathSimulation config start enabled CarriesFrames fresh
    enters_carriesFrames statement_carriesFrames works_carriesFrames id

/-- The submap path of the node refines a channel. -/
def submapSimulation (config : NodeConfig K) (start : Node glim)
    (enabled : start.MappingEnabled)
    (fresh : CarriesSubmaps start Channel.empty) :
    Simulation (nodeSystem config start)
      (@Channel.system (Emission K glim.SubMap)) :=
  pathSimulation config start enabled CarriesSubmaps fresh
    enters_carriesSubmaps statement_carriesSubmaps works_carriesSubmaps id

end Simulations

/-! ## What `wait` leaves behind -/

/-- The joins and fetches that a running `wait` already did still hold. -/
structure Node.Drained (node : Node glim) : Prop where
  odometryJoined : 1 ≤ node.pc.waitPhase →
    node.odometryEstimation.joined = true
  odometryBuffer : 2 ≤ node.pc.waitPhase →
    node.odometryEstimation.buffer = []
  subMappingJoined : 3 ≤ node.pc.waitPhase →
    ∀ subMapping, node.subMapping = some subMapping →
      subMapping.joined = true
  subMappingBuffer : 4 ≤ node.pc.waitPhase →
    stageBuffer node.subMapping = []

/-- With sub mapping, the phases of `wait` say what it has drained. -/
theorem Node.Phases.drained {node : Node glim} (phases : node.Phases)
    (enabled : node.MappingEnabled) : node.Drained :=
  { odometryJoined := phases.odometryJoined
    odometryBuffer := fun phase => phases.odometryBuffer phase enabled.subMapping
    subMappingJoined := phases.subMappingJoined
    subMappingBuffer := phases.subMappingBuffer }

/-! ## After `wait` has returned -/

/-- Inside a `wait` with nothing in local vectors. -/
def Pc.Waiting : Pc glim → Prop
  | .joinOdometry _ | .getResults (.wait _) | .insertFrames (.wait _) [] => True
  | .joinSubMapping _ | .getSubmaps (.wait _) => True
  | .insertSubmaps (.wait _) [] | .joinGlobalMapping _ => True
  | .pollModules _ | .waited => True
  | _ => False

/-- Both upstream workers have ended and their buffers are empty, so only
further calls of `wait` run. -/
structure Node.Settled (node : Node glim) : Prop where
  enabled : node.MappingEnabled
  odometryJoined : node.odometryEstimation.joined = true
  odometryBuffer : node.odometryEstimation.buffer = []
  subMappingJoined : ∀ subMapping, node.subMapping = some subMapping →
    subMapping.joined = true
  subMappingBuffer : stageBuffer node.subMapping = []
  waiting : node.pc.Waiting

/-- Everything emitted and inserted on the two paths. -/
def Node.histories (node : Node glim) :=
  (node.odometryEstimation.emitted, stagePayloads node.subMapping,
    stageEmitted node.subMapping, stagePayloads node.globalMapping)

theorem settled_of_waited {node : Node glim} (enabled : node.MappingEnabled)
    (drained : node.Drained) (waited : node.pc = .waited) :
    node.Settled := by
  have phase : node.pc.waitPhase = 4 := by rw [waited]; rfl
  exact
    { enabled := enabled
      odometryJoined := drained.odometryJoined (by omega)
      odometryBuffer := drained.odometryBuffer (by omega)
      subMappingJoined := drained.subMappingJoined (by omega)
      subMappingBuffer := drained.subMappingBuffer (by omega)
      waiting := by rw [waited]; trivial }

theorem enters_settled {node next : Node glim} (enters : Enters node next)
    (stillEnabled : next.MappingEnabled) (settled : node.Settled) :
    next.Settled ∧ next.histories = node.histories := by
  have waited : node.pc = .waited := by
    rcases enters.ready with idle | waited
    · have waiting := settled.waiting
      rw [idle] at waiting
      exact waiting.elim
    · exact waited
  obtain ⟨autoQuit, joining⟩ := enters.again waited
  refine ⟨⟨stillEnabled, ?_, ?_, ?_, ?_, ?_⟩, ?_⟩
  · rw [enters.odometryEstimation]; exact settled.odometryJoined
  · rw [enters.odometryEstimation]; exact settled.odometryBuffer
  · rw [enters.subMapping]; exact settled.subMappingJoined
  · rw [enters.subMapping]; exact settled.subMappingBuffer
  · rw [joining]; trivial
  · simp only [Node.histories, enters.odometryEstimation, enters.subMapping,
      enters.globalMapping]

theorem statement_settled {node next : Node glim}
    (statement : Statement node next) (stillEnabled : next.MappingEnabled)
    (settled : node.Settled) :
    next.Settled ∧ next.histories = node.histories := by
  obtain ⟨enabled, odometryJoined, odometryBuffer, subMappingJoined,
    subMappingBuffer, waiting⟩ := settled
  obtain ⟨subMappingSome, globalMappingSome⟩ := enabled
  cases statement with
  | joinOdometry here returns target =>
      subst target
      refine ⟨⟨stillEnabled, rfl, odometryBuffer, subMappingJoined,
        subMappingBuffer, ?_⟩, rfl⟩
      simp [subMappingSome, Pc.Waiting]
  | @getResults caller _ here target =>
      subst target
      cases caller with
      | timer => simp [here, Pc.Waiting] at waiting
      | wait autoQuit =>
          refine ⟨⟨stillEnabled, odometryJoined, rfl, subMappingJoined,
            subMappingBuffer, ?_⟩, rfl⟩
          simp [subMappingSome, odometryBuffer, Pc.Waiting]
  | @insertMarginalized caller frame marginalized here =>
      cases caller <;> simp [here, Pc.Waiting] at waiting
  | @framesDone caller _ here target =>
      subst target
      cases caller with
      | timer => simp [here, Pc.Waiting] at waiting
      | wait autoQuit =>
          exact ⟨⟨stillEnabled, odometryJoined, odometryBuffer,
            subMappingJoined, subMappingBuffer, trivial⟩, rfl⟩
  | joinSubMapping here present returns =>
      refine ⟨⟨stillEnabled, odometryJoined, odometryBuffer, ?_, ?_, trivial⟩,
        ?_⟩
      · simp
      · simpa [present] using subMappingBuffer
      · simp [Node.histories, present]
  | @getSubmaps caller subMapping _ here present target =>
      subst target
      cases caller with
      | timer => simp [here, Pc.Waiting] at waiting
      | wait autoQuit =>
          have buffer : subMapping.buffer = [] := by
            simpa [present] using subMappingBuffer
          refine ⟨⟨stillEnabled, odometryJoined, odometryBuffer, ?_, ?_, ?_⟩,
            ?_⟩
          · simpa using subMappingJoined subMapping present
          · simp
          · simp [globalMappingSome, buffer, Pc.Waiting]
          · simp [Node.histories, present]
  | @insertSubmap caller submap submaps here =>
      cases caller <;> simp [here, Pc.Waiting] at waiting
  | @submapsDone caller here =>
      cases caller with
      | timer => simp [here, Pc.Waiting] at waiting
      | wait autoQuit =>
          exact ⟨⟨stillEnabled, odometryJoined, odometryBuffer,
            subMappingJoined, subMappingBuffer, trivial⟩, rfl⟩
  | joinGlobalMapping here present returns =>
      refine ⟨⟨stillEnabled, odometryJoined, odometryBuffer,
        subMappingJoined, subMappingBuffer, trivial⟩, ?_⟩
      simp [Node.histories, present]
  | quit here =>
      exact ⟨⟨stillEnabled, odometryJoined, odometryBuffer,
        subMappingJoined, subMappingBuffer, trivial⟩, rfl⟩
  | poll here =>
      exact ⟨⟨stillEnabled, odometryJoined, odometryBuffer,
        subMappingJoined, subMappingBuffer, waiting⟩, rfl⟩
  | _ here => simp [here, Pc.Waiting] at waiting

theorem works_settled {node next : Node glim} (works : Works node next)
    (stillEnabled : next.MappingEnabled) (settled : node.Settled) :
    next.Settled ∧ next.histories = node.histories := by
  obtain ⟨enabled, odometryJoined, odometryBuffer, subMappingJoined,
    subMappingBuffer, waiting⟩ := settled
  cases works with
  | odometryConsumes consumes =>
      exact ⟨⟨stillEnabled, odometryJoined, odometryBuffer,
        subMappingJoined, subMappingBuffer, waiting⟩, rfl⟩
  | odometryEmits frame running =>
      rw [odometryJoined] at running
      cases running
  | subMappingConsumes present consumes =>
      have running := consumes.running
      rw [subMappingJoined _ present] at running
      cases running
  | subMappingEmits present submap running =>
      rw [subMappingJoined _ present] at running
      cases running
  | globalMappingConsumes present consumes =>
      refine ⟨⟨stillEnabled, odometryJoined, odometryBuffer,
        subMappingJoined, subMappingBuffer, waiting⟩, ?_⟩
      simp [Node.histories, present]

theorem nodeStep_settled [Field K] [LinearOrder K] {config : NodeConfig K}
    {node next : Node glim} (step : NodeStep config node next)
    (settled : node.Settled) :
    next.Settled ∧ next.histories = node.histories := by
  have stillEnabled := nodeStep_mappingEnabled step settled.enabled
  rcases nodeStep_cases step with enters | statement | works | rfl
  · exact enters_settled enters stillEnabled settled
  · exact statement_settled statement stillEnabled settled
  · exact works_settled works stillEnabled settled
  · obtain ⟨_, odometryJoined, odometryBuffer, subMappingJoined,
      subMappingBuffer, waiting⟩ := settled
    exact ⟨⟨stillEnabled, odometryJoined, odometryBuffer, subMappingJoined,
      subMappingBuffer, waiting⟩, rfl⟩

/-! ## The whole run -/

section Runs

variable [Field K] [LinearOrder K]

/-- What holds of the two paths in a state of a run with mapping enabled. -/
structure Lossless (config : NodeConfig K) (start node : Node glim) :
    Prop where
  frames :
    stagePayloads node.subMapping ++
        (node.pc.localFrames ++ node.odometryEstimation.buffer) =
      node.odometryEstimation.emitted
  submaps :
    stagePayloads node.globalMapping ++
        (node.pc.localSubmaps ++ stageBuffer node.subMapping) =
      stageEmitted node.subMapping
  framesFlushed : node.pc = .waited →
    stagePayloads node.subMapping = node.odometryEstimation.emitted
  submapsFlushed : node.pc = .waited →
    stagePayloads node.globalMapping = stageEmitted node.subMapping
  /-- A second `wait` inserts nothing, and no worker emits any more. -/
  ended : node.pc = .waited →
    ∀ later, (nodeSystem config start).Steps node later →
      later.histories = node.histories

omit [Field K] [LinearOrder K] in
theorem start_mappingEnabled (metaConfig : MetaConfig) (accScale : K)
    (timeKeeper : glim.TimeKeeper) :
    (Node.start glim metaConfig accScale timeKeeper true true).MappingEnabled :=
  ⟨rfl, rfl⟩

theorem reachable_drained {config : NodeConfig K} (metaConfig : MetaConfig)
    (accScale : K) (timeKeeper : glim.TimeKeeper) {node : Node glim}
    (reachable :
      (nodeSystem config
        (Node.start glim metaConfig accScale timeKeeper
          true true)).Reachable node) :
    node.MappingEnabled ∧ node.Drained := by
  obtain ⟨subMapping, globalMapping⟩ := reachable_stages reachable
  have enabled : node.MappingEnabled := ⟨subMapping, globalMapping⟩
  have phases := (reachable_joins rfl
    (start_unjoined metaConfig accScale timeKeeper true true) reachable).1
  exact ⟨enabled, phases.drained enabled⟩

/-- In every run with sub mapping and global mapping enabled, what a stage
was given is what the stage before it emitted, less what is in the output
buffer and in the local vector of the running callback.  When `wait` has
returned nothing is missing, and no later `wait` adds anything. -/
theorem node_lossless (config : NodeConfig K) (metaConfig : MetaConfig)
    (accScale : K) (timeKeeper : glim.TimeKeeper) {node : Node glim}
    (reachable :
      (nodeSystem config
        (Node.start glim metaConfig accScale timeKeeper
          true true)).Reachable node) :
    Lossless config
      (Node.start glim metaConfig accScale timeKeeper true true) node := by
  have started := start_mappingEnabled metaConfig accScale timeKeeper
  obtain ⟨frameChannel, _, _, carriesFrames⟩ :=
    (frameSimulation config _ started ⟨rfl, rfl, rfl⟩).reachable reachable
  obtain ⟨submapChannel, _, _, carriesSubmaps⟩ :=
    (submapSimulation config _ started ⟨rfl, rfl, rfl⟩).reachable reachable
  obtain ⟨enabled, drained⟩ :=
    reachable_drained metaConfig accScale timeKeeper reachable
  refine
    { frames := carriesFrames.accounted
      submaps := carriesSubmaps.accounted
      framesFlushed := ?_
      submapsFlushed := ?_
      ended := ?_ }
  · intro waited
    have settled := settled_of_waited enabled drained waited
    apply carriesFrames.complete
    rw [waited, settled.odometryBuffer]
    rfl
  · intro waited
    have settled := settled_of_waited enabled drained waited
    apply carriesSubmaps.complete
    rw [waited, settled.subMappingBuffer]
    rfl
  · intro waited later steps
    exact steps.constant Node.histories
      (fun _ _ settled step => nodeStep_settled step settled)
      (settled_of_waited enabled drained waited)

end Runs

/-- Two frames and two submaps, one of each fetched by the timer and the
others by `wait`, with the workers stepping inside both callbacks. -/
theorem node_lossless_two_frames :
    ∃ node : Node numberedGlim,
      node.pc = .waited ∧
        stagePayloads node.subMapping =
          [⟨(1 : Nat), [], []⟩, ⟨(2 : Nat), [], []⟩] ∧
        stagePayloads node.globalMapping =
          [⟨(10 : Nat), [], []⟩, ⟨(20 : Nat), [], []⟩] ∧
        Lossless defaultNodeConfig
          (Node.start numberedGlim .empty 1 () true true) node := by
  have started : (nodeSystem defaultNodeConfig
      (Node.start numberedGlim .empty 1 () true true)).Reachable _ := .init rfl
  have emitted := started.step (.works (.odometryEmits (1 : Nat) rfl))
  have timer := emitted.step (.timer rfl true)
  have fetched := timer.step (.statement true rfl)
  have emittedAgain := fetched.step (.works (.odometryEmits (2 : Nat) rfl))
  have inserted := emittedAgain.step (.statement true rfl)
  have framesDone := inserted.step (.statement true rfl)
  have submap := framesDone.step (.works (.subMappingEmits rfl (10 : Nat) rfl))
  have submaps := submap.step (.statement true rfl)
  have insertedSubmap := submaps.step (.statement true rfl)
  have timerDone := insertedSubmap.step (.statement true rfl)
  have wait := timerDone.step (.wait (.inl rfl) true)
  have joined := wait.step (.statement true rfl)
  have fetchedLast := joined.step (.statement true rfl)
  have insertedLast := fetchedLast.step (.statement true rfl)
  have framesOver := insertedLast.step (.statement true rfl)
  have consumedFirst := framesOver.step
    (.works (.subMappingConsumes rfl ⟨rfl, .refl _⟩))
  have consumedSecond := consumedFirst.step
    (.works (.subMappingConsumes rfl ⟨rfl, .refl _⟩))
  have lastSubmap := consumedSecond.step
    (.works (.subMappingEmits rfl (20 : Nat) rfl))
  have joinedSubMapping := lastSubmap.step (.statement true rfl)
  have lastSubmaps := joinedSubMapping.step (.statement true rfl)
  have insertedLastSubmap := lastSubmaps.step (.statement true rfl)
  have submapsOver := insertedLastSubmap.step (.statement true rfl)
  have mappedFirst := submapsOver.step
    (.works (.globalMappingConsumes rfl ⟨rfl, .refl _⟩))
  have mappedSecond := mappedFirst.step
    (.works (.globalMappingConsumes rfl ⟨rfl, .refl _⟩))
  have joinedGlobalMapping := mappedSecond.step (.statement true rfl)
  have returned := joinedGlobalMapping.step (.statement true rfl)
  exact ⟨_, rfl, rfl, rfl, node_lossless defaultNodeConfig .empty 1 _ returned⟩

end GlimRos
