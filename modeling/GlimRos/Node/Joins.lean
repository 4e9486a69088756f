import GlimRos.Node.Inversion

/-!
# What the joins of `wait` leave behind

`wait` joins odometry, sub mapping and global mapping one after the other,
and feeds each stage before it joins it.  The joins of both mapping stages
stand under the condition that sub mapping exists, while the callbacks feed
global mapping on its own condition.
-/

namespace GlimRos

open Transition

variable {K : Type} {glim : Glim K}

namespace Pc

/-- Inside `wait`, or after it. -/
@[simp] def inWait : Pc glim → Bool
  | .joinOdometry _ | .getResults (.wait _) | .insertFrames (.wait _) _ => true
  | .joinSubMapping _ | .getSubmaps (.wait _) => true
  | .insertSubmaps (.wait _) _ | .joinGlobalMapping _ => true
  | .pollModules _ | .waited => true
  | _ => false

/-- `wait` has got past its join phase. -/
@[simp] def pastJoins : Pc glim → Bool
  | .pollModules _ | .waited => true
  | _ => false

end Pc

/-! ## Where `wait` stands -/

/-- What a running `wait` has already done still holds. -/
structure Node.Phases (node : Node glim) : Prop where
  subMappingExists : 1 ≤ node.pc.waitPhase → node.pc.pastJoins = false →
    node.subMapping.isSome
  odometryJoined : 1 ≤ node.pc.waitPhase →
    node.odometryEstimation.joined = true
  odometryBuffer : 2 ≤ node.pc.waitPhase → node.subMapping.isSome →
    node.odometryEstimation.buffer = []
  subMappingJoined : 3 ≤ node.pc.waitPhase →
    ∀ subMapping, node.subMapping = some subMapping →
      subMapping.joined = true
  subMappingBuffer : 4 ≤ node.pc.waitPhase →
    stageBuffer node.subMapping = []
  globalMappingJoined : node.pc.pastJoins = true → node.subMapping.isSome →
    ∀ globalMapping, node.globalMapping = some globalMapping →
      globalMapping.joined = true

/-- Outside `wait` nothing is claimed. -/
theorem phases_outside {node : Node glim} (phase : node.pc.waitPhase = 0)
    (joining : node.pc.pastJoins = false) : node.Phases := by
  constructor
  case globalMappingJoined =>
    intro past
    rw [joining] at past
    cases past
  all_goals
    intro started
    rw [phase] at started
    omega

theorem enters_phases {node next : Node glim} (enters : Enters node next) :
    next.Phases := by
  apply phases_outside enters.waitPhase
  cases past : next.pc.pastJoins with
  | false => rfl
  | true =>
      have phase := enters.waitPhase
      cases here : next.pc <;> simp [here] at past phase

/-- A statement that only moves on keeps what is done at its phase. -/
theorem Node.Phases.moveTo {node : Node glim} (phases : node.Phases)
    {pc : Pc glim} (phase : pc.waitPhase = node.pc.waitPhase)
    (joining : pc.pastJoins = node.pc.pastJoins) :
    { node with pc := pc }.Phases := by
  constructor
  · rw [phase, joining]; exact phases.subMappingExists
  · rw [phase]; exact phases.odometryJoined
  · rw [phase]; exact phases.odometryBuffer
  · rw [phase]; exact phases.subMappingJoined
  · rw [phase]; exact phases.subMappingBuffer
  · rw [joining]; exact phases.globalMappingJoined

theorem statement_phases {node next : Node glim}
    (statement : Statement node next) (phases : node.Phases) :
    next.Phases := by
  cases statement with
  | joinOdometry here returns target =>
      subst target
      cases present : node.subMapping with
      | none => constructor <;> simp
      | some subMapping => constructor <;> simp
  | @getResults caller _ here target =>
      subst target
      cases caller with
      | timer => split <;> exact phases_outside rfl rfl
      | wait autoQuit =>
          have exist := phases.subMappingExists (by simp [here]) (by simp [here])
          have joined := phases.odometryJoined (by simp [here])
          rw [if_pos exist]
          constructor <;> simp [exist, joined]
  | @insertMarginalized caller frame marginalized here =>
      cases caller with
      | timer => exact phases_outside rfl rfl
      | wait autoQuit =>
          have exist := phases.subMappingExists (by simp [here]) (by simp [here])
          have joined := phases.odometryJoined (by simp [here])
          have buffer := phases.odometryBuffer (by simp [here]) exist
          constructor <;> simp [exist, joined, buffer]
  | @framesDone caller _ here target =>
      subst target
      cases caller with
      | timer => exact phases_outside rfl rfl
      | wait autoQuit => exact phases.moveTo (by simp [here]) (by simp [here])
  | joinSubMapping here present returns =>
      have joined := phases.odometryJoined (by simp [here])
      have buffer := phases.odometryBuffer (by simp [here]) (by rw [present]; rfl)
      constructor <;> simp [joined, buffer]
  | @getSubmaps caller subMapping _ here present target =>
      subst target
      cases caller with
      | timer => split <;> exact phases_outside rfl rfl
      | wait autoQuit =>
          have joined := phases.odometryJoined (by simp [here])
          have buffer := phases.odometryBuffer (by simp [here]) (by rw [present]; rfl)
          have subMappingJoined := phases.subMappingJoined (by simp [here]) _ present
          cases node.globalMapping <;> constructor <;>
            simp [joined, buffer, subMappingJoined, afterSubmaps]
  | @insertSubmap caller submap submaps here =>
      cases caller with
      | timer => exact phases_outside rfl rfl
      | wait autoQuit =>
          obtain ⟨subMappingExists, odometryJoined, odometryBuffer,
            subMappingJoined, subMappingBuffer, _⟩ := phases
          rw [here] at *
          exact ⟨subMappingExists, odometryJoined, odometryBuffer,
            subMappingJoined, subMappingBuffer, nofun⟩
  | @submapsDone caller here =>
      cases caller with
      | timer => exact phases_outside rfl rfl
      | wait autoQuit =>
          exact phases.moveTo (by simp [here, afterSubmaps])
            (by simp [here, afterSubmaps])
  | joinGlobalMapping here present returns =>
      obtain ⟨_, odometryJoined, odometryBuffer, subMappingJoined,
        subMappingBuffer, _⟩ := phases
      rw [here] at *
      refine ⟨nofun, odometryJoined, odometryBuffer, subMappingJoined,
        subMappingBuffer, ?_⟩
      simp
  | quit here => exact phases.moveTo (by simp [here]) (by simp [here])
  | poll here => exact phases
  | _ here => exact phases_outside rfl rfl

theorem works_phases {node next : Node glim}
    (works : Works node next) (phases : node.Phases) : next.Phases := by
  obtain ⟨subMappingExists, odometryJoined, odometryBuffer,
    subMappingJoined, subMappingBuffer, globalMappingJoined⟩ := phases
  cases works with
  | odometryEmits frame running =>
      -- an odometry worker that still emits has not been joined
      have notJoined : node.pc.waitPhase < 1 := by
        by_contra phase
        rw [odometryJoined (by omega)] at running
        cases running
      refine ⟨subMappingExists, odometryJoined, ?_, subMappingJoined,
        subMappingBuffer, globalMappingJoined⟩
      intro phase
      simp only [odometryEmits] at phase
      omega
  | odometryConsumes consumes =>
      exact ⟨subMappingExists, odometryJoined, odometryBuffer,
        subMappingJoined, subMappingBuffer, globalMappingJoined⟩
  | globalMappingConsumes present consumes =>
      refine ⟨subMappingExists, odometryJoined, odometryBuffer,
        subMappingJoined, subMappingBuffer, ?_⟩
      rintro past exist _ ⟨⟩
      have joined := globalMappingJoined past exist _ present
      exact joined
  | subMappingConsumes present consumes =>
      have exist : node.subMapping.isSome := by rw [present]; rfl
      refine ⟨fun _ _ => rfl, odometryJoined, ?_, ?_, ?_, ?_⟩
      · intro phase _
        exact odometryBuffer phase exist
      · rintro phase _ ⟨⟩
        have joined := subMappingJoined phase _ present
        exact joined
      · intro phase
        have buffer := subMappingBuffer phase
        rw [present] at buffer
        exact buffer
      · intro past _
        exact globalMappingJoined past exist
  | subMappingEmits present submap running =>
      have notJoined : node.pc.waitPhase < 3 := by
        by_contra phase
        rw [subMappingJoined (by omega) _ present] at running
        cases running
      refine ⟨fun _ _ => rfl, odometryJoined, ?_, ?_, ?_, ?_⟩
      · intro phase _
        exact odometryBuffer phase (by rw [present]; rfl)
      · simp only [subMappingEmits]
        intro phase
        omega
      · simp only [subMappingEmits]
        intro phase
        omega
      · intro past _
        exact globalMappingJoined past (by rw [present]; rfl)

/-! ## What a joined stage can still get -/

/-- No stage has been joined. -/
structure Node.Unjoined (node : Node glim) : Prop where
  odometry : node.odometryEstimation.joined = false
  subMapping : ∀ subMapping, node.subMapping = some subMapping →
    subMapping.joined = false
  globalMapping : ∀ globalMapping, node.globalMapping = some globalMapping →
    globalMapping.joined = false

/-- A joined stage has nothing to consume, and nothing on the way to it. -/
structure Node.Sealed (node : Node glim) : Prop where
  odometry : node.odometryEstimation.joined = true →
    node.pc.inWait = true ∧ node.odometryEstimation.pending = []
  subMapping : ∀ subMapping, node.subMapping = some subMapping →
    subMapping.joined = true →
    subMapping.pending = [] ∧ node.odometryEstimation.joined = true ∧
      node.odometryEstimation.buffer = [] ∧ node.pc.localFrames = []
  globalMapping : ∀ globalMapping, node.globalMapping = some globalMapping →
    globalMapping.joined = true →
    globalMapping.pending = [] ∧ node.pc.localSubmaps = [] ∧
      ∃ subMapping, node.subMapping = some subMapping ∧
        subMapping.joined = true ∧ subMapping.buffer = []

theorem Node.Unjoined.isSealed {node : Node glim}
    (unjoined : node.Unjoined) : node.Sealed := by
  constructor
  · intro joined
    rw [unjoined.odometry] at joined
    cases joined
  · intro subMapping present joined
    rw [unjoined.subMapping subMapping present] at joined
    cases joined
  · intro globalMapping present joined
    rw [unjoined.globalMapping globalMapping present] at joined
    cases joined

/-- While callbacks run, no stage has been joined. -/
theorem Node.Sealed.unjoined {node : Node glim} (intact : node.Sealed)
    (outside : node.pc.inWait = false) : node.Unjoined := by
  have odometry : node.odometryEstimation.joined = false := by
    cases joined : node.odometryEstimation.joined with
    | false => rfl
    | true =>
        have inside := (intact.odometry joined).1
        rw [outside] at inside
        cases inside
  have subMapping : ∀ subMapping, node.subMapping = some subMapping →
      subMapping.joined = false := by
    intro subMapping present
    cases joined : subMapping.joined with
    | false => rfl
    | true =>
        have upstream := (intact.subMapping subMapping present joined).2.1
        rw [odometry] at upstream
        cases upstream
  refine ⟨odometry, subMapping, ?_⟩
  intro globalMapping present
  cases joined : globalMapping.joined with
  | false => rfl
  | true =>
      obtain ⟨_, _, upstream, present, itsJoin, _⟩ :=
        intact.globalMapping globalMapping present joined
      rw [subMapping upstream present] at itsJoin
      cases itsJoin

theorem start_unjoined (metaConfig : MetaConfig) (accScale : K)
    (timeKeeper : glim.TimeKeeper)
    (enableSubMapping enableGlobalMapping : Bool) :
    (Node.start glim metaConfig accScale timeKeeper enableSubMapping
      enableGlobalMapping).Unjoined := by
  constructor <;> simp +contextual [Node.start]

/-- An entered callback leaves the stages alone; a `wait` that is called
again finds them as the last one left them. -/
theorem enters_sealed {node next : Node glim} (enters : Enters node next)
    (intact : node.Sealed) : next.Sealed := by
  rcases enters.ready with idle | waited
  · have unjoined := intact.unjoined (by rw [idle]; rfl)
    apply Node.Unjoined.isSealed
    constructor
    · rw [enters.odometryEstimation]; exact unjoined.odometry
    · rw [enters.subMapping]; exact unjoined.subMapping
    · rw [enters.globalMapping]; exact unjoined.globalMapping
  · obtain ⟨autoQuit, joining⟩ := enters.again waited
    obtain ⟨odometry, subMapping, globalMapping⟩ := intact
    constructor
    · rw [enters.odometryEstimation, joining]
      exact fun joined => ⟨rfl, (odometry joined).2⟩
    · rw [enters.subMapping, enters.odometryEstimation, joining]
      intro present some joined
      obtain ⟨pending, upstream, buffer, _⟩ := subMapping present some joined
      exact ⟨pending, upstream, buffer, rfl⟩
    · rw [enters.globalMapping, enters.subMapping, joining]
      intro present some joined
      obtain ⟨pending, _, upstream⟩ := globalMapping present some joined
      exact ⟨pending, rfl, upstream⟩

theorem insertIfEnabled_unjoined {Input Output : Type}
    {stage : Option (Stage Input Output)} (input : Input)
    (unjoined : ∀ enabled, stage = some enabled → enabled.joined = false) :
    ∀ enabled, insertIfEnabled stage input = some enabled →
      enabled.joined = false := by
  intro enabled present
  obtain ⟨before, exist, rfl⟩ := Option.map_eq_some_iff.mp present
  exact unjoined before exist

/-- A callback statement inserts only into stages that are not joined. -/
theorem statement_unjoined {node next : Node glim}
    (statement : Statement node next) (outside : node.pc.inWait = false)
    (unjoined : node.Unjoined) : next.Unjoined := by
  obtain ⟨odometry, subMapping, globalMapping⟩ := unjoined
  cases statement with
  | joinOdometry here returns target => simp [here] at outside
  | joinSubMapping here present returns => simp [here] at outside
  | joinGlobalMapping here present returns => simp [here] at outside
  | imuSubMapping here | imageSubMapping here | insertMarginalized here =>
      exact ⟨odometry, insertIfEnabled_unjoined _ subMapping, globalMapping⟩
  | imuGlobalMapping here | imageGlobalMapping here | insertSubmap here =>
      exact ⟨odometry, subMapping, insertIfEnabled_unjoined _ globalMapping⟩
  | getSubmaps here present target =>
      refine ⟨odometry, ?_, globalMapping⟩
      rintro _ ⟨⟩
      have running := subMapping _ present
      exact running
  | _ => exact ⟨odometry, subMapping, globalMapping⟩

/-- A statement that only moves on, without filling a local vector. -/
theorem Node.Sealed.moveTo {node : Node glim} (intact : node.Sealed)
    {pc : Pc glim} (inside : pc.inWait = true)
    (frames : node.pc.localFrames = [] → pc.localFrames = [])
    (submaps : node.pc.localSubmaps = [] → pc.localSubmaps = []) :
    { node with pc := pc }.Sealed := by
  constructor
  · intro joined
    exact ⟨inside, (intact.odometry joined).2⟩
  · intro subMapping present joined
    obtain ⟨pending, upstream, buffer, local'⟩ :=
      intact.subMapping subMapping present joined
    exact ⟨pending, upstream, buffer, frames local'⟩
  · intro globalMapping present joined
    obtain ⟨pending, local', upstream⟩ :=
      intact.globalMapping globalMapping present joined
    exact ⟨pending, submaps local', upstream⟩

/-- While a frame is in the local vector, no mapping stage has been joined. -/
theorem Node.Sealed.unjoined_of_frame {node : Node glim} (intact : node.Sealed)
    (filled : node.pc.localFrames ≠ []) :
    (∀ subMapping, node.subMapping = some subMapping →
        subMapping.joined = false) ∧
      ∀ globalMapping, node.globalMapping = some globalMapping →
        globalMapping.joined = false := by
  have subMappings : ∀ subMapping, node.subMapping = some subMapping →
      subMapping.joined = false := by
    intro subMapping present
    by_contra joined
    exact filled (intact.subMapping subMapping present
      (Bool.of_not_eq_false joined)).2.2.2
  refine ⟨subMappings, fun globalMapping present => ?_⟩
  by_contra joined
  obtain ⟨_, _, subMapping, exist, itsJoin, _⟩ :=
    intact.globalMapping globalMapping present (Bool.of_not_eq_false joined)
  rw [subMappings subMapping exist] at itsJoin
  cases itsJoin

theorem statement_sealed {node next : Node glim}
    (statement : Statement node next) (phases : node.Phases)
    (intact : node.Sealed) : next.Sealed := by
  cases inside : node.pc.inWait with
  | false =>
      have unjoined := intact.unjoined inside
      exact (statement_unjoined statement inside unjoined).isSealed
  | true =>
      cases statement with
      | @joinOdometry autoQuit pc here returns target =>
          have pending := Stage.pending_of_joinReturns returns
            fun joined => (intact.odometry joined).2
          have joined : { node with
              odometryEstimation := node.odometryEstimation.join }.Sealed := by
            constructor
            · intro _
              exact ⟨inside, pending⟩
            · intro subMapping present joined
              obtain ⟨pending, _, buffer, local'⟩ :=
                intact.subMapping subMapping present joined
              exact ⟨pending, rfl, buffer, local'⟩
            · exact intact.globalMapping
          subst target
          apply joined.moveTo <;> split <;> simp
      | @getResults caller _ here target =>
          subst target
          cases caller with
          | timer => simp [here] at inside
          | wait autoQuit =>
              rw [if_pos (phases.subMappingExists (by simp [here]) (by simp [here]))]
              constructor
              · intro joined
                exact ⟨rfl, (intact.odometry joined).2⟩
              · intro subMapping present joined
                -- a joined sub mapping has left nothing in the buffer
                obtain ⟨pending, upstream, buffer, _⟩ :=
                  intact.subMapping subMapping present joined
                exact ⟨pending, upstream, rfl, buffer⟩
              · intro globalMapping present joined
                obtain ⟨pending, _, upstream⟩ :=
                  intact.globalMapping globalMapping present joined
                exact ⟨pending, rfl, upstream⟩
      | @insertMarginalized caller frame marginalized here =>
          obtain ⟨subMappings, globalMappings⟩ :=
            intact.unjoined_of_frame (by simp [here])
          cases caller with
          | timer => simp [here] at inside
          | wait autoQuit =>
              constructor
              · intro joined
                exact ⟨rfl, (intact.odometry joined).2⟩
              · intro subMapping present joined
                rw [insertIfEnabled_unjoined _ subMappings subMapping present] at joined
                cases joined
              · intro globalMapping present joined
                rw [globalMappings globalMapping present] at joined
                cases joined
      | @framesDone caller _ here target =>
          subst target
          cases caller with
          | timer => simp [here] at inside
          | wait autoQuit => exact intact.moveTo rfl (fun _ => rfl) (fun _ => rfl)
      | @joinSubMapping autoQuit subMapping here present returns =>
          have pending := Stage.pending_of_joinReturns returns
            fun joined => (intact.subMapping _ present joined).1
          constructor
          · intro joined
            exact ⟨rfl, (intact.odometry joined).2⟩
          · rintro _ ⟨⟩ _
            exact ⟨pending, phases.odometryJoined (by simp [here]),
              phases.odometryBuffer (by simp [here]) (by rw [present]; rfl), rfl⟩
          · intro globalMapping exist joined
            obtain ⟨itsPending, _, upstream, same, _, buffer⟩ :=
              intact.globalMapping globalMapping exist joined
            cases present.symm.trans same
            exact ⟨itsPending, rfl, subMapping.join, rfl, rfl, buffer⟩
      | @getSubmaps caller subMapping _ here present target =>
          subst target
          cases caller with
          | timer => simp [here] at inside
          | wait autoQuit =>
              constructor
              · intro joined
                refine ⟨?_, (intact.odometry joined).2⟩
                split <;> rfl
              · rintro _ ⟨⟩ joined
                obtain ⟨pending, upstream, buffer, _⟩ :=
                  intact.subMapping subMapping present joined
                refine ⟨pending, upstream, buffer, ?_⟩
                split <;> rfl
              · intro globalMapping exist joined
                obtain ⟨pending, _, upstream, same, itsJoin, buffer⟩ :=
                  intact.globalMapping globalMapping exist joined
                cases present.symm.trans same
                refine ⟨pending, ?_, subMapping.fetched, rfl, itsJoin, rfl⟩
                split
                · exact buffer
                · rfl
      | @insertSubmap caller submap submaps here =>
          cases caller with
          | timer => simp [here] at inside
          | wait autoQuit =>
              constructor
              · intro joined
                exact ⟨rfl, (intact.odometry joined).2⟩
              · intro subMapping present joined
                obtain ⟨pending, upstream, buffer, _⟩ :=
                  intact.subMapping subMapping present joined
                exact ⟨pending, upstream, buffer, rfl⟩
              · intro globalMapping present joined
                -- the submap in the local vector shows that nobody has joined it
                obtain ⟨before, exist, rfl⟩ := Option.map_eq_some_iff.mp present
                have empty := (intact.globalMapping before exist joined).2.1
                simp [here] at empty
      | @submapsDone caller here =>
          cases caller with
          | timer => simp [here] at inside
          | wait autoQuit => exact intact.moveTo rfl (fun _ => rfl) (fun _ => rfl)
      | @joinGlobalMapping autoQuit globalMapping here present returns =>
          have pending := Stage.pending_of_joinReturns returns
            fun joined => (intact.globalMapping _ present joined).1
          constructor
          · intro joined
            exact ⟨rfl, (intact.odometry joined).2⟩
          · intro subMapping exist joined
            obtain ⟨itsPending, upstream, buffer, _⟩ :=
              intact.subMapping subMapping exist joined
            exact ⟨itsPending, upstream, buffer, rfl⟩
          · rintro _ ⟨⟩ _
            obtain ⟨subMapping, exist⟩ := Option.isSome_iff_exists.mp
              (phases.subMappingExists (by simp [here]) (by simp [here]))
            have buffer := phases.subMappingBuffer (by simp [here])
            rw [exist] at buffer
            exact ⟨pending, rfl, subMapping, exist,
              phases.subMappingJoined (by simp [here]) subMapping exist, buffer⟩
      | quit here => exact intact.moveTo rfl (fun _ => rfl) (fun _ => rfl)
      | poll here => exact intact
      | _ here => simp [here] at inside

/-- A worker that still runs has not been joined, and neither have the
stages after it. -/
theorem works_sealed {node next : Node glim} (works : Works node next)
    (intact : node.Sealed) : next.Sealed := by
  obtain ⟨odometry, subMapping, globalMapping⟩ := intact
  cases works with
  | odometryConsumes consumes =>
      refine ⟨?_, subMapping, globalMapping⟩
      intro joined
      exact absurd (consumes.running.symm.trans joined) Bool.false_ne_true
  | odometryEmits frame running =>
      refine ⟨odometry, ?_, globalMapping⟩
      intro stage present joined
      have upstream := (subMapping stage present joined).2.1
      exact absurd (running.symm.trans upstream) Bool.false_ne_true
  | subMappingConsumes present consumes =>
      refine ⟨odometry, ?_, ?_⟩
      · rintro _ ⟨⟩ joined
        exact absurd (consumes.running.symm.trans joined) Bool.false_ne_true
      · intro stage exist joined
        obtain ⟨_, _, upstream, same, itsJoin, _⟩ := globalMapping stage exist joined
        cases present.symm.trans same
        exact absurd (consumes.running.symm.trans itsJoin) Bool.false_ne_true
  | subMappingEmits present submap running =>
      refine ⟨odometry, ?_, ?_⟩
      · rintro _ ⟨⟩ joined
        exact absurd (running.symm.trans joined) Bool.false_ne_true
      · intro stage exist joined
        obtain ⟨_, _, upstream, same, itsJoin, _⟩ := globalMapping stage exist joined
        cases present.symm.trans same
        exact absurd (running.symm.trans itsJoin) Bool.false_ne_true
  | globalMappingConsumes present consumes =>
      refine ⟨odometry, subMapping, ?_⟩
      rintro _ ⟨⟩ joined
      exact absurd (consumes.running.symm.trans joined) Bool.false_ne_true

/-! ## Every run -/

section Runs

variable [Field K] [LinearOrder K]

theorem nodeStep_joins {config : NodeConfig K} {node next : Node glim}
    (step : NodeStep config node next)
    (joins : node.Phases ∧ node.Sealed) : next.Phases ∧ next.Sealed := by
  obtain ⟨phases, intact⟩ := joins
  rcases nodeStep_cases step with enters | statement | works | rfl
  · exact ⟨enters_phases enters, enters_sealed enters intact⟩
  · exact ⟨statement_phases statement phases,
      statement_sealed statement phases intact⟩
  · exact ⟨works_phases works phases, works_sealed works intact⟩
  · obtain ⟨first, second, third, fourth, fifth, sixth⟩ := phases
    obtain ⟨odometry, subMapping, globalMapping⟩ := intact
    exact ⟨⟨first, second, third, fourth, fifth, sixth⟩,
      ⟨odometry, subMapping, globalMapping⟩⟩

theorem reachable_joins {config : NodeConfig K} {start node : Node glim}
    (idle : start.pc = .idle) (unjoined : start.Unjoined)
    (reachable : (nodeSystem config start).Reachable node) :
    node.Phases ∧ node.Sealed := by
  refine reachable.invariant (fun node => node.Phases ∧ node.Sealed) ?_ ?_
  · intro state init
    cases init
    exact ⟨phases_outside (by rw [idle]; rfl) (by rw [idle]; rfl),
      unjoined.isSealed⟩
  · intro state next _ joins step
    exact nodeStep_joins step joins

/-- Every stage that exists has been joined and has consumed its input. -/
structure Node.Finished (node : Node glim) : Prop where
  odometry : node.odometryEstimation.Finished
  subMapping : ∀ subMapping, node.subMapping = some subMapping →
    subMapping.Finished
  globalMapping : ∀ globalMapping, node.globalMapping = some globalMapping →
    globalMapping.Finished

/-- In every run, when `wait` has got past its join phase, every stage that
exists has been joined and has consumed everything inserted into it, exactly
when sub mapping exists or global mapping does not. -/
theorem wait_finishes_iff (config : NodeConfig K) (metaConfig : MetaConfig)
    (accScale : K) (timeKeeper : glim.TimeKeeper)
    (enableSubMapping enableGlobalMapping : Bool) {node : Node glim}
    (reachable :
      (nodeSystem config
        (Node.start glim metaConfig accScale timeKeeper
          enableSubMapping enableGlobalMapping)).Reachable node)
    (past : node.pc.pastJoins = true) :
    node.Finished ↔
      enableSubMapping = true ∨ enableGlobalMapping = false := by
  obtain ⟨phases, intact⟩ := reachable_joins rfl
    (start_unjoined metaConfig accScale timeKeeper _ _) reachable
  obtain ⟨subMappingExists, globalMappingExists⟩ :=
    reachable_stages reachable
  have phase : node.pc.waitPhase = 4 := by
    cases here : node.pc <;> simp [here] at past ⊢
  constructor
  · intro finished
    by_contra missed
    simp only [not_or, Bool.not_eq_true, Bool.not_eq_false] at missed
    obtain ⟨disabled, enabled⟩ := missed
    rw [enabled] at globalMappingExists
    obtain ⟨globalMapping, present⟩ :=
      Option.isSome_iff_exists.mp globalMappingExists
    -- only a joined sub mapping lets `wait` join global mapping
    obtain ⟨_, _, subMapping, exist, _⟩ :=
      intact.globalMapping globalMapping present
        (finished.globalMapping globalMapping present).joined
    rw [disabled, exist] at subMappingExists
    cases subMappingExists
  · intro enabled
    have odometryJoined := phases.odometryJoined (by omega)
    refine ⟨⟨odometryJoined, (intact.odometry odometryJoined).2⟩, ?_, ?_⟩
    · intro subMapping present
      have joined := phases.subMappingJoined (by omega) subMapping present
      exact ⟨joined, (intact.subMapping subMapping present joined).1⟩
    · intro globalMapping present
      have exist : node.subMapping.isSome = true := by
        rw [subMappingExists]
        rcases enabled with enabled | disabled
        · rw [enabled]
          rfl
        · rw [disabled, present] at globalMappingExists
          cases globalMappingExists
      have joined :=
        phases.globalMappingJoined past exist globalMapping present
      exact ⟨joined, (intact.globalMapping globalMapping present joined).1⟩

end Runs

/-- With both mapping stages, an IMU sample is consumed everywhere before
`wait` goes on. -/
theorem wait_finishes_sample :
    ∃ node : Node numberedGlim,
      node.pc.pastJoins = true ∧
        (stageImus node.globalMapping).length = 1 ∧ node.Finished := by
  have started : (nodeSystem defaultNodeConfig
      (Node.start numberedGlim .empty 1 () true true)).Reachable _ := .init rfl
  have called := started.step (.imu rfl levelImu)
  have odometry := called.step (.statement true rfl)
  have subMapping := odometry.step (.statement true rfl)
  have globalMapping := subMapping.step (.statement true rfl)
  have waits := globalMapping.step (.wait (.inl rfl) true)
  have odometryConsumed := waits.step
    (.works (.odometryConsumes ⟨rfl, .refl _⟩))
  have odometryJoined := odometryConsumed.step (.statement true rfl)
  have fetched := odometryJoined.step (.statement true rfl)
  have framesOver := fetched.step (.statement true rfl)
  have subMappingConsumed := framesOver.step
    (.works (.subMappingConsumes rfl ⟨rfl, .refl _⟩))
  have subMappingJoined := subMappingConsumed.step (.statement true rfl)
  have submaps := subMappingJoined.step (.statement true rfl)
  have submapsOver := submaps.step (.statement true rfl)
  have globalMappingConsumed := submapsOver.step
    (.works (.globalMappingConsumes rfl ⟨rfl, .refl _⟩))
  have joined := globalMappingConsumed.step (.statement true rfl)
  exact ⟨_, rfl, rfl,
    (wait_finishes_iff defaultNodeConfig .empty 1 () true true joined rfl).mpr
      (.inl rfl)⟩

/-- Without sub mapping, `wait` goes on while the sample of an IMU message is
still in the queue of global mapping, whose worker is not joined. -/
theorem wait_leaves_global_mapping :
    ∃ (node : Node numberedGlim) (globalMapping : GlobalMappingStage _),
      (nodeSystem defaultNodeConfig
        (Node.start numberedGlim .empty 1 () false true)).Reachable node ∧
        node.pc.pastJoins = true ∧
        node.globalMapping = some globalMapping ∧
        globalMapping.joined = false ∧
        globalMapping.pending = globalMapping.inserted ∧
        globalMapping.inserted ≠ [] ∧ ¬ node.Finished := by
  have started : (nodeSystem defaultNodeConfig
      (Node.start numberedGlim .empty 1 () false true)).Reachable _ := .init rfl
  have called := started.step (.imu rfl levelImu)
  have odometry := called.step (.statement true rfl)
  have subMapping := odometry.step (.statement true rfl)
  have globalMapping := subMapping.step (.statement true rfl)
  have waits := globalMapping.step (.wait (.inl rfl) true)
  have odometryConsumed := waits.step
    (.works (.odometryConsumes ⟨rfl, .refl _⟩))
  have odometryJoined := odometryConsumed.step (.statement true rfl)
  refine ⟨_, _, odometryJoined, rfl, rfl, rfl, rfl, nofun, ?_⟩
  intro finished
  have joined := (finished.globalMapping _ rfl).joined
  cases joined

end GlimRos
