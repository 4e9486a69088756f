import GlimRos.Node.Flush
import GlimRos.Node.SensorStreams

/-!
# A node at rest

When `wait` has returned with every stage joined, nothing is left in a queue
or in a buffer.  A later `wait`, such as the one of the destructor, runs
through without changing a stage.
-/

namespace Stage

universe u v

variable {Input : Type u} {Output : Type v} {stage : Stage Input Output}

theorem Finished.join_eq (finished : stage.Finished) : stage.join = stage := by
  ext1 <;> simp [finished.joined]

theorem fetched_eq (empty : stage.buffer = []) : stage.fetched = stage := by
  ext1 <;> simp [empty]

end Stage

namespace GlimRos

open Transition

variable {K : Type} {glim : Glim K} {node next : Node glim}

/-- The two nodes have the same stages. -/
structure Node.SameStages (node next : Node glim) : Prop where
  odometryEstimation : next.odometryEstimation = node.odometryEstimation
  subMapping : next.subMapping = node.subMapping
  globalMapping : next.globalMapping = node.globalMapping

/-- Every stage has ended, and only calls of `wait` run. -/
structure Node.AtRest (node : Node glim) : Prop where
  finished : node.Finished
  odometryBuffer : node.subMapping.isSome →
    node.odometryEstimation.buffer = []
  subMappingBuffer : stageBuffer node.subMapping = []
  waiting : node.pc.Waiting

theorem Node.AtRest.congr (rest : node.AtRest) (same : node.SameStages next)
    (waiting : next.pc.Waiting) : next.AtRest := by
  obtain ⟨⟨odometry, subMapping, globalMapping⟩, odometryBuffer,
    subMappingBuffer, _⟩ := rest
  obtain ⟨sameOdometry, sameSub, sameGlobal⟩ := same
  rw [← sameOdometry] at odometry odometryBuffer
  rw [← sameSub] at subMapping odometryBuffer subMappingBuffer
  rw [← sameGlobal] at globalMapping
  exact ⟨⟨odometry, subMapping, globalMapping⟩, odometryBuffer,
    subMappingBuffer, waiting⟩

/-! ## How a node comes to rest -/

/-- If sub mapping exists or global mapping does not, a node whose `wait` has
returned is at rest. -/
theorem atRest_of_waited (phases : node.Phases) (intact : node.Sealed)
    (joins : node.subMapping.isSome ∨ node.globalMapping = none)
    (waited : node.pc = .waited) : node.AtRest := by
  have past : node.pc.pastJoins = true := by rw [waited]; rfl
  have phase : node.pc.waitPhase = 4 := by rw [waited]; rfl
  have odometryJoined := phases.odometryJoined (by omega)
  refine ⟨⟨⟨odometryJoined, (intact.odometry odometryJoined).2⟩, ?_, ?_⟩,
    phases.odometryBuffer (by omega), phases.subMappingBuffer (by omega), ?_⟩
  · intro subMapping present
    have joined := phases.subMappingJoined (by omega) subMapping present
    exact ⟨joined, (intact.subMapping subMapping present joined).1⟩
  · intro globalMapping present
    have exist : node.subMapping.isSome := by
      rcases joins with exist | missing
      · exact exist
      · cases present.symm.trans missing
    have joined :=
      phases.globalMappingJoined past exist globalMapping present
    exact ⟨joined, (intact.globalMapping globalMapping present joined).1⟩
  · rw [waited]
    trivial

/-! ## It stays at rest -/

theorem statement_atRest (statement : Statement node next)
    (phases : node.Phases) (rest : node.AtRest) :
    node.SameStages next ∧ next.pc.Waiting := by
  obtain ⟨⟨odometry, subMapping, globalMapping⟩, odometryBuffer,
    subMappingBuffer, waiting⟩ := rest
  cases statement with
  | joinOdometry here returns target =>
      subst target
      refine ⟨⟨odometry.join_eq, rfl, rfl⟩, ?_⟩
      dsimp only
      split <;> trivial
  | @getResults caller _ here target =>
      subst target
      cases caller with
      | timer => simp [here, Pc.Waiting] at waiting
      | wait autoQuit =>
          have exist := phases.subMappingExists (by simp [here]) (by simp [here])
          have empty := odometryBuffer exist
          refine ⟨⟨Stage.fetched_eq empty, rfl, rfl⟩, ?_⟩
          simp [exist, empty, Pc.Waiting]
  | @insertMarginalized caller frame marginalized here =>
      cases caller <;> simp [here, Pc.Waiting] at waiting
  | @framesDone caller _ here target =>
      subst target
      cases caller with
      | timer => simp [here, Pc.Waiting] at waiting
      | wait autoQuit => exact ⟨⟨rfl, rfl, rfl⟩, trivial⟩
  | joinSubMapping here present returns =>
      refine ⟨⟨rfl, ?_, rfl⟩, trivial⟩
      rw [(subMapping _ present).join_eq, present]
  | @getSubmaps caller stage _ here present target =>
      subst target
      cases caller with
      | timer => simp [here, Pc.Waiting] at waiting
      | wait autoQuit =>
          have empty : stage.buffer = [] := by
            simpa [present] using subMappingBuffer
          refine ⟨⟨rfl, ?_, rfl⟩, ?_⟩
          · rw [Stage.fetched_eq empty, present]
          · rw [empty]
            dsimp only
            split <;> trivial
  | @insertSubmap caller submap submaps here =>
      cases caller <;> simp [here, Pc.Waiting] at waiting
  | @submapsDone caller here =>
      cases caller with
      | timer => simp [here, Pc.Waiting] at waiting
      | wait autoQuit => exact ⟨⟨rfl, rfl, rfl⟩, trivial⟩
  | joinGlobalMapping here present returns =>
      refine ⟨⟨rfl, rfl, ?_⟩, trivial⟩
      rw [(globalMapping _ present).join_eq, present]
  | quit here => exact ⟨⟨rfl, rfl, rfl⟩, trivial⟩
  | poll here => exact ⟨⟨rfl, rfl, rfl⟩, waiting⟩
  | _ here => simp [here, Pc.Waiting] at waiting

/-- No worker of a node at rest steps. -/
theorem Node.AtRest.no_work (rest : node.AtRest) : ¬ Works node next := by
  obtain ⟨odometry, subMapping, globalMapping⟩ := rest.finished
  intro works
  cases works with
  | odometryConsumes consumes =>
      cases odometry.joined.symm.trans consumes.running
  | odometryEmits frame running =>
      cases odometry.joined.symm.trans running
  | subMappingConsumes present consumes =>
      cases (subMapping _ present).joined.symm.trans consumes.running
  | subMappingEmits present submap running =>
      cases (subMapping _ present).joined.symm.trans running
  | globalMappingConsumes present consumes =>
      cases (globalMapping _ present).joined.symm.trans consumes.running

/-! ## The map that is saved -/

/-- A map that was built from everything odometry was given. -/
structure MapComplete (node : Node glim)
    (globalMapping : GlobalMappingStage glim) : Prop where
  finished : globalMapping.Finished
  sensors : StageInput.sensors globalMapping.inserted =
    StageInput.sensors node.odometryEstimation.inserted
  subMappingSensors : stageSensors node.subMapping =
    StageInput.sensors node.odometryEstimation.inserted
  frames : stagePayloads node.subMapping = node.odometryEstimation.emitted
  submaps : StageInput.payloads globalMapping.inserted =
    stageEmitted node.subMapping

section Runs

variable [Field K] [LinearOrder K]

/-- A map that exists when `wait` has returned is complete. -/
theorem Received.mapComplete {config : NodeConfig K} {start node : Node glim}
    {log : List (Message glim)} (received : Received config start log node)
    (fresh : ∃ metaConfig accScale timeKeeper enableSubMapping
        enableGlobalMapping,
      start = Node.start glim metaConfig accScale timeKeeper enableSubMapping
        enableGlobalMapping)
    (joins : start.subMapping.isSome ∨ start.globalMapping = none)
    (rest : node.AtRest) (waited : node.pc = .waited)
    {globalMapping : GlobalMappingStage glim}
    (present : node.globalMapping = some globalMapping) :
    MapComplete node globalMapping := by
  obtain ⟨metaConfig, accScale, timeKeeper, enableSubMapping,
    enableGlobalMapping, rfl⟩ := fresh
  have reachable := received.reachable
  obtain ⟨subMappingExists, globalMappingExists⟩ := reachable_stages reachable
  rw [present] at globalMappingExists
  have enabled : enableGlobalMapping = true := by
    cases enableGlobalMapping with
    | true => rfl
    | false => cases globalMappingExists
  subst enabled
  have subEnabled : enableSubMapping = true := by
    cases enableSubMapping with
    | true => rfl
    | false => simp [Node.start] at joins
  subst subEnabled
  have started := start_mappingEnabled metaConfig accScale timeKeeper
  obtain ⟨frames, _, _, carriesFrames⟩ :=
    (frameSimulation config _ started ⟨rfl, rfl, rfl⟩).reachable reachable
  obtain ⟨submaps, _, _, carriesSubmaps⟩ :=
    (submapSimulation config _ started ⟨rfl, rfl, rfl⟩).reachable reachable
  have follow := received.sensorsFollow
    (sensorsFollow_start metaConfig accScale timeKeeper true true)
  have subFollows := follow.subMapping subMappingExists
  have globalFollows := follow.globalMapping (by rw [present]; rfl)
  rw [waited] at subFollows globalFollows
  rw [present] at globalFollows
  have framesFlushed :=
    carriesFrames.complete (by rw [waited, rest.odometryBuffer subMappingExists]; rfl)
  have submapsFlushed :=
    carriesSubmaps.complete (by rw [waited, rest.subMappingBuffer]; rfl)
  rw [present] at submapsFlushed
  exact
    { finished := rest.finished.globalMapping _ present
      sensors := by simpa using globalFollows.symm
      subMappingSensors := by simpa using subFollows.symm
      frames := framesFlushed
      submaps := submapsFlushed }

end Runs

end GlimRos
