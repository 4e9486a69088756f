import GlimRos.Node.Flush

/-!
# What the timer takes along

`timer_callback` fetches the frames that odometry has emitted by then and the
submaps that sub mapping has emitted by then.  What was fetched once is never
given back: it is in the next stage or in the local vector of the callback.
-/

namespace GlimRos

open Transition

variable {K : Type} {glim : Glim K} {node next : Node glim}

/-- The frames that have left the output buffer of odometry. -/
def Node.takenFrames (node : Node glim) :
    List (Emission K glim.EstimationFrame) :=
  stagePayloads node.subMapping ++ node.pc.localFrames

/-- The submaps that have left the output buffer of sub mapping. -/
def Node.takenSubmaps (node : Node glim) : List (Emission K glim.SubMap) :=
  stagePayloads node.globalMapping ++ node.pc.localSubmaps

/-- What was emitted was taken or is still in the output buffer. -/
structure Node.Accounted (node : Node glim) : Prop where
  frames : node.takenFrames ++ node.odometryEstimation.buffer =
    node.odometryEstimation.emitted
  submaps : node.takenSubmaps ++ stageBuffer node.subMapping =
    stageEmitted node.subMapping

/-- Nothing that was emitted or taken is given back. -/
structure Node.Grows (node next : Node glim) : Prop where
  emittedFrames :
    node.odometryEstimation.emitted <+: next.odometryEstimation.emitted
  emittedSubmaps : stageEmitted node.subMapping <+: stageEmitted next.subMapping
  takenFrames : node.takenFrames <+: next.takenFrames
  takenSubmaps : node.takenSubmaps <+: next.takenSubmaps

theorem Node.Grows.rfl : node.Grows node :=
  ⟨List.prefix_rfl, List.prefix_rfl, List.prefix_rfl, List.prefix_rfl⟩

theorem Node.Grows.trans {later : Node glim} (grows : node.Grows next)
    (more : next.Grows later) : node.Grows later :=
  ⟨grows.emittedFrames.trans more.emittedFrames,
    grows.emittedSubmaps.trans more.emittedSubmaps,
    grows.takenFrames.trans more.takenFrames,
    grows.takenSubmaps.trans more.takenSubmaps⟩

theorem enters_grows (enters : Enters node next) : node.Grows next := by
  have takenFrames : next.takenFrames = node.takenFrames := by
    rw [Node.takenFrames, Node.takenFrames, enters.subMapping,
      enters.localFrames_eq]
  have takenSubmaps : next.takenSubmaps = node.takenSubmaps := by
    rw [Node.takenSubmaps, Node.takenSubmaps, enters.globalMapping,
      enters.localSubmaps_eq]
  exact
    { emittedFrames := enters.odometryEstimation ▸ List.prefix_rfl
      emittedSubmaps := enters.subMapping ▸ List.prefix_rfl
      takenFrames := takenFrames ▸ List.prefix_rfl
      takenSubmaps := takenSubmaps ▸ List.prefix_rfl }

theorem works_grows (works : Works node next) : node.Grows next := by
  cases works with
  | odometryConsumes consumes =>
      exact ⟨List.prefix_rfl, List.prefix_rfl, List.prefix_rfl,
        List.prefix_rfl⟩
  | odometryEmits frame running =>
      exact ⟨List.prefix_append _ _, List.prefix_rfl, List.prefix_rfl,
        List.prefix_rfl⟩
  | subMappingConsumes present consumes =>
      constructor <;>
        simp [Node.takenFrames, Node.takenSubmaps, present]
  | subMappingEmits present submap running =>
      refine ⟨List.prefix_rfl, ?_, ?_, List.prefix_rfl⟩
      · simp [present, subMappingEmits]
      · simp [Node.takenFrames, present, subMappingEmits]
  | globalMappingConsumes present consumes =>
      constructor <;>
        simp [Node.takenFrames, Node.takenSubmaps, present]

theorem statement_grows (statement : Statement node next)
    (enabled : node.MappingEnabled) : node.Grows next := by
  cases statement with
  | insertMarginalized here =>
      constructor <;>
        simp [Node.takenFrames, Node.takenSubmaps, here,
          insertIfEnabled_payload_payloads _ enabled.subMapping]
  | insertSubmap here =>
      constructor <;>
        simp [Node.takenFrames, Node.takenSubmaps, here,
          insertIfEnabled_payload_payloads _ enabled.globalMapping]
  | joinOdometry here returns target | getResults here target =>
      subst target
      constructor <;>
        simp [Node.takenFrames, Node.takenSubmaps, here, enabled.subMapping]
  | @framesDone caller _ here target =>
      subst target
      cases caller <;> constructor <;>
        simp [Node.takenFrames, Node.takenSubmaps, here]
  | joinSubMapping here present returns =>
      constructor <;>
        simp [Node.takenFrames, Node.takenSubmaps, here, present]
  | getSubmaps here present target =>
      subst target
      constructor <;>
        simp [Node.takenFrames, Node.takenSubmaps, here, present,
          enabled.globalMapping]
  | @submapsDone caller here =>
      cases caller <;> constructor <;>
        simp [Node.takenFrames, Node.takenSubmaps, here, afterSubmaps]
  | joinGlobalMapping here present returns =>
      constructor <;>
        simp [Node.takenFrames, Node.takenSubmaps, here, present]
  | poll here => exact .rfl
  | _ here =>
      constructor <;>
        simp [Node.takenFrames, Node.takenSubmaps, here]

/-! ## The timer callback -/

namespace Pc

/-- The timer callback has not fetched the frames yet. -/
@[simp] def beforeFrames : Pc glim → Bool
  | .getResults .timer => true
  | _ => false

/-- The timer callback has not fetched the submaps yet. -/
@[simp] def beforeSubmaps : Pc glim → Bool
  | .getResults .timer | .insertFrames .timer _ | .getSubmaps .timer => true
  | _ => false

end Pc

/-- The given frames and submaps have been taken, or the timer callback that
is running has yet to fetch them. -/
structure Node.Takes (frames : List (Emission K glim.EstimationFrame))
    (submaps : List (Emission K glim.SubMap)) (node : Node glim) : Prop where
  frames : node.pc.beforeFrames = true ∧
      frames <+: node.odometryEstimation.emitted ∨
    frames <+: node.takenFrames
  submaps : node.pc.beforeSubmaps = true ∧
      submaps <+: stageEmitted node.subMapping ∨
    submaps <+: node.takenSubmaps

variable {frames : List (Emission K glim.EstimationFrame)}
  {submaps : List (Emission K glim.SubMap)}

/-- A step that does not move the callback thread. -/
theorem Node.Takes.stay (takes : node.Takes frames submaps)
    (grows : node.Grows next) (same : next.pc = node.pc) :
    next.Takes frames submaps := by
  constructor
  · rw [same]
    exact takes.frames.imp (fun yet => ⟨yet.1, yet.2.trans grows.emittedFrames⟩)
      fun taken => taken.trans grows.takenFrames
  · rw [same]
    exact takes.submaps.imp
      (fun yet => ⟨yet.1, yet.2.trans grows.emittedSubmaps⟩)
      fun taken => taken.trans grows.takenSubmaps

theorem enters_takes (enters : Enters node next)
    (takes : node.Takes frames submaps) : next.Takes frames submaps := by
  have grows := enters_grows enters
  obtain ⟨takesFrames, takesSubmaps⟩ := takes
  have outside : node.pc.beforeFrames = false ∧
      node.pc.beforeSubmaps = false := by
    rcases enters.ready with here | here <;> simp [here]
  constructor
  · rcases takesFrames with ⟨before, _⟩ | taken
    · cases outside.1.symm.trans before
    · exact .inr (taken.trans grows.takenFrames)
  · rcases takesSubmaps with ⟨before, _⟩ | taken
    · cases outside.2.symm.trans before
    · exact .inr (taken.trans grows.takenSubmaps)

theorem statement_takes (statement : Statement node next)
    (enabled : node.MappingEnabled) (accounted : node.Accounted)
    (takes : node.Takes frames submaps) : next.Takes frames submaps := by
  have grows := statement_grows statement enabled
  obtain ⟨takesFrames, takesSubmaps⟩ := takes
  constructor
  · rcases takesFrames with ⟨before, known⟩ | taken
    · cases statement with
      | @getResults caller _ here target =>
          -- the local vector gets the whole buffer
          subst target
          refine .inr (known.trans ?_)
          rw [← accounted.frames]
          simp [Node.takenFrames, here, enabled.subMapping]
      | _ => simp_all
    · exact .inr (taken.trans grows.takenFrames)
  · rcases takesSubmaps with ⟨before, known⟩ | taken
    · cases statement with
      | @getResults caller _ here target =>
          subst target
          refine .inl ⟨?_, known⟩
          rw [here] at before
          cases caller with
          | timer => simp [enabled.subMapping]
          | wait autoQuit => cases before
      | @insertMarginalized caller frame marginalized here =>
          refine .inl ⟨?_, by simpa using known⟩
          rw [here] at before
          cases caller with
          | timer => rfl
          | wait autoQuit => cases before
      | @framesDone caller _ here target =>
          subst target
          refine .inl ⟨?_, known⟩
          rw [here] at before
          cases caller with
          | timer => rfl
          | wait autoQuit => cases before
      | @getSubmaps caller subMapping _ here present target =>
          subst target
          refine .inr (known.trans ?_)
          rw [← accounted.submaps]
          simp [Node.takenSubmaps, here, present, enabled.globalMapping]
      | _ => simp_all
    · exact .inr (taken.trans grows.takenSubmaps)

section Runs

variable [Field K] [LinearOrder K] {config : NodeConfig K}

theorem nodeStep_grows (step : NodeStep config node next)
    (enabled : node.MappingEnabled) : node.Grows next := by
  rcases nodeStep_cases step with enters | statement | works | rfl
  · exact enters_grows enters
  · exact statement_grows statement enabled
  · exact works_grows works
  · exact ⟨List.prefix_rfl, List.prefix_rfl, List.prefix_rfl,
      List.prefix_rfl⟩

theorem nodeStep_takes (step : NodeStep config node next)
    (enabled : node.MappingEnabled) (accounted : node.Accounted)
    (takes : node.Takes frames submaps) : next.Takes frames submaps := by
  rcases nodeStep_cases step with enters | statement | works | rfl
  · exact enters_takes enters takes
  · exact statement_takes statement enabled accounted takes
  · refine takes.stay (works_grows works) ?_
    cases works <;> rfl
  · exact ⟨takes.frames, takes.submaps⟩

theorem reachable_accounted {metaConfig : MetaConfig} {accScale : K}
    {timeKeeper : glim.TimeKeeper}
    (reachable :
      (nodeSystem config
        (Node.start glim metaConfig accScale timeKeeper
          true true)).Reachable node) :
    node.Accounted := by
  have started := start_mappingEnabled metaConfig accScale timeKeeper
  obtain ⟨_, _, _, carriesFrames⟩ :=
    (frameSimulation config _ started ⟨rfl, rfl, rfl⟩).reachable reachable
  obtain ⟨_, _, _, carriesSubmaps⟩ :=
    (submapSimulation config _ started ⟨rfl, rfl, rfl⟩).reachable reachable
  constructor
  · rw [Node.takenFrames, List.append_assoc]
    exact carriesFrames.accounted
  · rw [Node.takenSubmaps, List.append_assoc]
    exact carriesSubmaps.accounted

end Runs

end GlimRos
