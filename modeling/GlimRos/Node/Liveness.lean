import GlimRos.Library.Fairness
import GlimRos.Node.Backlog
import GlimRos.Node.Returns
import Mathlib.Data.Prod.Lex

/-!
# Every callback returns

A callback can only be held up by a join, and a join only by a worker that
has input left.  In a run that is fair to the thread of the callbacks and to
each worker, every callback therefore returns, `wait` with its three joins
among them.  If the timer gets its turns too, whatever a worker emits arrives
at the next stage.
-/

namespace GlimRos

open Transition

variable {K : Type} {glim : Glim K} {node next : Node glim}

/-! ## Who is awaited -/

/-- The thread of the callbacks and the three workers. -/
inductive Party where
  | callbacks
  | odometry
  | subMapping
  | globalMapping
  deriving DecidableEq

/-- The next statement of the callback, or the worker consumes an input. -/
def Party.Acts : Party → Node glim → Node glim → Prop
  | .callbacks, node, next =>
      ∃ modulesOk, advance node modulesOk = some next
  | .odometry, node, next =>
      ∃ input rest, node.odometryEstimation.Consumes input rest ∧
        next =
          { node with
            odometryEstimation := node.odometryEstimation.consume rest }
  | .subMapping, node, next =>
      ∃ stage input rest, node.subMapping = some stage ∧
        stage.Consumes input rest ∧
        next = { node with subMapping := some (stage.consume rest) }
  | .globalMapping, node, next =>
      ∃ stage input rest, node.globalMapping = some stage ∧
        stage.Consumes input rest ∧
        next = { node with globalMapping := some (stage.consume rest) }

/-- The thread that has to act for the running callback to get on. -/
def Node.awaited (node : Node glim) : Party :=
  match node.pc with
  | .joinOdometry _ =>
      if node.odometryEstimation.joinReturns then .callbacks else .odometry
  | .joinSubMapping _ =>
      if node.subMapping.all Stage.joinReturns then .callbacks
      else .subMapping
  | .joinGlobalMapping _ =>
      if node.globalMapping.all Stage.joinReturns then .callbacks
      else .globalMapping
  | _ => .callbacks

def stageUnconsumed {Input Output : Type}
    (stage : Option (Stage Input Output)) : Nat :=
  (stage.elim [] Stage.pending).length

/-- How far the running callback is from its end, and how much there is to do
before its next phase. -/
def Node.workLeft (node : Node glim) : Nat ×ₗ Nat :=
  match node.pc with
  | .idle | .waited => toLex (0, 0)
  | .insertImu target _ | .insertImage target _ _ => toLex (target.left, 0)
  | .insertFrame _ | .pollModules _ => toLex (1, 0)
  | .joinGlobalMapping _ => toLex (2, stageUnconsumed node.globalMapping)
  | .insertSubmaps _ remaining => toLex (3, remaining.length)
  | .getSubmaps _ => toLex (4, 0)
  | .joinSubMapping _ => toLex (5, stageUnconsumed node.subMapping)
  | .insertFrames _ remaining => toLex (6, remaining.length)
  | .getResults _ => toLex (7, 0)
  | .joinOdometry _ => toLex (8, node.odometryEstimation.pending.length)

/-- `wait` polls the extension modules while ROS is up. -/
def Node.Polls (node : Node glim) : Prop :=
  node.pc = .pollModules false ∧ node.rclcppOk = true

theorem advance_lowers {modulesOk : Bool} (leaves : ¬ node.Polls)
    (advanced : advance node modulesOk = some next) :
    next.workLeft < node.workLeft := by
  cases advance_statement advanced with
  | @imuOdometry sample here | @imuSubMapping sample here
  | @imuGlobalMapping sample here =>
      simp [Node.workLeft, here, Target.left, Prod.Lex.toLex_lt_toLex]
  | imageOdometry here | imageSubMapping here | imageGlobalMapping here =>
      simp [Node.workLeft, here, Target.left, Prod.Lex.toLex_lt_toLex]
  | insertFrame here =>
      simp [Node.workLeft, here, Prod.Lex.toLex_lt_toLex]
  | joinOdometry here returns target =>
      subst target
      cases exist : node.subMapping.isSome <;>
        simp [Node.workLeft, here, Prod.Lex.toLex_lt_toLex]
  | getResults here target =>
      subst target
      cases exist : node.subMapping.isSome <;>
        simp [Node.workLeft, here, Prod.Lex.toLex_lt_toLex]
  | insertMarginalized here =>
      simp [Node.workLeft, here, Prod.Lex.toLex_lt_toLex]
  | @framesDone caller _ here target =>
      subst target
      cases caller <;> simp [Node.workLeft, here, Prod.Lex.toLex_lt_toLex]
  | joinSubMapping here present returns =>
      simp [Node.workLeft, here, Prod.Lex.toLex_lt_toLex]
  | @getSubmaps caller _ _ here present target =>
      subst target
      cases exist : node.globalMapping.isSome <;> cases caller <;>
        simp [Node.workLeft, here, afterSubmaps, Prod.Lex.toLex_lt_toLex]
  | insertSubmap here =>
      simp [Node.workLeft, here, Prod.Lex.toLex_lt_toLex]
  | @submapsDone caller here =>
      cases caller <;>
        simp [Node.workLeft, here, afterSubmaps, Prod.Lex.toLex_lt_toLex]
  | joinGlobalMapping here present returns =>
      simp [Node.workLeft, here, Prod.Lex.toLex_lt_toLex]
  | quit here => simp [Node.workLeft, here, Prod.Lex.toLex_lt_toLex]
  | @poll autoQuit here =>
      -- only `wait(false)` with ROS up goes round its loop
      simp only [advance, here] at advanced
      split at advanced
      case isTrue =>
        have moved := congrArg Node.pc (Option.some.inj advanced)
        rw [here] at moved
        cases moved
      case isFalse stays =>
        simp only [Bool.or_eq_true, Bool.not_eq_true', not_or,
          Bool.not_eq_true, Bool.not_eq_false] at stays
        obtain ⟨⟨quits, up⟩, _⟩ := stays
        exact absurd ⟨by rw [here, quits], up⟩ leaves

theorem works_keeps (works : Works node next) :
    next.workLeft < node.workLeft ∨
      next.workLeft = node.workLeft ∧ next.awaited = node.awaited := by
  cases works with
  | odometryConsumes consumes =>
      cases here : node.pc with
      | joinOdometry autoQuit =>
          left
          simpa [Node.workLeft, here, Prod.Lex.toLex_lt_toLex] using
            consumes.length
      | _ => exact .inr (by simp [Node.workLeft, Node.awaited, here])
  | odometryEmits frame running =>
      right
      cases here : node.pc <;>
        simp [Node.workLeft, Node.awaited, here, odometryEmits,
          Stage.joinReturns]
  | subMappingConsumes present consumes =>
      cases here : node.pc with
      | joinSubMapping autoQuit =>
          left
          simpa [Node.workLeft, here, present, stageUnconsumed,
            Prod.Lex.toLex_lt_toLex] using consumes.length
      | _ => exact .inr (by simp [Node.workLeft, Node.awaited, here])
  | subMappingEmits present submap running =>
      right
      cases here : node.pc <;>
        simp [Node.workLeft, Node.awaited, here, present, subMappingEmits,
          stageUnconsumed, Stage.joinReturns]
  | globalMappingConsumes present consumes =>
      cases here : node.pc with
      | joinGlobalMapping autoQuit =>
          left
          simpa [Node.workLeft, here, present, stageUnconsumed,
            Prod.Lex.toLex_lt_toLex] using consumes.length
      | _ => exact .inr (by simp [Node.workLeft, Node.awaited, here])

/-- Whoever is awaited can act. -/
theorem awaited_enabled (backed : node.Backed)
    (running : ¬ (node.pc = .idle ∨ node.pc = .waited)) :
    ∃ next, node.awaited.Acts node next := by
  obtain ⟨usesSub, usesGlobal⟩ := backed
  cases here : node.pc with
  | idle => exact (running (.inl here)).elim
  | waited => exact (running (.inr here)).elim
  | insertImu target sample =>
      cases target <;> simp [Node.awaited, here, Party.Acts, advance]
  | insertImage target stamp image =>
      cases target <;> simp [Node.awaited, here, Party.Acts, advance]
  | insertFrame preprocessed =>
      simp [Node.awaited, here, Party.Acts, advance]
  | getResults caller => simp [Node.awaited, here, Party.Acts, advance]
  | insertFrames caller frames =>
      cases frames with
      | cons frame rest => simp [Node.awaited, here, Party.Acts, advance]
      | nil =>
          cases caller <;> simp [Node.awaited, here, Party.Acts, advance]
  | getSubmaps caller =>
      obtain ⟨stage, present⟩ :=
        Option.isSome_iff_exists.mp (usesSub (by rw [here]; rfl))
      simp [Node.awaited, here, Party.Acts, advance, present]
  | insertSubmaps caller submaps =>
      cases submaps <;> simp [Node.awaited, here, Party.Acts, advance]
  | pollModules autoQuit =>
      have left : advance node false = some { node with pc := .waited } := by
        simp [advance, here]
      simp only [Node.awaited, here]
      exact ⟨_, false, left⟩
  | joinOdometry autoQuit =>
      cases returns : node.odometryEstimation.joinReturns with
      | true => simp [Node.awaited, here, Party.Acts, advance, returns]
      | false =>
          obtain ⟨input, rest, consumes⟩ := Stage.exists_consumes returns
          simp only [Node.awaited, here, returns]
          exact ⟨_, input, rest, consumes, rfl⟩
  | joinSubMapping autoQuit =>
      obtain ⟨stage, present⟩ :=
        Option.isSome_iff_exists.mp (usesSub (by rw [here]; rfl))
      cases returns : stage.joinReturns with
      | true =>
          simp [Node.awaited, here, Party.Acts, advance, present, returns]
      | false =>
          obtain ⟨input, rest, consumes⟩ := Stage.exists_consumes returns
          simp only [Node.awaited, here, present, Option.all_some, returns]
          exact ⟨_, stage, input, rest, present, consumes, rfl⟩
  | joinGlobalMapping autoQuit =>
      obtain ⟨stage, present⟩ :=
        Option.isSome_iff_exists.mp (usesGlobal (by rw [here]; rfl))
      cases returns : stage.joinReturns with
      | true =>
          simp [Node.awaited, here, Party.Acts, advance, present, returns]
      | false =>
          obtain ⟨input, rest, consumes⟩ := Stage.exists_consumes returns
          simp only [Node.awaited, here, present, Option.all_some, returns]
          exact ⟨_, stage, input, rest, present, consumes, rfl⟩

/-- A worker is only awaited in the join of its stage. -/
theorem awaited_worker (working : node.awaited ≠ .callbacks) :
    (node.awaited = .odometry ∧ ∃ autoQuit, node.pc = .joinOdometry autoQuit) ∨
      (node.awaited = .subMapping ∧
        ∃ autoQuit, node.pc = .joinSubMapping autoQuit) ∨
      (node.awaited = .globalMapping ∧
        ∃ autoQuit, node.pc = .joinGlobalMapping autoQuit) := by
  cases here : node.pc <;> simp_all [Node.awaited]

theorem awaited_lowers (leaves : ¬ node.Polls)
    (acts : node.awaited.Acts node next) :
    next.workLeft < node.workLeft := by
  by_cases callbacks : node.awaited = .callbacks
  · rw [callbacks] at acts
    obtain ⟨modulesOk, advanced⟩ := acts
    exact advance_lowers leaves advanced
  · rcases awaited_worker callbacks with
      ⟨awaited, autoQuit, here⟩ | ⟨awaited, autoQuit, here⟩ |
        ⟨awaited, autoQuit, here⟩
    all_goals rw [awaited] at acts
    · obtain ⟨input, rest, consumes, rfl⟩ := acts
      simpa [Node.workLeft, here, Prod.Lex.toLex_lt_toLex] using
        consumes.length
    · obtain ⟨stage, input, rest, present, consumes, rfl⟩ := acts
      simpa [Node.workLeft, here, present, stageUnconsumed,
        Prod.Lex.toLex_lt_toLex] using consumes.length
    · obtain ⟨stage, input, rest, present, consumes, rfl⟩ := acts
      simpa [Node.workLeft, here, present, stageUnconsumed,
        Prod.Lex.toLex_lt_toLex] using consumes.length

/-! ## Fair runs -/

/-- After `wait` has joined all workers, nobody acts any more. -/
theorem disabled_of_finished (waited : node.pc = .waited)
    (finished : node.Finished) (party : Party) (next : Node glim) :
    ¬ party.Acts node next := by
  intro acts
  cases party with
  | callbacks =>
      obtain ⟨modulesOk, advanced⟩ := acts
      simp [advance, waited] at advanced
  | odometry =>
      obtain ⟨_, _, consumes, _⟩ := acts
      cases finished.odometry.joined.symm.trans consumes.running
  | subMapping =>
      obtain ⟨stage, _, _, present, consumes, _⟩ := acts
      cases (finished.subMapping stage present).joined.symm.trans
        consumes.running
  | globalMapping =>
      obtain ⟨stage, _, _, present, consumes, _⟩ := acts
      cases (finished.globalMapping stage present).joined.symm.trans
        consumes.running

/-- The running callback has returned, or it is the loop of `wait` over the
extension modules while ROS is up. -/
def Node.Returned (node : Node glim) (inWait : Bool) : Prop :=
  if inWait then node.pc = .waited ∨ node.Polls else node.pc = .idle

/-- A callback that has not returned is running, and no wait for a module. -/
theorem running_of_not_returned
    (going : ¬ node.Returned node.pc.inWait) :
    ¬ (node.pc = .idle ∨ node.pc = .waited) ∧ ¬ node.Polls := by
  constructor
  · rintro (idle | waited)
    · exact going (by simp [Node.Returned, idle])
    · exact going (by simp [Node.Returned, waited])
  · intro polls
    apply going
    have waits : node.pc.inWait = true := by simp [polls.1]
    rw [waits]
    exact .inr polls

section Fair

variable [Field K] [LinearOrder K]

theorem nodeStep_keeps {config : NodeConfig K} (phases : node.Phases)
    (running : ¬ (node.pc = .idle ∨ node.pc = .waited))
    (leaves : ¬ node.Polls) (step : NodeStep config node next) :
    next.pc.inWait = node.pc.inWait ∧
      (next.workLeft < node.workLeft ∨
        next.workLeft = node.workLeft ∧ next.awaited = node.awaited) := by
  cases step with
  | receives idle message => exact absurd (.inl idle) running
  | silent step =>
      cases step with
      | timer idle => exact absurd (.inl idle) running
      | wait ready => exact absurd ready running
      | statement modulesOk advanced =>
          exact ⟨statement_inWait (advance_statement advanced) phases,
            .inl (advance_lowers leaves advanced)⟩
      | works works =>
          exact ⟨by rw [(works_pc works).1], works_keeps works⟩
      | shutdown => exact ⟨rfl, .inr ⟨rfl, rfl⟩⟩

theorem eventually_returned {config : NodeConfig K} {start : Node glim}
    (idle : start.pc = .idle) (unjoined : start.Unjoined)
    {run : Nat → Node glim} (runs : (nodeSystem config start).Runs run)
    (fair : ∀ party : Party, WeaklyFair party.Acts run) (index : Nat) :
    ∃ later, index ≤ later ∧ (run later).Returned (run index).pc.inWait := by
  generalize side : (run index).pc.inWait = inWait
  apply leads_of_fair fair runs
    (fun node =>
      (nodeSystem config start).Reachable node ∧ node.pc.inWait = inWait)
    (fun node => node.Returned inWait) Node.workLeft Node.awaited
  · rintro node ⟨reachable, rfl⟩ going
    obtain ⟨log, received⟩ := exists_received reachable
    exact awaited_enabled (received.backed idle)
      (running_of_not_returned going).1
  · rintro node next ⟨reachable, rfl⟩ going step
    obtain ⟨running, leaves⟩ := running_of_not_returned going
    have phases := (reachable_joins idle unjoined reachable).1
    obtain ⟨sameSide, keeps⟩ := nodeStep_keeps phases running leaves step
    exact .inr ⟨⟨reachable.step step, sameSide⟩, keeps⟩
  · rintro node next ⟨_, rfl⟩ going acts
    exact .inr (awaited_lowers (running_of_not_returned going).2 acts)
  · exact ⟨runs.reachable index, side⟩

/-- In every run that is fair to the thread of the callbacks and to the
workers, whatever arrives and whatever they emit meanwhile: every callback
returns.  So does every `wait`, past its three joins, unless it was not told
to quit and polls the extension modules with ROS up. -/
theorem callbacks_return (config : NodeConfig K) (metaConfig : MetaConfig)
    (accScale : K) (timeKeeper : glim.TimeKeeper)
    (enableSubMapping enableGlobalMapping : Bool) {run : Nat → Node glim}
    (runs :
      (nodeSystem config
        (Node.start glim metaConfig accScale timeKeeper
          enableSubMapping enableGlobalMapping)).Runs run)
    (fair : ∀ party : Party, WeaklyFair party.Acts run) (index : Nat) :
    ∃ later, index ≤ later ∧ (run later).Returned (run index).pc.inWait :=
  eventually_returned rfl (start_unjoined metaConfig accScale timeKeeper
    enableSubMapping enableGlobalMapping) runs fair index

/-- `wait` is called when an IMU sample is pending in all three stages, so
that every join blocks. -/
theorem callbacks_return_blocked :
    ∃ (run : Nat → Node numberedGlim) (index later : Nat),
      (run index).pc = .joinOdometry true ∧
        (run index).odometryEstimation.joinReturns = false ∧
        index ≤ later ∧ (run later).Returned true := by
  have started : (nodeSystem defaultNodeConfig
      (Node.start numberedGlim .empty 1 () true true)).Reachable _ := .init rfl
  have called := started.step (.imu rfl levelImu)
  have odometry := called.step (.statement true rfl)
  have subMapping := odometry.step (.statement true rfl)
  have globalMapping := subMapping.step (.statement true rfl)
  have waits := globalMapping.step (.wait (.inl rfl) true)
  obtain ⟨run, index, stop, runs, here, stops⟩ := waits.exists_runs_through
    (Relation.ReflTransGen.head (.works (.odometryConsumes ⟨rfl, .refl _⟩))
      (.head (.statement true rfl)
        (.head (.statement true rfl)
          (.head (.statement true rfl)
            (.head (.works (.subMappingConsumes rfl ⟨rfl, .refl _⟩))
              (.head (.statement true rfl)
                (.head (.statement true rfl)
                  (.head (.statement true rfl)
                    (.head (.works (.globalMappingConsumes rfl ⟨rfl, .refl _⟩))
                      (.head (.statement true rfl)
                        (.single (.statement true rfl))))))))))))
  obtain ⟨later, after, returned⟩ :=
    callbacks_return defaultNodeConfig .empty 1 () true true runs
      (fun party => .of_stops stops (disabled_of_finished rfl
        ⟨⟨rfl, rfl⟩, by rintro _ ⟨rfl⟩; exact ⟨rfl, rfl⟩,
          by rintro _ ⟨rfl⟩; exact ⟨rfl, rfl⟩⟩ party))
      index
  refine ⟨run, index, later, by rw [here], by rw [here]; rfl, after, ?_⟩
  rw [here] at returned
  exact returned

/-! ### What is emitted arrives -/

/-- The executor calls `timer_callback`. -/
def TimerFires (node next : Node glim) : Prop :=
  node.pc = .idle ∧ ∃ modulesOk, next = timerCallback node modulesOk

/-- The frames and submaps have been inserted into the next stage. -/
def Node.Has (frames : List (Emission K glim.EstimationFrame))
    (submaps : List (Emission K glim.SubMap)) (node : Node glim) : Prop :=
  frames <+: stagePayloads node.subMapping ∧
    submaps <+: stagePayloads node.globalMapping

variable {config : NodeConfig K} {metaConfig : MetaConfig} {accScale : K}
  {timeKeeper : glim.TimeKeeper}
  {run : Nat → Node glim}

theorem runs_grow
    (runs :
      (nodeSystem config
        (Node.start glim metaConfig accScale timeKeeper true true)).Runs run)
    {index later : Nat} (after : index ≤ later) :
    (run index).Grows (run later) := by
  obtain ⟨_, grown⟩ := (runs.steps after).preserves
    (fun current =>
      (nodeSystem config
        (Node.start glim metaConfig accScale timeKeeper
          true true)).Reachable current ∧
      (run index).Grows current)
    (fun current next held step => by
      obtain ⟨reached, grown⟩ := held
      have enabled := (reachable_drained _ _ _ reached).1
      exact ⟨reached.step step, grown.trans (nodeStep_grows step enabled)⟩)
    ⟨runs.reachable index, .rfl⟩
  exact grown

/-- When `wait` is past its joins, everything has been inserted. -/
theorem has_of_pastJoins
    (reachable :
      (nodeSystem config
        (Node.start glim metaConfig accScale timeKeeper
          true true)).Reachable node)
    (past : node.pc.pastJoins = true) :
    node.Has node.odometryEstimation.emitted
      (stageEmitted node.subMapping) := by
  have drained := (reachable_drained _ _ _ reachable).2
  obtain ⟨frames, submaps⟩ := reachable_accounted reachable
  have outside : node.pc.waitPhase = 4 ∧ node.pc.localFrames = [] ∧
      node.pc.localSubmaps = [] := by
    cases here : node.pc <;> simp [here] at past ⊢
  obtain ⟨phase, noFrames, noSubmaps⟩ := outside
  rw [drained.odometryBuffer (by omega), Node.takenFrames, noFrames,
    List.append_nil, List.append_nil] at frames
  rw [drained.subMappingBuffer (by omega), Node.takenSubmaps, noSubmaps,
    List.append_nil, List.append_nil] at submaps
  rw [Node.Has, frames, submaps]
  exact ⟨List.prefix_rfl, List.prefix_rfl⟩

/-- A `timer_callback` that has returned has inserted what was emitted before
it. -/
theorem has_of_timer
    (runs :
      (nodeSystem config
        (Node.start glim metaConfig accScale timeKeeper true true)).Runs run)
    {index later : Nat} (fires : TimerFires (run index) (run (index + 1)))
    (after : index + 1 ≤ later) (idle : (run later).pc = .idle) :
    (run later).Has (run index).odometryEstimation.emitted
      (stageEmitted (run index).subMapping) := by
  obtain ⟨_, modulesOk, called⟩ := fires
  have begins : (run (index + 1)).Takes
      (run index).odometryEstimation.emitted
      (stageEmitted (run index).subMapping) := by
    rw [called]
    exact ⟨.inl ⟨rfl, List.prefix_rfl⟩, .inl ⟨rfl, List.prefix_rfl⟩⟩
  obtain ⟨_, takesFrames, takesSubmaps⟩ := (runs.steps after).preserves
    (fun current =>
      (nodeSystem config
        (Node.start glim metaConfig accScale timeKeeper
          true true)).Reachable current ∧
      current.Takes (run index).odometryEstimation.emitted
        (stageEmitted (run index).subMapping))
    (fun current next held step => by
      obtain ⟨reached, takes⟩ := held
      have enabled := (reachable_drained _ _ _ reached).1
      exact ⟨reached.step step,
        nodeStep_takes step enabled (reachable_accounted reached) takes⟩)
    ⟨runs.reachable (index + 1), begins⟩
  simpa [Node.Has, idle, Node.takenFrames, Node.takenSubmaps] using
    And.intro takesFrames takesSubmaps

/-- In every run with both mapping stages that is fair to the thread of the
callbacks and to the workers, and in which the timer gets its turns: every
frame that odometry emits arrives in sub mapping, and every submap in global
mapping, in the order of their emission. -/
theorem emissions_arrive (config : NodeConfig K) (metaConfig : MetaConfig)
    (accScale : K) (timeKeeper : glim.TimeKeeper) {run : Nat → Node glim}
    (runs :
      (nodeSystem config
        (Node.start glim metaConfig accScale timeKeeper true true)).Runs run)
    (fair : ∀ party : Party, WeaklyFair party.Acts run)
    (timer : StronglyFair TimerFires run) (index : Nat) :
    ∃ later, index ≤ later ∧
      (run later).Has (run index).odometryEstimation.emitted
        (stageEmitted (run index).subMapping) := by
  by_cases joins : ∃ later, index ≤ later ∧ (run later).pc.pastJoins = true
  · obtain ⟨later, after, past⟩ := joins
    have has := has_of_pastJoins (runs.reachable later) past
    have grown := runs_grow runs after
    exact ⟨later, after, grown.emittedFrames.trans has.1,
      grown.emittedSubmaps.trans has.2⟩
  · -- no `wait` comes, so the thread is idle again and again
    have returns : ∀ later, index ≤ later →
        ∃ latest, later ≤ latest ∧ (run latest).pc = .idle := by
      intro later after
      obtain ⟨latest, beyond, returned⟩ := eventually_returned rfl
        (start_unjoined metaConfig accScale timeKeeper true true) runs fair
        later
      cases side : (run later).pc.inWait with
      | false =>
          rw [side] at returned
          exact ⟨latest, beyond, returned⟩
      | true =>
          rw [side] at returned
          refine absurd ⟨latest, after.trans beyond, ?_⟩ joins
          rcases returned with waited | polls
          · simp [waited]
          · simp [polls.1]
    obtain ⟨fired, after, fires⟩ := timer index fun later after => by
      obtain ⟨latest, beyond, idle⟩ := returns later after
      exact ⟨latest, beyond, _, idle, true, rfl⟩
    obtain ⟨later, beyond, idle⟩ :=
      returns (fired + 1) (Nat.le_succ_of_le after)
    have has := has_of_timer runs fires beyond idle
    have grown := runs_grow runs after
    exact ⟨later, after.trans ((Nat.le_succ fired).trans beyond),
      grown.emittedFrames.trans has.1, grown.emittedSubmaps.trans has.2⟩

end Fair

/-- Odometry emits a frame, the timer takes it along, and the run ends with
`wait`. -/
theorem emissions_arrive_by_timer :
    ∃ (run : Nat → Node numberedGlim) (index later : Nat),
      (run index).odometryEstimation.emitted.map Emission.value =
          [(1 : Nat)] ∧
        (run index).pc = .idle ∧ index ≤ later ∧
        (run later).Has (run index).odometryEstimation.emitted
          (stageEmitted (run index).subMapping) := by
  have started : (nodeSystem defaultNodeConfig
      (Node.start numberedGlim .empty 1 () true true)).Reachable _ := .init rfl
  have emitted := started.step (.works (.odometryEmits (1 : Nat) rfl))
  obtain ⟨run, index, stop, runs, here, stops⟩ := emitted.exists_runs_through
    (Relation.ReflTransGen.head (.timer rfl true)
      (.head (.statement true rfl)
        (.head (.statement true rfl)
          (.head (.statement true rfl)
            (.head (.statement true rfl)
              (.head (.statement true rfl)
                (.head (.wait (.inl rfl) true)
                  (.head (.statement true rfl)
                    (.head (.statement true rfl)
                      (.head (.statement true rfl)
                        (.head (.works (.subMappingConsumes rfl ⟨rfl, .refl _⟩))
                          (.head (.statement true rfl)
                            (.head (.statement true rfl)
                              (.head (.statement true rfl)
                                (.head (.statement true rfl)
                                  (.single
                                    (.statement true rfl)))))))))))))))))
  obtain ⟨later, after, has⟩ :=
    emissions_arrive defaultNodeConfig .empty 1 () runs
      (fun party => .of_stops stops (disabled_of_finished rfl
        ⟨⟨rfl, rfl⟩, by rintro _ ⟨rfl⟩; exact ⟨rfl, rfl⟩,
          by rintro _ ⟨rfl⟩; exact ⟨rfl, rfl⟩⟩ party))
      (.of_stops stops (fun _ fires => nomatch fires.1)) index
  exact ⟨run, index, later, by rw [here]; rfl, by rw [here]; rfl, after, has⟩

end GlimRos
