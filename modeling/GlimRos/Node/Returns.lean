import GlimRos.Node.Joins
import GlimRos.Node.SensorStreams

/-!
# The callbacks return

A running callback stays inside `wait` or outside of it, and it can always
come to its end: what it needs of the stages exists, a join that blocks ends
when the worker has consumed its input, and the loop of `wait` is left once
ROS is down.
-/

namespace GlimRos

open Transition

variable {K : Type} {glim : Glim K} {node next : Node glim}

/-! ## What a callback keeps while it runs -/

/-- A statement stays inside `wait` or outside of it. -/
theorem statement_inWait (statement : Statement node next)
    (phases : node.Phases) : next.pc.inWait = node.pc.inWait := by
  cases statement with
  | joinOdometry here returns target =>
      subst target
      split <;> simp [here]
  | @getResults caller _ here target =>
      subst target
      cases caller with
      | timer => split <;> simp [here]
      | wait autoQuit =>
          have exist := phases.subMappingExists (by simp [here]) (by simp [here])
          simp [here, exist]
  | @insertMarginalized caller _ _ here => cases caller <;> simp [here]
  | @framesDone caller _ here target =>
      subst target
      cases caller <;> simp [here]
  | @getSubmaps caller _ _ here present target =>
      subst target
      cases caller <;> split <;> simp [here, afterSubmaps]
  | @insertSubmap caller _ _ here => cases caller <;> simp [here]
  | @submapsDone caller here => cases caller <;> simp [here, afterSubmaps]
  | poll here => rfl
  | _ here => simp [here]

/-- The argument of the running `wait`. -/
@[simp] def Pc.waitArgument : Pc glim → Option Bool
  | .joinOdometry autoQuit | .joinSubMapping autoQuit => some autoQuit
  | .getResults (.wait autoQuit) | .insertFrames (.wait autoQuit) _ =>
      some autoQuit
  | .getSubmaps (.wait autoQuit) | .insertSubmaps (.wait autoQuit) _ =>
      some autoQuit
  | .joinGlobalMapping autoQuit | .pollModules autoQuit => some autoQuit
  | _ => none

/-- A statement of `wait` keeps the argument until `wait` returns. -/
theorem statement_waitArgument (statement : Statement node next) :
    next.pc.waitArgument = node.pc.waitArgument ∨
      next.pc.waitArgument = none := by
  cases statement with
  | joinOdometry here returns target =>
      subst target
      left
      split <;> simp [here]
  | @getResults caller _ here target =>
      subst target
      cases caller <;> split <;> simp [here]
  | @insertMarginalized caller _ _ here => cases caller <;> simp [here]
  | @framesDone caller _ here target =>
      subst target
      cases caller <;> simp [here]
  | @getSubmaps caller _ _ here present target =>
      subst target
      cases caller <;> split <;> simp [here, afterSubmaps]
  | @insertSubmap caller _ _ here => cases caller <;> simp [here]
  | @submapsDone caller here => cases caller <;> simp [here, afterSubmaps]
  | poll here => exact .inl rfl
  | _ here => simp [here]

/-- Outside `wait` nothing is claimed about its argument. -/
theorem waitArgument_of_outside {pc : Pc glim}
    (outside : pc.inWait = false) : pc.waitArgument = none := by
  cases pc with
  | getResults caller | insertFrames caller | getSubmaps caller
  | insertSubmaps caller => cases caller <;> simp_all
  | _ => simp_all

/-- No statement turns ROS on again. -/
theorem statement_rclcppOk (statement : Statement node next) :
    next.rclcppOk = node.rclcppOk := by
  cases statement <;> rfl

theorem works_pc (works : Works node next) :
    next.pc = node.pc ∧ next.rclcppOk = node.rclcppOk := by
  cases works <;> exact ⟨rfl, rfl⟩

theorem Pc.Started.outside {pc : Pc glim} (started : pc.Started) :
    pc.inWait = false := by
  cases started <;> rfl

theorem receive_rclcppOk [Field K] [LinearOrder K] {config : NodeConfig K}
    (node : Node glim) (message : Message glim) :
    (node.receive config message).rclcppOk = node.rclcppOk := by
  cases message with
  | imu msg => rfl
  | image msg => rfl
  | points msg =>
      simp only [Node.receive, pointsCallback]
      split <;> rfl

/-! ## The stages a callback works on exist -/

namespace Pc

@[simp] def usesSubMapping : Pc glim → Bool
  | .insertFrames _ _ | .joinSubMapping _ | .getSubmaps _ => true
  | _ => false

@[simp] def usesGlobalMapping : Pc glim → Bool
  | .insertSubmaps _ _ | .joinGlobalMapping _ => true
  | _ => false

end Pc

/-- The drains run only over stages that exist. -/
structure Node.Backed (node : Node glim) : Prop where
  subMapping : node.pc.usesSubMapping = true → node.subMapping.isSome
  globalMapping : node.pc.usesGlobalMapping = true →
    node.globalMapping.isSome

/-- A callback that starts works on neither mapping stage. -/
theorem Node.Backed.of_unused (subMapping : node.pc.usesSubMapping = false)
    (globalMapping : node.pc.usesGlobalMapping = false) : node.Backed := by
  constructor
  · intro uses
    cases subMapping.symm.trans uses
  · intro uses
    cases globalMapping.symm.trans uses

theorem statement_backed (statement : Statement node next)
    (backed : node.Backed) : next.Backed := by
  obtain ⟨subMapping, globalMapping⟩ := backed
  cases statement with
  | joinOdometry here returns target =>
      subst target
      apply Node.Backed.of_unused <;> dsimp only <;> split <;> rfl
  | getResults here target =>
      subst target
      cases exist : node.subMapping.isSome with
      | true => exact ⟨fun _ => exist, nofun⟩
      | false => exact .of_unused rfl rfl
  | insertMarginalized here =>
      have exist := subMapping (by rw [here]; rfl)
      exact ⟨fun _ => by simpa using exist, nofun⟩
  | @framesDone caller _ here target =>
      subst target
      have exist := subMapping (by rw [here]; rfl)
      refine ⟨fun _ => exist, ?_⟩
      cases caller <;> nofun
  | joinSubMapping here present returns => exact ⟨fun _ => rfl, nofun⟩
  | @getSubmaps caller _ _ here present target =>
      subst target
      cases exist : node.globalMapping.isSome with
      | true => exact ⟨nofun, fun _ => exist⟩
      | false => cases caller <;> exact .of_unused rfl rfl
  | insertSubmap here =>
      have exist := globalMapping (by rw [here]; rfl)
      exact ⟨nofun, fun _ => by simpa using exist⟩
  | @submapsDone caller here =>
      have exist := globalMapping (by rw [here]; rfl)
      cases caller <;> exact ⟨nofun, fun _ => exist⟩
  | poll here => exact ⟨subMapping, globalMapping⟩
  | _ here => exact .of_unused rfl rfl

theorem works_backed (works : Works node next) (backed : node.Backed) :
    next.Backed := by
  obtain ⟨subMapping, globalMapping⟩ := backed
  cases works with
  | odometryConsumes | odometryEmits => exact ⟨subMapping, globalMapping⟩
  | subMappingConsumes | subMappingEmits =>
      exact ⟨fun _ => rfl, globalMapping⟩
  | globalMappingConsumes => exact ⟨subMapping, fun _ => rfl⟩

theorem Pc.Started.unused {pc : Pc glim} (started : pc.Started) :
    pc.usesSubMapping = false ∧ pc.usesGlobalMapping = false := by
  cases started <;> exact ⟨rfl, rfl⟩

theorem Received.backed [Field K] [LinearOrder K] {config : NodeConfig K}
    {start : Node glim} {log : List (Message glim)}
    (fresh : start.pc = .idle) (received : Received config start log node) :
    node.Backed := by
  induction received with
  | start => exact .of_unused (by rw [fresh]; rfl) (by rw [fresh]; rfl)
  | message earlier idle message induction =>
      obtain ⟨subMapping, globalMapping⟩ :=
        (receive_started config idle message).unused
      exact .of_unused subMapping globalMapping
  | silent earlier step induction =>
      cases step with
      | timer idle modulesOk => exact .of_unused rfl rfl
      | wait ready autoQuit => exact .of_unused rfl rfl
      | statement modulesOk advanced =>
          exact statement_backed (advance_statement advanced) induction
      | works works => exact works_backed works induction
      | shutdown => exact ⟨induction.subMapping, induction.globalMapping⟩

/-! ## Every callback can return -/

/-- The running callback and the workers, while no module asks to stop. -/
def callbackSystem : Transition.System (Node glim) :=
  { Init := fun _ => True
    Step := fun node next =>
      advance node true = some next ∨ Works node next }

/-- Nothing but a worker that is behind can hold the callback up. -/
structure Node.Unblocked (node : Node glim) : Prop where
  backed : node.Backed
  leaves : node.pc.waitArgument = some false → node.rclcppOk = false

theorem callbackStep_unblocked (unblocked : node.Unblocked)
    (step : callbackSystem.Step node next) :
    next.Unblocked ∧ next.rclcppOk = node.rclcppOk := by
  obtain ⟨backed, leaves⟩ := unblocked
  rcases step with advanced | works
  · have statement := advance_statement advanced
    have sameOk := statement_rclcppOk statement
    refine ⟨⟨statement_backed statement backed, fun waits => ?_⟩, sameOk⟩
    rcases statement_waitArgument statement with same | none
    · exact sameOk.trans (leaves (same ▸ waits))
    · cases none.symm.trans waits
  · obtain ⟨samePc, sameOk⟩ := works_pc works
    refine ⟨⟨works_backed works backed, fun waits => ?_⟩, sameOk⟩
    exact sameOk.trans (leaves (samePc ▸ waits))

def Target.left : Target → Nat
  | .odometryEstimation => 3
  | .subMapping => 2
  | .globalMapping => 1

/-- A bound on the statements until the callback returns, joins apart. -/
def Node.statementsLeft (node : Node glim) : Nat :=
  let submaps := (stageBuffer node.subMapping).length
  match node.pc with
  | .idle | .waited => 0
  | .insertImu target _ | .insertImage target _ _ => target.left
  | .insertFrame _ | .pollModules _ => 1
  | .joinGlobalMapping _ => 2
  | .insertSubmaps _ remaining => remaining.length + 3
  | .getSubmaps _ => submaps + 4
  | .joinSubMapping _ => submaps + 5
  | .insertFrames _ remaining => remaining.length + submaps + 6
  | .getResults _ => node.odometryEstimation.buffer.length + submaps + 7
  | .joinOdometry _ => node.odometryEstimation.buffer.length + submaps + 8

/-- No join blocks. -/
structure Node.CaughtUp (node : Node glim) : Prop where
  odometry : node.odometryEstimation.joinReturns = true
  subMapping : ∀ subMapping, node.subMapping = some subMapping →
    subMapping.joinReturns = true
  globalMapping : ∀ globalMapping, node.globalMapping = some globalMapping →
    globalMapping.joinReturns = true

/-- With the workers caught up, the next statement runs. -/
theorem Node.CaughtUp.advances (caughtUp : node.CaughtUp)
    (unblocked : node.Unblocked)
    (running : ¬ (node.pc = .idle ∨ node.pc = .waited)) :
    ∃ next, advance node true = some next ∧
      next.statementsLeft < node.statementsLeft := by
  obtain ⟨odometry, subMapping, globalMapping⟩ := caughtUp
  obtain ⟨⟨usesSub, usesGlobal⟩, leaves⟩ := unblocked
  cases here : node.pc with
  | idle => exact (running (.inl here)).elim
  | waited => exact (running (.inr here)).elim
  | insertImu target sample =>
      cases target <;>
        simp [advance, here, Node.statementsLeft, Target.left]
  | insertImage target stamp image =>
      cases target <;>
        simp [advance, here, Node.statementsLeft, Target.left]
  | insertFrame preprocessed => simp [advance, here, Node.statementsLeft]
  | joinOdometry autoQuit =>
      cases exist : node.subMapping.isSome <;>
        simp [advance, here, odometry, exist, Node.statementsLeft]
  | getResults caller =>
      cases exist : node.subMapping.isSome <;>
        simp [advance, here, exist, Node.statementsLeft]
  | insertFrames caller frames =>
      cases frames with
      | cons frame rest => simp [advance, here, Node.statementsLeft]
      | nil => cases caller <;> simp [advance, here, Node.statementsLeft]
  | joinSubMapping autoQuit =>
      obtain ⟨stage, present⟩ :=
        Option.isSome_iff_exists.mp (usesSub (by rw [here]; rfl))
      simp [advance, here, present, subMapping stage present,
        Node.statementsLeft]
  | getSubmaps caller =>
      obtain ⟨stage, present⟩ :=
        Option.isSome_iff_exists.mp (usesSub (by rw [here]; rfl))
      cases exist : node.globalMapping.isSome <;> cases caller <;>
        simp [advance, here, present, exist, afterSubmaps,
          Node.statementsLeft]
  | insertSubmaps caller submaps =>
      cases submaps with
      | cons submap rest => simp [advance, here, Node.statementsLeft]
      | nil =>
          cases caller <;>
            simp [advance, here, afterSubmaps, Node.statementsLeft]
  | joinGlobalMapping autoQuit =>
      obtain ⟨stage, present⟩ :=
        Option.isSome_iff_exists.mp (usesGlobal (by rw [here]; rfl))
      simp [advance, here, present, globalMapping stage present,
        Node.statementsLeft]
  | pollModules autoQuit =>
      cases autoQuit with
      | true => simp [advance, here, Node.statementsLeft]
      | false =>
          have down := leaves (by rw [here]; rfl)
          simp [advance, here, down, Node.statementsLeft]

/-! ### The workers catch up -/

theorem odometry_catchesUp (node : Node glim) :
    ∃ stage, callbackSystem.Steps node
        { node with odometryEstimation := stage } ∧
      stage.joinReturns = true ∧
      stage.buffer = node.odometryEstimation.buffer := by
  obtain ⟨later, steps, returns⟩ :=
    node.odometryEstimation.eventually_joinReturns
  refine ⟨later, ?_, returns, Stage.consumes_buffer steps⟩
  refine Relation.ReflTransGen.lift
    (fun stage => { node with odometryEstimation := stage }) ?_ _ _ steps
  rintro stage next ⟨input, rest, consumes, rfl⟩
  exact .inr (.odometryConsumes consumes)

theorem subMapping_catchesUp (node : Node glim) :
    ∃ optional, callbackSystem.Steps node { node with subMapping := optional } ∧
      (∀ stage, optional = some stage → stage.joinReturns = true) ∧
      stageBuffer optional = stageBuffer node.subMapping := by
  cases present : node.subMapping with
  | none =>
      have same : { node with subMapping := none } = node := by rw [← present]
      exact ⟨none, same ▸ .refl _ _, nofun, rfl⟩
  | some stage =>
      obtain ⟨later, steps, returns⟩ := stage.eventually_joinReturns
      have same : node = { node with subMapping := some stage } := by
        rw [← present]
      refine ⟨some later, ?_, ?_, Stage.consumes_buffer steps⟩
      · rw [same]
        refine Relation.ReflTransGen.lift
          (fun stage => { node with subMapping := some stage }) ?_ _ _ steps
        rintro stage next ⟨input, rest, consumes, rfl⟩
        exact .inr (.subMappingConsumes rfl consumes)
      · rintro _ ⟨rfl⟩
        exact returns

theorem globalMapping_catchesUp (node : Node glim) :
    ∃ optional, callbackSystem.Steps node
        { node with globalMapping := optional } ∧
      ∀ stage, optional = some stage → stage.joinReturns = true := by
  cases present : node.globalMapping with
  | none =>
      have same : { node with globalMapping := none } = node := by
        rw [← present]
      exact ⟨none, same ▸ .refl _ _, nofun⟩
  | some stage =>
      obtain ⟨later, steps, returns⟩ := stage.eventually_joinReturns
      have same : node = { node with globalMapping := some stage } := by
        rw [← present]
      refine ⟨some later, ?_, ?_⟩
      · rw [same]
        refine Relation.ReflTransGen.lift
          (fun stage => { node with globalMapping := some stage }) ?_ _ _ steps
        rintro stage next ⟨input, rest, consumes, rfl⟩
        exact .inr (.globalMappingConsumes rfl consumes)
      · rintro _ ⟨rfl⟩
        exact returns

theorem workers_catchUp (node : Node glim) :
    ∃ later, callbackSystem.Steps node later ∧ later.CaughtUp ∧
      later.pc = node.pc ∧ later.statementsLeft = node.statementsLeft := by
  obtain ⟨odometry, first, odometryReturns, odometryBuffer⟩ :=
    odometry_catchesUp node
  obtain ⟨subMapping, second, subReturns, subBuffer⟩ :=
    subMapping_catchesUp { node with odometryEstimation := odometry }
  obtain ⟨globalMapping, third, globalReturns⟩ :=
    globalMapping_catchesUp
      { node with odometryEstimation := odometry, subMapping := subMapping }
  refine ⟨_, (first.trans second).trans third,
    ⟨odometryReturns, subReturns, globalReturns⟩, rfl, ?_⟩
  simp only [Node.statementsLeft, odometryBuffer, subBuffer]

/-- A callback that is not blocked returns under some schedule of the
workers. -/
theorem callback_returns (unblocked : node.Unblocked) :
    ∃ last, callbackSystem.Steps node last ∧
      last.rclcppOk = node.rclcppOk ∧
      (last.pc = .idle ∨ last.pc = .waited) := by
  have kept : ∀ earlier later : Node glim,
      (earlier.Unblocked ∧ earlier.rclcppOk = node.rclcppOk) →
      callbackSystem.Step earlier later →
      later.Unblocked ∧ later.rclcppOk = node.rclcppOk := by
    rintro earlier later ⟨unblocked, sameOk⟩ step
    obtain ⟨still, ok⟩ := callbackStep_unblocked unblocked step
    exact ⟨still, ok.trans sameOk⟩
  have progress : ∀ current : Node glim,
      (current.Unblocked ∧ current.rclcppOk = node.rclcppOk) →
      ¬ (current.pc = .idle ∨ current.pc = .waited) →
      ∃ later, callbackSystem.Steps current later ∧
        (later.Unblocked ∧ later.rclcppOk = node.rclcppOk) ∧
        later.statementsLeft < current.statementsLeft := by
    intro current holds running
    obtain ⟨ready, catchUp, caughtUp, samePc, sameLeft⟩ :=
      workers_catchUp current
    have readyHolds := catchUp.preserves _ kept holds
    obtain ⟨next, advanced, fewer⟩ :=
      caughtUp.advances readyHolds.1 (samePc ▸ running)
    have step : callbackSystem.Step ready next := .inl advanced
    exact ⟨next, Relation.ReflTransGen.tail catchUp step,
      kept ready next readyHolds step, sameLeft ▸ fewer⟩
  obtain ⟨last, steps, ⟨_, sameOk⟩, returned⟩ :=
    callbackSystem.can_finish _ Node.statementsLeft _ progress
      ⟨unblocked, rfl⟩
  exact ⟨last, steps, sameOk, returned⟩

end GlimRos
