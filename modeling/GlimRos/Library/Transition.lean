import Mathlib.Logic.Relation
import Mathlib.Order.WellFounded

/-!
# Transition systems, simulations and progress

A nondeterministic transition system is a set of initial states and a step
relation.  Safety facts are packaged once as invariants of the reachable
states, refinements as simulations, and liveness of a run `Nat → State` as
descent of a well-founded rank.
-/

universe u v w

namespace Transition

/-- A nondeterministic transition system. -/
structure System (State : Type u) where
  Init : State → Prop
  Step : State → State → Prop

namespace System

variable {State : Type u} {Abstract : Type v}

/-- Any finite number of steps. -/
def Steps (system : System State) : State → State → Prop :=
  Relation.ReflTransGen system.Step

/-- The states that some run from an initial state visits. -/
inductive Reachable (system : System State) : State → Prop where
  | init {state : State} :
      system.Init state → Reachable system state
  | step {state next : State} :
      Reachable system state → system.Step state next →
      Reachable system next

theorem Steps.refl (system : System State) (state : State) :
    system.Steps state state :=
  Relation.ReflTransGen.refl

theorem Steps.single {system : System State} {state next : State}
    (step : system.Step state next) : system.Steps state next :=
  Relation.ReflTransGen.single step

/-- A property of the initial states kept by every step holds in every
reachable state.  The step may use that its source is reachable. -/
theorem Reachable.invariant
    {system : System State} (Holds : State → Prop)
    (initial : ∀ state, system.Init state → Holds state)
    (preserved : ∀ state next, system.Reachable state → Holds state →
      system.Step state next → Holds next)
    {state : State} (reachable : system.Reachable state) : Holds state := by
  induction reachable with
  | init start => exact initial _ start
  | step earlier step induction => exact preserved _ _ earlier induction step

theorem Reachable.steps
    {system : System State} {state later : State}
    (reachable : system.Reachable state) (steps : system.Steps state later) :
    system.Reachable later := by
  induction steps with
  | refl => exact reachable
  | tail _ step induction => exact .step induction step

/-- A property kept by every step is kept by every run. -/
theorem Steps.preserves
    {system : System State} (Holds : State → Prop)
    (preserved : ∀ state next, Holds state → system.Step state next →
      Holds next)
    {state later : State} (steps : system.Steps state later)
    (holds : Holds state) : Holds later := by
  induction steps with
  | refl => exact holds
  | tail _ step induction => exact preserved _ _ induction step

/-- A value that no step of a closed set of states changes is constant along
every run that starts in that set. -/
theorem Steps.constant
    {system : System State} {Closed : State → Prop} {Value : Type w}
    (value : State → Value)
    (closed : ∀ state next, Closed state → system.Step state next →
      Closed next ∧ value next = value state)
    {state later : State} (steps : system.Steps state later)
    (start : Closed state) : value later = value state := by
  have kept : Closed later ∧ value later = value state :=
    steps.preserves
      (fun current => Closed current ∧ value current = value state)
      (fun current next holds step =>
        have moved := closed current next holds.1 step
        ⟨moved.1, moved.2.trans holds.2⟩)
      ⟨start, rfl⟩
  exact kept.2

end System

/-- A simulation: every concrete step is matched by finitely many abstract
steps. -/
structure Simulation {State : Type u} {Abstract : Type v}
    (concrete : System State) (abstract : System Abstract) where
  Related : State → Abstract → Prop
  init : ∀ {state}, concrete.Init state →
    ∃ image, abstract.Init image ∧ Related state image
  step : ∀ {state next image}, Related state image →
    concrete.Step state next →
    ∃ later, abstract.Steps image later ∧ Related next later

namespace Simulation

variable {State : Type u} {Abstract : Type v}
  {concrete : System State} {abstract : System Abstract}

/-- Every reachable concrete state represents a reachable abstract one. -/
theorem reachable (simulation : Simulation concrete abstract)
    {state : State} (reachable : concrete.Reachable state) :
    ∃ image, abstract.Reachable image ∧ simulation.Related state image := by
  induction reachable with
  | init start =>
      obtain ⟨image, imageInit, related⟩ := simulation.init start
      exact ⟨image, .init imageInit, related⟩
  | step _ step induction =>
      obtain ⟨image, imageReachable, related⟩ := induction
      obtain ⟨later, steps, laterRelated⟩ := simulation.step related step
      exact ⟨later, imageReachable.steps steps, laterRelated⟩

/-- Every concrete run represents an abstract one. -/
theorem steps (simulation : Simulation concrete abstract)
    {state later : State} {image : Abstract}
    (related : simulation.Related state image)
    (steps : concrete.Steps state later) :
    ∃ last, abstract.Steps image last ∧ simulation.Related later last := by
  induction steps with
  | refl => exact ⟨image, .refl abstract image, related⟩
  | tail _ step induction =>
      obtain ⟨middle, earlier, reached⟩ := induction
      obtain ⟨last, more, laterRelated⟩ := simulation.step reached step
      exact ⟨last, Relation.ReflTransGen.trans earlier more, laterRelated⟩

end Simulation

section Progress

variable {State : Type u} {Rank : Type v} [LT Rank] [WellFoundedLT Rank]

/-- If every state that is not done is followed by a done state or by one of
smaller rank, a done state comes after every point of the run. -/
theorem eventually_done
    (run : Nat → State) (Done : State → Prop) (rank : State → Rank)
    (progress : ∀ index, ¬ Done (run index) →
      ∃ later, index ≤ later ∧
        (Done (run later) ∨ rank (run later) < rank (run index))) :
    ∀ index, ∃ later, index ≤ later ∧ Done (run later) := by
  intro index
  generalize bound : rank (run index) = current
  induction current using WellFoundedLT.induction generalizing index with
  | ind current induction =>
      by_cases done : Done (run index)
      · exact ⟨index, Nat.le_refl index, done⟩
      · obtain ⟨middle, before, settled | smaller⟩ := progress index done
        · exact ⟨middle, before, settled⟩
        · rw [bound] at smaller
          obtain ⟨last, after, finished⟩ :=
            induction (rank (run middle)) smaller middle rfl
          exact ⟨last, Nat.le_trans before after, finished⟩

end Progress

/-- If from every state that is not done some steps lower a well-founded rank,
a done state can be reached. -/
theorem System.can_finish {State : Type u} {Rank : Type v} [LT Rank]
    [WellFoundedLT Rank] (system : System State) (Done : State → Prop)
    (rank : State → Rank) (Holds : State → Prop)
    (progress : ∀ state, Holds state → ¬ Done state →
      ∃ later, system.Steps state later ∧ Holds later ∧
        rank later < rank state)
    {state : State} (holds : Holds state) :
    ∃ last, system.Steps state last ∧ Holds last ∧ Done last := by
  generalize bound : rank state = current
  induction current using WellFoundedLT.induction generalizing state with
  | ind current induction =>
      by_cases done : Done state
      · exact ⟨state, .refl system state, holds, done⟩
      · obtain ⟨later, steps, stillHolds, lower⟩ := progress state holds done
        rw [bound] at lower
        obtain ⟨last, more, finished⟩ :=
          induction (rank later) lower stillHolds rfl
        exact ⟨last, Relation.ReflTransGen.trans steps more, finished⟩

/-- A wait that can only be left through an exit, and that some later point
does not survive, is left. -/
theorem exits_of_eventually
    (Waits Exits : Nat → Prop)
    (stays : ∀ index, Waits index → Exits index ∨ Waits (index + 1))
    {start : Nat} (waits : Waits start)
    (eventually : ∃ later, start ≤ later ∧ (Waits later → Exits later)) :
    ∃ later, start ≤ later ∧ Waits later ∧ Exits later := by
  obtain ⟨last, after, leaves⟩ := eventually
  obtain ⟨distance, rfl⟩ := Nat.exists_eq_add_of_le after
  induction distance generalizing start with
  | zero => exact ⟨start, Nat.le_refl start, waits, leaves waits⟩
  | succ distance induction =>
      rcases stays start waits with exit | waitsNext
      · exact ⟨start, Nat.le_refl start, waits, exit⟩
      · have shifted : start + (distance + 1) = start + 1 + distance := by
          omega
        rw [shifted] at leaves
        obtain ⟨later, next, result⟩ :=
          induction waitsNext (Nat.le_add_right _ _) leaves
        exact ⟨later, Nat.le_trans (Nat.le_succ start) next, result⟩

end Transition
