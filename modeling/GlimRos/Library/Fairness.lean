import GlimRos.Library.Transition
import Mathlib.Order.Lattice

/-!
# Fair runs

An infinite run may stand still for as long as it likes.  Weak fairness says
that an action which stays enabled is taken at some time.  The leads-to rule
turns the descent of a rank under one fair action into a promise about every
run.
-/

universe u v w

namespace Transition

variable {State : Type u} {system : System State} {run : Nat → State}

/-- An infinite run, in which there may be no step for a while. -/
structure System.Runs (system : System State) (run : Nat → State) : Prop where
  init : system.Init (run 0)
  step : ∀ index, run (index + 1) = run index ∨
    system.Step (run index) (run (index + 1))

theorem System.Runs.reachable (runs : system.Runs run) (index : Nat) :
    system.Reachable (run index) := by
  induction index with
  | zero => exact .init runs.init
  | succ index induction =>
      rcases runs.step index with same | step
      · rw [same]
        exact induction
      · exact induction.step step

theorem System.Runs.steps (runs : system.Runs run) {index later : Nat}
    (after : index ≤ later) : system.Steps (run index) (run later) := by
  induction later, after using Nat.le_induction with
  | base => exact .refl system (run index)
  | succ later after induction =>
      rcases runs.step later with same | step
      · rw [same]
        exact induction
      · exact Relation.ReflTransGen.tail induction step

/-- An action that is enabled from some time on is taken after it. -/
def WeaklyFair (action : State → State → Prop) (run : Nat → State) : Prop :=
  ∀ start, (∀ later, start ≤ later → ∃ next, action (run later) next) →
    ∃ later, start ≤ later ∧ action (run later) (run (later + 1))

/-- An action that is enabled again and again is taken at some time. -/
def StronglyFair (action : State → State → Prop) (run : Nat → State) : Prop :=
  ∀ start,
    (∀ later, start ≤ later →
      ∃ latest, later ≤ latest ∧ ∃ next, action (run latest) next) →
    ∃ later, start ≤ later ∧ action (run later) (run (later + 1))

theorem StronglyFair.weaklyFair {action : State → State → Prop}
    (fair : StronglyFair action run) : WeaklyFair action run :=
  fun start enabled => fair start fun later after =>
    ⟨later, Nat.le_refl later, enabled later after⟩

/-- What no other step ends holds until a strongly fair action is taken, if
the action is enabled again and again meanwhile. -/
theorem StronglyFair.taken {action : State → State → Prop}
    (fair : StronglyFair action run) (runs : system.Runs run)
    (Holds : State → Prop)
    (kept : ∀ state next, Holds state → system.Step state next →
      Holds next ∨ action state next)
    {index : Nat}
    (again : ∀ later, index ≤ later → Holds (run later) →
      ∃ latest, later ≤ latest ∧ ∃ next, action (run latest) next)
    (holds : Holds (run index)) :
    ∃ later, index ≤ later ∧ Holds (run later) ∧
      action (run later) (run (later + 1)) := by
  by_contra missed
  have stays : ∀ later, index ≤ later → Holds (run later) := by
    intro later after
    induction later, after using Nat.le_induction with
    | base => exact holds
    | succ later after still =>
        rcases runs.step later with same | step
        · rw [same]
          exact still
        · rcases kept _ _ still step with holds | taken
          · exact holds
          · exact absurd ⟨later, after, still, taken⟩ missed
  obtain ⟨later, after, taken⟩ :=
    fair index fun later after => again later after (stays later after)
  exact missed ⟨later, after, stays later after, taken⟩

/-- The leads-to rule for several fair actions.  Until the goal is reached, the
helpful action is enabled and lowers the rank, and every other step keeps what
holds and either lowers the rank or keeps it and the helpful action. -/
theorem leads_of_fair {Party : Type w} {Rank : Type v} [PartialOrder Rank]
    [WellFoundedLT Rank] {action : Party → State → State → Prop}
    (fair : ∀ party, WeaklyFair (action party) run)
    (runs : system.Runs run) (Holds Goal : State → Prop) (rank : State → Rank)
    (helpful : State → Party)
    (enabled : ∀ state, Holds state → ¬ Goal state →
      ∃ next, action (helpful state) state next)
    (kept : ∀ state next, Holds state → ¬ Goal state →
      system.Step state next →
      Goal next ∨ Holds next ∧ (rank next < rank state ∨
        rank next = rank state ∧ helpful next = helpful state))
    (lower : ∀ state next, Holds state → ¬ Goal state →
      action (helpful state) state next →
      Goal next ∨ rank next < rank state)
    {index : Nat} (holds : Holds (run index)) :
    ∃ later, index ≤ later ∧ Goal (run later) := by
  generalize bound : rank (run index) = current
  induction current using WellFoundedLT.induction generalizing index with
  | ind current induction =>
      by_contra missed
      have never : ∀ later, index ≤ later → ¬ Goal (run later) :=
        fun later after goal => missed ⟨later, after, goal⟩
      -- a lower rank reaches the goal by the induction hypothesis
      have level : ∀ later, index ≤ later → Holds (run later) →
          ¬ rank (run later) < rank (run index) := by
        intro later after stillHolds less
        rw [bound] at less
        obtain ⟨last, further, goal⟩ := induction _ less stillHolds rfl
        exact never last (after.trans further) goal
      have stays : ∀ later, index ≤ later →
          Holds (run later) ∧ rank (run later) = rank (run index) ∧
            helpful (run later) = helpful (run index) := by
        intro later after
        induction later, after using Nat.le_induction with
        | base => exact ⟨holds, rfl, rfl⟩
        | succ later after still =>
            have beyond : index ≤ later + 1 := Nat.le_succ_of_le after
            rcases runs.step later with same | step
            · rw [same]
              exact still
            · rcases kept _ _ still.1 (never later after) step with
                goal | ⟨stillHolds, less | ⟨sameRank, sameParty⟩⟩
              · exact absurd goal (never _ beyond)
              · rw [still.2.1] at less
                exact absurd less (level _ beyond stillHolds)
              · exact ⟨stillHolds, sameRank.trans still.2.1,
                  sameParty.trans still.2.2⟩
      obtain ⟨later, after, taken⟩ :=
        fair (helpful (run index)) index fun later after => by
          obtain ⟨stillHolds, _, sameParty⟩ := stays later after
          rw [← sameParty]
          exact enabled _ stillHolds (never later after)
      have beyond : index ≤ later + 1 := Nat.le_succ_of_le after
      obtain ⟨stillHolds, sameRank, sameParty⟩ := stays later after
      rw [← sameParty] at taken
      rcases lower _ _ stillHolds (never later after) taken with goal | less
      · exact never _ beyond goal
      · rw [sameRank] at less
        exact level _ beyond (stays _ beyond).1 less

/-- The rule for one fair action: it lowers the rank and no step raises it. -/
theorem WeaklyFair.leads {Rank : Type v} [PartialOrder Rank]
    [WellFoundedLT Rank] {action : State → State → Prop}
    (fair : WeaklyFair action run)
    (runs : system.Runs run) (Holds Goal : State → Prop) (rank : State → Rank)
    (enabled : ∀ state, Holds state → ¬ Goal state →
      ∃ next, action state next)
    (kept : ∀ state next, Holds state → ¬ Goal state →
      system.Step state next →
      Goal next ∨ Holds next ∧ rank next ≤ rank state)
    (lower : ∀ state next, Holds state → ¬ Goal state → action state next →
      Goal next ∨ rank next < rank state)
    {index : Nat} (holds : Holds (run index)) :
    ∃ later, index ≤ later ∧ Goal (run later) := by
  refine leads_of_fair (fun _ : Unit => fair) runs Holds Goal rank
    (fun _ => ()) enabled ?_ lower holds
  intro state next holds going step
  rcases kept state next holds going step with goal | ⟨still, atMost⟩
  · exact .inl goal
  · exact .inr ⟨still, atMost.lt_or_eq.imp_right fun same => ⟨same, rfl⟩⟩

/-! ## Images and continuations of runs -/

/-- Fairness carries over to a run that enables no more and takes the same. -/
theorem StronglyFair.map {Image : Type w} {action : State → State → Prop}
    {imageAction : Image → Image → Prop} {image : Nat → Image}
    (fair : StronglyFair action run)
    (enables : ∀ index next, imageAction (image index) next →
      ∃ next, action (run index) next)
    (takes : ∀ index, action (run index) (run (index + 1)) →
      imageAction (image index) (image (index + 1))) :
    StronglyFair imageAction image := by
  intro start enabled
  obtain ⟨later, after, taken⟩ := fair start fun later after => by
    obtain ⟨latest, beyond, next, acts⟩ := enabled later after
    exact ⟨latest, beyond, enables latest next acts⟩
  exact ⟨later, after, takes later taken⟩

theorem WeaklyFair.map {Image : Type w} {action : State → State → Prop}
    {imageAction : Image → Image → Prop} {image : Nat → Image}
    (fair : WeaklyFair action run)
    (enables : ∀ index next, imageAction (image index) next →
      ∃ next, action (run index) next)
    (takes : ∀ index, action (run index) (run (index + 1)) →
      imageAction (image index) (image (index + 1))) :
    WeaklyFair imageAction image := by
  intro start enabled
  obtain ⟨later, after, taken⟩ := fair start fun later after => by
    obtain ⟨next, acts⟩ := enabled later after
    exact enables later next acts
  exact ⟨later, after, takes later taken⟩

section Rest

variable {rest : Nat → State} {offset : Nat}
  (same : ∀ index, run (offset + index) = rest index)
  {action : State → State → Prop}

include same

/-- A run is fair if what is left of it after some time is. -/
theorem StronglyFair.of_rest (fair : StronglyFair action rest) :
    StronglyFair action run := by
  intro start enabled
  obtain ⟨later, after, taken⟩ := fair start fun later after => by
    obtain ⟨latest, beyond, next, acts⟩ := enabled (offset + later) (by omega)
    obtain ⟨index, rfl⟩ :=
      Nat.exists_eq_add_of_le (show offset ≤ latest by omega)
    rw [same] at acts
    exact ⟨index, by omega, next, acts⟩
  refine ⟨offset + later, by omega, ?_⟩
  rw [Nat.add_assoc, same, same]
  exact taken

theorem WeaklyFair.of_rest (fair : WeaklyFair action rest) :
    WeaklyFair action run := by
  intro start enabled
  obtain ⟨later, after, taken⟩ := fair start fun later after => by
    obtain ⟨next, acts⟩ := enabled (offset + later) (by omega)
    rw [same] at acts
    exact ⟨next, acts⟩
  refine ⟨offset + later, by omega, ?_⟩
  rw [Nat.add_assoc, same, same]
  exact taken

end Rest

/-- What goes on after a step goes on from before it. -/
theorem System.exists_continuation {earlier : State} {rest : Nat → State}
    (before : system.Step earlier (rest 0))
    (step : ∀ index, rest (index + 1) = rest index ∨
      system.Step (rest index) (rest (index + 1))) :
    ∃ longer : Nat → State, longer 0 = earlier ∧
      (∀ index, longer (index + 1) = rest index) ∧
      ∀ index, longer (index + 1) = longer index ∨
        system.Step (longer index) (longer (index + 1)) := by
  let longer : Nat → State
    | 0 => earlier
    | index + 1 => rest index
  refine ⟨longer, rfl, fun _ => rfl, ?_⟩
  rintro (_ | index)
  · exact .inr before
  · exact step index

/-- What goes on from a reachable state is the rest of a run. -/
theorem System.Reachable.exists_runs_before {state : State}
    (reachable : system.Reachable state) {rest : Nat → State}
    (first : rest 0 = state)
    (step : ∀ index, rest (index + 1) = rest index ∨
      system.Step (rest index) (rest (index + 1))) :
    ∃ run offset, system.Runs run ∧
      ∀ index, run (offset + index) = rest index := by
  induction reachable generalizing rest with
  | init start =>
      exact ⟨rest, 0, ⟨first ▸ start, step⟩, fun index => by
        rw [Nat.zero_add]⟩
  | step _ before induction =>
      obtain ⟨longer, head, tail, steps⟩ :=
        System.exists_continuation (first ▸ before) step
      obtain ⟨run, offset, runs, same⟩ := induction head steps
      refine ⟨run, offset + 1, runs, fun index => ?_⟩
      rw [Nat.add_assoc, Nat.add_comm 1 index, same, tail]

/-- What goes on from a later state is the rest of a run through the earlier
one. -/
theorem System.Reachable.exists_runs_through_before {state last : State}
    (reachable : system.Reachable state) (steps : system.Steps state last)
    (rest : Nat → State) (first : rest 0 = last)
    (step : ∀ index, rest (index + 1) = rest index ∨
      system.Step (rest index) (rest (index + 1))) :
    ∃ run index offset, system.Runs run ∧ run index = state ∧
      ∀ later, run (offset + later) = rest later := by
  induction steps generalizing rest with
  | refl =>
      obtain ⟨run, offset, runs, same⟩ :=
        reachable.exists_runs_before first step
      exact ⟨run, offset, offset, runs, (same 0).trans first, same⟩
  | tail _ before induction =>
      obtain ⟨longer, head, tail, steps⟩ :=
        System.exists_continuation (first ▸ before) step
      obtain ⟨run, index, offset, runs, here, same⟩ := induction longer head steps
      refine ⟨run, index, offset + 1, runs, here, fun later => ?_⟩
      rw [Nat.add_assoc, Nat.add_comm 1 later, same, tail]

/-! ## Runs that stop -/

/-- A run in which an action is disabled for good is fair to that action. -/
theorem StronglyFair.of_disabled {action : State → State → Prop} {stop : Nat}
    (disabled : ∀ later, stop ≤ later → ∀ next, ¬ action (run later) next) :
    StronglyFair action run := by
  intro start enabled
  obtain ⟨latest, after, next, taken⟩ :=
    enabled (max start stop) (Nat.le_max_left start stop)
  exact absurd taken
    (disabled latest ((Nat.le_max_right start stop).trans after) next)

/-- A run that stands still in a state where an action is disabled is fair to
that action. -/
theorem StronglyFair.of_stops {action : State → State → Prop} {last : State}
    {stop : Nat} (stops : ∀ later, stop ≤ later → run later = last)
    (disabled : ∀ next, ¬ action last next) : StronglyFair action run :=
  .of_disabled fun later after next taken =>
    disabled next (stops later after ▸ taken)

theorem WeaklyFair.of_stops {action : State → State → Prop} {last : State}
    {stop : Nat} (stops : ∀ later, stop ≤ later → run later = last)
    (disabled : ∀ next, ¬ action last next) : WeaklyFair action run :=
  (StronglyFair.of_stops stops disabled).weaklyFair

/-- Every finite continuation of a reachable state is part of a run, which
can stand still at its end. -/
theorem System.Reachable.exists_runs_through {state last : State}
    (reachable : system.Reachable state) (steps : system.Steps state last) :
    ∃ run index stop, system.Runs run ∧ run index = state ∧
      ∀ later, stop ≤ later → run later = last := by
  obtain ⟨run, index, stop, runs, here, same⟩ :=
    reachable.exists_runs_through_before steps (fun _ => last) rfl
      fun _ => .inl rfl
  refine ⟨run, index, stop, runs, here, fun later after => ?_⟩
  obtain ⟨distance, rfl⟩ := Nat.exists_eq_add_of_le after
  exact same distance

theorem System.Reachable.exists_runs {state : State}
    (reachable : system.Reachable state) :
    ∃ run stop, system.Runs run ∧
      ∀ later, stop ≤ later → run later = state := by
  obtain ⟨run, _, stop, runs, _, stops⟩ :=
    reachable.exists_runs_through (.refl system state)
  exact ⟨run, stop, runs, stops⟩

/-! ## Runs that go on -/

/-- A run that takes an action all the time is fair to it. -/
theorem WeaklyFair.of_taken {action : State → State → Prop}
    (taken : ∀ index, action (run index) (run (index + 1))) :
    WeaklyFair action run :=
  fun start _ => ⟨start, Nat.le_refl start, taken start⟩

end Transition
