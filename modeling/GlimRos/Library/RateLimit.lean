import Mathlib.Algebra.Order.Group.Defs
import Mathlib.Data.List.Chain
import Mathlib.Tactic.Abel

/-!
# Rate limits

Something that is done only when a period has passed since it was done last
is done at spaced times, whatever the clock does in between.  So many of
these times take so many periods.
-/

universe u v

namespace RateLimit

variable {Time : Type u} [AddCommGroup Time] [LinearOrder Time]

/-- Each time is at least a period after the one before it. -/
def Spaced (period : Time) (times : List Time) : Prop :=
  times.IsChain fun earlier later => earlier + period ≤ later

variable {period first now : Time} {times : List Time}

theorem Spaced.singleton (period first : Time) : Spaced period [first] :=
  List.isChain_singleton first

/-- One time more, if a period has passed since the last one. -/
theorem Spaced.concat (spaced : Spaced period (first :: times))
    (due : times.getLastD first + period ≤ now) :
    Spaced period (first :: (times ++ [now])) := by
  have appended : Spaced period ((first :: times) ++ [now]) := by
    refine List.IsChain.append spaced (List.isChain_singleton now) ?_
    intro last isLast next isNext
    rw [List.getLast?_cons, Option.mem_some_iff] at isLast
    rw [List.head?_cons, Option.mem_some_iff] at isNext
    rwa [← isLast, ← isNext, ← List.getLastD_eq_getLast?]
  exact appended

/-! ## What is let through -/

section Admitted

variable {Event : Type v} (time : Event → Time)

/-- The events that come a period at least after the last one let through. -/
def admitted (period last : Time) : List Event → List Event
  | [] => []
  | event :: events =>
      if last + period ≤ time event then
        event :: admitted period (time event) events
      else admitted period last events

theorem admitted_sublist (period last : Time) (events : List Event) :
    (admitted time period last events).Sublist events := by
  induction events generalizing last with
  | nil => exact .slnil
  | cons event events induction =>
      rw [admitted]
      split
      · exact (induction _).cons_cons event
      · exact (induction _).cons event

theorem admitted_spaced (period last : Time) (events : List Event) :
    Spaced period (last :: (admitted time period last events).map time) := by
  induction events generalizing last with
  | nil => exact .singleton period last
  | cons event events induction =>
      rw [admitted]
      split
      · next due => exact List.isChain_cons_cons.mpr ⟨due, induction _⟩
      · exact induction _

/-- The last event is let through if it comes a period after those before. -/
theorem admitted_concat (period last : Time) (events : List Event)
    (event : Event) :
    admitted time period last (events ++ [event]) =
      admitted time period last events ++
        if ((admitted time period last events).map time).getLastD last +
            period ≤ time event then [event]
        else [] := by
  induction events generalizing last with
  | nil => rfl
  | cons first events induction =>
      rw [List.cons_append, admitted, admitted]
      split
      · rw [induction, List.map_cons, List.getLastD_cons, List.cons_append]
      · exact induction _

end Admitted

variable [IsOrderedAddMonoid Time]

/-- From one time to a later one there are as many periods as steps. -/
theorem Spaced.elapsed (spaced : Spaced period (first :: times)) :
    first + times.length • period ≤ times.getLastD first := by
  induction times generalizing first with
  | nil => simp
  | cons second times induction =>
      obtain ⟨apart, later⟩ := List.isChain_cons_cons.mp spaced
      calc
        first + (times.length + 1) • period =
            first + period + times.length • period := by
          rw [succ_nsmul]
          abel
        _ ≤ second + times.length • period :=
          add_le_add_left apart _
        _ ≤ times.getLastD second := induction later
        _ = (second :: times).getLastD first := by
          rw [List.getLastD_cons]

end RateLimit
