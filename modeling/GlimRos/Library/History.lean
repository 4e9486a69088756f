import Mathlib.Data.List.Chain
import Mathlib.Data.List.Induction

/-!
# Histories

A history only grows at its end.  A law relates an event to the events before
it, so a history stays lawful if each new event obeys the law when it comes.
-/

universe u

namespace History

variable {Event : Type u}

/-- A split of a history with a new event is a split of the old one, or the
split at the new event. -/
theorem split_concat {history before after : List Event}
    {event newest : Event}
    (split : history ++ [newest] = before ++ event :: after) :
    (∃ rest, history = before ++ event :: rest) ∨
      before = history ∧ event = newest := by
  rcases List.eq_nil_or_concat after with rfl | ⟨rest, final, rfl⟩
  · obtain ⟨sameHistory, sameEvent⟩ := List.append_inj' split rfl
    exact .inr ⟨sameHistory.symm, (List.singleton_inj.mp sameEvent).symm⟩
  · have regrouped : history ++ [newest] =
        (before ++ event :: rest) ++ [final] := by
      simpa using split
    exact .inl ⟨rest, (List.append_inj' regrouped rfl).1⟩

/-- In a history ordered by a transitive relation, every event before a given
one is related to it. -/
theorem related_of_isChain {Related : Event → Event → Prop}
    [IsTrans Event Related] {before after : List Event} {event : Event}
    (chain : (before ++ event :: after).IsChain Related) :
    ∀ earlier ∈ before, Related earlier event := by
  intro earlier member
  have pairwise := List.isChain_iff_pairwise.mp chain
  have across := (List.pairwise_append.mp pairwise).2.2
  exact across earlier member event List.mem_cons_self

/-- Every event obeys the law about what came before it. -/
def Lawful (Law : List Event → Event → Prop) (history : List Event) :
    Prop :=
  ∀ before event after, history = before ++ event :: after →
    Law before event

variable {Law : List Event → Event → Prop}

theorem Lawful.nil : Lawful Law [] := by
  intro before event after split
  have impossible := congrArg List.length split
  simp at impossible

theorem Lawful.concat {history : List Event} {newest : Event}
    (lawful : Lawful Law history) (obeys : Law history newest) :
    Lawful Law (history ++ [newest]) := by
  intro before event after split
  rcases split_concat split with ⟨rest, earlier⟩ | ⟨rfl, rfl⟩
  · exact lawful before event rest earlier
  · exact obeys

/-! ## Histories of growing lists -/

section Growing

variable {Item : Type u}

/-- The newest list holds the last items of all lists exactly when every list
is one longer than the number of lists before it. -/
theorem newest_items_iff {before : List (List Item)} {newest stored : List Item}
    (growing : ∀ list ∈ before, list <+: newest)
    (distinct : newest.Nodup)
    (lasts : stored.map some = (before ++ [newest]).map List.getLast?) :
    stored = newest ↔
      ∀ index list, (before ++ [newest])[index]? = some list →
        list.length = index + 1 := by
  have everyPrefix : ∀ list ∈ before ++ [newest], list <+: newest := by
    intro list member
    rcases List.mem_append.mp member with earlier | last
    · exact growing list earlier
    · obtain rfl := List.mem_singleton.mp last
      exact List.prefix_refl _
  have item (index : Nat) :
      stored[index]?.map some =
        (before ++ [newest])[index]?.map List.getLast? := by
    rw [← List.getElem?_map, lasts, List.getElem?_map]
  -- an item of an earlier list sits at the same place of the newest one
  have place {list : List Item} (early : list <+: newest) {index : Nat}
      (within : index < list.length) : list[index]? = newest[index]? := by
    rw [List.getElem?_eq_getElem within,
      List.getElem?_eq_getElem (Nat.lt_of_lt_of_le within early.length_le),
      early.getElem within]
  have size : stored.length = before.length + 1 := by
    simpa using congrArg List.length lasts
  constructor
  · rintro rfl index list found
    have lastItem := item index
    rw [found] at lastItem
    have early := everyPrefix list (List.mem_of_getElem? found)
    obtain ⟨stop, here, last⟩ := Option.map_eq_some_iff.mp lastItem
    have nonempty : 0 < list.length := by
      cases list with
      | nil => cases last
      | cons head tail => simp
    rw [List.getLast?_eq_getElem?, place early (by omega)] at last
    have bound := (List.getElem?_eq_some_iff.mp here).1
    have same : index = list.length - 1 :=
      (List.getElem?_inj bound distinct).mp (here.trans last)
    omega
  · intro lengths
    apply List.ext_getElem?
    intro index
    have lastItem := item index
    by_cases within : index < before.length + 1
    · obtain ⟨list, found⟩ : ∃ list, (before ++ [newest])[index]? = some list := by
        exact ⟨_, List.getElem?_eq_getElem (by simpa using within)⟩
      have length := lengths index list found
      have early := everyPrefix list (List.mem_of_getElem? found)
      rw [found, Option.map_some, List.getLast?_eq_getElem?, length,
        Nat.add_sub_cancel, place early (by omega)] at lastItem
      obtain ⟨stop, here, same⟩ := Option.map_eq_some_iff.mp lastItem
      rw [here, same]
    · have newestLength := lengths before.length newest (by simp)
      rw [List.getElem?_eq_none (by omega),
        List.getElem?_eq_none (by omega)]

/-- Each list is the one before it, or the empty one, with one item more. -/
def GrowsByOne (lists : List (List Item)) : Prop :=
  Lawful
    (fun before next =>
      ∃ item, next = before.getLast?.getD [] ++ [item]) lists

/-- The last items of lists that grow by one are the newest list. -/
theorem GrowsByOne.items {before : List (List Item)} {newest : List Item}
    {after : List (List Item)}
    (grows : GrowsByOne (before ++ newest :: after)) :
    newest.map some = (before ++ [newest]).map List.getLast? := by
  induction before using List.reverseRecOn generalizing newest after with
  | nil =>
      obtain ⟨item, rfl⟩ := grows [] newest after rfl
      rfl
  | append_singleton before previous induction =>
      obtain ⟨item, rfl⟩ := grows (before ++ [previous]) newest after rfl
      rw [List.append_assoc] at grows
      rw [List.getLast?_concat, Option.getD_some]
      have newest : (before ++ [previous] ++ [previous ++ [item]]).map
            List.getLast? =
          (before ++ [previous]).map List.getLast? ++ [some item] := by
        rw [List.map_append, List.map_singleton, List.getLast?_concat]
      rw [newest, ← induction grows, List.map_append, List.map_singleton]

end Growing

end History
