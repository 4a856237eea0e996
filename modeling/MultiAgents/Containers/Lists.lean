import Mathlib.Data.List.Sort

/-!
# Lists

Sorting by a total preorder brings to the front the first of the least elements:
those before it in the list are strictly greater, those after it are not less.
Keeping the first occurrence of each element leaves distinct elements.
-/

namespace Containers

variable {α : Type*} (precedes : α → α → Prop) [DecidableRel precedes]

theorem exists_first_of_insertionSort [Std.Total precedes] [IsTrans α precedes]
    {items : List α} (listed : items ≠ []) :
    ∃ before first after, items = before ++ first :: after ∧
      (items.insertionSort precedes).head? = some first ∧
      (∀ item ∈ before, ¬ precedes item first) ∧ ∀ item ∈ after, precedes first item := by
  induction items with
  | nil => exact absurd rfl listed
  | cons item items ih =>
      by_cases empty : items = []
      · subst empty
        exact ⟨[], item, [], rfl, rfl, by simp, by simp⟩
      · obtain ⟨before, first, after, rfl, sorted, greater, notLess⟩ := ih empty
        obtain ⟨rest, sorted⟩ := List.head?_eq_some_iff.mp sorted
        rw [List.insertionSort_cons, sorted]
        by_cases least : precedes item first
        · refine ⟨[], item, before ++ first :: after, rfl, ?_, by simp, fun other membership => ?_⟩
          · rw [List.orderedInsert_cons_of_le _ _ least]
            rfl
          · rcases List.mem_append.mp membership with earlier | later
            · exact trans_of precedes least
                ((Std.Total.total other first).resolve_left (greater other earlier))
            · rcases List.mem_cons.mp later with rfl | later
              · exact least
              · exact trans_of precedes least (notLess other later)
        · refine ⟨item :: before, first, after, rfl, ?_, ?_, notLess⟩
          · rw [List.orderedInsert_of_not_le _ _ least]
            rfl
          · rintro other (_ | ⟨_, earlier⟩)
            · exact least
            · exact greater other earlier

theorem nodup_eraseDups {β : Type*} [DecidableEq β] (items : List β) : items.eraseDups.Nodup := by
  generalize size : items.length = length
  induction length using Nat.strong_induction_on generalizing items with
  | _ length ih =>
      cases items with
      | nil => exact List.nodup_nil
      | cons item items =>
          subst size
          rw [List.eraseDups_cons, List.nodup_cons, List.mem_eraseDups]
          refine ⟨by simp, ih _ ?_ _ rfl⟩
          exact Nat.lt_succ_of_le (List.length_filter_le _ _)

/-- What stands in a list that has grown by one element. -/
theorem getElem?_concat_eq_some {α : Type} {items : List α} {last found : α} {position : Nat} :
    (items ++ [last])[position]? = some found ↔
      items[position]? = some found ∨ position = items.length ∧ last = found := by
  rcases Nat.lt_trichotomy position items.length with inside | rfl | outside
  · rw [List.getElem?_append_left inside]
    exact ⟨.inl, fun either => either.resolve_right fun ⟨same, _⟩ => absurd same inside.ne⟩
  · simp
  · rw [List.getElem?_eq_none (by simp; omega), List.getElem?_eq_none outside.le]
    simp only [reduceCtorEq, false_or, false_iff, not_and]
    exact fun same => absurd same outside.ne'

end Containers
