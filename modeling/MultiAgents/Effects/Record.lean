import Mathlib.Data.List.Infix

/-!
# Past-time properties of records

A record lists what happened with the newest entry first, so the tail of a
record is the past of its head.  `Always` checks each entry against its own
past; `Since` looks for an entry that no later one has undone.
-/

namespace Effects.Record

variable {α : Type}

/-- Each entry satisfies `property` relative to the entries before it. -/
inductive Always (property : α → List α → Prop) : List α → Prop where
  | nil : Always property []
  | cons {now : α} {past : List α} :
      property now past → Always property past → Always property (now :: past)

/-- Some entry satisfies `opening`, and no entry after it satisfies `closing`. -/
def Since (opening closing : α → Prop) : List α → Prop
  | [] => False
  | now :: past => opening now ∨ ¬closing now ∧ Since opening closing past

@[simp]
theorem always_cons (property : α → List α → Prop) (now : α) (past : List α) :
    Always property (now :: past) ↔ property now past ∧ Always property past := by
  constructor
  · intro always
    cases always with
    | cons holds earlier => exact ⟨holds, earlier⟩
  · exact fun ⟨holds, earlier⟩ => .cons holds earlier

instance Always.decidable (property : α → List α → Prop)
    [decide : ∀ now past, Decidable (property now past)] :
    (record : List α) → Decidable (Always property record)
  | [] => .isTrue .nil
  | now :: past =>
      have := Always.decidable property past
      decidable_of_iff (property now past ∧ Always property past) (always_cons ..).symm

instance Since.decidable (opening closing : α → Prop)
    [DecidablePred opening] [DecidablePred closing] :
    (record : List α) → Decidable (Since opening closing record)
  | [] => .isFalse id
  | now :: past =>
      have := Since.decidable opening closing past
      inferInstanceAs (Decidable (opening now ∨ ¬closing now ∧ Since opening closing past))

namespace Always

variable {property property' : α → List α → Prop} {now : α} {past record : List α}

theorem head (always : Always property (now :: past)) : property now past :=
  ((always_cons ..).mp always).1

theorem tail (always : Always property (now :: past)) : Always property past :=
  ((always_cons ..).mp always).2

theorem suffix {earlier later : List α} (always : Always property later)
    (order : earlier <:+ later) : Always property earlier := by
  obtain ⟨newer, rfl⟩ := order
  induction newer with
  | nil => exact always
  | cons now newer ih => exact ih always.tail

end Always

/-- `Always` written out: the property at every way of splitting the record. -/
theorem always_iff {property : α → List α → Prop} {record : List α} :
    Always property record ↔
      ∀ newer now past, record = newer ++ now :: past → property now past := by
  constructor
  · rintro always newer now past rfl
    exact (always.suffix (List.suffix_append newer (now :: past))).head
  · intro holds
    induction record with
    | nil => exact .nil
    | cons now past ih =>
        refine .cons (holds [] now past rfl) (ih ?_)
        intro newer other older split
        exact holds (now :: newer) other older (by rw [split, List.cons_append])

end Effects.Record
