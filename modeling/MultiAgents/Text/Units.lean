import Mathlib.Data.List.DropRight
import Mathlib.Data.List.Lex

/-!
# Texts as sequences of code units

Texts are ordered by their code units, so whatever begins the first and the last
of some texts begins all of them.  A path leads through the directories whose
names begin it, each up to a slash.
-/

namespace Text.Units

def commonPrefix : List Nat → List Nat → List Nat
  | unit :: first, other :: second =>
      if unit = other then unit :: commonPrefix first second else []
  | _, _ => []

theorem prefix_commonPrefix_iff {start first second : List Nat} :
    start <+: commonPrefix first second ↔ start <+: first ∧ start <+: second := by
  induction start generalizing first second with
  | nil => simp
  | cons unit start ih =>
      cases first with
      | nil => simp [commonPrefix]
      | cons head first =>
          cases second with
          | nil => simp [commonPrefix]
          | cons other second =>
              rw [commonPrefix]
              split
              · rename_i same
                subst same
                simp only [List.cons_prefix_cons, ih]
                tauto
              · rename_i different
                simp only [List.prefix_nil, reduceCtorEq, List.cons_prefix_cons, false_iff]
                rintro ⟨⟨rfl, -⟩, rfl, -⟩
                exact different rfl

theorem prefix_of_between {start first text last : List Nat} (beginsFirst : start <+: first)
    (beginsLast : start <+: last) (after : first ≤ text) (before : text ≤ last) :
    start <+: text := by
  induction start generalizing first text last with
  | nil => exact List.nil_prefix
  | cons unit start ih =>
      obtain ⟨first, rfl⟩ := beginsFirst
      obtain ⟨last, rfl⟩ := beginsLast
      rw [List.cons_append, ← not_lt] at after before
      cases text with
      | nil => exact absurd (List.nil_lt_cons _ _) after
      | cons head text =>
          rw [List.cons_lt_cons_iff, not_or, not_and, not_lt, not_lt] at after before
          obtain rfl : unit = head := Nat.le_antisymm after.1 before.1
          exact List.cons_prefix_cons.mpr ⟨rfl, ih (List.prefix_append _ _)
            (List.prefix_append _ _) (after.2 rfl) (before.2 rfl)⟩

/-- Sorted texts lie between the first and the last of them. -/
theorem between_of_sorted {texts : List (List Nat)} (sorted : texts.Pairwise (· ≤ ·))
    {first last text : List Nat} (isFirst : texts.head? = some first)
    (isLast : texts.getLast? = some last) (isThere : text ∈ texts) :
    first ≤ text ∧ text ≤ last := by
  obtain ⟨rest, rfl⟩ := List.head?_eq_some_iff.mp isFirst
  constructor
  · rcases List.mem_cons.mp isThere with rfl | later
    · exact le_rfl
    · exact List.rel_of_pairwise_cons sorted later
  · obtain ⟨before, split⟩ := List.getLast?_eq_some_iff.mp isLast
    rw [split] at isThere sorted
    rcases List.mem_append.mp isThere with earlier | isLast
    · exact (List.pairwise_append.mp sorted).2.2 text earlier last (by simp)
    · exact (List.mem_singleton.mp isLast).le

def slash : Nat := 0x2f

/-- `text.substring(0, text.lastIndexOf('/'))`, if there is a slash after the first unit. -/
def beforeLastSlash (text : List Nat) : Option (List Nat) :=
  match text.reverse.dropWhile (· ≠ slash) with
  | [] => none
  | _ :: before => if before = [] then none else some before.reverse

/-- `path.dirname`. -/
def dirname : List Nat → List Nat
  | [] => [0x2e]
  | first :: rest =>
      match (rest.reverse.dropWhile (· = slash)).dropWhile (· ≠ slash) with
      | [] => if first = slash then [slash] else [0x2e]
      | _ :: before =>
          if first = slash ∧ before = [] then [slash, slash] else first :: before.reverse

/-- A path that goes through a directory, however many slashes the directory ends with. -/
def LeadsTo (directory path : List Nat) : Prop :=
  ∃ rest, path = directory.rdropWhile (· = slash) ++ slash :: rest

theorem LeadsTo.of_append (directory rest : List Nat) :
    LeadsTo directory (directory ++ slash :: rest) := by
  induction directory using List.reverseRecOn generalizing rest with
  | nil => exact ⟨rest, rfl⟩
  | append_singleton directory unit ih =>
      by_cases ends : unit = slash
      · obtain ⟨others, path⟩ := ih (slash :: rest)
        refine ⟨others, ?_⟩
        rw [List.rdropWhile_concat_pos _ _ _ (by simpa using ends), ← path, ends,
          List.append_assoc]
        rfl
      · refine ⟨rest, ?_⟩
        rw [List.rdropWhile_concat_neg _ _ _ (by simpa using ends)]

theorem LeadsTo.of_begins {directory path : List Nat} (begins : directory ++ [slash] <+: path) :
    LeadsTo directory path := by
  obtain ⟨rest, rfl⟩ := begins
  rw [List.append_assoc]
  exact .of_append directory rest

theorem exists_of_dropWhile {text before : List Nat} {unit : Nat}
    (found : text.dropWhile (· ≠ slash) = unit :: before) :
    ∃ skipped, text = skipped ++ slash :: before := by
  have stops := List.head?_dropWhile_not (fun unit => decide (unit ≠ slash)) text
  rw [found] at stops
  have isSlash : unit = slash := by simpa using stops
  have whole := @List.takeWhile_append_dropWhile _ (fun unit => decide (unit ≠ slash)) text
  rw [found, isSlash] at whole
  exact ⟨_, whole.symm⟩

theorem beforeLastSlash_prefix {text directory : List Nat}
    (cut : beforeLastSlash text = some directory) :
    directory ≠ [] ∧ directory ++ [slash] <+: text := by
  unfold beforeLastSlash at cut
  split at cut
  · cases cut
  · rename_i unit before found
    split at cut
    · cases cut
    · rename_i nonempty
      cases cut
      obtain ⟨skipped, split⟩ := exists_of_dropWhile found
      refine ⟨by simpa using nonempty, skipped.reverse, ?_⟩
      rw [← List.reverse_reverse text, split]
      simp

theorem beforeLastSlash_isSome {text start : List Nat} (nonempty : start ≠ [])
    (begins : start ++ [slash] <+: text) : (beforeLastSlash text).isSome := by
  obtain ⟨rest, rfl⟩ := begins
  have reversed : (start ++ [slash] ++ rest).reverse =
      rest.reverse ++ slash :: start.reverse := by simp
  unfold beforeLastSlash
  rw [reversed, List.dropWhile_append]
  cases rest.reverse.dropWhile fun unit => decide (unit ≠ slash) with
  | nil => simp [nonempty]
  | cons unit before => simp

theorem dirname_leadsTo {directory : List Nat} (absolute : directory.head? = some slash)
    (rest : List Nat) : LeadsTo (dirname directory) (directory ++ slash :: rest) := by
  obtain ⟨names, rfl⟩ := List.head?_eq_some_iff.mp absolute
  rw [dirname]
  split
  · exact ⟨names ++ slash :: rest, rfl⟩
  · rename_i unit before found
    split
    · exact ⟨names ++ slash :: rest, rfl⟩
    · obtain ⟨skipped, split⟩ := exists_of_dropWhile found
      have whole := @List.takeWhile_append_dropWhile _ (fun unit => decide (unit = slash))
        names.reverse
      rw [split] at whole
      generalize names.reverse.takeWhile (fun unit => decide (unit = slash)) = slashes at whole
      apply LeadsTo.of_begins
      refine ⟨skipped.reverse ++ slashes.reverse ++ slash :: rest, ?_⟩
      rw [← List.reverse_reverse names, ← whole]
      simp

end Text.Units
