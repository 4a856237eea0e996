import MultiAgents.Containers.Lists
import MultiAgents.Services.GitHubEnhanced
import MultiAgents.Text.Matching

/-!
# Issue numbers in texts

A number counts where it stands after a hash or after `issue-`.  No match of these
two patterns begins inside another one, so none is passed over, and what the other
patterns find stands after a hash as well.
-/

namespace MultiAgents.GitHubEnhancedService

open Containers Text Regex

/-- The digits that a text begins with, all of them, and what follows. -/
structure Run (text digits after : List Char) : Prop where
  split : text = digits ++ after
  nonempty : digits ≠ []
  digits : ∀ digit ∈ digits, digit.isDigit = true
  maximal : ∀ next, after.head? = some next → next.isDigit = false

/-- A number that a text has after a mark. -/
def WrittenAfter (isMark : List Char → Prop) (text : List Char) (value : Nat) : Prop :=
  ∃ before mark rest digits after, text = before ++ (mark ++ rest) ∧ isMark mark ∧
    Run rest digits after ∧ Json.digitsValue digits = value

def isHash (mark : List Char) : Prop := mark = ['#']

def isIssue (mark : List Char) : Prop :=
  mark.map Char.toLower = ['i', 's', 's', 'u', 'e', '-']

theorem head?_ends_number_iff {text : List Char} {captures : Captures} {reached : End} :
    (number.ends text captures).head? = some reached ↔
      ∃ digits, Run text digits reached.1 ∧ reached.2 = (1, digits) :: captures := by
  rw [number, head?_ends_run]
  constructor
  · intro found
    split at found
    · rename_i begins
      cases found
      refine ⟨text.takeWhile Char.isDigit, ⟨List.takeWhile_append_dropWhile.symm, ?_, ?_, ?_⟩, rfl⟩
      · cases text with
        | nil => cases begins
        | cons head text =>
            have isDigit : head.isDigit = true := begins
            simp [isDigit]
      · exact fun digit => List.mem_takeWhile_imp
      · intro next follows
        have stops := List.head?_dropWhile_not Char.isDigit text
        rw [follows] at stops
        simpa using stops
    · cases found
  · obtain ⟨after, found⟩ := reached
    rintro ⟨digits, ⟨rfl, nonempty, all, maximal⟩, rfl⟩
    obtain ⟨head, others, rfl⟩ := List.exists_cons_of_ne_nil nonempty
    have isDigit : head.isDigit = true := all head (by simp)
    have stops : after.dropWhile Char.isDigit = after ∧ after.takeWhile Char.isDigit = [] := by
      cases after with
      | nil => exact ⟨rfl, rfl⟩
      | cons next after => simp [maximal next rfl]
    rw [List.dropWhile_append_of_pos all, List.takeWhile_append_of_pos all, stops.1, stops.2,
      List.append_nil]
    simp [isDigit]

/-- An expression for marks that begin with a character of some kind and have no other of it. -/
structure Marks (regex : Regex) (isMark : List Char → Prop) (starts : Char → Bool) : Prop where
  ends : ∀ mark rest captures, isMark mark → regex.ends (mark ++ rest) captures = [(rest, captures)]
  marked : ∀ text captures, regex.ends text captures ≠ [] →
    ∃ mark rest, isMark mark ∧ text = mark ++ rest
  begins : ∀ mark, isMark mark → ∃ head rest, mark = head :: rest ∧ starts head = true ∧
    ∀ char ∈ rest, starts char = false
  noDigit : ∀ char, char.isDigit = true → starts char = false

section Marked

variable {regex : Regex} {isMark : List Char → Prop} {starts : Char → Bool}
  (marks : Marks regex isMark starts)
include marks

theorem Marks.head?_ends_iff {text : List Char} {captures : Captures} {reached : End} :
    ((regex.seq number).ends text captures).head? = some reached ↔
      ∃ mark rest digits, isMark mark ∧ text = mark ++ rest ∧ Run rest digits reached.1 ∧
        reached.2 = (1, digits) :: captures := by
  constructor
  · intro found
    have matched : regex.ends text captures ≠ [] := by
      intro none
      rw [Regex.ends, none] at found
      cases found
    obtain ⟨mark, rest, isMark, rfl⟩ := marks.marked text captures matched
    rw [Regex.ends, marks.ends mark rest captures isMark, List.flatMap_singleton,
      head?_ends_number_iff] at found
    obtain ⟨digits, run, captured⟩ := found
    exact ⟨mark, rest, digits, isMark, rfl, run, captured⟩
  · rintro ⟨mark, rest, digits, isMark, rfl, run, captured⟩
    rw [Regex.ends, marks.ends mark rest captures isMark, List.flatMap_singleton,
      head?_ends_number_iff]
    exact ⟨digits, run, captured⟩

/-- Whatever captures there were before, what is captured at some place of a text is a number
written after a mark. -/
theorem Marks.writtenAfter {text rest found : List Char} {captures : Captures} {reached : End}
    (suffix : rest <:+ text)
    (matched : ((regex.seq number).ends rest captures).head? = some reached)
    (captured : reached.2.lookup 1 = some found) :
    WrittenAfter isMark text (Json.digitsValue found) := by
  obtain ⟨before, rfl⟩ := suffix
  obtain ⟨mark, rest, digits, isMark, rfl, run, all⟩ := marks.head?_ends_iff.mp matched
  obtain rfl : digits = found := by
    rw [all] at captured
    exact Option.some_inj.mp captured
  exact ⟨before, mark, rest, digits, reached.1, rfl, isMark, run, rfl⟩

theorem Marks.mem_captureAll_iff {text : List Char} {value : Nat} :
    value ∈ ((regex.seq number).captureAll 1 text.length text).map Json.digitsValue ↔
      WrittenAfter isMark text value := by
  rw [List.mem_map]
  constructor
  · rintro ⟨found, membership, rfl⟩
    obtain ⟨rest, reached, suffix, matched, captured⟩ := exists_of_mem_captureAll membership
    exact marks.writtenAfter suffix matched captured
  · rintro ⟨before, mark, rest, digits, after, rfl, isMark, run, rfl⟩
    have matched : ((regex.seq number).ends (mark ++ rest) []).head? =
        some (after, [(1, digits)]) :=
      marks.head?_ends_iff.mpr ⟨mark, rest, digits, isMark, rfl, run, rfl⟩
    have nonempty : mark ++ rest ≠ [] := by
      obtain ⟨head, others, rfl, -⟩ := marks.begins mark isMark
      exact List.cons_ne_nil _ _
    refine ⟨digits, @mem_captureAll _ _ _ _ _ starts ?_ ?_ le_rfl _ _ nonempty
      (List.suffix_append before _) matched rfl, rfl⟩
    · intro head rest noStart
      by_cases unmarked : regex.ends (head :: rest) [] = []
      · rw [Regex.ends, unmarked]
        rfl
      · obtain ⟨mark, others, isMark, split⟩ := marks.marked _ _ unmarked
        obtain ⟨first, mark, rfl, isStart, -⟩ := marks.begins mark isMark
        obtain ⟨rfl, -⟩ := List.cons_eq_cons.mp split
        exact absurd (isStart.symm.trans noStart) (by decide)
    · intro head rest reached matched
      obtain ⟨mark, others, digits, isMark, split, run, -⟩ := marks.head?_ends_iff.mp matched
      obtain ⟨first, mark, rfl, -, inside⟩ := marks.begins mark isMark
      rw [List.cons_append] at split
      obtain ⟨rfl, rfl⟩ := List.cons_eq_cons.mp split
      refine ⟨mark ++ digits, by rw [run.split, List.append_assoc], fun char isInside => ?_⟩
      rcases List.mem_append.mp isInside with inMark | isDigit
      · exact inside char inMark
      · exact marks.noDigit char (run.digits char isDigit)

end Marked

theorem hash_marks : Marks (.text "#") isHash (· == '#') where
  ends := by
    rintro mark rest captures rfl
    rw [ends_text, if_pos ⟨rest, rfl⟩]
    rfl
  marked := by
    intro text captures matched
    rw [ends_text] at matched
    split at matched
    · rename_i begins
      obtain ⟨rest, rfl⟩ := begins
      exact ⟨['#'], rest, rfl, rfl⟩
    · exact absurd rfl matched
  begins := by
    rintro mark rfl
    exact ⟨'#', [], rfl, rfl, by simp⟩
  noDigit := by
    intro char isDigit
    rw [beq_eq_false_iff_ne]
    rintro rfl
    cases isDigit

theorem toLower_of_isDigit {char : Char} (isDigit : char.isDigit = true) :
    char.toLower = char := by
  simp only [Char.isDigit, Bool.and_eq_true, decide_eq_true_eq] at isDigit
  unfold Char.toLower
  rw [dif_neg]
  intro isUpper
  exact absurd (UInt32.le_trans isUpper.1 isDigit.2) (by decide)

theorem issue_marks : Marks (.caseless "issue-") isIssue (·.toLower == 'i') where
  ends := by
    intro mark rest captures isMark
    have size : mark.length = 6 := by simpa using congrArg List.length isMark
    rw [ends_caseless, List.map_append, isMark, if_pos ⟨_, rfl⟩]
    exact congrArg (fun rest => [(rest, captures)]) (List.drop_left' size)
  marked := by
    intro text captures matched
    rw [ends_caseless] at matched
    split at matched
    · rename_i begins
      refine ⟨text.take 6, text.drop 6, ?_, (List.take_append_drop 6 text).symm⟩
      rw [isIssue, List.map_take]
      exact (List.prefix_iff_eq_take.mp begins).symm
    · exact absurd rfl matched
  begins := by
    intro mark isMark
    cases mark with
    | nil => cases isMark
    | cons head rest =>
        obtain ⟨first, others⟩ := List.cons_eq_cons.mp isMark
        refine ⟨head, rest, rfl, beq_iff_eq.mpr first, fun char isThere => ?_⟩
        have lower : char.toLower ∈ ['s', 's', 'u', 'e', '-'] :=
          others ▸ List.mem_map_of_mem isThere
        rw [beq_eq_false_iff_ne]
        intro same
        rw [same] at lower
        revert lower
        decide
  noDigit := by
    intro char isDigit
    rw [beq_eq_false_iff_ne, toLower_of_isDigit isDigit]
    rintro rfl
    cases isDigit

/-- A keyword is followed by a hash. -/
theorem writtenAfter_of_keyword {keyword : String} {text : List Char} {value : Nat}
    (found : value ∈ ((keywordNumber keyword).captureAll 1 text.length text).map
      Json.digitsValue) : WrittenAfter isHash text value := by
  obtain ⟨digits, membership, rfl⟩ := List.mem_map.mp found
  obtain ⟨rest, reached, suffix, matched, captured⟩ := exists_of_mem_captureAll membership
  rw [keywordNumber, Regex.ends, List.head?_flatMap] at matched
  obtain ⟨before, afterKeyword, others, split, matched, -⟩ := List.findSome?_eq_some_iff.mp matched
  have inText := (suffix_of_mem_ends (split ▸ List.mem_append_cons_self)).trans suffix
  rw [Regex.ends, List.head?_flatMap] at matched
  obtain ⟨before, afterSpace, others, split, matched, -⟩ := List.findSome?_eq_some_iff.mp matched
  have inText := (suffix_of_mem_ends (split ▸ List.mem_append_cons_self)).trans inText
  exact hash_marks.writtenAfter inText matched captured

theorem WrittenAfter.imp {isMark others : List Char → Prop}
    (implies : ∀ mark, isMark mark → others mark) {text : List Char} {value : Nat}
    (written : WrittenAfter isMark text value) : WrittenAfter others text value := by
  obtain ⟨before, mark, rest, digits, after, split, isMark, run⟩ := written
  exact ⟨before, mark, rest, digits, after, split, implies mark isMark, run⟩

theorem mem_extractIssueNumbers_iff {text : String} {value : Nat} :
    value ∈ extractIssueNumbers text ↔
      WrittenAfter (fun mark => isHash mark ∨ isIssue mark) text.toList value := by
  rw [extractIssueNumbers, List.mem_eraseDups, List.mem_flatMap]
  constructor
  · rintro ⟨pattern, isPattern, found⟩
    simp only [patterns, List.mem_cons, List.not_mem_nil, or_false] at isPattern
    rcases isPattern with rfl | rfl | rfl | rfl | rfl
    · exact (hash_marks.mem_captureAll_iff.mp found).imp fun _ => .inl
    · exact (issue_marks.mem_captureAll_iff.mp found).imp fun _ => .inr
    all_goals exact (writtenAfter_of_keyword found).imp fun _ => .inl
  · rintro ⟨before, mark, rest, digits, after, split, isHash | isIssue, run⟩
    · exact ⟨hashNumber, by simp [patterns], hash_marks.mem_captureAll_iff.mpr
        ⟨before, mark, rest, digits, after, split, isHash, run⟩⟩
    · exact ⟨issueNumber, by simp [patterns], issue_marks.mem_captureAll_iff.mpr
        ⟨before, mark, rest, digits, after, split, isIssue, run⟩⟩

/-- The name of a branch has the number between two hyphens. -/
theorem writtenAfter_branchName (runtime : Runtime) {config : BranchConfig} {number : Nat}
    (given : config.issueNumber = some number) (positive : 0 < number) :
    WrittenAfter isIssue (generateBranchName runtime config).toList number := by
  obtain ⟨number, rfl⟩ := Nat.exists_eq_add_one_of_ne_zero positive.ne'
  refine ⟨(config.branchPrefix.text ++ "/" ++ config.taskId ++ "-").toList, "issue-".toList,
    Nat.toDigits 10 (number + 1) ++ '-' :: kebabTitle runtime config.title,
    Nat.toDigits 10 (number + 1), '-' :: kebabTitle runtime config.title, ?_, rfl,
    ⟨rfl, Nat.toDigits_ne_nil, ?_, ?_⟩, Nat.ofDigitChars_ten_toDigits⟩
  · rw [generateBranchName, given]
    simp [Nat.repr_eq_ofList_toDigits, toString]
  · exact fun digit isDigit => Nat.isDigit_of_mem_toDigits (by decide) (by decide) isDigit
  · rintro next follows
    obtain rfl : '-' = next := Option.some_inj.mp follows
    rfl

/-- What is extracted from a text are, each once, the numbers that stand after a hash or `issue-`;
the one that a branch was named for is among them. -/
theorem extractIssueNumbers_exact (runtime : Runtime) (text : String) (config : BranchConfig) :
    (extractIssueNumbers text).Nodup ∧
    (∀ value, value ∈ extractIssueNumbers text ↔
      WrittenAfter (fun mark => isHash mark ∨ isIssue mark) text.toList value) ∧
    ∀ number, config.issueNumber = some number → 0 < number →
      number ∈ extractIssueNumbers (generateBranchName runtime config) := by
  refine ⟨nodup_eraseDups _, fun value => mem_extractIssueNumbers_iff, ?_⟩
  intro number given positive
  rw [mem_extractIssueNumbers_iff]
  exact (writtenAfter_branchName runtime given positive).imp fun _ => .inr

end MultiAgents.GitHubEnhancedService
