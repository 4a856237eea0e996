import Mathlib.Data.List.Infix
import MultiAgents.Text.Regex

/-!
# The matches of an expression in their order

A match at the beginning of a text leaves a rest of it.  `ends` lists the rests,
with the captures, in the order in which the engine comes to them, so a run is
the search for the first of them that its continuation accepts.
-/

namespace Text

theorem List.findSome?_flatMap {α β γ : Type*} (items : List α) (expand : α → List β)
    (found : β → Option γ) :
    (items.flatMap expand).findSome? found =
      items.findSome? fun item => (expand item).findSome? found := by
  induction items with
  | nil => rfl
  | cons item items ih =>
      rw [List.flatMap_cons, List.findSome?_append, ih, List.findSome?_cons]
      cases (expand item).findSome? found <;> rfl

namespace Regex

/-- What is left of the text after a match, and the captures. -/
abbrev End := List Char × Captures

def roundEnds (body : List Char → Captures → List End) (greedy : Bool) :
    Nat → List Char → Captures → List End
  | 0, text, captures => [(text, captures)]
  | budget + 1, text, captures =>
      let again := (body text captures).flatMap fun reached =>
        if reached.1.length < text.length then roundEnds body greedy budget reached.1 reached.2
        else []
      if greedy then again ++ [(text, captures)] else (text, captures) :: again

def ends : Regex → List Char → Captures → List End
  | .empty, text, captures => [(text, captures)]
  | .char _, [], _ => []
  | .char test, head :: rest, captures => if test head then [(rest, captures)] else []
  | .seq first second, text, captures =>
      (first.ends text captures).flatMap fun reached => second.ends reached.1 reached.2
  | .alt first second, text, captures => first.ends text captures ++ second.ends text captures
  | .star greedy body, text, captures =>
      roundEnds body.ends greedy (text.length + 1) text captures
  | .capture index body, text, captures =>
      (body.ends text captures).map fun reached =>
        (reached.1, (index, text.take (text.length - reached.1.length)) :: reached.2)

section Run

variable {β : Type}

def Tries (matcher : Matcher β) (ends : List Char → Captures → List End) : Prop :=
  ∀ text captures accept,
    matcher text captures accept = (ends text captures).findSome? fun reached =>
      accept reached.1 reached.2

theorem Tries.rounds {body : Matcher β} {bodyEnds : List Char → Captures → List End}
    (tries : Tries body bodyEnds) (greedy : Bool) (budget : Nat) :
    Tries (rounds body greedy budget) (roundEnds bodyEnds greedy budget) := by
  induction budget with
  | zero =>
      intro text captures accept
      simp [Regex.rounds, roundEnds]
  | succ budget ih =>
      intro text captures accept
      have again : (body text captures fun rest found =>
          if rest.length < text.length then Regex.rounds body greedy budget rest found accept
          else none) =
          ((bodyEnds text captures).flatMap fun reached =>
            if reached.1.length < text.length then
              roundEnds bodyEnds greedy budget reached.1 reached.2
            else []).findSome? fun reached => accept reached.1 reached.2 := by
        rw [tries, List.findSome?_flatMap]
        congr 1
        funext reached
        split
        · exact ih _ _ _
        · rfl
      cases greedy with
      | true =>
          simp only [Regex.rounds, roundEnds, if_true, again, List.findSome?_append,
            Option.orElse_eq_orElse, Option.orElse_eq_or]
          simp
      | false =>
          simp only [Regex.rounds, roundEnds, Bool.false_eq_true, if_false, again,
            List.findSome?_cons]
          cases accept text captures <;> rfl

theorem run_tries (regex : Regex) : Tries (regex.run : Matcher β) regex.ends := by
  induction regex with
  | empty =>
      intro text captures accept
      simp [run, ends]
  | char test =>
      intro text captures accept
      cases text with
      | nil => rfl
      | cons head rest => cases passes : test head <;> simp [run, ends, passes]
  | seq first second firstTries secondTries =>
      intro text captures accept
      rw [run, firstTries, ends, List.findSome?_flatMap]
      congr 1
      funext reached
      exact secondTries _ _ _
  | alt first second firstTries secondTries =>
      intro text captures accept
      rw [run, ends, List.findSome?_append, firstTries, secondTries, Option.orElse_eq_orElse,
        Option.orElse_eq_or]
  | star greedy body tries =>
      intro text captures accept
      exact tries.rounds greedy _ _ _ _
  | capture index body tries =>
      intro text captures accept
      rw [run, tries, ends, List.findSome?_map]
      rfl

end Run

theorem suffix_of_mem_roundEnds {body : List Char → Captures → List End} {greedy : Bool}
    (inside : ∀ text captures, ∀ reached ∈ body text captures, reached.1 <:+ text)
    {budget : Nat} {text : List Char} {captures : Captures} {reached : End}
    (membership : reached ∈ roundEnds body greedy budget text captures) : reached.1 <:+ text := by
  induction budget generalizing text captures with
  | zero =>
      rw [roundEnds, List.mem_singleton] at membership
      exact membership ▸ List.suffix_rfl
  | succ budget ih =>
      have split : reached = (text, captures) ∨ ∃ between ∈ body text captures,
          reached ∈ roundEnds body greedy budget between.1 between.2 := by
        cases greedy <;> simp only [roundEnds, if_true, Bool.false_eq_true, if_false,
          List.mem_append, List.mem_cons, List.mem_flatMap] at membership <;> grind
      rcases split with rfl | ⟨between, first, later⟩
      · exact List.suffix_rfl
      · exact (ih later).trans (inside _ _ _ first)

theorem suffix_of_mem_ends {regex : Regex} {text : List Char} {captures : Captures}
    {reached : End} (membership : reached ∈ regex.ends text captures) : reached.1 <:+ text := by
  induction regex generalizing text captures reached with
  | empty =>
      rw [ends, List.mem_singleton] at membership
      exact membership ▸ List.suffix_rfl
  | char test =>
      cases text with
      | nil => cases membership
      | cons head rest =>
          rw [ends] at membership
          split at membership
          · rw [List.mem_singleton] at membership
            exact membership ▸ List.suffix_cons _ _
          · cases membership
  | seq first second firstInside secondInside =>
      obtain ⟨between, matched, later⟩ := List.mem_flatMap.mp membership
      exact (secondInside later).trans (firstInside matched)
  | alt first second firstInside secondInside =>
      exact (List.mem_append.mp membership).elim firstInside secondInside
  | star greedy body inside =>
      exact suffix_of_mem_roundEnds (fun _ _ _ matched => inside matched) membership
  | capture index body inside =>
      obtain ⟨between, matched, rfl⟩ := List.mem_map.mp membership
      exact @inside text captures between matched

section Captures

variable {regex : Regex} {index budget : Nat} {text found : List Char}

theorem captureAll_cons (regex : Regex) (index budget : Nat) (head : Char) (rest : List Char) :
    regex.captureAll index (budget + 1) (head :: rest) =
      (regex.ends (head :: rest) []).head?.elim (regex.captureAll index budget rest) fun reached =>
        (reached.2.lookup index).toList ++ regex.captureAll index budget reached.1 := by
  rw [captureAll, run_tries]
  cases regex.ends (head :: rest) [] <;> rfl

theorem exists_of_mem_captureAll (membership : found ∈ regex.captureAll index budget text) :
    ∃ rest reached, rest <:+ text ∧ (regex.ends rest []).head? = some reached ∧
      reached.2.lookup index = some found := by
  induction budget generalizing text with
  | zero => simp [captureAll] at membership
  | succ budget ih =>
      cases text with
      | nil => simp [captureAll] at membership
      | cons head rest =>
          rw [captureAll_cons] at membership
          cases first : (regex.ends (head :: rest) []).head? with
          | none =>
              rw [first] at membership
              obtain ⟨later, reached, suffix, matched⟩ := ih membership
              exact ⟨later, reached, suffix.trans (List.suffix_cons _ _), matched⟩
          | some reached =>
              rw [first] at membership
              rcases List.mem_append.mp membership with here | later
              · exact ⟨head :: rest, reached, List.suffix_rfl, first, Option.mem_toList.mp here⟩
              · have inside := suffix_of_mem_ends (List.mem_of_head? first)
                obtain ⟨later, found, suffix, matched⟩ := ih later
                exact ⟨later, found, suffix.trans inside, matched⟩

/-- No match is passed over if none can begin inside another. -/
theorem mem_captureAll {starts : Char → Bool}
    (begins : ∀ head rest, starts head = false → regex.ends (head :: rest) [] = [])
    (once : ∀ head rest reached, (regex.ends (head :: rest) []).head? = some reached →
      ∃ taken, rest = taken ++ reached.1 ∧ ∀ char ∈ taken, starts char = false)
    (enough : text.length ≤ budget) {rest : List Char} {reached : End} (nonempty : rest ≠ [])
    (suffix : rest <:+ text) (matched : (regex.ends rest []).head? = some reached)
    (captured : reached.2.lookup index = some found) :
    found ∈ regex.captureAll index budget text := by
  induction budget generalizing text with
  | zero =>
      rw [List.length_eq_zero_iff.mp (Nat.le_zero.mp enough)] at suffix
      exact absurd (List.suffix_nil.mp suffix) nonempty
  | succ budget ih =>
      cases text with
      | nil => exact absurd (List.suffix_nil.mp suffix) nonempty
      | cons head others =>
          have enough : others.length ≤ budget := Nat.le_of_succ_le_succ enough
          rw [captureAll_cons]
          rcases List.suffix_cons_iff.mp suffix with rfl | suffix
          · rw [matched]
            exact List.mem_append_left _ (Option.mem_toList.mpr captured)
          · cases first : (regex.ends (head :: others) []).head? with
            | none => exact ih enough suffix
            | some earlier =>
                obtain ⟨taken, rfl, inside⟩ := once head others earlier first
                refine List.mem_append_right _ (ih ?_ ?_)
                · exact (List.suffix_append taken _).length_le.trans enough
                -- Otherwise the match would begin inside the earlier one.
                · rcases List.suffix_or_suffix_of_suffix suffix (List.suffix_append taken _) with
                    after | ⟨between, rfl⟩
                  · exact after
                  · cases between with
                    | nil => exact List.suffix_rfl
                    | cons char between =>
                        obtain ⟨before, split⟩ := suffix
                        rw [← List.append_assoc] at split
                        have isInside : char ∈ taken := by
                          rw [← List.append_cancel_right split]
                          simp
                        rw [List.cons_append, begins _ _ (inside char isInside)] at matched
                        cases matched

end Captures

theorem ends_letters (letter : Char → Char) (literal text : List Char) (captures : Captures) :
    (literal.foldr (fun char rest => Regex.seq (.char (letter · == char)) rest) .empty).ends text
        captures =
      if literal <+: text.map letter then [(text.drop literal.length, captures)] else [] := by
  induction literal generalizing text with
  | nil => simp [ends]
  | cons char rest ih =>
      cases text with
      | nil => simp [ends]
      | cons head text =>
          by_cases same : letter head = char
          · simp [ends, same, ih]
          · simp [ends, same, Ne.symm same]

@[simp]
theorem ends_text (literal : String) (text : List Char) (captures : Captures) :
    (Regex.text literal).ends text captures =
      if literal.toList <+: text then [(text.drop literal.toList.length, captures)] else [] := by
  have ends := ends_letters id literal.toList text captures
  rwa [List.map_id] at ends

theorem ends_caseless (literal : String) (text : List Char) (captures : Captures) :
    (caseless literal).ends text captures =
      if literal.toList <+: text.map Char.toLower then
        [(text.drop literal.toList.length, captures)] else [] :=
  ends_letters Char.toLower literal.toList text captures

/-- The rests of a text after zero, one and more characters of a class. -/
def along (test : Char → Bool) : List Char → List (List Char)
  | [] => [[]]
  | head :: rest => (head :: rest) :: if test head then along test rest else []

theorem roundEnds_char (test : Char → Bool) (greedy : Bool) {budget : Nat} {text : List Char}
    (enough : text.length < budget) (captures : Captures) :
    roundEnds (Regex.char test).ends greedy budget text captures =
      (if greedy then (along test text).reverse else along test text).map (·, captures) := by
  induction budget generalizing text with
  | zero => omega
  | succ budget ih =>
      cases text with
      | nil => cases greedy <;> simp [roundEnds, ends, along]
      | cons head rest =>
          have later := @ih rest (by simpa using enough)
          cases passes : test head <;> cases greedy <;>
            simp_all [roundEnds, ends, along]

theorem ends_many (test : Char → Bool) (text : List Char) (captures : Captures) :
    (many test).ends text captures = (along test text).reverse.map (·, captures) :=
  roundEnds_char test true (Nat.lt_succ_self _) captures

/-- Greedily as many characters of the class as there are, and then fewer. -/
theorem along_reverse (test : Char → Bool) (text : List Char) :
    ∃ fewer, (along test text).reverse = text.dropWhile test :: fewer ∧
      ∀ rest ∈ fewer, ∃ head later, rest = head :: later ∧ test head = true := by
  induction text with
  | nil => exact ⟨[], rfl, nofun⟩
  | cons head text ih =>
      obtain ⟨fewer, same, begun⟩ := ih
      cases passes : test head with
      | false => exact ⟨[], by simp [along, passes], nofun⟩
      | true =>
          refine ⟨fewer ++ [head :: text], by simp [along, passes, same], fun rest membership => ?_⟩
          rcases List.mem_append.mp membership with earlier | last
          · exact begun rest earlier
          · rw [List.mem_singleton] at last
            exact ⟨head, text, last, passes⟩

/-- A captured run of a class takes all that there is of it first. -/
theorem head?_ends_run (index : Nat) (test : Char → Bool) (text : List Char)
    (captures : Captures) :
    ((capture index (atLeastOne test)).ends text captures).head? =
      if text.head?.any test then
        some (text.dropWhile test, (index, text.takeWhile test) :: captures)
      else none := by
  cases text with
  | nil => rfl
  | cons head text =>
      cases passes : test head with
      | false => simp [ends, atLeastOne, passes]
      | true =>
          obtain ⟨fewer, same, -⟩ := along_reverse test text
          have first : ((atLeastOne test).ends (head :: text) captures).head? =
              some (text.dropWhile test, captures) := by
            rw [atLeastOne, ends, ends, if_pos passes, List.flatMap_singleton, ends_many, same]
            rfl
          have whole := @List.takeWhile_append_dropWhile _ test text
          have taken : text.take (text.length - (text.dropWhile test).length) =
              text.takeWhile test := by
            have sum := congrArg List.length whole
            rw [List.length_append] at sum
            rw [← sum, Nat.add_sub_cancel]
            nth_rewrite 2 [← whole]
            exact List.take_left
          have shorter : (text.dropWhile test).length ≤ text.length :=
            (List.dropWhile_suffix test).length_le
          rw [ends, List.head?_map, first, Option.map_some, List.length_cons,
            Nat.succ_sub shorter, List.take_succ_cons, taken]
          simp [passes]

end Regex

end Text
