import Mathlib.Data.List.TakeWhile

/-!
# Backtracking regular expressions

Matching follows the order in which a backtracking engine tries its
alternatives: the left branch of an alternative first, one more round of a
greedy star before leaving it, and leaving a lazy star before one more round.
The continuation decides whether an attempt succeeds, so the first success is
the match the engine reports.
-/

namespace Text

/-- Regular expressions over single-character tests, with numbered captures. -/
inductive Regex where
  | empty
  | char (test : Char → Bool)
  | seq (first second : Regex)
  | alt (first second : Regex)
  | star (greedy : Bool) (body : Regex)
  | capture (index : Nat) (body : Regex)

namespace Regex

abbrev Captures := List (Nat × List Char)

/-- A matcher takes the rest of the text and the captures to a continuation. -/
abbrev Matcher (β : Type) :=
  List Char → Captures → (List Char → Captures → Option β) → Option β

/-- Rounds of a star.  A round that consumes nothing is not repeated, so the
length of the text bounds the number of rounds. -/
def rounds {β : Type} (body : Matcher β) (greedy : Bool) : Nat → Matcher β
  | 0, text, captures, accept => accept text captures
  | budget + 1, text, captures, accept =>
      let again := body text captures fun rest found =>
        if rest.length < text.length then rounds body greedy budget rest found accept
        else none
      if greedy then again <|> accept text captures
      else accept text captures <|> again

def run {β : Type} : Regex → Matcher β
  | .empty, text, captures, accept => accept text captures
  | .char _, [], _, _ => none
  | .char test, head :: rest, captures, accept =>
      if test head then accept rest captures else none
  | .seq first second, text, captures, accept =>
      first.run text captures fun rest found => second.run rest found accept
  | .alt first second, text, captures, accept =>
      first.run text captures accept <|> second.run text captures accept
  | .star greedy body, text, captures, accept =>
      rounds body.run greedy (text.length + 1) text captures accept
  | .capture index body, text, captures, accept =>
      body.run text captures fun rest found =>
        accept rest ((index, text.take (text.length - rest.length)) :: found)

/-- The leftmost match in a text; capture `0` is the matched text itself. -/
def find (regex : Regex) : List Char → Option Captures
  | [] => (capture 0 regex).run [] [] fun _ found => some found
  | head :: rest =>
      ((capture 0 regex).run (head :: rest) [] fun _ found => some found) <|> regex.find rest

def findCapture (regex : Regex) (index : Nat) (text : List Char) : Option (List Char) :=
  (regex.find text).bind fun found => (found.find? fun entry => entry.1 == index).map (·.2)

/-- The matches from left to right, each starting where the one before it ended, for an
expression that does not match the empty text. -/
def findAll (regex : Regex) : Nat → List Char → List (List Char)
  | 0, _ => []
  | _, [] => []
  | budget + 1, head :: rest =>
      match regex.run (head :: rest) [] fun after _ => some after with
      | some after =>
          (head :: rest).take (rest.length + 1 - after.length) :: findAll regex budget after
      | none => findAll regex budget rest

/-- A capture of each of these matches. -/
def captureAll (regex : Regex) (index : Nat) : Nat → List Char → List (List Char)
  | 0, _ => []
  | _, [] => []
  | budget + 1, head :: rest =>
      match regex.run (head :: rest) [] fun after found => some (after, found) with
      | some (after, found) => (found.lookup index).toList ++ captureAll regex index budget after
      | none => captureAll regex index budget rest

def text (literal : String) : Regex :=
  literal.toList.foldr (fun char rest => .seq (.char (· == char)) rest) .empty

/-- A literal of lower-case letters, in any letter case. -/
def caseless (literal : String) : Regex :=
  literal.toList.foldr (fun char rest => .seq (.char (·.toLower == char)) rest) .empty

def many (test : Char → Bool) : Regex := .star true (.char test)

def lazily (test : Char → Bool) : Regex := .star false (.char test)

def atLeastOne (test : Char → Bool) : Regex := .seq (.char test) (many test)

/-- The expressions one after the other. -/
def all : List Regex → Regex
  | [] => .empty
  | [last] => last
  | first :: rest => .seq first (all rest)

end Regex

/-- Whether one text occurs in another. -/
def includes (text part : String) : Bool :=
  ((Regex.text part).find text.toList).isSome

/-- What the class `\s` matches. -/
def isSpace (char : Char) : Bool :=
  [0x09, 0x0a, 0x0b, 0x0c, 0x0d, 0x20, 0xa0, 0x1680, 0x2028, 0x2029, 0x202f, 0x205f, 0x3000,
    0xfeff].contains char.toNat ||
  (0x2000 ≤ char.toNat && char.toNat ≤ 0x200a)

/-- What the class `[\s\S]` matches. -/
def anyChar (_ : Char) : Bool := true

/-- Remove leading and trailing white space. -/
def trim (text : List Char) : List Char :=
  ((text.dropWhile isSpace).reverse.dropWhile isSpace).reverse

/-- Nothing is left of a text exactly if all of it is blank. -/
theorem trim_eq_nil_iff (text : List Char) :
    trim text = [] ↔ ∀ char ∈ text, isSpace char = true := by
  unfold trim
  rw [List.reverse_eq_nil_iff, List.dropWhile_eq_nil_iff]
  constructor
  · intro blank char membership
    rw [← List.takeWhile_append_dropWhile (p := isSpace) (l := text)] at membership
    rcases List.mem_append.mp membership with leading | rest
    · exact List.mem_takeWhile_imp leading
    · exact blank char (List.mem_reverse.mpr rest)
  · intro blank char membership
    exact blank char ((List.dropWhile_suffix isSpace).mem (List.mem_reverse.mp membership))

def EndsVisibly (text : List Char) : Prop :=
  ∃ start last, text = start ++ [last] ∧ isSpace last = false

theorem EndsVisibly.append {text : List Char} (ends : EndsVisibly text) (before : List Char) :
    EndsVisibly (before ++ text) := by
  obtain ⟨start, last, rfl, visible⟩ := ends
  exact ⟨before ++ start, last, by simp, visible⟩

/-- Such a text loses only its leading blanks. -/
theorem EndsVisibly.trim_eq {text : List Char} (ends : EndsVisibly text) :
    trim text = text.dropWhile isSpace := by
  obtain ⟨start, last, rfl, visible⟩ := ends
  have stays : (start ++ [last]).dropWhile isSpace = start.dropWhile isSpace ++ [last] := by
    rw [List.dropWhile_append]
    split
    · rename_i blank
      simp [List.isEmpty_iff.mp blank, visible]
    · rfl
  simp [trim, stays, visible]

/-- Of lines that end visibly, only the first loses anything: its leading blanks. -/
theorem trim_intercalate (separator first : List Char) (rest : List (List Char))
    (ends : ∀ line ∈ first :: rest, EndsVisibly line) :
    trim (separator.intercalate (first :: rest)) =
      separator.intercalate (first.dropWhile isSpace :: rest) := by
  have joined (line : List Char) : separator.intercalate (line :: rest) =
      line ++ (if rest = [] then [] else separator ++ separator.intercalate rest) := by
    split
    · rename_i single
      simp [single]
    · rename_i several
      rw [List.intercalate_cons_of_ne_nil several, List.append_assoc]
  have visibly : EndsVisibly (separator.intercalate (first :: rest)) := by
    clear joined
    induction rest generalizing first with
    | nil => simpa using ends first (by simp)
    | cons next rest ih =>
        rw [List.intercalate_cons_of_ne_nil (by simp)]
        refine EndsVisibly.append (ih next fun line membership => ?_) _
        exact ends line (by simp [List.mem_cons.mp membership])
  have kept : first.dropWhile isSpace ≠ [] := by
    obtain ⟨start, last, rfl, visible⟩ := ends first (by simp)
    intro blank
    have space := List.dropWhile_eq_nil_iff.mp blank last (by simp)
    simp [visible] at space
  rw [visibly.trim_eq, joined, joined, List.dropWhile_append, if_neg (by simpa using kept)]

/-- White space at the end is trimmed off. -/
theorem trim_append_space (text : List Char) {char : Char} (space : isSpace char = true) :
    trim (text ++ [char]) = trim text := by
  unfold trim
  rw [List.dropWhile_append]
  split
  · rename_i blank
    simp [List.isEmpty_iff.mp blank, space]
  · simp [space]

/-- The lines of a trimmed text: the first one has lost its leading blanks. -/
theorem splitOn_trim_intercalate {first : List Char} {rest : List (List Char)}
    (ends : ∀ line ∈ first :: rest, EndsVisibly line)
    (unbroken : ∀ line ∈ first :: rest, '\n' ∉ line) :
    (trim (['\n'].intercalate (first :: rest))).splitOn '\n' =
      first.dropWhile isSpace :: rest := by
  rw [trim_intercalate _ _ _ ends]
  refine List.splitOn_intercalate _ (fun line isLine newline => ?_) (by simp)
  rcases List.mem_cons.mp isLine with rfl | later
  · exact unbroken first (by simp) ((List.dropWhile_suffix _).mem newline)
  · exact unbroken line (by simp [later]) newline

end Text
