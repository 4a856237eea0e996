import Mathlib.Data.List.Basic

/-!
# Lines

A text as its lines, and those of them that are neither blank nor comments, as
in a file of assignments.
-/

namespace Text

def lines (text : List Char) : List (List Char) := text.splitOn '\n'

def isBlank (line : List Char) : Bool := line.all Char.isWhitespace

/-- The first character that is no space is a hash. -/
def isComment (line : List Char) : Bool := (line.dropWhile Char.isWhitespace).head? == some '#'

def isEntry (line : List Char) : Bool := !isBlank line && !isComment line

/-- The lines that are neither blank nor comments. -/
def entries (text : List Char) : List (List Char) := (lines text).filter isEntry

/-- The lines after the first. -/
def laterLines (text : List Char) : List (List Char) := (lines text).tail

def firstLine (text : List Char) : List Char := (lines text).headD []

theorem lines_eq (text : List Char) : lines text = firstLine text :: laterLines text := by
  unfold firstLine laterLines lines
  cases split : text.splitOn '\n' with
  | nil => exact absurd split (List.splitOn_ne_nil _ _)
  | cons first rest => rfl

theorem lines_break (before after : List Char) :
    lines (before ++ '\n' :: after) = lines before ++ lines after :=
  List.splitOn_append_cons_self before after

@[simp]
theorem entries_break (before after : List Char) :
    entries (before ++ '\n' :: after) = entries before ++ entries after := by
  unfold entries
  rw [lines_break, List.filter_append]

@[simp]
theorem entries_nil : entries [] = [] := by decide

/-- A text that ends with a break is read apart from what follows. -/
theorem entries_append {text : List Char} (closed : text.getLast? = some '\n')
    (rest : List Char) : entries (text ++ rest) = entries text ++ entries rest := by
  obtain ⟨before, rfl⟩ := List.getLast?_eq_some_iff.mp closed
  rw [List.append_assoc, List.singleton_append, entries_break, entries_break, entries_nil,
    List.append_nil]

/-- A line that starts with a character that is neither a space nor a hash. -/
theorem isEntry_cons {char : Char} (visible : char.isWhitespace = false) (read : char ≠ '#')
    (rest : List Char) : isEntry (char :: rest) = true := by
  simp [isEntry, isBlank, isComment, visible, read]

/-- What stands before a text without a break stands before its first line. -/
theorem lines_append {start : List Char} (unbroken : '\n' ∉ start) (text : List Char) :
    lines (start ++ text) = (start ++ firstLine text) :: laterLines text := by
  induction start with
  | nil => exact lines_eq text
  | cons char rest ih =>
      rw [List.mem_cons, not_or] at unbroken
      unfold lines at ih ⊢
      rw [List.cons_append, List.splitOn_cons_eq_if_modifyHead,
        if_neg (by simpa using Ne.symm unbroken.1), ih unbroken.2]
      rfl

theorem lines_of_not_mem {text : List Char} (unbroken : '\n' ∉ text) : lines text = [text] :=
  List.splitOn_eq_singleton unbroken

end Text
