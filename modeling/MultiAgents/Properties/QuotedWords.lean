import MultiAgents.Text.Shell

/-!
# Texts in commands

The git service puts messages, titles, bodies and descriptions between double
quotes, with a backslash before each double quote of theirs.  Inside double
quotes the shell also looks at dollar signs, backquotes and backslashes, so a
text is passed on as it is exactly if it is safe in that respect.
-/

namespace MultiAgents

open Text

/-- A word of a command line, which begins after a blank, and what follows it. -/
structure CommandWord where
  word : List Char
  after : List Char

namespace CommandWord

def Denotes (shell : Shell) (place : CommandWord) (argument : String) : Prop :=
  shell.read .unquoted (place.word ++ place.after) = some (argument.toList, place.after)

end CommandWord

namespace GitService

/-- `"${text.replace(/"/g, '\\"')}"`. -/
def quoted (text : String) : List Char := '"' :: Shell.escapeQuotes text.toList ++ ['"']

/-- `"${text.replace(/"/g, '\\"').replace(/\n/g, '\\n')}"`. -/
def quotedBody (text : String) : List Char :=
  '"' :: Shell.escapeBreaks (Shell.escapeQuotes text.toList) ++ ['"']

/-- `git commit -m`. -/
def commitWord (fullMessage : String) : CommandWord where
  word := quoted fullMessage
  after := []

/-- `git config branch.${branch}.description`. -/
def descriptionWord (description : String) : CommandWord where
  word := quoted description
  after := []

def draftFlag (draft : Bool) : String := if draft then "--draft" else ""

/-- `gh pr create --base ${baseBranch} --head ${currentBranch} --title`. -/
def titleWord (title body : String) (draft : Bool) : CommandWord where
  word := quoted title
  after := " --body ".toList ++ quotedBody body ++ ' ' :: (draftFlag draft).toList

def bodyWord (body : String) (draft : Bool) : CommandWord where
  word := quotedBody body
  after := ' ' :: (draftFlag draft).toList

theorem read_quote (shell : Shell) (after : List Char) :
    shell.read .unquoted ('"' :: after) = shell.read .double after := by
  rw [Shell.read.eq_def]
  simp [Shell.separators]

theorem quoted_denotes_iff (shell : Shell) (text : String) {after : List Char}
    (ends : Shell.EndsWord after) :
    CommandWord.Denotes shell ⟨quoted text, after⟩ text ↔
      shell.safe text.toList = true := by
  have split : quoted text ++ after = '"' :: (Shell.escapeQuotes text.toList ++ '"' :: after) := by
    simp [quoted]
  unfold CommandWord.Denotes
  rw [split, read_quote]
  exact Shell.read_escapeQuotes_iff shell text.toList ends

theorem quotedBody_denotes_iff (shell : Shell) (text : String) {after : List Char}
    (ends : Shell.EndsWord after) :
    CommandWord.Denotes shell ⟨quotedBody text, after⟩ text ↔
      shell.safe text.toList = true ∧ '\n' ∉ text.toList := by
  have split : quotedBody text ++ after =
      '"' :: (Shell.escapeBreaks (Shell.escapeQuotes text.toList) ++ '"' :: after) := by
    simp [quotedBody]
  unfold CommandWord.Denotes
  rw [split, read_quote]
  exact Shell.read_escapeBreaks_iff shell text.toList ends

theorem endsWord_nil : Shell.EndsWord [] := by
  intro char none
  cases none

theorem endsWord_blank (rest : List Char) : Shell.EndsWord (' ' :: rest) := by
  intro char first
  cases first
  decide

end GitService

open GitService

/-- Each text that the service puts into a command is passed on as one argument that equals it,
with nothing expanded, exactly if it is safe between double quotes; a body must also be free of
line breaks. -/
theorem escaped_words_denote_iff (shell : Shell)
    (fullMessage description title body : String) (draft : Bool) :
    ((commitWord fullMessage).Denotes shell fullMessage ↔
      shell.safe fullMessage.toList = true) ∧
    ((descriptionWord description).Denotes shell description ↔
      shell.safe description.toList = true) ∧
    ((titleWord title body draft).Denotes shell title ↔
      shell.safe title.toList = true) ∧
    ((bodyWord body draft).Denotes shell body ↔
      shell.safe body.toList = true ∧ '\n' ∉ body.toList) := by
  refine ⟨?_, ?_, ?_, ?_⟩
  · exact quoted_denotes_iff shell fullMessage endsWord_nil
  · exact quoted_denotes_iff shell description endsWord_nil
  · exact quoted_denotes_iff shell title (endsWord_blank _)
  · exact quotedBody_denotes_iff shell body (endsWord_blank _)

/-- A variable and a command are expanded, of two backslashes one is left, and after a backslash
a quote closes the word, so that what follows is a command of its own. -/
theorem words_denote_other_texts :
    (∀ shell : Shell, ¬(commitWord "Price in $EUR").Denotes shell "Price in $EUR" ∧
      ¬(commitWord "Add `id`").Denotes shell "Add `id`") ∧
    Shell.read ⟨true⟩ .unquoted (commitWord "Fix C:\\\\temp").word =
      some ("Fix C:\\temp".toList, []) ∧
    Shell.read ⟨true⟩ .unquoted (commitWord "Fix \\\"; id; #").word =
      some ("Fix \\".toList, "; id; #\"".toList) := by
  refine ⟨?_, by decide +kernel, by decide +kernel⟩
  rintro ⟨_ | _⟩
  · unfold CommandWord.Denotes
    decide +kernel
  · unfold CommandWord.Denotes
    decide +kernel

end MultiAgents
