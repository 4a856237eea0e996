import MultiAgents.Effects.Process
import MultiAgents.Text.Regex

/-!
# Changes of a workspace

`git status --porcelain` prints one line for each entry: the states of the index
and of the work tree, a blank, and the path, after the path before a rename or
a copy.  Paths with blanks, quotes or other special characters would be quoted,
so the entries here have none.  `parseGitStatus` reads such a listing, and
`commitAndPush` goes on only if it finds a change in it.
-/

namespace MultiAgents.WorkspaceService

open Effects Text

/-- The state of a path in the index or in the work tree. -/
inductive Column where
  | unmodified
  | modified
  | typeChanged
  | added
  | deleted
  | renamed
  | copied
  | unmerged
  deriving DecidableEq

def Column.char : Column → Char
  | .unmodified => ' '
  | .modified => 'M'
  | .typeChanged => 'T'
  | .added => 'A'
  | .deleted => 'D'
  | .renamed => 'R'
  | .copied => 'C'
  | .unmerged => 'U'

inductive StatusCode where
  | tracked (index workTree : Column)
  | untracked
  | ignored
  deriving DecidableEq

namespace StatusCode

def index : StatusCode → Char
  | .tracked index _ => index.char
  | .untracked => '?'
  | .ignored => '!'

def workTree : StatusCode → Char
  | .tracked _ workTree => workTree.char
  | .untracked => '?'
  | .ignored => '!'

/-- Such an entry has the path before the rename or the copy as well. -/
def moves : StatusCode → Bool
  | .tracked index workTree => [index, workTree].any fun column => column ∈ [.renamed, .copied]
  | _ => false

end StatusCode

/-- A character that git prints in a path without quoting it. -/
def isPlain (char : Char) : Bool :=
  0x20 < char.toNat && char.toNat < 0x7f && char.toNat != 0x22 && char.toNat != 0x5c

/-- A path that git prints without quoting it. -/
structure PlainPath where
  text : List Char
  nonempty : text ≠ []
  plain : text.all isPlain

structure StatusEntry where
  code : StatusCode
  path : PlainPath
  original : Option PlainPath := none
  -- Unchanged paths are not listed.
  changed : code ≠ .tracked .unmodified .unmodified
  moved : original.isSome = code.moves

def arrow : List Char := [' ', '-', '>', ' ']

def StatusEntry.line (entry : StatusEntry) : List Char :=
  entry.code.index :: entry.code.workTree :: ' ' ::
    ((entry.original.elim [] fun original => original.text ++ arrow) ++ entry.path.text)

/-- The output of `git status --porcelain`. -/
def porcelain (entries : List StatusEntry) : List Char :=
  entries.flatMap fun entry => entry.line ++ ['\n']

structure GitStatusEntry where
  statusCode : List Char
  indexStatus : Char
  workTreeStatus : Char
  file : List Char
  originalFile : Option (List Char)
  deriving DecidableEq

structure ParsedGitStatus where
  entries : List GitStatusEntry := []
  modified : List (List Char) := []
  untracked : List (List Char) := []
  staged : List (List Char) := []
  deleted : List (List Char) := []
  added : List (List Char) := []
  allChanges : List (List Char) := []
  hasChanges : Bool := false
  hasStaged : Bool := false
  hasUnstaged : Bool := false
  hasUntracked : Bool := false
  deriving DecidableEq

/-- What is before and after the first arrow. -/
def breakArrow : List Char → Option (List Char × List Char)
  | [] => none
  | char :: rest =>
      if arrow <+: char :: rest then some ([], (char :: rest).drop arrow.length)
      else (breakArrow rest).map fun parts => (char :: parts.1, parts.2)

/-- The path of a line and the one before it; further arrows end the path. -/
def filesOf (text : List Char) : List Char × Option (List Char) :=
  match breakArrow text with
  | none => (text, none)
  | some (original, rest) => (((breakArrow rest).map Prod.fst).getD rest, some original)

namespace ParsedGitStatus

variable (result : ParsedGitStatus) (file : List Char)

def addStaged (indexStatus : Char) : ParsedGitStatus :=
  if indexStatus ≠ ' ' ∧ indexStatus ≠ '?' then
    let result := { result with staged := result.staged ++ [file], hasStaged := true }
    if indexStatus = 'A' then { result with added := result.added ++ [file] }
    else if indexStatus = 'D' then { result with deleted := result.deleted ++ [file] }
    else if indexStatus = 'M' then { result with modified := result.modified ++ [file] }
    else result
  else result

def addUnstaged (workTreeStatus : Char) : ParsedGitStatus :=
  if workTreeStatus ≠ ' ' ∧ workTreeStatus ≠ '?' then
    let result := { result with hasUnstaged := true }
    if workTreeStatus = 'M' ∧ file ∉ result.modified then
      { result with modified := result.modified ++ [file] }
    else if workTreeStatus = 'D' ∧ file ∉ result.deleted then
      { result with deleted := result.deleted ++ [file] }
    else result
  else result

def addLine : List Char → ParsedGitStatus
  | indexStatus :: workTreeStatus :: _ :: text =>
      let (file, originalFile) := filesOf (trim text)
      let result := { result with
        entries := result.entries ++
          [⟨[indexStatus, workTreeStatus], indexStatus, workTreeStatus, file, originalFile⟩] }
      if indexStatus = '?' ∧ workTreeStatus = '?' then
        { result with untracked := result.untracked ++ [file], hasUntracked := true }
      else if indexStatus = '!' ∧ workTreeStatus = '!' then result
      else (result.addStaged file indexStatus).addUnstaged file workTreeStatus
  -- Lines of less than three characters are skipped.
  | _ => result

/-- The paths of the four kinds of changes. -/
def changes : List (List Char) :=
  result.modified ++ result.untracked ++ result.deleted ++ result.added

end ParsedGitStatus

/-- Read the output of the command; there is none if it has failed. -/
def parseGitStatus (output : Option (List Char)) : ParsedGitStatus :=
  let output := trim (output.getD [])
  if output = [] then {}
  else
    let result := (output.splitOn '\n').foldl ParsedGitStatus.addLine {}
    let allChanges := result.changes.eraseDups
    { result with allChanges, hasChanges := allChanges ≠ [] }

inductive WorkspaceRequest where
  | status
  | stageAll
  | commit (message : String)
  | pushWithToken (branch : Option String)
  deriving DecidableEq

abbrev WorkspaceRequest.Answer : WorkspaceRequest → Type
  | .status => Except String (List Char)
  | _ => Bool

abbrev workspaceCalls : Signature := ⟨WorkspaceRequest, WorkspaceRequest.Answer⟩

abbrev WorkspaceRequest.issue (request : WorkspaceRequest) :
    Process workspaceCalls String request.Answer :=
  Process.call (S := workspaceCalls) request

structure CommitResult where
  committed : Bool
  pushed : Bool
  changes : ParsedGitStatus

def getChanges : Process workspaceCalls String ParsedGitStatus := do
  match ← WorkspaceRequest.issue .status with
  | .ok stdout => pure (parseGitStatus (some stdout))
  | .error _ => pure (parseGitStatus none)

def commitAndPush (message : String) (branch : Option String) :
    Process workspaceCalls String CommitResult := do
  let changes ← getChanges
  if !changes.hasChanges then return ⟨false, false, changes⟩
  let _ ← WorkspaceRequest.issue .stageAll
  let committed ← WorkspaceRequest.issue (.commit message)
  if !committed then return ⟨false, false, changes⟩
  let pushed ← WorkspaceRequest.issue (.pushWithToken branch)
  return ⟨committed, pushed, changes⟩

/-- A workspace with these entries; the commands after the listing may fail. -/
abbrev workspace : Environment workspaceCalls where
  State := List StatusEntry
  Choice := Bool
  serve entries succeeds
    | .status => (.ok (porcelain entries), entries)
    | .stageAll | .commit _ | .pushWithToken _ => (succeeds, entries)

end MultiAgents.WorkspaceService
