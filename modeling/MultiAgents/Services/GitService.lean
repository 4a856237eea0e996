import MultiAgents.Services.Clients

/-!
# The git service

Each operation is the sequence of commands the service runs.  A failed command
throws; the operations that catch the error are the ones that do so in the
service itself.
-/

namespace MultiAgents

open Effects Text

structure CommitInfo where
  hash : String
  message : String
  storyId : Option String := none
  deriving DecidableEq

structure PullRequestInfo where
  number : Nat
  url : String
  title : String
  body : String
  branch : String
  deriving DecidableEq

structure PullRequestStatus where
  state : String
  mergeable : Bool
  passed : Nat
  failed : Nat
  pending : Nat
  deriving DecidableEq

namespace GitService

/-- Run a git command; its output comes without blanks at either end. -/
def git (command : GitCommand) (cwd : String) : Program String := do
  match ← Request.issue (.git command cwd) with
  | .ok stdout => pure (String.ofList (trim stdout.toList))
  | .error message => throw s!"Git command failed: {message}"

def gh (command : GhCommand) (cwd : String) : Program String := do
  match ← Request.issue (.gh command cwd) with
  | .ok stdout => pure (String.ofList (trim stdout.toList))
  | .error message => throw s!"GitHub CLI failed: {message}"

def taskBranch (taskId : String) : String := s!"task/{taskId}"

def createBranch (taskId directory : String) : Program String := do
  let _ ← git .fetch directory
  let _ ← git (.checkoutNew (taskBranch taskId) "main") directory
  pure (taskBranch taskId)

def checkout (directory branch : String) : Program Unit := do
  let _ ← git (.checkout branch) directory

def getCurrentBranch (directory : String) : Program String :=
  git .abbrevRefHead directory

def hasChanges (directory : String) : Program Bool := do
  let status ← git .status directory
  pure (status != "")

/-- The paths of a status listing: what follows the third character of each line.
The listing has been trimmed, so its first line may have lost a leading blank. -/
def changedFiles (status : List Char) : List String :=
  if status = [] then []
  else
    ((status.splitOn '\n').filter fun line => trim line != []).map fun line =>
      String.ofList (trim (line.drop 3))

def getChangedFiles (directory : String) : Program (List String) := do
  let status ← git .status directory
  pure (changedFiles status.toList)

/-- The commit message, headed by the story's identifier and title when both are given. -/
def fullMessage (message : String) : Option (String × String) → String
  | some (storyId, storyTitle) =>
      if storyId ≠ "" ∧ storyTitle ≠ "" then s!"[{storyId}] {storyTitle}\n\n{message}"
      else message
  | none => message

def commit (directory message : String) (story : Option (String × String)) :
    Program CommitInfo := do
  let _ ← git .addAll directory
  let _ ← git (.commit (fullMessage message story)) directory
  let hash ← git .revParseHead directory
  pure ⟨hash, fullMessage message story, story.map (·.1)⟩

def pushedBranch (directory branch : String) : Program String :=
  if branch = "" then getCurrentBranch directory else pure branch

def push (directory branch : String) : Program Unit := do
  let currentBranch ← pushedBranch directory branch
  let _ ← git (.push currentBranch) directory

def commitAndPush (directory message : String) (story : Option (String × String)) :
    Program CommitInfo := do
  if ← hasChanges directory then
    let commitInfo ← commit directory message story
    push directory ""
    pure commitInfo
  else pure ⟨"", "No changes", none⟩

/-- Discard all uncommitted changes; a failure is only reported. -/
def discardChanges (directory : String) : Program Unit :=
  tryCatch (do
    let _ ← git .resetHard directory
    let _ ← git .cleanFd directory)
    fun _ => pure ()

/-- The first `maxLines` lines of a diff and a note on how many are left out. -/
def truncate (maxLines : Nat) (diff : String) : String :=
  let lines := diff.toList.splitOn '\n'
  if maxLines < lines.length then
    String.ofList (['\n'].intercalate (lines.take maxLines)) ++
      s!"\n\n... (truncated, {lines.length - maxLines} more lines)"
  else diff

def getFullDiff (directory : String) (maxLines : Nat) : Program String :=
  tryCatch (do
    let diff ← git .diffHead directory
    pure (truncate maxLines diff))
    fun _ => pure ""

def setBranchDescription (directory description : String) : Program Unit := do
  let branch ← getCurrentBranch directory
  let _ ← git (.describeBranch branch description) directory

def pullRequestUrl : Regex :=
  .seq (Regex.text "https://github.com/") (Regex.atLeastOne fun char => !isSpace char)

def pullRequestNumber : Regex :=
  .seq (Regex.text "/pull/") (.capture 1 (Regex.atLeastOne Char.isDigit))

def createPullRequest (directory title body baseBranch : String) : Program PullRequestInfo := do
  let currentBranch ← getCurrentBranch directory
  push directory currentBranch
  let output ← gh (.prCreate baseBranch currentBranch title body) directory
  match pullRequestUrl.findCapture 0 output.toList with
  | none => throw s!"Failed to parse PR URL from output: {output}"
  | some url =>
      let number := (pullRequestNumber.findCapture 1 url).elim 0 Json.digitsValue
      pure ⟨number, String.ofList url, title, body, currentBranch⟩

def mergePullRequest (directory : String) (number : Nat) : Program Unit := do
  let _ ← gh (.prMerge number "squash" true) directory

def countCheck (status : PullRequestStatus) (check : Json) :
    Except String PullRequestStatus := do
  let conclusion ← Value.member (some check) "conclusion"
  if conclusion.isText "SUCCESS" then pure { status with passed := status.passed + 1 }
  else if conclusion.isText "FAILURE" then pure { status with failed := status.failed + 1 }
  else pure { status with pending := status.pending + 1 }

def pullRequestStatus (result : String) : Except String PullRequestStatus := do
  match Json.parse result.toList with
  | none => throw "SyntaxError: not valid JSON"
  | some data =>
      let rollup := (← Value.member (some data) "statusCheckRollup").orElse (.arr [])
      let counted ← (← rollup.items).foldlM countCheck ⟨"", false, 0, 0, 0⟩
      match data.property "state" with
      | some (.str state) =>
          pure { counted with
            state := state.toLower
            mergeable := (data.property "mergeable").isText "MERGEABLE" }
      | _ => throw "TypeError: state is not a string"

def getPullRequestStatus (directory : String) (number : Nat) : Program PullRequestStatus := do
  let result ← gh (.prView number) directory
  Process.ofExcept (pullRequestStatus result)

end GitService

end MultiAgents
