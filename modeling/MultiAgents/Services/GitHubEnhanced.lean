import MultiAgents.Services.BridgeEvents

/-!
# Branch names and issue numbers

The name of a branch carries the issue it is for, which is read back from names of
branches and from messages of commits.  Numbers are exact.
-/

namespace MultiAgents.GitHubEnhancedService

open Text

inductive BranchPrefix where
  | feature
  | fix
  | refactor
  | docs
  | test
  | chore
  deriving DecidableEq

def BranchPrefix.text : BranchPrefix → String
  | .feature => "feat"
  | .fix => "fix"
  | .refactor => "refactor"
  | .docs => "docs"
  | .test => "test"
  | .chore => "chore"

structure BranchConfig where
  branchPrefix : BranchPrefix
  taskId : String
  title : String
  issueNumber : Option Nat := none

/-- Each run of a class as one hyphen. -/
def hyphenate (test : Char → Bool) (text : List Char) : List Char :=
  (text.splitBy fun first second => test first && test second).flatMap fun run =>
    if run.all test then ['-'] else run

def kebabTitle (runtime : Runtime) (title : String) : List Char :=
  let kept := (runtime.toLowerCase title).toList.filter fun char =>
    char.isLower || char.isDigit || isSpace char || char == '-'
  (hyphenate (· == '-') (hyphenate isSpace kept)).take 50

/-- An issue of number zero counts as none. -/
def generateBranchName (runtime : Runtime) (config : BranchConfig) : String :=
  let issue := match config.issueNumber with
    | some (number + 1) => s!"-issue-{number + 1}"
    | _ => ""
  s!"{config.branchPrefix.text}/{config.taskId}" ++ issue ++ "-" ++
    String.ofList (kebabTitle runtime config.title)

/-- `(\d+)`. -/
def number : Regex := .capture 1 (.atLeastOne Char.isDigit)

/-- `/#(\d+)/g`. -/
def hashNumber : Regex := .seq (.text "#") number

/-- `/issue-(\d+)/gi`. -/
def issueNumber : Regex := .seq (.caseless "issue-") number

/-- Such as `/fixes\s+#(\d+)/gi`. -/
def keywordNumber (keyword : String) : Regex :=
  .seq (.caseless keyword) (.seq (.atLeastOne isSpace) hashNumber)

def patterns : List Regex :=
  [hashNumber, issueNumber, keywordNumber "fixes", keywordNumber "closes",
    keywordNumber "resolves"]

def extractIssueNumbers (text : String) : List Nat :=
  (patterns.flatMap fun pattern =>
    (pattern.captureAll 1 text.toList.length text.toList).map Json.digitsValue).eraseDups

example : extractIssueNumbers "Fixes #12, #3 and ISSUE-0045x; fixes #3" = [12, 3, 45] := by
  decide +kernel

end MultiAgents.GitHubEnhancedService
