import Mathlib.Data.List.Sort
import MultiAgents.Text.Dynamic

/-!
# Shared types

The records that tasks, repositories, stories and phase results are made of.
Fields filled from an agent's JSON without a check keep the JSON value.
-/

namespace MultiAgents

open Text

inductive TaskStatus where
  | pending
  | queued
  | running
  | waitingForApproval
  | paused
  | completed
  | failed
  | cancelled
  | interrupted
  deriving DecidableEq

inductive StoryStatus where
  | pending
  | inProgress
  | completed
  | failed
  deriving DecidableEq

/-- A small unit of work within a task. -/
structure Story where
  id : String
  title : String
  description : String
  status : StoryStatus := .pending
  filesToModify : Option (List String) := none
  filesToCreate : Option (List String) := none
  filesToRead : Option (List String) := none
  acceptanceCriteria : Option (List String) := none
  deriving DecidableEq

/-- What the phases read of a task. -/
structure Task where
  id : String
  title : String
  description : Option String := none
  deriving DecidableEq

def Task.text (task : Task) : String :=
  (task.description.filter fun text => text != "").getD task.title

structure RepositoryInfo where
  name : String
  type : String
  localPath : String
  executionOrder : Option Int := none
  deriving DecidableEq

/-- A judge's verdict.  Nothing restricts the JSON value to the three known texts. -/
inductive Verdict where
  | approved
  | rejected
  | needsRevision
  | other (value : Json)
  deriving DecidableEq

namespace Verdict

def ofJson (value : Json) : Verdict :=
  if value.isText "approved" then .approved
  else if value.isText "rejected" then .rejected
  else if value.isText "needs_revision" then .needsRevision
  else .other value

def isApproved : Verdict → Bool
  | .approved => true
  | _ => false

def isRejected : Verdict → Bool
  | .rejected => true
  | _ => false

theorem isApproved_eq_false {verdict : Verdict} (other : verdict ≠ .approved) :
    verdict.isApproved = false := by
  cases verdict <;> first | rfl | exact (other rfl).elim

theorem isRejected_eq_false {verdict : Verdict} (other : verdict ≠ .rejected) :
    verdict.isRejected = false := by
  cases verdict <;> first | rfl | exact (other rfl).elim

/-- How a verdict reads inside a message. -/
def text : Verdict → String
  | .approved => "approved"
  | .rejected => "rejected"
  | .needsRevision => "needs_revision"
  | .other (.str value) => value
  | .other _ => "[object Object]"

end Verdict

/-- A vulnerability reported by the SPY agent; `finding` is the reported entry. -/
structure VulnerabilityV2 where
  id : String
  taskId : String
  sessionId : String
  phase : String
  finding : Json

structure StoryResultV2 where
  id : String
  title : String
  description : String
  status : StoryStatus
  filesToModify : Option (List String)
  filesToCreate : Option (List String)
  filesToRead : Option (List String)
  acceptanceCriteria : Option (List String)
  iterations : Nat
  verdict : Verdict
  score : Value := none
  issues : Value := none
  commitHash : Option String := none
  vulnerabilities : List VulnerabilityV2 := []

/-- A story with no result yet: what the record of a result takes over from it. -/
def Story.toResult (story : Story) (status : StoryStatus) (iterations : Nat)
    (verdict : Verdict) : StoryResultV2 where
  id := story.id
  title := story.title
  description := story.description
  status := status
  filesToModify := story.filesToModify
  filesToCreate := story.filesToCreate
  filesToRead := story.filesToRead
  acceptanceCriteria := story.acceptanceCriteria
  iterations := iterations
  verdict := verdict

def StoryResultV2.toStory (result : StoryResultV2) : Story where
  id := result.id
  title := result.title
  description := result.description
  status := result.status
  filesToModify := result.filesToModify
  filesToCreate := result.filesToCreate
  filesToRead := result.filesToRead
  acceptanceCriteria := result.acceptanceCriteria

/-- What the Analysis phase found out about a task. -/
structure AnalysisData where
  summary : Value
  approach : Value
  risks : Value
  vulnerabilities : List VulnerabilityV2 := []

structure AnalysisResultV2 where
  success : Bool
  sessionId : String
  analysis : AnalysisData
  stories : List StoryResultV2
  branchName : String
  error : Option String := none

structure DeveloperResultV2 where
  success : Bool
  sessionId : String
  stories : List StoryResultV2
  totalCommits : Nat

/-- Compare two repositories as the sort of `determineWorkingDirectory` does. -/
def RepositoryInfo.precedes (a b : RepositoryInfo) : Bool :=
  if a.type = "backend" ∧ b.type ≠ "backend" then true
  else if b.type = "backend" ∧ a.type ≠ "backend" then false
  else a.executionOrder.getD 999 ≤ b.executionOrder.getD 999

def determineWorkingDirectory (repositories : List RepositoryInfo) (projectPath : String) :
    String :=
  match repositories.insertionSort (fun a b => a.precedes b) with
  | [] => projectPath
  | first :: _ => first.localPath

abbrev OrchestratorV2.determineWorkingDirectory := MultiAgents.determineWorkingDirectory

abbrev AnalysisPhaseV2.determineWorkingDirectory := MultiAgents.determineWorkingDirectory

abbrev DeveloperPhaseV2.determineWorkingDirectory := MultiAgents.determineWorkingDirectory

theorem determineWorkingDirectory_mem {repositories : List RepositoryInfo}
    (listed : repositories ≠ []) (projectPath : String) :
    determineWorkingDirectory repositories projectPath ∈
      repositories.map RepositoryInfo.localPath := by
  unfold determineWorkingDirectory
  split
  · rename_i sorted
    have same := List.perm_insertionSort (fun a b : RepositoryInfo => a.precedes b) repositories
    rw [sorted] at same
    exact absurd same.symm.eq_nil listed
  · rename_i first rest sorted
    have membership : first ∈ repositories.insertionSort fun a b => a.precedes b := by
      simp [sorted]
    exact List.mem_map_of_mem ((List.mem_insertionSort _).mp membership)

end MultiAgents
