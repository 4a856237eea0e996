import MultiAgents.Server.JobData
import MultiAgents.Text.Containment

/-!
# Files of a workspace

The route that reads a file of the workspace of a task.  The path that is
requested is joined to that of the workspace, and what does not start with the
text of the latter is refused.
-/

namespace MultiAgents

open Text

/-- What is found at a place; reading a file may fail. -/
inductive FileNode where
  | file (content : Except String String) (size : Nat)
  | directory

/-- What stands at each place, given by the names from the root on. -/
structure FileSystem where
  node : List Path.Part → Option FileNode
  named : ∀ place, (node place).isSome = true → ∀ name ∈ place, Path.Plain name ∧ '/' ∉ name

/-- The server's configuration, with the tasks it knows and the files it can read. -/
structure WorkspaceServer where
  workspacesDir : String
  configured : workspacesDir ≠ ""
  workingDirectory : List Path.Part
  tasks : List String
  generated : ∀ taskId ∈ tasks, IsGeneratedId taskId
  files : FileSystem

inductive FileResponse where
  | refused (status : Nat) (error : String)
  | served (content path : String) (size : Nat)
  deriving DecidableEq

namespace WorkspaceServer

variable (server : WorkspaceServer)

def locate (path : String) : List Path.Part := Path.locate server.workingDirectory path.toList

/-- A path with a slash at the end does not lead to a file. -/
def find (path : String) : Option FileNode :=
  match server.files.node (server.locate path) with
  | some (.file content size) =>
      if path.toList.getLast? = some '/' then none else some (.file content size)
  | other => other

def workspacePath (taskId : String) : String := Path.join [server.workspacesDir, taskId]

def fullPath (taskId filePath : String) : String :=
  Path.join [server.workspacePath taskId, filePath]

/-- `GET /:taskId/workspace/file/*`. -/
def workspaceFile (taskId filePath : String) : FileResponse :=
  if taskId ∈ server.tasks then
    if filePath = "" then .refused 400 "File path required"
    else if (server.workspacePath taskId).toList.isPrefixOf
        (server.fullPath taskId filePath).toList then
      match server.find (server.fullPath taskId filePath) with
      | none => .refused 404 "File not found"
      | some .directory => .refused 400 "Path is a directory"
      | some (.file (.ok content) size) => .served content filePath size
      | some (.file (.error message) _) => .refused 500 message
    else .refused 403 "Access denied"
  else .refused 404 "Task not found"

end WorkspaceServer

end MultiAgents
