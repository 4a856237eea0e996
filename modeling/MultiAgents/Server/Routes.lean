import MultiAgents.Server.Worker

/-!
# The task routes

The routes that start, interrupt and cancel the execution of tasks.  A route that
throws outside its own handlers gives no answer.
-/

namespace MultiAgents

open Effects Text

def TaskStatus.name : TaskStatus → String
  | .pending => "pending"
  | .queued => "queued"
  | .running => "running"
  | .waitingForApproval => "waiting_for_approval"
  | .paused => "paused"
  | .completed => "completed"
  | .failed => "failed"
  | .cancelled => "cancelled"
  | .interrupted => "interrupted"

namespace Routes

def findTask (taskId : String) : ServerProgram (Option TaskRow) :=
  runByServer (TaskRepository.findById taskId)

def updateStatus (taskId : String) (status : TaskStatus) : ServerProgram Unit :=
  runByServer (TaskRepository.write taskId (.updateStatus status))

def getProject (row : TaskRow) : ServerProgram (Option ProjectRecord) :=
  match row.projectId with
  | some projectId => .attempt (ServerRequest.issue (.getProject projectId))
  | none => pure none

def findRepositories (row : TaskRow) : ServerProgram (List RepositoryRecord) :=
  .attempt (ServerRequest.issue (.findRepositories (row.projectId.getD "")))

def enqueue (taskId : String) (plan : RunPlan) : ServerProgram TaskResponse :=
  tryCatch (do
    let _ ← Process.attempt (ServerRequest.issue (.addJob plan.queue plan.data plan.priority))
    Process.attempt (ServerRequest.issue .queueStats)
    updateStatus taskId .queued
    pure .queued)
  fun message => do
    updateStatus taskId .failed
    pure (.refused 500 ("Failed to queue task: " ++ message))

/-- Keep track of an execution and add its job. -/
def startRun (taskId : String) (plan : RunPlan) : ServerProgram TaskResponse := do
  ServerRequest.issue (.setExecution taskId (some {}))
  updateStatus taskId .running
  enqueue taskId plan

/-- `!prompt || prompt.trim().length < 5`; what is not a text cannot be trimmed. -/
def requirePrompt (prompt : Value) (error : String) (accepted : ServerProgram TaskResponse) :
    ServerProgram TaskResponse :=
  if promptAccepted prompt then accepted
  else match prompt with
    | some (.str _) => pure (.refused 400 error)
    | _ => if prompt.truthy then throw "TypeError: prompt.trim is not a function"
        else pure (.refused 400 error)

def promptText : Value → String
  | some (.str prompt) => String.ofList (trim prompt.toList)
  | _ => ""

variable (config : ServerConfig)

def makeWorkspace (path : String) : ServerProgram Unit := do
  let present ← ServerRequest.issue (.directoryExists path)
  if present then pure () else Process.attempt (ServerRequest.issue (.makeDirectory path))

/-- The repository of the task, which is looked up if those of the project are not used. -/
def fallbackRepository (found : Lookup) : ServerProgram (Option RepositoryRecord) :=
  if found.usesProjectRepositories then pure none
  else match found.row.repositoryId.filter fun id => id != "" with
    | some repositoryId => .attempt (ServerRequest.issue (.getRepository repositoryId))
    | none => pure none

def cloneMissing (repo : RepositoryInfo) : ServerProgram Unit := do
  let present ← ServerRequest.issue (.directoryExists repo.localPath)
  if present then pure ()
  else Process.attempt (ServerRequest.issue (.cloneRepository repo.localPath))

def startIn (taskId userId : String) (row : TaskRow) (project : ProjectRecord) :
    ServerProgram TaskResponse := do
  let workspacePath := Path.join [config.workspacesDir, taskId]
  let token ← Process.attempt (ServerRequest.issue (.getUserGitHubToken userId))
  makeWorkspace workspacePath
  let projectRepositories ← findRepositories row
  let found : Lookup := { row, project := some project, projectRepositories, token }
  let repository ← fallbackRepository found
  let found := { found with repository }
  forM (startRepositories workspacePath found) cloneMissing
  Process.attempt (ServerRequest.issue .connect)
  startRun taskId (startPlan config.workspacesDir taskId userId found project)

def start (taskId userId : String) (prompt : Value) : ServerProgram TaskResponse :=
  requirePrompt prompt "prompt required - describe what you want the AI to do" do
    match ← findTask taskId with
    | none => pure (.refused 404 "Task not found")
    | some row =>
        Process.attempt (ServerRequest.issue (.describeTask taskId (promptText prompt)))
        match ← getProject row with
        | none => pure (.refused 404 "Project not found")
        | some project => startIn config taskId userId row project

def resumeIn (taskId userId : String) (row : TaskRow) (project : ProjectRecord) :
    ServerProgram TaskResponse := do
  let token ← Process.attempt (ServerRequest.issue (.getUserGitHubToken userId))
  let present ← ServerRequest.issue (.directoryExists (Path.join [config.workspacesDir, taskId]))
  if present then
    let projectRepositories ← findRepositories row
    Process.attempt (ServerRequest.issue .connect)
    let found : Lookup := { row, project := some project, projectRepositories, token }
    match resumePoint row with
    | .error response => pure response
    | .ok point =>
        startRun taskId (resumePlan config.workspacesDir taskId userId found project point)
  else pure (.refused 400 "Workspace not found")

def resume (taskId userId : String) : ServerProgram TaskResponse := do
  match ← findTask taskId with
  | none => pure (.refused 404 "Task not found")
  | some row =>
      if row.status.isResumable then
        match ← getProject row with
        | none => pure (.refused 404 "Project not found")
        | some project => resumeIn config taskId userId row project
      else pure (.refused 400 ("Cannot resume task with status '" ++ row.status.name ++ "'"))

def continueIn (originalTaskId newTaskId userId : String) (row : TaskRow) (context : String) :
    ServerProgram TaskResponse := do
  Process.attempt (ServerRequest.issue (.createTask newTaskId ("Continue: " ++ row.title)
    (some context) row.projectId row.repositoryId))
  match ← getProject row with
  | none => pure (.refused 404 "Project not found")
  | some project =>
      let token ← Process.attempt (ServerRequest.issue (.getUserGitHubToken userId))
      let projectRepositories ← findRepositories row
      Process.attempt (ServerRequest.issue .connect)
      let found : Lookup :=
        { row, project := some project, projectRepositories, token, context := some context }
      startRun newTaskId
        (continuePlan config.workspacesDir originalTaskId newTaskId userId found project)

def continueWithContext (originalTaskId newTaskId userId : String) (prompt : Value) :
    ServerProgram TaskResponse :=
  requirePrompt prompt "prompt required - describe what you want the AI to do next" do
    match ← findTask originalTaskId with
    | none => pure (.refused 404 "Original task not found")
    | some row =>
        if row.status.isContinuable then
          match ← Process.attempt (ServerRequest.issue (.buildTaskContext originalTaskId)) with
          | none => pure (.refused 500 "Failed to build context from original task")
          | some context => continueIn config originalTaskId newTaskId userId row context
        else pure (.refused 400 ("Cannot continue task with status '" ++ row.status.name ++
          "'. Use /continue for paused tasks."))

/-- Errors of the abort are ignored. -/
def abortExecution (taskId : String) : ServerProgram Unit := do
  match ← ServerRequest.issue (.getExecution taskId) with
  | none => pure ()
  | some execution =>
      ServerRequest.issue (.work (.unregisterSession execution.sessionId))
      let _ ← ServerRequest.issue (.work (.abortSession execution.sessionId))
      ServerRequest.issue (.setExecution taskId none)

def projectOf (row : TaskRow) :
    ServerProgram (Option ProjectRecord × List RepositoryRecord) := do
  match ← getProject { row with projectId := row.projectId.filter fun id => id != "" } with
  | none => pure (none, [])
  | some project =>
      let projectRepositories ← findRepositories row
      pure (some project, projectRepositories)

def retryRun (taskId userId : String) (phase : Phase) (options : Json) (row : TaskRow) :
    ServerProgram TaskResponse := do
  abortExecution taskId
  let token ← Process.attempt (ServerRequest.issue (.getUserGitHubToken userId))
  let (project, projectRepositories) ← projectOf row
  updateStatus taskId .running
  let plan := retryPlan config.workspacesDir taskId userId phase options
    { row, project, projectRepositories, token }
  let _ ← Process.attempt (ServerRequest.issue (.addJob plan.queue plan.data plan.priority))
  pure .retrying

def retryFrom (taskId userId name : String) (options : Json) : ServerProgram TaskResponse := do
  match ← findTask taskId with
  | none => pure (.refused 404 "Task not found")
  | some row =>
      match Phase.ofName? name with
      | none => pure (.refused 400 ("Invalid phase: " ++ name))
      | some phase =>
          match retryRefusal row phase with
          | some error => pure (.refused 400 error)
          | none =>
              tryCatch (retryRun config taskId userId phase options row) fun _ =>
                pure (.refused 500 "Failed to retry from phase")

def interrupt (taskId : String) : ServerProgram TaskResponse := do
  match ← ServerRequest.issue (.getExecution taskId) with
  | none => pure (.refused 404 "No running execution")
  | some execution =>
      if execution.paused then pure (.refused 400 "Task not running")
      else do
        Process.attempt (ServerRequest.issue (.work (.abortSession execution.sessionId)))
        ServerRequest.issue (.pauseExecution taskId true)
        updateStatus taskId .paused
        pure .interrupted

def promptAgain (taskId : String) (execution : TaskExecution) : ServerProgram TaskResponse := do
  Process.attempt (ServerRequest.issue (.promptSession execution.sessionId))
  ServerRequest.issue (.pauseExecution taskId false)
  updateStatus taskId .running
  pure .running

def continueTask (taskId : String) : ServerProgram TaskResponse := do
  match ← ServerRequest.issue (.getExecution taskId) with
  | none => pure (.refused 404 "No execution found")
  | some execution =>
      if execution.paused then promptAgain taskId execution
      else pure (.refused 400 "Task not interrupted")

def retry (taskId : String) : ServerProgram TaskResponse := do
  match ← ServerRequest.issue (.getExecution taskId) with
  | none => pure (.refused 404 "No execution found")
  | some execution => promptAgain taskId execution

/-- `cancelTask` of the queue: whether there was a job that could be cancelled. -/
def cancelJob (taskId : String) : ServerProgram Bool := do
  match ← Process.attempt (ServerRequest.issue (.getJob taskId)) with
  | none => pure false
  | some queue =>
      match ← Process.attempt (ServerRequest.issue (.getState queue taskId)) with
      | some .waiting | some .delayed => do
          Process.attempt (ServerRequest.issue (.removeJob queue taskId))
          pure true
      | some .active => do
          Process.attempt (ServerRequest.issue (.moveToFailed queue taskId))
          pure true
      | _ => pure false

def closeSession (sessionId : String) : ServerProgram Unit :=
  if sessionId = "" then pure ()
  else do
    ServerRequest.issue (.work (.unregisterSession sessionId))
    tryCatch (do
      Process.attempt (ServerRequest.issue (.work (.abortSession sessionId)))
      Process.attempt (ServerRequest.issue (.deleteSession sessionId)))
      fun _ => pure ()

def cancelExecution (taskId : String) : ServerProgram TaskResponse := do
  match ← ServerRequest.issue (.getExecution taskId) with
  | none => pure (.refused 404 "No execution found")
  | some execution =>
      closeSession execution.sessionId
      ServerRequest.issue (.setExecution taskId none)
      updateStatus taskId .cancelled
      ServerRequest.issue (.cancelApprovals taskId)
      pure .cancelled

def cancel (taskId : String) : ServerProgram TaskResponse := do
  let cancelled ← cancelJob taskId
  if cancelled then
    updateStatus taskId .cancelled
    pure .cancelled
  else cancelExecution taskId

def route : TaskRequest → ServerProgram TaskResponse
  | .start taskId userId prompt => start config taskId userId prompt
  | .resume taskId userId => resume config taskId userId
  | .continueWithContext originalTaskId newTaskId userId prompt =>
      continueWithContext config originalTaskId newTaskId userId prompt
  | .retryFrom taskId userId phase options => retryFrom config taskId userId phase options
  | .interrupt taskId => interrupt taskId
  | .continueTask taskId => continueTask taskId
  | .retry taskId => retry taskId
  | .cancel taskId => cancel taskId

/-- A request from its arrival to its answer. -/
def handle (request : TaskRequest) : ServerProgram Unit := do
  ServerRequest.issue (.arrive request)
  let response ← route config request
  ServerRequest.issue (.respond request response)

end Routes

/-- What runs beside each other: requests, workers and the queues' own timers. -/
inductive Actor where
  | client (request : TaskRequest)
  | worker (queue : QueueName) (jobId : String)
  | promotion (queue : QueueName) (jobId : String)
  | stalled (queue : QueueName) (jobId : String)
  | expiry (queue : QueueName) (jobId : String)
  deriving DecidableEq

def Actor.program (config : ServerConfig) : Actor → ServerProgram Unit
  | .client request => Routes.handle config request
  | .worker queue jobId => TaskWorker.work config queue jobId
  | .promotion queue jobId => ServerRequest.issue (.promoteJob queue jobId)
  | .stalled queue jobId => ServerRequest.issue (.stallJob queue jobId)
  | .expiry queue jobId => ServerRequest.issue (.expireJob queue jobId)

/-- The statuses that `recoverStaleTasks` looks for. -/
def TaskStatus.isStale : TaskStatus → Bool
  | .running | .paused => true
  | _ => false

def TaskRow.recovered (row : TaskRow) : TaskRow :=
  if row.status.isStale then { row with status := .interrupted } else row

namespace Server

def recoverStaleTasks (server : Server) : Server :=
  { server with
    system := { server.system with
      tasks := fun taskId => (server.system.tasks taskId).map TaskRow.recovered } }

/-- The server starts again: what it had in memory is gone, tasks are recovered and stale jobs are
removed, except for those whose removal fails. -/
def restart (server : Server) (removalFails : QueueName → Job → Bool) : Server :=
  { server.recoverStaleTasks with
    queues := server.queues.cleanStaleJobsOnStartup removalFails
    executions := fun _ => none }

end Server

end MultiAgents
