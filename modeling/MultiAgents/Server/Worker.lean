import MultiAgents.Server.JobData

/-!
# The worker

A worker takes a job, marks its task as running and executes it.  It sets the
status of the task once more at the end, whatever has happened to the task in
the meantime, and lets the queue know whether the job has failed.
-/

namespace MultiAgents

open Effects Text

structure ServerConfig where
  workspacesDir : String
  currentDirectory : String

def runByServer {α : Type} (program : Program α) : ServerProgram α :=
  program.embed orchestrationCalls

namespace TaskWorker

def taskOf (data : Json) : String :=
  (data.property "taskId").display

def updateTaskStatus (taskId : String) (write : TaskWrite) : ServerProgram Unit :=
  runByServer (TaskRepository.write taskId write)

def failure (message : String) : TaskWrite :=
  if message = "" then .updateStatus .failed else .setFailed message

variable (config : ServerConfig)

def options (data : Json) : OrchestrationOptions :=
  ((workerArguments data).resolved config.currentDirectory).options

/-- The guarded part of `processTask`. -/
def executeTask (queue : QueueName) (jobId : String) (data : Json) : ServerProgram Unit := do
  Process.attempt (ServerRequest.issue (.updateProgress queue jobId))
  let result ← runByServer (execute (taskOf data) (options config data))
  Process.attempt (ServerRequest.issue (.updateProgress queue jobId))
  updateTaskStatus (taskOf data) (.updateStatus (if result.success then .completed else .failed))

/-- Costs are restored when a run does not begin at the start. -/
def restoreCosts (data : Json) : ServerProgram Unit :=
  if (data.property "startFromPhase").truthy then
    Process.attempt (ServerRequest.issue (.restoreCosts (taskOf data)))
  else pure ()

def processTask (queue : QueueName) (jobId : String) (data : Json) : ServerProgram Unit := do
  updateTaskStatus (taskOf data) (.updateStatus .running)
  restoreCosts data
  tryCatch (executeTask config queue jobId data) fun message => do
    updateTaskStatus (taskOf data) (failure message)
    throw message

/-- What happens to a job once it has been taken. -/
def process (queue : QueueName) (jobId : String) (data : Json) : ServerProgram Unit := do
  let success ← tryCatch (do processTask config queue jobId data; pure true) fun _ => pure false
  ServerRequest.issue (.finishJob queue jobId success)

def work (queue : QueueName) (jobId : String) : ServerProgram Unit := do
  match ← ServerRequest.issue (.takeJob queue jobId) with
  | none => pure ()
  | some data => process config queue jobId data

end TaskWorker

end MultiAgents
