import MultiAgents.Server.Routes
import MultiAgents.Services.Approvals

/-!
# The routes of single tasks

Tasks are listed, read and deleted, started and cancelled, and their approvals
are answered, either through a route or through an event of a socket.  Who is
logged in is known to every route, and a task is stored with its user; only the
start of a run looks at the user, for the token that its job is given.  Events
for the frontend are left out.
-/

namespace MultiAgents

open Effects Text

/-- The server, with the columns of tasks that only these routes read and the approvals that
wait. -/
structure TaskHost where
  server : Server
  /-- All tasks, the newest first. -/
  ids : List String := []
  userIds : String → String := fun _ => ""
  activityLogs : String → List Json := fun _ => []
  approvals : Approvals := .empty

/-- A task as `rowToTask` returns it. -/
structure TaskView where
  id : String
  userId : String
  row : TaskRow

/-- What the queues tell about the job of a task. -/
structure QueueLoad where
  position : Option Nat
  estimatedWaitSeconds : Option Nat
  isPro : Json
  deriving DecidableEq

/-- `AVG_TASK_DURATION` and `WORKER_CONCURRENCY`. -/
structure QueueConfig where
  avgTaskDuration : Nat := 180
  concurrency : Nat := 3

namespace TaskQueues

variable (queues : TaskQueues)

def waiting (queue : QueueName) : List Job :=
  (queues queue).filter fun job => job.state = .waiting

def getQueuePosition (taskId : String) : Option Nat :=
  match (queues.getJob taskId).bind fun queue => (queues.find? queue taskId).map Job.state with
  | some .waiting | some .delayed =>
      ((queues.waiting .tasks).findIdx? fun job => job.id == taskId).map (· + 1)
  | _ => none

/-- Seconds until the jobs ahead are done; a division by zero is no number. -/
def getEstimatedWaitTime (config : QueueConfig) (isPro : Bool) : Option Nat :=
  let priorityWaiting := (queues.waiting .priority).length
  let ahead :=
    if isPro then priorityWaiting else priorityWaiting + (queues.waiting .tasks).length
  if config.concurrency = 0 then none
  else some ((ahead + config.concurrency - 1) / config.concurrency * config.avgTaskDuration)

end TaskQueues

inductive HostRequest where
  | server (request : ServerRequest)
  | findAll
  | findById (taskId : String)
  | getActivityLog (taskId : String)
  | delete (taskId : String)
  | queueLoad (taskId : String)
  | resolveWithAction (taskId phase : String) (response : ApprovalResponse)
      (clientId userId : Option String)
  | updateSettings (projectId : String) (settings : Json)

namespace HostRequest

abbrev Answer : HostRequest → Type
  | .server request => request.Answer
  | .findAll => Except String (List TaskView)
  | .findById _ => Except String (Option TaskView)
  | .getActivityLog _ => Except String (List Json)
  | .delete _ | .updateSettings _ _ => Except String Unit
  | .queueLoad _ => QueueLoad
  | .resolveWithAction _ _ _ _ _ => Bool

def throws? (message : String) : (request : HostRequest) → Option request.Answer
  | .findAll | .findById _ | .getActivityLog _ | .delete _ | .updateSettings _ _ =>
      some (.error message)
  | .server _ | .queueLoad _ | .resolveWithAction _ _ _ _ _ => none

end HostRequest

abbrev hostCalls : Signature := ⟨HostRequest, HostRequest.Answer⟩

abbrev HostProgram := Process hostCalls String

abbrev HostRequest.issue (request : HostRequest) : HostProgram request.Answer :=
  Process.call (S := hostCalls) request

/-- `{ ...project.settings, ...settings }`, if there is the project. -/
def Server.updateSettings (server : Server) (projectId : String) (settings : Json) : Server :=
  { server with
    projects := Function.update server.projects projectId
      ((server.projects projectId).map fun project =>
        { project with settings := .obj (project.settings.fields ++ settings.fields) }) }

namespace TaskHost

variable (host : TaskHost)

def view? (taskId : String) : Option TaskView :=
  (host.server.system.tasks taskId).map fun row => ⟨taskId, host.userIds taskId, row⟩

def settings (taskId : String) : Json :=
  match ((host.server.system.tasks taskId).bind TaskRow.projectId).bind host.server.projects with
  | some project => project.settings
  | none => .obj []

def load (config : QueueConfig) (taskId : String) : QueueLoad where
  position := host.server.queues.getQueuePosition taskId
  estimatedWaitSeconds := host.server.queues.getEstimatedWaitTime config
    ((host.settings taskId).property "isPro").truthy
  isPro := ((host.settings taskId).property "isPro").orElse (.bool false)

/-- The row goes, and its activity log with it; jobs, executions and approvals stay. -/
def erase (taskId : String) : TaskHost :=
  { host with
    server := { host.server with
      system := { host.server.system with
        tasks := Function.update host.server.system.tasks taskId none } }
    ids := host.ids.filter fun id => id != taskId
    activityLogs := Function.update host.activityLogs taskId [] }

/-- The server's own requests leave the approvals alone, unless a task is cancelled. -/
def approvalsAfter (now : String) : ServerRequest → Approvals
  | .cancelApprovals taskId => host.approvals.cancelTask taskId now
  | _ => host.approvals

/-- The effect of a request that does not fail for a reason outside the model. -/
def perform (config : QueueConfig) (choice : Choice) :
    (request : HostRequest) → request.Answer × TaskHost
  | .server request =>
      let (answer, server) := host.server.serve choice request
      (answer, { host with server, approvals := host.approvalsAfter choice.text request })
  | .findAll => (.ok (host.ids.filterMap host.view?), host)
  | .findById taskId => (.ok (host.view? taskId), host)
  | .getActivityLog taskId => (.ok (host.activityLogs taskId), host)
  | .delete taskId => (.ok (), host.erase taskId)
  | .queueLoad taskId => (host.load config taskId, host)
  | .resolveWithAction taskId phase response clientId userId =>
      let (resolved, approvals) :=
        host.approvals.resolveWithAction taskId phase response clientId userId choice.text
      (resolved, { host with approvals })
  | .updateSettings projectId settings =>
      (.ok (), { host with server := host.server.updateSettings projectId settings })

def serve (config : QueueConfig) (choice : Choice) (request : HostRequest) :
    request.Answer × TaskHost :=
  match choice.fault.bind fun message => request.throws? message with
  | some answer => (answer, host)
  | none => host.perform config choice request

end TaskHost

abbrev hostEnvironment (config : QueueConfig) : Environment hostCalls where
  State := TaskHost
  Choice := Choice
  serve host := host.serve config

inductive UserResponse where
  | tasks (tasks : List TaskView)
  | task (task : TaskView) (activityLog : List Json) (execution : Option String)
  | activityLog (taskId : String) (activityLog : List Json) (count : Nat)
  | deleted
  | queued (taskId : String) (load : QueueLoad)
  | cancelled (fromQueue : Bool)
  | approved (phase : String) (resolved hasFeedback : Bool)
  | rejected (phase : String) (reason : Value) (resolved : Bool)
  | bypassed (phase : Option String) (enableForAllPhases : Value)
  | refused (status : Nat) (error : String)
  | noAnswer

namespace TaskRoutes

def withTask (taskId : String) (found : TaskView → HostProgram UserResponse) :
    HostProgram UserResponse := do
  match ← Process.attempt (HostRequest.issue (.findById taskId)) with
  | none => pure (.refused 404 "Task not found")
  | some task => found task

/-- The first of the phases that has an approval that waits is approved. -/
def approveFirst (taskId : String) : List String → HostProgram (Option String)
  | [] => pure none
  | phase :: rest => do
      let resolved ← HostRequest.issue (.resolveWithAction taskId phase ⟨.approve, none⟩ none none)
      if resolved then pure (some phase) else approveFirst taskId rest

def pendingPhases : List String := ["Analysis", "Developer", "Merge"]

/-- All phases of the project are approved from now on, if that is asked for. -/
def enableAutomatic (enableForAllPhases : Value) (task : TaskView) : HostProgram Unit :=
  match task.row.projectId.filter fun id => enableForAllPhases.truthy && id != "" with
  | none => pure ()
  | some projectId =>
      .attempt (HostRequest.issue
        (.updateSettings projectId (.obj [("approvalMode", .str "automatic")])))

def bypass (taskId : String) (enableForAllPhases : Value) : HostProgram UserResponse :=
  withTask taskId fun task => do
    let phase ← approveFirst taskId pendingPhases
    enableAutomatic enableForAllPhases task
    pure (.bypassed phase enableForAllPhases)

end TaskRoutes

end MultiAgents
