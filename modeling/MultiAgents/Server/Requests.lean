import MultiAgents.Effects.Pool
import MultiAgents.Orchestrator
import MultiAgents.Server.Queue

/-!
# Requests of the server

The routes, the worker and the queues act on the state of the orchestration and
on what only the server has: the jobs, the executions it keeps track of and the
projects.  A request that a client makes and the answer it is given are recorded
as requests as well.  Events for the frontend are left out.
-/

namespace MultiAgents

open Effects Text

/-- The settings of a project are an object nothing checks. -/
structure ProjectRecord where
  settings : Json := .obj []

structure RepositoryRecord where
  name : String
  type : String
  executionOrder : Option Int := none

/-- An execution the server keeps track of; its session is never filled in by the routes. -/
structure TaskExecution where
  sessionId : String := ""
  paused : Bool := false

structure Server where
  system : System
  queues : TaskQueues := fun _ => []
  executions : String → Option TaskExecution := fun _ => none
  projects : String → Option ProjectRecord := fun _ => none
  projectRepositories : String → List RepositoryRecord := fun _ => []
  repositories : String → Option RepositoryRecord := fun _ => none
  tokens : String → Option String := fun _ => none

/-- What clients ask of the task routes. -/
inductive TaskRequest where
  | start (taskId userId : String) (prompt : Value)
  | resume (taskId userId : String)
  | continueWithContext (originalTaskId newTaskId userId : String) (prompt : Value)
  | retryFrom (taskId userId phase : String) (options : Json)
  | interrupt (taskId : String)
  | continueTask (taskId : String)
  | retry (taskId : String)
  | cancel (taskId : String)
  deriving DecidableEq

inductive TaskResponse where
  | queued
  | retrying
  | interrupted
  | running
  | cancelled
  | refused (status : Nat) (error : String)
  deriving DecidableEq

inductive ServerRequest where
  | work (request : Request)
  | arrive (request : TaskRequest)
  | respond (request : TaskRequest) (response : TaskResponse)
  | describeTask (taskId description : String)
  | createTask (taskId title : String) (description projectId repositoryId : Option String)
  | buildTaskContext (taskId : String)
  | getProject (projectId : String)
  | findRepositories (projectId : String)
  | getRepository (repositoryId : String)
  | getUserGitHubToken (userId : String)
  | makeDirectory (path : String)
  | directoryExists (path : String)
  | cloneRepository (path : String)
  | connect
  | getExecution (taskId : String)
  | setExecution (taskId : String) (execution : Option TaskExecution)
  | pauseExecution (taskId : String) (paused : Bool)
  | promptSession (sessionId : String)
  | deleteSession (sessionId : String)
  | cancelApprovals (taskId : String)
  | addJob (queue : QueueName) (data priority : Json)
  | queueStats
  | getJob (taskId : String)
  | getState (queue : QueueName) (jobId : String)
  | removeJob (queue : QueueName) (jobId : String)
  | moveToFailed (queue : QueueName) (jobId : String)
  | takeJob (queue : QueueName) (jobId : String)
  | restoreCosts (taskId : String)
  | updateProgress (queue : QueueName) (jobId : String)
  | finishJob (queue : QueueName) (jobId : String) (success : Bool)
  | promoteJob (queue : QueueName) (jobId : String)
  | stallJob (queue : QueueName) (jobId : String)
  | expireJob (queue : QueueName) (jobId : String)

namespace ServerRequest

abbrev Answer : ServerRequest → Type
  | .work request => request.Answer
  | .arrive _ | .respond _ _ | .setExecution _ _ | .pauseExecution _ _ | .cancelApprovals _
  | .finishJob _ _ _ | .promoteJob _ _ | .stallJob _ _ | .expireJob _ _ => Unit
  | .describeTask _ _ | .createTask _ _ _ _ _ | .makeDirectory _ | .cloneRepository _ | .connect
  | .promptSession _ | .deleteSession _ | .queueStats | .removeJob _ _ | .moveToFailed _ _
  | .restoreCosts _ | .updateProgress _ _ => Except String Unit
  | .buildTaskContext _ => Except String (Option String)
  | .getProject _ => Except String (Option ProjectRecord)
  | .findRepositories _ => Except String (List RepositoryRecord)
  | .getRepository _ => Except String (Option RepositoryRecord)
  | .getUserGitHubToken _ => Except String (Option String)
  | .directoryExists _ => Bool
  | .getExecution _ => Option TaskExecution
  | .addJob _ _ _ => Except String String
  | .getJob _ => Except String (Option QueueName)
  | .getState _ _ => Except String (Option JobState)
  | .takeJob _ _ => Option Json

end ServerRequest

abbrev serverCalls : Signature := ⟨ServerRequest, ServerRequest.Answer⟩

abbrev ServerProgram := Process serverCalls String

abbrev ServerRequest.issue (request : ServerRequest) : ServerProgram request.Answer :=
  Process.call (S := serverCalls) request

def orchestrationCalls : Embedding calls serverCalls where
  request := .work
  answer _ := id

namespace Server

def updateRow (server : Server) (taskId : String) (update : TaskRow → TaskRow) : Server :=
  { server with
    system := { server.system with
      tasks := Function.update server.system.tasks taskId
        ((server.system.tasks taskId).map update) } }

def insertRow (server : Server) (taskId : String) (row : TaskRow) : Except String Unit × Server :=
  if (server.system.tasks taskId).isSome then (.error "duplicate key", server)
  else (.ok (), { server with
    system := { server.system with
      tasks := Function.update server.system.tasks taskId (some row) } })

def enqueue (server : Server) (choice : Choice) (queue : QueueName) (data priority : Json) :
    Except String String × Server :=
  let job := newJob choice.text data (jobPriority priority data)
  if (jobId? data).isNone ∧ (server.queues.find? queue job.id).isSome then
    (.error "job id in use", server)
  else (.ok job.id, { server with queues := server.queues.add queue job })

/-- The effect of a request that does not fail for a reason outside the model. -/
def perform (server : Server) (choice : Choice) :
    (request : ServerRequest) → request.Answer × Server
  | .work request =>
      let (answer, system) := server.system.serve choice request
      (answer, { server with system })
  | .arrive _ | .respond _ _ | .cancelApprovals _ => ((), server)
  | .describeTask taskId description =>
      (.ok (), server.updateRow taskId fun row => { row with description := some description })
  | .createTask taskId title description projectId repositoryId =>
      server.insertRow taskId { title, description, projectId, repositoryId }
  | .buildTaskContext _ => (.ok (if choice.found then some choice.text else none), server)
  | .getProject projectId => (.ok (server.projects projectId), server)
  | .findRepositories projectId => (.ok (server.projectRepositories projectId), server)
  | .getRepository repositoryId => (.ok (server.repositories repositoryId), server)
  | .getUserGitHubToken userId => (.ok (server.tokens userId), server)
  | .makeDirectory _ | .cloneRepository _ | .connect | .promptSession _ | .deleteSession _
  | .queueStats | .restoreCosts _ | .updateProgress _ _ => (.ok (), server)
  | .directoryExists _ => (choice.found, server)
  | .getExecution taskId => (server.executions taskId, server)
  | .setExecution taskId execution =>
      ((), { server with executions := Function.update server.executions taskId execution })
  | .pauseExecution taskId paused =>
      ((), { server with
        executions := Function.update server.executions taskId
          ((server.executions taskId).map fun execution => { execution with paused }) })
  | .addJob queue data priority => server.enqueue choice queue data priority
  | .getJob taskId => (.ok (server.queues.getJob taskId), server)
  | .getState queue jobId => (.ok ((server.queues.find? queue jobId).map Job.state), server)
  | .removeJob queue jobId => (.ok (), { server with queues := server.queues.remove queue jobId })
  | .moveToFailed queue jobId =>
      (.ok (), { server with queues := server.queues.moveToFailed queue jobId choice.found })
  | .takeJob queue jobId =>
      (((server.queues.find? queue jobId).filter fun job =>
          job.state = .waiting ∨ job.state = .prioritized).map Job.data,
        { server with queues := server.queues.take queue jobId })
  | .finishJob queue jobId success =>
      ((), { server with
        queues := if success then server.queues.complete queue jobId
          else server.queues.fail queue jobId })
  | .promoteJob queue jobId => ((), { server with queues := server.queues.promote queue jobId })
  | .stallJob queue jobId => ((), { server with queues := server.queues.stall queue jobId })
  | .expireJob queue jobId => ((), { server with queues := server.queues.expire queue jobId })

end Server

namespace ServerRequest

/-- The answer of a request that throws; what the orchestration asks for decides that itself. -/
def throws? (message : String) : (request : ServerRequest) → Option request.Answer
  | .describeTask _ _ | .createTask _ _ _ _ _ | .makeDirectory _ | .cloneRepository _ | .connect
  | .promptSession _ | .deleteSession _ | .queueStats | .removeJob _ _ | .moveToFailed _ _
  | .restoreCosts _ | .updateProgress _ _ | .buildTaskContext _ | .getProject _
  | .findRepositories _ | .getRepository _ | .getUserGitHubToken _ | .addJob _ _ _ | .getJob _
  | .getState _ _ =>
      some (.error message)
  | .work _ | .arrive _ | .respond _ _ | .setExecution _ _ | .pauseExecution _ _
  | .cancelApprovals _ | .finishJob _ _ _ | .promoteJob _ _ | .stallJob _ _ | .expireJob _ _
  | .directoryExists _ | .getExecution _ | .takeJob _ _ => none

end ServerRequest

def Server.serve (server : Server) (choice : Choice) (request : ServerRequest) :
    request.Answer × Server :=
  match choice.fault.bind fun message => request.throws? message with
  | some answer => (answer, server)
  | none => server.perform choice request

abbrev serverEnvironment : Environment serverCalls where
  State := Server
  Choice := Choice
  serve := Server.serve

abbrev ServerStep := Step serverEnvironment

abbrev ServerWorld := World serverEnvironment

/-- The world in which the server has not done anything yet. -/
def Server.start (server : Server) (choices : Nat → Choice) : ServerWorld :=
  World.start (E := serverEnvironment) server choices

end MultiAgents
