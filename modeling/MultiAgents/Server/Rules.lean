import MultiAgents.Orchestrator.Rules
import MultiAgents.Server.Routes

/-!
# What the server's programs can ask for

A route sets the status of one task and adds no other job than the one planned
for its request; a worker sets the status of the task its job names.
-/

namespace MultiAgents

open Effects Text

variable {allowed : ServerRequest → Prop} {config : ServerConfig}

theorem runByServer_uses {α : Type} {program : Program α}
    (uses : Uses (fun call => allowed (.work call)) program) :
    Uses allowed (runByServer program) :=
  Uses.embed uses

def TaskRequest.statuses : TaskRequest → List TaskStatus
  | .start _ _ _ | .resume _ _ | .continueWithContext _ _ _ _ => [.running, .queued, .failed]
  | .retryFrom _ _ _ _ | .continueTask _ | .retry _ => [.running]
  | .interrupt _ => [.paused]
  | .cancel _ => [.cancelled]

/-- What routes do besides, for the tasks that they are about: looking up, and keeping track of
the executions. -/
def ServerRequest.RouteWork (about : String → Prop) : ServerRequest → Prop
  | .work (.findTask taskId) | .describeTask taskId _ | .buildTaskContext taskId
  | .getExecution taskId | .setExecution taskId _ | .pauseExecution taskId _ | .getJob taskId
  | .getState _ taskId => about taskId
  | .work (.unregisterSession _) | .work (.abortSession _) | .getProject _ | .findRepositories _
  | .getRepository _ | .getUserGitHubToken _ | .makeDirectory _ | .directoryExists _
  | .cloneRepository _ | .connect | .promptSession _ | .deleteSession _ | .queueStats => True
  | _ => False

/-- What the routes that start a run do of this: no session is named, and a new execution has
none. -/
def ServerRequest.OpeningWork (about : String → Prop) : ServerRequest → Prop
  | .setExecution taskId execution => about taskId ∧ execution = some {}
  | .work (.unregisterSession _) | .work (.abortSession _) | .promptSession _ => False
  | call => call.RouteWork about

theorem ServerRequest.OpeningWork.routeWork {about : String → Prop} {call : ServerRequest}
    (opening : call.OpeningWork about) : call.RouteWork about := by
  unfold OpeningWork at opening
  split at opening
  · exact opening.1
  · cases opening
  · cases opening
  · cases opening
  · exact opening

namespace Routes

theorem updateStatus_uses {taskId : String} {status : TaskStatus}
    (permitted : allowed (.work (.writeTask taskId (.updateStatus status)))) :
    Uses allowed (updateStatus taskId status) :=
  runByServer_uses (.attempt (.call permitted))

section Opening

variable {about : String → Prop}
  (opening : ∀ call : ServerRequest, call.OpeningWork about → allowed call)
include opening

theorem findTask_uses {taskId : String} (own : about taskId) : Uses allowed (findTask taskId) :=
  runByServer_uses (.attempt (.call (opening _ own)))

theorem getProject_uses (row : TaskRow) : Uses allowed (getProject row) := by
  unfold getProject
  split
  · exact .attempt (.call (opening _ trivial))
  · exact .pure _

theorem findRepositories_uses (row : TaskRow) : Uses allowed (findRepositories row) :=
  .attempt (.call (opening _ trivial))

theorem makeWorkspace_uses (path : String) : Uses allowed (makeWorkspace path) :=
  .bind (.call (opening _ trivial)) fun _ => .ite (.pure _) (.attempt (.call (opening _ trivial)))

theorem fallbackRepository_uses (found : Lookup) : Uses allowed (fallbackRepository found) := by
  refine .ite (.pure _) ?_
  split
  · exact .attempt (.call (opening _ trivial))
  · exact .pure _

theorem cloneMissing_uses (repo : RepositoryInfo) : Uses allowed (cloneMissing repo) :=
  .bind (.call (opening _ trivial)) fun _ => .ite (.pure _) (.attempt (.call (opening _ trivial)))

theorem projectOf_uses (row : TaskRow) : Uses allowed (projectOf row) := by
  refine .bind (getProject_uses opening _) fun project => ?_
  cases project with
  | none => exact .pure _
  | some project => exact .bind (findRepositories_uses opening row) fun _ => .pure _

theorem cancelJob_uses {taskId : String} (own : about taskId)
    (removal : ∀ queue, allowed (.removeJob queue taskId) ∧ allowed (.moveToFailed queue taskId)) :
    Uses allowed (cancelJob taskId) := by
  refine .bind (.attempt (.call (opening _ own))) fun queue => ?_
  cases queue with
  | none => exact .pure _
  | some queue =>
      refine .bind (.attempt (.call (opening _ own))) fun state => ?_
      rcases state with _ | _ | _ | _ | _ | _ | _
      · exact .pure _
      · exact .bind (.attempt (.call (removal queue).1)) fun _ => .pure _
      · exact .bind (.attempt (.call (removal queue).1)) fun _ => .pure _
      · exact .pure _
      · exact .bind (.attempt (.call (removal queue).2)) fun _ => .pure _
      · exact .pure _
      · exact .pure _

end Opening

section Work

variable {about : String → Prop}
  (work : ∀ call : ServerRequest, call.RouteWork about → allowed call)
include work

theorem abortExecution_uses {taskId : String} (own : about taskId) :
    Uses allowed (abortExecution taskId) := by
  refine .bind (.call (work _ own)) fun execution => ?_
  cases execution with
  | none => exact .pure _
  | some execution =>
      exact .bind (.call (work _ trivial)) fun _ => .bind (.call (work _ trivial)) fun _ =>
        .call (work _ own)

theorem closeSession_uses (sessionId : String) : Uses allowed (closeSession sessionId) := by
  refine .ite (.pure _) (.bind (.call (work _ trivial)) fun _ => .tryCatch ?_ fun _ => .pure _)
  exact .bind (.attempt (.call (work _ trivial))) fun _ => .attempt (.call (work _ trivial))

end Work

section Request

variable (request : TaskRequest) {about : String → Prop}

theorem promptAgain_uses
    (work : ∀ call : ServerRequest, call.RouteWork about → allowed call)
    (own : about request.taskId)
    (write : ∀ status ∈ request.statuses,
      allowed (.work (.writeTask request.taskId (.updateStatus status))))
    (marks : .running ∈ request.statuses) (execution : TaskExecution) :
    Uses allowed (promptAgain request.taskId execution) :=
  .bind (.attempt (.call (work _ trivial))) fun _ => .bind (.call (work _ own)) fun _ =>
    .bind (updateStatus_uses (write _ marks)) fun _ => .pure _

theorem startRun_uses
    (opening : ∀ call : ServerRequest, call.OpeningWork about → allowed call)
    (own : about request.taskId)
    (write : ∀ status ∈ request.statuses,
      allowed (.work (.writeTask request.taskId (.updateStatus status))))
    (marks : [.running, .queued, .failed] ⊆ request.statuses) {plan : RunPlan}
    (planned : allowed (.addJob plan.queue plan.data plan.priority)) :
    Uses allowed (startRun request.taskId plan) := by
  refine .bind (.call (opening _ ⟨own, rfl⟩)) fun _ =>
    .bind (updateStatus_uses (write _ (marks (by simp)))) fun _ => .tryCatch ?_ fun _ => ?_
  · refine .bind (.attempt (.call planned)) fun _ =>
      .bind (.attempt (.call (opening _ trivial))) fun _ => ?_
    exact .bind (updateStatus_uses (write _ (marks (by simp)))) fun _ => .pure _
  · exact .bind (updateStatus_uses (write _ (marks (by simp)))) fun _ => .pure _

theorem requirePrompt_uses {prompt : Value} {error : String}
    {accepted : ServerProgram TaskResponse}
    (uses : promptAccepted prompt = true → Uses allowed accepted) :
    Uses allowed (requirePrompt prompt error accepted) := by
  unfold requirePrompt
  by_cases good : promptAccepted prompt = true
  · rw [if_pos good]
    exact uses good
  · rw [if_neg good]
    split
    · exact .pure _
    · exact .ite (.throw _) (.pure _)

end Request

section Jobs

def Planned (allowed : ServerRequest → Prop) (config : ServerConfig) (request : TaskRequest) :
    Prop :=
  ∀ found plan, request.plan? config.workspacesDir found = some plan →
    allowed (.addJob plan.queue plan.data plan.priority)

variable {about : String → Prop}
  (opening : ∀ call : ServerRequest, call.OpeningWork about → allowed call)
include opening

theorem start_uses {taskId userId : String} {prompt : Value}
    (own : about taskId)
    (write : ∀ status ∈ [TaskStatus.running, .queued, .failed],
      allowed (.work (.writeTask taskId (.updateStatus status))))
    (planned : Planned allowed config (.start taskId userId prompt)) :
    Uses allowed (start config taskId userId prompt) := by
  refine requirePrompt_uses fun accepted => .bind (findTask_uses opening own) fun found => ?_
  cases found with
  | none => exact .pure _
  | some row =>
      refine .bind (.attempt (.call (opening _ own))) fun _ =>
        .bind (getProject_uses opening row) fun project => ?_
      cases project with
      | none => exact .pure _
      | some project =>
          refine .bind (.attempt (.call (opening _ trivial))) fun token =>
            .bind (makeWorkspace_uses opening _) fun _ => ?_
          refine .bind (findRepositories_uses opening row) fun repositories =>
            .bind (fallbackRepository_uses opening _) fun repository => ?_
          refine .bind (.forM fun repo _ => cloneMissing_uses opening repo) fun _ =>
            .bind (.attempt (.call (opening _ trivial))) fun _ => ?_
          apply startRun_uses (.start taskId userId prompt) opening own write (fun _ => id)
          exact planned ⟨row, some project, repositories, repository, token, true, none⟩ _
            (by simp [TaskRequest.plan?, accepted])

theorem resume_uses {taskId userId : String}
    (own : about taskId)
    (write : ∀ status ∈ [TaskStatus.running, .queued, .failed],
      allowed (.work (.writeTask taskId (.updateStatus status))))
    (planned : Planned allowed config (.resume taskId userId)) :
    Uses allowed (resume config taskId userId) := by
  refine .bind (findTask_uses opening own) fun found => ?_
  cases found with
  | none => exact .pure _
  | some row =>
      by_cases resumable : row.status.isResumable = true
      · simp only [resumable, if_true]
        refine .bind (getProject_uses opening row) fun project => ?_
        cases project with
        | none => exact .pure _
        | some project =>
            refine .bind (.attempt (.call (opening _ trivial))) fun token =>
              .bind (.call (opening _ trivial)) fun _ => .ite ?_ (.pure _)
            refine .bind (findRepositories_uses opening row) fun repositories =>
              .bind (.attempt (.call (opening _ trivial))) fun _ => ?_
            split
            · exact .pure _
            · rename_i point reached
              apply startRun_uses (.resume taskId userId) opening own write (fun _ => id)
              exact planned ⟨row, some project, repositories, none, token, true, none⟩ _
                (by simp [TaskRequest.plan?, resumable, reached])
      · simp only [resumable]
        exact .pure _

theorem continueWithContext_uses {originalTaskId newTaskId userId : String} {prompt : Value}
    (original : about originalTaskId) (own : about newTaskId)
    (created : ∀ title description projectId repositoryId,
      allowed (.createTask newTaskId title description projectId repositoryId))
    (write : ∀ status ∈ [TaskStatus.running, .queued, .failed],
      allowed (.work (.writeTask newTaskId (.updateStatus status))))
    (planned : Planned allowed config
      (.continueWithContext originalTaskId newTaskId userId prompt)) :
    Uses allowed (continueWithContext config originalTaskId newTaskId userId prompt) := by
  refine requirePrompt_uses fun accepted => .bind (findTask_uses opening original) fun found => ?_
  cases found with
  | none => exact .pure _
  | some row =>
      by_cases continuable : row.status.isContinuable = true
      · simp only [continuable, if_true]
        refine .bind (.attempt (.call (opening _ original))) fun context => ?_
        cases context with
        | none => exact .pure _
        | some context =>
            refine .bind (.attempt (.call (created _ _ _ _))) fun _ =>
              .bind (getProject_uses opening row) fun project => ?_
            cases project with
            | none => exact .pure _
            | some project =>
                refine .bind (.attempt (.call (opening _ trivial))) fun token =>
                  .bind (findRepositories_uses opening row) fun repositories => ?_
                refine .bind (.attempt (.call (opening _ trivial))) fun _ => ?_
                apply startRun_uses (.continueWithContext originalTaskId newTaskId userId prompt)
                  opening own write (fun _ => id)
                exact planned
                  ⟨row, some project, repositories, none, token, true, some context⟩ _
                  (by simp [TaskRequest.plan?, accepted, continuable])
      · simp only [continuable]
        exact .pure _

omit opening

variable (work : ∀ call : ServerRequest, call.RouteWork about → allowed call)
include work

theorem retryFrom_uses {taskId userId name : String} {options : Json}
    (own : about taskId)
    (write : allowed (.work (.writeTask taskId (.updateStatus .running))))
    (planned : Planned allowed config (.retryFrom taskId userId name options)) :
    Uses allowed (retryFrom config taskId userId name options) := by
  have opening (call : ServerRequest) (starts : call.OpeningWork about) :=
    work call starts.routeWork
  refine .bind (findTask_uses opening own) fun found => ?_
  cases found with
  | none => exact .pure _
  | some row =>
      dsimp only
      split
      · exact .pure _
      · rename_i phase named
        split
        · exact .pure _
        · rename_i possible
          refine .tryCatch (.bind (abortExecution_uses work own) fun _ => ?_) fun _ => .pure _
          refine .bind (.attempt (.call (work _ trivial))) fun token =>
            .bind (projectOf_uses opening row) fun project => ?_
          refine .bind (updateStatus_uses write) fun _ => .bind (.attempt (.call ?_)) fun _ =>
            .pure _
          exact planned ⟨row, project.1, project.2, none, token, true, none⟩ _
            (by simp [TaskRequest.plan?, named, possible])

theorem interrupt_uses {taskId : String}
    (own : about taskId)
    (write : allowed (.work (.writeTask taskId (.updateStatus .paused)))) :
    Uses allowed (interrupt taskId) := by
  refine .bind (.call (work _ own)) fun execution => ?_
  cases execution with
  | none => exact .pure _
  | some execution =>
      refine .ite (.pure _) (.bind (.attempt (.call (work _ trivial))) fun _ => ?_)
      exact .bind (.call (work _ own)) fun _ => .bind (updateStatus_uses write) fun _ => .pure _

theorem cancelExecution_uses {taskId : String} (own : about taskId)
    (approvals : allowed (.cancelApprovals taskId))
    (write : allowed (.work (.writeTask taskId (.updateStatus .cancelled)))) :
    Uses allowed (cancelExecution taskId) := by
  refine .bind (.call (work _ own)) fun execution => ?_
  cases execution with
  | none => exact .pure _
  | some execution =>
      refine .bind (closeSession_uses work _) fun _ => .bind (.call (work _ own)) fun _ => ?_
      exact .bind (updateStatus_uses write) fun _ => .bind (.call approvals) fun _ => .pure _

theorem cancel_uses {taskId : String} (own : about taskId)
    (approvals : allowed (.cancelApprovals taskId))
    (write : allowed (.work (.writeTask taskId (.updateStatus .cancelled))))
    (removal : ∀ queue, allowed (.removeJob queue taskId) ∧ allowed (.moveToFailed queue taskId)) :
    Uses allowed (cancel taskId) := by
  refine .bind (cancelJob_uses (fun call starts => work call starts.routeWork) own removal)
    fun cancelled => .ite ?_ ?_
  · exact .bind (updateStatus_uses write) fun _ => .pure _
  · exact cancelExecution_uses work own approvals write

omit work in
theorem route_uses (request : TaskRequest)
    (work : ∀ call : ServerRequest, call.RouteWork (fun _ => True) → allowed call)
    (write : ∀ status ∈ request.statuses,
      allowed (.work (.writeTask request.taskId (.updateStatus status))))
    (planned : Planned allowed config request)
    (created : ∀ taskId title description projectId repositoryId,
      allowed (.createTask taskId title description projectId repositoryId))
    (removal : ∀ queue taskId, allowed (.removeJob queue taskId) ∧
      allowed (.moveToFailed queue taskId))
    (approvals : ∀ taskId, allowed (.cancelApprovals taskId)) :
    Uses allowed (route config request) := by
  have opening (call : ServerRequest) (starts : call.OpeningWork fun _ => True) :=
    work call starts.routeWork
  cases request with
  | start taskId userId prompt => exact start_uses opening trivial write planned
  | resume taskId userId => exact resume_uses opening trivial write planned
  | continueWithContext originalTaskId newTaskId userId prompt =>
      exact continueWithContext_uses opening trivial trivial (created newTaskId) write planned
  | retryFrom taskId userId name options =>
      exact retryFrom_uses work trivial (write _ (by simp [TaskRequest.statuses])) planned
  | interrupt taskId =>
      exact interrupt_uses work trivial (write _ (by simp [TaskRequest.statuses]))
  | continueTask taskId =>
      refine .bind (.call (work _ trivial)) fun execution => ?_
      cases execution with
      | none => exact .pure _
      | some execution =>
          refine .ite (promptAgain_uses (.continueTask taskId) work trivial write ?_ _) (.pure _)
          simp [TaskRequest.statuses]
  | retry taskId =>
      refine .bind (.call (work _ trivial)) fun execution => ?_
      cases execution with
      | none => exact .pure _
      | some execution =>
          apply promptAgain_uses (.retry taskId) work trivial write
          simp [TaskRequest.statuses]
  | cancel taskId =>
      exact cancel_uses work trivial (approvals taskId)
        (write _ (by simp [TaskRequest.statuses])) fun queue => removal queue taskId

end Jobs

end Routes

/-- What a worker does besides the requests of the execution. -/
def ServerRequest.isWorkerWork : ServerRequest → Bool
  | .restoreCosts _ | .updateProgress _ _ | .finishJob _ _ _ => true
  | .work request => !request.setsStatus
  | _ => false

theorem TaskWorker.process_uses {queue : QueueName} {jobId : String} {data : Json}
    (work : ∀ call : ServerRequest, call.isWorkerWork = true → allowed call)
    (own : ∀ write, allowed (.work (.writeTask (taskOf data) write))) :
    Uses allowed (process config queue jobId data) := by
  have write (change : TaskWrite) : Uses allowed (updateTaskStatus (taskOf data) change) :=
    runByServer_uses (.attempt (.call (own change)))
  have executed : Uses allowed (runByServer (execute (taskOf data) (options config data))) := by
    apply runByServer_uses
    apply execute_uses _ own
    intro request quiet
    exact work _ (by simp [ServerRequest.isWorkerWork, quiet])
  refine .bind (.tryCatch (.bind ?_ fun _ => .pure _) fun _ => .pure _) fun _ =>
    .call (work _ rfl)
  refine .bind (write _) fun _ => .bind ?_ fun _ => .tryCatch ?_ fun _ => ?_
  · exact .ite (.attempt (.call (work _ rfl))) (.pure _)
  · refine .bind (.attempt (.call (work _ rfl))) fun _ => .bind executed fun _ => ?_
    exact .bind (.attempt (.call (work _ rfl))) fun _ => write _
  · exact .bind (write _) fun _ => .throw _

def ServerRequest.keepsQueues : ServerRequest → Bool
  | .addJob _ _ _ | .removeJob _ _ | .moveToFailed _ _ | .takeJob _ _ | .finishJob _ _ _
  | .promoteJob _ _ | .stallJob _ _ | .expireJob _ _ => false
  | _ => true

theorem ServerRequest.keepsQueues_of_routeWork {about : String → Prop} (call : ServerRequest)
    (work : call.RouteWork about) : call.keepsQueues = true := by
  cases call <;> first | rfl | cases work

theorem Server.serve_queues {server : Server} {choice : Choice} {call : ServerRequest}
    (keeps : call.keepsQueues = true) : (server.serve choice call).2.queues = server.queues := by
  unfold Server.serve
  split
  · rfl
  · cases call with
    | createTask taskId title description projectId repositoryId =>
        simp only [Server.perform, Server.insertRow]
        split <;> rfl
    | _ => first | rfl | cases keeps

theorem Server.serve_addJob {server : Server} {choice : Choice} {queue : QueueName}
    {data priority : Json} {jobId : String}
    (added : (server.serve choice (.addJob queue data priority)).1 = .ok jobId) :
    (server.serve choice (.addJob queue data priority)).2.queues =
      server.queues.add queue (newJob choice.text data (jobPriority priority data)) := by
  cases fault : choice.fault with
  | some message => simp [Server.serve, fault, ServerRequest.throws?] at added
  | none =>
      simp only [Server.serve, fault, Option.bind_none, Server.perform, Server.enqueue] at added ⊢
      split at added
      · cases added
      · rename_i free
        rw [if_neg free]

end MultiAgents
