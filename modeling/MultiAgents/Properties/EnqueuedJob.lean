import MultiAgents.Properties.ServerSample

/-!
# The job behind an answer

A route that starts a run answers with success once it has added its job.  The
queue ignores an addition under an id it knows, so after an earlier run of the
task there may be no new job: the finished one is still kept.
-/

namespace MultiAgents

open Effects Text

/-- Answers that say that a run will follow. -/
def TaskResponse.isSuccess : TaskResponse → Bool
  | .queued | .retrying => true
  | _ => false

def TaskRequest.startsRun : TaskRequest → Bool
  | .start _ _ _ | .resume _ _ | .retryFrom _ _ _ _ => true
  | _ => false

def lastJob? : List ServerStep → Option (QueueName × Json)
  | [] => none
  | step :: past =>
      match step.call with
      | .addJob queue data _ => some (queue, data)
      | _ => lastJob? past

/-- A job of the task with the given data is to be run, or is being run. -/
def Carries (queues : TaskQueues) (taskId : String) (data : Json) : Prop :=
  TaskWorker.taskOf data = taskId ∧
    ∃ queue, ∃ job ∈ queues queue, job.state.isUnfinished = true ∧ job.data = data

theorem newJob_unfinished (madeUp : String) (data priority : Json) :
    (newJob madeUp data priority).state.isUnfinished = true := by
  unfold newJob
  dsimp only
  split <;> rfl

theorem newJob_id {taskId : String} (generated : IsGeneratedId taskId) {data : Json}
    (named : TaskWorker.taskOf data = taskId) (madeUp : String) (priority : Json) :
    (newJob madeUp data priority).id = taskId := by
  have truthy := generated.truthy named
  unfold TaskWorker.taskOf at named
  cases found : data.property "taskId" with
  | none => simp [found, Value.truthy] at truthy
  | some value =>
      have known : jobId? data = some taskId := by
        simp_all [jobId?, Value.truthy, Value.display, Option.filter]
      simp [newJob, known]

theorem carries_add_iff {queues : TaskQueues} {taskId : String}
    (generated : IsGeneratedId taskId) (queue : QueueName) (madeUp : String)
    (data priority : Json) :
    Carries (queues.add queue (newJob madeUp data priority)) taskId data ↔
      TaskWorker.taskOf data = taskId ∧ queues.find? queue taskId = none ∨
        Carries queues taskId data := by
  by_cases named : TaskWorker.taskOf data = taskId
  · have id : (newJob madeUp data priority).id = taskId := newJob_id generated named _ _
    cases known : queues.find? queue taskId with
    | some job => simp [TaskQueues.add, id, known]
    | none =>
        refine iff_of_true ⟨named, queue, newJob madeUp data priority, ?_, ?_, rfl⟩
          (.inl ⟨named, rfl⟩)
        · simp [TaskQueues.add, id, known]
        · exact newJob_unfinished _ _ _
  · exact iff_of_false (fun carries => named carries.1) fun either =>
      either.elim (fun free => named free.1) fun carries => named carries.1

/-- The jobs are still the given ones. -/
def Unchanged (queues : TaskQueues) (world : ServerWorld) : Prop := world.state.queues = queues

def JobAdded (queues : TaskQueues) (world : ServerWorld) : Prop :=
  ∃ queue data madeUp priority, lastJob? world.history = some (queue, data) ∧
    world.state.queues = queues.add queue (newJob madeUp data priority)

def AddsJob (queues : TaskQueues) (program : ServerProgram TaskResponse) : Prop :=
  Triple (fun _ _ => True) (Unchanged queues) program
    (fun response world => response.isSuccess = true → JobAdded queues world) fun _ _ => True

section Runs

variable {queues : TaskQueues} {config : ServerConfig}

theorem Unchanged.next {world : ServerWorld} (unchanged : Unchanged queues world)
    {call : ServerRequest} (keeps : call.keepsQueues = true) :
    Unchanged queues (world.next call) :=
  (Server.serve_queues keeps).trans unchanged

theorem JobAdded.next {world : ServerWorld} (added : JobAdded queues world)
    {call : ServerRequest} (keeps : call.keepsQueues = true) :
    JobAdded queues (world.next call) := by
  obtain ⟨queue, data, madeUp, priority, last, jobs⟩ := added
  refine ⟨queue, data, madeUp, priority, ?_, (Server.serve_queues keeps).trans jobs⟩
  cases call <;> first | exact last | cases keeps

theorem steady {α : Type} {program : ServerProgram α} {invariant : ServerWorld → Prop}
    (next : ∀ world call, ServerRequest.keepsQueues call = true → invariant world →
      invariant (world.next call))
    (uses : Uses (fun call : ServerRequest => call.keepsQueues = true) program) :
    Triple (fun _ _ => True) invariant program (fun _ => invariant) fun _ _ => True := by
  have kept : Keeps (fun _ _ => True) invariant program :=
    uses.keeps fun world call keeps _ holds => next world call keeps holds
  exact kept.onRaise fun _ _ _ => trivial

namespace AddsJob

theorem after {α : Type} {first : ServerProgram α} {rest : α → ServerProgram TaskResponse}
    (uses : Uses (fun call : ServerRequest => call.keepsQueues = true) first)
    (adds : ∀ value, AddsJob queues (rest value)) : AddsJob queues (first >>= rest) := by
  have kept (world : ServerWorld) (call : ServerRequest) (keeps : call.keepsQueues = true)
      (unchanged : Unchanged queues world) : Unchanged queues (world.next call) :=
    unchanged.next keeps
  exact (steady kept uses).bind adds

theorem refuse {response : TaskResponse} (refused : response.isSuccess = false) :
    AddsJob queues (pure response) :=
  Triple.pure fun _ _ success => by simp [refused] at success

theorem ite {condition : Prop} [Decidable condition] {yes no : ServerProgram TaskResponse}
    (positive : AddsJob queues yes) (negative : AddsJob queues no) :
    AddsJob queues (if condition then yes else no) :=
  Triple.ite (fun _ => positive) fun _ => negative

theorem tryCatch {program : ServerProgram TaskResponse}
    {recover : String → ServerProgram TaskResponse} (adds : AddsJob queues program)
    (refuses : ∀ message, Triple (fun _ _ => True) (fun _ : ServerWorld => True) (recover message)
      (fun response _ => response.isSuccess = false) fun _ _ => True) :
    AddsJob queues (tryCatch program recover) := by
  refine Triple.tryCatch adds fun message => (refuses message).weaken (fun _ => id) ?_
    fun _ _ => id
  intro response _ refused success
  simp [refused] at success

end AddsJob

theorem addJob_triple (queue : QueueName) (data priority : Json) :
    Triple (fun _ _ => True) (Unchanged queues)
      (Process.attempt (ServerRequest.issue (.addJob queue data priority)))
      (fun _ => JobAdded queues) fun _ _ => True := by
  apply Triple.attempt
  apply Triple.call
  intro world unchanged _
  rcases answer : world.answer (.addJob queue data priority) with message | jobId
  · trivial
  · refine ⟨queue, data, world.choice.text, jobPriority priority data, rfl, ?_⟩
    rw [← unchanged]
    exact Server.serve_addJob answer

namespace Routes

theorem updateStatus_steady (taskId : String) (status : TaskStatus) :
    Uses (fun call : ServerRequest => call.keepsQueues = true) (updateStatus taskId status) :=
  updateStatus_uses rfl

theorem startRun_adds (taskId : String) (plan : RunPlan) :
    AddsJob queues (startRun taskId plan) := by
  refine .after (.call rfl) fun _ => .after (updateStatus_steady _ _) fun _ => ?_
  have added : AddsJob queues (do
      let _ ← Process.attempt (ServerRequest.issue (.addJob plan.queue plan.data plan.priority))
      Process.attempt (ServerRequest.issue .queueStats)
      updateStatus taskId .queued
      pure .queued) := by
    refine (addJob_triple _ _ _).bind fun _ => ?_
    have counted : Uses (fun call : ServerRequest => call.keepsQueues = true)
        (Process.attempt (ServerRequest.issue .queueStats)) := .attempt (.call rfl)
    have kept (world : ServerWorld) (call : ServerRequest) (keeps : call.keepsQueues = true)
        (added : JobAdded queues world) : JobAdded queues (world.next call) := added.next keeps
    refine (steady kept counted).bind fun _ => ?_
    refine (steady kept (updateStatus_steady taskId .queued)).bind fun _ => ?_
    exact .pure fun _ added _ => added
  exact added.tryCatch fun _ => Triple.bind .nothing fun _ => .pure fun _ _ => rfl

theorem start_adds (taskId userId : String) (prompt : Value) :
    AddsJob queues (start config taskId userId prompt) := by
  have opening (call : ServerRequest) (starts : call.OpeningWork fun _ => True) :=
    ServerRequest.keepsQueues_of_routeWork call starts.routeWork
  unfold start requirePrompt
  refine .ite (.after (findTask_uses opening trivial) fun found => ?_) ?_
  · cases found with
    | none => exact .refuse rfl
    | some row =>
        refine .after (.attempt (.call rfl)) fun _ => .after (getProject_uses opening row) ?_
        rintro (_ | project)
        · exact .refuse rfl
        · refine .after (.attempt (.call rfl)) fun token => .after (makeWorkspace_uses opening _) ?_
          refine fun _ => .after (findRepositories_uses opening row) fun repositories => ?_
          refine .after (fallbackRepository_uses opening _) fun repository => ?_
          refine .after (.forM fun repo _ => cloneMissing_uses opening repo) fun _ => ?_
          exact .after (.attempt (.call rfl)) fun _ => startRun_adds _ _
  · split
    · exact .refuse rfl
    · exact .ite (Triple.throw fun _ _ => trivial) (.refuse rfl)

theorem resumePoint_refuses {row : TaskRow} {response : TaskResponse}
    (reached : resumePoint row = .error response) : response.isSuccess = false := by
  unfold resumePoint at reached
  dsimp only at reached
  repeat' split at reached
  all_goals cases reached
  rfl

theorem resume_adds (taskId userId : String) : AddsJob queues (resume config taskId userId) := by
  have opening (call : ServerRequest) (starts : call.OpeningWork fun _ => True) :=
    ServerRequest.keepsQueues_of_routeWork call starts.routeWork
  refine .after (findTask_uses opening trivial) fun found => ?_
  cases found with
  | none => exact .refuse rfl
  | some row =>
      refine .ite (.after (getProject_uses opening row) ?_) (.refuse rfl)
      rintro (_ | project)
      · exact .refuse rfl
      · refine .after (.attempt (.call rfl)) fun token => .after (.call rfl) fun _ => ?_
        refine .ite (.after (findRepositories_uses opening row) fun _ => ?_) (.refuse rfl)
        refine .after (.attempt (.call rfl)) fun _ => ?_
        split
        · exact .refuse (resumePoint_refuses ‹_›)
        · exact startRun_adds _ _

theorem retryFrom_adds (taskId userId name : String) (options : Json) :
    AddsJob queues (retryFrom config taskId userId name options) := by
  have work (call : ServerRequest) (routine : call.RouteWork fun _ => True) :=
    ServerRequest.keepsQueues_of_routeWork call routine
  have opening (call : ServerRequest) (starts : call.OpeningWork fun _ => True) :=
    work call starts.routeWork
  refine .after (findTask_uses opening trivial) fun found => ?_
  cases found with
  | none => exact .refuse rfl
  | some row =>
      dsimp only
      split
      · exact .refuse rfl
      split
      · exact .refuse rfl
      · refine .tryCatch (.after (abortExecution_uses work trivial) fun _ => ?_) fun _ =>
          .pure fun _ _ => rfl
        refine .after (.attempt (.call rfl)) fun token => .after (projectOf_uses opening row) ?_
        refine fun project => .after (updateStatus_steady _ _) fun _ => ?_
        exact Triple.bind (addJob_triple _ _ _) fun _ => .pure fun _ added _ => added

end Routes

theorem route_adds {request : TaskRequest} (starts : request.startsRun = true) :
    AddsJob queues (Routes.route config request) := by
  cases request with
  | start taskId userId prompt => exact Routes.start_adds _ _ _
  | resume taskId userId => exact Routes.resume_adds _ _
  | retryFrom taskId userId name options => exact Routes.retryFrom_adds _ _ _ _
  | _ => cases starts

end Runs

/-- After a success the task has an unfinished job with the data of the request just if the queue
had no job under its id, or there was such a job already. -/
theorem success_has_job_iff (config : ServerConfig) (request : TaskRequest) (world : ServerWorld)
    (response : TaskResponse) (starts : request.startsRun = true)
    (generated : IsGeneratedId request.taskId)
    (answered : ((Routes.route config request).exec world).1 = .ok response)
    (success : response.isSuccess = true) :
    ∃ queue data,
      lastJob? ((Routes.route config request).exec world).2.history = some (queue, data) ∧
      (Carries ((Routes.route config request).exec world).2.state.queues request.taskId data ↔
        TaskWorker.taskOf data = request.taskId ∧
            world.state.queues.find? queue request.taskId = none ∨
          Carries world.state.queues request.taskId data) := by
  have adds : AddsJob world.state.queues (Routes.route config request) := route_adds starts
  have outcome : Outcome _ _ ((Routes.route config request).exec world) :=
    Triple.outcome adds rfl
  revert answered outcome
  rcases (Routes.route config request).exec world with ⟨message | value, after⟩
  · exact nofun
  · rintro ⟨⟩ outcome
    obtain ⟨queue, data, madeUp, priority, last, jobs⟩ := outcome success
    refine ⟨queue, data, last, ?_⟩
    rw [jobs]
    exact carries_add_iff generated queue madeUp data priority

namespace EnqueueSample

open ServerSample

def fresh : ServerWorld := server.start fun _ => {}

def finished : ServerWorld :=
  ((TaskWorker.work config .tasks "m1_a").exec ((Routes.route config start).exec fresh).2).2

end EnqueueSample

open ServerSample EnqueueSample in
/-- The second start is answered with success, and there is no job that will be run. -/
theorem second_start_has_no_job :
    ((Routes.route config start).exec finished).1.toOption = some .queued ∧
      ∀ data, ¬Carries ((Routes.route config start).exec finished).2.state.queues "m1_a" data := by
  have facts : ((Routes.route config start).exec finished).1.toOption = some .queued ∧
      (∀ job ∈ ((Routes.route config start).exec finished).2.state.queues .tasks,
        job.state = .completed) ∧
      ((Routes.route config start).exec finished).2.state.queues .priority = [] := by
    decide +kernel
  obtain ⟨answered, main, priority⟩ := facts
  refine ⟨answered, ?_⟩
  rintro data ⟨_, queue, job, listed, unfinished, _⟩
  cases queue with
  | tasks =>
      rw [main job listed] at unfinished
      cases unfinished
  | priority =>
      rw [priority] at listed
      cases listed

open ServerSample EnqueueSample in
theorem first_start_has_its_job : ∃ queue data,
    lastJob? ((Routes.route config start).exec fresh).2.history = some (queue, data) ∧
      (Carries ((Routes.route config start).exec fresh).2.state.queues "m1_a" data ↔
        TaskWorker.taskOf data = "m1_a" ∧ fresh.state.queues.find? queue "m1_a" = none ∨
          Carries fresh.state.queues "m1_a" data) :=
  success_has_job_iff config start fresh .queued rfl generated rfl rfl

end MultiAgents
