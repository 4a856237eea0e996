import MultiAgents.Properties.ServerSample

/-!
# Cancelled tasks

A cancelled task stays cancelled until a client asks for it again, if at the
moment of the answer nothing is at work on it any more.  Cancelling does not stop
what is running: a worker that has taken the job goes on and sets the status.
-/

namespace MultiAgents

open Effects Effects.Record Text

/-- The statuses a cancelled task is not to return to by itself. -/
def TaskStatus.isReopened : TaskStatus → Bool
  | .running | .waitingForApproval | .completed | .failed => true
  | _ => false

def Server.status (server : Server) (taskId : String) : Option TaskStatus :=
  (server.system.tasks taskId).map TaskRow.status

def ServerStep.after (step : ServerStep) : Server :=
  (Server.serve step.before step.choice step.call).2

abbrev Reopens (taskId : String) (step : ServerStep) : Prop :=
  step.after.status taskId ≠ step.before.status taskId ∧
    (step.after.status taskId).any TaskStatus.isReopened = true

def ServerRequest.answersCancelled (taskId : String) : ServerRequest → Bool
  | .respond (.cancel id) .cancelled => id == taskId
  | _ => false

/-- A client asks for a run of the task. -/
def TaskRequest.restarts (taskId : String) : TaskRequest → Bool
  | .start id _ _ | .resume id _ | .continueWithContext _ id _ _ | .retryFrom id _ _ _
  | .retry id => id == taskId
  | _ => false

def ServerRequest.asksAgain (taskId : String) : ServerRequest → Bool
  | .arrive request => request.restarts taskId
  | _ => false

abbrev Cancelled (taskId : String) : List ServerStep → Prop :=
  Since (fun step => step.call.answersCancelled taskId = true)
    fun step => step.call.asksAgain taskId = true

abbrev StaysCancelled (taskId : String) : List ServerStep → Prop :=
  Always fun step past => Reopens taskId step → ¬Cancelled taskId past

/-- A request that sets a task to running without being one for a run of it: it continues the
task, or retries another with options that name it. -/
def TaskRequest.disturbs (taskId : String) : TaskRequest → Bool
  | .continueTask id => id == taskId
  | .retryFrom id _ _ options =>
      id != taskId && (options.property "taskId").any fun other => other.display == taskId
  | _ => false

def Actor.worksOn (taskId : String) : Actor → Bool
  | .client request => request.restarts taskId || request.disturbs taskId
  | .worker _ jobId => jobId == taskId
  | _ => false

def NoJob (taskId : String) (queues : TaskQueues) : Prop :=
  ∀ queue, ∀ job ∈ queues queue, TaskWorker.taskOf job.data = taskId →
    job.state.isUnfinished = false

abbrev ServerPool := Pool serverEnvironment String Actor

structure AtRest (taskId : String) (pool : ServerPool) : Prop where
  jobs : NoJob taskId pool.world.state.queues
  threads : ∀ thread ∈ pool.threads, thread.1.worksOn taskId = true → thread.2.ended = true

def ServerRequest.disturbs (taskId : String) : ServerRequest → Bool
  | .arrive request => request.disturbs taskId
  | _ => false

/-- The task is at rest when its cancellation is answered, and no disturbing request arrives as
long as it is cancelled. -/
abbrev LeavesAtRest (taskId : String) (pool : ServerPool) (move : Move Actor) : Prop :=
  ((pool.issues? move).any (ServerRequest.answersCancelled taskId) = true → AtRest taskId pool) ∧
    ((pool.issues? move).any (ServerRequest.disturbs taskId) = true →
      ¬Cancelled taskId pool.world.history)

instance (taskId : String) (queues : TaskQueues) : Decidable (NoJob taskId queues) :=
  let Finished (queue : QueueName) : Prop := ∀ job ∈ queues queue,
    TaskWorker.taskOf job.data = taskId → job.state.isUnfinished = false
  decidable_of_iff (Finished .tasks ∧ Finished .priority)
    ⟨fun both queue => by cases queue <;> simp_all [Finished], fun none => ⟨none _, none _⟩⟩

instance (taskId : String) (pool : ServerPool) : Decidable (AtRest taskId pool) :=
  decidable_of_iff (NoJob taskId pool.world.state.queues ∧
      ∀ thread ∈ pool.threads, thread.1.worksOn taskId = true → thread.2.ended = true)
    ⟨fun both => ⟨both.1, both.2⟩, fun rest => ⟨rest.jobs, rest.threads⟩⟩

def Spares (taskId : String) : ServerRequest → Prop
  | .work (.writeTask id (.updateStatus status)) => id = taskId → status.isReopened = false
  | .work (.writeTask id (.setFailed _)) => id ≠ taskId
  | .addJob _ data _ => TaskWorker.taskOf data ≠ taskId
  | _ => True

section Jobs

variable {taskId : String} {queues : TaskQueues}

theorem NoJob.update (none : NoJob taskId queues) (queue : QueueName) {jobs : List Job}
    (listed : ∀ job ∈ jobs, TaskWorker.taskOf job.data = taskId → job.state.isUnfinished = false) :
    NoJob taskId (Function.update queues queue jobs) := by
  intro other job membership
  by_cases same : other = queue
  · subst same
    rw [Function.update_self] at membership
    exact listed job membership
  · rw [Function.update_of_ne same] at membership
    exact none other job membership

theorem NoJob.filter (none : NoJob taskId queues) (queue : QueueName) (keep : Job → Bool) :
    NoJob taskId (Function.update queues queue ((queues queue).filter keep)) :=
  none.update queue fun job membership => none queue job (List.mem_of_mem_filter membership)

theorem NoJob.change (none : NoJob taskId queues) (queue : QueueName) (id : String)
    {states : List JobState} (unfinished : ∀ state ∈ states, state.isUnfinished = true)
    {change : Job → Job} (kept : ∀ job, (change job).data = job.data) :
    NoJob taskId (queues.change queue id states change) := by
  refine none.update queue fun job membership named => ?_
  obtain ⟨old, listed, rfl⟩ := List.mem_map.mp membership
  split at named
  · rename_i changed
    rw [kept old] at named
    have pending := unfinished old.state changed.2
    rw [none queue old listed named] at pending
    cases pending
  · rename_i unchanged
    rw [if_neg unchanged]
    exact none queue old listed named

theorem NoJob.add (none : NoJob taskId queues) (queue : QueueName) {job : Job}
    (other : TaskWorker.taskOf job.data ≠ taskId) : NoJob taskId (queues.add queue job) := by
  unfold TaskQueues.add
  split
  · exact none
  · refine none.update queue fun entry membership named => ?_
    rcases List.mem_append.mp membership with earlier | added
    · exact none queue entry earlier named
    · obtain rfl : entry = job := by simpa using added
      exact absurd named other

theorem NoJob.serve {server : Server} (none : NoJob taskId server.queues) {choice : Choice}
    {call : ServerRequest} (spares : Spares taskId call) :
    NoJob taskId (server.serve choice call).2.queues := by
  cases keeps : call.keepsQueues with
  | true => rwa [Server.serve_queues keeps]
  | false =>
      unfold Server.serve
      split
      · exact none
      · cases call with
        | addJob queue data priority =>
            simp only [Server.perform, Server.enqueue]
            split
            · exact none
            · exact none.add queue spares
        | removeJob queue jobId => exact none.filter queue _
        | expireJob queue jobId => exact none.filter queue _
        | moveToFailed queue jobId =>
            refine none.change queue jobId (by decide) fun job => ?_
            split <;> rfl
        | takeJob queue jobId => exact none.change queue jobId (by decide) fun _ => rfl
        | promoteJob queue jobId => exact none.change queue jobId (by decide) fun _ => rfl
        | stallJob queue jobId => exact none.change queue jobId (by decide) fun _ => rfl
        | finishJob queue jobId success =>
            cases success with
            | true => exact none.change queue jobId (by decide) fun _ => rfl
            | false => exact none.change queue jobId (by decide) fun _ => rfl
        | _ => cases keeps

end Jobs

theorem TaskRow.status_apply (row : TaskRow) (write : TaskWrite) :
    (row.apply write).status = row.status ∨
      (∃ status, write = .updateStatus status ∧ (row.apply write).status = status) ∨
      ∃ reason, write = .setFailed reason := by
  cases write with
  | updateStatus status => exact .inr (.inl ⟨status, rfl, rfl⟩)
  | setFailed reason => exact .inr (.inr ⟨reason, rfl⟩)
  | _ => exact .inl rfl

theorem Spares.written {taskId : String} {request : Request}
    (spares : Spares taskId (.work request)) (system : System) (choice : Choice) :
    ((system.serve choice request).2.tasks taskId).map TaskRow.status =
        (system.tasks taskId).map TaskRow.status ∨
      (((system.serve choice request).2.tasks taskId).map TaskRow.status).any
        TaskStatus.isReopened = false := by
  rcases system.serve_tasks choice request with unchanged | ⟨id, write, rfl, changed⟩
  · rw [unchanged]
    exact .inl rfl
  · rw [changed, System.writeTask]
    by_cases same : taskId = id
    · subst same
      cases found : system.tasks taskId with
      | none => simp
      | some row =>
          rcases row.status_apply write with kept | ⟨status, rfl, _⟩ | ⟨reason, rfl⟩
          · simp [kept]
          · right
            simpa [found, TaskRow.apply] using spares rfl
          · exact absurd rfl spares
    · simp [Function.update_of_ne same]

theorem Spares.status {taskId : String} {call : ServerRequest} (spares : Spares taskId call)
    (server : Server) (choice : Choice) :
    (server.serve choice call).2.status taskId = server.status taskId ∨
      ((server.serve choice call).2.status taskId).any TaskStatus.isReopened = false := by
  unfold Server.serve
  split
  · exact .inl rfl
  · cases call with
    | work request =>
        have performed : (server.perform choice (.work request)).2.system =
            (server.system.serve choice request).2 := rfl
        unfold Server.status
        rw [performed]
        exact spares.written server.system choice
    | describeTask id description =>
        left
        simp only [Server.perform, Server.status, Server.updateRow]
        by_cases same : taskId = id
        · subst same
          cases server.system.tasks taskId <;> simp
        · simp [Function.update_of_ne same]
    | createTask id title description projectId repositoryId =>
        simp only [Server.perform, Server.insertRow, Server.status]
        split
        · exact .inl rfl
        · by_cases same : taskId = id
          · subst same
            right
            simp [TaskStatus.isReopened]
          · left
            simp [Function.update_of_ne same]
    | addJob queue data priority =>
        left
        simp only [Server.perform, Server.enqueue]
        split <;> rfl
    | _ => exact .inl rfl

theorem Spares.not_reopens {taskId : String} {step : ServerStep}
    (spares : Spares taskId step.call) : ¬Reopens taskId step := by
  rintro ⟨changed, reopened⟩
  rcases spares.status step.before step.choice with same | closed
  · exact changed same
  · exact absurd reopened (by simp [ServerStep.after, closed])

section Programs

variable {taskId : String} {config : ServerConfig}

theorem plan_names {workspacesDir : String} {request : TaskRequest} {found : Lookup}
    {plan : RunPlan} (planned : request.plan? workspacesDir found = some plan) :
    TaskWorker.taskOf plan.data = request.taskId ∨
      ∃ id userId name options other, request = .retryFrom id userId name options ∧
        options.property "taskId" = some other ∧
        TaskWorker.taskOf plan.data = other.display := by
  rcases TaskRequest.plan?_cases planned with
    ⟨id, userId, name, options, phase, rfl, rfl⟩ | ⟨_, project, extra, _, free, data⟩
  · have read := retryPlan_property workspacesDir id userId phase options found "taskId"
    rw [(retryFields_property id userId phase found).1] at read
    cases given : options.property "taskId" with
    | none =>
        left
        rw [TaskWorker.taskOf, read, given]
        rfl
    | some other =>
        refine .inr ⟨id, userId, name, options, other, rfl, given, ?_⟩
        rw [TaskWorker.taskOf, read, given]
        rfl
  · left
    rw [TaskWorker.taskOf, data, Json.property_obj_append, free _ (by simp [readFields]),
      (jobFields_property ..).1]
    rfl

theorem statuses_closed {request : TaskRequest} (restarts : request.restarts taskId = false)
    (disturbs : request.disturbs taskId = false) (same : request.taskId = taskId)
    {status : TaskStatus} (listed : status ∈ request.statuses) : status.isReopened = false := by
  cases request with
  | interrupt id =>
      obtain rfl : status = .paused := by simpa [TaskRequest.statuses] using listed
      rfl
  | cancel id =>
      obtain rfl : status = .cancelled := by simpa [TaskRequest.statuses] using listed
      rfl
  | _ => simp_all [TaskRequest.restarts, TaskRequest.disturbs, TaskRequest.taskId]

theorem plan_other {workspacesDir : String} {request : TaskRequest}
    (restarts : request.restarts taskId = false) (disturbs : request.disturbs taskId = false)
    {found : Lookup} {plan : RunPlan}
    (planned : request.plan? workspacesDir found = some plan) :
    TaskWorker.taskOf plan.data ≠ taskId := by
  intro named
  rcases plan_names planned with own | ⟨id, userId, name, options, other, rfl, given, shown⟩
  · cases request <;>
      simp_all [TaskRequest.restarts, TaskRequest.plan?, TaskRequest.taskId]
  · simp_all [TaskRequest.restarts, TaskRequest.disturbs]

theorem route_spares {request : TaskRequest} (restarts : request.restarts taskId = false)
    (disturbs : request.disturbs taskId = false) :
    Uses (Spares taskId) (Routes.route config request) := by
  apply Routes.route_uses
  · intro call work
    cases call with
    | work request => cases request <;> trivial
    | _ => trivial
  · exact fun status listed same => statuses_closed restarts disturbs same listed
  · exact fun found plan planned => plan_other restarts disturbs planned
  · exact fun _ _ _ _ _ => trivial
  · exact fun _ _ => ⟨trivial, trivial⟩
  · exact fun _ => trivial

theorem process_spares {queue : QueueName} {jobId : String} {data : Json}
    (other : TaskWorker.taskOf data ≠ taskId) :
    Uses (Spares taskId) (TaskWorker.process config queue jobId data) := by
  apply TaskWorker.process_uses
  · intro call work
    cases call with
    | work request =>
        cases request with
        | writeTask id write => cases write <;> trivial
        | _ => trivial
    | _ => trivial
  · intro write
    cases write with
    | updateStatus status => exact fun same => absurd same other
    | setFailed reason => exact other
    | _ => trivial

theorem taken {server : Server} {choice : Choice} {queue : QueueName} {jobId : String}
    {data : Json} (answer : (server.serve choice (.takeJob queue jobId)).1 = some data) :
    ∃ job ∈ server.queues queue, job.id = jobId ∧ job.state.isUnfinished = true ∧
      job.data = data := by
  have performed : (server.serve choice (.takeJob queue jobId)).1 =
      ((server.queues.find? queue jobId).filter fun job =>
        job.state = .waiting ∨ job.state = .prioritized).map Job.data := by
    unfold Server.serve
    cases choice.fault <;> rfl
  rw [performed] at answer
  obtain ⟨job, kept, named⟩ := Option.map_eq_some_iff.mp answer
  obtain ⟨found, ready⟩ := Option.filter_eq_some_iff.mp kept
  refine ⟨job, List.mem_of_find?_eq_some found, by simpa using List.find?_some found, ?_, named⟩
  rcases (by simpa using ready : job.state = .waiting ∨ job.state = .prioritized) with
    state | state <;> rw [state] <;> rfl

theorem job_other (generated : IsGeneratedId taskId) {job : Job} (other : job.id ≠ taskId) :
    TaskWorker.taskOf job.data ≠ taskId := by
  intro named
  have truthy := generated.truthy named
  apply other
  symm
  apply job.filed
  unfold TaskWorker.taskOf at named
  cases found : job.data.property "taskId" with
  | none => simp [found, Value.truthy] at truthy
  | some value => simp_all [jobId?, Value.truthy, Value.display, Option.filter]

end Programs

/-- What every interleaving keeps: a process that has begun works on the task or spares it, and
while the task is cancelled there is no job of it and all of them spare it. -/
structure Safe (config : ServerConfig) (taskId : String) (pool : ServerPool) : Prop where
  threads : ∀ thread ∈ pool.threads, thread.2 = thread.1.program config ∨
    thread.1.worksOn taskId = true ∨ Uses (Spares taskId) thread.2
  jobs : Cancelled taskId pool.world.history → NoJob taskId pool.world.state.queues
  spared : Cancelled taskId pool.world.history → ∀ thread ∈ pool.threads,
    thread.2 = thread.1.program config ∨ Uses (Spares taskId) thread.2
  final : StaysCancelled taskId pool.world.history

theorem ServerRequest.eq_of_answersCancelled {taskId : String} {call : ServerRequest}
    (answers : call.answersCancelled taskId = true) :
    call = .respond (.cancel taskId) .cancelled := by
  unfold answersCancelled at answers
  split at answers
  · rw [beq_iff_eq.mp answers]
  · cases answers

namespace Safe

variable {config : ServerConfig} {taskId : String} {pool : ServerPool}

theorem spawn (safe : Safe config taskId pool) (actor : Actor) :
    Safe config taskId
      { pool with threads := pool.threads ++ [(actor, actor.program config)] } := by
  constructor
  · intro thread membership
    rcases List.mem_append.mp membership with old | new
    · exact safe.threads thread old
    · obtain rfl : thread = (actor, actor.program config) := by simpa using new
      exact .inl rfl
  · exact safe.jobs
  · intro cancelled thread membership
    rcases List.mem_append.mp membership with old | new
    · exact safe.spared cancelled thread old
    · obtain rfl : thread = (actor, actor.program config) := by simpa using new
      exact .inl rfl
  · exact safe.final

section Advance

variable {index : Nat} {actor : Actor} {call : ServerRequest}
  {rest : call.Answer → ServerProgram Unit}

theorem advance (safe : Safe config taskId pool)
    (rests : LeavesAtRest taskId pool (.advance index))
    (found : pool.threads[index]? = some (actor, .ask call rest))
    (spares : Cancelled taskId pool.world.history → Spares taskId call)
    (begun : actor.worksOn taskId = true ∨ Uses (Spares taskId) (rest (pool.world.answer call)))
    (spared : Cancelled taskId (pool.world.next call).history →
      Uses (Spares taskId) (rest (pool.world.answer call))) :
    Safe config taskId
      { world := pool.world.next call
        threads := pool.threads.set index (actor, rest (pool.world.answer call)) } := by
  have issued : pool.issues? (.advance index) = some call := by simp [Pool.issues?, found]
  have opened (answers : call.answersCancelled taskId = true) : AtRest taskId pool :=
    rests.1 (by rw [issued]; exact answers)
  constructor
  · intro thread membership
    rcases List.mem_or_eq_of_mem_set membership with old | rfl
    · exact safe.threads thread old
    · exact .inr begun
  · rintro (answers | ⟨_, cancelled⟩)
    · obtain rfl := ServerRequest.eq_of_answersCancelled answers
      exact (opened answers).jobs.serve trivial
    · exact (safe.jobs cancelled).serve (spares cancelled)
  · intro cancelled thread membership
    rcases List.mem_or_eq_of_mem_set membership with old | rfl
    · rcases cancelled with answers | ⟨_, cancelled⟩
      · rcases safe.threads thread old with fresh | works | uses
        · exact .inl fresh
        · exact .inr (Uses.of_ended ((opened answers).threads thread old works))
        · exact .inr uses
      · exact safe.spared cancelled thread old
    · exact .inr (spared cancelled)
  · refine .cons (fun reopens cancelled => ?_) safe.final
    exact (spares cancelled).not_reopens reopens

theorem advance_used (safe : Safe config taskId pool)
    (rests : LeavesAtRest taskId pool (.advance index))
    (found : pool.threads[index]? = some (actor, .ask call rest))
    (uses : Uses (Spares taskId) (.ask call rest : ServerProgram Unit)) :
    Safe config taskId
      { world := pool.world.next call
        threads := pool.threads.set index (actor, rest (pool.world.answer call)) } :=
  safe.advance rests found (fun _ => uses.1) (.inr (uses.2 _)) fun _ => uses.2 _

theorem advance_client (safe : Safe config taskId pool)
    (rests : LeavesAtRest taskId pool (.advance index)) {request : TaskRequest}
    (found : pool.threads[index]? = some (.client request, .ask call rest))
    (fresh : .ask call rest = Routes.handle config request) :
    Safe config taskId
      { world := pool.world.next call
        threads := pool.threads.set index (.client request, rest (pool.world.answer call)) } := by
  have handled : Routes.handle config request = .ask (.arrive request) fun _ =>
      (Routes.route config request >>= fun response =>
        ServerRequest.issue (.respond request response)) := rfl
  rw [handled] at fresh
  cases fresh
  have uses (restarts : request.restarts taskId = false)
      (disturbs : request.disturbs taskId = false) :
      Uses (Spares taskId) (Routes.route config request >>= fun response =>
        ServerRequest.issue (.respond request response)) :=
    .bind (route_spares restarts disturbs) fun _ => .call trivial
  refine safe.advance rests found (fun _ => trivial) ?_ ?_
  · cases restarts : request.restarts taskId with
    | true => exact .inl (by simp [Actor.worksOn, restarts])
    | false =>
        cases disturbs : request.disturbs taskId with
        | true => exact .inl (by simp [Actor.worksOn, disturbs])
        | false => exact .inr (uses restarts disturbs)
  · rintro (answers | ⟨again, cancelled⟩)
    · cases answers
    · have issued : pool.issues? (.advance index) = some (.arrive request) := by
        simp [Pool.issues?, found]
      have alone : request.disturbs taskId = false := by
        by_contra disturbs
        exact rests.2 (by simpa [issued, ServerRequest.disturbs] using disturbs) cancelled
      exact uses (by simpa [ServerRequest.asksAgain] using again) alone

theorem advance_worker (generated : IsGeneratedId taskId) (safe : Safe config taskId pool)
    (rests : LeavesAtRest taskId pool (.advance index)) {queue : QueueName} {jobId : String}
    (found : pool.threads[index]? = some (.worker queue jobId, .ask call rest))
    (fresh : .ask call rest = TaskWorker.work config queue jobId) :
    Safe config taskId
      { world := pool.world.next call
        threads := pool.threads.set index
          (.worker queue jobId, rest (pool.world.answer call)) } := by
  have takes : TaskWorker.work config queue jobId = .ask (.takeJob queue jobId) fun
      | none => pure ()
      | some data => TaskWorker.process config queue jobId data := rfl
  rw [takes] at fresh
  cases fresh
  refine safe.advance rests found (fun _ => trivial) ?_ ?_
  · by_cases own : jobId = taskId
    · exact .inl (by simp [Actor.worksOn, own])
    · right
      rcases answer : pool.world.answer (.takeJob queue jobId) with _ | data
      · exact .pure _
      · obtain ⟨job, _, rfl, _, rfl⟩ := taken answer
        exact process_spares (job_other generated own)
  · rintro (answers | ⟨_, cancelled⟩)
    · cases answers
    · rcases answer : pool.world.answer (.takeJob queue jobId) with _ | data
      · exact .pure _
      · obtain ⟨job, listed, _, unfinished, rfl⟩ := taken answer
        apply process_spares
        intro named
        rw [safe.jobs cancelled queue job listed named] at unfinished
        cases unfinished

end Advance

theorem move (safe : Safe config taskId pool) (generated : IsGeneratedId taskId)
    (move : Move Actor) (rests : LeavesAtRest taskId pool move) :
    Safe config taskId (pool.move (Actor.program config) move) := by
  rcases pool.move_cases (Actor.program config) move with
    ⟨actor, rfl, moved⟩ | ⟨index, actor, call, rest, rfl, found, moved⟩ | moved
  · rw [moved]
    exact safe.spawn actor
  · rw [moved]
    have listed : (actor, .ask call rest) ∈ pool.threads := List.mem_of_getElem? found
    by_cases fresh : .ask call rest = actor.program config
    · cases actor with
      | client request => exact safe.advance_client rests found fresh
      | worker queue jobId => exact safe.advance_worker generated rests found fresh
      | promotion queue jobId =>
          exact safe.advance_used rests found (fresh ▸ Uses.call trivial)
      | stalled queue jobId =>
          exact safe.advance_used rests found (fresh ▸ Uses.call trivial)
      | expiry queue jobId =>
          exact safe.advance_used rests found (fresh ▸ Uses.call trivial)
    · by_cases uses : Uses (Spares taskId) (.ask call rest : ServerProgram Unit)
      · exact safe.advance_used rests found uses
      · -- The process works on the task, so the task is neither cancelled nor at rest.
        have works : actor.worksOn taskId = true := by
          rcases safe.threads _ listed with same | works | spares
          · exact absurd same fresh
          · exact works
          · exact absurd spares uses
        have live : ¬Cancelled taskId pool.world.history := by
          intro cancelled
          rcases safe.spared cancelled _ listed with same | spares
          · exact fresh same
          · exact uses spares
        refine safe.advance rests found (fun cancelled => absurd cancelled live) (.inl works) ?_
        rintro (answers | ⟨_, cancelled⟩)
        · have issued : pool.issues? (.advance index) = some call := by
            simp [Pool.issues?, found]
          cases (rests.1 (by rw [issued]; exact answers)).threads _ listed works
        · exact absurd cancelled live
  · rw [moved]
    exact safe

end Safe

/-- A task stays cancelled in every interleaving that leaves it at rest. -/
theorem cancellation_is_final (config : ServerConfig) (server : Server) (choices : Nat → Choice)
    (taskId : String) (moves : List (Move Actor)) (generated : IsGeneratedId taskId)
    (rests : Pool.Guarded (Actor.program config) (LeavesAtRest taskId) moves
      ⟨server.start choices, []⟩) :
    StaysCancelled taskId
      (Pool.run (Actor.program config) ⟨server.start choices, []⟩ moves).world.history := by
  have initial : Safe config taskId ⟨server.start choices, []⟩ := by
    constructor
    · exact nofun
    · exact nofun
    · exact fun _ => nofun
    · exact .nil
  have step (pool : ServerPool) (move : Move Actor) (rests : LeavesAtRest taskId pool move)
      (safe : Safe config taskId pool) :
      Safe config taskId (pool.move (Actor.program config) move) :=
    safe.move generated move rests
  exact (Pool.run_invariant step rests initial).final

namespace CancelSample

open ServerSample

/-- The task is started, and cancelled while its job waits. -/
def cancelsWaiting : List (Move Actor) :=
  .spawn (.client start) :: List.replicate 15 (.advance 0) ++
    .spawn (.client (.cancel "m1_a")) :: List.replicate 6 (.advance 1)

/-- The task is cancelled once a worker has taken its job, and the worker goes on. -/
def cancelsActive : List (Move Actor) :=
  .spawn (.client start) :: List.replicate 15 (.advance 0) ++
    .spawn (.worker .tasks "m1_a") :: List.replicate 3 (.advance 1) ++
    .spawn (.client (.cancel "m1_a")) :: List.replicate 6 (.advance 2) ++
    List.replicate 2 (.advance 1)

end CancelSample

open ServerSample CancelSample in
/-- After the answer the execution sets the status of the task to running again. -/
theorem worker_reopens_cancelled_task :
    ¬StaysCancelled "m1_a" (Pool.run (Actor.program config) ⟨server.start fun _ => {}, []⟩
      cancelsActive).world.history := by
  decide +kernel

open ServerSample CancelSample in
theorem waiting_task_stays_cancelled :
    StaysCancelled "m1_a" (Pool.run (Actor.program config) ⟨server.start fun _ => {}, []⟩
      cancelsWaiting).world.history :=
  cancellation_is_final config server (fun _ => {}) "m1_a" cancelsWaiting generated
    (by decide +kernel)

end MultiAgents
