import MultiAgents.Server.Routes

/-!
# Clearing the queues

A task is cancelled in the first queue that knows its job, and only where the job waits, is delayed
or active.  A job with a priority is in none of these states, and neither a cancellation nor the
clean-up at startup removes it.
-/

namespace MultiAgents

open Effects

/-- A job that is still to be started. -/
def JobState.isUnstarted : JobState → Bool
  | .waiting | .delayed | .prioritized => true
  | _ => false

namespace ClearedQueues

variable {queues : TaskQueues} {queue : QueueName} {taskId : String} {retried : Bool}

def Distinct (queues : TaskQueues) : Prop :=
  ∀ queue, ((queues queue).map Job.id).Nodup

/-- The queues after a cancellation; `retried` tells whether the queue gives an active job another
attempt when it is moved to the failed ones. -/
def cancelled (queues : TaskQueues) (taskId : String) (retried : Bool) : TaskQueues :=
  match queues.getJob taskId with
  | none => queues
  | some queue =>
      match (queues.find? queue taskId).map Job.state with
      | some .waiting | some .delayed => queues.remove queue taskId
      | some .active => queues.moveToFailed queue taskId retried
      | _ => queues

/-- The job of the task in a queue is one that a cancellation stops there: it has no priority, and
if it is active there is no other attempt.  In a queue where the task is not looked for, the job
has been started. -/
def Stopped (queues : TaskQueues) (taskId : String) (retried : Bool) (queue : QueueName)
    (job : Job) : Prop :=
  if queues.getJob taskId = some queue then
    job.state ≠ .prioritized ∧
      (job.state = .active → retried = true → jobAttempts ≤ job.attemptsMade + 1)
  else job.state.isUnstarted = false

instance (queues : TaskQueues) (taskId : String) (retried : Bool) (queue : QueueName)
    (job : Job) : Decidable (Stopped queues taskId retried queue job) :=
  inferInstanceAs (Decidable (if queues.getJob taskId = some queue then _ ∧ (_ → _ → _) else _))

theorem find?_of_getJob (known : queues.getJob taskId = some queue) :
    ∃ job, queues.find? queue taskId = some job := by
  unfold TaskQueues.getJob at known
  split at known
  · cases known
    exact Option.isSome_iff_exists.mp ‹_›
  · split at known
    · cases known
      exact Option.isSome_iff_exists.mp ‹_›
    · cases known

theorem forall_job_iff (distinct : Distinct queues) {job : Job}
    (found : queues.find? queue taskId = some job) (holds : Job → Prop) :
    (∀ other ∈ queues queue, other.id = taskId → holds other) ↔ holds job := by
  have membership := List.mem_of_find?_eq_some found
  have own : job.id = taskId := by simpa using List.find?_some found
  constructor
  · exact fun every => every job membership own
  · intro held other listed named
    rwa [List.inj_on_of_nodup_map (distinct queue) listed membership (named.trans own.symm)]

theorem removed_unstarted (job : Job)
    (left : job ∈ queues.remove queue taskId queue) : job.id ≠ taskId := by
  simp only [TaskQueues.remove, Function.update_self, List.mem_filter, bne_iff_ne] at left
  exact left.2

theorem moveToFailed_unstarted (distinct : Distinct queues) {job : Job}
    (found : queues.find? queue taskId = some job) (active : job.state = .active) :
    (∀ other ∈ queues.moveToFailed queue taskId retried queue, other.id = taskId →
        other.state.isUnstarted = false) ↔
      (retried = true → jobAttempts ≤ job.attemptsMade + 1) := by
  let moved (job : Job) : Job :=
    if job.id = taskId ∧ job.state ∈ [.active] then
      if retried then job.failed else { job with state := .failed }
    else job
  have moved_id (other : Job) : (moved other).id = other.id := by
    simp only [moved]
    split
    · split <;> rfl
    · rfl
  have own : job.id = taskId := by simpa using List.find?_some found
  have queued : queues.moveToFailed queue taskId retried queue = (queues queue).map moved := by
    simp only [TaskQueues.moveToFailed, TaskQueues.change, Function.update_self]
    rfl
  rw [queued, List.forall_mem_map]
  simp only [moved_id]
  rw [forall_job_iff distinct found fun other => (moved other).state.isUnstarted = false]
  have changed : moved job = if retried then job.failed else { job with state := .failed } :=
    if_pos ⟨own, by simp [active]⟩
  rw [changed]
  cases retried with
  | false => simp [JobState.isUnstarted]
  | true =>
      by_cases again : job.attemptsMade + 1 < jobAttempts
      · simp [Job.failed, again, JobState.isUnstarted]
      · simp [Job.failed, again, JobState.isUnstarted, Nat.le_of_not_lt again]

theorem cancelled_chosen (distinct : Distinct queues)
    (known : queues.getJob taskId = some queue) :
    (∀ job ∈ cancelled queues taskId retried queue, job.id = taskId →
        job.state.isUnstarted = false) ↔
      ∀ job ∈ queues queue, job.id = taskId → Stopped queues taskId retried queue job := by
  obtain ⟨job, found⟩ := find?_of_getJob known
  have unchanged := forall_job_iff distinct found fun job => job.state.isUnstarted = false
  rw [forall_job_iff distinct found, Stopped, if_pos known, cancelled, known]
  simp only [found, Option.map_some]
  cases state : job.state with
  | waiting =>
      exact iff_of_true (fun other left named => absurd named (removed_unstarted other left))
        ⟨nofun, nofun⟩
  | delayed =>
      exact iff_of_true (fun other left named => absurd named (removed_unstarted other left))
        ⟨nofun, nofun⟩
  | active =>
      simp only [ne_eq, reduceCtorEq, not_false_eq_true, true_and, forall_const]
      exact moveToFailed_unstarted distinct found state
  | _ =>
      refine unchanged.trans ?_
      rw [state]
      simp [JobState.isUnstarted]

theorem cancelled_elsewhere (other : queues.getJob taskId ≠ some queue) :
    cancelled queues taskId retried queue = queues queue := by
  unfold cancelled
  cases known : queues.getJob taskId with
  | none => rfl
  | some chosen =>
      have different : queue ≠ chosen := by
        rintro rfl
        exact other known
      have removed : queues.remove chosen taskId queue = queues queue :=
        Function.update_of_ne different _ _
      have moved : queues.moveToFailed chosen taskId retried queue = queues queue :=
        Function.update_of_ne different _ _
      dsimp only
      cases (queues.find? chosen taskId).map Job.state with
      | none => rfl
      | some state => cases state <;> first | rfl | exact removed | exact moved

theorem cancelled_iff (distinct : Distinct queues) :
    (∀ queue, ∀ job ∈ cancelled queues taskId retried queue, job.id = taskId →
        job.state.isUnstarted = false) ↔
      ∀ queue, ∀ job ∈ queues queue, job.id = taskId →
        Stopped queues taskId retried queue job := by
  refine forall_congr' fun queue => ?_
  by_cases known : queues.getJob taskId = some queue
  · exact cancelled_chosen distinct known
  · rw [cancelled_elsewhere known]
    simp only [Stopped, if_neg known]

/-- What the queue does with an active job that is moved to the failed ones: the choice of the third
request of a cancellation. -/
def retries (taskId : String) (world : ServerWorld) : Bool :=
  match world.state.queues.getJob taskId with
  | none => false
  | some queue =>
      ((world.next (.getJob taskId)).next (.getState queue taskId)).choice.found

theorem served (world : ServerWorld) (request : ServerRequest) :
    serverEnvironment.serve world.state world.choice request =
        world.state.perform world.choice request ∨
      ∃ message answer, request.throws? message = some answer ∧
        serverEnvironment.serve world.state world.choice request = (answer, world.state) := by
  show Server.serve _ _ _ = _ ∨ ∃ message answer, _ ∧ Server.serve _ _ _ = _
  unfold Server.serve
  split
  · rename_i answer thrown
    obtain ⟨message, -, throws⟩ := Option.bind_eq_some_iff.mp thrown
    exact .inr ⟨message, answer, throws, rfl⟩
  · exact .inl rfl

theorem getJob_triple (world : ServerWorld) :
    Triple Anything (fun before : ServerWorld => before = world)
      (Process.attempt (ServerRequest.issue (.getJob taskId)))
      (fun found after => found = world.state.queues.getJob taskId ∧
        after = world.next (.getJob taskId))
      (fun _ _ => True) := by
  apply Triple.attempt
  apply Triple.call
  rintro before rfl _
  unfold World.answer
  rcases served before (.getJob taskId) with done | ⟨message, _, ⟨⟩, thrown⟩
  · rw [done]
    exact ⟨rfl, rfl⟩
  · rw [thrown]
    trivial

theorem getState_triple (world : ServerWorld) :
    Triple Anything (fun before : ServerWorld => before = world)
      (Process.attempt (ServerRequest.issue (.getState queue taskId)))
      (fun state after => state = (world.state.queues.find? queue taskId).map Job.state ∧
        after = world.next (.getState queue taskId))
      (fun _ _ => True) := by
  apply Triple.attempt
  apply Triple.call
  rintro before rfl _
  unfold World.answer
  rcases served before (.getState queue taskId) with
    done | ⟨message, _, ⟨⟩, thrown⟩
  · rw [done]
    exact ⟨rfl, rfl⟩
  · rw [thrown]
    trivial

theorem removeJob_triple (world : ServerWorld) :
    Triple Anything (fun before : ServerWorld => before = world)
      (Process.attempt (ServerRequest.issue (.removeJob queue taskId)))
      (fun _ after => after.state.queues = world.state.queues.remove queue taskId)
      (fun _ _ => True) := by
  apply Triple.attempt
  apply Triple.call
  rintro before rfl _
  unfold World.answer World.next
  rcases served before (.removeJob queue taskId) with
    done | ⟨message, _, ⟨⟩, thrown⟩
  · rw [done]
    rfl
  · rw [thrown]
    trivial

theorem moveToFailed_triple (world : ServerWorld) :
    Triple Anything (fun before : ServerWorld => before = world)
      (Process.attempt (ServerRequest.issue (.moveToFailed queue taskId)))
      (fun _ after => after.state.queues =
        world.state.queues.moveToFailed queue taskId world.choice.found)
      (fun _ _ => True) := by
  apply Triple.attempt
  apply Triple.call
  rintro before rfl _
  unfold World.answer World.next
  rcases served before (.moveToFailed queue taskId) with
    done | ⟨message, _, ⟨⟩, thrown⟩
  · rw [done]
    rfl
  · rw [thrown]
    trivial

theorem next_getJob (world : ServerWorld) : (world.next (.getJob taskId)).state = world.state := by
  rw [World.next_state]
  rcases served world (.getJob taskId) with done | ⟨message, _, ⟨⟩, thrown⟩
  · rw [done]
    rfl
  · rw [thrown]

theorem next_getState (world : ServerWorld) :
    (world.next (.getState queue taskId)).state = world.state := by
  rw [World.next_state]
  rcases served world (.getState queue taskId) with
    done | ⟨message, _, ⟨⟩, thrown⟩
  · rw [done]
    rfl
  · rw [thrown]

theorem cancelJob_triple (taskId : String) (world : ServerWorld) :
    Triple Anything (fun before : ServerWorld => before = world) (Routes.cancelJob taskId)
      (fun _ after => after.state.queues =
        cancelled world.state.queues taskId (retries taskId world))
      (fun _ _ => True) := by
  apply (getJob_triple world).bind
  intro found
  apply Triple.given
  rintro rfl
  unfold cancelled retries
  cases known : world.state.queues.getJob taskId with
  | none =>
      refine .pure ?_
      rintro _ rfl
      rw [next_getJob]
  | some queue =>
      apply (getState_triple (world.next (.getJob taskId))).bind
      intro state
      apply Triple.given
      rintro rfl
      rw [next_getJob]
      have looked : ((world.next (.getJob taskId)).next (.getState queue taskId)).state.queues =
          world.state.queues := by
        rw [next_getState, next_getJob]
      have unchanged : Triple Anything
          (fun before : ServerWorld =>
            before = (world.next (.getJob taskId)).next (.getState queue taskId))
          (pure false : ServerProgram Bool)
          (fun _ after => after.state.queues = world.state.queues)
          (fun _ _ => True) := by
        refine .pure ?_
        rintro _ rfl
        exact looked
      have removed : Triple Anything
          (fun before : ServerWorld =>
            before = (world.next (.getJob taskId)).next (.getState queue taskId))
          (do
            Process.attempt (ServerRequest.issue (.removeJob queue taskId))
            pure true)
          (fun _ after => after.state.queues = world.state.queues.remove queue taskId)
          (fun _ _ => True) := by
        rw [← looked]
        apply (removeJob_triple _).bind
        intro _
        exact .pure fun _ => id
      dsimp only
      cases (world.state.queues.find? queue taskId).map Job.state with
      | none => exact unchanged
      | some state =>
          cases state with
          | waiting => exact removed
          | delayed => exact removed
          | active =>
              rw [← looked]
              apply (moveToFailed_triple _).bind
              intro _
              exact .pure fun _ => id
          | _ => exact unchanged

theorem cleaned_iff (removalFails : QueueName → Job → Bool) :
    (∀ queue, ∀ job ∈ queues.cleanStaleJobsOnStartup removalFails queue,
        job.state.isUnfinished = false) ↔
      ∀ queue, ∀ job ∈ queues queue, job.state.isUnfinished = true →
        job.state ≠ .prioritized ∧ removalFails queue job = false := by
  refine forall_congr' fun queue => ?_
  simp only [TaskQueues.cleanStaleJobsOnStartup, List.mem_filter, and_imp]
  refine forall_congr' fun job => forall_congr' fun _ => ?_
  cases job.state <;> simp [TaskQueues.staleStates, JobState.isUnfinished]

end ClearedQueues

open ClearedQueues in
/-- A cancellation that returns leaves no job of the task that is still to be started exactly if
each job of the task is stopped by it; and after startup no unfinished job is left exactly if none
has a priority and the removal of each succeeds. -/
theorem queues_cleared (world : ServerWorld) (queues : TaskQueues)
    (removalFails : QueueName → Job → Bool) :
    (∀ (taskId : String) (answer : Bool), Distinct world.state.queues →
      ((Routes.cancelJob taskId).exec world).1 = .ok answer →
      ((∀ queue, ∀ job ∈ ((Routes.cancelJob taskId).exec world).2.state.queues queue,
          job.id = taskId → job.state.isUnstarted = false) ↔
        ∀ queue, ∀ job ∈ world.state.queues queue, job.id = taskId →
          Stopped world.state.queues taskId (retries taskId world) queue job)) ∧
    ((∀ queue, ∀ job ∈ queues.cleanStaleJobsOnStartup removalFails queue,
          job.state.isUnfinished = false) ↔
      ∀ queue, ∀ job ∈ queues queue, job.state.isUnfinished = true →
        job.state ≠ .prioritized ∧ removalFails queue job = false) := by
  refine ⟨?_, cleaned_iff removalFails⟩
  intro taskId answer distinct returned
  have outcome := (cancelJob_triple taskId world).outcome rfl
  generalize (Routes.cancelJob taskId).exec world = run at returned outcome ⊢
  obtain ⟨message | value, after⟩ := run
  · cases returned
  · rw [show after.state.queues = _ from outcome]
    exact cancelled_iff distinct

namespace ClearedQueues

def jobIn (state : JobState) : Job where
  id := "m1_a"
  data := .obj [("taskId", .str "m1_a")]
  filed := by
    rintro _ ⟨⟩
    rfl
  state := state

def serverWith (tasks priority : List JobState) : Server where
  system := { repositories := fun _ => none, tasks := fun _ => none }
  queues
    | .tasks => tasks.map jobIn
    | .priority => priority.map jobIn

/-- What the cancellation of the task returns, and the states of its jobs afterwards. -/
def cancelledJobs (tasks priority : List JobState) :
    Except String Bool × List JobState × List JobState :=
  let (answer, world) :=
    (Routes.cancelJob "m1_a").exec ((serverWith tasks priority).start fun _ => {})
  (answer, (world.state.queues .tasks).map Job.state, (world.state.queues .priority).map Job.state)

end ClearedQueues

open ClearedQueues in
/-- A job with a priority stays, and so does one that waits in the second queue while the first
knows one that has failed; the clean-up at startup leaves a job with a priority too. -/
theorem prioritized_job_stays :
    (∃ answer, cancelledJobs [.prioritized] [] = (.ok answer, [.prioritized], [])) ∧
      (∃ answer, cancelledJobs [.failed] [.waiting] = (.ok answer, [.failed], [.waiting])) ∧
      ((serverWith [.prioritized] []).queues.cleanStaleJobsOnStartup
        (fun _ _ => false) .tasks).map Job.state = [.prioritized] :=
  ⟨⟨false, by decide +kernel⟩, ⟨false, by decide +kernel⟩, by decide +kernel⟩

open ClearedQueues in
theorem waiting_job_cancelled :
    ∀ queue, ∀ job ∈ ((Routes.cancelJob "m1_a").exec
        ((serverWith [.waiting] [.completed]).start fun _ => {})).2.state.queues queue,
      job.id = "m1_a" → job.state.isUnstarted = false := by
  have distinct : Distinct (serverWith [.waiting] [.completed]).queues := by
    intro queue
    cases queue <;> decide +kernel
  refine ((queues_cleared ((serverWith [.waiting] [.completed]).start fun _ => {}) (fun _ => [])
    fun _ _ => false).1 "m1_a" true
    distinct (by decide +kernel)).mpr ?_
  intro queue job membership named
  cases queue with
  | tasks =>
      obtain rfl := List.mem_singleton.mp membership
      decide +kernel
  | priority =>
      obtain rfl := List.mem_singleton.mp membership
      decide +kernel

end MultiAgents
