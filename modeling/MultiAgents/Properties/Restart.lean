import MultiAgents.Properties.ServerSample

/-!
# Tasks after a restart

At startup running and paused tasks become interrupted, and the jobs that wait
or were being worked on are removed.  The two do not agree on the tasks that are
queued or wait for an approval: their jobs go, and they stay as they are.
-/

namespace MultiAgents

/-- The statuses that say that work is pending or in progress. -/
def TaskStatus.isPending : TaskStatus → Bool
  | .queued | .running | .paused | .waitingForApproval => true
  | _ => false

structure Settled (before after : Server) : Prop where
  pending : ∀ taskId row, after.system.tasks taskId = some row → row.status.isPending = true →
    after.queues.getJob taskId ≠ none
  resumable : ∀ taskId row, before.system.tasks taskId = some row → row.status.isPending = true →
    after.queues.getJob taskId = none →
      ∃ left, after.system.tasks taskId = some left ∧ left.status.isResumable = true

/-- A job of the task that the clean-up leaves. -/
def Survives (server : Server) (removalFails : QueueName → Job → Bool) (taskId : String) : Prop :=
  ∃ queue, ∃ job ∈ server.queues queue, job.id = taskId ∧
    (job.state ∉ TaskQueues.staleStates ∨ removalFails queue job = true)

theorem TaskQueues.getJob_ne_none_iff (queues : TaskQueues) (id : String) :
    queues.getJob id ≠ none ↔ ∃ queue, ∃ job ∈ queues queue, job.id = id := by
  have found (queue : QueueName) :
      (queues.find? queue id).isSome = true ↔ ∃ job ∈ queues queue, job.id = id := by
    simp [TaskQueues.find?]
  constructor
  · intro present
    by_cases main : (queues.find? .tasks id).isSome = true
    · exact ⟨.tasks, (found .tasks).mp main⟩
    · by_cases other : (queues.find? .priority id).isSome = true
      · exact ⟨.priority, (found .priority).mp other⟩
      · exact absurd (by simp [TaskQueues.getJob, main, other]) present
  · rintro ⟨queue, present⟩
    have some := (found queue).mpr present
    unfold TaskQueues.getJob
    cases queue with
    | tasks => simp [some]
    | priority =>
        rw [some]
        split <;> simp

theorem survives_iff (server : Server) (removalFails : QueueName → Job → Bool) (taskId : String) :
    (server.restart removalFails).queues.getJob taskId ≠ none ↔
      Survives server removalFails taskId := by
  rw [TaskQueues.getJob_ne_none_iff]
  constructor
  · rintro ⟨queue, job, left, named⟩
    obtain ⟨present, kept⟩ := List.mem_filter.mp left
    exact ⟨queue, job, present, named, by simpa using kept⟩
  · rintro ⟨queue, job, present, named, kept⟩
    exact ⟨queue, job, List.mem_filter.mpr ⟨present, by simpa using kept⟩, named⟩

theorem TaskRow.recovered_of_stale {row : TaskRow} (stale : row.status.isStale = true) :
    row.recovered.status = .interrupted := by
  simp [recovered, stale]

theorem TaskRow.recovered_of_not_stale {row : TaskRow} (fresh : row.status.isStale = false) :
    row.recovered = row := by
  simp [recovered, fresh]

/-- A restart leaves no pending task behind just if each task that is queued or waits for an
approval has a job that the clean-up leaves. -/
theorem restart_settles_iff (server : Server) (removalFails : QueueName → Job → Bool) :
    Settled server (server.restart removalFails) ↔
      ∀ taskId row, server.system.tasks taskId = some row →
        row.status = .queued ∨ row.status = .waitingForApproval →
          Survives server removalFails taskId := by
  constructor
  · intro settled taskId row present status
    have fresh : row.status.isStale = false := by
      rcases status with status | status <;> rw [status] <;> rfl
    have pending : row.status.isPending = true := by
      rcases status with status | status <;> rw [status] <;> rfl
    have left : (server.restart removalFails).system.tasks taskId = some row := by
      simp [Server.restart, Server.recoverStaleTasks, present,
        TaskRow.recovered_of_not_stale fresh]
    exact (survives_iff ..).mp (settled.pending taskId row left pending)
  · intro survive
    constructor
    · intro taskId row left pending
      obtain ⟨old, present, rfl⟩ : ∃ old, server.system.tasks taskId = some old ∧
          old.recovered = row := by
        simpa [Server.restart, Server.recoverStaleTasks] using left
      have fresh : old.status.isStale = false := by
        by_contra stale
        rw [TaskRow.recovered_of_stale (by simpa using stale)] at pending
        cases pending
      rw [TaskRow.recovered_of_not_stale fresh] at pending
      apply (survives_iff ..).mpr
      apply survive taskId old present
      revert fresh pending
      cases old.status <;> simp [TaskStatus.isStale, TaskStatus.isPending]
    · intro taskId row present pending gone
      have stale : row.status.isStale = true := by
        by_contra fresh
        apply (survives_iff server removalFails taskId).mpr _ gone
        apply survive taskId row present
        revert fresh pending
        cases row.status <;> simp [TaskStatus.isStale, TaskStatus.isPending]
      refine ⟨row.recovered, ?_, ?_⟩
      · simp [Server.restart, Server.recoverStaleTasks, present]
      · rw [TaskRow.recovered_of_stale stale]
        rfl

namespace RestartSample

open ServerSample

/-- The server once the task has been started. -/
def started : ServerWorld :=
  ((Routes.handle config start).exec (server.start fun _ => {})).2

end RestartSample

open ServerSample RestartSample in
/-- A task that has just been started is left queued without a job, and cannot be resumed. -/
theorem queued_task_is_left_behind :
    (started.state.system.tasks "m1_a").map TaskRow.status = some .queued ∧
      started.state.queues.getJob "m1_a" = some .tasks ∧
      ((started.state.restart fun _ _ => false).system.tasks "m1_a").map TaskRow.status =
        some .queued ∧
      (started.state.restart fun _ _ => false).queues.getJob "m1_a" = none ∧
      ¬Settled started.state (started.state.restart fun _ _ => false) := by
  have facts : (started.state.system.tasks "m1_a").map TaskRow.status = some .queued ∧
      started.state.queues.getJob "m1_a" = some .tasks ∧
      ((started.state.restart fun _ _ => false).system.tasks "m1_a").map TaskRow.status =
        some .queued ∧
      (started.state.restart fun _ _ => false).queues.getJob "m1_a" = none := by
    decide +kernel
  obtain ⟨before, job, after, gone⟩ := facts
  refine ⟨before, job, after, gone, ?_⟩
  intro settled
  obtain ⟨row, left, status⟩ := Option.map_eq_some_iff.mp after
  exact settled.pending "m1_a" row left (by rw [status]; rfl) gone

end MultiAgents
