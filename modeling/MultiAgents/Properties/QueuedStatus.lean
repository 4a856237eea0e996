import MultiAgents.Effects.Trace
import MultiAgents.Properties.Cancellation

/-!
# The status of a task whose job is taken

A route that starts a run adds the job before it writes that the task is queued,
and looks at the queues in between.  A worker may take the job and write its own
status there, which the route then writes over.  It does not when no worker takes
the job as long as a route that has added it has that write ahead.
-/

namespace MultiAgents

open Effects

/-- What a request is to the job of a task: a route adds it and writes `queued`, a worker takes it
and writes how the work on it goes. -/
inductive JobEvent where
  | added
  | queued
  | taken
  | worked
  deriving DecidableEq

def TaskWrite.jobEvent? : TaskWrite → Option JobEvent
  | .updateStatus .queued => some .queued
  | .updateStatus .running | .updateStatus .waitingForApproval | .updateStatus .completed
  | .updateStatus .failed | .setFailed _ => some .worked
  | _ => none

def ServerRequest.jobEvent? (queue : QueueName) (taskId : String) :
    ServerRequest → Option JobEvent
  | .addJob into data _ => if into = queue ∧ jobId? data = some taskId then some .added else none
  | .takeJob source id => if source = queue ∧ id = taskId then some .taken else none
  | .work (.writeTask id write) => if id = taskId then write.jobEvent? else none
  | _ => none

/-- The events of a job with the processes they come from, the newest first. -/
def jobEvents (queue : QueueName) (taskId : String) (trace : List (Issued serverCalls)) :
    List (Nat × JobEvent) :=
  trace.filterMap fun issued =>
    (ServerRequest.jobEvent? queue taskId issued.call).map (issued.thread, ·)

/-- No process writes `queued` when one that took the job it has added, after it was added, has
written a status for it. -/
def NeverQueuedLate (queue : QueueName) (taskId : String) (trace : List (Issued serverCalls)) :
    Prop :=
  ∀ route worker, ¬List.Sublist
    [(route, .queued), (worker, .worked), (worker, .taken), (route, .added)]
    (jobEvents queue taskId trace)

/-- A process that does not write `queued` for the task any more. -/
def QueuesNoMore (queue : QueueName) (taskId : String) (process : ServerProgram Unit) : Prop :=
  Uses (fun call => ServerRequest.jobEvent? queue taskId call ≠ some .queued) process

/-- The job is taken only when those that have added it do not write `queued` any more. -/
def TakesSettled (queue : QueueName) (taskId : String) (pool : ServerPool)
    (past : List (Issued serverCalls)) (issued : Issued serverCalls) : Prop :=
  ServerRequest.jobEvent? queue taskId issued.call = some .taken →
    ∀ route actor process, pool.threads[route]? = some (actor, process) →
      (route, .added) ∈ jobEvents queue taskId past → QueuesNoMore queue taskId process

theorem jobEvents_cons (queue : QueueName) (taskId : String) (issued : Issued serverCalls)
    (past : List (Issued serverCalls)) :
    jobEvents queue taskId (issued :: past) =
      ((ServerRequest.jobEvent? queue taskId issued.call).map (issued.thread, ·)).toList ++
        jobEvents queue taskId past := by
  unfold jobEvents
  rw [List.filterMap_cons]
  cases ServerRequest.jobEvent? queue taskId issued.call <;> rfl

theorem sublist_jobEvents_cons {queue : QueueName} {taskId : String} {issued : Issued serverCalls}
    {past : List (Issued serverCalls)} {thread : Nat} {event : JobEvent}
    {earlier : List (Nat × JobEvent)}
    (found : List.Sublist ((thread, event) :: earlier)
      (jobEvents queue taskId (issued :: past))) :
    List.Sublist ((thread, event) :: earlier) (jobEvents queue taskId past) ∨
      issued.thread = thread ∧ ServerRequest.jobEvent? queue taskId issued.call = some event ∧
        List.Sublist earlier (jobEvents queue taskId past) := by
  rw [jobEvents_cons] at found
  cases new : ServerRequest.jobEvent? queue taskId issued.call with
  | none =>
      rw [new] at found
      exact .inl found
  | some now =>
      rw [new] at found
      rcases List.sublist_cons_iff.mp found with old | ⟨rest, same, old⟩
      · exact .inl old
      · cases same
        exact .inr ⟨rfl, rfl, old⟩

/-- A process whose job was taken after it had added it does not write `queued` any more. -/
structure QueuedInTime (queue : QueueName) (taskId : String) (pool : ServerPool)
    (past : List (Issued serverCalls)) : Prop where
  known : ∀ issued ∈ past, issued.thread < pool.threads.length
  quiet : ∀ route worker actor process, pool.threads[route]? = some (actor, process) →
    List.Sublist [(worker, .taken), (route, .added)] (jobEvents queue taskId past) →
    QueuesNoMore queue taskId process
  never : NeverQueuedLate queue taskId past

namespace QueuedInTime

variable {queue : QueueName} {taskId : String} {pool : ServerPool}
  {past : List (Issued serverCalls)}

theorem initial (queue : QueueName) (taskId : String)
    (pool : ServerPool) : QueuedInTime queue taskId pool [] where
  known _ member := (List.not_mem_nil member).elim
  quiet _ _ _ _ _ taken := by simp [jobEvents] at taken
  never _ _ late := by simp [jobEvents] at late

theorem thread_lt (settled : QueuedInTime queue taskId pool past) {thread : Nat} {event : JobEvent}
    (happened : (thread, event) ∈ jobEvents queue taskId past) : thread < pool.threads.length := by
  obtain ⟨issued, member, same⟩ := List.mem_filterMap.mp happened
  obtain ⟨_, _, same⟩ := Option.map_eq_some_iff.mp same
  cases same
  exact settled.known issued member

theorem spawn (settled : QueuedInTime queue taskId pool past) (actor : Actor)
    (process : ServerProgram Unit) :
    QueuedInTime queue taskId { pool with threads := pool.threads ++ [(actor, process)] } past where
  known issued member := by
    have inside := settled.known issued member
    simp only [List.length_append, List.length_singleton]
    omega
  quiet route worker actor process found taken := by
    have inside := settled.thread_lt (taken.subset (List.mem_cons_of_mem _ List.mem_cons_self))
    rw [List.getElem?_append_left inside] at found
    exact settled.quiet route worker actor process found taken
  never := settled.never

theorem advance (settled : QueuedInTime queue taskId pool past) {index : Nat} {actor : Actor}
    {call : ServerRequest} {rest : call.Answer → ServerProgram Unit}
    (found : pool.threads[index]? = some (actor, .ask call rest))
    (allowed : TakesSettled queue taskId pool past ⟨index, call⟩) (answer : call.Answer)
    (world : World serverEnvironment) :
    QueuedInTime queue taskId { world, threads := pool.threads.set index (actor, rest answer) }
      (⟨index, call⟩ :: past) := by
  have inside : index < pool.threads.length := (List.getElem?_eq_some_iff.mp found).1
  refine ⟨?_, ?_, ?_⟩
  · intro issued member
    rw [List.length_set]
    rcases List.mem_cons.mp member with rfl | member
    · exact inside
    · exact settled.known issued member
  · intro route worker owner process now taken
    have before : ∀ owner process, pool.threads[route]? = some (owner, process) →
        QueuesNoMore queue taskId process := by
      intro owner process runs
      rcases sublist_jobEvents_cons taken with old | ⟨_, takes, added⟩
      · exact settled.quiet route worker owner process runs old
      · exact allowed takes route owner process runs (List.singleton_sublist.mp added)
    by_cases own : index = route
    · subst own
      rw [List.getElem?_set_self inside] at now
      cases now
      exact (before actor _ found).2 answer
    · rw [List.getElem?_set_ne own] at now
      exact before owner process now
  · intro route worker late
    rcases sublist_jobEvents_cons late with old | ⟨rfl, queued, old⟩
    · exact settled.never route worker old
    · have quiet := settled.quiet index worker actor _ found (List.sublist_of_cons_sublist old)
      exact quiet.1 queued

end QueuedInTime

/-- In every interleaving in which the job of a task is taken only when those that have added it do
not write `queued` any more, `queued` is never written over what a worker has written for it. -/
theorem queued_before_work (config : ServerConfig) (server : Server) (choices : Nat → Choice)
    (queue : QueueName) (taskId : String) (moves : List (Move Actor))
    (settled : Pool.Supervised (Actor.program config) (TakesSettled queue taskId) moves
      ⟨server.start choices, []⟩ []) :
    NeverQueuedLate queue taskId
      (Pool.trace (Actor.program config) moves ⟨server.start choices, []⟩ []) := by
  refine (Pool.trace_invariant ?_ ?_ settled (QueuedInTime.initial queue taskId _)).never
  · exact fun _ _ actor before => before.spawn actor _
  · exact fun _ _ _ _ _ _ found allowed before => before.advance found allowed _ _

theorem takesSettled_of_ended {queue : QueueName} {taskId : String}
    {pool : ServerPool} {past : List (Issued serverCalls)}
    {issued : Issued serverCalls}
    (ended : ServerRequest.jobEvent? queue taskId issued.call = some .taken →
      ∀ event ∈ jobEvents queue taskId past,
        (pool.threads[event.1]?).all (fun thread => thread.2.ended) = true) :
    TakesSettled queue taskId pool past issued := by
  intro takes route actor process found added
  have done := ended takes _ added
  simp only [found, Option.all_some] at done
  exact Uses.of_ended done

namespace QueuedSample

open ServerSample

/-- A worker takes the job while the route looks at the queues. -/
def takenEarly : List (Move Actor) :=
  .spawn (.client start) :: List.replicate 12 (.advance 0) ++
    .spawn (.worker .tasks "m1_a") :: List.replicate 2 (.advance 1) ++
    List.replicate 2 (.advance 0)

/-- A worker takes the job of a task after its route has answered. -/
def takenLate : List (Move Actor) :=
  .spawn (.client start) :: List.replicate 15 (.advance 0) ++
    .spawn (.worker .tasks "m1_a") :: List.replicate 3 (.advance 1)

end QueuedSample

open ServerSample QueuedSample in
/-- The worker has written that the task is running when the route writes `queued`. -/
theorem queued_over_running :
    ¬NeverQueuedLate .tasks "m1_a"
      (Pool.trace (Actor.program config) takenEarly ⟨server.start fun _ => {}, []⟩ []) := by
  intro never
  exact never 0 1 (by decide +kernel)

open ServerSample QueuedSample in
/-- The worker's writes come after the route's. -/
theorem queued_before_late_work :
    List.Sublist [(1, .worked), (1, .taken), (0, .queued), (0, .added)]
        (jobEvents .tasks "m1_a"
          (Pool.trace (Actor.program config) takenLate ⟨server.start fun _ => {}, []⟩ [])) ∧
      NeverQueuedLate .tasks "m1_a"
        (Pool.trace (Actor.program config) takenLate ⟨server.start fun _ => {}, []⟩ []) := by
  refine ⟨by decide +kernel, queued_before_work config server _ .tasks "m1_a" takenLate ?_⟩
  have ended : Pool.Supervised (Actor.program config) (fun pool past issued =>
      ServerRequest.jobEvent? .tasks "m1_a" issued.call = some .taken →
        ∀ event ∈ jobEvents .tasks "m1_a" past,
          (pool.threads[event.1]?).all (fun thread => thread.2.ended) = true)
      takenLate ⟨server.start fun _ => {}, []⟩ [] := by
    decide +kernel
  exact ended.mono fun _ _ _ => takesSettled_of_ended

end MultiAgents
