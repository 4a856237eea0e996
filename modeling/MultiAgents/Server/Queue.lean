import MultiAgents.System.Request

/-!
# The task queues

Two queues hold the jobs of the tasks, one of them for subscribers.  A job has
the id of its task, and a queue ignores an addition under an id it already
knows, in whatever state that job is.  Finished jobs stay for a while.
-/

namespace MultiAgents

open Text

inductive JobState where
  | waiting
  | delayed
  | prioritized
  | active
  | completed
  | failed
  deriving DecidableEq

/-- A job that is still to be run, or is being run. -/
def JobState.isUnfinished : JobState → Bool
  | .completed | .failed => false
  | _ => true

/-- The id a job is added under: the task's, or one the queue makes up. -/
def jobId? (data : Json) : Option String :=
  ((data.property "taskId").filter Json.truthy).map Json.display

structure Job where
  id : String
  data : Json
  /-- A job whose data names a task has the id of that task. -/
  filed : ∀ taskId, jobId? data = some taskId → taskId = id
  state : JobState
  attemptsMade : Nat := 0
  deriving DecidableEq

/-- `attempts` of the job options. -/
def jobAttempts : Nat := 3

/-- After a failure a job is delayed for another attempt while there is one left. -/
def Job.failed (job : Job) : Job :=
  { job with
    state := if job.attemptsMade + 1 < jobAttempts then .delayed else .failed
    attemptsMade := job.attemptsMade + 1 }

inductive QueueName where
  | tasks
  | priority
  deriving DecidableEq

abbrev TaskQueues := QueueName → List Job

/-- `options.priority || data.priority || 0`. -/
def jobPriority (priority : Json) (data : Json) : Json :=
  Value.orElse (some priority) (Value.orElse (data.property "priority") (.num 0 0))

def newJob (madeUp : String) (data : Json) (priority : Json) : Job where
  id := (jobId? data).getD madeUp
  data := data
  filed := by
    intro taskId found
    rw [found, Option.getD_some]
  state := if priority.toNumber.positive then .prioritized else .waiting

namespace TaskQueues

variable (queues : TaskQueues)

def find? (queue : QueueName) (id : String) : Option Job :=
  (queues queue).find? fun job => job.id == id

/-- A job that exists under the id stands, whatever its state and its data. -/
def add (queue : QueueName) (job : Job) : TaskQueues :=
  if (queues.find? queue job.id).isSome then queues
  else Function.update queues queue (queues queue ++ [job])

def remove (queue : QueueName) (id : String) : TaskQueues :=
  Function.update queues queue ((queues queue).filter fun job => job.id != id)

def change (queue : QueueName) (id : String) (states : List JobState) (change : Job → Job) :
    TaskQueues :=
  Function.update queues queue ((queues queue).map fun job =>
    if job.id = id ∧ job.state ∈ states then change job else job)

/-- `getJob`: the main queue comes first. -/
def getJob (id : String) : Option QueueName :=
  if (queues.find? .tasks id).isSome then some .tasks
  else if (queues.find? .priority id).isSome then some .priority
  else none

def take (queue : QueueName) (id : String) : TaskQueues :=
  queues.change queue id [.waiting, .prioritized] fun job => { job with state := .active }

def complete (queue : QueueName) (id : String) : TaskQueues :=
  queues.change queue id [.active] fun job => { job with state := .completed }

def fail (queue : QueueName) (id : String) : TaskQueues :=
  queues.change queue id [.active] Job.failed

/-- `moveToFailed`: whether another attempt follows is left to the queue. -/
def moveToFailed (queue : QueueName) (id : String) (retried : Bool) : TaskQueues :=
  queues.change queue id [.active] fun job =>
    if retried then job.failed else { job with state := .failed }

def promote (queue : QueueName) (id : String) : TaskQueues :=
  queues.change queue id [.delayed] fun job => { job with state := .waiting }

def stall (queue : QueueName) (id : String) : TaskQueues :=
  queues.change queue id [.active] fun job => { job with state := .waiting }

/-- The time for which a finished job is kept is over. -/
def expire (queue : QueueName) (id : String) : TaskQueues :=
  Function.update queues queue
    ((queues queue).filter fun job => job.id != id || job.state.isUnfinished)

def staleStates : List JobState := [.active, .waiting, .delayed]

/-- `cleanStaleJobsOnStartup`; a removal that fails is ignored and leaves its job. -/
def cleanStaleJobsOnStartup (removalFails : QueueName → Job → Bool) : TaskQueues := fun queue =>
  (queues queue).filter fun job => job.state ∉ staleStates || removalFails queue job

end TaskQueues

end MultiAgents
