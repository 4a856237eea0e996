import MultiAgents.Containers.Tickets
import MultiAgents.Services.EventSubscriptions

/-!
# Executions of sessions

A session that is registered starts an execution of its task, and one that is
unregistered completes it; neither is awaited.  A call is not interrupted between
two waits, so a step here is what it does up to its queries, or from their answer
on.  Executions are numbered as they are entered under their task.
-/

namespace MultiAgents.ExecutionTracker

open Containers

/-- A call that waits for its queries.  One that completes or fails an execution holds what it
found under the task. -/
inductive Waiting where
  | start (taskId : String)
  | finish (taskId : String) (execution : Nat)
  deriving DecidableEq

structure Executions where
  subscriptions : Subscriptions := {}
  calls : Tickets Waiting := .empty
  -- The tasks of the executions.
  entered : List String := []
  activeExecutions : OrderedMap String Nat := .empty
  -- Those completed or failed, each with the entry that was then removed.
  finished : List (Nat × Option Nat) := []

namespace Executions

variable (tracker : Executions)

def wait (call : Waiting) : Executions := { tracker with calls := tracker.calls.add call }

def startExecution (taskId : String) : Executions := tracker.wait (.start taskId)

def finishExecution (taskId : String) : Executions :=
  match tracker.activeExecutions.get? taskId with
  | none => tracker
  | some active => tracker.wait (.finish taskId active)

def completeExecution (taskId : String) : Executions := tracker.finishExecution taskId

def failExecution (taskId : String) : Executions := tracker.finishExecution taskId

def cancelExecution (taskId : String) : Executions := tracker.finishExecution taskId

def registerSession (taskId sessionId directory : String) : Executions :=
  if directory = "" then tracker
  else
    { tracker with
      subscriptions := tracker.subscriptions.registerSession taskId sessionId directory
      }.startExecution taskId

def unregisterSession (sessionId : String) : Executions :=
  match tracker.subscriptions.activeSessions.get? sessionId with
  | none => tracker
  | some session =>
      { tracker with
        subscriptions := tracker.subscriptions.unregisterSession sessionId
        }.completeExecution session.taskId

/-- The row is there, or the row has been updated. -/
def resume : Waiting → Executions
  | .start taskId =>
      { tracker with
        entered := tracker.entered ++ [taskId]
        activeExecutions := tracker.activeExecutions.set taskId tracker.entered.length }
  | .finish taskId active =>
      { tracker with
        activeExecutions := tracker.activeExecutions.erase taskId
        finished := tracker.finished ++ [(active, tracker.activeExecutions.get? taskId)] }

inductive Action where
  | registerSession (taskId sessionId directory : String)
  | unregisterSession (sessionId : String)
  | failExecution (taskId : String)
  | cancelExecution (taskId : String)
  | answer (call : Nat)
  | fault (call : Nat)

/-- A call whose query fails is over. -/
def step (tracker : Executions) : Action → Executions
  | .registerSession taskId sessionId directory =>
      tracker.registerSession taskId sessionId directory
  | .unregisterSession sessionId => tracker.unregisterSession sessionId
  | .failExecution taskId => tracker.failExecution taskId
  | .cancelExecution taskId => tracker.cancelExecution taskId
  | .answer call =>
      match tracker.calls.get? call with
      | none => tracker
      | some waiting => { tracker with calls := tracker.calls.remove call }.resume waiting
  | .fault call => { tracker with calls := tracker.calls.remove call }

end Executions

end MultiAgents.ExecutionTracker
