import MultiAgents.Containers.OrderedMap
import MultiAgents.Effects.Machine
import MultiAgents.Text.Record

/-!
# Activity logs

Entries are collected in an array for each task and handed to the repository in
batches: all arrays at every tick of a timer, and the array of one task as soon as
it is full.  The arrays are objects that are shared by reference; `arrays` holds
them all, and an address is a position in it.
-/

namespace MultiAgents

open Containers Text

structure LogEntry where
  type : String
  content : String
  tool : Value := none
  toolState : Value := none
  toolInput : Value := none
  toolOutput : Value := none
  deriving DecidableEq

/-- A call of the repository with the array it was given.  The entries were written into its
query at once; it is in progress until there is an outcome. -/
structure AppendCall where
  taskId : String
  array : Nat
  entries : List LogEntry
  outcome : Option (Except String Unit) := none

structure ActivityLogs where
  arrays : List (List LogEntry) := []
  pendingActivityLogs : OrderedMap String Nat := .empty
  flushTimer : Bool := true
  -- All calls, in the order in which they were issued.
  calls : List AppendCall := []
  -- For each stop that has not ended the numbers of calls before and after its flush.
  stopping : List (Nat × Nat) := []
  -- The logs in the rows of the tasks.
  activityLog : OrderedMap String (List LogEntry) := .empty

namespace ActivityLogs

def maxBatchSize : Nat := 50

variable (logs : ActivityLogs)

def contents (array : Nat) : List LogEntry := (logs.arrays[array]?).getD []

def newArray : Nat := logs.arrays.length

def allocate (entries : List LogEntry) : ActivityLogs :=
  { logs with arrays := logs.arrays ++ [entries] }

def push (array : Nat) (entry : LogEntry) : ActivityLogs :=
  { logs with arrays := logs.arrays.modify array fun entries => entries ++ [entry] }

def setPending (taskId : String) (array : Nat) : ActivityLogs :=
  { logs with pendingActivityLogs := logs.pendingActivityLogs.set taskId array }

/-- Nothing is written for no entries. -/
def appendActivityLogs (taskId : String) (array : Nat) : ActivityLogs :=
  if logs.contents array = [] then logs
  else { logs with calls := logs.calls ++ [{ taskId, array, entries := logs.contents array }] }

/-- Every array is handed to the repository as it is. -/
def flushAllActivityLogs : ActivityLogs :=
  logs.pendingActivityLogs.entries.foldl (fun logs entry => logs.appendActivityLogs entry.1 entry.2)
    { logs with pendingActivityLogs := .empty }

def forceFlush (taskId : String) (array : Nat) : ActivityLogs :=
  let copied := logs.allocate (logs.contents array)
  let replaced := (copied.allocate []).setPending taskId copied.newArray
  replaced.appendActivityLogs taskId logs.newArray

def addEntry (taskId : String) (array : Nat) (entry : LogEntry) : ActivityLogs :=
  let pushed := logs.push array entry
  if maxBatchSize ≤ (pushed.contents array).length then pushed.forceFlush taskId array else pushed

def queueActivityLog (taskId : String) (entry : LogEntry) : ActivityLogs :=
  match logs.pendingActivityLogs.get? taskId with
  | some array => logs.addEntry taskId array entry
  | none => ((logs.allocate []).setPending taskId logs.newArray).addEntry taskId logs.newArray entry

def rowsAfter (taskId : String) (entries : List LogEntry) (outcome : Except String Unit) :
    OrderedMap String (List LogEntry) :=
  match outcome, logs.activityLog.get? taskId with
  | .ok _, some stored => logs.activityLog.set taskId (stored ++ entries)
  | _, _ => logs.activityLog

/-- A query that is in progress ends. -/
def settle (call : Nat) (outcome : Except String Unit) : ActivityLogs :=
  match logs.calls[call]? with
  | some { taskId, array, entries, outcome := none } =>
      { logs with
        calls := logs.calls.set call { taskId, array, entries, outcome := some outcome }
        activityLog := logs.rowsAfter taskId entries outcome }
  | _ => logs

def stop : ActivityLogs :=
  let flushed := { logs with flushTimer := false }.flushAllActivityLogs
  { flushed with stopping := flushed.stopping ++ [(logs.calls.length, flushed.calls.length)] }

/-- The rest of a stop, once the queries of its flush have ended. -/
def finishStop (index : Nat) : ActivityLogs :=
  match logs.stopping[index]? with
  | some (before, after) =>
      if ((logs.calls.take after).drop before).all fun call => call.outcome.isSome then
        { logs with stopping := logs.stopping.eraseIdx index, pendingActivityLogs := .empty }
      else logs
  | none => logs

/-- What happens to the logs, one after another. -/
inductive Action where
  | queueActivityLog (taskId : String) (entry : LogEntry)
  | flush
  | settle (call : Nat) (outcome : Except String Unit)
  | stop
  | finishStop (index : Nat)

/-- The bridge is being stopped. -/
def Action.isStop : Action → Bool
  | .stop | .finishStop _ => true
  | _ => false

def step : Action → ActivityLogs
  | .queueActivityLog taskId entry => logs.queueActivityLog taskId entry
  | .flush => if logs.flushTimer then logs.flushAllActivityLogs else logs
  | .settle call outcome => logs.settle call outcome
  | .stop => logs.stop
  | .finishStop index => logs.finishStop index

end ActivityLogs

end MultiAgents
