import MultiAgents.Containers.OrderedMap
import MultiAgents.System.Request

/-!
# The approval service

Approvals that wait for an answer are kept in a map, each under the id of its
task and the name of its phase joined by a colon.  An answer, a cancellation of
the task or a timer takes a request out of the map and settles the promise that
was returned for it; every decision is logged.
-/

namespace MultiAgents

open Containers Text

/-- How a promise was settled. -/
inductive Settlement where
  | resolved (response : ApprovalResponse)
  | rejected (message : String)
  deriving DecidableEq

/-- The promise that a call of `requestApproval` has returned.  Calls are known by their number. -/
structure ApprovalPromise where
  taskId : String
  phase : String
  outcome : Option Settlement := none
  deriving DecidableEq

/-- Only the first attempt to settle a promise counts. -/
def ApprovalPromise.settle (outcome : Settlement) (promise : ApprovalPromise) : ApprovalPromise :=
  { promise with outcome := promise.outcome.or (some outcome) }

/-- An entry of the map: `request` is the call whose `resolve` and `reject` are held, and `timeout`
tells whether it has a timer. -/
structure PendingApproval where
  request : Nat
  timeout : Bool
  taskId : String
  phase : String
  output : Json
  requestedAt : String

/-- A timer that is set, with what its callback has captured. -/
structure ApprovalTimer where
  request : Nat
  taskId : String
  phase : String
  requestedAt : String
  timeoutMs : Int

inductive AuditAction where
  | approve
  | reject
  | timeout
  deriving DecidableEq

inductive AuditMetadata where
  | answered (feedback : Option String) (requestedAt resolvedAt : String)
  | cancelled (requestedAt cancelledAt : String)
  | timedOut (requestedAt : String) (timeoutMs : Int)

structure ApprovalLog where
  taskId : String
  phase : String
  action : AuditAction
  clientId : Option String := none
  userId : Option String := none
  metadata : AuditMetadata

def approvalKey (taskId phase : String) : String := taskId ++ ":" ++ phase

/-- `text.startsWith(start)`. -/
def startsWith (text start : String) : Bool := start.toList.isPrefixOf text.toList

/-- The service: a request that waits does so under its own key, and nothing has settled it. -/
structure Approvals where
  pending : OrderedMap String PendingApproval
  promises : List ApprovalPromise
  timers : List ApprovalTimer
  audit : List ApprovalLog
  keyed : ∀ key entry, pending.get? key = some entry →
    key = approvalKey entry.taskId entry.phase
  waiting : ∀ key entry, pending.get? key = some entry →
    promises[entry.request]? = some ⟨entry.taskId, entry.phase, none⟩
  armed : ∀ timer ∈ timers, ∃ outcome,
    promises[timer.request]? = some ⟨timer.taskId, timer.phase, outcome⟩

namespace Approvals

def empty : Approvals where
  pending := .empty
  promises := []
  timers := []
  audit := []
  keyed := nofun
  waiting := nofun
  armed := nofun

variable (service : Approvals)

def log (entry : ApprovalLog) : Approvals := { service with audit := service.audit ++ [entry] }

/-- `timeoutMs && timeoutMs > 0`. -/
def timed (timeoutMs : Option Int) : Bool := timeoutMs.any (0 < ·)

theorem promise_append {promises : List ApprovalPromise} {request : Nat}
    {promise : ApprovalPromise} (known : promises[request]? = some promise)
    (other : ApprovalPromise) : (promises ++ [other])[request]? = some promise := by
  obtain ⟨bound, _⟩ := List.getElem?_eq_some_iff.mp known
  rw [List.getElem?_append_left bound, known]

theorem promise_modify (promises : List ApprovalPromise) (request other : Nat)
    (outcome : Settlement) :
    (promises.modify request (ApprovalPromise.settle outcome))[other]? =
      if request = other then promises[other]?.map (ApprovalPromise.settle outcome)
      else promises[other]? := by
  rw [List.getElem?_modify]
  by_cases same : request = other <;> simp [same]

/-- A request replaces one that waits under the same key, whose promise and timer stay as they
are. -/
def requestApproval (taskId phase : String) (output : Json) (timeoutMs : Option Int)
    (requestedAt : String) : Approvals where
  pending := service.pending.set (approvalKey taskId phase)
    { request := service.promises.length, timeout := timed timeoutMs, taskId, phase, output,
      requestedAt }
  promises := service.promises ++ [{ taskId, phase }]
  timers :=
    if timed timeoutMs then
      service.timers ++ [⟨service.promises.length, taskId, phase, requestedAt, timeoutMs.getD 0⟩]
    else service.timers
  audit := service.audit
  keyed := by
    intro key entry found
    rw [OrderedMap.get?_set] at found
    split at found
    · cases found
      assumption
    · exact service.keyed key entry found
  waiting := by
    intro key entry found
    rw [OrderedMap.get?_set] at found
    split at found
    · cases found
      simp
    · exact promise_append (service.waiting key entry found) _
  armed := by
    intro timer membership
    have earlier (known : timer ∈ service.timers) : ∃ outcome,
        (service.promises ++ [⟨taskId, phase, none⟩])[timer.request]? =
          some ⟨timer.taskId, timer.phase, outcome⟩ := by
      obtain ⟨outcome, known⟩ := service.armed timer known
      exact ⟨outcome, promise_append known _⟩
    split at membership
    · rcases List.mem_append.mp membership with known | new
      · exact earlier known
      · obtain rfl := List.mem_singleton.mp new
        exact ⟨none, by simp⟩
    · exact earlier membership

def Made (request : Nat) (taskId phase : String) : Prop :=
  ∃ outcome, service.promises[request]? = some ⟨taskId, phase, outcome⟩

theorem key_of_made {key taskId phase : String} {entry : PendingApproval}
    (found : service.pending.get? key = some entry)
    (made : service.Made entry.request taskId phase) : key = approvalKey taskId phase := by
  obtain ⟨outcome, known⟩ := made
  rw [service.waiting key entry found] at known
  cases known
  exact service.keyed key entry found

/-- Settle the promise of a request, and remove whatever waits under its key; its timer is gone
if it is cleared. -/
def close (request : Nat) (taskId phase : String) (outcome : Settlement) (cleared : Bool)
    (made : service.Made request taskId phase) : Approvals where
  pending := service.pending.erase (approvalKey taskId phase)
  promises := service.promises.modify request (ApprovalPromise.settle outcome)
  timers :=
    if cleared then service.timers.filter fun timer => timer.request ≠ request else service.timers
  audit := service.audit
  keyed := by
    intro key entry found
    rw [OrderedMap.get?_erase] at found
    split at found
    · cases found
    · exact service.keyed key entry found
  waiting := by
    intro key entry found
    rw [OrderedMap.get?_erase] at found
    split at found
    · cases found
    · rename_i other
      have different : request ≠ entry.request := by
        rintro rfl
        exact other (service.key_of_made found made)
      rw [promise_modify, if_neg different]
      exact service.waiting key entry found
  armed := by
    intro timer membership
    have set : timer ∈ service.timers := by
      split at membership
      · exact List.mem_of_mem_filter membership
      · exact membership
    obtain ⟨outcome, known⟩ := service.armed timer set
    rw [promise_modify, known]
    split
    · exact ⟨_, rfl⟩
    · exact ⟨outcome, rfl⟩

def settle (key : String) (outcome : Settlement) : Approvals :=
  match found : service.pending.get? key with
  | none => service
  | some entry => service.close entry.request entry.taskId entry.phase outcome entry.timeout
      ⟨none, service.waiting key entry found⟩

def auditAction : ApprovalAction → AuditAction
  | .approve | .requestChanges => .approve
  | .reject => .reject

def resolveWithAction (taskId phase : String) (response : ApprovalResponse)
    (clientId userId : Option String) (now : String) : Bool × Approvals :=
  let key := approvalKey taskId phase
  match service.pending.get? key with
  | none => (false, service)
  | some entry =>
      (true, (service.settle key (.resolved response)).log
        { taskId, phase, action := auditAction response.action, clientId, userId
          metadata := .answered response.feedback entry.requestedAt now })

def hasPendingApproval (taskId phase : String) : Bool :=
  (service.pending.get? (approvalKey taskId phase)).isSome

/-- One round of the loop over the map. -/
def cancelEntry (taskId now : String) (service : Approvals)
    (entry : String × PendingApproval) : Approvals :=
  if startsWith entry.1 (taskId ++ ":") then
    (service.log
      { taskId, phase := entry.2.phase, action := .reject
        metadata := .cancelled entry.2.requestedAt now }).settle entry.1
      (.rejected "Task cancelled")
  else service

/-- An entry is removed from the map only in its own round, so the rounds are those of the entries
at the start. -/
def cancelTask (taskId now : String) : Approvals :=
  service.pending.entries.foldl (cancelEntry taskId now) service

/-- The callback of the timer of a request, if it is set: it does not look at what waits under its
key by now. -/
def fireTimer (request : Nat) : Approvals :=
  match found : service.timers.find? fun timer => timer.request == request with
  | none => service
  | some timer =>
      (service.close timer.request timer.taskId timer.phase
        (.rejected s!"Approval timeout for {timer.phase}") true
        (service.armed timer (List.mem_of_find?_eq_some found))).log
        { taskId := timer.taskId, phase := timer.phase, action := .timeout
          metadata := .timedOut timer.requestedAt timer.timeoutMs }

end Approvals

end MultiAgents
