import MultiAgents.Properties.ApprovalRequests

/-!
# The log of approvals

Three paths settle a request: an answer, the cancellation of its task and its timer.  Each of them
writes to the log, and a request that one of them has settled is out of reach of the others, also
where two requests share a key.
-/

namespace MultiAgents

open Containers Text

def ApprovalAction.name : ApprovalAction → String
  | .approve => "approve"
  | .reject => "reject"
  | .requestChanges => "request_changes"

def AuditAction.name : AuditAction → String
  | .approve => "approve"
  | .reject => "reject"
  | .timeout => "timeout"

namespace Settlement

/-- What settled a request; a cancellation is a rejection. -/
def action : Settlement → String
  | .resolved response => response.action.name
  | .rejected message => if message = "Task cancelled" then "reject" else "timeout"

/-- The same, with a request for changes as an approval. -/
def loggedAction : Settlement → String
  | .resolved response => (Approvals.auditAction response.action).name
  | .rejected message => if message = "Task cancelled" then "reject" else "timeout"

end Settlement

namespace Approvals

def Settled (service : Approvals) (request : Nat) : Prop :=
  ∃ promise, service.promises[request]? = some promise ∧ promise.outcome ≠ none

def Logs (service : Approvals) (action : Settlement → String) (request : Nat)
    (entry : ApprovalLog) : Prop :=
  ∃ promise outcome, service.promises[request]? = some promise ∧ promise.outcome = some outcome ∧
    entry.action.name = action outcome ∧
    startsWith (approvalKey promise.taskId promise.phase) (entry.taskId ++ ":") = true ∧
    (entry.taskId = promise.taskId → entry.phase = promise.phase)

def LoggedOnce (service : Approvals) (action : Settlement → String) : Prop :=
  ∃ requests : List Nat, requests.Nodup ∧
    (∀ request, request ∈ requests ↔ service.Settled request) ∧
    List.Forall₂ (service.Logs action) requests service.audit

/-- A timer that is set is that of a request that is not settled, and whoever waits for that request
knows of the timer. -/
structure Audited (service : Approvals) : Prop where
  unsettled : ∀ timer ∈ service.timers,
    service.promises[timer.request]? = some ⟨timer.taskId, timer.phase, none⟩
  flagged : ∀ key entry, service.pending.get? key = some entry → ∀ timer ∈ service.timers,
    timer.request = entry.request → entry.timeout = true
  once : service.LoggedOnce Settlement.loggedAction

variable {service : Approvals}

theorem Logs.of_promises {after : Approvals} {action : Settlement → String} {request : Nat}
    {entry : ApprovalLog} (logs : service.Logs action request entry)
    (same : ∀ promise, service.promises[request]? = some promise → promise.outcome ≠ none →
      after.promises[request]? = some promise) : after.Logs action request entry := by
  obtain ⟨promise, outcome, known, done, names⟩ := logs
  exact ⟨promise, outcome, same promise known (by rw [done]; exact nofun), done, names⟩

theorem Audited.close (audited : service.Audited) {request : Nat} {taskId phase : String}
    {outcome : Settlement} {cleared : Bool} {made : service.Made request taskId phase}
    {entry : ApprovalLog} (waits : service.promises[request]? = some ⟨taskId, phase, none⟩)
    (untimed : cleared = false → ∀ timer ∈ service.timers, timer.request ≠ request)
    (action : entry.action.name = outcome.loggedAction)
    (about : startsWith (approvalKey taskId phase) (entry.taskId ++ ":") = true)
    (same : entry.taskId = taskId → entry.phase = phase) :
    ((service.close request taskId phase outcome cleared made).log entry).Audited := by
  have settled : (service.close request taskId phase outcome cleared made).promises[request]? =
      some ⟨taskId, phase, some outcome⟩ := by
    simp only [Approvals.close, promise_modify, if_true, waits]
    rfl
  have others (other : Nat) (different : request ≠ other) :
      (service.close request taskId phase outcome cleared made).promises[other]? =
        service.promises[other]? := by
    simp only [Approvals.close, promise_modify, if_neg different]
  have kept (timer : ApprovalTimer)
      (set : timer ∈ (service.close request taskId phase outcome cleared made).timers) :
      timer ∈ service.timers ∧ request ≠ timer.request := by
    cases cleared with
    | true =>
        obtain ⟨earlier, different⟩ := List.mem_filter.mp set
        exact ⟨earlier, (of_decide_eq_true different).symm⟩
    | false => exact ⟨set, (untimed rfl timer set).symm⟩
  constructor
  · intro timer set
    obtain ⟨earlier, different⟩ := kept timer set
    exact (others timer.request different).trans (audited.unsettled timer earlier)
  · intro key waiting found timer set
    have earlier : service.pending.get? key = some waiting := (OrderedMap.of_get?_erase found).2
    exact audited.flagged key waiting earlier timer (kept timer set).1
  · obtain ⟨requests, distinct, exact, logs⟩ := audited.once
    have unsettled : ¬service.Settled request := by
      rintro ⟨promise, known, done⟩
      rw [waits] at known
      cases known
      exact done rfl
    have fresh : request ∉ requests := fun membership => unsettled ((exact request).mp membership)
    refine ⟨requests ++ [request], ?_, ?_, ?_⟩
    · exact distinct.append (List.nodup_singleton request)
        (List.disjoint_singleton.mpr fresh)
    · intro other
      rw [List.mem_append, List.mem_singleton, exact]
      by_cases different : request = other
      · subst different
        exact iff_of_true (.inr rfl) ⟨_, settled, Option.some_ne_none outcome⟩
      · rw [or_iff_left (Ne.symm different)]
        unfold Settled
        rw [show ((service.close request taskId phase outcome cleared made).log entry).promises =
          (service.close request taskId phase outcome cleared made).promises from rfl,
          others other different]
    · refine List.rel_append ?_ (.cons ⟨_, outcome, settled, rfl, action, about, same⟩ .nil)
      refine logs.imp fun other written earlier => earlier.of_promises ?_
      intro promise known done
      have different : request ≠ other := by
        rintro rfl
        exact unsettled ⟨promise, known, done⟩
      exact (others other different).trans known

theorem startsWith_append (taskId phase : String) :
    startsWith (approvalKey taskId phase) (taskId ++ ":") = true := by
  unfold startsWith
  rw [List.isPrefixOf_iff_prefix]
  exact ⟨phase.toList, by simp [approvalKey]⟩

theorem settle_of_found {key : String} {waiting : PendingApproval}
    (found : service.pending.get? key = some waiting) (outcome : Settlement) :
    service.settle key outcome = service.close waiting.request waiting.taskId waiting.phase outcome
      waiting.timeout ⟨none, service.waiting key waiting found⟩ := by
  unfold Approvals.settle
  split
  · rename_i absent
    rw [absent] at found
    cases found
  · rename_i entry found'
    obtain rfl : entry = waiting := Option.some.inj (found'.symm.trans found)
    rfl

theorem Audited.settle (audited : service.Audited) {key : String} {waiting : PendingApproval}
    (found : service.pending.get? key = some waiting) {outcome : Settlement}
    {entry : ApprovalLog} (action : entry.action.name = outcome.loggedAction)
    (about : startsWith key (entry.taskId ++ ":") = true)
    (same : entry.taskId = waiting.taskId → entry.phase = waiting.phase) :
    ((service.settle key outcome).log entry).Audited := by
  rw [settle_of_found found]
  refine audited.close (service.waiting key waiting found) ?_ action
    (service.keyed key waiting found ▸ about) same
  intro unflagged timer set timed
  have flag := audited.flagged key waiting found timer set timed
  rw [unflagged] at flag
  cases flag

theorem auditAction_name (response : ApprovalResponse) :
    (auditAction response.action).name = (Settlement.resolved response).loggedAction := rfl

theorem audited_answer (audited : service.Audited) (taskId phase : String)
    (response : ApprovalResponse) (clientId userId : Option String) (now : String) :
    (service.resolveWithAction taskId phase response clientId userId now).2.Audited := by
  simp only [resolveWithAction]
  cases found : service.pending.get? (approvalKey taskId phase) with
  | none => exact audited
  | some waiting =>
      refine audited.settle found (auditAction_name response) (startsWith_append taskId phase) ?_
      rintro (rfl : taskId = waiting.taskId)
      exact phase_of_key (service.keyed _ waiting found)

theorem settle_log {key : String} {waiting : PendingApproval}
    (found : service.pending.get? key = some waiting) (outcome : Settlement)
    (entry : ApprovalLog) :
    (service.log entry).settle key outcome = (service.settle key outcome).log entry := by
  have logged : (service.log entry).pending.get? key = some waiting := found
  rw [settle_of_found found, settle_of_found logged]
  rfl

theorem audited_cancelEntry (audited : service.Audited) (taskId now : String)
    {entry : String × PendingApproval} (found : service.pending.get? entry.1 = some entry.2) :
    (cancelEntry taskId now service entry).Audited := by
  unfold cancelEntry
  split
  · rename_i matched
    rw [settle_log found]
    exact audited.settle found rfl matched fun _ => rfl
  · exact audited

theorem audited_cancelEntries (taskId now : String) (entries : List (String × PendingApproval))
    (distinct : (entries.map Prod.fst).Nodup) (service : Approvals) (audited : service.Audited)
    (waiting : ∀ entry ∈ entries, service.pending.get? entry.1 = some entry.2) :
    (entries.foldl (cancelEntry taskId now) service).Audited := by
  induction entries generalizing service with
  | nil => exact audited
  | cons entry rest ih =>
      rw [List.map_cons, List.nodup_cons] at distinct
      apply ih distinct.2
      · exact audited_cancelEntry audited taskId now (waiting entry List.mem_cons_self)
      · intro other membership
        rw [(cancelEntry_closes taskId now entry).kept]
        · exact waiting other (List.mem_cons_of_mem entry membership)
        · rintro ⟨same, _⟩
          exact distinct.1 (same ▸ List.mem_map_of_mem membership)

theorem audited_timeout (audited : service.Audited) (request : Nat) :
    (service.fireTimer request).Audited := by
  unfold fireTimer
  split
  · exact audited
  · rename_i timer found
    have set := List.mem_of_find?_eq_some found
    have late : s!"Approval timeout for {timer.phase}" ≠ "Task cancelled" := by
      intro same
      have first : ("Approval timeout for " ++ timer.phase).toList.head? =
          "Task cancelled".toList.head? := congrArg (·.toList.head?) same
      simp at first
    refine audited.close (audited.unsettled timer set) nofun ?_
      (startsWith_append timer.taskId timer.phase) fun _ => rfl
    rw [Settlement.loggedAction, if_neg late]
    rfl

theorem audited_request (audited : service.Audited) (taskId phase : String) (output : Json)
    (timeoutMs : Option Int) (now : String) :
    (service.requestApproval taskId phase output timeoutMs now).Audited := by
  have known {request : Nat} {promise : ApprovalPromise}
      (earlier : service.promises[request]? = some promise) :
      request < service.promises.length := (List.getElem?_eq_some_iff.mp earlier).1
  have timers {timer : ApprovalTimer}
      (set : timer ∈ (service.requestApproval taskId phase output timeoutMs now).timers) :
      timer ∈ service.timers ∨ timed timeoutMs = true ∧ timer.request = service.promises.length ∧
        timer.taskId = taskId ∧ timer.phase = phase := by
    simp only [requestApproval] at set
    split at set
    · rename_i timed
      rcases List.mem_append.mp set with earlier | new
      · exact .inl earlier
      · obtain rfl := List.mem_singleton.mp new
        exact .inr ⟨timed, rfl, rfl, rfl⟩
    · exact .inl set
  constructor
  · intro timer set
    rcases timers set with earlier | ⟨-, number, rfl, rfl⟩
    · exact promise_append (audited.unsettled timer earlier) _
    · rw [number]
      simp [requestApproval]
  · intro key entry found timer set own
    simp only [requestApproval, OrderedMap.get?_set] at found
    split at found
    · obtain rfl := Option.some.inj found
      rcases timers set with earlier | ⟨timed, -⟩
      · have bound := known (audited.unsettled timer earlier)
        simp only at own
        omega
      · exact timed
    · rcases timers set with earlier | ⟨-, number, -⟩
      · exact audited.flagged key entry found timer earlier own
      · have bound := known (service.waiting key entry found)
        omega
  · obtain ⟨requests, distinct, exact, logs⟩ := audited.once
    refine ⟨requests, distinct, ?_, ?_⟩
    · intro request
      rw [exact]
      constructor
      · rintro ⟨promise, earlier, done⟩
        exact ⟨promise, promise_append earlier _, done⟩
      · rintro ⟨promise, found, done⟩
        rcases getElem?_concat_eq_some.mp found with earlier | ⟨-, rfl⟩
        · exact ⟨promise, earlier, done⟩
        · exact absurd rfl done
    · exact logs.imp fun request entry earlier =>
        earlier.of_promises fun promise known _ => promise_append known _

theorem audited_step (audited : service.Audited) (event : ApprovalEvent) :
    (service.step event).Audited := by
  cases event with
  | request taskId phase output timeoutMs now =>
      exact audited_request audited taskId phase output timeoutMs now
  | answer taskId phase response clientId userId now =>
      exact audited_answer audited taskId phase response clientId userId now
  | cancel taskId now =>
      refine audited_cancelEntries taskId now _ service.pending.nodup service audited ?_
      exact fun entry membership => OrderedMap.mem_entries_iff.mp membership
  | timeout request => exact audited_timeout audited request

theorem empty_audited : empty.Audited := by
  refine ⟨nofun, nofun, [], List.nodup_nil, ?_, .nil⟩
  intro request
  constructor
  · exact nofun
  · rintro ⟨promise, known, _⟩
    cases known

theorem run_audited (events : List ApprovalEvent) (audited : service.Audited) :
    (events.foldl step service).Audited := by
  induction events generalizing service with
  | nil => exact audited
  | cons event rest ih => exact ih (audited_step audited event)

end Approvals

/-- After every sequence of requests, answers, cancellations and timeouts, the log has exactly one
entry for each request that is settled.  It names what settled the request, with a request for
changes as an approval. -/
theorem approvals_logged_once (events : List ApprovalEvent) :
    (Approvals.after events).LoggedOnce Settlement.loggedAction :=
  (Approvals.run_audited events Approvals.empty_audited).once

/-- A request for changes settles the only request, and the log has an approval. -/
theorem changes_logged_as_approval :
    ¬(Approvals.after [Approvals.asked "Analysis" none,
      .answer "42" "Analysis" { action := .requestChanges } none none "10:00"]).LoggedOnce
        Settlement.action := by
  have settled : (Approvals.after [Approvals.asked "Analysis" none,
      .answer "42" "Analysis" { action := .requestChanges } none none "10:00"]).promises =
        [⟨"42", "Analysis", some (.resolved { action := .requestChanges })⟩] := by decide
  rintro ⟨requests, -, -, logs⟩
  cases logs with
  | cons log others =>
      obtain ⟨promise, outcome, known, done, names, -⟩ := log
      rw [settled] at known
      obtain rfl := List.mem_singleton.mp (List.mem_of_getElem? known)
      cases done
      exact absurd names (by decide)

end MultiAgents
