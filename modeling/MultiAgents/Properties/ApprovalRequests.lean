import MultiAgents.Containers.Lists
import MultiAgents.Services.Approvals

/-!
# What becomes of a request for an approval

An answer settles the request that waits for it, and the cancellation of a task
all requests that wait for the task; nothing else is touched.  A second request
under a key that is taken, however, makes the first one disappear from the map,
and the timer of the first one removes the second.
-/

namespace MultiAgents

open Containers Text

inductive ApprovalEvent where
  | request (taskId phase : String) (output : Json) (timeoutMs : Option Int) (now : String)
  | answer (taskId phase : String) (response : ApprovalResponse)
      (clientId userId : Option String) (now : String)
  | cancel (taskId now : String)
  | timeout (request : Nat)

namespace Approvals

def step (service : Approvals) : ApprovalEvent → Approvals
  | .request taskId phase output timeoutMs now =>
      service.requestApproval taskId phase output timeoutMs now
  | .answer taskId phase response clientId userId now =>
      (service.resolveWithAction taskId phase response clientId userId now).2
  | .cancel taskId now => service.cancelTask taskId now
  | .timeout request => service.fireTimer request

/-- The service after some events, from the start of the process. -/
def after (events : List ApprovalEvent) : Approvals := events.foldl step empty

/-- A request of the task with id 42. -/
def asked (phase : String) (timeoutMs : Option Int) : ApprovalEvent :=
  .request "42" phase .null timeoutMs "09:00"

def approved (phase : String) : ApprovalEvent :=
  .answer "42" phase { action := .approve } none none "10:00"

/-- Every request is settled, or it waits under its own key with its own resolver. -/
def Accounted (service : Approvals) : Prop :=
  ∀ request promise, service.promises[request]? = some promise → promise.outcome ≠ none ∨
    ∃ entry, service.pending.get? (approvalKey promise.taskId promise.phase) = some entry ∧
      entry.request = request

def Settles (before after : Approvals) (request : Nat) : Prop :=
  (∃ promise, before.promises[request]? = some promise ∧ promise.outcome = none) ∧
    ∃ promise, after.promises[request]? = some promise ∧ promise.outcome ≠ none

end Approvals

def ApprovalEvent.Concerns (request : Nat) (promise : ApprovalPromise) : ApprovalEvent → Prop
  | .request _ _ _ _ _ => False
  | .answer taskId phase _ _ _ _ => promise.taskId = taskId ∧ promise.phase = phase
  | .cancel taskId _ => promise.taskId = taskId
  | .timeout timer => timer = request

namespace Approvals

structure SettlesOwn (service : Approvals) (event : ApprovalEvent) : Prop where
  own : ∀ request promise, service.promises[request]? = some promise →
    Settles service (service.step event) request → event.Concerns request promise
  one : ∀ request other, Settles service (service.step event) request →
    Settles service (service.step event) other → request = other

/-- No request is made under a key that is taken; what waits under the key of an answer is what is
answered; and a cancellation finds at most one request, which is of its task. -/
def Proper (service : Approvals) : ApprovalEvent → Prop
  | .request taskId phase _ _ _ => service.pending.get? (approvalKey taskId phase) = none
  | .answer taskId phase _ _ _ _ =>
      ∀ entry ∈ service.pending.get? (approvalKey taskId phase),
        entry.taskId = taskId ∧ entry.phase = phase
  | .cancel taskId _ =>
      ∀ key, ∀ entry ∈ service.pending.get? key, startsWith key (taskId ++ ":") = true →
        entry.taskId = taskId ∧
          ∀ key', ∀ entry' ∈ service.pending.get? key', startsWith key' (taskId ++ ":") = true →
            key' = key
  | .timeout _ => True

/-- The requests that wait under some of the keys are settled, and nothing else happens. -/
structure Closes (service after : Approvals) (hit : String → Prop) (outcome : Settlement) :
    Prop where
  removed : ∀ key, hit key → after.pending.get? key = none
  kept : ∀ key, ¬hit key → after.pending.get? key = service.pending.get? key
  settled : ∀ key entry, service.pending.get? key = some entry → hit key →
    after.promises[entry.request]? = some ⟨entry.taskId, entry.phase, some outcome⟩
  others : ∀ request,
    (∀ key entry, service.pending.get? key = some entry → hit key → entry.request ≠ request) →
      after.promises[request]? = service.promises[request]?
  timers : ∀ timer, timer ∈ after.timers ↔ timer ∈ service.timers ∧
    ∀ key entry, service.pending.get? key = some entry → hit key → entry.timeout = true →
      timer.request ≠ entry.request

variable {service : Approvals} {outcome : Settlement}

theorem key_of_request {key key' : String} {entry entry' : PendingApproval}
    (found : service.pending.get? key = some entry)
    (found' : service.pending.get? key' = some entry') (same : entry.request = entry'.request) :
    key = key' := by
  have made : service.Made entry.request entry'.taskId entry'.phase :=
    ⟨none, by rw [same]; exact service.waiting key' entry' found'⟩
  rw [service.key_of_made found made, service.keyed key' entry' found']

theorem closes_nothing {after : Approvals} {hit : String → Prop}
    (pending : after.pending = service.pending) (promises : after.promises = service.promises)
    (timers : after.timers = service.timers)
    (free : ∀ key entry, service.pending.get? key = some entry → ¬hit key) :
    Closes service after hit outcome := by
  constructor
  · intro key hits
    rw [pending]
    cases found : service.pending.get? key with
    | none => rfl
    | some entry => exact absurd hits (free key entry found)
  · exact fun _ _ => by rw [pending]
  · exact fun key entry found hits => absurd hits (free key entry found)
  · exact fun _ _ => by rw [promises]
  · intro timer
    rw [timers]
    constructor
    · exact fun membership =>
        ⟨membership, fun key entry found hits => absurd hits (free key entry found)⟩
    · exact fun membership => membership.1

theorem close_closes {key : String} {entry : PendingApproval}
    (found : service.pending.get? key = some entry)
    (made : service.Made entry.request entry.taskId entry.phase) :
    Closes service
      (service.close entry.request entry.taskId entry.phase outcome entry.timeout made)
      (· = key) outcome := by
  have own := service.keyed key entry found
  constructor
  · rintro _ rfl
    simp [close, own]
  · intro other different
    have elsewhere : other ≠ approvalKey entry.taskId entry.phase := by
      rwa [← own]
    simp [close, elsewhere]
  · rintro _ other found' rfl
    obtain rfl : entry = other := Option.some.inj (found.symm.trans found')
    have known := service.waiting _ entry found
    simp only [close, promise_modify, if_true, known]
    rfl
  · intro request free
    simp only [close, promise_modify, if_neg (free key entry found rfl)]
  · intro timer
    have timed : (∀ other entry', service.pending.get? other = some entry' → other = key →
        entry'.timeout = true → timer.request ≠ entry'.request) ↔
          (entry.timeout = true → timer.request ≠ entry.request) := by
      constructor
      · exact fun every => every key entry found rfl
      · rintro this _ entry' found' rfl
        obtain rfl : entry = entry' := Option.some.inj (found.symm.trans found')
        exact this
    rw [timed]
    cases clears : entry.timeout <;> simp [close]

theorem settle_closes (key : String) :
    Closes service (service.settle key outcome) (· = key) outcome := by
  unfold settle
  split
  · rename_i absent
    apply closes_nothing rfl rfl rfl
    rintro _ entry found rfl
    rw [absent] at found
    cases found
  · rename_i entry found
    exact close_closes found _

namespace Closes

variable {between after : Approvals} {hit hit' : String → Prop}

theorem pending_of {key : String} {entry : PendingApproval}
    (closes : Closes service after hit outcome) (found : after.pending.get? key = some entry) :
    ¬hit key ∧ service.pending.get? key = some entry := by
  by_cases hits : hit key
  · rw [closes.removed key hits] at found
    cases found
  · rw [closes.kept key hits] at found
    exact ⟨hits, found⟩

theorem trans (first : Closes service between hit outcome)
    (second : Closes between after hit' outcome) :
    Closes service after (fun key => hit key ∨ hit' key) outcome := by
  constructor
  · intro key hits
    by_cases again : hit' key
    · exact second.removed key again
    · rw [second.kept key again]
      exact first.removed key (hits.resolve_right again)
  · intro key free
    rw [not_or] at free
    rw [second.kept key free.2, first.kept key free.1]
  · intro key entry found hits
    by_cases early : hit key
    · rw [second.others entry.request]
      · exact first.settled key entry found early
      · intro key' entry' found' _ same
        obtain ⟨free, found'⟩ := first.pending_of found'
        exact free (key_of_request found' found same ▸ early)
    · apply second.settled key entry _ (hits.resolve_left early)
      rw [first.kept key early]
      exact found
  · intro request free
    rw [second.others request, first.others request]
    · exact fun key entry found hits => free key entry found (.inl hits)
    · exact fun key entry found hits => free key entry (first.pending_of found).2 (.inr hits)
  · intro timer
    rw [second.timers, first.timers, and_assoc]
    apply and_congr_right
    intro _
    constructor
    · rintro ⟨early, late⟩ key entry found hits timed
      by_cases hitEarly : hit key
      · exact early key entry found hitEarly timed
      · rw [← first.kept key hitEarly] at found
        exact late key entry found (hits.resolve_left hitEarly) timed
    · intro every
      constructor
      · exact fun key entry found hits => every key entry found (.inl hits)
      · exact fun key entry found hits => every key entry (first.pending_of found).2 (.inr hits)

theorem congr (closes : Closes service after hit outcome) (same : ∀ key, hit key ↔ hit' key) :
    Closes service after hit' outcome := by
  obtain rfl : hit = hit' := funext fun key => propext (same key)
  exact closes

end Closes

theorem log_closes (entry : ApprovalLog) :
    Closes service (service.log entry) (fun _ => False) outcome :=
  closes_nothing rfl rfl rfl fun _ _ _ => id

theorem cancelEntry_closes (taskId now : String) (entry : String × PendingApproval) :
    Closes service (cancelEntry taskId now service entry)
      (fun key => key = entry.1 ∧ startsWith key (taskId ++ ":") = true)
      (.rejected "Task cancelled") := by
  unfold cancelEntry
  split
  · rename_i matched
    apply ((log_closes _).trans (settle_closes entry.1)).congr
    intro key
    constructor
    · intro hits
      have same : key = entry.1 := hits.resolve_left id
      exact ⟨same, same ▸ matched⟩
    · exact fun hits => .inr hits.1
  · rename_i other
    apply closes_nothing rfl rfl rfl
    rintro _ _ _ ⟨rfl, matched⟩
    exact other matched

theorem foldl_cancelEntry_closes (taskId now : String)
    (entries : List (String × PendingApproval)) (service : Approvals) :
    Closes service (entries.foldl (cancelEntry taskId now) service)
      (fun key => key ∈ entries.map Prod.fst ∧ startsWith key (taskId ++ ":") = true)
      (.rejected "Task cancelled") := by
  induction entries generalizing service with
  | nil => exact closes_nothing rfl rfl rfl fun _ _ _ hits => by simp at hits
  | cons entry rest ih =>
      apply ((cancelEntry_closes taskId now entry).trans (ih _)).congr
      intro key
      rw [List.map_cons, List.mem_cons]
      tauto

theorem cancelTask_closes (taskId now : String) :
    Closes service (service.cancelTask taskId now)
      (fun key => key ∈ service.pending.entries.map Prod.fst ∧
        startsWith key (taskId ++ ":") = true)
      (.rejected "Task cancelled") :=
  foldl_cancelEntry_closes taskId now _ service

theorem resolveWithAction_closes (taskId phase : String) (response : ApprovalResponse)
    (clientId userId : Option String) (now : String) :
    Closes service (service.resolveWithAction taskId phase response clientId userId now).2
      (· = approvalKey taskId phase) (.resolved response) := by
  simp only [resolveWithAction]
  split
  · rename_i absent
    apply closes_nothing rfl rfl rfl
    rintro _ entry found rfl
    rw [absent] at found
    cases found
  · apply ((settle_closes _).trans (log_closes _)).congr
    exact fun key => iff_of_eq (or_false _)

theorem cut_unique {α : Type} {separator : α} {left left' right right' : List α}
    (plain : separator ∉ left) (plain' : separator ∉ left')
    (same : left ++ separator :: right = left' ++ separator :: right') :
    left = left' ∧ right = right' := by
  induction left generalizing left' with
  | nil =>
      cases left' with
      | nil => exact ⟨rfl, (List.cons.inj same).2⟩
      | cons first rest =>
          obtain rfl : separator = first := (List.cons.inj same).1
          exact absurd List.mem_cons_self plain'
  | cons first rest ih =>
      cases left' with
      | nil =>
          obtain rfl : first = separator := (List.cons.inj same).1
          exact absurd List.mem_cons_self plain
      | cons first' rest' =>
          obtain ⟨rfl, later⟩ := List.cons.inj same
          obtain ⟨rfl, ends⟩ := ih (List.not_mem_of_not_mem_cons plain)
            (List.not_mem_of_not_mem_cons plain') later
          exact ⟨rfl, ends⟩

theorem approvalKey_injective {taskId phase taskId' phase' : String}
    (plain : ':' ∉ taskId.toList) (plain' : ':' ∉ taskId'.toList)
    (same : approvalKey taskId phase = approvalKey taskId' phase') :
    taskId = taskId' ∧ phase = phase' := by
  have chars : taskId.toList ++ ':' :: phase.toList = taskId'.toList ++ ':' :: phase'.toList := by
    have lists := congrArg String.toList same
    simpa [approvalKey] using lists
  obtain ⟨ids, phases⟩ := cut_unique plain plain' chars
  exact ⟨String.toList_injective ids, String.toList_injective phases⟩

theorem phase_of_key {taskId phase phase' : String}
    (same : approvalKey taskId phase = approvalKey taskId phase') : phase = phase' := by
  have chars := congrArg String.toList same
  simpa [approvalKey, String.toList_inj] using chars

theorem startsWith_approvalKey {taskId taskId' : String} (phase : String)
    (plain : ':' ∉ taskId.toList) (plain' : ':' ∉ taskId'.toList) :
    startsWith (approvalKey taskId phase) (taskId' ++ ":") = true ↔ taskId = taskId' := by
  unfold startsWith
  rw [List.isPrefixOf_iff_prefix]
  constructor
  · rintro ⟨rest, split⟩
    have chars : taskId'.toList ++ ':' :: rest = taskId.toList ++ ':' :: phase.toList := by
      simpa [approvalKey] using split
    obtain ⟨ids, _⟩ := cut_unique plain' plain chars
    exact (String.toList_injective ids).symm
  · rintro rfl
    exact ⟨phase.toList, by simp [approvalKey]⟩

/-- The chosen requests are settled with the outcome and removed; of the others nothing changes,
nor of any other promise. -/
structure SettlesExactly (service after : Approvals) (chosen : PendingApproval → Prop)
    (outcome : Settlement) : Prop where
  removed : ∀ key entry, service.pending.get? key = some entry → chosen entry →
    after.pending.get? key = none ∧
      after.promises[entry.request]? = some ⟨entry.taskId, entry.phase, some outcome⟩
  kept : ∀ key entry, service.pending.get? key = some entry → ¬chosen entry →
    after.pending.get? key = some entry ∧
      after.promises[entry.request]? = service.promises[entry.request]? ∧
      ∀ timer, timer.request = entry.request → (timer ∈ after.timers ↔ timer ∈ service.timers)
  added : ∀ key entry, after.pending.get? key = some entry →
    service.pending.get? key = some entry
  others : ∀ request,
    (∀ key entry, service.pending.get? key = some entry → chosen entry →
      entry.request ≠ request) → after.promises[request]? = service.promises[request]?

theorem Closes.settlesExactly {after : Approvals} {hit : String → Prop}
    {chosen : PendingApproval → Prop} (closes : Closes service after hit outcome)
    (same : ∀ key entry, service.pending.get? key = some entry → (hit key ↔ chosen entry)) :
    SettlesExactly service after chosen outcome := by
  have elsewhere {key : String} {entry : PendingApproval}
      (found : service.pending.get? key = some entry) (free : ¬hit key) {key' : String}
      {entry' : PendingApproval} (found' : service.pending.get? key' = some entry')
      (hits : hit key') : entry'.request ≠ entry.request := by
    intro equal
    exact free (key_of_request found' found equal ▸ hits)
  constructor
  · intro key entry found choice
    have hits := (same key entry found).mpr choice
    exact ⟨closes.removed key hits, closes.settled key entry found hits⟩
  · intro key entry found other
    have free : ¬hit key := fun hits => other ((same key entry found).mp hits)
    refine ⟨(closes.kept key free).trans found, ?_, ?_⟩
    · exact closes.others _ fun key' entry' found' hits => elsewhere found free found' hits
    · intro timer own
      rw [closes.timers, own]
      constructor
      · exact fun membership => membership.1
      · exact fun membership => ⟨membership, fun key' entry' found' hits _ =>
          (elsewhere found free found' hits).symm⟩
  · exact fun key entry found => (closes.pending_of found).2
  · intro request free
    apply closes.others
    exact fun key entry found hits => free key entry found ((same key entry found).mp hits)

end Approvals

/-- Where no task id has a colon: an answer settles exactly the request that waits for its task and
phase, with that answer, and reports whether there is one; and the cancellation of a task settles
exactly the requests that wait for the task. -/
theorem approvals_are_settled_exactly (service : Approvals) (taskId phase : String)
    (response : ApprovalResponse) (clientId userId : Option String) (now : String)
    (plain : ':' ∉ taskId.toList)
    (ids : ∀ key, ∀ entry ∈ service.pending.get? key, ':' ∉ entry.taskId.toList) :
    ((service.resolveWithAction taskId phase response clientId userId now).1 = true ↔
      ∃ key, ∃ entry ∈ service.pending.get? key, entry.taskId = taskId ∧ entry.phase = phase) ∧
    service.SettlesExactly
      (service.resolveWithAction taskId phase response clientId userId now).2
      (fun entry => entry.taskId = taskId ∧ entry.phase = phase) (.resolved response) ∧
    service.SettlesExactly (service.cancelTask taskId now)
      (fun entry => entry.taskId = taskId) (.rejected "Task cancelled") := by
  have named (key : String) (entry : PendingApproval)
      (found : service.pending.get? key = some entry) :
      key = approvalKey taskId phase ↔ entry.taskId = taskId ∧ entry.phase = phase := by
    rw [service.keyed key entry found]
    constructor
    · exact Approvals.approvalKey_injective (ids key entry found) plain
    · rintro ⟨rfl, rfl⟩
      rfl
  refine ⟨?_, (Approvals.resolveWithAction_closes ..).settlesExactly named,
    (Approvals.cancelTask_closes taskId now).settlesExactly ?_⟩
  · simp only [Approvals.resolveWithAction]
    cases found : service.pending.get? (approvalKey taskId phase) with
    | none =>
        constructor
        · exact nofun
        · rintro ⟨key, entry, found', same⟩
          rw [(named key entry found').mpr same, found] at found'
          cases found'
    | some entry => exact ⟨fun _ => ⟨_, entry, found, (named _ entry found).mp rfl⟩, fun _ => rfl⟩
  · intro key entry found
    have own := service.keyed key entry found
    rw [own, Approvals.startsWith_approvalKey _ (ids key entry found) plain, ← own]
    exact and_iff_right (OrderedMap.mem_keys_iff.mpr (by rw [found]; rfl))

namespace Approvals

def twoTasks : Approvals :=
  after [asked "Analysis" none, .request "43" "Analysis" .null none "09:30"]

theorem twoTasks_ids (key : String) (entry : PendingApproval)
    (found : entry ∈ twoTasks.pending.get? key) : ':' ∉ entry.taskId.toList := by
  have plain : ∀ other ∈ twoTasks.pending.entries, ':' ∉ other.2.taskId.toList := by decide
  exact plain (key, entry) (OrderedMap.mem_entries_iff.mpr found)

end Approvals

theorem approvals_of_two_tasks :
    (Approvals.twoTasks.resolveWithAction "42" "Analysis" ⟨.approve, none⟩ none none "10:00").1 =
      true ∧
    Approvals.twoTasks.SettlesExactly (Approvals.twoTasks.cancelTask "42" "10:00")
      (fun entry => entry.taskId = "42") (.rejected "Task cancelled") :=
  ⟨by decide, (approvals_are_settled_exactly Approvals.twoTasks "42" "Analysis" ⟨.approve, none⟩
    none none "10:00" (by decide) Approvals.twoTasks_ids).2.2⟩

namespace Approvals

variable {service : Approvals} {outcome : Settlement}

/-- Every request that is not settled waits under its key, and a timer that is set is that of a
request that waits. -/
structure Orderly (service : Approvals) : Prop where
  accounted : service.Accounted
  timers : ∀ timer ∈ service.timers, ∃ entry,
    service.pending.get? (approvalKey timer.taskId timer.phase) = some entry ∧
      entry.request = timer.request ∧ entry.timeout = true

theorem Orderly.closes {after : Approvals} {hit : String → Prop} (orderly : service.Orderly)
    (closes : Closes service after hit outcome) : after.Orderly := by
  constructor
  · intro request promise known
    by_cases chosen : ∃ key entry, service.pending.get? key = some entry ∧ hit key ∧
        entry.request = request
    · obtain ⟨key, entry, found, hits, rfl⟩ := chosen
      rw [closes.settled key entry found hits] at known
      cases known
      exact .inl nofun
    · have free (key : String) (entry : PendingApproval)
          (found : service.pending.get? key = some entry) (hits : hit key) :
          entry.request ≠ request := fun same => chosen ⟨key, entry, found, hits, same⟩
      rw [closes.others request free] at known
      apply (orderly.accounted request promise known).imp_right
      rintro ⟨entry, found, own⟩
      have stays : ¬hit (approvalKey promise.taskId promise.phase) := fun hits =>
        free _ entry found hits own
      exact ⟨entry, (closes.kept _ stays).trans found, own⟩
  · intro timer membership
    obtain ⟨set, cleared⟩ := (closes.timers timer).mp membership
    obtain ⟨entry, found, own, timed⟩ := orderly.timers timer set
    have stays : ¬hit (approvalKey timer.taskId timer.phase) := fun hits =>
      cleared _ entry found hits timed own.symm
    exact ⟨entry, (closes.kept _ stays).trans found, own, timed⟩

theorem Closes.settles {after : Approvals} {hit : String → Prop} {request : Nat}
    (closes : Closes service after hit outcome) (settles : Settles service after request) :
    ∃ key entry, service.pending.get? key = some entry ∧ hit key ∧ entry.request = request := by
  by_contra free
  obtain ⟨⟨promise, known, waits⟩, ⟨promise', known', settled⟩⟩ := settles
  rw [closes.others request fun key entry found hits same =>
    free ⟨key, entry, found, hits, same⟩, known] at known'
  cases known'
  exact settled waits

theorem close_timer_closes (orderly : service.Orderly) {timer : ApprovalTimer}
    (set : timer ∈ service.timers) (made : service.Made timer.request timer.taskId timer.phase) :
    Closes service
      (service.close timer.request timer.taskId timer.phase outcome true made)
      (· = approvalKey timer.taskId timer.phase) outcome := by
  obtain ⟨entry, found, own, timed⟩ := orderly.timers timer set
  obtain ⟨request, taskId, phase, _, _⟩ := timer
  subst own
  obtain ⟨rfl, rfl⟩ : entry.taskId = taskId ∧ entry.phase = phase := by
    obtain ⟨outcome, known⟩ := made
    rw [service.waiting _ entry found] at known
    cases known
    exact ⟨rfl, rfl⟩
  have closes : Closes service (service.close entry.request entry.taskId entry.phase outcome
      entry.timeout made) _ outcome := close_closes found made
  rwa [timed] at closes

theorem fireTimer_cases (orderly : service.Orderly) (request : Nat) :
    service.fireTimer request = service ∨ ∃ timer ∈ service.timers, timer.request = request ∧
      Closes service (service.fireTimer request)
        (· = approvalKey timer.taskId timer.phase)
        (.rejected s!"Approval timeout for {timer.phase}") := by
  unfold fireTimer
  split
  · exact .inl rfl
  · rename_i timer found
    have set := List.mem_of_find?_eq_some found
    refine .inr ⟨timer, set, by simpa using List.find?_some found, ?_⟩
    apply ((close_timer_closes orderly set _).trans (log_closes _)).congr
    exact fun key => iff_of_eq (or_false _)

theorem Orderly.request (orderly : service.Orderly) {taskId phase : String} (output : Json)
    (timeoutMs : Option Int) (now : String)
    (free : service.pending.get? (approvalKey taskId phase) = none) :
    (service.requestApproval taskId phase output timeoutMs now).Orderly := by
  have elsewhere {key : String} {entry : PendingApproval}
      (found : service.pending.get? key = some entry) :
      (service.requestApproval taskId phase output timeoutMs now).pending.get? key =
        some entry := by
    have different : key ≠ approvalKey taskId phase := by
      rintro rfl
      rw [free] at found
      cases found
    simp [requestApproval, different, found]
  have added : (service.requestApproval taskId phase output timeoutMs now).pending.get?
      (approvalKey taskId phase) = some ⟨service.promises.length, timed timeoutMs, taskId, phase,
        output, now⟩ := by
    simp [requestApproval]
  constructor
  · intro request promise known
    rcases getElem?_concat_eq_some.mp known with earlier | ⟨rfl, rfl⟩
    · apply (orderly.accounted request promise earlier).imp_right
      exact fun ⟨entry, found, own⟩ => ⟨entry, elsewhere found, own⟩
    · exact .inr ⟨_, added, rfl⟩
  · intro timer membership
    have earlier (set : timer ∈ service.timers) : ∃ entry,
        (service.requestApproval taskId phase output timeoutMs now).pending.get?
          (approvalKey timer.taskId timer.phase) = some entry ∧
          entry.request = timer.request ∧ entry.timeout = true := by
      obtain ⟨entry, found, own, timed⟩ := orderly.timers timer set
      exact ⟨entry, elsewhere found, own, timed⟩
    simp only [requestApproval] at membership
    split at membership
    · rename_i timed
      rcases List.mem_append.mp membership with set | new
      · exact earlier set
      · obtain rfl := List.mem_singleton.mp new
        exact ⟨_, added, rfl, timed⟩
    · exact earlier membership

theorem step_orderly (orderly : service.Orderly) {event : ApprovalEvent}
    (proper : service.Proper event) : (service.step event).Orderly := by
  cases event with
  | request taskId phase output timeoutMs now => exact orderly.request output timeoutMs now proper
  | answer taskId phase response clientId userId now =>
      exact orderly.closes (resolveWithAction_closes ..)
  | cancel taskId now => exact orderly.closes (cancelTask_closes taskId now)
  | timeout request =>
      rcases fireTimer_cases orderly request with same | ⟨timer, _, _, closes⟩
      · change (service.fireTimer request).Orderly
        rwa [same]
      · exact orderly.closes closes

theorem Closes.settlesOwn {hit : String → Prop} {event : ApprovalEvent}
    (closes : Closes service (service.step event) hit outcome)
    (own : ∀ key entry, service.pending.get? key = some entry → hit key →
      event.Concerns entry.request ⟨entry.taskId, entry.phase, none⟩)
    (one : ∀ key key' entry entry', service.pending.get? key = some entry →
      service.pending.get? key' = some entry' → hit key → hit key' → key = key') :
    service.SettlesOwn event := by
  constructor
  · intro request promise known settles
    obtain ⟨key, entry, found, hits, rfl⟩ := closes.settles settles
    rw [service.waiting key entry found] at known
    cases known
    exact own key entry found hits
  · intro request other settles settles'
    obtain ⟨key, entry, found, hits, rfl⟩ := closes.settles settles
    obtain ⟨key', entry', found', hits', rfl⟩ := closes.settles settles'
    obtain rfl := one key key' entry entry' found found' hits hits'
    obtain rfl : entry = entry' := Option.some.inj (found.symm.trans found')
    rfl

theorem settlesOwn_of_same {event : ApprovalEvent}
    (same : ∀ (request : Nat) promise, service.promises[request]? = some promise →
      (service.step event).promises[request]? = some promise) : service.SettlesOwn event := by
  have never (request : Nat) : ¬Settles service (service.step event) request := by
    rintro ⟨⟨promise, known, waits⟩, ⟨promise', known', settled⟩⟩
    rw [same request promise known] at known'
    cases known'
    exact settled waits
  constructor
  · exact fun request _ _ settles => absurd settles (never request)
  · exact fun request _ settles _ => absurd settles (never request)

theorem step_settlesOwn (orderly : service.Orderly) {event : ApprovalEvent}
    (proper : service.Proper event) : service.SettlesOwn event := by
  cases event with
  | request taskId phase output timeoutMs now =>
      exact settlesOwn_of_same fun _ _ known => promise_append known _
  | answer taskId phase response clientId userId now =>
      apply (resolveWithAction_closes taskId phase response clientId userId now).settlesOwn
      · rintro _ entry found rfl
        exact proper entry found
      · rintro _ _ _ _ _ _ rfl rfl
        rfl
  | cancel taskId now =>
      apply (cancelTask_closes taskId now).settlesOwn
      · exact fun key entry found hits => (proper key entry found hits.2).1
      · exact fun key key' entry entry' found found' hits hits' =>
          (proper key' entry' found' hits'.2).2 key entry found hits.2
  | timeout request =>
      rcases fireTimer_cases orderly request with same | ⟨timer, set, rfl, closes⟩
      · apply settlesOwn_of_same
        intro other promise known
        change (service.fireTimer request).promises[other]? = some promise
        rwa [same]
      · apply Closes.settlesOwn closes
        · rintro _ entry found rfl
          obtain ⟨entry', found', own, _⟩ := orderly.timers timer set
          obtain rfl : entry' = entry := Option.some.inj (found'.symm.trans found)
          exact own.symm
        · rintro _ _ _ _ _ _ rfl rfl
          rfl

def ProperRun : Approvals → List ApprovalEvent → Prop
  | _, [] => True
  | service, event :: rest => service.Proper event ∧ ProperRun (service.step event) rest

theorem run_orderly (orderly : service.Orderly) {events : List ApprovalEvent}
    (proper : ProperRun service events) :
    (events.foldl step service).Orderly ∧
      ∀ earlier event later, events = earlier ++ event :: later →
        (earlier.foldl step service).SettlesOwn event := by
  induction events generalizing service with
  | nil => exact ⟨orderly, by simp⟩
  | cons first rest ih =>
      obtain ⟨holds, every⟩ := ih (step_orderly orderly proper.1) proper.2
      refine ⟨holds, ?_⟩
      intro earlier event later split
      cases earlier with
      | nil =>
          obtain ⟨rfl, rfl⟩ := List.cons.inj split
          exact step_settlesOwn orderly proper.1
      | cons other earlier =>
          obtain ⟨rfl, rfl⟩ := List.cons.inj split
          exact every earlier event later rfl

theorem empty_orderly : empty.Orderly := ⟨nofun, nofun⟩

end Approvals

/-- In every run in which no request is made under a key that is taken, answers find the request
they are for and cancellations at most one request, of their own task: every request is settled or
waits under its own key with its own resolver, and every event settles at most the one request it
is about. -/
theorem approval_requests_are_kept (events : List ApprovalEvent)
    (proper : Approvals.ProperRun .empty events) :
    (Approvals.after events).Accounted ∧
      ∀ earlier event later, events = earlier ++ event :: later →
        (Approvals.after earlier).SettlesOwn event := by
  obtain ⟨orderly, every⟩ := Approvals.run_orderly Approvals.empty_orderly proper
  exact ⟨orderly.accounted, every⟩

/-- A request is answered before its timer runs out, and another one is cancelled. -/
theorem approval_requests_of_one_task :
    (Approvals.after [Approvals.asked "Analysis" (some 5000), Approvals.approved "Analysis",
      .timeout 0, Approvals.asked "Developer" none, .cancel "42" "11:00"]).Accounted := by
  apply (approval_requests_are_kept _ _).1
  refine ⟨rfl, ?_, trivial, rfl, ?_, trivial⟩
  · rintro entry ⟨⟩
    exact ⟨rfl, rfl⟩
  · have one : ∀ other ∈ (Approvals.after [Approvals.asked "Analysis" (some 5000),
        Approvals.approved "Analysis", .timeout 0,
        Approvals.asked "Developer" none]).pending.entries,
        other.2.taskId = "42" ∧ other.1 = "42:Developer" := by decide
    intro key entry found _
    have waits := one (key, entry) (OrderedMap.mem_entries_iff.mpr found)
    refine ⟨waits.1, fun key' entry' found' _ => ?_⟩
    exact (one (key', entry') (OrderedMap.mem_entries_iff.mpr found')).2.trans waits.2.symm

/-- The second request for a phase makes the first one disappear. -/
theorem second_request_loses_first :
    ¬(Approvals.after [Approvals.asked "Analysis" none,
      Approvals.asked "Analysis" none]).Accounted := by
  intro accounted
  rcases accounted 0 ⟨"42", "Analysis", none⟩ rfl with settled | ⟨entry, found, own⟩
  · exact settled rfl
  · cases found
    cases own

end MultiAgents
