import MultiAgents.Services.ActivityLog

/-!
# The arrays of the activity logs

No two arrays that are still in use are the same object.  Every operation keeps it
so, and moves entries on from what is pending for a task to the batches of the
task without losing or reordering any.
-/

namespace MultiAgents.ActivityLogs

open Containers

def queued (taskId : String) (actions : List Action) : List LogEntry :=
  actions.filterMap fun action =>
    match action with
    | .queueActivityLog other entry => if other = taskId then some entry else none
    | _ => none

section Views

variable (logs : ActivityLogs) (taskId : String)

def pending : List LogEntry := (logs.pendingActivityLogs.get? taskId).elim [] logs.contents

def handed : List LogEntry :=
  (logs.calls.filter fun call => call.taskId = taskId).flatMap fun call =>
    logs.contents call.array

end Views

section Arrays

variable (logs : ActivityLogs)

theorem contents_allocate (entries : List LogEntry) (array : Nat) :
    (logs.allocate entries).contents array =
      if array = logs.newArray then entries else logs.contents array := by
  unfold contents allocate newArray
  rcases Nat.lt_trichotomy array logs.arrays.length with inside | rfl | outside
  · rw [List.getElem?_append_left inside, if_neg inside.ne]
  · simp
  · rw [List.getElem?_eq_none (by simp; omega), List.getElem?_eq_none outside.le,
      if_neg outside.ne']

theorem contents_push {array : Nat} (inside : array < logs.arrays.length) (entry : LogEntry)
    (other : Nat) :
    (logs.push array entry).contents other =
      if other = array then logs.contents array ++ [entry] else logs.contents other := by
  unfold contents push
  rw [List.getElem?_modify]
  by_cases same : other = array
  · subst same
    simp [inside]
  · simp [same, Ne.symm same]

end Arrays

structure Separate (logs : ActivityLogs) : Prop where
  pendingBound : ∀ taskId array, logs.pendingActivityLogs.get? taskId = some array →
    array < logs.arrays.length
  pendingApart : ∀ taskId other array, logs.pendingActivityLogs.get? taskId = some array →
    logs.pendingActivityLogs.get? other = some array → taskId = other
  callBound : ∀ call ∈ logs.calls, call.array < logs.arrays.length
  callApart : ∀ call ∈ logs.calls, ∀ taskId,
    logs.pendingActivityLogs.get? taskId ≠ some call.array
  callEntries : ∀ call ∈ logs.calls, logs.contents call.array = call.entries

theorem Separate.initial (rows : OrderedMap String (List LogEntry)) :
    Separate { activityLog := rows } := by
  constructor <;> simp

/-- An array that nothing grows. -/
def Idle (logs : ActivityLogs) (array : Nat) : Prop :=
  array < logs.arrays.length ∧ ∀ taskId, logs.pendingActivityLogs.get? taskId ≠ some array

section Separate

variable {logs : ActivityLogs} (separate : Separate logs)
include separate

theorem Separate.allocate (entries : List LogEntry) : Separate (logs.allocate entries) where
  pendingBound taskId array held := by
    have before := separate.pendingBound taskId array held
    simp only [ActivityLogs.allocate, List.length_append, List.length_singleton]
    omega
  pendingApart := separate.pendingApart
  callBound call membership := by
    have before := separate.callBound call membership
    simp only [ActivityLogs.allocate, List.length_append, List.length_singleton]
    omega
  callApart := separate.callApart
  callEntries call membership := by
    have old : call.array ≠ logs.newArray := (separate.callBound call membership).ne
    rw [contents_allocate, if_neg old]
    exact separate.callEntries call membership

theorem Separate.setPending {array : Nat} (idle : Idle logs array)
    (unused : ∀ call ∈ logs.calls, call.array ≠ array) (taskId : String) :
    Separate (logs.setPending taskId array) where
  pendingBound other held found := by
    rcases OrderedMap.of_get?_set found with ⟨-, rfl⟩ | found
    · exact idle.1
    · exact separate.pendingBound other held found
  pendingApart first second held foundFirst foundSecond := by
    rw [ActivityLogs.setPending, OrderedMap.get?_set] at foundFirst foundSecond
    split at foundFirst <;> split at foundSecond
    · simp_all
    · cases foundFirst
      exact absurd foundSecond (idle.2 second)
    · cases foundSecond
      exact absurd foundFirst (idle.2 first)
    · exact separate.pendingApart first second held foundFirst foundSecond
  callBound := separate.callBound
  callApart call membership other := by
    rw [ActivityLogs.setPending, OrderedMap.get?_set]
    split
    · intro same
      cases same
      exact unused call membership rfl
    · exact separate.callApart call membership other
  callEntries := separate.callEntries

theorem Separate.push {taskId : String} {array : Nat}
    (held : logs.pendingActivityLogs.get? taskId = some array) (entry : LogEntry) :
    Separate (logs.push array entry) where
  pendingBound other array found := by
    rw [ActivityLogs.push, List.length_modify]
    exact separate.pendingBound other array found
  pendingApart := separate.pendingApart
  callBound call membership := by
    rw [ActivityLogs.push, List.length_modify]
    exact separate.callBound call membership
  callApart := separate.callApart
  callEntries call membership := by
    have different : call.array ≠ array := by
      rintro rfl
      exact separate.callApart call membership taskId held
    rw [contents_push logs (separate.pendingBound taskId array held), if_neg different]
    exact separate.callEntries call membership

theorem Separate.appendActivityLogs {array : Nat} (idle : Idle logs array) (taskId : String) :
    Separate (logs.appendActivityLogs taskId array) := by
  unfold ActivityLogs.appendActivityLogs
  split
  · exact separate
  · refine ⟨separate.pendingBound, separate.pendingApart, fun call membership => ?_,
      fun call membership => ?_, fun call membership => ?_⟩
    all_goals rcases List.mem_append.mp membership with before | added
    · exact separate.callBound call before
    · obtain rfl := List.mem_singleton.mp added
      exact idle.1
    · exact separate.callApart call before
    · obtain rfl := List.mem_singleton.mp added
      exact idle.2
    · exact separate.callEntries call before
    · obtain rfl := List.mem_singleton.mp added
      rfl

theorem Separate.clear : Separate { logs with pendingActivityLogs := .empty } where
  pendingBound taskId array found := by cases found
  pendingApart taskId other array found := by cases found
  callBound := separate.callBound
  callApart call membership taskId found := by cases found
  callEntries := separate.callEntries

end Separate

def batches (logs : ActivityLogs) (kind : Option (Except String Unit) → Bool)
    (taskId : String) : List LogEntry :=
  (logs.calls.filter fun call => call.taskId = taskId ∧ kind call.outcome).flatMap
    AppendCall.entries

theorem Separate.handed_eq {logs : ActivityLogs} (separate : Separate logs) (taskId : String) :
    logs.handed taskId = logs.batches (fun _ => true) taskId := by
  unfold handed batches
  simp only [and_true]
  refine List.flatMap_congr fun call membership => ?_
  exact separate.callEntries call (List.mem_filter.mp membership).1

section Views

variable {logs : ActivityLogs} (kind : Option (Except String Unit) → Bool)

theorem batches_append (started : kind none = true) (taskId other : String) (array : Nat) :
    (logs.appendActivityLogs taskId array).batches kind other =
      logs.batches kind other ++ if other = taskId then logs.contents array else [] := by
  unfold appendActivityLogs batches
  split
  · rename_i nothing
    simp [nothing]
  · simp only [List.filter_append, List.flatMap_append]
    by_cases same : other = taskId
    · simp [same, started]
    · simp [same, Ne.symm same]

theorem pending_setPending (taskId other : String) (array : Nat) :
    (logs.setPending taskId array).pending other =
      if other = taskId then logs.contents array else logs.pending other := by
  unfold pending
  rw [setPending, OrderedMap.get?_set]
  split <;> rfl

theorem pending_append (taskId other : String) (array : Nat) :
    (logs.appendActivityLogs taskId array).pending other = logs.pending other := by
  unfold appendActivityLogs
  split <;> rfl

theorem Separate.pending_allocate (separate : Separate logs) (entries : List LogEntry)
    (taskId : String) : (logs.allocate entries).pending taskId = logs.pending taskId := by
  unfold pending
  change (logs.pendingActivityLogs.get? taskId).elim [] _ = _
  cases held : logs.pendingActivityLogs.get? taskId with
  | none => rfl
  | some array =>
      have old : array ≠ logs.newArray := (separate.pendingBound taskId array held).ne
      simp only [Option.elim_some, contents_allocate, if_neg old]

theorem Separate.pending_push (separate : Separate logs) {taskId : String} {array : Nat}
    (held : logs.pendingActivityLogs.get? taskId = some array) (entry : LogEntry)
    (other : String) :
    (logs.push array entry).pending other =
      logs.pending other ++ if other = taskId then [entry] else [] := by
  unfold pending
  change (logs.pendingActivityLogs.get? other).elim [] _ = _
  cases found : logs.pendingActivityLogs.get? other with
  | none =>
      have different : other ≠ taskId := by
        rintro rfl
        rw [held] at found
        cases found
      simp [different]
  | some otherArray =>
      simp only [Option.elim_some, contents_push logs (separate.pendingBound taskId array held)]
      by_cases same : other = taskId
      · subst same
        obtain rfl : otherArray = array := by simpa [held] using found.symm
        simp
      · have different : otherArray ≠ array := by
          rintro rfl
          exact same (separate.pendingApart other taskId otherArray found held)
        simp [same, different]

end Views

structure Moves (kind : Option (Except String Unit) → Bool) (before after : ActivityLogs)
    (added : String → List LogEntry) : Prop where
  separate : Separate after
  total : ∀ taskId, after.batches kind taskId ++ after.pending taskId =
    before.batches kind taskId ++ before.pending taskId ++ added taskId
  small : (∀ taskId, (before.pending taskId).length < maxBatchSize) →
    ∀ taskId, (after.pending taskId).length < maxBatchSize

section Moves

variable {logs : ActivityLogs} {kind : Option (Except String Unit) → Bool}

theorem Separate.idle_newArray (separate : Separate logs) (entries : List LogEntry) :
    Idle (logs.allocate entries) logs.newArray := by
  refine ⟨by simp [ActivityLogs.allocate, newArray], fun taskId held => ?_⟩
  exact absurd (separate.pendingBound taskId logs.newArray held) (lt_irrefl _)

theorem Separate.setNewArray (separate : Separate logs) (taskId : String) :
    Separate ((logs.allocate []).setPending taskId logs.newArray) :=
  (separate.allocate []).setPending (separate.idle_newArray [])
    (fun call membership => (separate.callBound call membership).ne) taskId

theorem Separate.pending_setNewArray (separate : Separate logs) (taskId other : String) :
    ((logs.allocate []).setPending taskId logs.newArray).pending other =
      if other = taskId then [] else logs.pending other := by
  rw [pending_setPending, contents_allocate, if_pos rfl, separate.pending_allocate]

theorem Separate.forceFlush_moves (separate : Separate logs) (started : kind none = true)
    {taskId : String} {array : Nat} (held : logs.pendingActivityLogs.get? taskId = some array) :
    Separate (logs.forceFlush taskId array) ∧
      ∀ other,
        (logs.forceFlush taskId array).pending other =
          (if other = taskId then [] else logs.pending other) ∧
        (logs.forceFlush taskId array).batches kind other =
          logs.batches kind other ++ if other = taskId then logs.pending taskId else [] := by
  have copied := separate.allocate (logs.contents array)
  have replaced := copied.setNewArray taskId
  have kept : (((logs.allocate (logs.contents array)).allocate []).setPending taskId
      (logs.allocate (logs.contents array)).newArray).contents logs.newArray =
        logs.pending taskId := by
    change ((logs.allocate (logs.contents array)).allocate []).contents logs.newArray = _
    have different : logs.newArray ≠ (logs.allocate (logs.contents array)).newArray := by
      simp [newArray, ActivityLogs.allocate]
    rw [contents_allocate, if_neg different, contents_allocate, if_pos rfl, pending, held]
    rfl
  refine ⟨replaced.appendActivityLogs ?_ taskId, fun other => ⟨?_, ?_⟩⟩
  · refine ⟨by simp [newArray, ActivityLogs.allocate, ActivityLogs.setPending],
      fun other found => ?_⟩
    rw [ActivityLogs.setPending, OrderedMap.get?_set] at found
    split at found
    · simp [newArray, ActivityLogs.allocate] at found
    · exact absurd (separate.pendingBound other _ found) (lt_irrefl _)
  · unfold forceFlush
    rw [pending_append, copied.pending_setNewArray, separate.pending_allocate]
  · unfold forceFlush
    rw [batches_append kind started, kept]
    rfl

theorem Separate.addEntry_moves (separate : Separate logs) (started : kind none = true)
    {taskId : String} {array : Nat} (held : logs.pendingActivityLogs.get? taskId = some array)
    (entry : LogEntry) :
    Moves kind logs (logs.addEntry taskId array entry)
      fun other => if other = taskId then [entry] else [] := by
  have pushed := separate.push held entry
  have content : (logs.push array entry).contents array =
      (logs.push array entry).pending taskId := by
    unfold pending
    change _ = (logs.pendingActivityLogs.get? taskId).elim [] _
    rw [held]
    rfl
  have sameBatches (other : String) :
      (logs.push array entry).batches kind other = logs.batches kind other := rfl
  unfold addEntry
  by_cases full : maxBatchSize ≤ ((logs.push array entry).contents array).length
  · have stillHeld : (logs.push array entry).pendingActivityLogs.get? taskId = some array := held
    obtain ⟨apart, views⟩ := pushed.forceFlush_moves started stillHeld
    dsimp only
    rw [if_pos full]
    refine ⟨apart, fun other => ?_, fun small other => ?_⟩
    · rw [(views other).1, (views other).2]
      by_cases same : other = taskId
      · subst same
        simp [separate.pending_push held, sameBatches]
      · simp [same, separate.pending_push held, sameBatches]
    · rw [(views other).1]
      split
      · exact Nat.zero_lt_succ _
      · rename_i different
        rw [separate.pending_push held, if_neg different, List.append_nil]
        exact small other
  · dsimp only
    rw [if_neg full]
    refine ⟨pushed, fun other => ?_, fun small other => ?_⟩
    · rw [separate.pending_push held, sameBatches, List.append_assoc]
    · by_cases same : other = taskId
      · subst same
        rw [← content]
        omega
      · rw [separate.pending_push held, if_neg same, List.append_nil]
        exact small other

theorem queued_queueActivityLog (taskId other : String) (entry : LogEntry) :
    queued other [.queueActivityLog taskId entry] = if other = taskId then [entry] else [] := by
  by_cases same : taskId = other
  · simp [queued, same]
  · simp [queued, same, Ne.symm same]

theorem Separate.queue_moves (separate : Separate logs) (started : kind none = true)
    (taskId : String) (entry : LogEntry) :
    Moves kind logs (logs.queueActivityLog taskId entry)
      fun other => queued other [.queueActivityLog taskId entry] := by
  simp only [queued_queueActivityLog]
  unfold queueActivityLog
  cases held : logs.pendingActivityLogs.get? taskId with
  | some array => exact separate.addEntry_moves started held entry
  | none =>
      have fresh := separate.setNewArray taskId
      have samePending (other : String) :
          ((logs.allocate []).setPending taskId logs.newArray).pending other =
            logs.pending other := by
        rw [separate.pending_setNewArray]
        split
        · rename_i same
          rw [same, pending, held]
          rfl
        · rfl
      have set : ((logs.allocate []).setPending taskId
          logs.newArray).pendingActivityLogs.get? taskId = some logs.newArray := by
        simp [ActivityLogs.setPending]
      have moved := fresh.addEntry_moves started set entry
      refine ⟨moved.separate, fun other => ?_, fun small => ?_⟩
      · rw [moved.total other, samePending]
        rfl
      · exact moved.small fun other => by rw [samePending]; exact small other

theorem Separate.queueActivityLog (separate : Separate logs) (taskId : String)
    (entry : LogEntry) : Separate (logs.queueActivityLog taskId entry) := by
  have moves : Moves (fun _ => true) logs _ _ := separate.queue_moves rfl taskId entry
  exact moves.separate

def callsOf (logs : ActivityLogs) (taskId : String) : List AppendCall :=
  logs.calls.filter fun call => call.taskId = taskId

theorem callsOf_append {taskId other : String} (different : other ≠ taskId) (array : Nat) :
    (logs.appendActivityLogs taskId array).callsOf other = logs.callsOf other := by
  unfold appendActivityLogs
  split
  · rfl
  · simp [callsOf, List.filter_append, Ne.symm different]

theorem Separate.addEntry_other (separate : Separate logs) {taskId other : String}
    (different : other ≠ taskId) {array : Nat}
    (held : logs.pendingActivityLogs.get? taskId = some array) (entry : LogEntry) :
    (logs.addEntry taskId array entry).pending other = logs.pending other ∧
      (logs.addEntry taskId array entry).callsOf other = logs.callsOf other := by
  have pushed : (logs.push array entry).pending other = logs.pending other := by
    rw [separate.pending_push held, if_neg different, List.append_nil]
  unfold addEntry
  dsimp only
  split
  · have stillHeld : (logs.push array entry).pendingActivityLogs.get? taskId = some array := held
    have flushed := @Separate.forceFlush_moves _ (fun _ => true) (separate.push held entry) rfl
      taskId array stillHeld
    refine ⟨?_, callsOf_append different _⟩
    rw [(flushed.2 other).1, if_neg different, pushed]
  · exact ⟨pushed, rfl⟩

theorem Separate.queue_other (separate : Separate logs) {taskId other : String}
    (different : other ≠ taskId) (entry : LogEntry) :
    (logs.queueActivityLog taskId entry).pending other = logs.pending other ∧
      (logs.queueActivityLog taskId entry).callsOf other = logs.callsOf other := by
  unfold ActivityLogs.queueActivityLog
  cases held : logs.pendingActivityLogs.get? taskId with
  | some array => exact separate.addEntry_other different held entry
  | none =>
      have set : ((logs.allocate []).setPending taskId
          logs.newArray).pendingActivityLogs.get? taskId = some logs.newArray := by
        simp [ActivityLogs.setPending]
      have added := (separate.setNewArray taskId).addEntry_other different set entry
      rw [separate.pending_setNewArray, if_neg different] at added
      exact added

theorem Separate.flush_fold (separate : Separate logs) (started : kind none = true)
    (entries : List (String × Nat)) (idle : ∀ entry ∈ entries, Idle logs entry.2) :
    let after := entries.foldl (fun logs entry => logs.appendActivityLogs entry.1 entry.2) logs
    Separate after ∧ after.pendingActivityLogs = logs.pendingActivityLogs ∧
      ∀ taskId, after.batches kind taskId = logs.batches kind taskId ++
        (entries.filter fun entry => entry.1 = taskId).flatMap fun entry =>
          logs.contents entry.2 := by
  induction entries generalizing logs with
  | nil => exact ⟨separate, rfl, fun taskId => by simp⟩
  | cons entry rest ih =>
      have sameArrays : (logs.appendActivityLogs entry.1 entry.2).arrays = logs.arrays := by
        unfold ActivityLogs.appendActivityLogs
        split <;> rfl
      have samePending : (logs.appendActivityLogs entry.1 entry.2).pendingActivityLogs =
          logs.pendingActivityLogs := by
        unfold ActivityLogs.appendActivityLogs
        split <;> rfl
      obtain ⟨apart, pending, batches⟩ := ih
        (separate.appendActivityLogs (idle entry List.mem_cons_self) entry.1)
        fun other membership => by
          unfold Idle
          rw [sameArrays, samePending]
          exact idle other (List.mem_cons_of_mem entry membership)
      refine ⟨apart, pending.trans samePending, fun taskId => ?_⟩
      rw [List.foldl_cons, batches, batches_append kind started]
      have sameContents : (logs.appendActivityLogs entry.1 entry.2).contents = logs.contents := by
        funext array
        unfold contents
        rw [sameArrays]
      rw [sameContents, List.filter_cons]
      by_cases same : entry.1 = taskId
      · simp [same]
      · simp [same, Ne.symm same]

theorem Separate.flushAll_moves (separate : Separate logs) (started : kind none = true) :
    Moves kind logs logs.flushAllActivityLogs (fun _ => []) ∧
      ∀ taskId, logs.flushAllActivityLogs.pending taskId = [] := by
  obtain ⟨apart, pending, batches⟩ := separate.clear.flush_fold started
    logs.pendingActivityLogs.entries fun entry membership => by
      refine ⟨separate.pendingBound entry.1 entry.2 (OrderedMap.mem_entries_iff.mp membership),
        fun taskId found => ?_⟩
      cases found
  have nothing (taskId : String) : logs.flushAllActivityLogs.pending taskId = [] := by
    unfold ActivityLogs.pending flushAllActivityLogs
    rw [pending]
    rfl
  refine ⟨⟨apart, fun taskId => ?_, fun _ taskId => ?_⟩, nothing⟩
  · rw [nothing taskId]
    simp only [List.append_nil]
    unfold flushAllActivityLogs
    rw [batches taskId]
    exact congrArg _ (logs.pendingActivityLogs.flatMap_filter_key taskId logs.contents)
  · rw [nothing taskId]
    exact Nat.zero_lt_succ _

end Moves

end MultiAgents.ActivityLogs
