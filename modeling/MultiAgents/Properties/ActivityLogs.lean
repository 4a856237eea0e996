import Mathlib.Data.List.Perm.Subperm
import MultiAgents.Services.ActivityArrays

/-!
# Entries of the activity logs

The batches of a task followed by what is pending for it are the entries that were
queued for it.  Entries are lost where a query fails, and where they are queued
while a stop waits for the queries of its flush.
-/

namespace MultiAgents.ActivityLogs

open Containers Effects

section Settling

variable {logs : ActivityLogs}

theorem settle_cases (logs : ActivityLogs) (call : Nat) (outcome : Except String Unit) :
    logs.settle call outcome = logs ∨
      ∃ before issued after, logs.calls = before ++ issued :: after ∧
        logs.calls[call]? = some issued ∧ issued.outcome = none ∧
        logs.settle call outcome =
          { logs with
            calls := before ++ { issued with outcome := some outcome } :: after
            activityLog := logs.rowsAfter issued.taskId issued.entries outcome } := by
  unfold settle
  split
  · rename_i taskId array entries found
    obtain ⟨inside, held⟩ := List.getElem?_eq_some_iff.mp found
    obtain ⟨before, after, split, _, replaced⟩ :
        ∃ before after, logs.calls = before ++ logs.calls[call] :: after ∧
          before.length = call ∧
          logs.calls.set call { taskId, array, entries, outcome := some outcome } =
            before ++ { taskId, array, entries, outcome := some outcome } :: after :=
      List.exists_of_set inside
    rw [held] at split
    refine .inr ⟨before, _, after, split, found, rfl, ?_⟩
    dsimp only
    rw [replaced]
  · exact .inl rfl

theorem batches_settle (call : Nat) (outcome : Except String Unit) (taskId : String) :
    (logs.settle call outcome).batches (fun _ => true) taskId =
      logs.batches (fun _ => true) taskId := by
  rcases logs.settle_cases call outcome with same | ⟨before, issued, after, split, _, _, settled⟩
  · rw [same]
  · rw [settled]
    unfold batches
    simp only [split, List.filter_append, List.filter_cons, List.flatMap_append]
    by_cases own : issued.taskId = taskId <;> simp [own]

theorem Separate.settle (separate : Separate logs) (call : Nat) (outcome : Except String Unit) :
    Separate (logs.settle call outcome) := by
  rcases logs.settle_cases call outcome with same | ⟨before, issued, after, split, _, _, settled⟩
  · rw [same]
    exact separate
  · rw [settled]
    -- Every call was there before, with the same array and the same entries.
    have known : ∀ ended ∈ before ++ { issued with outcome := some outcome } :: after,
        ∃ call ∈ logs.calls, call.array = ended.array ∧ call.entries = ended.entries := by
      rw [split]
      simp only [List.mem_append, List.mem_cons]
      rintro ended (early | rfl | late)
      · exact ⟨ended, .inl early, rfl, rfl⟩
      · exact ⟨issued, .inr (.inl rfl), rfl, rfl⟩
      · exact ⟨ended, .inr (.inr late), rfl, rfl⟩
    refine ⟨separate.pendingBound, separate.pendingApart, fun ended membership => ?_,
      fun ended membership => ?_, fun ended membership => ?_⟩
    all_goals obtain ⟨call, held, sameArray, sameEntries⟩ := known ended membership
    · rw [← sameArray]
      exact separate.callBound call held
    · rw [← sameArray]
      exact separate.callApart call held
    · rw [← sameArray, ← sameEntries]
      exact separate.callEntries call held

end Settling

theorem step_moves {logs : ActivityLogs} (separate : Separate logs) {action : Action}
    (running : action.isStop = false) :
    Moves (fun _ => true) logs (logs.step action) fun taskId => queued taskId [action] := by
  have unmoved (added : String → List LogEntry) (nothing : ∀ taskId, added taskId = []) :
      Moves (fun _ => true) logs logs added :=
    ⟨separate, fun taskId => by simp [nothing], fun small => small⟩
  cases action with
  | queueActivityLog taskId entry => exact separate.queue_moves rfl taskId entry
  | flush =>
      change Moves _ _ (if logs.flushTimer then logs.flushAllActivityLogs else logs) _
      split
      · exact (separate.flushAll_moves rfl).1
      · exact unmoved _ fun _ => rfl
  | settle call outcome =>
      have samePending (taskId : String) :
          (logs.settle call outcome).pending taskId = logs.pending taskId := by
        rcases logs.settle_cases call outcome with same | ⟨_, _, _, _, _, _, settled⟩
        · rw [same]
        · rw [settled]
          rfl
      refine ⟨separate.settle call outcome, fun taskId => ?_, fun small taskId => ?_⟩
      · change (logs.settle call outcome).batches _ taskId ++
          (logs.settle call outcome).pending taskId = _
        rw [batches_settle, samePending]
        simp [queued]
      · change ((logs.settle call outcome).pending taskId).length < maxBatchSize
        rw [samePending]
        exact small taskId
  | stop => cases running
  | finishStop index => cases running

theorem queued_cons (taskId : String) (action : Action) (actions : List Action) :
    queued taskId (action :: actions) = queued taskId [action] ++ queued taskId actions := by
  unfold queued
  rw [← List.singleton_append, List.filterMap_append]

theorem run_moves {logs : ActivityLogs} (separate : Separate logs) {actions : List Action}
    (running : ∀ action ∈ actions, action.isStop = false) :
    Moves (fun _ => true) logs (Machine.run step logs actions)
      fun taskId => queued taskId actions := by
  induction actions generalizing logs with
  | nil => exact ⟨separate, fun taskId => by simp [queued], fun small => small⟩
  | cons action actions ih =>
      simp only [List.mem_cons, forall_eq_or_imp] at running
      have first := step_moves separate running.1
      have rest := ih first.separate running.2
      refine ⟨rest.separate, fun taskId => ?_, fun small => rest.small (first.small small)⟩
      rw [Machine.run_cons, rest.total, first.total, queued_cons taskId action actions,
        List.append_assoc]

/-- Between the steps of a run without a stop the batches of a task and what is pending for it
are what was queued for it, and no batch is due. -/
theorem batches_follow_queue (rows : OrderedMap String (List LogEntry)) (actions : List Action)
    (running : ∀ action ∈ actions, action.isStop = false) (taskId : String) :
    let logs := Machine.run step { activityLog := rows } actions
    logs.handed taskId ++ logs.pending taskId = queued taskId actions ∧
      (logs.pending taskId).length < maxBatchSize := by
  intro logs
  have fresh : Separate { activityLog := rows } := .initial rows
  have moved := run_moves fresh running
  refine ⟨?_, moved.small (fun _ => Nat.zero_lt_succ _) taskId⟩
  rw [moved.separate.handed_eq]
  exact moved.total taskId

section Samples

def sampleEntry (content : String) : LogEntry := { type := "agent_output", content }

/-- Entries of two tasks, more than one batch of the first, and a tick of the timer. -/
def sampleActions : List Action :=
  List.replicate 60 (.queueActivityLog "t1" (sampleEntry "a")) ++
    [.queueActivityLog "t2" (sampleEntry "b"), .settle 0 (.ok ()), .flush,
      .queueActivityLog "t1" (sampleEntry "c")]

theorem sample_batches_follow_queue :
    let logs := Machine.run step { activityLog := .empty } sampleActions
    logs.handed "t1" ++ logs.pending "t1" = queued "t1" sampleActions ∧
      (logs.pending "t1").length < maxBatchSize :=
  batches_follow_queue .empty sampleActions (by decide +kernel) "t1"

end Samples

section Kept

variable (logs : ActivityLogs) (taskId : String)

def inProgress : List LogEntry := logs.batches Option.isNone taskId

def stored : List LogEntry := (logs.activityLog.get? taskId).getD []

def known : List LogEntry := logs.stored taskId ++ (logs.inProgress taskId ++ logs.pending taskId)

/-- Each of the entries is stored, being stored or pending. -/
def Keeps (entries : List LogEntry) : Prop := entries.Subperm (logs.known taskId)

instance (entries : List LogEntry) : Decidable (logs.Keeps taskId entries) :=
  inferInstanceAs (Decidable (entries.Subperm _))

end Kept

/-- A query succeeds, for a task that has a row, and a stop ends with nothing pending. -/
def Lossless (logs : ActivityLogs) : Action → Prop
  | .settle call outcome =>
      ∀ issued ∈ logs.calls[call]?, issued.outcome = none →
        outcome.isOk = true ∧ (logs.activityLog.get? issued.taskId).isSome = true
  | .finishStop _ =>
      ∀ entry ∈ logs.pendingActivityLogs.entries, logs.contents entry.2 = []
  | _ => True

instance (logs : ActivityLogs) (action : Action) : Decidable (Lossless logs action) := by
  cases action <;> unfold Lossless <;> infer_instance

section Rows

variable (logs : ActivityLogs)

theorem activityLog_append (taskId : String) (array : Nat) :
    (logs.appendActivityLogs taskId array).activityLog = logs.activityLog := by
  unfold appendActivityLogs
  split <;> rfl

theorem activityLog_addEntry (taskId : String) (array : Nat) (entry : LogEntry) :
    (logs.addEntry taskId array entry).activityLog = logs.activityLog := by
  unfold addEntry
  dsimp only
  split
  · exact activityLog_append _ _ _
  · rfl

theorem activityLog_queue (taskId : String) (entry : LogEntry) :
    (logs.queueActivityLog taskId entry).activityLog = logs.activityLog := by
  unfold queueActivityLog
  split <;> exact activityLog_addEntry _ _ _ _

theorem activityLog_flushAll : logs.flushAllActivityLogs.activityLog = logs.activityLog := by
  unfold flushAllActivityLogs
  generalize logs.pendingActivityLogs.entries = entries
  suffices fold : ∀ start : ActivityLogs, (entries.foldl
      (fun logs entry => logs.appendActivityLogs entry.1 entry.2) start).activityLog =
        start.activityLog from fold _
  induction entries with
  | nil => exact fun start => rfl
  | cons entry rest ih =>
      intro start
      rw [List.foldl_cons, ih]
      exact activityLog_append start entry.1 entry.2

end Rows

theorem Moves.known {before after : ActivityLogs} {added : String → List LogEntry}
    (moves : Moves Option.isNone before after added)
    (rows : after.activityLog = before.activityLog) (taskId : String) :
    after.known taskId = before.known taskId ++ added taskId := by
  unfold ActivityLogs.known stored inProgress
  rw [rows, moves.total, List.append_assoc, List.append_assoc, List.append_assoc]

theorem known_settle {logs : ActivityLogs} {call : Nat} {outcome : Except String Unit}
    (lossless : Lossless logs (.settle call outcome)) (taskId : String) :
    ((logs.settle call outcome).known taskId).Perm (logs.known taskId) := by
  rcases logs.settle_cases call outcome with
    same | ⟨before, issued, after, split, found, waiting, settled⟩
  · rw [same]
  · obtain ⟨works, present⟩ := lossless issued found waiting
    obtain ⟨row, held⟩ := Option.isSome_iff_exists.mp present
    cases outcome with
    | error error => cases works
    | ok done =>
        have rows : logs.rowsAfter issued.taskId issued.entries (.ok done) =
            logs.activityLog.set issued.taskId (row ++ issued.entries) := by
          simp only [rowsAfter, held]
        rw [settled, rows]
        unfold known stored inProgress batches
        simp only [split, List.filter_append, List.filter_cons, List.flatMap_append,
          OrderedMap.get?_set]
        by_cases own : issued.taskId = taskId
        · subst own
          simp only [waiting, held, if_true, Option.isNone_none, Option.isNone_some, and_true,
            decide_true, and_false, decide_false, List.flatMap_cons, Option.getD_some,
            Bool.false_eq_true, if_false, List.append_assoc]
          apply List.Perm.append_left
          exact List.perm_append_comm_assoc _ _ _
        · simp [own, Ne.symm own, pending]
          rfl

theorem pending_eq_nil {logs : ActivityLogs}
    (nothing : ∀ entry ∈ logs.pendingActivityLogs.entries, logs.contents entry.2 = [])
    (taskId : String) : logs.pending taskId = [] := by
  unfold pending
  cases held : logs.pendingActivityLogs.get? taskId with
  | none => rfl
  | some array => exact nothing (taskId, array) (OrderedMap.mem_entries_iff.mpr held)

theorem step_known {logs : ActivityLogs} (separate : Separate logs) {action : Action}
    (lossless : Lossless logs action) :
    Separate (logs.step action) ∧ ∀ taskId,
      ((logs.step action).known taskId).Perm (logs.known taskId ++ queued taskId [action]) := by
  have flushed := (separate.flushAll_moves (rfl : Option.isNone none = true)).1
  cases action with
  | queueActivityLog taskId entry =>
      have moves := separate.queue_moves (rfl : Option.isNone none = true) taskId entry
      refine ⟨moves.separate, fun other => ?_⟩
      rw [← moves.known (logs.activityLog_queue taskId entry) other]
      rfl
  | flush =>
      change Separate (if logs.flushTimer then logs.flushAllActivityLogs else logs) ∧ ∀ taskId,
        ((if logs.flushTimer then logs.flushAllActivityLogs else logs).known taskId).Perm _
      split
      · refine ⟨flushed.separate, fun taskId => ?_⟩
        rw [flushed.known logs.activityLog_flushAll taskId]
        rfl
      · exact ⟨separate, fun taskId => by simp [queued]⟩
  | settle call outcome =>
      refine ⟨separate.settle call outcome, fun taskId => ?_⟩
      change ((logs.settle call outcome).known taskId).Perm (logs.known taskId ++ [])
      rw [List.append_nil]
      exact known_settle lossless taskId
  | stop =>
      -- Neither the timer nor the list of stops is looked at.
      have halted : Separate { logs with flushTimer := false } := ⟨separate.pendingBound,
        separate.pendingApart, separate.callBound, separate.callApart, separate.callEntries⟩
      have moves := (halted.flushAll_moves (rfl : Option.isNone none = true)).1
      refine ⟨⟨moves.separate.pendingBound, moves.separate.pendingApart, moves.separate.callBound,
        moves.separate.callApart, moves.separate.callEntries⟩, fun taskId => ?_⟩
      have same := moves.known (activityLog_flushAll _) taskId
      exact List.Perm.of_eq same
  | finishStop index =>
      change Separate (logs.finishStop index) ∧ ∀ taskId,
        ((logs.finishStop index).known taskId).Perm _
      unfold finishStop
      split
      · split
        · refine ⟨⟨separate.clear.pendingBound, separate.clear.pendingApart,
            separate.clear.callBound, separate.clear.callApart, separate.clear.callEntries⟩,
            fun taskId => ?_⟩
          change (logs.stored taskId ++ (logs.inProgress taskId ++ [])).Perm
            (logs.stored taskId ++ (logs.inProgress taskId ++ logs.pending taskId) ++ [])
          rw [pending_eq_nil lossless taskId, List.append_nil, List.append_nil]
        · exact ⟨separate, fun taskId => by simp [queued]⟩
      · exact ⟨separate, fun taskId => by simp [queued]⟩

theorem run_known {logs : ActivityLogs} (separate : Separate logs) {actions : List Action}
    (lossless : Machine.Guarded step Lossless actions logs) (taskId : String) :
    ((Machine.run step logs actions).known taskId).Perm
      (logs.known taskId ++ queued taskId actions) := by
  induction actions generalizing logs with
  | nil => simp [queued]
  | cons action actions ih =>
      obtain ⟨apart, first⟩ := step_known separate lossless.1
      have rest := ih apart lossless.2
      rw [Machine.run_cons, queued_cons taskId action actions, ← List.append_assoc]
      exact rest.trans ((first taskId).append_right _)

/-- In a run that loses nothing every accepted entry is stored, being stored or pending. -/
theorem accepted_entries_are_kept (rows : OrderedMap String (List LogEntry))
    (actions : List Action)
    (lossless : Machine.Guarded step Lossless actions { activityLog := rows })
    (taskId : String) :
    (Machine.run step { activityLog := rows } actions).Keeps taskId (queued taskId actions) := by
  have fresh : Separate { activityLog := rows } := .initial rows
  have kept := run_known fresh lossless taskId
  exact (List.sublist_append_right _ _).subperm.trans kept.symm.subperm

section Losses

def sampleRows : OrderedMap String (List LogEntry) := OrderedMap.empty.set "t1" []

/-- One entry, flushed and stored before another one is queued. -/
def keptActions : List Action :=
  [.queueActivityLog "t1" (sampleEntry "a"), .stop, .settle 0 (.ok ()), .finishStop 0,
    .queueActivityLog "t1" (sampleEntry "b")]

theorem entries_around_stop_are_kept :
    Machine.Guarded step Lossless keptActions { activityLog := sampleRows } ∧
      (Machine.run step { activityLog := sampleRows } keptActions).Keeps "t1"
        (queued "t1" keptActions) := by
  have lossless : Machine.Guarded step Lossless keptActions { activityLog := sampleRows } := by
    decide +kernel
  exact ⟨lossless, accepted_entries_are_kept sampleRows keptActions lossless "t1"⟩

def failedActions : List Action :=
  [.queueActivityLog "t1" (sampleEntry "a"), .flush, .settle 0 (.error "connection refused")]

/-- An entry is queued while the stop waits for the query of its flush. -/
def lateActions : List Action :=
  [.queueActivityLog "t1" (sampleEntry "a"), .stop, .queueActivityLog "t1" (sampleEntry "b"),
    .settle 0 (.ok ()), .finishStop 0]

theorem accepted_entries_are_lost :
    ¬(Machine.run step { activityLog := sampleRows } failedActions).Keeps "t1"
        (queued "t1" failedActions) ∧
      ¬(Machine.run step { activityLog := sampleRows } lateActions).Keeps "t1"
        (queued "t1" lateActions) := by
  constructor <;> decide +kernel

end Losses

end MultiAgents.ActivityLogs
