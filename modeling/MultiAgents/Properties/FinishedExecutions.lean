import MultiAgents.Services.TrackedExecutions

/-!
# Executions that are finished once

Between the look at the entry of its task and the removal of that entry, a call that
finishes an execution waits.  A second such call finishes the same execution again,
and an execution entered meanwhile loses its entry.  Where neither begins while a
call of the task is under way, every execution is finished once and removes its own
entry; where one does, the calls can end so that it is not so.
-/

namespace MultiAgents.ExecutionTracker.Executions

open Containers Effects

/-- No execution is finished twice, and no entry of another one is removed. -/
def FinishedOnce (tracker : Executions) : Prop :=
  (tracker.finished.map Prod.fst).Nodup ∧
    ∀ pair ∈ tracker.finished, ∀ removed, pair.2 = some removed → removed = pair.1

/-- A call that finishes an execution of the task is under way. -/
def Finishing (tracker : Executions) (taskId : String) : Prop :=
  ∃ call active, tracker.calls.get? call = some (.finish taskId active)

def isFinish (taskId : String) : Waiting → Bool
  | .finish other _ => other == taskId
  | .start _ => false

instance (tracker : Executions) : Decidable tracker.FinishedOnce :=
  inferInstanceAs (Decidable (_ ∧ ∀ pair ∈ tracker.finished, ∀ removed ∈ pair.2, removed = pair.1))

instance (tracker : Executions) (taskId : String) : Decidable (tracker.Finishing taskId) :=
  decidable_of_iff (∃ entry ∈ tracker.calls.held.entries, isFinish taskId entry.2 = true) (by
    constructor
    · rintro ⟨⟨call, waiting⟩, listed, finishes⟩
      cases waiting with
      | start other => cases finishes
      | finish other active =>
          obtain rfl : other = taskId := by simpa [isFinish] using finishes
          exact ⟨call, active, OrderedMap.mem_entries_iff.mp listed⟩
    · rintro ⟨call, active, found⟩
      exact ⟨(call, _), OrderedMap.mem_entries_iff.mpr found, by simp [isFinish]⟩)

/-- While one is under way, none begins and no execution of the task is entered. -/
def Apart (tracker : Executions) : Action → Prop
  | .registerSession _ _ _ | .fault _ => True
  | .unregisterSession sessionId => ∀ session,
      tracker.subscriptions.activeSessions.get? sessionId = some session →
        ¬tracker.Finishing session.taskId
  | .failExecution taskId | .cancelExecution taskId => ¬tracker.Finishing taskId
  | .answer call => ∀ taskId, tracker.calls.get? call = some (.start taskId) →
      ¬tracker.Finishing taskId

instance (tracker : Executions) : (action : Action) → Decidable (tracker.Apart action)
  | .registerSession _ _ _ | .fault _ => .isTrue trivial
  | .unregisterSession sessionId => inferInstanceAs (Decidable (∀ session ∈
      tracker.subscriptions.activeSessions.get? sessionId, ¬tracker.Finishing session.taskId))
  | .failExecution _ | .cancelExecution _ => inferInstanceAs (Decidable (¬_))
  | .answer call =>
      match found : tracker.calls.get? call with
      | some (.start taskId) => decidable_of_iff (¬tracker.Finishing taskId)
          (by simp [Apart, found])
      | some (.finish _ _) | none => .isTrue (by simp [Apart, found])

/-- A call under way holds the entry of its task, alone, and an execution that has an entry is
not finished. -/
structure Orderly (tracker : Executions) : Prop where
  named : ∀ taskId active, tracker.activeExecutions.get? taskId = some active →
    tracker.entered[active]? = some taskId
  held : ∀ call taskId active, tracker.calls.get? call = some (.finish taskId active) →
    tracker.activeExecutions.get? taskId = some active
  alone : ∀ call other taskId active, tracker.calls.get? call = some (.finish taskId active) →
    tracker.calls.get? other = some (.finish taskId active) → call = other
  fresh : ∀ taskId active, tracker.activeExecutions.get? taskId = some active →
    active ∉ tracker.finished.map Prod.fst
  known : ∀ active ∈ tracker.finished.map Prod.fst, active < tracker.entered.length
  nodup : (tracker.finished.map Prod.fst).Nodup
  own : ∀ pair ∈ tracker.finished, pair.2 = some pair.1

namespace Orderly

variable {tracker : Executions}

theorem finishedOnce (orderly : Orderly tracker) : tracker.FinishedOnce := by
  refine ⟨orderly.nodup, fun pair isPair removed found => ?_⟩
  rw [orderly.own pair isPair] at found
  exact (Option.some.inj found).symm

theorem subscriptions (orderly : Orderly tracker) (subscriptions : Subscriptions) :
    Orderly { tracker with subscriptions } :=
  { orderly with }

theorem remove (orderly : Orderly tracker) (call : Nat) :
    Orderly { tracker with calls := tracker.calls.remove call } :=
  { orderly with
    held := fun other taskId active found =>
      orderly.held other taskId active (Tickets.of_get?_remove found).2
    alone := fun first second taskId active found found' =>
      orderly.alone first second taskId active (Tickets.of_get?_remove found).2
        (Tickets.of_get?_remove found').2 }

theorem wait (orderly : Orderly tracker) {waiting : Waiting}
    (holds : ∀ taskId active, waiting = .finish taskId active →
      tracker.activeExecutions.get? taskId = some active ∧ ¬tracker.Finishing taskId) :
    Orderly (tracker.wait waiting) where
  named := orderly.named
  held call taskId active isCall := by
    rcases Tickets.of_get?_add isCall with ⟨-, same⟩ | earlier
    · exact (holds taskId active same.symm).1
    · exact orderly.held call taskId active earlier
  alone call other taskId active isCall isOther := by
    rcases Tickets.of_get?_add isCall with ⟨rfl, same⟩ | earlier <;>
      rcases Tickets.of_get?_add isOther with ⟨rfl, same'⟩ | earlier'
    · rfl
    · exact absurd ⟨other, active, earlier'⟩ (holds taskId active same.symm).2
    · exact absurd ⟨call, active, earlier⟩ (holds taskId active same'.symm).2
    · exact orderly.alone call other taskId active earlier earlier'
  fresh := orderly.fresh
  known := orderly.known
  nodup := orderly.nodup
  own := orderly.own

theorem finishExecution (orderly : Orderly tracker) {taskId : String}
    (apart : ¬tracker.Finishing taskId) : Orderly (tracker.finishExecution taskId) := by
  unfold Executions.finishExecution
  split
  · exact orderly
  · next active found =>
      refine orderly.wait fun other held same => ?_
      obtain ⟨rfl, rfl⟩ := Waiting.finish.inj same
      exact ⟨found, apart⟩

theorem resume_start (orderly : Orderly tracker) {taskId : String}
    (apart : ¬tracker.Finishing taskId) : Orderly (tracker.resume (.start taskId)) where
  named other active found := by
    simp only [resume]
    rcases OrderedMap.of_get?_set found with ⟨rfl, rfl⟩ | found
    · simp
    · have isEntered := orderly.named other active found
      rwa [List.getElem?_append_left (List.getElem?_eq_some_iff.mp isEntered).1]
  held call other active isCall := by
    have differs : other ≠ taskId := fun same => apart ⟨call, active, same ▸ isCall⟩
    simp only [resume, OrderedMap.get?_set, if_neg differs]
    exact orderly.held call other active isCall
  alone := orderly.alone
  fresh other active found := by
    rcases OrderedMap.of_get?_set found with ⟨-, rfl⟩ | found
    · exact fun isFinished => Nat.lt_irrefl _ (orderly.known _ isFinished)
    · exact orderly.fresh other active found
  known active isFinished := by
    simp only [resume, List.length_append]
    exact Nat.lt_succ_of_lt (orderly.known active isFinished)
  nodup := orderly.nodup
  own := orderly.own

/-- The call has gone, and no other one holds its execution. -/
theorem resume_finish (orderly : Orderly tracker) {call : Nat} {taskId : String} {active : Nat}
    (isCall : tracker.calls.get? call = some (.finish taskId active)) :
    Orderly ({ tracker with calls := tracker.calls.remove call }.resume
      (.finish taskId active)) := by
  have erased := orderly.remove call
  have entry := orderly.held call taskId active isCall
  exact {
    named := by
      intro other found isFound
      exact orderly.named other found (OrderedMap.of_get?_erase isFound).2
    held := by
      intro other otherTask found isOther
      have differs : otherTask ≠ taskId := by
        rintro rfl
        have sameEntry := erased.held other otherTask found isOther
        obtain rfl : active = found := Option.some.inj (entry.symm.trans sameEntry)
        obtain ⟨differs, isKept⟩ := Tickets.of_get?_remove isOther
        exact differs (orderly.alone other call otherTask active isKept isCall)
      simp only [resume, OrderedMap.get?_erase, if_neg differs]
      exact erased.held other otherTask found isOther
    alone := erased.alone
    fresh := by
      intro other found isFound
      obtain ⟨differs, isHeld⟩ := OrderedMap.of_get?_erase isFound
      simp only [resume, List.map_append, List.mem_append, List.map_cons, List.map_nil,
        List.mem_singleton, not_or]
      refine ⟨orderly.fresh other found isHeld, ?_⟩
      rintro rfl
      exact differs (Option.some.inj
        ((orderly.named other found isHeld).symm.trans (orderly.named taskId found entry)))
    known := by
      intro found isFinished
      simp only [resume, List.map_append, List.mem_append, List.map_cons, List.map_nil,
        List.mem_singleton] at isFinished
      rcases isFinished with earlier | rfl
      · exact orderly.known found earlier
      · exact (List.getElem?_eq_some_iff.mp (orderly.named taskId found entry)).1
    nodup := by
      simp only [resume, List.map_append, List.map_cons, List.map_nil]
      exact List.nodup_append.mpr ⟨orderly.nodup, List.nodup_singleton _,
        fun found isFinished other isOther => by
          rw [List.mem_singleton.mp isOther]
          rintro rfl
          exact orderly.fresh taskId found entry isFinished⟩
    own := by
      intro pair isPair
      simp only [resume, List.mem_append, List.mem_singleton] at isPair
      rcases isPair with earlier | rfl
      · exact orderly.own pair earlier
      · exact entry }

theorem step (orderly : Orderly tracker) {action : Action} (apart : tracker.Apart action) :
    Orderly (tracker.step action) := by
  cases action with
  | registerSession taskId sessionId directory =>
      simp only [Executions.step, registerSession]
      split
      · exact orderly
      · exact (orderly.subscriptions _).wait fun _ _ same => by cases same
  | unregisterSession sessionId =>
      simp only [Executions.step, unregisterSession]
      split
      · exact orderly
      · next session found => exact (orderly.subscriptions _).finishExecution (apart session found)
  | failExecution taskId => exact orderly.finishExecution apart
  | cancelExecution taskId => exact orderly.finishExecution apart
  | answer call =>
      simp only [Executions.step]
      split
      · exact orderly
      · next waiting found =>
          cases waiting with
          | start taskId =>
              refine (orderly.remove call).resume_start ?_
              rintro ⟨other, active, isOther⟩
              exact apart taskId found ⟨other, active, (Tickets.of_get?_remove isOther).2⟩
          | finish taskId active => exact orderly.resume_finish found
  | fault call => exact orderly.remove call

/-- The execution is held by two calls, which may both go on. -/
theorem finish_again (orderly : Orderly tracker) {taskId : String}
    (finishing : tracker.Finishing taskId) :
    ∃ ends, ¬(Machine.run Executions.step (tracker.finishExecution taskId) ends).FinishedOnce := by
  obtain ⟨call, active, isCall⟩ := finishing
  have entry := orderly.held call taskId active isCall
  have earlier : call ≠ tracker.calls.issued := Tickets.ne_issued isCall
  refine ⟨[.answer call, .answer tracker.calls.issued], fun once => ?_⟩
  have twice : (tracker.finished.map Prod.fst ++ [active, active]).Nodup := by
    simpa [Executions.finishExecution, entry, Executions.wait, Executions.step, resume, isCall,
      earlier, earlier.symm] using once.1
  exact absurd (twice.sublist (List.sublist_append_right _ _)) (by simp)

/-- The call that is under way removes the entry that is made now. -/
theorem enter_meanwhile (orderly : Orderly tracker) {call : Nat} {taskId : String}
    (isCall : tracker.calls.get? call = some (.start taskId))
    (finishing : tracker.Finishing taskId) :
    ∃ ends, ¬(Machine.run Executions.step (tracker.step (.answer call)) ends).FinishedOnce := by
  obtain ⟨other, active, isOther⟩ := finishing
  have entered := orderly.named taskId active (orderly.held other taskId active isOther)
  have below : active < tracker.entered.length := (List.getElem?_eq_some_iff.mp entered).1
  have differs : other ≠ call := by
    rintro rfl
    rw [isCall] at isOther
    cases isOther
  refine ⟨[.answer other], fun once => ?_⟩
  have removed := once.2 (active, some tracker.entered.length) (by
    simp [Executions.step, isCall, resume, differs, isOther]) _ rfl
  exact Nat.ne_of_gt below removed

theorem breaks (orderly : Orderly tracker) {action : Action} (meets : ¬tracker.Apart action) :
    ∃ ends, ¬(Machine.run Executions.step (tracker.step action) ends).FinishedOnce := by
  cases action with
  | registerSession taskId sessionId directory => exact absurd trivial meets
  | unregisterSession sessionId =>
      simp only [Apart, not_forall, not_not] at meets
      obtain ⟨session, found, finishing⟩ := meets
      simp only [Executions.step, unregisterSession, found]
      exact (orderly.subscriptions _).finish_again finishing
  | failExecution taskId => exact orderly.finish_again (not_not.mp meets)
  | cancelExecution taskId => exact orderly.finish_again (not_not.mp meets)
  | answer call =>
      simp only [Apart, not_forall, not_not] at meets
      obtain ⟨taskId, isCall, finishing⟩ := meets
      exact orderly.enter_meanwhile isCall finishing
  | fault call => exact absurd trivial meets

end Orderly

theorem orderly_initial : Orderly {} where
  named := fun _ _ found => by cases found
  held := fun _ _ _ found => by cases found
  alone := fun _ _ _ _ found => by cases found
  fresh := fun _ _ found => by cases found
  known := fun _ found => by cases found
  nodup := List.nodup_nil
  own := fun _ found => by cases found

/-- A run whose steps are apart finishes every execution once; after the first step that is not,
the calls under way can end otherwise. -/
theorem finishedOnce_of_apart (actions : List Action)
    (apart : Machine.Guarded step Apart actions {}) :
    (Machine.run step {} actions).FinishedOnce ∧
      ∀ action, ¬(Machine.run step {} actions).Apart action →
        ∃ ends, ¬(Machine.run step {} (actions ++ action :: ends)).FinishedOnce := by
  have orderly : Orderly (Machine.run step {} actions) :=
    Machine.run_invariant (fun _ _ meets ordered => ordered.step meets) apart orderly_initial
  refine ⟨orderly.finishedOnce, fun action meets => ?_⟩
  obtain ⟨ends, breaks⟩ := orderly.breaks meets
  exact ⟨ends, by rwa [Machine.run_append, Machine.run_cons]⟩

/-- Two sessions of a task, each from its registration to the end of its completion. -/
theorem finishedOnce_of_apart_session :
    (Machine.run step {} [.registerSession "task" "first" "/work", .answer 0,
      .unregisterSession "first", .answer 1, .registerSession "task" "second" "/work", .answer 2,
      .unregisterSession "second", .answer 3]).FinishedOnce :=
  (finishedOnce_of_apart _ (by decide +kernel)).1

/-- Two sessions of a task.  Where the second is registered before the completion for the first
has ended, its entry is removed; where both are unregistered at once, its execution is completed
twice. -/
theorem finished_of_two_sessions :
    ¬(Machine.run step {} [.registerSession "task" "first" "/work", .answer 0,
        .registerSession "task" "second" "/work", .unregisterSession "first", .answer 1,
        .answer 2]).FinishedOnce ∧
      ¬(Machine.run step {} [.registerSession "task" "first" "/work", .answer 0,
        .registerSession "task" "second" "/work", .answer 1, .unregisterSession "first",
        .unregisterSession "second", .answer 2, .answer 3]).FinishedOnce := by
  decide +kernel

end MultiAgents.ExecutionTracker.Executions
