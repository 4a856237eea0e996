import MultiAgents.Effects.Machine
import MultiAgents.Properties.CostTotals

/-!
# The stored cost of a task

Runs of a task add their costs to the total in memory, which a restart of the
server loses.  A run that resumes a phase reads the stored total back first; one
that starts from the beginning, or a job that is tried again without a phase,
counts from zero and writes over what was stored.  The stored total ascends if
events are only recorded on top of it and no total is overtaken on its way.
-/

namespace MultiAgents.CostTracker

open Containers

/-- What a call waits for: that a total is written, that the row is read, or that what was read
comes back. -/
inductive Query where
  | write (total : Usage)
  | load
  | restore (total : Usage)

/-- The tracker of a server with the queries that are on their way. -/
structure Life extends State where
  pending : List (String × Query) := []

/-- What can happen: a worker begins with a task and persists its costs in the end, while events
come in and queries are answered, or fail. -/
inductive Activity where
  | recordCost (event : CostEvent)
  | processTask (taskId : String) (startFromPhase : Bool)
  | persistCostToDb (taskId : String)
  | answer (index : Nat) (fault : Bool)
  | restart

namespace Life

variable (life : Life)

def send (taskId : String) (query : Query) : Life :=
  { life with pending := life.pending ++ [(taskId, query)] }

def answer (index : Nat) (fault : Bool) : Life :=
  match life.pending[index]? with
  | none => life
  | some (taskId, query) =>
      let rest : Life := { life with pending := life.pending.eraseIdx index }
      match query, fault with
      | _, true => rest
      | .write total, false => { rest with toState := rest.update taskId total }
      | .load, false =>
          match life.rows.get? taskId with
          | none => rest
          | some dbCost => if dbCost = 0 then rest else rest.send taskId (.restore dbCost)
      | .restore total, false =>
          { rest with taskCosts := life.taskCosts.set taskId { total } }

def step : Activity → Life
  | .recordCost event =>
      let recorded : Life := { life with taskCosts := (recordCost event life.taskCosts).2 }
      match (recordCost event life.taskCosts).1 with
      | none => recorded
      | some total => recorded.send event.taskId (.write total)
  | .processTask taskId startFromPhase =>
      if startFromPhase ∧ life.taskCosts.get? taskId = none then life.send taskId .load else life
  | .persistCostToDb taskId =>
      match life.taskCosts.get? taskId with
      | none => life
      | some taskSummary => life.send taskId (.write taskSummary.total)
  | .answer index fault => life.answer index fault
  -- What is on its way is lost unless it was answered before.
  | .restart => { rows := life.rows }

variable (taskId : String)

def memory : Option Usage := (life.taskCosts.get? taskId).map TaskCostSummary.total

def stored : ℚ := ((life.rows.get? taskId).map Usage.cost).getD 0

end Life

def Query.written? : Query → Option Usage
  | .write total => some total
  | .load | .restore _ => none

def Query.restores : Query → Bool
  | .write _ => false
  | .load | .restore _ => true

/-- An event is recorded on top of what is stored: the total is in memory or nothing is stored, and
no restore is under way.  A total is written when no smaller one is on its way. -/
def Orderly (taskId : String) (life : Life) : Activity → Prop
  | .recordCost event => event.taskId = taskId →
      0 ≤ event.usage.cost ∧ ((life.memory taskId).isSome = true ∨ life.stored taskId ≤ 0) ∧
        ∀ entry ∈ life.pending, entry.1 = taskId → entry.2.restores = false
  | .answer index false => ∀ entry ∈ life.pending[index]?, entry.1 = taskId →
      ∀ total ∈ entry.2.written?, ∀ other ∈ life.pending, other.1 = taskId →
        ∀ later ∈ other.2.written?, total.cost ≤ later.cost
  | _ => True

instance (taskId : String) (life : Life) : DecidablePred (Orderly taskId life)
  | .recordCost event => inferInstanceAs (Decidable (event.taskId = taskId → _ ∧ (_ ∨ _) ∧ _))
  | .answer index false => inferInstanceAs (Decidable (∀ entry ∈ life.pending[index]?, _))
  | .answer _ true | .processTask _ _ | .persistCostToDb _ | .restart => .isTrue trivial

/-- The totals ascend from the row over those on their way to the one in memory; while a restore is
under way they are all the same. -/
structure Ascending (taskId : String) (life : Life) : Prop where
  held : ∀ total ∈ life.memory taskId, life.stored taskId ≤ total.cost
  writes : ∀ total, (taskId, .write total) ∈ life.pending → life.stored taskId ≤ total.cost ∧
    ∃ held ∈ life.memory taskId, total.cost ≤ held.cost
  restores : ∀ total, (taskId, .restore total) ∈ life.pending → total.cost = life.stored taskId
  settled : ∀ query : Query, (taskId, query) ∈ life.pending → query.restores = true →
    ∀ total ∈ life.memory taskId, total.cost = life.stored taskId

namespace Ascending

variable {taskId : String} {life : Life}

theorem fresh (rows : OrderedMap String Usage) : Ascending taskId { rows } where
  held := nofun
  writes := nofun
  restores := nofun
  settled := nofun

theorem same (ascending : Ascending taskId life) {next : Life}
    (memory : next.memory taskId = life.memory taskId)
    (stored : next.stored taskId = life.stored taskId)
    (fewer : ∀ entry ∈ next.pending, entry ∈ life.pending) : Ascending taskId next := by
  refine ⟨?_, ?_, ?_, ?_⟩ <;> simp only [memory, stored]
  · exact ascending.held
  · exact fun total listed => ascending.writes total (fewer _ listed)
  · exact fun total listed => ascending.restores total (fewer _ listed)
  · exact fun query listed => ascending.settled query (fewer _ listed)

theorem send (ascending : Ascending taskId life) {task : String} {query : Query}
    (writes : task = taskId → ∀ total, query = .write total → total ∈ life.memory taskId)
    (restores : task = taskId → ∀ total, query = .restore total →
      total.cost = life.stored taskId)
    (settled : task = taskId → query.restores = true →
      ∀ total ∈ life.memory taskId, total.cost = life.stored taskId) :
    Ascending taskId (life.send task query) where
  held := ascending.held
  writes total listed := by
    rcases List.mem_append.mp listed with old | new
    · exact ascending.writes total old
    · cases List.mem_singleton.mp new
      have current := writes rfl total rfl
      exact ⟨ascending.held total current, total, current, le_rfl⟩
  restores total listed := by
    rcases List.mem_append.mp listed with old | new
    · exact ascending.restores total old
    · cases List.mem_singleton.mp new
      exact restores rfl total rfl
  settled other listed := by
    rcases List.mem_append.mp listed with old | new
    · exact ascending.settled other old
    · cases List.mem_singleton.mp new
      exact settled rfl

theorem send_write (ascending : Ascending taskId life) {task : String} {total : Usage}
    (current : task = taskId → total ∈ life.memory taskId) :
    Ascending taskId (life.send task (.write total)) := by
  refine ascending.send (fun same _ written => ?_) nofun nofun
  cases written
  exact current same

theorem raise (ascending : Ascending taskId life) {taskCosts : TaskCosts} {total : Usage}
    (calm : ∀ entry ∈ life.pending, entry.1 = taskId → entry.2.restores = false)
    (found : (taskCosts.get? taskId).map TaskCostSummary.total = some total)
    (above : life.stored taskId ≤ total.cost)
    (grown : ∀ held ∈ life.memory taskId, held.cost ≤ total.cost) :
    Ascending taskId { life with taskCosts } where
  held current listed := by
    cases found.symm.trans listed
    exact above
  writes written listed := by
    obtain ⟨low, held, listed, high⟩ := ascending.writes written listed
    exact ⟨low, total, found, high.trans (grown held listed)⟩
  restores _ listed := nomatch calm _ listed rfl
  settled _ listed restores := nomatch restores.symm.trans (calm _ listed rfl)

theorem record (ascending : Ascending taskId life) {event : CostEvent}
    (orderly : Orderly taskId life (.recordCost event)) :
    Ascending taskId (life.step (.recordCost event)) := by
  have recorded : Ascending taskId
      { life with taskCosts := (recordCost event life.taskCosts).2 } ∧
      ∀ total, (recordCost event life.taskCosts).1 = some total → event.taskId = taskId →
        ((recordCost event life.taskCosts).2.get? taskId).map TaskCostSummary.total =
          some total := by
    by_cases own : event.taskId = taskId
    · subst own
      obtain ⟨positive, known, calm⟩ := orderly rfl
      rcases recordCost_cases event life.taskCosts with ⟨_, skipped⟩ | recorded
      · rw [skipped]
        exact ⟨ascending, nofun⟩
      · have before : ((life.taskCosts.get? event.taskId).getD {}).total =
            (life.memory event.taskId).getD 0 := by
          unfold Life.memory
          cases life.taskCosts.get? event.taskId <;> rfl
        have above : life.stored event.taskId ≤ ((life.memory event.taskId).getD 0).cost := by
          cases found : life.memory event.taskId with
          | some held => exact ascending.held held found
          | none => exact known.resolve_left (by simp [found])
        rw [recorded, before]
        have found : ((life.taskCosts.set event.taskId (addEvent event
            ((life.taskCosts.get? event.taskId).getD {}))).get? event.taskId).map
              TaskCostSummary.total = some ((life.memory event.taskId).getD 0 + event.usage) := by
          rw [OrderedMap.get?_set, if_pos rfl, ← before]
          rfl
        refine ⟨ascending.raise calm found ?_ ?_, ?_⟩
        · rw [Usage.cost_add]
          linarith
        · intro held listed
          rw [Option.mem_def.mp listed, Option.getD_some, Usage.cost_add]
          linarith
        · intro total persisted _
          split at persisted
          · cases persisted
            exact found
          · cases persisted
    · refine ⟨ascending.same ?_ rfl fun _ => id, fun _ _ same => absurd same own⟩
      exact congrArg (Option.map TaskCostSummary.total) (recordCost_other own _)
  unfold Life.step
  dsimp only
  split
  · exact recorded.1
  · exact recorded.1.send_write (recorded.2 _ ‹_›)

theorem processTask (ascending : Ascending taskId life) (task : String) (startFromPhase : Bool) :
    Ascending taskId (life.step (.processTask task startFromPhase)) := by
  dsimp only [Life.step]
  split
  · rename_i resumes
    refine ascending.send (fun _ _ query => by cases query) (fun _ _ query => by cases query) ?_
    rintro rfl _ total listed
    simp [Life.memory, resumes.2] at listed
  · exact ascending

theorem persistCostToDb (ascending : Ascending taskId life) (task : String) :
    Ascending taskId (life.step (.persistCostToDb task)) := by
  dsimp only [Life.step]
  split
  · exact ascending
  · rename_i summary found
    refine ascending.send_write ?_
    rintro rfl
    simp [Life.memory, found]

theorem write (ascending : Ascending taskId life) {index : Nat} {task : String} {total : Usage}
    (found : life.pending[index]? = some (task, .write total))
    (first : task = taskId → ∀ later, (taskId, .write later) ∈ life.pending →
      total.cost ≤ later.cost) :
    let written : Life :=
      { life with toState := life.update task total, pending := life.pending.eraseIdx index }
    Ascending taskId written ∧ life.stored taskId ≤ written.stored taskId := by
  intro written
  have memory : written.memory taskId = life.memory taskId := by
    unfold Life.memory
    rw [show written.taskCosts = life.taskCosts from update_taskCosts ..]
  have fewer : ∀ entry ∈ written.pending, entry ∈ life.pending := fun _ =>
    List.mem_of_mem_eraseIdx
  have unchanged (same : written.stored taskId = life.stored taskId) :
      Ascending taskId written ∧ life.stored taskId ≤ written.stored taskId :=
    ⟨ascending.same memory same fewer, same.ge⟩
  have row : written.rows.get? taskId = if taskId = task then
      (life.rows.get? task).map fun _ => total else life.rows.get? taskId := update_row ..
  by_cases own : taskId = task
  · subst own
    rw [if_pos rfl] at row
    cases known : life.rows.get? taskId with
    | none => exact unchanged (by simp [Life.stored, row, known])
    | some dbCost =>
        have stored : written.stored taskId = total.cost := by simp [Life.stored, row, known]
        obtain ⟨low, held, listed, high⟩ := ascending.writes total (List.mem_of_getElem? found)
        by_cases restoring : ∃ query, (taskId, query) ∈ life.pending ∧ query.restores = true
        · -- everything is the same while a restore is under way
          obtain ⟨query, queried, restores⟩ := restoring
          have settled := ascending.settled query queried restores held listed
          exact unchanged (stored.trans (le_antisymm (high.trans settled.le) low))
        · have calm (query : Query) (queried : (taskId, query) ∈ written.pending) :
              query.restores ≠ true := fun restores => restoring ⟨query, fewer _ queried, restores⟩
          refine ⟨⟨?_, ?_, ?_, ?_⟩, stored ▸ low⟩ <;> simp only [memory, stored]
          · intro other present
            cases (Option.mem_def.mp listed).symm.trans present
            exact high
          · intro later queried
            exact ⟨first rfl later (fewer _ queried), (ascending.writes later (fewer _ queried)).2⟩
          · exact fun _ queried => absurd rfl (calm _ queried)
          · exact fun query queried restores => absurd restores (calm query queried)
  · rw [if_neg own] at row
    exact unchanged (by simp only [Life.stored, row])

theorem restore (ascending : Ascending taskId life) {index : Nat} {task : String} {total : Usage}
    (found : life.pending[index]? = some (task, .restore total)) :
    Ascending taskId { life with
      taskCosts := life.taskCosts.set task { total }
      pending := life.pending.eraseIdx index } := by
  have listed := List.mem_of_getElem? found
  by_cases own : taskId = task
  · subst own
    have same := ascending.restores total listed
    have memory : ((life.taskCosts.set taskId ({ total } : TaskCostSummary)).get? taskId).map
        TaskCostSummary.total = some total := by
      rw [OrderedMap.get?_set, if_pos rfl]
      rfl
    refine ⟨?_, ?_, ?_, ?_⟩
    · intro held present
      cases memory.symm.trans present
      exact same.ge
    · intro written queried
      obtain ⟨low, held, present, high⟩ :=
        ascending.writes written (List.mem_of_mem_eraseIdx queried)
      have settled := ascending.settled _ listed rfl held present
      exact ⟨low, total, memory, by rw [same, ← settled]; exact high⟩
    · exact fun other queried => ascending.restores other (List.mem_of_mem_eraseIdx queried)
    · intro _ _ _ held present
      cases memory.symm.trans present
      exact same
  · refine ascending.same ?_ rfl fun _ => List.mem_of_mem_eraseIdx
    simp only [Life.memory]
    rw [OrderedMap.get?_set, if_neg own]

theorem load (ascending : Ascending taskId life) {index : Nat} {task : String} {dbCost : Usage}
    (found : life.pending[index]? = some (task, .load))
    (row : life.rows.get? task = some dbCost) :
    Ascending taskId
      (Life.send { life with pending := life.pending.eraseIdx index } task (.restore dbCost)) := by
  have dropped : Ascending taskId { life with pending := life.pending.eraseIdx index } :=
    ascending.same rfl rfl fun _ => List.mem_of_mem_eraseIdx
  refine dropped.send (fun _ _ query => by cases query) ?_ ?_
  · rintro rfl total read
    cases read
    simp [Life.stored, row]
  · rintro rfl _
    exact ascending.settled _ (List.mem_of_getElem? found) rfl

theorem answer (ascending : Ascending taskId life) {index : Nat} {fault : Bool}
    (orderly : Orderly taskId life (.answer index fault)) :
    Ascending taskId (life.answer index fault) ∧
      life.stored taskId ≤ (life.answer index fault).stored taskId := by
  have dropped : Ascending taskId { life with pending := life.pending.eraseIdx index } :=
    ascending.same rfl rfl fun _ => List.mem_of_mem_eraseIdx
  unfold Life.answer
  split
  · exact ⟨ascending, le_rfl⟩
  · rename_i task query found
    dsimp only
    split
    · exact ⟨dropped, le_rfl⟩
    · exact ascending.write found fun own later queried =>
        orderly _ found own _ rfl _ queried rfl _ rfl
    · split
      · exact ⟨dropped, le_rfl⟩
      · split
        · exact ⟨dropped, le_rfl⟩
        · exact ⟨ascending.load found ‹_›, le_rfl⟩
    · exact ⟨ascending.restore found, le_rfl⟩

theorem step (ascending : Ascending taskId life) (activity : Activity)
    (orderly : Orderly taskId life activity) :
    Ascending taskId (life.step activity) ∧
      life.stored taskId ≤ (life.step activity).stored taskId := by
  cases activity with
  | recordCost event =>
      refine ⟨ascending.record orderly, ?_⟩
      dsimp only [Life.step]
      split <;> exact le_rfl
  | processTask task startFromPhase =>
      refine ⟨ascending.processTask task startFromPhase, ?_⟩
      dsimp only [Life.step]
      split <;> exact le_rfl
  | persistCostToDb task =>
      refine ⟨ascending.persistCostToDb task, ?_⟩
      dsimp only [Life.step]
      split <;> exact le_rfl
  | answer index fault => exact ascending.answer orderly
  | restart => exact ⟨fresh life.rows, le_rfl⟩

end Ascending

end MultiAgents.CostTracker

namespace MultiAgents

open Containers Effects CostTracker

/-- Along every history of a server in which events are recorded on top of what is stored and no
total is overtaken on its way, the stored cost of a task never decreases. -/
theorem stored_cost_never_decreases (taskId : String) (rows : OrderedMap String Usage)
    (earlier later : List Activity)
    (orderly : Machine.Guarded Life.step (Orderly taskId) (earlier ++ later) { rows }) :
    (Machine.run Life.step { rows } earlier).stored taskId ≤
      (Machine.run Life.step { rows } (earlier ++ later)).stored taskId := by
  obtain ⟨first, second⟩ := Machine.guarded_append.mp orderly
  have reached : Ascending taskId (Machine.run Life.step { rows } earlier) :=
    Machine.run_invariant (fun _ activity orderly ascending =>
      (ascending.step activity orderly).1) first (.fresh rows)
  have keeps (life : Life) (activity : Activity) (orderly : Orderly taskId life activity)
      (kept : Ascending taskId life ∧
        (Machine.run Life.step { rows } earlier).stored taskId ≤ life.stored taskId) :
      Ascending taskId (life.step activity) ∧
        (Machine.run Life.step { rows } earlier).stored taskId ≤
          (life.step activity).stored taskId :=
    have ⟨next, more⟩ := kept.1.step activity orderly
    ⟨next, kept.2.trans more⟩
  rw [Machine.run_append]
  exact (Machine.run_invariant keeps second ⟨reached, le_rfl⟩).2

namespace CostSample

def newTask : OrderedMap String Usage := OrderedMap.empty.set "task" 0

def costs (cost : ℚ) : Activity :=
  .recordCost { taskId := "task", sessionId := "session", costData := { cost } }

/-- A first run costs a dollar, and the server is restarted. -/
def interrupted : List Activity :=
  [.processTask "task" false, costs 1, .answer 0 false, .restart]

def startedAgain : List Activity := [.processTask "task" false, costs (1 / 50), .answer 0 false]

/-- The task is resumed, its costs are read back, and its first step costs two cents. -/
def resumed : List Activity :=
  [.processTask "task" true, .answer 0 false, .answer 0 false, costs (1 / 50), .answer 0 false,
    .persistCostToDb "task", .answer 0 false]

end CostSample

open CostSample in
theorem restarted_task_counts_from_zero :
    (Machine.run Life.step { rows := newTask } interrupted).stored "task" = 1 ∧
      (Machine.run Life.step { rows := newTask } (interrupted ++ startedAgain)).stored "task" =
        1 / 50 := by
  decide +kernel

open CostSample in
theorem resumed_task_goes_on_counting :
    (Machine.run Life.step { rows := newTask } interrupted).stored "task" ≤
        (Machine.run Life.step { rows := newTask } (interrupted ++ resumed)).stored "task" ∧
      (Machine.run Life.step { rows := newTask } (interrupted ++ resumed)).stored "task" =
        51 / 50 :=
  ⟨stored_cost_never_decreases "task" newTask interrupted resumed (by decide +kernel),
    by decide +kernel⟩

end MultiAgents
