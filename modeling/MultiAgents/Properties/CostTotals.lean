import MultiAgents.Services.CostTracker

/-!
# Totals of tasks

Every event is added to the total of its task and to that of its session, so the
totals stay balanced however the events of tasks and sessions alternate.  As
long as every write succeeds, the row of a task is behind its total by less than
a cent.
-/

namespace MultiAgents

open Containers Effects

namespace CostTracker

def recordAll (events : List CostEvent) (taskCosts : TaskCosts) : TaskCosts :=
  events.foldl (fun costs event => (recordCost event costs).2) taskCosts

def taskTotal (taskCosts : TaskCosts) (taskId : String) : Usage :=
  ((taskCosts.get? taskId).map TaskCostSummary.total).getD 0

def sessionsTotal (taskCosts : TaskCosts) (taskId : String) : Usage :=
  ((taskCosts.get? taskId).map fun summary => summary.sessions.sum SessionCostSummary.usage).getD 0

def eventsTotal (events : List CostEvent) (taskId : String) : Usage :=
  ((events.filter fun event => event.taskId = taskId).map CostEvent.usage).sum

/-- An event that adds nothing is skipped; any other one is added to the summary of its task, and
the total is persisted if it has reached another cent. -/
theorem recordCost_cases (event : CostEvent) (taskCosts : TaskCosts) :
    (event.usage = 0 ∧ recordCost event taskCosts = (none, taskCosts)) ∨
      let before := (taskCosts.get? event.taskId).getD {}
      recordCost event taskCosts =
        (if Usage.cents (before.total + event.usage).cost ≠ Usage.cents before.total.cost then
            some (before.total + event.usage) else none,
          taskCosts.set event.taskId (addEvent event before)) := by
  unfold recordCost
  dsimp only
  by_cases skipped : event.usage.cost = 0 ∧ event.usage.inputTokens = 0 ∧
      event.usage.outputTokens = 0
  · rw [if_pos skipped]
    exact .inl ⟨Usage.ext skipped.1 skipped.2.1 skipped.2.2, rfl⟩
  · rw [if_neg skipped]
    refine .inr ?_
    simp only [addEvent, Usage.cost_add, add_sub_cancel_right]

theorem addEvent_sessions (event : CostEvent) (summary : TaskCostSummary) :
    (addEvent event summary).sessions.sum SessionCostSummary.usage =
      summary.sessions.sum SessionCostSummary.usage + event.usage := by
  unfold addEvent
  cases found : summary.sessions.get? event.sessionId with
  | none =>
      rw [OrderedMap.sum_set_of_absent _ found]
      simp
  | some held => exact OrderedMap.sum_set_of_found _ found rfl

theorem recordCost_other {event : CostEvent} {taskId : String} (other : event.taskId ≠ taskId)
    (taskCosts : TaskCosts) :
    (recordCost event taskCosts).2.get? taskId = taskCosts.get? taskId := by
  rcases recordCost_cases event taskCosts with ⟨_, recorded⟩ | recorded
  · rw [recorded]
  · rw [recorded, OrderedMap.get?_set, if_neg (Ne.symm other)]

theorem recordCost_measure (measure : TaskCostSummary → Usage) (empty : measure {} = 0)
    (added : ∀ event summary, measure (addEvent event summary) = measure summary + event.usage)
    (event : CostEvent) (taskCosts : TaskCosts) (taskId : String) :
    (((recordCost event taskCosts).2.get? taskId).map measure).getD 0 =
      ((taskCosts.get? taskId).map measure).getD 0 +
        if event.taskId = taskId then event.usage else 0 := by
  by_cases same : event.taskId = taskId
  · subst same
    rw [if_pos rfl]
    rcases recordCost_cases event taskCosts with ⟨nothing, recorded⟩ | recorded
    · rw [recorded, nothing, add_zero]
    · rw [recorded, OrderedMap.get?_set, if_pos rfl, Option.map_some, Option.getD_some, added]
      cases taskCosts.get? event.taskId with
      | none => simp [empty]
      | some summary => rfl
  · rw [recordCost_other same, if_neg same, add_zero]

theorem recordCost_total (event : CostEvent) (taskCosts : TaskCosts) (taskId : String) :
    taskTotal (recordCost event taskCosts).2 taskId =
      taskTotal taskCosts taskId + if event.taskId = taskId then event.usage else 0 :=
  recordCost_measure TaskCostSummary.total rfl (fun _ _ => rfl) event taskCosts taskId

theorem recordCost_sessions (event : CostEvent) (taskCosts : TaskCosts) (taskId : String) :
    sessionsTotal (recordCost event taskCosts).2 taskId =
      sessionsTotal taskCosts taskId + if event.taskId = taskId then event.usage else 0 :=
  recordCost_measure (fun summary => summary.sessions.sum SessionCostSummary.usage) rfl
    addEvent_sessions event taskCosts taskId

theorem eventsTotal_cons (event : CostEvent) (events : List CostEvent) (taskId : String) :
    eventsTotal (event :: events) taskId =
      (if event.taskId = taskId then event.usage else 0) + eventsTotal events taskId := by
  unfold eventsTotal
  by_cases same : event.taskId = taskId <;> simp [same]

theorem recordAll_total (events : List CostEvent) (taskCosts : TaskCosts) (taskId : String) :
    taskTotal (recordAll events taskCosts) taskId =
      taskTotal taskCosts taskId + eventsTotal events taskId := by
  induction events generalizing taskCosts with
  | nil => exact (add_zero _).symm
  | cons event rest ih =>
      rw [eventsTotal_cons, ← add_assoc, ← recordCost_total]
      exact ih _

theorem recordAll_sessions (events : List CostEvent) (taskCosts : TaskCosts) (taskId : String) :
    sessionsTotal (recordAll events taskCosts) taskId =
      sessionsTotal taskCosts taskId + eventsTotal events taskId := by
  induction events generalizing taskCosts with
  | nil => exact (add_zero _).symm
  | cons event rest ih =>
      rw [eventsTotal_cons, ← add_assoc, ← recordCost_sessions]
      exact ih _

/-- The tasks that are resumed are restored one after the other, before any event. -/
def resumeAll (tasks : List String) (rows : OrderedMap String Usage) (choices : Nat → Choice) :
    State :=
  ((forM tasks restoreCostsFromDb : Program Unit).exec
    (World.start (E := environment) { rows } choices)).2.state

/-- Nothing that is in memory has sessions. -/
def Sessionless (state : State) : Prop :=
  ∀ taskId summary, state.taskCosts.get? taskId = some summary →
    summary.sessions.sum SessionCostSummary.usage = 0

/-- What a restore asks for. -/
def Request.Restoring : Request → Prop
  | .has _ | .selectCosts _ | .set _ _ => True
  | _ => False

theorem restoreCostsFromDb_uses (taskId : String) :
    Uses Request.Restoring (restoreCostsFromDb taskId) := by
  refine .bind (.call trivial) fun present => ?_
  cases present with
  | true => exact .pure _
  | false =>
      refine .bind (.bind (.call trivial) fun row => ?_) fun dbCost => ?_
      · cases row <;> exact .pure _
      · cases dbCost with
        | none => exact .pure _
        | some dbCost => exact .ite (.pure _) (.call trivial)

theorem sessionless_serve {state : State} {choice : Choice} {request : Request}
    (restoring : request.Restoring) (sessionless : Sessionless state) :
    Sessionless (serve state choice request).2 := by
  cases request with
  | has taskId => exact sessionless
  | selectCosts taskId =>
      unfold serve
      cases choice.fault <;> exact sessionless
  | set taskId total =>
      intro other summary found
      rcases OrderedMap.of_get?_set found with ⟨-, rfl⟩ | found
      · rfl
      · exact sessionless other summary found
  | _ => exact restoring.elim

theorem resumeAll_sessions (tasks : List String) (rows : OrderedMap String Usage)
    (choices : Nat → Choice) (taskId : String) :
    sessionsTotal (resumeAll tasks rows choices).taskCosts taskId = 0 := by
  have kept : Keeps Anything (fun world : World environment => Sessionless world.state)
      (forM tasks restoreCostsFromDb : Program Unit) :=
    (Uses.forM fun task _ => restoreCostsFromDb_uses task).keeps
      fun _ _ restoring _ sessionless => sessionless_serve restoring sessionless
  have initial : Sessionless { rows } := nofun
  have reached : Sessionless (resumeAll tasks rows choices) :=
    Triple.exec kept initial (Record.always_iff.mpr fun _ _ _ _ => trivial)
  unfold sessionsTotal
  cases found : (resumeAll tasks rows choices).taskCosts.get? taskId with
  | none => rfl
  | some summary => exact reached taskId summary found

end CostTracker

open CostTracker in
/-- The total of a task is what it was restored with and the totals of its sessions, and also what
it was restored with and all its events; the events of other tasks leave it alone. -/
theorem task_totals_balance (tasks : List String) (rows : OrderedMap String Usage)
    (choices : Nat → Choice) (events : List CostEvent) (taskId : String) :
    let restored := (resumeAll tasks rows choices).taskCosts
    let recorded := recordAll events restored
    taskTotal recorded taskId = taskTotal restored taskId + sessionsTotal recorded taskId ∧
      taskTotal recorded taskId = taskTotal restored taskId + eventsTotal events taskId ∧
      ∀ event, event.taskId ≠ taskId →
        taskTotal (recordCost event recorded).2 taskId = taskTotal recorded taskId := by
  intro restored recorded
  have total := recordAll_total events restored taskId
  have sessions := recordAll_sessions events restored taskId
  rw [resumeAll_sessions, zero_add] at sessions
  refine ⟨?_, total, ?_⟩
  · rw [total, sessions]
  · intro event other
    rw [recordCost_total, if_neg other, add_zero]

namespace CostTracker

/-- No query fails. -/
def Calm : Assumption environment := fun step _ => step.choice.fault = none

def SameCent (taskId : String) (state : State) : Prop :=
  ∃ row, state.rows.get? taskId = some row ∧
    row.cost ≤ (taskTotal state.taskCosts taskId).cost ∧
    Usage.cents row.cost = Usage.cents (taskTotal state.taskCosts taskId).cost

theorem update_taskCosts (state : State) (taskId : String) (total : Usage) :
    (state.update taskId total).taskCosts = state.taskCosts := by
  unfold State.update
  split <;> rfl

theorem update_row (state : State) (taskId other : String) (total : Usage) :
    (state.update taskId total).rows.get? other =
      if other = taskId then (state.rows.get? taskId).map fun _ => total
      else state.rows.get? other := by
  unfold State.update
  cases found : state.rows.get? taskId with
  | none =>
      by_cases same : other = taskId
      · rw [if_pos same, same, found, Option.map_none]
      · rw [if_neg same]
  | some row => rw [OrderedMap.get?_set, Option.map_some]

theorem serve_other {taskId : String} {request : Request} (other : request.taskId ≠ taskId)
    (state : State) (choice : Choice) :
    (serve state choice request).2.taskCosts.get? taskId = state.taskCosts.get? taskId ∧
      (serve state choice request).2.rows.get? taskId = state.rows.get? taskId := by
  cases request with
  | recordCost event => exact ⟨recordCost_other other state.taskCosts, rfl⟩
  | has task => exact ⟨rfl, rfl⟩
  | get task => exact ⟨rfl, rfl⟩
  | set task total => exact ⟨(OrderedMap.get?_set ..).trans (if_neg (Ne.symm other)), rfl⟩
  | delete task => exact ⟨(OrderedMap.get?_erase ..).trans (if_neg (Ne.symm other)), rfl⟩
  | selectCosts task =>
      unfold serve
      cases choice.fault <;> exact ⟨rfl, rfl⟩
  | updateCosts task total =>
      unfold serve
      cases choice.fault with
      | some error => exact ⟨rfl, rfl⟩
      | none =>
          exact ⟨congrArg (OrderedMap.get? · taskId) (update_taskCosts state task total),
            (update_row ..).trans (if_neg (Ne.symm other))⟩

theorem SameCent.congr {taskId : String} {state next : State} (same : SameCent taskId state)
    (memory : next.taskCosts.get? taskId = state.taskCosts.get? taskId)
    (row : next.rows.get? taskId = state.rows.get? taskId) : SameCent taskId next := by
  unfold SameCent taskTotal at same ⊢
  rw [memory, row]
  exact same

theorem recordCall_uses (event : CostEvent) :
    Uses (S := calls) (fun request : Request => request.taskId = event.taskId)
      (recordCall event) := by
  refine .bind (.call rfl) fun persisted => ?_
  cases persisted with
  | none => exact .pure _
  | some total => exact .bind (.call rfl) fun _ => .pure _

theorem recordCall_other {taskId : String} {event : CostEvent} (other : event.taskId ≠ taskId) :
    Keeps Calm (fun world : World environment => SameCent taskId world.state)
      (recordCall event) := by
  refine (recordCall_uses event).keeps fun world (request : Request) about _ same => ?_
  have apart : request.taskId ≠ taskId := about ▸ other
  obtain ⟨memory, row⟩ := serve_other apart world.state world.choice
  exact same.congr memory row

theorem taskTotal_eq (taskCosts : TaskCosts) (taskId : String) :
    taskTotal taskCosts taskId = ((taskCosts.get? taskId).getD {}).total := by
  unfold taskTotal
  cases taskCosts.get? taskId <;> rfl

theorem recordCost_persisted (event : CostEvent) (taskCosts : TaskCosts) :
    match (recordCost event taskCosts).1 with
    | some total => total = taskTotal (recordCost event taskCosts).2 event.taskId
    | none => Usage.cents (taskTotal (recordCost event taskCosts).2 event.taskId).cost =
        Usage.cents (taskTotal taskCosts event.taskId).cost := by
  have total := recordCost_total event taskCosts event.taskId
  rw [if_pos rfl] at total
  rcases recordCost_cases event taskCosts with ⟨_, recorded⟩ | recorded
  · rw [recorded]
  · rw [total, taskTotal_eq, congrArg Prod.fst recorded]
    dsimp only
    by_cases reached : Usage.cents
      (((taskCosts.get? event.taskId).getD {}).total + event.usage).cost =
        Usage.cents ((taskCosts.get? event.taskId).getD {}).total.cost
    · rw [if_neg (not_not.mpr reached)]
      exact reached
    · rw [if_pos reached]

/-- Between the two steps of a call: the total that is still to be written, if any. -/
def Written (taskId : String) (state : State) : Option Usage → Prop
  | none => SameCent taskId state
  | some total => (state.rows.get? taskId).isSome = true ∧
      total = taskTotal state.taskCosts taskId

theorem written_of_recorded {event : CostEvent} (nonneg : 0 ≤ event.usage.cost) {state : State}
    (same : SameCent event.taskId state) :
    Written event.taskId { state with taskCosts := (recordCost event state.taskCosts).2 }
      (recordCost event state.taskCosts).1 := by
  obtain ⟨row, known, behind, cents⟩ := same
  have total := recordCost_total event state.taskCosts event.taskId
  have persisted := recordCost_persisted event state.taskCosts
  rw [if_pos rfl] at total
  cases written : (recordCost event state.taskCosts).1 with
  | some total =>
      rw [written] at persisted
      exact ⟨by rw [known]; rfl, persisted⟩
  | none =>
      rw [written] at persisted
      refine ⟨row, known, ?_, cents.trans persisted.symm⟩
      rw [total, Usage.cost_add]
      linarith

theorem sameCent_update {taskId : String} {state : State} {total : Usage}
    (known : (state.rows.get? taskId).isSome = true)
    (current : total = taskTotal state.taskCosts taskId) :
    SameCent taskId (state.update taskId total) := by
  obtain ⟨row, found⟩ := Option.isSome_iff_exists.mp known
  refine ⟨total, ?_, ?_⟩
  · rw [update_row, if_pos rfl, found, Option.map_some]
  · rw [update_taskCosts, current]
    exact ⟨le_refl _, rfl⟩

theorem recordCall_own {event : CostEvent} (nonneg : 0 ≤ event.usage.cost) :
    Keeps Calm (fun world : World environment => SameCent event.taskId world.state)
      (recordCall event) := by
  have first : Triple Calm (fun world : World environment => SameCent event.taskId world.state)
      (Request.recordCost event).issue
      (fun persisted world => Written event.taskId world.state persisted)
      (fun _ world => SameCent event.taskId world.state) :=
    Triple.call fun world same _ => written_of_recorded nonneg same
  refine Triple.bind first fun persisted => ?_
  cases persisted with
  | none => exact Triple.pure fun _ same => same
  | some total =>
      refine Triple.bind (Triple.call fun world written calm => ?_) fun _ =>
        Triple.pure fun _ same => same
      have served : (world.next (.updateCosts event.taskId total)).state =
          world.state.update event.taskId total := by
        change (serve world.state world.choice (.updateCosts event.taskId total)).2 = _
        unfold serve
        rw [show world.choice.fault = none from calm]
      rw [served]
      exact sameCent_update written.1 written.2

def recordCalls (events : List CostEvent) : Program Unit := forM events recordCall

theorem recordCalls_sameCent {taskId : String} {events : List CostEvent}
    (nonneg : ∀ event ∈ events, event.taskId = taskId → 0 ≤ event.usage.cost) :
    Keeps Calm (fun world : World environment => SameCent taskId world.state)
      (recordCalls events) := by
  refine Keeps.forM fun event membership => ?_
  by_cases own : event.taskId = taskId
  · have costs := nonneg event membership own
    subst own
    exact recordCall_own costs
  · exact recordCall_other own

end CostTracker

open CostTracker in
/-- Whenever all writes succeed, the total of a task that was tracked from its row on is never
less than the row, and never a cent more. -/
theorem row_is_within_a_cent (taskId : String) (events : List CostEvent)
    (nonneg : ∀ event ∈ events, event.taskId = taskId → 0 ≤ event.usage.cost)
    (state : CostTracker.State) (row : Usage) (known : state.rows.get? taskId = some row)
    (tracked : (taskTotal state.taskCosts taskId).cost = row.cost) (choices : Nat → Choice)
    (calm : ∀ index, (choices index).fault = none) :
    let reached := ((recordCalls events).exec
      (World.start (E := environment) state choices)).2.state
    ∃ last, reached.rows.get? taskId = some last ∧
      0 ≤ (taskTotal reached.taskCosts taskId).cost - last.cost ∧
      (taskTotal reached.taskCosts taskId).cost - last.cost < 1 / 100 := by
  have start : SameCent taskId state :=
    ⟨row, known, tracked.ge, congrArg Usage.cents tracked.symm⟩
  let world : World environment := World.start state choices
  have fine : Record.Always Calm ((recordCalls events).exec world).2.history :=
    (recordCalls events).always_choices (fun choice : Choice => choice.fault = none) world calm .nil
  obtain ⟨last, known, behind, cents⟩ := Triple.exec (recordCalls_sameCent nonneg) start fine
  refine ⟨last, known, sub_nonneg.mpr behind, ?_⟩
  have close := Int.abs_sub_lt_one_of_floor_eq_floor cents
  rw [abs_lt] at close
  linarith [close.1]

open CostTracker in
/-- Three events of a restored task, of which only the second reaches another cent. -/
theorem restored_row_is_within_a_cent :
    let events : List CostEvent := [3 / 1000, 4 / 1000, 8 / 1000].map fun cost =>
      { taskId := "task", sessionId := "session", costData := { cost := some cost } }
    let rows : OrderedMap String Usage := OrderedMap.empty.set "task" ⟨124 / 1000, 10, 20⟩
    let restored := resumeAll ["task"] rows fun _ => {}
    let reached := ((recordCalls events).exec
      (World.start (E := environment) restored fun _ => {})).2.state
    ∃ last, reached.rows.get? "task" = some last ∧
      0 ≤ (taskTotal reached.taskCosts "task").cost - last.cost ∧
      (taskTotal reached.taskCosts "task").cost - last.cost < 1 / 100 := by
  refine row_is_within_a_cent "task" _ ?_ _ ⟨124 / 1000, 10, 20⟩ ?_ ?_ _ fun _ => rfl
  · decide +kernel
  · decide +kernel
  · decide +kernel

end MultiAgents
