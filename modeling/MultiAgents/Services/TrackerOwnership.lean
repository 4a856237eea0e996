import MultiAgents.Effects.Knowledge
import MultiAgents.Services.ExecutionTracker

/-!
# Whose executions a call of the tracker works on

A call for a task gets hold of objects and of identifiers of rows, all of them of
its task: an object from the map, an identifier from an object or from a row that
it has inserted for the task.  So whatever it changes is of its task, however the
calls are interleaved.
-/

namespace MultiAgents.ExecutionTracker

open Containers Effects Relational Text TrainingSchema

/-- What belongs to a task. -/
inductive Place where
  | object (active : Nat)
  | row (table : String) (id : Json)

def Owns (state : State) (taskId : String) : Place → Prop
  | .object active => ∃ execution, state.objects[active]? = some execution ∧
      execution.taskId = taskId
  | .row table id => state.database.Owned "task_id" (.str taskId) table id

/-- The rows whose identifiers an object has. -/
def ActiveExecution.Refers (execution : ActiveExecution) (place : Place) : Prop :=
  place = .row "agent_executions" execution.executionId ∨
  (∃ id, execution.currentTurnId = some id ∧ place = .row "agent_turns" id) ∨
  ∃ toolUseId id, execution.pendingToolCalls.get? toolUseId = some id ∧
    place = .row "tool_calls" id

structure State.Orderly (state : State) : Prop where
  refers : ∀ (active : Nat) (execution : ActiveExecution),
    state.objects[active]? = some execution →
      ∀ place, execution.Refers place → Owns state execution.taskId place
  found : ∀ taskId active, state.activeExecutions.get? taskId = some active →
    Owns state taskId (.object active)

section Discipline

variable (taskId : String) (known : Place → Prop)

def PermitsStatement : Statement Cell → Prop
  | .insert _ values => values.lookup "task_id" = some (text taskId)
  | .update table changes column value =>
      column = "id" ∧ changes.lookup "id" = none ∧ changes.lookup "task_id" = none ∧
        ∀ id, value = some id → known (.row table id)
  | .select _ _ _ _ => True

def Permits : Request → Prop
  | .query statement => PermitsStatement taskId known statement
  | .getActive other | .deleteActive other => other = taskId
  | .setActive other executionId => other = taskId ∧ known (.row "agent_executions" executionId)
  | .read active | .nextTurn active | .deletePending active _ | .setError active _ _ =>
      known (.object active)
  | .setCurrentTurn active turnId => known (.object active) ∧ known (.row "agent_turns" turnId)
  | .setPending active _ toolCallId =>
      known (.object active) ∧ known (.row "tool_calls" toolCallId)
  | .generateId | .dateNow => True

def Teaches : (call : Request) → call.Answer → Place → Prop
  | .getActive _, found, place => ∃ active, found = some active ∧ place = .object active
  | .read _, found, place => ∃ execution, found = some execution ∧ execution.Refers place
  | .query (.insert table values), .ok _, place =>
      ∃ id, values.lookup "id" = some (text id) ∧ place = .row table (.str id)
  | .query (.select table column id _), .ok rows, place =>
      column = "id" ∧ known (.row table id) ∧ ∃ row ∈ rows, place = .row table (rowId row)
  | _, _, _ => False

def discipline : Discipline calls Place := ⟨Permits taskId, Teaches⟩

end Discipline

section Requests

variable {state : State} {taskId other : String} {place : Place}

theorem objects_modify {active : Nat} {change : ActiveExecution → ActiveExecution}
    {index : Nat} {execution : ActiveExecution}
    (found : (state.modify active change).objects[index]? = some execution) :
    ∃ before, state.objects[index]? = some before ∧
      execution = if active = index then change before else before := by
  unfold State.modify at found
  rw [List.getElem?_modify] at found
  obtain ⟨before, same, rfl⟩ := Option.map_eq_some_iff.mp found
  refine ⟨before, same, ?_⟩
  split <;> rfl

theorem Owns.modify (owns : Owns state taskId place) (active : Nat)
    {change : ActiveExecution → ActiveExecution}
    (sameTask : ∀ execution, (change execution).taskId = execution.taskId) :
    Owns (state.modify active change) taskId place := by
  cases place with
  | row table id => exact owns
  | object index =>
      obtain ⟨execution, found, ofTask⟩ := owns
      unfold Owns State.modify
      dsimp only
      rw [List.getElem?_modify, found]
      refine ⟨_, rfl, ?_⟩
      split
      · exact (sameTask execution).trans ofTask
      · exact ofTask

theorem Owns.query (owns : Owns state taskId place) {statement : Statement Cell}
    (keeps : statement.Keeps "task_id") (time : Cell) :
    Owns { state with database := (execute cellLe time state.database statement).2 } taskId
      place := by
  cases place with
  | object index => exact owns
  | row table id => exact owns.execute keeps

end Requests

theorem PermitsStatement.keeps {taskId : String} {known : Place → Prop}
    {statement : Statement Cell} (permitted : PermitsStatement taskId known statement) :
    statement.Keeps "task_id" := by
  cases statement with
  | insert table values => trivial
  | select table column value order => trivial
  | update table changes column value => exact ⟨permitted.2.1, permitted.2.2.1⟩

section Serve

variable {state : State} {choice : Choice} {taskId : String} {known : Place → Prop}
  {request : Request}

theorem serve_stays (permitted : Permits taskId known request) {other : String} {place : Place}
    (owns : Owns state other place) : Owns (serve state choice request).2 other place := by
  cases request with
  | generateId => exact owns
  | dateNow => exact owns
  | getActive found => exact owns
  | read active => exact owns
  | query statement =>
      unfold serve
      cases choice.fault with
      | some error => exact owns
      | none => exact owns.query (PermitsStatement.keeps permitted) _
  | setActive task executionId =>
      cases place with
      | row table id => exact owns
      | object index =>
          obtain ⟨execution, found, ofTask⟩ := owns
          refine ⟨execution, ?_, ofTask⟩
          exact List.getElem?_append_left (List.getElem?_eq_some_iff.mp found).1 ▸ found
  | deleteActive task => exact owns
  | nextTurn active => exact owns.modify active fun _ => rfl
  | setCurrentTurn active turnId => exact owns.modify active fun _ => rfl
  | setPending active toolUseId toolCallId => exact owns.modify active fun _ => rfl
  | deletePending active toolUseId => exact owns.modify active fun _ => rfl
  | setError active error errorType => exact owns.modify active fun _ => rfl

theorem State.Orderly.modify (orderly : state.Orderly) {active : Nat}
    {change : ActiveExecution → ActiveExecution}
    (sameTask : ∀ execution, (change execution).taskId = execution.taskId)
    (refers : ∀ execution, state.objects[active]? = some execution →
      ∀ place, (change execution).Refers place → Owns state execution.taskId place) :
    (state.modify active change).Orderly where
  refers index execution found place referred := by
    obtain ⟨before, held, same⟩ := objects_modify found
    split at same
    · rename_i here
      subst here same
      rw [sameTask]
      exact (refers before held place referred).modify active sameTask
    · subst same
      exact (orderly.refers index execution held place referred).modify active sameTask
  found task index held := (orderly.found task index held).modify active sameTask

theorem Owns.taskId_eq {active : Nat} {execution : ActiveExecution}
    (owns : Owns state taskId (.object active))
    (found : state.objects[active]? = some execution) : execution.taskId = taskId := by
  obtain ⟨held, same, ofTask⟩ := owns
  obtain rfl : execution = held := Option.some.inj (found.symm.trans same)
  exact ofTask

theorem serve_orderly (orderly : state.Orderly)
    (right : ∀ place, known place → Owns state taskId place)
    (permitted : Permits taskId known request) : (serve state choice request).2.Orderly := by
  cases request with
  | generateId => exact orderly
  | dateNow => exact orderly
  | getActive found => exact orderly
  | read active => exact orderly
  | query statement =>
      unfold serve
      cases choice.fault with
      | some error => exact orderly
      | none =>
          have keeps := PermitsStatement.keeps permitted
          refine ⟨fun active execution found place referred => ?_, fun task active found => ?_⟩
          · exact (orderly.refers active execution found place referred).query keeps _
          · exact orderly.found task active found
  | setActive task executionId =>
      obtain ⟨rfl, row⟩ := permitted
      have allowed : Permits task known (.setActive task executionId) := ⟨rfl, row⟩
      have stays {other : String} {place : Place} (owns : Owns state other place) :
          Owns (serve state choice (.setActive task executionId)).2 other place :=
        serve_stays allowed owns
      refine ⟨fun active execution found place referred => ?_, fun other active found => ?_⟩
      · rcases getElem?_concat_eq_some.mp found with before | ⟨rfl, rfl⟩
        · exact stays (orderly.refers active execution before place referred)
        · rcases referred with rfl | ⟨id, held, rfl⟩ | ⟨toolUseId, id, held, rfl⟩
          · exact stays (right _ row)
          · cases held
          · cases held
      · rcases OrderedMap.of_get?_set found with ⟨rfl, rfl⟩ | found
        · exact ⟨{ executionId, taskId := other }, by simp [serve], rfl⟩
        · exact stays (orderly.found other active found)
  | deleteActive task =>
      refine ⟨orderly.refers, fun other active found => ?_⟩
      exact orderly.found other active (OrderedMap.of_get?_erase found).2
  | nextTurn active => exact orderly.modify (fun _ => rfl) (orderly.refers active)
  | setError active error errorType => exact orderly.modify (fun _ => rfl) (orderly.refers active)
  | setCurrentTurn active turnId =>
      refine orderly.modify (fun _ => rfl) fun execution found place referred => ?_
      rcases referred with rfl | ⟨id, held, rfl⟩ | pending
      · exact orderly.refers active execution found _ (.inl rfl)
      · cases held
        rw [(right _ permitted.1).taskId_eq found]
        exact right _ permitted.2
      · exact orderly.refers active execution found _ (.inr (.inr pending))
  | setPending active toolUseId toolCallId =>
      refine orderly.modify (fun _ => rfl) fun execution found place referred => ?_
      rcases referred with rfl | turn | ⟨key, id, held, rfl⟩
      · exact orderly.refers active execution found _ (.inl rfl)
      · exact orderly.refers active execution found _ (.inr (.inl turn))
      · rcases OrderedMap.of_get?_set held with ⟨-, rfl⟩ | held
        · rw [(right _ permitted.1).taskId_eq found]
          exact right _ permitted.2
        · exact orderly.refers active execution found _ (.inr (.inr ⟨key, id, held, rfl⟩))
  | deletePending active toolUseId =>
      refine orderly.modify (fun _ => rfl) fun execution found place referred => ?_
      rcases referred with rfl | turn | ⟨key, id, held, rfl⟩
      · exact orderly.refers active execution found _ (.inl rfl)
      · exact orderly.refers active execution found _ (.inr (.inl turn))
      · exact orderly.refers active execution found _
          (.inr (.inr ⟨key, id, (OrderedMap.of_get?_erase held).2, rfl⟩))

theorem query_taught {statement : Statement Cell} {time : Cell}
    (right : ∀ place, known place → Owns state taskId place)
    (permitted : PermitsStatement taskId known statement) {place : Place}
    (taught : Teaches known (.query statement) (execute cellLe time state.database statement).1
      place) :
    Owns { state with database := (execute cellLe time state.database statement).2 } taskId
      place := by
  cases statement with
  | insert table values =>
      cases accepted : (execute cellLe time state.database (.insert table values)).1 with
      | error error =>
          rw [accepted] at taught
          exact taught.elim
      | ok rows =>
          rw [accepted] at taught
          obtain ⟨id, identified, rfl⟩ := taught
          exact execute_insert_owned identified permitted accepted
  | update table changes column value =>
      cases answered : (execute cellLe time state.database
        (.update table changes column value)).1 with
      | error error =>
          rw [answered] at taught
          exact taught.elim
      | ok rows =>
          rw [answered] at taught
          exact taught.elim
  | select table column value order =>
      rcases execute_cases cellLe time state.database (.select table column value order) with
        ⟨error, same⟩ | ⟨_, _, _, _, rows, statement, matching, same⟩ | ⟨_, _, _, statement, _⟩ |
        ⟨_, _, _, _, _, statement, _⟩
      · rw [same] at taught
        exact taught.elim
      · cases statement
        rw [same] at taught ⊢
        obtain ⟨rfl, row, found, membership, rfl⟩ := taught
        have identified : rowId found = value := by
          unfold rowId
          rw [matching found membership]
          rfl
        rw [identified]
        exact right _ row
      · cases statement
      · cases statement

theorem serve_taught (orderly : state.Orderly)
    (right : ∀ place, known place → Owns state taskId place)
    (permitted : Permits taskId known request) {place : Place}
    (taught : Teaches known request (serve state choice request).1 place) :
    Owns (serve state choice request).2 taskId place := by
  cases request with
  | getActive task =>
      obtain ⟨active, found, rfl⟩ := taught
      obtain rfl := permitted
      exact orderly.found task active found
  | read active =>
      obtain ⟨execution, found, referred⟩ := taught
      have ofTask := (right _ permitted).taskId_eq found
      exact ofTask ▸ orderly.refers active execution found place referred
  | query statement =>
      unfold serve at taught ⊢
      cases failing : choice.fault with
      | some error =>
          rw [failing] at taught
          cases statement <;> exact taught.elim
      | none =>
          rw [failing] at taught
          exact query_taught right permitted taught
  | _ => exact taught.elim

theorem sound : Pool.Sound (E := environment) (fun actor : String × Call => discipline actor.1)
    (fun state actor => Owns state actor.1) State.Orderly where
  keeps _ _ _ _ _ orderly right permitted := serve_orderly orderly right permitted
  stays _ _ _ _ _ _ _ permitted _ _ owns := serve_stays permitted owns
  taught _ _ _ _ _ orderly right permitted _ taught :=
    serve_taught orderly right permitted taught

end Serve

structure SameTracking (taskId : String) (before after : State) : Prop where
  entry : after.activeExecutions.get? taskId = before.activeExecutions.get? taskId
  objects : ∀ (active : Nat) (execution : ActiveExecution), execution.taskId = taskId →
    (after.objects[active]? = some execution ↔ before.objects[active]? = some execution)
  rows : ∀ table, after.database.rowsOf "task_id" (.str taskId) table =
    before.database.rowsOf "task_id" (.str taskId) table

theorem SameTracking.refl (taskId : String) (state : State) : SameTracking taskId state state :=
  ⟨rfl, fun _ _ _ => Iff.rfl, fun _ => rfl⟩

theorem SameTracking.trans {taskId : String} {first second third : State}
    (left : SameTracking taskId first second) (right : SameTracking taskId second third) :
    SameTracking taskId first third where
  entry := right.entry.trans left.entry
  objects active execution ofTask :=
    (right.objects active execution ofTask).trans (left.objects active execution ofTask)
  rows table := (right.rows table).trans (left.rows table)

section Frame

variable {state : State} {choice : Choice} {taskId other : String} {known : Place → Prop}
  {request : Request}

theorem SameTracking.modify (different : other ≠ taskId) {active : Nat}
    (owns : Owns state taskId (.object active)) {change : ActiveExecution → ActiveExecution}
    (sameTask : ∀ execution, (change execution).taskId = execution.taskId) :
    SameTracking other state (state.modify active change) := by
  obtain ⟨held, heldFound, ofTask⟩ := owns
  refine ⟨rfl, fun index execution ofOther => ?_, fun table => rfl⟩
  by_cases here : active = index
  · subst here
    have changed : (change held).taskId ≠ execution.taskId := by
      rw [sameTask, ofTask, ofOther]
      exact different.symm
    have kept : held.taskId ≠ execution.taskId := by
      rw [ofTask, ofOther]
      exact different.symm
    constructor
    · intro found
      obtain ⟨before, same, made⟩ := objects_modify found
      obtain rfl : held = before := Option.some.inj (heldFound.symm.trans same)
      rw [if_pos rfl] at made
      exact absurd (congrArg ActiveExecution.taskId made).symm changed
    · intro found
      obtain rfl : held = execution := Option.some.inj (heldFound.symm.trans found)
      exact absurd rfl kept
  · unfold State.modify
    dsimp only
    rw [List.getElem?_modify]
    simp [here]

theorem serve_sameTracking (right : ∀ place, known place → Owns state taskId place)
    (permitted : Permits taskId known request) (different : other ≠ taskId) :
    SameTracking other state (serve state choice request).2 := by
  cases request with
  | generateId => exact .refl other state
  | dateNow => exact .refl other state
  | getActive task => exact .refl other state
  | read active => exact .refl other state
  | query statement =>
      unfold serve
      cases choice.fault with
      | some error => exact .refl other state
      | none =>
          have within : statement.Within state.database "task_id" (.str taskId) := by
            cases statement with
            | insert table values => exact permitted
            | select table column value order => trivial
            | update table changes column value =>
                exact ⟨permitted.1, permitted.2.2.1, fun id same =>
                  right _ (permitted.2.2.2 id same)⟩
          refine ⟨rfl, fun _ _ _ => Iff.rfl, fun table => rowsOf_execute within ?_ table⟩
          intro same
          exact different (Json.str.inj same)
  | setActive task executionId =>
      obtain ⟨rfl, _⟩ := permitted
      refine ⟨?_, fun active execution ofOther => ?_, fun table => rfl⟩
      · change (state.activeExecutions.set task _).get? other = _
        rw [OrderedMap.get?_set, if_neg different]
      · change (state.objects ++ [_])[active]? = _ ↔ _
        rw [getElem?_concat_eq_some]
        refine or_iff_left ?_
        rintro ⟨_, rfl⟩
        exact different ofOther.symm
  | deleteActive task =>
      obtain rfl := permitted
      refine ⟨?_, fun _ _ _ => Iff.rfl, fun table => rfl⟩
      change (state.activeExecutions.erase task).get? other = _
      rw [OrderedMap.get?_erase, if_neg different]
  | nextTurn active => exact .modify different (right _ permitted) fun _ => rfl
  | setCurrentTurn active turnId => exact .modify different (right _ permitted.1) fun _ => rfl
  | setPending active toolUseId toolCallId =>
      exact .modify different (right _ permitted.1) fun _ => rfl
  | deletePending active toolUseId => exact .modify different (right _ permitted) fun _ => rfl
  | setError active error errorType => exact .modify different (right _ permitted) fun _ => rfl

end Frame

section Programs

variable {α : Type} {taskId : String} {known : Place → Prop}

/-- The program may issue its requests with what is known or learnt, and what it returns is fine
with whatever it has learnt. -/
abbrev Obeys (taskId : String) (known : Place → Prop) (program : Program α)
    (returned : (Place → Prop) → α → Prop) : Prop :=
  program.Follows (discipline taskId) returned known

abbrev Grows (known later : Place → Prop) : Prop := ∀ place, known place → later place

theorem readActive_obeys {active : Nat} {returned : (Place → Prop) → ActiveExecution → Prop}
    (object : known (.object active))
    (continues : ∀ later execution, Grows known later →
      (∀ place, execution.Refers place → later place) → returned later execution) :
    Obeys taskId known (readActive active) returned := by
  refine .bind (.call object fun answer => ?_)
  cases answer with
  | none => trivial
  | some execution =>
      exact continues _ execution (fun _ held => .inl held)
        fun _ referred => .inr ⟨execution, rfl, referred⟩

theorem getActive_obeys {returned : (Place → Prop) → Option Nat → Prop}
    (absent : ∀ later, returned later none)
    (present : ∀ later active, Grows known later → later (.object active) →
      returned later (some active)) :
    Obeys taskId known (Request.getActive taskId).issue returned := by
  refine .call rfl fun answer => ?_
  cases answer with
  | none => exact absent _
  | some active => exact present _ active (fun _ held => .inl held) (.inr ⟨active, rfl, rfl⟩)

theorem query_obeys {statement : Statement Cell}
    {returned : (Place → Prop) → List (Row Cell) → Prop}
    (permitted : PermitsStatement taskId known statement)
    (continues : ∀ rows, returned
      ((discipline taskId).learn known (.query statement) (.ok rows)) rows) :
    Obeys taskId known (query statement) returned := by
  refine .bind (.call permitted fun answer => ?_)
  cases answer with
  | error error => trivial
  | ok rows => exact continues rows

theorem updateById_obeys {table : String} {changes : List (String × Term Cell)} {id : Json}
    {returned : (Place → Prop) → Unit → Prop} (keepsId : changes.lookup "id" = none)
    (keepsTask : changes.lookup "task_id" = none)
    (row : id ≠ .null → known (.row table id))
    (continues : ∀ later, Grows known later → returned later ()) :
    Obeys taskId known (updateById table changes id) returned := by
  refine .bind (query_obeys ⟨rfl, keepsId, keepsTask, fun key same => ?_⟩ fun rows =>
    continues _ fun _ held => .inl held)
  obtain ⟨present, filled⟩ := Option.filter_eq_some_iff.mp same
  cases present
  refine row ?_
  rintro rfl
  cases filled

theorem insert_obeys {table id : String} {values : List (String × Term Cell)}
    {returned : (Place → Prop) → Option (Row Cell) → Prop}
    (identified : values.lookup "id" = some (text id))
    (ofTask : values.lookup "task_id" = some (text taskId))
    (continues : ∀ later found, Grows known later →
      (∀ row, found = some row → later (.row table (rowId row))) → returned later found) :
    Obeys taskId known (do
      let _ ← query (.insert table values)
      return (← query (.select table "id" (.str id) [])).head?) returned := by
  refine .bind (query_obeys ofTask fun _ => .bind (query_obeys trivial fun rows => ?_))
  refine continues _ _ (fun _ held => .inl (.inl held)) fun row first => .inr ?_
  refine ⟨rfl, .inr ⟨id, identified, rfl⟩, row, ?_, rfl⟩
  exact List.mem_of_mem_head? first

theorem findById_obeys {table : String} {id : Json}
    {returned : (Place → Prop) → Option (Row Cell) → Prop}
    (continues : ∀ later found, Grows known later → returned later found) :
    Obeys taskId known (do return (← query (.select table "id" id [])).head?) returned :=
  .bind (query_obeys trivial fun _ => continues _ _ fun _ held => .inl held)

theorem since_obeys {time : Option Cell} {returned : (Place → Prop) → Value → Prop}
    (continues : ∀ later duration, Grows known later → returned later duration) :
    Obeys taskId known (AgentExecutionRepository.since time) returned := by
  unfold AgentExecutionRepository.since
  split
  · exact .bind (.call trivial fun _ => continues _ _ fun _ held => .inl held)
  · exact continues known none fun _ held => held

theorem startExecution_obeys (executionMeta : ExecutionMeta) :
    Obeys taskId known (startExecution taskId executionMeta) fun _ _ => True := by
  refine .bind (.bind (.call trivial fun id => insert_obeys rfl rfl fun later found _ owned => ?_))
  cases found with
  | none => trivial
  | some execution => exact .call ⟨rfl, owned execution rfl⟩ fun _ => trivial

theorem startTurn_obeys (turnType : TurnType)
    {returned : (Place → Prop) → Value → Prop} (continues : ∀ later turnId, returned later turnId) :
    Obeys taskId known (startTurn taskId turnType) returned := by
  refine .bind (getActive_obeys (fun _ => continues _ _) fun found active _ object => ?_)
  refine .bind (.call object fun _ => .bind (readActive_obeys (.inl object) ?_))
  intro afterRead execution grown _
  refine .bind (.bind (.call trivial fun id => insert_obeys rfl rfl ?_))
  intro afterCreate turn more owned
  cases turn with
  | none => trivial
  | some turn =>
      have held : afterCreate (.object active) := more _ (.inl (grown _ (.inl object)))
      refine .bind (.call ⟨held, owned turn rfl⟩ fun _ =>
        .bind (readActive_obeys (.inl held) fun later execution _ refers => ?_))
      exact .bind (updateById_obeys rfl rfl (fun _ => refers _ (.inl rfl)) fun _ _ => continues _ _)

theorem updateTurnContent_obeys (content : String) (tokens : Option (Int × Int)) :
    Obeys taskId known (updateTurnContent taskId content tokens) fun _ _ => True := by
  refine .bind (getActive_obeys (fun _ => trivial) fun found active _ object => ?_)
  refine .bind (readActive_obeys object fun later execution _ refers => ?_)
  cases turn : execution.turn? with
  | none => trivial
  | some turnId =>
      refine updateById_obeys rfl rfl (fun _ => refers _ (.inr (.inl ⟨turnId, ?_, rfl⟩)))
        fun _ _ => trivial
      exact (Option.filter_eq_some_iff.mp turn).1

theorem startToolCall_obeys (runtime : Runtime) (toolUseId toolName : Json) (toolInput : Value) :
    Obeys taskId known (startToolCall runtime taskId toolUseId toolName toolInput)
      fun _ _ => True := by
  refine .bind (getActive_obeys (fun _ => trivial) fun found active _ object => ?_)
  refine .bind (readActive_obeys object fun afterRead execution grown _ => ?_)
  cases execution.turn? with
  | none => trivial
  | some turnId =>
      refine .bind (.bind (query_obeys trivial fun rows => .bind (readActive_obeys ?_ ?_)))
      · exact .inl (grown _ object)
      · intro afterOrder execution more _
        refine .bind (.bind (.call trivial fun id => ?_))
        cases toolInput with
        | none => trivial
        | some input =>
            refine insert_obeys rfl rfl fun afterCreate toolCall further owned => ?_
            cases toolCall with
            | none => trivial
            | some toolCall =>
                have held : afterCreate (.object active) :=
                  further _ (.inl (more _ (.inl (grown _ object))))
                refine .bind (.call ⟨held, owned toolCall rfl⟩ fun _ =>
                  .bind (readActive_obeys (.inl held) fun later execution _ refers => ?_))
                refine updateById_obeys rfl rfl (fun filled => refers _ (.inr (.inl ?_)))
                  fun _ _ => trivial
                cases current : execution.currentTurnId with
                | none =>
                    rw [current] at filled
                    exact absurd rfl filled
                | some turnId => exact ⟨turnId, rfl, rfl⟩

theorem completeToolCall_obeys (toolUseId : Json) (toolOutput : Value) (toolSuccess : Bool)
    (toolError : Value) :
    Obeys taskId known (completeToolCall taskId toolUseId toolOutput toolSuccess toolError)
      fun _ _ => True := by
  refine .bind (getActive_obeys (fun _ => trivial) fun found active _ object => ?_)
  refine .bind (readActive_obeys object fun afterRead execution grown refers => ?_)
  cases pending : (execution.pendingToolCalls.get? toolUseId).filter Json.truthy with
  | none => trivial
  | some toolCallId =>
      have row : afterRead (.row "tool_calls" toolCallId) :=
        refers _ (.inr (.inr ⟨toolUseId, toolCallId,
          (Option.filter_eq_some_iff.mp pending).1, rfl⟩))
      refine .bind (.bind (findById_obeys fun afterFind existing grownFind => ?_))
      refine .bind (since_obeys fun afterTime duration grownTime => ?_)
      refine .bind (.ofExcept fun output _ => ?_)
      refine updateById_obeys rfl rfl (fun _ => grownTime _ (grownFind _ row)) ?_
      intro afterUpdate grownUpdate
      have held : afterUpdate (.object active) :=
        grownUpdate _ (grownTime _ (grownFind _ (grown _ object)))
      cases toolError.filter fun error => !toolSuccess && error.truthy with
      | none => exact .call held fun _ => trivial
      | some error => exact .bind (.call held fun _ => .call (.inl held) fun _ => trivial)

theorem completeExecution_obeys (finalOutput : Option String)
    (inputTokens outputTokens costUsd : Int) :
    Obeys taskId known (completeExecution taskId finalOutput inputTokens outputTokens costUsd)
      fun _ _ => True := by
  refine .bind (getActive_obeys (fun _ => trivial) fun found active _ object => ?_)
  refine .bind (readActive_obeys object fun afterRead execution grown refers => ?_)
  refine .bind (.bind (findById_obeys fun afterFind existing grownFind => ?_))
  refine .bind (since_obeys fun afterTime duration grownTime => ?_)
  refine updateById_obeys rfl rfl (fun _ => grownTime _ (grownFind _ (refers _ (.inl rfl)))) ?_
  exact fun _ _ => .call rfl fun _ => trivial

theorem program_obeys (runtime : Runtime) (taskId : String) (call : Call) :
    Obeys taskId known (call.program runtime taskId) fun _ _ => True := by
  cases call with
  | startExecution executionMeta => exact startExecution_obeys executionMeta
  | completeExecution => exact completeExecution_obeys none 0 0 0
  | startToolCall toolUseId toolName toolInput =>
      exact startToolCall_obeys runtime toolUseId toolName toolInput
  | completeToolCall toolUseId toolOutput toolSuccess toolError =>
      exact completeToolCall_obeys toolUseId toolOutput toolSuccess toolError
  | recordTurn content =>
      refine .bind (startTurn_obeys .assistant fun later turnId => ?_)
      cases turnId.filter Json.truthy with
      | none => trivial
      | some turnId => exact .bind (.ofExcept fun content _ => updateTurnContent_obeys _ none)

end Programs

section Runs

variable (runtime : Runtime)

def actorProgram (actor : String × Call) : Program Unit := actor.2.program runtime actor.1

def MovesFor (taskId : String) (pool : TrackerPool) : Move (String × Call) → Prop
  | .spawn actor => actor.1 = taskId
  | .advance index => ∀ thread, pool.threads[index]? = some thread → thread.1.1 = taskId

/-- Calls that keep to their tasks, over an orderly state. -/
structure Separated (pool : TrackerPool) : Prop where
  orderly : pool.world.state.Orderly
  informed : pool.Informed (fun actor => discipline actor.1) fun state actor => Owns state actor.1

theorem Separated.initial (world : World environment) (empty : world.state.objects = [])
    (none : world.state.activeExecutions = .empty) : Separated { world } where
  orderly := by
    constructor
    · intro active execution found
      rw [empty] at found
      cases found
    · intro taskId active found
      rw [none] at found
      cases found
  informed thread membership := absurd membership List.not_mem_nil

variable {runtime}

theorem Separated.move {pool : TrackerPool} (separated : Separated pool)
    (move : Move (String × Call)) : Separated (pool.move (actorProgram runtime) move) := by
  obtain ⟨orderly, informed⟩ := Pool.Informed.move sound
    (fun actor => program_obeys runtime actor.1 actor.2) separated.informed separated.orderly move
  exact ⟨orderly, informed⟩

theorem Separated.move_sameTracking {pool : TrackerPool} (separated : Separated pool)
    {taskId other : String} (different : other ≠ taskId) {move : Move (String × Call)}
    (ofTask : MovesFor taskId pool move) :
    SameTracking other pool.world.state (pool.move (actorProgram runtime) move).world.state := by
  rcases pool.move_cases (actorProgram runtime) move with ⟨actor, rfl, moved⟩ |
    ⟨index, actor, call, rest, rfl, found, moved⟩ | moved
  · rw [moved]
    exact .refl other _
  · rw [moved]
    obtain ⟨known, right, permitted, _⟩ := separated.informed.permitted found
    obtain rfl := ofTask _ found
    exact serve_sameTracking right permitted different
  · rw [moved]
    exact .refl other _

theorem Separated.run_sameTracking {pool : TrackerPool} (separated : Separated pool)
    {taskId other : String} (different : other ≠ taskId) {moves : List (Move (String × Call))}
    (ofTask : Pool.Guarded (actorProgram runtime) (MovesFor taskId) moves pool) :
    SameTracking other pool.world.state
      (pool.run (actorProgram runtime) moves).world.state := by
  let invariant (after : TrackerPool) : Prop :=
    Separated after ∧ SameTracking other pool.world.state after.world.state
  have step (before : TrackerPool) (move : Move (String × Call))
      (allowed : MovesFor taskId before move) (holds : invariant before) :
      invariant (before.move (actorProgram runtime) move) :=
    ⟨holds.1.move move, holds.2.trans (holds.1.move_sameTracking different allowed)⟩
  have initial : invariant pool := ⟨separated, .refl other _⟩
  exact (Pool.run_invariant step ofTask initial).2

/-- However the calls of all tasks and their queries are interleaved, the rows that the tracker
refers to for a task are rows of that task; and what is tracked of a task stays as it is while
only calls of other tasks go on. -/
theorem tracking_is_separate (database : Database Cell) (choices : Nat → Choice)
    (earlier later : List (Move (String × Call))) (taskId : String) :
    let start : TrackerPool := { world := .start { database } choices }
    let before := start.run (actorProgram runtime) earlier
    before.world.state.Orderly ∧
      (Pool.Guarded (actorProgram runtime)
          (fun pool move => ∃ other, taskId ≠ other ∧ MovesFor other pool move) later before →
        SameTracking taskId before.world.state
          (before.run (actorProgram runtime) later).world.state) := by
  intro start before
  have initial : Separated start := .initial _ rfl rfl
  have separated : Separated before :=
    Pool.run_invariant (fun _ move _ separated => separated.move move)
      (.of_invariant (fun _ move separated => separated.move move) (fun _ _ _ => trivial) earlier
        initial) initial
  refine ⟨separated.orderly, fun others => ?_⟩
  let invariant (after : TrackerPool) : Prop :=
    Separated after ∧ SameTracking taskId before.world.state after.world.state
  have step (after : TrackerPool) (move : Move (String × Call))
      (others : ∃ other, taskId ≠ other ∧ MovesFor other after move) (holds : invariant after) :
      invariant (after.move (actorProgram runtime) move) := by
    obtain ⟨other, different, ofTask⟩ := others
    exact ⟨holds.1.move move, holds.2.trans (holds.1.move_sameTracking different ofTask)⟩
  exact (Pool.run_invariant step others ⟨separated, .refl taskId _⟩).2

end Runs

end MultiAgents.ExecutionTracker
