import MultiAgents.Services.TrainingExport

/-!
# Turns in the training data

The repository of the turns names columns that the table of the schema does not
have.  So no turn is stored, which nobody notices, and no export ever returns.
-/

namespace MultiAgents.TrainingExport

open Containers Effects ExecutionTracker Relational Text TrainingSchema

/-- What is done with the turns of a task. -/
inductive TurnStep where
  | startTurn (turnType : TurnType)
  | updateTurnContent (content : String)
  deriving DecidableEq

def TurnStep.program (taskId : String) : TurnStep → Program Unit
  | .startTurn turnType => do let _ ← ExecutionTracker.startTurn taskId turnType
  | .updateTurnContent content => ExecutionTracker.updateTurnContent taskId content none

/-- One step after the other; errors are ignored. -/
def turnSteps (taskId : String) (steps : List TurnStep) : Program Unit :=
  forM steps fun step => tryCatch (step.program taskId) fun _ => pure ()

def TurnStep.extend (turns : List (TurnType × Option String)) :
    TurnStep → List (TurnType × Option String)
  | .startTurn turnType => (turnType, none) :: turns
  | .updateTurnContent content =>
      match turns with
      | [] => []
      | (turnType, _) :: rest => (turnType, some content) :: rest

/-- The turns that were started, each with the last content it was given. -/
def started (steps : List TurnStep) : List (TurnType × Option String) :=
  (steps.foldl TurnStep.extend []).reverse

def ExportsStarted {Others : Type}
    (collect : List (Row Cell) → List (Row Cell) → List (Row Cell) → Program Others)
    (taskId : String) (steps : List TurnStep) (world : World environment) : Prop :=
  ∃ record after,
    (do turnSteps taskId steps; exportTask collect taskId).exec world = (.ok record, after) ∧
    record.turns.map (fun turn => (turn.turnType, turn.messageContent)) =
      (started steps).map fun turn => (.text turn.1.name, .text? (presentText turn.2))

def TurnsOfSchema (state : State) : Prop :=
  (state.database.get? "agent_turns").map Table.columns = some agentTurns

theorem TurnsOfSchema.serve {state : State} (schema : TurnsOfSchema state) (choice : Choice)
    (request : Request) : TurnsOfSchema (ExecutionTracker.serve state choice request).2 := by
  cases request with
  | query statement =>
      unfold ExecutionTracker.serve
      cases choice.fault with
      | some error => exact schema
      | none => exact (execute_columns _ _ _ _ _).trans schema
  | _ => exact schema

theorem turnsOfSchema_keeps {α : Type} (program : Program α) :
    Keeps Anything (fun world : World environment => TurnsOfSchema world.state) program := by
  intro world schema _
  induction program generalizing world with
  | done value => exact schema
  | fail error => exact schema
  | ask call rest ih =>
      exact ih _ (world.next call) (schema.serve world.choice call) ‹_›

theorem answer_unknown_column (world : World environment) (statement : Statement Cell)
    {table : Table Cell} {name : String}
    (found : world.state.database.get? statement.table = some table)
    (named : name ∈ statement.columns) (unknown : table.column? name = none) :
    ∃ error, world.answer (.query statement) = .error error := by
  have rejected : ∃ error, execute cellLe (.num world.choice.time 0) world.state.database
      statement = (.error error, _) := execute_unknown_column found named unknown
  unfold World.answer
  dsimp only [serve]
  cases world.choice.fault with
  | some error => exact ⟨error, rfl⟩
  | none => exact rejected.imp fun error result => congrArg Prod.fst result

theorem findByTaskId_rejected (taskId : String) :
    Triple Anything (fun world : World environment => TurnsOfSchema world.state)
      (AgentTurnRepository.findByTaskId taskId) (fun _ _ => False) (fun _ _ => True) := by
  refine Triple.attempt (Triple.call fun world schema _ => ?_)
  obtain ⟨table, found, columns⟩ := Option.map_eq_some_iff.mp schema
  have unknown : table.column? "started_at" = none := by
    unfold Table.column?
    rw [columns]
    decide
  obtain ⟨error, rejected⟩ := answer_unknown_column world
    (.select "agent_turns" "task_id" (.str taskId) ["started_at"]) found (.tail _ (.head _)) unknown
  rw [rejected]
  trivial

theorem exportTask_rejected {Others : Type}
    (collect : List (Row Cell) → List (Row Cell) → List (Row Cell) → Program Others)
    (taskId : String) :
    Triple Anything (fun world : World environment => TurnsOfSchema world.state)
      (exportTask collect taskId) (fun _ _ => False) (fun _ _ => True) := by
  have executions := turnsOfSchema_keeps (AgentExecutionRepository.findByTaskId taskId)
  refine Triple.bind (executions.onRaise fun _ _ _ => trivial)
    fun _ => ?_
  refine Triple.bind (findByTaskId_rejected taskId) fun _ => ?_
  exact fun _ impossible => impossible.elim

/-- Whatever is in the tables, and whatever is done with the turns of a task: an export never
returns the turns that were started. -/
theorem never_exports_started {Others : Type}
    (collect : List (Row Cell) → List (Row Cell) → List (Row Cell) → Program Others)
    (taskId : String) (steps : List TurnStep) (rows : String → List (Row Cell))
    (world : World environment) :
    ¬ ExportsStarted collect taskId steps
      { world with state := { world.state with database := TrainingSchema.database rows } } := by
  rintro ⟨record, after, ended, _⟩
  let start : World environment :=
    { world with state := { world.state with database := TrainingSchema.database rows } }
  have schema : TurnsOfSchema start.state := rfl
  have recorded := turnsOfSchema_keeps (turnSteps taskId steps)
  have rejected := Triple.bind (recorded.onRaise fun _ _ _ => trivial)
    fun _ => exportTask_rejected collect taskId
  have outcome := rejected.outcome schema
  rw [ended] at outcome
  exact outcome

def sampleState : State where
  objects := [{ executionId := .str "execution-1", taskId := "task-1" }]
  activeExecutions := OrderedMap.empty.set "task-1" 0
  database := TrainingSchema.database fun table =>
    if table = "tasks" then [fun column => if column = "id" then some (.str "task-1") else none]
    else if table = "agent_executions" then
      [fun column =>
        if column = "id" then some (.str "execution-1")
        else if column = "task_id" then some (.str "task-1")
        else if column = "agent_type" then some (.str "opencode")
        else none]
    else []

/-- One turn is started and given its content, and the export of its task is rejected. -/
theorem started_turn_not_exported :
    ¬ ExportsStarted (fun _ _ _ => pure ()) "task-1"
      [.startTurn .assistant, .updateTurnContent "Done."]
      (.start sampleState fun index => { id := toString index, time := index }) := by
  rintro ⟨record, after, ended, _⟩
  have rejected : ((do
      turnSteps "task-1" [.startTurn .assistant, .updateTurnContent "Done."]
      exportTask (fun _ _ _ => pure ()) "task-1" : Program _).exec
        (.start sampleState fun index => { id := toString index, time := index } :
          World environment)).1.toOption.isNone = true := by decide +kernel
  rw [ended] at rejected
  cases rejected

end MultiAgents.TrainingExport
