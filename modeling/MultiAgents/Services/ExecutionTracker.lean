import MultiAgents.Containers.Lists
import MultiAgents.Database.TrainingSchema
import MultiAgents.Effects.Pool
import MultiAgents.Services.BridgeEvents

/-!
# Tracking of executions

The tracker keeps an object for the execution of each task and writes turns and
tool calls to the tables.  Its calls are not awaited and go on side by side, here
even between two queries; an object that a call has read stays in its hands when
the task has got another one.  `objects` holds them all, and an address is a
position in it.
-/

namespace MultiAgents.ExecutionTracker

open Containers Effects Relational Text TrainingSchema

structure ActiveExecution where
  executionId : Json
  taskId : String
  currentTurnId : Value := none
  currentTurnNumber : Nat := 0
  pendingToolCalls : OrderedMap Json Json := .empty
  lastError : Value := none
  lastErrorType : Value := none

inductive Request where
  | generateId
  | dateNow
  | query (statement : Statement Cell)
  | getActive (taskId : String)
  | setActive (taskId : String) (executionId : Json)
  | deleteActive (taskId : String)
  | read (active : Nat)
  | nextTurn (active : Nat)
  | setCurrentTurn (active : Nat) (turnId : Json)
  | setPending (active : Nat) (toolUseId toolCallId : Json)
  | deletePending (active : Nat) (toolUseId : Json)
  | setError (active : Nat) (error errorType : Json)

/-- An object is answered with its address or, when it is read, with its fields.  It is always
there when it is read. -/
abbrev Request.Answer : Request → Type
  | .generateId => String
  | .dateNow => Int
  | .query _ => Except String (List (Row Cell))
  | .getActive _ => Option Nat
  | .read _ => Option ActiveExecution
  | .nextTurn _ => Unit
  | .setActive _ _ | .deleteActive _ | .setCurrentTurn _ _ | .setPending _ _ _
  | .deletePending _ _ | .setError _ _ _ => Unit

abbrev calls : Signature := ⟨Request, Request.Answer⟩

abbrev Program (α : Type) := Process calls String α

def Request.issue (request : Request) : Program request.Answer :=
  Process.call (S := calls) request

def query (statement : Statement Cell) : Program (List (Row Cell)) :=
  (Request.query statement).issue.attempt

def noProperty : String := "TypeError: property of null"

/-- The fields of an object. -/
def readActive (active : Nat) : Program ActiveExecution := do
  match ← (Request.read active).issue with
  | some execution => pure execution
  | none => throw noProperty

/-- Change the row with that identifier. -/
def updateById (table : String) (changes : List (String × Term Cell)) (id : Json) :
    Program Unit := do
  let _ ← query (.update table changes "id" ((some id).filter fun id => !id.isNull))

def rowId (row : Row Cell) : Json := (row "id").getD .null

namespace AgentExecutionRepository

def findById (id : Json) : Program (Option (Row Cell)) := do
  return (← query (.select "agent_executions" "id" id [])).head?

def create (taskId agentType modelId : String) (phaseName : Option String) (prompt : String) :
    Program (Option (Row Cell)) := do
  let id ← Request.generateId.issue
  let _ ← query (.insert "agent_executions"
    [("id", text id), ("task_id", text taskId), ("agent_type", text agentType),
      ("model_id", text modelId), ("phase_name", parameter (.text? (presentText phaseName))),
      ("prompt", text prompt)])
  findById (.str id)

def since (time : Option Cell) : Program Value :=
  match time with
  | some (.num mantissa exponent) => do
      let now ← Request.dateNow.issue
      pure (some (.num (now - mantissa * 10 ^ exponent.toNat) 0))
  | _ => pure none

/-- A duration of zero is none. -/
def complete (id : Json) (finalOutput : Option String) (inputTokens outputTokens costUsd : Int)
    (turnsCompleted : Nat) : Program Unit := do
  let existing ← findById id
  let durationMs ← since (existing.bind fun row => row "started_at")
  updateById "agent_executions"
    [("final_output", parameter (.text? (presentText finalOutput))), ("status", text "completed"),
      ("input_tokens", number inputTokens), ("output_tokens", number outputTokens),
      ("cost_usd", number costUsd), ("turns_completed", number turnsCompleted),
      ("duration_ms", parameter (durationMs.filter Json.truthy)), ("completed_at", .now)] id

def updateProgress (id : Json) (turnsCompleted : Nat) : Program Unit :=
  updateById "agent_executions" [("turns_completed", number turnsCompleted)] id

def findByTaskId (taskId : String) : Program (List (Row Cell)) :=
  query (.select "agent_executions" "task_id" (.str taskId) ["started_at"])

end AgentExecutionRepository

inductive TurnType where
  | user
  | assistant
  | toolResult
  deriving DecidableEq

def TurnType.name : TurnType → String
  | .user => "user"
  | .assistant => "assistant"
  | .toolResult => "tool_result"

namespace AgentTurnRepository

def findById (id : Json) : Program (Option (Row Cell)) := do
  return (← query (.select "agent_turns" "id" id [])).head?

def create (executionId : Json) (taskId : String) (turnNumber : Nat) (turnType : TurnType) :
    Program (Option (Row Cell)) := do
  let id ← Request.generateId.issue
  let _ ← query (.insert "agent_turns"
    [("id", text id), ("execution_id", parameter executionId), ("task_id", text taskId),
      ("turn_number", number turnNumber), ("turn_type", text turnType.name)])
  findById (.str id)

def updateContent (id : Json) (content : String) (tokens : Option (Int × Int)) :
    Program Unit :=
  updateById "agent_turns"
    [("message_content", text content), ("input_tokens", number ((tokens.map Prod.fst).getD 0)),
      ("output_tokens", number ((tokens.map Prod.snd).getD 0)), ("completed_at", .now)] id

def updateToolCalls (id : Json) (count : Nat) : Program Unit :=
  updateById "agent_turns"
    [("has_tool_calls", .value (some (.bool (0 < count)))), ("tool_calls_count", number count)] id

def findByTaskId (taskId : String) : Program (List (Row Cell)) :=
  query (.select "agent_turns" "task_id" (.str taskId) ["started_at"])

end AgentTurnRepository

namespace ToolCallRepository

variable (runtime : Runtime)

def findById (id : Json) : Program (Option (Row Cell)) := do
  return (← query (.select "tool_calls" "id" id [])).head?

def maxOrder (rows : List (Row Cell)) : Int :=
  (rows.filterMap fun row =>
    match row "call_order" with
    | some (.num order _) => some order
    | _ => none).max?.getD 0

def getNextCallOrder (turnId : Json) : Program Int := do
  return maxOrder (← query (.select "tool_calls" "turn_id" turnId ["call_order"])) + 1

def create (executionId turnId : Json) (taskId : String) (toolName toolUseId : Json)
    (toolInput : Value) (callOrder : Int) : Program (Option (Row Cell)) := do
  let id ← Request.generateId.issue
  let some input := toolInput | throw "TypeError: property of undefined"
  let inputStr := runtime.stringify input
  let inputSummary := if Json.codeUnits inputStr > 500 then clip 500 inputStr ++ "..." else inputStr
  let filePath := (either (input.property "file_path") (input.property "path")).filter Json.truthy
  let bashCommand := if toolName.isText "Bash" then input.property "command" else none
  let _ ← query (.insert "tool_calls"
    [("id", text id), ("execution_id", parameter executionId), ("turn_id", parameter turnId),
      ("task_id", text taskId), ("tool_name", parameter toolName),
      ("tool_use_id", parameter ((some toolUseId).filter Json.truthy)),
      ("tool_input", text inputStr), ("tool_input_summary", text inputSummary),
      ("file_path", parameter filePath), ("bash_command", parameter bashCommand),
      ("call_order", number callOrder)])
  findById (.str id)

def complete (id : Json) (toolOutput : Value) (toolSuccess : Bool) (toolError : Value) :
    Program Unit := do
  let existing ← findById id
  let durationMs ← AgentExecutionRepository.since (existing.bind fun row => row "started_at")
  let output ← Process.ofExcept (toolOutput.mapM textOf)
  updateById "tool_calls"
    [("tool_output", parameter (.text? (presentText (output.map (clip 100000))))),
      ("tool_success", .value (some (.bool toolSuccess))),
      ("tool_error", parameter (toolError.filter Json.truthy)), ("bash_exit_code", .value none),
      ("duration_ms", parameter (durationMs.filter Json.truthy)), ("completed_at", .now)] id

def findByTaskId (taskId : String) : Program (List (Row Cell)) :=
  query (.select "tool_calls" "task_id" (.str taskId) ["started_at", "call_order"])

end ToolCallRepository

structure ExecutionMeta where
  agentType : String := "opencode"
  modelId : String := "claude-sonnet"
  phaseName : Option String := none
  prompt : String
  deriving DecidableEq

def startExecution (taskId : String) (executionMeta : ExecutionMeta) : Program Unit := do
  match ← AgentExecutionRepository.create taskId executionMeta.agentType executionMeta.modelId
      executionMeta.phaseName executionMeta.prompt with
  | none => throw noProperty
  | some execution => (Request.setActive taskId (rowId execution)).issue

def startTurn (taskId : String) (turnType : TurnType) : Program Value := do
  match ← (Request.getActive taskId).issue with
  | none => pure none
  | some active => do
      (Request.nextTurn active).issue
      let execution ← readActive active
      match ← AgentTurnRepository.create execution.executionId taskId execution.currentTurnNumber
          turnType with
      | none => throw noProperty
      | some turn => do
          (Request.setCurrentTurn active (rowId turn)).issue
          let execution ← readActive active
          AgentExecutionRepository.updateProgress execution.executionId execution.currentTurnNumber
          pure (rowId turn)

def ActiveExecution.turn? (execution : ActiveExecution) : Value :=
  execution.currentTurnId.filter Json.truthy

def updateTurnContent (taskId content : String) (tokens : Option (Int × Int)) :
    Program Unit := do
  match ← (Request.getActive taskId).issue with
  | none => pure ()
  | some active => do
      match (← readActive active).turn? with
      | none => pure ()
      | some turnId => AgentTurnRepository.updateContent turnId content tokens

section Tools

variable (runtime : Runtime)

def startToolCall (taskId : String) (toolUseId toolName : Json) (toolInput : Value) :
    Program Unit := do
  match ← (Request.getActive taskId).issue with
  | none => pure ()
  | some active => do
      match (← readActive active).turn? with
      | none => pure ()
      | some turnId => do
          let callOrder ← ToolCallRepository.getNextCallOrder turnId
          -- The turn is read again, and may be another one by now.
          let execution ← readActive active
          match ← ToolCallRepository.create runtime execution.executionId
              (execution.currentTurnId.getD .null) taskId toolName toolUseId toolInput
              callOrder with
          | none => throw noProperty
          | some toolCall => do
              (Request.setPending active toolUseId (rowId toolCall)).issue
              let execution ← readActive active
              AgentTurnRepository.updateToolCalls (execution.currentTurnId.getD .null)
                execution.pendingToolCalls.entries.length

def completeToolCall (taskId : String) (toolUseId : Json) (toolOutput : Value)
    (toolSuccess : Bool) (toolError : Value) : Program Unit := do
  match ← (Request.getActive taskId).issue with
  | none => pure ()
  | some active => do
      match ((← readActive active).pendingToolCalls.get? toolUseId).filter Json.truthy with
      | none => pure ()
      | some toolCallId => do
          ToolCallRepository.complete toolCallId toolOutput toolSuccess toolError
          match toolError.filter fun error => !toolSuccess && error.truthy with
          | none => pure ()
          | some error => (Request.setError active error (.str "unknown")).issue
          (Request.deletePending active toolUseId).issue

end Tools

def completeExecution (taskId : String) (finalOutput : Option String)
    (inputTokens outputTokens costUsd : Int) : Program Unit := do
  match ← (Request.getActive taskId).issue with
  | none => pure ()
  | some active => do
      let execution ← readActive active
      AgentExecutionRepository.complete execution.executionId finalOutput inputTokens outputTokens
        costUsd execution.currentTurnNumber
      (Request.deleteActive taskId).issue

inductive Call where
  | startExecution (executionMeta : ExecutionMeta)
  | completeExecution
  | startToolCall (toolUseId toolName : Json) (toolInput : Value)
  | completeToolCall (toolUseId : Json) (toolOutput : Value) (toolSuccess : Bool)
    (toolError : Value)
  | recordTurn (content : Value)
  deriving DecidableEq

/-- A call for a task.  Whatever it raises is ignored. -/
def Call.program (runtime : Runtime) (taskId : String) : Call → Program Unit
  | .startExecution executionMeta => ExecutionTracker.startExecution taskId executionMeta
  | .completeExecution => ExecutionTracker.completeExecution taskId none 0 0 0
  | .startToolCall toolUseId toolName toolInput =>
      ExecutionTracker.startToolCall runtime taskId toolUseId toolName toolInput
  | .completeToolCall toolUseId toolOutput toolSuccess toolError =>
      ExecutionTracker.completeToolCall taskId toolUseId toolOutput toolSuccess toolError
  | .recordTurn content => do
      match (← startTurn taskId .assistant).filter Json.truthy with
      | none => pure ()
      | some _ => do
          let content ← Process.ofExcept (content.mapM textOf)
          updateTurnContent taskId (clip 10000 (content.getD "")) none

structure State where
  objects : List ActiveExecution := []
  activeExecutions : OrderedMap String Nat := .empty
  database : Database Cell

/-- What the outside decides: the next identifier, the time, and whether a query fails. -/
structure Choice where
  id : String := ""
  time : Int := 0
  fault : Option String := none

def State.modify (state : State) (active : Nat) (change : ActiveExecution → ActiveExecution) :
    State :=
  { state with objects := state.objects.modify active change }

def serve (state : State) (choice : Choice) : (request : Request) → request.Answer × State
  | .generateId => (choice.id, state)
  | .dateNow => (choice.time, state)
  | .query statement =>
      match choice.fault with
      | some error => (.error error, state)
      | none =>
          let (result, database) := execute cellLe (.num choice.time 0) state.database statement
          (result, { state with database })
  | .getActive taskId => (state.activeExecutions.get? taskId, state)
  | .setActive taskId executionId =>
      ((), { state with
        objects := state.objects ++ [{ executionId, taskId }]
        activeExecutions := state.activeExecutions.set taskId state.objects.length })
  | .deleteActive taskId =>
      ((), { state with activeExecutions := state.activeExecutions.erase taskId })
  | .read active => (state.objects[active]?, state)
  | .nextTurn active =>
      ((), state.modify active fun execution =>
        { execution with currentTurnNumber := execution.currentTurnNumber + 1 })
  | .setCurrentTurn active turnId =>
      ((), state.modify active fun execution => { execution with currentTurnId := some turnId })
  | .setPending active toolUseId toolCallId =>
      ((), state.modify active fun execution =>
        { execution with
          pendingToolCalls := execution.pendingToolCalls.set toolUseId toolCallId })
  | .deletePending active toolUseId =>
      ((), state.modify active fun execution =>
        { execution with pendingToolCalls := execution.pendingToolCalls.erase toolUseId })
  | .setError active error errorType =>
      ((), state.modify active fun execution =>
        { execution with lastError := some error, lastErrorType := some errorType })

abbrev environment : Environment calls := ⟨State, Choice, serve⟩

/-- The calls in progress, each with its task. -/
abbrev TrackerPool := Pool environment String (String × Call)

end MultiAgents.ExecutionTracker
