import MultiAgents.Services.ExecutionTracker

/-!
# Export of the training data of a task

Executions, turns and tool calls are read one after another and written out.  What
else an export contains, and how it is found, is left open.
-/

namespace MultiAgents.TrainingExport

open ExecutionTracker Relational Text TrainingSchema

structure ExportedTurn where
  id : Json
  executionId : Value
  turnNumber : Value
  turnType : Value
  messageContent : Value
  hasToolCalls : Value
  toolCallsCount : Json
  inputTokens : Json
  outputTokens : Json
  deriving DecidableEq

def mapTurn (row : Row Cell) : ExportedTurn where
  id := rowId row
  executionId := row "execution_id"
  turnNumber := row "turn_number"
  turnType := row "turn_type"
  messageContent := (row "message_content").filter Json.truthy
  hasToolCalls := row "has_tool_calls"
  toolCallsCount := Value.orElse (row "tool_calls_count") (.num 0 0)
  inputTokens := Value.orElse (row "input_tokens") (.num 0 0)
  outputTokens := Value.orElse (row "output_tokens") (.num 0 0)

structure TrainingDataRecord (Others : Type) where
  turns : List ExportedTurn
  others : Others

def exportTask {Others : Type}
    (collect : List (Row Cell) → List (Row Cell) → List (Row Cell) → Program Others)
    (taskId : String) : Program (TrainingDataRecord Others) := do
  let executions ← AgentExecutionRepository.findByTaskId taskId
  let turns ← AgentTurnRepository.findByTaskId taskId
  let toolCalls ← ToolCallRepository.findByTaskId taskId
  let others ← collect executions turns toolCalls
  return { turns := turns.map mapTurn, others }

end MultiAgents.TrainingExport
