import MultiAgents.Relational.Tables
import MultiAgents.Text.Record

/-!
# The tables of the training data

Executions of agents, their turns and the tool calls of these, with the columns
that the schema gives them.  Of the tasks only the key is needed, which all of them
refer to.
-/

namespace MultiAgents.TrainingSchema

open Relational Text

abbrev Cell := Json

def number (value : Int) : Term Cell := .value (some (.num value 0))

def text (value : String) : Term Cell := .value (some (.str value))

def key : Column Cell := { name := "id", notNull := true }

def reference (name target : String) : Column Cell :=
  { name, notNull := true, references := some target }

def timestamp (name : String) : Column Cell := { name, notNull := true, fallback := .now }

def tasks : List (Column Cell) := [key]

def agentExecutions : List (Column Cell) :=
  [key, reference "task_id" "tasks", { name := "agent_type", notNull := true },
    { name := "model_id" }, { name := "phase_name" }, { name := "prompt" },
    { name := "final_output" }, { name := "input_tokens", fallback := number 0 },
    { name := "output_tokens", fallback := number 0 }, { name := "cost_usd", fallback := number 0 },
    { name := "duration_ms" }, { name := "status", fallback := text "pending" },
    { name := "error_type" }, { name := "error_message" }, timestamp "created_at",
    timestamp "updated_at",
    -- Added to a table that already exists.
    { name := "started_at" }, { name := "completed_at" },
    { name := "turns_completed", fallback := number 0 }]

def agentTurns : List (Column Cell) :=
  [key, reference "execution_id" "agent_executions", reference "task_id" "tasks",
    { name := "turn_number", notNull := true }, { name := "role", notNull := true },
    { name := "content" }, { name := "input_tokens", fallback := number 0 },
    { name := "output_tokens", fallback := number 0 },
    { name := "tool_calls_count", fallback := number 0 }, timestamp "created_at"]

def toolCalls : List (Column Cell) :=
  [key, reference "execution_id" "agent_executions", reference "turn_id" "agent_turns",
    reference "task_id" "tasks", { name := "tool_name", notNull := true },
    { name := "tool_use_id" }, { name := "tool_input" }, { name := "tool_input_summary" },
    { name := "tool_output" }, { name := "tool_success", fallback := .value (some (.bool true)) },
    { name := "tool_error" }, { name := "file_path" }, { name := "bash_command" },
    { name := "bash_exit_code" }, { name := "duration_ms" },
    { name := "call_order", fallback := number 0 }, { name := "started_at", fallback := .now },
    { name := "completed_at" }]

def columns : List (String × List (Column Cell)) :=
  [("tasks", tasks), ("agent_executions", agentExecutions), ("agent_turns", agentTurns),
    ("tool_calls", toolCalls)]

/-- The tables of the schema with any rows. -/
def database (rows : String → List (Row Cell)) : Database Cell where
  entries := columns.map fun table => (table.1, { columns := table.2, rows := rows table.1 })
  nodup := by
    rw [List.map_map]
    change (columns.map Prod.fst).Nodup
    decide

/-- Numbers and texts in their order. -/
def cellLe : Cell → Cell → Bool
  | .num mantissa exponent, .num other scale =>
      (Number.finite other scale).ge (.finite mantissa exponent)
  | .str left, .str right => left ≤ right
  | _, _ => true

/-- A parameter of a statement; undefined and null are the same to it. -/
def parameter (value : Value) : Term Cell := .value (value.filter fun value => !value.isNull)

end MultiAgents.TrainingSchema
