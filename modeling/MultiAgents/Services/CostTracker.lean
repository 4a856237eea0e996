import Mathlib.Data.Rat.Floor
import MultiAgents.Containers.Sums
import MultiAgents.Effects.Pool

/-!
# Costs of tasks

The tracker adds up, in exact arithmetic, what each task and each of its
sessions costs.  Totals are written to the row of the task whenever they reach
another cent, read back when a task is resumed, and written once more before a
task is cleared.  A call runs up to its first query without being interrupted;
its other steps come between those of other calls.
-/

namespace MultiAgents

open Containers Effects

@[ext]
structure Usage where
  cost : ℚ
  inputTokens : ℚ
  outputTokens : ℚ
  deriving DecidableEq

namespace Usage

instance : Zero Usage := ⟨⟨0, 0, 0⟩⟩

instance : Add Usage := ⟨fun usage other =>
  ⟨usage.cost + other.cost, usage.inputTokens + other.inputTokens,
    usage.outputTokens + other.outputTokens⟩⟩

@[simp] theorem cost_zero : (0 : Usage).cost = 0 := rfl
@[simp] theorem inputTokens_zero : (0 : Usage).inputTokens = 0 := rfl
@[simp] theorem outputTokens_zero : (0 : Usage).outputTokens = 0 := rfl

section Add

variable (usage other : Usage)

@[simp] theorem cost_add : (usage + other).cost = usage.cost + other.cost := rfl

@[simp]
theorem inputTokens_add :
    (usage + other).inputTokens = usage.inputTokens + other.inputTokens := rfl

@[simp]
theorem outputTokens_add :
    (usage + other).outputTokens = usage.outputTokens + other.outputTokens := rfl

end Add

instance : AddCommMonoid Usage where
  add_assoc first second third := by ext <;> simp [add_assoc]
  zero_add usage := by ext <;> simp
  add_zero usage := by ext <;> simp
  add_comm usage other := by ext <;> simp [add_comm]
  nsmul := nsmulRec

/-- The cents that have been reached. -/
def cents (cost : ℚ) : ℤ := ⌊cost * 100⌋

end Usage

/-- What an event reports; any part of it may be missing. -/
structure CostData where
  cost : Option ℚ := none
  tokens : Option (Option ℚ × Option ℚ) := none

def CostData.usage (costData : CostData) : Usage where
  cost := costData.cost.getD 0
  inputTokens := (costData.tokens.bind Prod.fst).getD 0
  outputTokens := (costData.tokens.bind Prod.snd).getD 0

structure CostMetadata where
  storyId : Option String := none
  phase : Option String := none

structure SessionCostSummary where
  usage : Usage := 0
  storyId : Option String := none
  phase : Option String := none

structure TaskCostSummary where
  total : Usage := 0
  sessions : OrderedMap String SessionCostSummary := .empty

abbrev TaskCosts := OrderedMap String TaskCostSummary

structure CostEvent where
  taskId : String
  sessionId : String
  costData : CostData := {}
  metadata : CostMetadata := {}

abbrev CostEvent.usage (event : CostEvent) : Usage := event.costData.usage

namespace CostTracker

def addEvent (event : CostEvent) (taskSummary : TaskCostSummary) : TaskCostSummary :=
  let sessionSummary := (taskSummary.sessions.get? event.sessionId).getD
    { storyId := event.metadata.storyId, phase := event.metadata.phase }
  { total := taskSummary.total + event.usage
    sessions := taskSummary.sessions.set event.sessionId
      { sessionSummary with usage := sessionSummary.usage + event.usage } }

def recordCost (event : CostEvent) (taskCosts : TaskCosts) : Option Usage × TaskCosts :=
  let cost := event.usage.cost
  -- Events without any data are skipped.
  if cost = 0 ∧ event.usage.inputTokens = 0 ∧ event.usage.outputTokens = 0 then (none, taskCosts)
  else
    let taskSummary := addEvent event ((taskCosts.get? event.taskId).getD {})
    let prevCostCents := Usage.cents (taskSummary.total.cost - cost)
    let newCostCents := Usage.cents taskSummary.total.cost
    (if newCostCents ≠ prevCostCents then some taskSummary.total else none,
      taskCosts.set event.taskId taskSummary)

/-- The steps of calls that are not interrupted, and the queries they wait for. -/
inductive Request where
  | recordCost (event : CostEvent)
  | has (taskId : String)
  | get (taskId : String)
  | set (taskId : String) (total : Usage)
  | delete (taskId : String)
  | selectCosts (taskId : String)
  | updateCosts (taskId : String) (total : Usage)

def Request.Answer : Request → Type
  | .recordCost _ => Option Usage
  | .has _ => Bool
  | .get _ => Option TaskCostSummary
  | .set _ _ | .delete _ => Unit
  | .selectCosts _ => Except String (Option Usage)
  | .updateCosts _ _ => Except String Unit

def Request.taskId : Request → String
  | .recordCost event => event.taskId
  | .has taskId | .get taskId | .set taskId _ | .delete taskId | .selectCosts taskId
  | .updateCosts taskId _ => taskId

/-- The summaries in memory and the columns of the rows of tasks. -/
structure State where
  taskCosts : TaskCosts := .empty
  rows : OrderedMap String Usage := .empty

def State.update (state : State) (taskId : String) (total : Usage) : State :=
  match state.rows.get? taskId with
  | none => state
  | some _ => { state with rows := state.rows.set taskId total }

/-- A query may fail. -/
structure Choice where
  fault : Option String := none

def serve (state : State) (choice : Choice) : (request : Request) → request.Answer × State
  | .recordCost event =>
      let (persisted, taskCosts) := recordCost event state.taskCosts
      (persisted, { state with taskCosts })
  | .has taskId => ((state.taskCosts.get? taskId).isSome, state)
  | .get taskId => (state.taskCosts.get? taskId, state)
  | .set taskId total => ((), { state with taskCosts := state.taskCosts.set taskId { total } })
  | .delete taskId => ((), { state with taskCosts := state.taskCosts.erase taskId })
  | .selectCosts taskId =>
      match choice.fault with
      | some error => (.error error, state)
      | none => (.ok (state.rows.get? taskId), state)
  | .updateCosts taskId total =>
      match choice.fault with
      | some error => (.error error, state)
      | none => (.ok (), state.update taskId total)

def calls : Signature where
  Request := Request
  Answer := Request.Answer

def environment : Environment calls where
  State := State
  Choice := Choice
  serve := serve

abbrev Program := Process calls String

def Request.issue (request : Request) : Program request.Answer := Process.call (S := calls) request

/-- A failure to write is only logged. -/
def write (taskId : String) (total : Usage) : Program Unit := do
  let _ ← (Request.updateCosts taskId total).issue

def recordCall (event : CostEvent) : Program Unit := do
  match ← (Request.recordCost event).issue with
  | none => return
  | some total => write event.taskId total

/-- A failure to read is the same as no row. -/
def loadCostFromDb (taskId : String) : Program (Option Usage) := do
  match ← (Request.selectCosts taskId).issue with
  | .error _ => return none
  | .ok row => return row

/-- Totals are put in memory only if there are any. -/
def restoreCostsFromDb (taskId : String) : Program Unit := do
  match ← (Request.has taskId).issue with
  | true => return
  | false =>
      match ← loadCostFromDb taskId with
      | none => return
      | some dbCost => if dbCost = 0 then return else (Request.set taskId dbCost).issue

end CostTracker

end MultiAgents
