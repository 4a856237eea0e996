import MultiAgents.Containers.Tickets
import MultiAgents.Services.BridgeEvents

/-!
# Tool calls of a turn

The calls of the tracker that start and complete tool calls while a turn is open.
They are not awaited; a step is what one of them does from the answer of a query up
to the next query.  A tool call of the turn is known by its position among them.
-/

namespace MultiAgents.ExecutionTracker

open Containers Text

/-- A call that waits for a query, with what it has read. -/
inductive ToolWaiting where
  | order (toolUseId : Json) (toolInput : Value)
  | insert (toolUseId : Json) (callOrder : Nat)
  | find (toolUseId : Json) (toolCall : Nat)
  | count (currentCount : Nat)
  | complete (toolUseId : Json) (toolOutput : Value)

structure OpenTurn where
  calls : Tickets ToolWaiting := .empty
  callOrders : List Nat := []
  -- Those of earlier turns are in the map as well.
  pendingToolCalls : OrderedMap Json Nat := .empty
  toolCallsCount : Nat := 0

namespace OpenTurn

variable (turn : OpenTurn)

def getNextCallOrder : Nat := turn.callOrders.max?.getD 0 + 1

def startToolCall (toolUseId : Json) (toolInput : Value) : OpenTurn :=
  { turn with calls := turn.calls.add (.order toolUseId toolInput) }

def completeToolCall (toolUseId : Json) (toolOutput : Value) : OpenTurn :=
  match turn.pendingToolCalls.get? toolUseId with
  | none => turn
  | some _ => { turn with calls := turn.calls.add (.complete toolUseId toolOutput) }

def next (call : Nat) (waiting : ToolWaiting) : OpenTurn :=
  { turn with calls := turn.calls.change call waiting }

def finish (call : Nat) : OpenTurn := { turn with calls := turn.calls.remove call }

/-- An input that is undefined has no text, and an output that is no text has no part. -/
def resume (call : Nat) : ToolWaiting → OpenTurn
  | .order _ none => turn.finish call
  | .order toolUseId (some _) => turn.next call (.insert toolUseId turn.getNextCallOrder)
  | .insert toolUseId callOrder =>
      { turn with callOrders := turn.callOrders ++ [callOrder] }.next call
        (.find toolUseId turn.callOrders.length)
  | .find toolUseId toolCall =>
      let pendingToolCalls := turn.pendingToolCalls.set toolUseId toolCall
      { turn with pendingToolCalls }.next call (.count pendingToolCalls.entries.length)
  | .count currentCount => { turn with toolCallsCount := currentCount }.finish call
  | .complete toolUseId toolOutput =>
      match toolOutput.mapM textOf with
      | .error _ => turn.finish call
      | .ok _ =>
          { turn with pendingToolCalls := turn.pendingToolCalls.erase toolUseId }.finish call

inductive Action where
  | startToolCall (toolUseId : Json) (toolInput : Value)
  | completeToolCall (toolUseId : Json) (toolOutput : Value)
  | answer (call : Nat)
  | fault (call : Nat)

/-- A call whose query fails is over. -/
def step (turn : OpenTurn) : Action → OpenTurn
  | .startToolCall toolUseId toolInput => turn.startToolCall toolUseId toolInput
  | .completeToolCall toolUseId toolOutput => turn.completeToolCall toolUseId toolOutput
  | .answer call =>
      match turn.calls.get? call with
      | none => turn
      | some waiting => turn.resume call waiting
  | .fault call => turn.finish call

end OpenTurn

end MultiAgents.ExecutionTracker
