import MultiAgents.Services.ActivityArrays
import MultiAgents.Services.CostTracker
import MultiAgents.Services.EventSubscriptions
import MultiAgents.Services.TrackerOwnership

/-!
# Handling of events

An event is collected for its session, wakes those who wait for the session, and
goes on to the frontend, to the totals of its task, to the activity log and to the
tracker.  An error on the way ends the handling; what was done before stays done.
-/

namespace MultiAgents

open Containers Text

/-- A call of `waitForSessionIdle`.  Its three listeners come and go together; they may be gone
although it is not settled, and its timer runs until it is. -/
structure Wait where
  sessionId : String
  timeout : Nat
  listening : Bool := true
  outcome : Option (Except String (List BridgeEvent)) := none

namespace Wait

/-- The timer fires unless the wait is settled. -/
def expire (wait : Wait) : Wait :=
  if wait.outcome.isSome then wait
  else
    { wait with
      listening := false
      outcome := some (.error
        s!"Session {wait.sessionId} timed out after {wait.timeout}ms") }

/-- The listeners for a session are removed. -/
def silence (sessionId : String) (wait : Wait) : Wait :=
  if wait.sessionId = sessionId then { wait with listening := false } else wait

end Wait

/-- An event emitted to listeners; `sessionId` is an argument of the general ones. -/
structure Emission where
  name : String
  sessionId : Option String := none
  event : BridgeEvent
  deriving DecidableEq

/-- What is sent to the clients of a task. -/
inductive Payload where
  | json (data : Json)
  | costs (total : Usage) (sessionsCount : Nat) (lastUpdated : String)

structure SocketMessage where
  taskId : String
  event : String
  payload : Payload

structure EventBridge where
  subscriptions : Subscriptions := {}
  collectedEvents : OrderedMap String (List BridgeEvent) := .empty
  waits : List Wait := []
  emitted : List Emission := []
  logs : ActivityLogs
  separate : logs.Separate
  taskCosts : TaskCosts := .empty
  -- Updates of the rows of tasks, of their totals and of their logs.
  costWrites : List (String × Usage) := []
  persisted : List (String × LogEntry) := []
  socket : List SocketMessage := []
  tracker : ExecutionTracker.TrackerPool
  separated : ExecutionTracker.Separated tracker

/-- What an event is handled with: whether it is sampled, identifiers and times. -/
structure Moment where
  sampled : Bool := false
  activityId : String := ""
  timestamp : String := ""
  lastUpdated : String := ""
  now : Int := 0

namespace EventBridge

/-- A bridge that has done nothing yet, over a database and what its queries come across. -/
def initial (database : Relational.Database TrainingSchema.Cell)
    (choices : Nat → ExecutionTracker.Choice) : EventBridge where
  logs := {}
  separate := .initial .empty
  tracker := { world := .start { database } choices }
  separated := .initial _ rfl rfl

section Effects

variable (runtime : Runtime) (bridge : EventBridge)

def collect (sessionId : String) (event : BridgeEvent) : EventBridge :=
  let events := (bridge.collectedEvents.get? sessionId).getD []
  { bridge with collectedEvents := bridge.collectedEvents.set sessionId (events ++ [event]) }

def sessionError (event : BridgeEvent) : String :=
  let described := match event.properties.member? "error" with
    | some (.str text) => text
    | some error =>
        if isObject error then
          ((either (error.property "message") (error.property "error")).orElse
            (.str (runtime.stringify error))).display
        else "Unknown session error"
    | none => "Unknown session error"
  "Session error: " ++ described

def hear (name : String) (event : BridgeEvent) (wait : Wait) : Wait :=
  if wait.listening ∧ name = "session:idle:" ++ wait.sessionId then
    { wait with
      listening := false
      outcome := some (.ok ((bridge.collectedEvents.get? wait.sessionId).getD [])) }
  else if wait.listening ∧ name = "session:error:" ++ wait.sessionId then
    { wait with listening := false, outcome := some (.error (sessionError runtime event)) }
  else wait

def emit (name : String) (sessionId : Option String) (event : BridgeEvent) : EventBridge :=
  { bridge with
    waits := bridge.waits.map (bridge.hear runtime name event)
    emitted := bridge.emitted ++ [{ name, sessionId, event }] }

def emitAll (sessionId : String) (event : BridgeEvent) : EventBridge :=
  let raw := (bridge.emit runtime "event" sessionId event).emit runtime ("event:" ++ sessionId) none
    event
  if event.type = "session.idle" then
    (raw.emit runtime "session:idle" sessionId event).emit runtime ("session:idle:" ++ sessionId)
      none event
  else if event.type = "session.error" then
    (raw.emit runtime "session:error" sessionId event).emit runtime ("session:error:" ++ sessionId)
      none event
  else raw

/-- Send to the clients of a task.  Important messages are persisted; totals are not. -/
def toTask (taskId event : String) (payload : Payload) : EventBridge :=
  let entry := match payload with
    | .json data => persistedEntry runtime event data
    | .costs _ _ _ => none
  { bridge with
    socket := bridge.socket ++ [{ taskId, event, payload }]
    persisted := bridge.persisted ++ entry.toList.map fun entry => (taskId, entry) }

/-- Totals are sent whenever they change, and persisted when another cent is reached. -/
def recordCost (moment : Moment) (event : CostEvent) : EventBridge :=
  if event.usage = 0 then bridge
  else
    let (persisted, taskCosts) := CostTracker.recordCost event bridge.taskCosts
    let summary := (taskCosts.get? event.taskId).getD {}
    let sent := { bridge with taskCosts }.toTask runtime event.taskId "cost:update"
      (.costs summary.total summary.sessions.entries.length moment.lastUpdated)
    { sent with
      costWrites := bridge.costWrites ++ persisted.toList.map fun total => (event.taskId, total) }

def queueActivityLog (taskId : String) (entry : LogEntry) : EventBridge :=
  { bridge with
    logs := bridge.logs.queueActivityLog taskId entry
    separate := bridge.separate.queueActivityLog taskId entry }

def track (taskId : String) (call : ExecutionTracker.Call) : EventBridge :=
  { bridge with
    tracker := bridge.tracker.move (ExecutionTracker.actorProgram runtime) (.spawn (taskId, call))
    separated := bridge.separated.move _ }

end Effects

def number? : Value → Option ℚ
  | some (.num mantissa exponent) => some (mantissa * 10 ^ exponent)
  | _ => none

def costEvent (taskId sessionId : String) (data : Json) : CostEvent :=
  let tokens := data.property "tokens"
  { taskId
    sessionId
    costData :=
      { cost := number? (data.property "cost")
        tokens := some (number? (tokens.member? "input"), number? (tokens.member? "output")) } }

def trackerCall (moment : Moment) (event : FrontendEvent) : Option ExecutionTracker.Call :=
  let property := event.data.property
  if event.type = "tool_call" then
    let toolName := (property "tool").orElse (.str "unknown")
    let toolState := (either (property "state") (property "status")).orElse (.str "running")
    let toolUseId := (either (property "tool_use_id") (property "id")).orElse
      (.str ("tool-" ++ toString moment.now))
    if toolState.isText "running" || toolState.isText "started" then
      some (.startToolCall toolUseId toolName (property "input"))
    else if toolState.isText "completed" || toolState.isText "success" ||
        toolState.isText "error" then
      some (.completeToolCall toolUseId (either (property "output") (property "result"))
        (!toolState.isText "error")
        (if toolState.isText "error" then (property "error").orElse (.str "Unknown error")
          else none))
    else none
  else if event.type = "agent_output" ∨ event.type = "agent_message" then
    if (property "streaming").truthy then none else some (.recordTurn (property "content"))
  else none

section Events

variable (runtime : Runtime) (moment : Moment) (bridge : EventBridge)

/-- The three messages about an event. -/
def notify (taskId : String) (event : FrontendEvent) : EventBridge :=
  let activity := Json.spread (.record [("id", .text moment.activityId), ("taskId", .text taskId),
    ("type", .text event.type), ("timestamp", .text moment.timestamp)]) event.data
  let notification := Json.record [("type", .text event.type),
    ("notification", some (.record [("type", .text (mapToNotificationType event.type)),
      ("data", event.data)]))]
  ((bridge.toTask runtime taskId event.type (.json event.data)).toTask runtime taskId
    "agent:activity" (.json activity)).toTask runtime taskId "notification" (.json notification)

def saveForUIRecovery (taskId : String) (event : FrontendEvent) :
    Except String Unit × EventBridge :=
  match event.logEntry runtime with
  | .error error => (.error error, bridge)
  | .ok none => (.ok (), bridge)
  | .ok (some entry) =>
      let queued := bridge.queueActivityLog taskId entry
      (.ok (), match trackerCall moment event with
        | some call => queued.track runtime taskId call
        | none => queued)

def preview (event : FrontendEvent) : Except String String := do
  let content := (either (event.data.property "content") (event.data.property "tool")).orElse
    (.str "")
  return clip 80 (← textOf content)

def forward (taskId sessionId : String) (event : FrontendEvent) :
    Except String Unit × EventBridge :=
  let costed := if event.type = "step_finish" then
    bridge.recordCost runtime moment (costEvent taskId sessionId event.data) else bridge
  match if moment.sampled then preview event else .ok "" with
  | .error error => (.error error, costed)
  | .ok _ => (costed.notify runtime moment taskId event).saveForUIRecovery runtime moment taskId
      event

def process (taskId sessionId : String) (event : BridgeEvent) :
    Except String Unit × EventBridge :=
  let emitted := (bridge.collect sessionId event).emitAll runtime sessionId event
  match transformEvent runtime taskId event with
  | .error error => (.error error, emitted)
  | .ok none => (.ok (), emitted)
  | .ok (some frontendEvent) => emitted.forward runtime moment taskId sessionId frontendEvent

def addressee (event : BridgeEvent) (directory : String) : Option String :=
  match event.sessionId.filter Json.truthy with
  | some (.str sessionId) => some sessionId
  | some _ => none
  | none =>
      presentText ((bridge.subscriptions.activeSessions.entries.find? fun entry =>
        entry.2.directory == directory).map Prod.fst)

def registered (event : BridgeEvent) (directory : String) : Option (String × TaskSession) :=
  (bridge.addressee event directory).bind fun sessionId =>
    (bridge.subscriptions.activeSessions.get? sessionId).map fun session => (sessionId, session)

def handleEvent (event : BridgeEvent) (directory : String) : Except String Unit × EventBridge :=
  match bridge.registered event directory with
  | none => (.ok (), bridge)
  | some (sessionId, session) =>
      bridge.process runtime moment session.taskId sessionId event

end Events

section Sessions

variable (runtime : Runtime) (bridge : EventBridge)

/-- The number of the call is the length of the list before it. -/
def waitForSessionIdle (sessionId : String) (timeout : Nat) : EventBridge :=
  { bridge with waits := bridge.waits ++ [{ sessionId, timeout }] }

def expire (index : Nat) : EventBridge :=
  { bridge with waits := bridge.waits.modify index Wait.expire }

def registerSession (taskId sessionId directory : String)
    (executionMeta : ExecutionTracker.ExecutionMeta) : EventBridge :=
  if directory = "" then bridge
  else
    { bridge with
      subscriptions := bridge.subscriptions.registerSession taskId sessionId directory }.track
        runtime taskId (.startExecution executionMeta)

/-- What was collected is dropped and the listeners are removed. -/
def unregisterSession (sessionId : String) : EventBridge :=
  match bridge.subscriptions.activeSessions.get? sessionId with
  | none => bridge
  | some session =>
      { bridge with
        subscriptions := bridge.subscriptions.unregisterSession sessionId
        collectedEvents := bridge.collectedEvents.erase sessionId
        waits := bridge.waits.map (Wait.silence sessionId) }.track runtime session.taskId
          .completeExecution

def unregisterTaskSessions (taskId : String) : EventBridge :=
  (bridge.subscriptions.sessionsOf taskId).foldl (unregisterSession runtime) bridge

def clearSessionEvents (sessionId : String) : EventBridge :=
  { bridge with collectedEvents := bridge.collectedEvents.erase sessionId }

inductive Action where
  | registerSession (taskId sessionId directory : String)
    (executionMeta : ExecutionTracker.ExecutionMeta)
  | unregisterSession (sessionId : String)
  | unregisterTaskSessions (taskId : String)
  | handleEvent (moment : Moment) (event : BridgeEvent) (directory : String)
  | waitForSessionIdle (sessionId : String) (timeout : Nat)
  | expire (index : Nat)
  | clearSessionEvents (sessionId : String)

def step : Action → EventBridge
  | .registerSession taskId sessionId directory executionMeta =>
      bridge.registerSession runtime taskId sessionId directory executionMeta
  | .unregisterSession sessionId => bridge.unregisterSession runtime sessionId
  | .unregisterTaskSessions taskId => bridge.unregisterTaskSessions runtime taskId
  | .handleEvent moment event directory => (bridge.handleEvent runtime moment event directory).2
  | .waitForSessionIdle sessionId timeout => bridge.waitForSessionIdle sessionId timeout
  | .expire index => bridge.expire index
  | .clearSessionEvents sessionId => bridge.clearSessionEvents sessionId

end Sessions

end EventBridge

end MultiAgents
