import Mathlib.Data.List.Basic

/-!
# The event bridge

`OpenCodeEventBridge` receives the events of every subscribed directory, drops
those of sessions that are not registered and collects the others.  A wait on a
session ends with the first idle or error event handled for that session; the
events collected since the session was registered are what it returns.
-/

namespace MultiAgents

/-- The two spellings under which an object may carry a session identifier. -/
structure SessionRef where
  sessionID : Option String := none
  sessionId : Option String := none
  deriving DecidableEq

structure Part where
  type : String
  text : Option String := none
  ref : SessionRef := {}
  deriving DecidableEq

/-- An event of the stream; `error` is the text an error event describes itself with.  `content`
and `text` are properties, `own` is the content or else the text outside of the properties and
`data` the content of the data. -/
structure OpenCodeEvent where
  type : String
  ref : SessionRef := {}
  part : Option Part := none
  info : SessionRef := {}
  error : Option String := none
  content : Option String := none
  text : Option String := none
  own : Option String := none
  data : Option String := none
  deriving DecidableEq

namespace OpenCodeEvent

/-- The first identifier that is present and not empty, in the order in which it is looked up. -/
def sessionId? (event : OpenCodeEvent) : Option String :=
  let partRef := match event.part with
    | some part => part.ref
    | none => {}
  [event.ref.sessionID, event.ref.sessionId, partRef.sessionID, partRef.sessionId,
    event.info.sessionID, event.info.sessionId].reduceOption.find? fun id => id != ""

end OpenCodeEvent

structure TaskSession where
  taskId : String
  directory : String
  deriving DecidableEq

/-- `activeSessions` is in the order of registration. -/
structure Bridge where
  activeSessions : List (String × TaskSession) := []
  subscriptions : String → Nat := fun _ => 0
  collectedEvents : String → List OpenCodeEvent := fun _ => []

/-- What a wait on a session is told by an event of that session. -/
inductive Signal where
  | idle
  | error (message : String)

namespace Bridge

/-- A session whose events are delivered. -/
def Registered (bridge : Bridge) (sessionId : String) : Prop :=
  sessionId ∈ bridge.activeSessions.map Prod.fst

instance (bridge : Bridge) (sessionId : String) : Decidable (bridge.Registered sessionId) :=
  inferInstanceAs (Decidable (sessionId ∈ bridge.activeSessions.map Prod.fst))

/-- Insert or replace; a replaced entry keeps its place. -/
def activate (sessionId : String) (session : TaskSession) :
    List (String × TaskSession) → List (String × TaskSession)
  | [] => [(sessionId, session)]
  | (other, value) :: rest =>
      if other = sessionId then (sessionId, session) :: rest
      else (other, value) :: activate sessionId session rest

def registerSession (bridge : Bridge) (taskId sessionId directory : String) : Bridge :=
  if directory = "" then bridge
  else
    { bridge with
      activeSessions := activate sessionId ⟨taskId, directory⟩ bridge.activeSessions
      subscriptions :=
        Function.update bridge.subscriptions directory (bridge.subscriptions directory + 1) }

def unregisterSession (bridge : Bridge) (sessionId : String) : Bridge :=
  match bridge.activeSessions.find? fun entry => entry.1 == sessionId with
  | none => bridge
  | some (_, session) =>
      { activeSessions := bridge.activeSessions.filter fun entry => entry.1 != sessionId
        subscriptions :=
          Function.update bridge.subscriptions session.directory
            (bridge.subscriptions session.directory - 1)
        collectedEvents := Function.update bridge.collectedEvents sessionId [] }

def addressee (bridge : Bridge) (event : OpenCodeEvent) (directory : String) : Option String :=
  match event.sessionId? with
  | some id => some id
  | none => (bridge.activeSessions.find? fun entry => entry.2.directory == directory).map (·.1)

def signal (event : OpenCodeEvent) : Option Signal :=
  if event.type = "session.idle" then some .idle
  else if event.type = "session.error" then
    some (.error ("Session error: " ++ event.error.getD "Unknown session error"))
  else none

def handleEvent (bridge : Bridge) (event : OpenCodeEvent) (directory : String) :
    Option (String × Signal) × Bridge :=
  match bridge.addressee event directory with
  | none => (none, bridge)
  | some sessionId =>
      if bridge.Registered sessionId then
        ((signal event).map fun wakes => (sessionId, wakes),
          { bridge with
            collectedEvents := Function.update bridge.collectedEvents sessionId
              (bridge.collectedEvents sessionId ++ [event]) })
      else (none, bridge)

def deliver (bridge : Bridge) (directory : String) (event : OpenCodeEvent) :
    Option (String × Signal) × Bridge :=
  if bridge.subscriptions directory = 0 then (none, bridge)
  else bridge.handleEvent event directory

def deliverAll (bridge : Bridge) (arrivals : List (String × OpenCodeEvent)) : Bridge :=
  arrivals.foldl (fun bridge arrival => (bridge.deliver arrival.1 arrival.2).2) bridge

def waitForSessionIdle (bridge : Bridge) (sessionId : String) (timeout : Nat) :
    List (String × OpenCodeEvent) → Except String (List OpenCodeEvent) × Bridge
  | [] => (.error s!"Session {sessionId} timed out after {timeout}ms", bridge)
  | (directory, event) :: rest =>
      match bridge.deliver directory event with
      | (some (woken, .idle), after) =>
          if woken = sessionId then
            (.ok (after.collectedEvents sessionId), after.deliverAll rest)
          else after.waitForSessionIdle sessionId timeout rest
      | (some (woken, .error message), after) =>
          if woken = sessionId then (.error message, after.deliverAll rest)
          else after.waitForSessionIdle sessionId timeout rest
      | (none, after) => after.waitForSessionIdle sessionId timeout rest

end Bridge

end MultiAgents
