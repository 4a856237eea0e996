import MultiAgents.Containers.OrderedMap
import MultiAgents.Effects.Machine
import MultiAgents.System.Bridge

/-!
# Subscriptions to directories

Each directory with sessions has a subscription, an object that counts the
sessions and that an event loop, or a timer which is to start the loop anew, goes
on holding when the directory has none any more.  `objects` holds them all, and an
address is a position in it.
-/

namespace MultiAgents

open Containers

structure DirectorySubscription where
  directory : String
  running : Bool := false
  shouldStop : Bool := false
  sessionCount : Int := 1
  deriving DecidableEq

structure Subscriptions where
  activeSessions : OrderedMap String TaskSession := .empty
  directorySubscriptions : OrderedMap String Nat := .empty
  objects : List DirectorySubscription := []
  -- The subscriptions of the event loops that have not ended, and of the timers.
  loops : List Nat := []
  timers : List Nat := []

namespace Subscriptions

variable (bridge : Subscriptions)

def modify (sub : Nat) (change : DirectorySubscription → DirectorySubscription) : Subscriptions :=
  { bridge with objects := bridge.objects.modify sub change }

/-- Up to the first event of the stream. -/
def startDirectoryEventLoop (sub : Nat) : Subscriptions :=
  match bridge.objects[sub]? with
  | none => bridge
  | some object =>
      if object.running then bridge
      else
        { bridge.modify sub fun object => { object with running := true, shouldStop := false } with
          loops := bridge.loops ++ [sub] }

def registerSession (taskId sessionId directory : String) : Subscriptions :=
  if directory = "" then bridge
  else
    let registered :=
      { bridge with activeSessions := bridge.activeSessions.set sessionId ⟨taskId, directory⟩ }
    match bridge.directorySubscriptions.get? directory with
    | some existingSub =>
        registered.modify existingSub fun object =>
          { object with sessionCount := object.sessionCount + 1 }
    | none =>
        let sub := bridge.objects.length
        let subscribed :=
          { registered with
            objects := bridge.objects ++ [({ directory } : DirectorySubscription)]
            directorySubscriptions := bridge.directorySubscriptions.set directory sub }
        subscribed.startDirectoryEventLoop sub

/-- One session less; the last one stops the loop and ends the subscription. -/
def release (directory : String) (sub : Nat) (object : DirectorySubscription) : Subscriptions :=
  let counted :=
    bridge.modify sub fun object => { object with sessionCount := object.sessionCount - 1 }
  if object.sessionCount - 1 ≤ 0 then
    { counted.modify sub fun object => { object with shouldStop := true } with
      directorySubscriptions := bridge.directorySubscriptions.erase directory }
  else counted

def unregisterSession (sessionId : String) : Subscriptions :=
  match bridge.activeSessions.get? sessionId with
  | none => bridge
  | some session =>
      let removed := { bridge with activeSessions := bridge.activeSessions.erase sessionId }
      match bridge.directorySubscriptions.get? session.directory with
      | none => removed
      | some sub =>
          match bridge.objects[sub]? with
          | none => removed
          | some object => removed.release session.directory sub object

def sessionsOf (taskId : String) : List String :=
  (bridge.activeSessions.entries.filter fun entry => entry.2.taskId = taskId).map Prod.fst

def unregisterTaskSessions (taskId : String) : Subscriptions :=
  (bridge.sessionsOf taskId).foldl unregisterSession bridge

/-- A loop ends.  It is to start again if its directory still has sessions. -/
def endLoop (loop : Nat) : Subscriptions :=
  match bridge.loops[loop]? with
  | none => bridge
  | some sub =>
      let ended :=
        { bridge.modify sub fun object => { object with running := false } with
          loops := bridge.loops.eraseIdx loop }
      match bridge.objects[sub]? with
      | none => ended
      | some object =>
          if object.sessionCount > 0 && !object.shouldStop then
            { ended with timers := bridge.timers ++ [sub] }
          else ended

/-- Whether a loop hands the events of its stream on. -/
def delivers (sub : Nat) : Bool :=
  (bridge.objects[sub]?).any fun object => !object.shouldStop

inductive Action where
  | registerSession (taskId sessionId directory : String)
  | unregisterSession (sessionId : String)
  | unregisterTaskSessions (taskId : String)
  | event (loop : Nat)
  | endStream (loop : Nat)
  | reconnect (timer : Nat)

/-- A loop looks whether it is to stop when an event arrives; a timer starts the loop of its
subscription. -/
def step : Action → Subscriptions
  | .registerSession taskId sessionId directory =>
      bridge.registerSession taskId sessionId directory
  | .unregisterSession sessionId => bridge.unregisterSession sessionId
  | .unregisterTaskSessions taskId => bridge.unregisterTaskSessions taskId
  | .event loop =>
      if (bridge.loops[loop]?).any fun sub => !bridge.delivers sub then bridge.endLoop loop
      else bridge
  | .endStream loop => bridge.endLoop loop
  | .reconnect timer =>
      match bridge.timers[timer]? with
      | none => bridge
      | some sub =>
          { bridge with timers := bridge.timers.eraseIdx timer }.startDirectoryEventLoop sub

end Subscriptions

end MultiAgents
