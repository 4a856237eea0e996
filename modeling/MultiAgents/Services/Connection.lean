import Mathlib.Algebra.Order.Field.Rat
import MultiAgents.Effects.Machine

/-!
# The connection to the OpenCode server

`connectWithRetry` goes on in the background: it is suspended while it waits for
the health check, for the authentication of the providers or for its next try.
-/

namespace MultiAgents.Connection

open Effects

structure RetryOptions where
  maxRetries : Nat := 30
  initialDelay : ℚ := 1000
  maxDelay : ℚ := 10000

/-- Where a call of `connectWithRetry` is suspended. -/
inductive Stage where
  | health
  | authentication
  | sleep
  | finished
  deriving DecidableEq

/-- A retry loop, with the number of times it has called `connect` and its waits so far. -/
structure RetryLoop where
  options : RetryOptions
  attempt : Nat := 0
  delay : ℚ
  stage : Stage := .health
  connects : Nat := 0
  delays : List ℚ := []

def RetryLoop.active (loop : RetryLoop) : Bool := loop.stage ≠ .finished

structure OpenCodeClient where
  /-- Whether there is a client of the server's interface. -/
  client : Bool := false
  connected : Bool := false
  reconnecting : Bool := false
  loops : List RetryLoop := []

namespace OpenCodeClient

variable (service : OpenCodeClient) (place : Nat) (loop : RetryLoop)

def finish : OpenCodeClient :=
  { service with
    reconnecting := false
    loops := service.loops.set place { loop with stage := .finished } }

/-- The head of the loop.  Not being connected, `connect` goes as far as the health check. -/
def attemptNext : OpenCodeClient :=
  if loop.attempt < loop.options.maxRetries ∧ service.connected = false then
    { service with
      client := true
      loops := service.loops.set place
        { loop with stage := .health, connects := loop.connects + 1 } }
  else service.finish place loop

def connectFailed : OpenCodeClient :=
  let loop := { loop with attempt := loop.attempt + 1 }
  if loop.attempt < loop.options.maxRetries then
    { service with
      loops := service.loops.set place
        { loop with stage := .sleep, delays := loop.delays ++ [loop.delay] } }
  else service.attemptNext place loop

def connectWithRetry (options : RetryOptions) : OpenCodeClient :=
  if service.connected || service.reconnecting then service
  else
    let loop : RetryLoop := { options, delay := options.initialDelay }
    attemptNext { service with reconnecting := true, loops := service.loops ++ [loop] }
      service.loops.length loop

/-- A suspended loop goes on; `healthy` is the answer to a health check.  Authentication never
fails, but needs the client, which may be gone by then. -/
def resume (healthy : Bool) : OpenCodeClient :=
  match service.loops[place]? with
  | none => service
  | some loop =>
      match loop.stage with
      | .health =>
          if healthy then
            let service := { service with connected := true }
            if service.client then
              { service with
                loops := service.loops.set place { loop with stage := .authentication } }
            else service.connectFailed place loop
          else service.connectFailed place loop
      | .authentication => service.finish place loop
      | .sleep =>
          service.attemptNext place
            { loop with delay := min (loop.delay * (3 / 2)) loop.options.maxDelay }
      | .finished => service

/-- What happens to the client: calls of `connectWithRetry`, their resumptions, and what calls of
`connect` and `disconnect` from elsewhere do to the flags. -/
inductive Event where
  | connectWithRetry (options : RetryOptions)
  | resume (place : Nat) (healthy : Bool)
  | connecting
  | connected
  | disconnect

def step (service : OpenCodeClient) : Event → OpenCodeClient
  | .connectWithRetry options => service.connectWithRetry options
  | .resume place healthy => service.resume place healthy
  | .connecting => { service with client := true }
  | .connected => { service with connected := true }
  | .disconnect => { service with client := false, connected := false }

abbrev run : List Event → OpenCodeClient := Machine.run step {}

end OpenCodeClient

end MultiAgents.Connection
