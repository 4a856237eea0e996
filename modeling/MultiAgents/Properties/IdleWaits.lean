import MultiAgents.Properties.EventFrame
import MultiAgents.Services.BridgeWaits

/-!
# What a wait for a session returns

The events of a session are collected from its registration on and are not cleared
when it becomes idle, so a wait returns all of them.  Nobody but the waits knows
that their listeners are removed with the session, so a wait can be left behind
that only its timer ends.
-/

namespace MultiAgents.EventBridge

open Containers Effects

variable {runtime : Runtime} {bridge : EventBridge} {sessionId : String} {actions : List Action}

/-- Listeners are taken away only from waits that are settled. -/
def Spares (bridge : EventBridge) (action : Action) : Prop :=
  ∀ wait ∈ bridge.waits, bridge.Silences wait.sessionId action → wait.outcome.isSome = true

instance (bridge : EventBridge) (sessionId : String) :
    (action : Action) → Decidable (bridge.Silences sessionId action)
  | .unregisterSession other => inferInstanceAs (Decidable (other = sessionId ∧ _ = true))
  | .unregisterTaskSessions taskId =>
      inferInstanceAs (Decidable (sessionId ∈ bridge.subscriptions.sessionsOf taskId))
  | .registerSession _ _ _ _ | .handleEvent _ _ _ | .waitForSessionIdle _ _ | .expire _
  | .clearSessionEvents _ => inferInstanceAs (Decidable False)

instance (bridge : EventBridge) (action : Action) : Decidable (bridge.Spares action) :=
  inferInstanceAs (Decidable (∀ wait ∈ bridge.waits,
    bridge.Silences wait.sessionId action → wait.outcome.isSome = true))

/-- Every wait that is not settled has its listeners. -/
def Attentive (bridge : EventBridge) : Prop :=
  ∀ wait ∈ bridge.waits, wait.outcome = none → wait.listening = true

theorem Attentive.step (attentive : bridge.Attentive) {action : Action}
    (spares : bridge.Spares action) : (bridge.step runtime action).Attentive := by
  intro wait membership unsettled
  obtain ⟨index, found⟩ := List.mem_iff_getElem?.mp membership
  rcases step_waits found with ⟨before, held, change⟩ | ⟨_, _, _, _, rfl⟩
  · have listed := List.mem_of_getElem? held
    cases change with
    | same _ => exact attentive wait listed unsettled
    | silenced silences =>
        have settled := spares before listed silences
        rw [show before.outcome = none from unsettled] at settled
        cases settled
    | expired message _ => cases unsettled
    | idle event _ _ _ => cases unsettled
    | error event message _ _ _ => cases unsettled
  · rfl

/-- As long as sessions are unregistered only when no wait for them is open, every open wait has
its listeners. -/
theorem open_waits_listen (runtime : Runtime)
    (database : Relational.Database TrainingSchema.Cell)
    (choices : Nat → ExecutionTracker.Choice) (actions : List Action)
    (spares : Machine.Guarded (step runtime) Spares actions (initial database choices)) :
    (Machine.run (step runtime) (initial database choices) actions).Attentive :=
  Machine.run_invariant (fun _ _ spares attentive => attentive.step spares) spares
    fun _ membership => absurd membership List.not_mem_nil

section Samples

def beginSession (sessionId : String) : Action :=
  .registerSession "t1" sessionId "/w" { prompt := "Session " ++ sessionId }

def settledFirst : List Action :=
  [beginSession "s1", .waitForSessionIdle "s1" 100, .handleEvent {} (idleEvent "s1") "/w",
    .unregisterSession "s1", beginSession "s2", .waitForSessionIdle "s2" 100]

theorem settled_first_listens :
    (Machine.run (step sampleRuntime) (initial .empty fun _ => {}) settledFirst).Attentive :=
  open_waits_listen sampleRuntime .empty (fun _ => {}) settledFirst (by decide +kernel)

/-- A session is unregistered while it is waited for, as a cancellation does.  The wait has no
listeners any more and does not hear of the end of the session. -/
theorem unregistered_wait_is_deaf :
    let bridge := Machine.run (step sampleRuntime) (initial .empty fun _ => {})
      [beginSession "s1", .waitForSessionIdle "s1" 100, .unregisterTaskSessions "t1",
        .handleEvent {} (idleEvent "s1") "/w"]
    bridge.waits.map (fun wait => (wait.listening, wait.outcome.isSome)) = [(false, false)] ∧
      ¬ bridge.Attentive := by
  have deaf : (Machine.run (step sampleRuntime) (initial .empty fun _ => {})
      [beginSession "s1", .waitForSessionIdle "s1" 100, .unregisterTaskSessions "t1",
        .handleEvent {} (idleEvent "s1") "/w"]).waits.map
          (fun wait => (wait.listening, wait.outcome.isSome)) = [(false, false)] := by
    decide +kernel
  refine ⟨deaf, fun attentive => ?_⟩
  obtain ⟨wait, membership, same⟩ := List.mem_map.mp (deaf ▸ List.mem_singleton.mpr rfl)
  obtain ⟨deafened, unsettled⟩ := Prod.mk.inj same
  have listening := attentive wait membership (by simpa using unsettled)
  rw [deafened] at listening
  cases listening

end Samples

def Action.clears? : Action → Option String
  | .clearSessionEvents sessionId => some sessionId
  | _ => none

/-- What was collected for the session is not dropped. -/
def Retains (sessionId : String) (bridge : EventBridge) (action : Action) : Prop :=
  ¬ bridge.Silences sessionId action ∧ action.clears? ≠ some sessionId

instance (sessionId : String) (bridge : EventBridge) (action : Action) :
    Decidable (Retains sessionId bridge action) :=
  inferInstanceAs (Decidable (_ ∧ _))

def received (runtime : Runtime) (sessionId : String) : EventBridge → List Action →
    List BridgeEvent
  | _, [] => []
  | bridge, action :: rest =>
      (bridge.received? sessionId action).toList ++
        received runtime sessionId (bridge.step runtime action) rest

theorem unregisterSession_collected {other : String} (different : other ≠ sessionId) :
    (bridge.unregisterSession runtime other).collected sessionId = bridge.collected sessionId := by
  unfold unregisterSession
  split
  · rfl
  · change ((bridge.collectedEvents.erase other).get? sessionId).getD [] = _
    rw [OrderedMap.get?_erase, if_neg different.symm]
    rfl

theorem unregisterAll_collected {sessions : List String} (absent : sessionId ∉ sessions) :
    (sessions.foldl (unregisterSession runtime) bridge).collected sessionId =
      bridge.collected sessionId := by
  induction sessions generalizing bridge with
  | nil => rfl
  | cons other rest ih =>
      rw [List.mem_cons, not_or] at absent
      rw [List.foldl_cons, ih absent.2,
        unregisterSession_collected (Ne.symm absent.1)]

theorem step_collected {action : Action} (retains : Retains sessionId bridge action) :
    (bridge.step runtime action).collected sessionId =
      bridge.collected sessionId ++ (bridge.received? sessionId action).toList := by
  cases action with
  | registerSession taskId other directory executionMeta =>
      change (bridge.registerSession runtime taskId other directory executionMeta).collected _ = _
      unfold registerSession
      split <;> exact (List.append_nil _).symm
  | unregisterSession other =>
      refine Eq.trans ?_ (List.append_nil _).symm
      rcases unregisterSession_waits runtime bridge other with same | ⟨present, _⟩
      · exact congrArg (collected · sessionId) same
      · exact unregisterSession_collected fun same => retains.1 ⟨same, present⟩
  | unregisterTaskSessions taskId =>
      exact (unregisterAll_collected retains.1).trans (List.append_nil _).symm
  | handleEvent moment event directory =>
      change (bridge.handleEvent runtime moment event directory).2.collected sessionId =
        _ ++ (if bridge.Receives sessionId event directory then some event else none).toList
      rcases bridge.handleEvent_cases runtime moment event directory with ⟨dropped, same⟩ |
        ⟨receiver, receives, _, collected, _⟩
      · rw [same, if_neg (bridge.not_receives sessionId dropped)]
        exact (List.append_nil _).symm
      · have own : bridge.Receives sessionId event directory ↔ sessionId = receiver := by
          unfold Receives at receives ⊢
          rw [receives, Option.some.injEq, eq_comm]
        rw [collected]
        simp only [own]
        split <;> rfl
  | waitForSessionIdle other timeout => exact (List.append_nil _).symm
  | expire index => exact (List.append_nil _).symm
  | clearSessionEvents other =>
      change ((bridge.collectedEvents.erase other).get? sessionId).getD [] = _
      have different : sessionId ≠ other := fun same => retains.2 (congrArg some same.symm)
      rw [OrderedMap.get?_erase, if_neg different]
      exact (List.append_nil _).symm

theorem run_collected
    (retains : Machine.Guarded (step runtime) (Retains sessionId) actions bridge) :
    (Machine.run (step runtime) bridge actions).collected sessionId =
      bridge.collected sessionId ++ received runtime sessionId bridge actions := by
  induction actions generalizing bridge with
  | nil => exact (List.append_nil _).symm
  | cons action rest ih =>
      rw [Machine.run_cons, ih retains.2, step_collected retains.1,
        List.append_assoc]
      rfl

/-- No action wakes those who wait for the session. -/
def Undisturbed (runtime : Runtime) (sessionId : String) (bridge : EventBridge)
    (actions : List Action) : Prop :=
  Machine.Guarded (step runtime) (fun bridge action => ¬ bridge.Ends sessionId action) actions
    bridge

/-- A wait that was begun after some actions and has seen the rest of them: it still listens only
if nothing woke it, and what it has returned was collected when the first event that could wake it
was an idle event. -/
structure Begun (runtime : Runtime) (start : EventBridge) (before rest : List Action)
    (wait : Wait) : Prop where
  undisturbed : wait.listening = true → Undisturbed runtime wait.sessionId
    (Machine.run (step runtime) start before) rest
  returned : ∀ events, wait.outcome = some (.ok events) →
    ∃ between idle after, rest = between ++ idle :: after ∧
      Undisturbed runtime wait.sessionId (Machine.run (step runtime) start before) between ∧
      (Machine.run (step runtime) start (before ++ between)).Wakes wait.sessionId "session.idle"
        idle ∧
      events = (Machine.run (step runtime) start
        (before ++ between ++ [idle])).collected wait.sessionId

section Begun

variable {start : EventBridge} {before rest : List Action} {wait changed : Wait}
  {action : Action} {events : List BridgeEvent}

theorem Begun.still (begun : Begun runtime start before rest wait) (action : Action)
    (returned : wait.outcome = some (.ok events)) :
    ∃ between idle after, rest ++ [action] = between ++ idle :: after ∧
      Undisturbed runtime wait.sessionId (Machine.run (step runtime) start before) between ∧
      (Machine.run (step runtime) start (before ++ between)).Wakes wait.sessionId "session.idle"
        idle ∧
      events = (Machine.run (step runtime) start
        (before ++ between ++ [idle])).collected wait.sessionId := by
  obtain ⟨between, idle, after, rfl, undisturbed, wakes, same⟩ := begun.returned events returned
  refine ⟨between, idle, after ++ [action], ?_, undisturbed, wakes, same⟩
  rw [List.append_assoc, List.cons_append]

theorem Begun.change (begun : Begun runtime start before rest wait)
    (change : Change (Machine.run (step runtime) start (before ++ rest)) action wait changed) :
    Begun runtime start before (rest ++ [action]) changed := by
  rw [Machine.run_append] at change
  cases change with
  | same quiet =>
      refine ⟨fun listening => ?_, fun events returned => begun.still action returned⟩
      exact Machine.guarded_append.mpr ⟨begun.undisturbed listening,
        Machine.guarded_singleton.mpr (quiet listening)⟩
  | silenced _ => exact ⟨nofun, fun events returned => begun.still action returned⟩
  | expired message _ => exact ⟨nofun, nofun⟩
  | error event message _ _ _ => exact ⟨nofun, nofun⟩
  | idle event listening received named =>
      refine ⟨nofun, fun events returned => ?_⟩
      obtain rfl := Except.ok.inj (Option.some.inj returned)
      refine ⟨rest, action, [], rfl, begun.undisturbed listening, ?_, ?_⟩
      · rw [Machine.run_append]
        exact ⟨event, received, named⟩
      · have retains : Retains wait.sessionId
            (Machine.run (step runtime) (Machine.run (step runtime) start before) rest) action := by
          cases action with
          | handleEvent moment event directory => exact ⟨not_false, nofun⟩
          | _ => cases received
        rw [Machine.run_concat, Machine.run_append, step_collected retains, received]
        rfl

end Begun

theorem run_begun {start : EventBridge} {index : Nat} {wait : Wait}
    (found : (Machine.run (step runtime) start actions).waits[index]? = some wait)
    (later : start.waits.length ≤ index) :
    ∃ before timeout rest,
      actions = before ++ .waitForSessionIdle wait.sessionId timeout :: rest ∧
      (Machine.run (step runtime) start before).waits.length = index ∧
      Begun runtime start (before ++ [.waitForSessionIdle wait.sessionId timeout]) rest wait := by
  induction actions using List.reverseRecOn generalizing wait with
  | nil =>
      have inside := (List.getElem?_eq_some_iff.mp found).1
      exact absurd (lt_of_lt_of_le inside later) (lt_irrefl _)
  | append_singleton actions action ih =>
      rw [Machine.run_concat] at found
      rcases step_waits found with ⟨old, held, change⟩ | ⟨sessionId, timeout, rfl, rfl, rfl⟩
      · obtain ⟨before, timeout, rest, rfl, number, begun⟩ := ih held
        have sameSession : wait.sessionId = old.sessionId := by cases change <;> rfl
        rw [sameSession]
        refine ⟨before, timeout, rest ++ [action], ?_, number, begun.change ?_⟩
        · rw [List.append_assoc, List.cons_append]
        · rw [List.append_assoc]
          exact change
      · exact ⟨actions, timeout, [], rfl, rfl, fun _ => trivial, nofun⟩

/-- A wait returns the events received for its session since it was registered, up to and with
the idle event that ended the wait, the first event that could. -/
theorem wait_returns_received (runtime : Runtime) (bridge : EventBridge) (sessionId : String)
    (actions : List Action) (fresh : bridge.collected sessionId = [])
    (retains : Machine.Guarded (step runtime) (Retains sessionId) actions bridge)
    (index : Nat) (later : bridge.waits.length ≤ index) (wait : Wait)
    (found : (Machine.run (step runtime) bridge actions).waits[index]? = some wait)
    (own : wait.sessionId = sessionId) (events : List BridgeEvent)
    (returned : wait.outcome = some (.ok events)) :
    ∃ before timeout between idle after,
      actions = before ++ .waitForSessionIdle sessionId timeout :: (between ++ idle :: after) ∧
      (Machine.run (step runtime) bridge before).waits.length = index ∧
      Undisturbed runtime sessionId
        (Machine.run (step runtime) bridge (before ++ [.waitForSessionIdle sessionId timeout]))
        between ∧
      (Machine.run (step runtime) bridge
        (before ++ [.waitForSessionIdle sessionId timeout] ++ between)).Wakes sessionId
          "session.idle" idle ∧
      events = received runtime sessionId bridge
        (before ++ [.waitForSessionIdle sessionId timeout] ++ between ++ [idle]) := by
  subst own
  obtain ⟨before, timeout, rest, split, number, begun⟩ := run_begun found later
  obtain ⟨between, idle, after, rfl, undisturbed, wakes, collected⟩ :=
    begun.returned events returned
  refine ⟨before, timeout, between, idle, after, split, number, undisturbed, wakes, ?_⟩
  have arranged : actions = (before ++ [.waitForSessionIdle wait.sessionId timeout] ++ between ++
      [idle]) ++ after := by
    rw [split]
    simp
  rw [arranged, Machine.guarded_append] at retains
  rw [collected, run_collected retains.1, fresh, List.nil_append]

section Samples

def textEvent (sessionId text : String) : BridgeEvent :=
  { type := "message.delta"
    properties := some (.obj [("sessionID", .str sessionId), ("content", .str text)]) }

def twoWaits : List Action :=
  [beginSession "s1", .waitForSessionIdle "s1" 100, .handleEvent {} (textEvent "s1" "first") "/w",
    .handleEvent {} (idleEvent "s1") "/w", .waitForSessionIdle "s1" 100,
    .handleEvent {} (textEvent "s1" "second") "/w", .handleEvent {} (idleEvent "s1") "/w"]

/-- The second of the waits also returns what the first one has returned, while it is only the
second text and idle event that came after the first idle event. -/
theorem second_wait_returns_all :
    let bridge := Machine.run (step sampleRuntime) (initial .empty fun _ => {}) twoWaits
    (bridge.waits[1]?.bind Wait.outcome).bind Except.toOption =
      some [textEvent "s1" "first", idleEvent "s1", textEvent "s1" "second", idleEvent "s1"] ∧
    received sampleRuntime "s1"
      (Machine.run (step sampleRuntime) (initial .empty fun _ => {}) (twoWaits.take 4))
      (twoWaits.drop 4) = [textEvent "s1" "second", idleEvent "s1"] := by
  decide +kernel

/-- It returns what has been received since the session was registered. -/
theorem second_wait_returns_received :
    ∃ before timeout between idle after,
      twoWaits = before ++ .waitForSessionIdle "s1" timeout :: (between ++ idle :: after) ∧
      [textEvent "s1" "first", idleEvent "s1", textEvent "s1" "second", idleEvent "s1"] =
        received sampleRuntime "s1" (initial .empty fun _ => {})
          (before ++ [.waitForSessionIdle "s1" timeout] ++ between ++ [idle]) := by
  have settled : (Machine.run (step sampleRuntime) (initial .empty fun _ => {})
      twoWaits).waits[1]?.map (fun wait => (wait.sessionId, wait.outcome.bind Except.toOption)) =
        some ("s1", some [textEvent "s1" "first", idleEvent "s1", textEvent "s1" "second",
          idleEvent "s1"]) := by
    decide +kernel
  obtain ⟨wait, found, same⟩ := Option.map_eq_some_iff.mp settled
  obtain ⟨own, outcome⟩ := Prod.mk.inj same
  obtain ⟨result, returned, listed⟩ := Option.bind_eq_some_iff.mp outcome
  obtain ⟨events, rfl⟩ : ∃ events, result = .ok events := by
    cases result with
    | ok events => exact ⟨events, rfl⟩
    | error message => cases listed
  obtain rfl := Option.some.inj listed
  obtain ⟨before, timeout, between, idle, after, split, _, _, _, same⟩ :=
    wait_returns_received sampleRuntime (initial .empty fun _ => {}) "s1" twoWaits rfl
      (by decide +kernel) 1 (Nat.zero_le 1) wait found own _ returned
  exact ⟨before, timeout, between, idle, after, split, same⟩

end Samples

end MultiAgents.EventBridge
