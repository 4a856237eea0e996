import MultiAgents.Services.EventBridge

/-!
# Waits for sessions

A wait listens for the idle and the error event of its session.  What a step does to
one wait is said once: a wait stays as it is, loses its listeners, expires, or is
settled by an event of its session.
-/

namespace MultiAgents.EventBridge

open Containers

section Views

variable (bridge : EventBridge) (sessionId : String)

def collected : List BridgeEvent := (bridge.collectedEvents.get? sessionId).getD []

def Receives (event : BridgeEvent) (directory : String) : Prop :=
  (bridge.registered event directory).map Prod.fst = some sessionId

instance (event : BridgeEvent) (directory : String) :
    Decidable (bridge.Receives sessionId event directory) :=
  inferInstanceAs (Decidable (_ = _))

theorem not_receives {event : BridgeEvent} {directory : String}
    (dropped : bridge.registered event directory = none) :
    ¬bridge.Receives sessionId event directory := by
  unfold Receives
  rw [dropped]
  exact (Option.some_ne_none sessionId).symm

def received? : Action → Option BridgeEvent
  | .handleEvent _ event directory =>
      if bridge.Receives sessionId event directory then some event else none
  | _ => none

def Wakes (type : String) (action : Action) : Prop :=
  ∃ event, bridge.received? sessionId action = some event ∧ event.type = type

end Views

section Events

variable {runtime : Runtime} {moment : Moment} {bridge : EventBridge}
  {sessionId taskId : String}

structure Quiet (before after : EventBridge) : Prop where
  subscriptions : after.subscriptions = before.subscriptions
  collectedEvents : after.collectedEvents = before.collectedEvents
  waits : after.waits = before.waits

theorem Quiet.refl : Quiet bridge bridge := ⟨rfl, rfl, rfl⟩

theorem Quiet.trans {first second third : EventBridge} (left : Quiet first second)
    (right : Quiet second third) : Quiet first third where
  subscriptions := right.subscriptions.trans left.subscriptions
  collectedEvents := right.collectedEvents.trans left.collectedEvents
  waits := right.waits.trans left.waits

theorem recordCost_quiet (event : CostEvent) :
    Quiet bridge (bridge.recordCost runtime moment event) := by
  unfold recordCost
  split
  · exact .refl
  · exact ⟨rfl, rfl, rfl⟩

theorem saveForUIRecovery_quiet (event : FrontendEvent) :
    Quiet bridge (bridge.saveForUIRecovery runtime moment taskId event).2 := by
  unfold saveForUIRecovery
  split
  · exact .refl
  · exact .refl
  · dsimp only
    split
    · exact ⟨rfl, rfl, rfl⟩
    · exact ⟨rfl, rfl, rfl⟩

theorem forward_quiet (event : FrontendEvent) :
    Quiet bridge (bridge.forward runtime moment taskId sessionId event).2 := by
  unfold forward
  have costed : Quiet bridge (if event.type = "step_finish" then
      bridge.recordCost runtime moment (costEvent taskId sessionId event.data) else bridge) := by
    split
    · exact recordCost_quiet _
    · exact .refl
  dsimp only
  split
  · exact costed
  · have notified (before : EventBridge) :
        Quiet before (before.notify runtime moment taskId event) := ⟨rfl, rfl, rfl⟩
    exact costed.trans ((notified _).trans (saveForUIRecovery_quiet event))

theorem process_quiet (event : BridgeEvent) :
    Quiet ((bridge.collect sessionId event).emitAll runtime sessionId event)
      (bridge.process runtime moment taskId sessionId event).2 := by
  unfold process
  dsimp only
  split
  · exact .refl
  · exact .refl
  · exact forward_quiet _

def woken (runtime : Runtime) (events : List BridgeEvent) (sessionId : String)
    (event : BridgeEvent) (wait : Wait) : Wait :=
  if wait.listening ∧ wait.sessionId = sessionId ∧ event.type = "session.idle" then
    { wait with listening := false, outcome := some (.ok events) }
  else if wait.listening ∧ wait.sessionId = sessionId ∧ event.type = "session.error" then
    { wait with listening := false, outcome := some (.error (sessionError runtime event)) }
  else wait

theorem hear_general (sessionId : String) {name : String}
    (general : name ∈ ["event", "event:" ++ sessionId, "session:idle", "session:error"])
    (event : BridgeEvent) : bridge.hear runtime name event = id := by
  have unheard (other : String) :
      name ≠ "session:idle:" ++ other ∧ name ≠ "session:error:" ++ other := by
    simp only [List.mem_cons, List.not_mem_nil, or_false] at general
    rcases general with rfl | rfl | rfl | rfl
    all_goals constructor
    all_goals
      intro same
      have letters := congrArg String.toList same
      simp at letters
  funext wait
  unfold hear
  rw [if_neg fun heard => (unheard _).1 heard.2, if_neg fun heard => (unheard _).2 heard.2]
  rfl

theorem idle_ne_error (sessionId other : String) :
    "session:idle:" ++ sessionId ≠ "session:error:" ++ other := by
  intro same
  have letters := congrArg String.toList same
  simp at letters

theorem hear_idle {event : BridgeEvent} (idle : event.type = "session.idle") :
    bridge.hear runtime ("session:idle:" ++ sessionId) event =
      woken runtime (bridge.collected sessionId) sessionId event := by
  funext wait
  have other := idle_ne_error sessionId wait.sessionId
  have named : "session:idle:" ++ sessionId = "session:idle:" ++ wait.sessionId ↔
      wait.sessionId = sessionId := by
    rw [String.append_right_inj, eq_comm]
  unfold hear woken collected
  by_cases same : wait.sessionId = sessionId
  · subst same
    simp [idle, other]
  · simp [named, same, other]

theorem hear_error {event : BridgeEvent} (error : event.type = "session.error") :
    bridge.hear runtime ("session:error:" ++ sessionId) event =
      woken runtime (bridge.collected sessionId) sessionId event := by
  funext wait
  have other := (idle_ne_error wait.sessionId sessionId).symm
  have named : "session:error:" ++ sessionId = "session:error:" ++ wait.sessionId ↔
      wait.sessionId = sessionId := by
    rw [String.append_right_inj, eq_comm]
  unfold hear woken collected
  by_cases same : wait.sessionId = sessionId
  · subst same
    simp [error, other]
  · simp [named, same, other]

theorem emit_waits (name : String) (argument : Option String) (event : BridgeEvent) :
    (bridge.emit runtime name argument event).waits =
      bridge.waits.map (bridge.hear runtime name event) := rfl

theorem emit_general_waits (sessionId : String) {name : String}
    (general : name ∈ ["event", "event:" ++ sessionId, "session:idle", "session:error"])
    (argument : Option String) (event : BridgeEvent) :
    (bridge.emit runtime name argument event).waits = bridge.waits := by
  rw [emit_waits, hear_general sessionId general, List.map_id]

theorem emitAll_waits (event : BridgeEvent) :
    (bridge.emitAll runtime sessionId event).waits =
      bridge.waits.map (woken runtime (bridge.collected sessionId) sessionId event) := by
  have raw : ((bridge.emit runtime "event" sessionId event).emit runtime ("event:" ++ sessionId)
      none event).waits = bridge.waits := by
    rw [emit_general_waits sessionId (by simp), emit_general_waits sessionId (by simp)]
  unfold emitAll
  dsimp only
  split
  · rename_i idle
    rw [emit_waits, hear_idle idle, emit_general_waits sessionId (by simp), raw]
    rfl
  · split
    · rename_i error
      rw [emit_waits, hear_error error, emit_general_waits sessionId (by simp), raw]
      rfl
    · rename_i notIdle notError
      have unchanged : woken runtime (bridge.collected sessionId) sessionId event = id := by
        funext wait
        simp [woken, notIdle, notError]
      rw [raw, unchanged, List.map_id]

theorem emitAll_collectedEvents (event : BridgeEvent) :
    (bridge.emitAll runtime sessionId event).collectedEvents = bridge.collectedEvents := by
  unfold emitAll
  dsimp only
  split
  · rfl
  · split <;> rfl

theorem emitAll_subscriptions (event : BridgeEvent) :
    (bridge.emitAll runtime sessionId event).subscriptions = bridge.subscriptions := by
  unfold emitAll
  dsimp only
  split
  · rfl
  · split <;> rfl

theorem collected_collect (event : BridgeEvent) (other : String) :
    (bridge.collect sessionId event).collected other =
      bridge.collected other ++ if other = sessionId then [event] else [] := by
  unfold collected collect
  rw [OrderedMap.get?_set]
  by_cases same : other = sessionId <;> simp [same]

theorem handleEvent_cases (runtime : Runtime) (moment : Moment) (bridge : EventBridge)
    (event : BridgeEvent) (directory : String) :
    (bridge.registered event directory = none ∧
      (bridge.handleEvent runtime moment event directory).2 = bridge) ∨
    ∃ sessionId, bridge.Receives sessionId event directory ∧
      (bridge.handleEvent runtime moment event directory).2.subscriptions =
        bridge.subscriptions ∧
      (∀ other, (bridge.handleEvent runtime moment event directory).2.collected other =
        bridge.collected other ++ if other = sessionId then [event] else []) ∧
      (bridge.handleEvent runtime moment event directory).2.waits = bridge.waits.map
        (woken runtime (bridge.collected sessionId ++ [event]) sessionId event) := by
  unfold handleEvent Receives
  cases found : bridge.registered event directory with
  | none => exact .inl ⟨rfl, rfl⟩
  | some entry =>
      obtain ⟨sessionId, session⟩ := entry
      have quiet : Quiet _ (bridge.process runtime moment session.taskId sessionId event).2 :=
        process_quiet event
      refine .inr ⟨sessionId, rfl, ?_, fun other => ?_, ?_⟩
      · rw [quiet.subscriptions, emitAll_subscriptions]
        rfl
      · unfold collected
        rw [quiet.collectedEvents, emitAll_collectedEvents]
        exact collected_collect event other
      · rw [quiet.waits, emitAll_waits, collected_collect, if_pos rfl]
        rfl

end Events

/-- The action takes the listeners of the session away. -/
def Silences (bridge : EventBridge) (sessionId : String) : Action → Prop
  | .unregisterSession other =>
      other = sessionId ∧ (bridge.subscriptions.activeSessions.get? other).isSome = true
  | .unregisterTaskSessions taskId => sessionId ∈ bridge.subscriptions.sessionsOf taskId
  | _ => False

def Ends (bridge : EventBridge) (sessionId : String) (action : Action) : Prop :=
  bridge.Wakes sessionId "session.idle" action ∨ bridge.Wakes sessionId "session.error" action

inductive Change (bridge : EventBridge) (action : Action) (wait : Wait) : Wait → Prop where
  | same : (wait.listening = true → ¬ bridge.Ends wait.sessionId action) →
      Change bridge action wait wait
  | silenced : bridge.Silences wait.sessionId action →
      Change bridge action wait { wait with listening := false }
  | expired (message : String) : wait.outcome = none →
      Change bridge action wait
        { wait with listening := false, outcome := some (.error message) }
  | idle (event : BridgeEvent) : wait.listening = true →
      bridge.received? wait.sessionId action = some event → event.type = "session.idle" →
      Change bridge action wait
        { wait with
          listening := false
          outcome := some (.ok (bridge.collected wait.sessionId ++ [event])) }
  | error (event : BridgeEvent) (message : String) : wait.listening = true →
      bridge.received? wait.sessionId action = some event → event.type = "session.error" →
      Change bridge action wait
        { wait with listening := false, outcome := some (.error message) }

section Steps

variable {runtime : Runtime} {bridge : EventBridge} {action : Action} {wait : Wait}

theorem not_ends (nothing : bridge.received? wait.sessionId action = none) :
    ¬ bridge.Ends wait.sessionId action := by
  rintro (⟨event, received, _⟩ | ⟨event, received, _⟩)
  · rw [nothing] at received
    cases received
  · rw [nothing] at received
    cases received

theorem Change.of_unreceived (nothing : bridge.received? wait.sessionId action = none) :
    Change bridge action wait wait :=
  .same fun _ => not_ends nothing

theorem woken_change {moment : Moment} {event : BridgeEvent} {directory sessionId : String}
    (receives : bridge.Receives sessionId event directory) :
    Change bridge (.handleEvent moment event directory) wait
      (woken runtime (bridge.collected sessionId ++ [event]) sessionId event wait) := by
  have received (own : wait.sessionId = sessionId) :
      bridge.received? wait.sessionId (.handleEvent moment event directory) = some event := by
    subst own
    exact if_pos receives
  unfold woken
  by_cases idle : wait.listening = true ∧ wait.sessionId = sessionId ∧ event.type = "session.idle"
  · rw [if_pos idle]
    obtain ⟨listening, own, named⟩ := idle
    subst own
    exact .idle event listening (received rfl) named
  · rw [if_neg idle]
    by_cases error : wait.listening = true ∧ wait.sessionId = sessionId ∧
        event.type = "session.error"
    · rw [if_pos error]
      exact .error event _ error.1 (received error.2.1) error.2.2
    · rw [if_neg error]
      refine .same fun listening => ?_
      rintro (⟨found, same, named⟩ | ⟨found, same, named⟩)
      all_goals
        change (if bridge.Receives wait.sessionId event directory then some event else none) = _
          at same
        split at same
        · rename_i own
          obtain rfl := Option.some.inj same
          have ofSession : wait.sessionId = sessionId := Option.some.inj (own.symm.trans receives)
          first
            | exact idle ⟨listening, ofSession, named⟩
            | exact error ⟨listening, ofSession, named⟩
        · cases same

theorem unregisterSession_waits (runtime : Runtime) (bridge : EventBridge) (sessionId : String) :
    bridge.unregisterSession runtime sessionId = bridge ∨
    (bridge.subscriptions.activeSessions.get? sessionId).isSome = true ∧
      (bridge.unregisterSession runtime sessionId).waits =
        bridge.waits.map (Wait.silence sessionId) := by
  unfold unregisterSession
  cases bridge.subscriptions.activeSessions.get? sessionId with
  | none => exact .inl rfl
  | some session => exact .inr ⟨rfl, rfl⟩

theorem unregisterAll_waits (sessions : List String) {index : Nat}
    (found : (sessions.foldl (unregisterSession runtime) bridge).waits[index]? = some wait) :
    ∃ before, bridge.waits[index]? = some before ∧
      (wait = before ∨
        before.sessionId ∈ sessions ∧ wait = { before with listening := false }) := by
  induction sessions generalizing bridge with
  | nil => exact ⟨wait, found, .inl rfl⟩
  | cons sessionId rest ih =>
      obtain ⟨between, held, change⟩ := ih found
      have later : wait = between ∨
          between.sessionId ∈ sessionId :: rest ∧ wait = { between with listening := false } :=
        change.imp_right fun changed => ⟨List.mem_cons_of_mem _ changed.1, changed.2⟩
      rcases unregisterSession_waits runtime bridge sessionId with same | ⟨_, silenced⟩
      · rw [same] at held
        exact ⟨between, held, later⟩
      · rw [silenced, List.getElem?_map] at held
        obtain ⟨before, first, rfl⟩ := Option.map_eq_some_iff.mp held
        refine ⟨before, first, ?_⟩
        unfold Wait.silence at later
        split at later
        · rename_i own
          refine .inr ⟨own ▸ List.mem_cons_self, ?_⟩
          rcases later with rfl | ⟨_, rfl⟩ <;> rfl
        · exact later

theorem step_waits {index : Nat} (found : (bridge.step runtime action).waits[index]? = some wait) :
    (∃ before, bridge.waits[index]? = some before ∧ Change bridge action before wait) ∨
    ∃ sessionId timeout, index = bridge.waits.length ∧
      action = .waitForSessionIdle sessionId timeout ∧ wait = { sessionId, timeout } := by
  cases action with
  | registerSession taskId sessionId directory executionMeta =>
      refine .inl ⟨wait, ?_, .of_unreceived rfl⟩
      change (bridge.registerSession runtime taskId sessionId directory executionMeta).waits[index]?
        = _ at found
      unfold registerSession at found
      split at found
      · exact found
      · exact found
  | unregisterSession sessionId =>
      change (bridge.unregisterSession runtime sessionId).waits[index]? = _ at found
      rcases unregisterSession_waits runtime bridge sessionId with same | ⟨present, silenced⟩
      · rw [same] at found
        exact .inl ⟨wait, found, .of_unreceived rfl⟩
      · rw [silenced, List.getElem?_map] at found
        obtain ⟨before, held, rfl⟩ := Option.map_eq_some_iff.mp found
        refine .inl ⟨before, held, ?_⟩
        unfold Wait.silence
        split
        · rename_i own
          exact .silenced ⟨own.symm, present⟩
        · exact .of_unreceived rfl
  | unregisterTaskSessions taskId =>
      obtain ⟨before, held, rfl | ⟨listed, rfl⟩⟩ := unregisterAll_waits _ found
      · exact .inl ⟨wait, held, .of_unreceived rfl⟩
      · exact .inl ⟨before, held, .silenced listed⟩
  | handleEvent moment event directory =>
      change (bridge.handleEvent runtime moment event directory).2.waits[index]? = _ at found
      rcases bridge.handleEvent_cases runtime moment event directory with ⟨dropped, same⟩ |
        ⟨sessionId, receives, _, _, waits⟩
      · rw [same] at found
        exact .inl ⟨wait, found, .of_unreceived (if_neg (bridge.not_receives _ dropped))⟩
      · rw [waits, List.getElem?_map] at found
        obtain ⟨before, held, rfl⟩ := Option.map_eq_some_iff.mp found
        exact .inl ⟨before, held, woken_change receives⟩
  | waitForSessionIdle sessionId timeout =>
      rcases getElem?_concat_eq_some.mp found with held | ⟨rfl, rfl⟩
      · exact .inl ⟨wait, held, .of_unreceived rfl⟩
      · exact .inr ⟨sessionId, timeout, rfl, rfl, rfl⟩
  | expire expiring =>
      change (bridge.waits.modify expiring Wait.expire)[index]? = _ at found
      rw [List.getElem?_modify] at found
      obtain ⟨before, held, rfl⟩ := Option.map_eq_some_iff.mp found
      refine .inl ⟨before, held, ?_⟩
      split
      · unfold Wait.expire
        split
        · exact .of_unreceived rfl
        · rename_i unsettled
          exact .expired _ (by simpa using unsettled)
      · exact .of_unreceived rfl
  | clearSessionEvents sessionId => exact .inl ⟨wait, found, .of_unreceived rfl⟩

end Steps

end MultiAgents.EventBridge
