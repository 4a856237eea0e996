import MultiAgents.Services.EventBridge

/-!
# What the handling of an event leaves alone

Handling an event of a registered session touches the session and the task it is
registered for and nothing of any other session or task.  Each of its effects is
confined in this way, and confined changes compose.
-/

namespace MultiAgents

open Containers Effects ExecutionTracker Text

def Appended {α : Type} (kind : α → Prop) (before after : List α) : Prop :=
  ∃ added, after = before ++ added ∧ ∀ item ∈ added, kind item

section Appended

variable {α : Type} {kind : α → Prop} {first second third : List α}

theorem Appended.refl : Appended kind first first :=
  ⟨[], (List.append_nil _).symm, fun _ membership => absurd membership List.not_mem_nil⟩

theorem Appended.trans (left : Appended kind first second) (right : Appended kind second third) :
    Appended kind first third := by
  obtain ⟨added, rfl, ofKind⟩ := left
  obtain ⟨further, rfl, alsoOfKind⟩ := right
  refine ⟨added ++ further, List.append_assoc _ _ _, fun item membership => ?_⟩
  rcases List.mem_append.mp membership with here | there
  · exact ofKind item here
  · exact alsoOfKind item there

theorem Appended.of_forall {added : List α} (ofKind : ∀ item ∈ added, kind item) :
    Appended kind first (first ++ added) := ⟨added, rfl, ofKind⟩

theorem Appended.one {item : α} (ofKind : kind item) : Appended kind first (first ++ [item]) :=
  .of_forall fun other membership => by
    obtain rfl := List.mem_singleton.mp membership
    exact ofKind

end Appended

def Emission.IsFor (sessionId : String) (emission : Emission) : Prop :=
  emission.sessionId = some sessionId ∨
    emission.name ∈ ["event:" ++ sessionId, "session:idle:" ++ sessionId,
      "session:error:" ++ sessionId]

namespace EventBridge

def WaitsFor (sessionId : String) (before after : List Wait) : Prop :=
  ∃ change : Wait → Wait, after = before.map change ∧
    ∀ wait, (change wait).sessionId = wait.sessionId ∧
      (wait.sessionId ≠ sessionId → change wait = wait)

structure Confined (runtime : Runtime) (sessionId taskId : String) (before after : EventBridge) :
    Prop where
  subscriptions : after.subscriptions = before.subscriptions
  collected : ∀ other, other ≠ sessionId →
    after.collectedEvents.get? other = before.collectedEvents.get? other
  waits : WaitsFor sessionId before.waits after.waits
  emitted : Appended (Emission.IsFor sessionId) before.emitted after.emitted
  queued : ∀ other, other ≠ taskId → after.logs.pending other = before.logs.pending other ∧
    after.logs.callsOf other = before.logs.callsOf other
  costs : ∀ other, other ≠ taskId → after.taskCosts.get? other = before.taskCosts.get? other
  costWrites : Appended (fun write => write.1 = taskId) before.costWrites after.costWrites
  persisted : Appended (fun entry => entry.1 = taskId) before.persisted after.persisted
  socket : Appended (fun message => message.taskId = taskId) before.socket after.socket
  tracker : after.tracker.world = before.tracker.world ∧
    Appended (fun thread => thread.1.1 = taskId) before.tracker.threads after.tracker.threads

section Confined

variable {runtime : Runtime} {sessionId taskId : String} {before between after : EventBridge}

theorem WaitsFor.refl {waits : List Wait} : WaitsFor sessionId waits waits :=
  ⟨id, (List.map_id _).symm, fun _ => ⟨rfl, fun _ => rfl⟩⟩

theorem WaitsFor.trans {first second third : List Wait} (left : WaitsFor sessionId first second)
    (right : WaitsFor sessionId second third) : WaitsFor sessionId first third := by
  obtain ⟨change, rfl, kept⟩ := left
  obtain ⟨further, rfl, alsoKept⟩ := right
  refine ⟨further ∘ change, List.map_map, fun wait => ⟨?_, fun different => ?_⟩⟩
  · exact (alsoKept (change wait)).1.trans (kept wait).1
  · have unchanged := (kept wait).2 different
    rw [Function.comp_apply, unchanged]
    exact (alsoKept wait).2 different

theorem Confined.refl : Confined runtime sessionId taskId before before where
  subscriptions := rfl
  collected _ _ := rfl
  waits := .refl
  emitted := .refl
  queued _ _ := ⟨rfl, rfl⟩
  costs _ _ := rfl
  costWrites := .refl
  persisted := .refl
  socket := .refl
  tracker := ⟨rfl, .refl⟩

theorem Confined.trans (left : Confined runtime sessionId taskId before between)
    (right : Confined runtime sessionId taskId between after) :
    Confined runtime sessionId taskId before after where
  subscriptions := right.subscriptions.trans left.subscriptions
  collected other different :=
    (right.collected other different).trans (left.collected other different)
  waits := left.waits.trans right.waits
  emitted := left.emitted.trans right.emitted
  queued other different :=
    ⟨(right.queued other different).1.trans (left.queued other different).1,
      (right.queued other different).2.trans (left.queued other different).2⟩
  costs other different := (right.costs other different).trans (left.costs other different)
  costWrites := left.costWrites.trans right.costWrites
  persisted := left.persisted.trans right.persisted
  socket := left.socket.trans right.socket
  tracker := ⟨right.tracker.1.trans left.tracker.1, left.tracker.2.trans right.tracker.2⟩

end Confined

section Effects

variable {runtime : Runtime} {moment : Moment} {bridge : EventBridge}
  {sessionId taskId : String}

theorem collect_confined (event : BridgeEvent) :
    Confined runtime sessionId taskId bridge (bridge.collect sessionId event) :=
  { (Confined.refl : Confined runtime sessionId taskId bridge bridge) with
    collected := fun other different => by
      unfold collect
      rw [OrderedMap.get?_set, if_neg different] }

def names (sessionId : String) : List String :=
  ["event", "event:" ++ sessionId, "session:idle", "session:idle:" ++ sessionId, "session:error",
    "session:error:" ++ sessionId]

theorem names_apart {name other : String} (listed : name ∈ names sessionId)
    (different : other ≠ sessionId) :
    name ≠ "session:idle:" ++ other ∧ name ≠ "session:error:" ++ other := by
  have idle : "session:idle:" ++ sessionId ≠ "session:idle:" ++ other := fun same =>
    different ((String.append_right_inj _).mp same).symm
  have error : "session:error:" ++ sessionId ≠ "session:error:" ++ other := fun same =>
    different ((String.append_right_inj _).mp same).symm
  simp only [names, List.mem_cons, List.not_mem_nil, or_false] at listed
  rcases listed with rfl | rfl | rfl | rfl | rfl | rfl
  all_goals constructor
  all_goals first | exact idle | exact error | intro same
  all_goals
    have letters := congrArg String.toList same
    simp at letters

theorem emit_confined {name : String} (listed : name ∈ names sessionId)
    {argument : Option String} {event : BridgeEvent}
    (isFor : Emission.IsFor sessionId { name, sessionId := argument, event }) :
    Confined runtime sessionId taskId bridge (bridge.emit runtime name argument event) :=
  { (Confined.refl : Confined runtime sessionId taskId bridge bridge) with
    emitted := .one isFor
    waits := ⟨bridge.hear runtime name event, rfl, fun wait => by
      unfold hear
      constructor
      · split
        · rfl
        · split <;> rfl
      · intro different
        obtain ⟨notIdle, notError⟩ := names_apart listed different
        rw [if_neg (fun heard => notIdle heard.2), if_neg fun heard => notError heard.2]⟩ }

theorem emitAll_confined (event : BridgeEvent) :
    Confined runtime sessionId taskId bridge (bridge.emitAll runtime sessionId event) := by
  have raw : Confined runtime sessionId taskId bridge
      ((bridge.emit runtime "event" sessionId event).emit runtime ("event:" ++ sessionId) none
        event) :=
    (emit_confined (by simp [names]) (.inl rfl)).trans
      (emit_confined (by simp [names]) (.inr (by simp)))
  unfold emitAll
  dsimp only
  split
  · exact raw.trans ((emit_confined (by simp [names]) (.inl rfl)).trans
      (emit_confined (by simp [names]) (.inr (by simp))))
  · split
    · exact raw.trans ((emit_confined (by simp [names]) (.inl rfl)).trans
        (emit_confined (by simp [names]) (.inr (by simp))))
    · exact raw

theorem toTask_confined (event : String) (payload : Payload) :
    Confined runtime sessionId taskId bridge (bridge.toTask runtime taskId event payload) :=
  { (Confined.refl : Confined runtime sessionId taskId bridge bridge) with
    socket := .one rfl
    persisted := .of_forall fun entry membership => by
      obtain ⟨_, _, rfl⟩ := List.mem_map.mp membership
      rfl }

theorem recordCost_confined (event : CostEvent) (ofTask : event.taskId = taskId) :
    Confined runtime sessionId taskId bridge (bridge.recordCost runtime moment event) := by
  subst ofTask
  unfold recordCost
  split
  · exact .refl
  · have added : Confined runtime sessionId event.taskId bridge
        { bridge with taskCosts := (CostTracker.recordCost event bridge.taskCosts).2 } :=
      { (Confined.refl : Confined runtime sessionId event.taskId bridge bridge) with
        costs := fun other different => by
          unfold CostTracker.recordCost
          dsimp only
          split
          · rfl
          · rw [OrderedMap.get?_set, if_neg different] }
    have sent := added.trans (toTask_confined "cost:update" (.costs
      (((CostTracker.recordCost event bridge.taskCosts).2.get? event.taskId).getD {}).total
      (((CostTracker.recordCost event bridge.taskCosts).2.get?
        event.taskId).getD {}).sessions.entries.length moment.lastUpdated))
    refine { sent with costWrites := .of_forall fun write membership => ?_ }
    obtain ⟨_, _, rfl⟩ := List.mem_map.mp membership
    rfl

theorem queueActivityLog_confined (entry : LogEntry) :
    Confined runtime sessionId taskId bridge (bridge.queueActivityLog taskId entry) :=
  { (Confined.refl : Confined runtime sessionId taskId bridge bridge) with
    queued := fun _ different => bridge.separate.queue_other different entry }

theorem track_confined (call : Call) :
    Confined runtime sessionId taskId bridge (bridge.track runtime taskId call) :=
  { (Confined.refl : Confined runtime sessionId taskId bridge bridge) with
    tracker := ⟨rfl, .one rfl⟩ }

end Effects

section Handling

variable {runtime : Runtime} {moment : Moment} {bridge : EventBridge}
  {sessionId taskId : String}

theorem notify_confined (event : FrontendEvent) :
    Confined runtime sessionId taskId bridge (bridge.notify runtime moment taskId event) := by
  unfold notify
  exact (toTask_confined _ _).trans ((toTask_confined _ _).trans (toTask_confined _ _))

theorem saveForUIRecovery_confined (event : FrontendEvent) :
    Confined runtime sessionId taskId bridge
      (bridge.saveForUIRecovery runtime moment taskId event).2 := by
  unfold saveForUIRecovery
  split
  · exact .refl
  · exact .refl
  · dsimp only
    split
    · exact (queueActivityLog_confined _).trans (track_confined _)
    · exact queueActivityLog_confined _

theorem forward_confined (event : FrontendEvent) :
    Confined runtime sessionId taskId bridge
      (bridge.forward runtime moment taskId sessionId event).2 := by
  unfold forward
  have costed : Confined runtime sessionId taskId bridge (if event.type = "step_finish" then
      bridge.recordCost runtime moment (costEvent taskId sessionId event.data) else bridge) := by
    split
    · exact recordCost_confined _ rfl
    · exact .refl
  dsimp only
  split
  · exact costed
  · exact costed.trans ((notify_confined event).trans (saveForUIRecovery_confined event))

theorem process_confined (event : BridgeEvent) :
    Confined runtime sessionId taskId bridge
      (bridge.process runtime moment taskId sessionId event).2 := by
  have emitted : Confined runtime sessionId taskId bridge
      ((bridge.collect sessionId event).emitAll runtime sessionId event) :=
    (collect_confined event).trans (emitAll_confined event)
  unfold process
  dsimp only
  split
  · exact emitted
  · exact emitted
  · exact emitted.trans (forward_confined _)

/-- However the calls of the task go on, what is tracked of another task is as it was. -/
def TracksOnly (runtime : Runtime) (taskId : String) (before after : EventBridge) : Prop :=
  ∀ moves, Pool.Guarded (actorProgram runtime) (MovesFor taskId) moves after.tracker →
    ∀ other, other ≠ taskId → SameTracking other before.tracker.world.state
      (after.tracker.run (actorProgram runtime) moves).world.state

theorem Confined.tracksOnly {after : EventBridge}
    (confined : Confined runtime sessionId taskId bridge after) :
    TracksOnly runtime taskId bridge after := by
  intro moves ofTask other different
  rw [← confined.tracker.1]
  exact after.separated.run_sameTracking different ofTask

/-- An event that carries an identifier is for the session of that name alone: if it is
registered, only the session and its task are touched, and otherwise nothing is done. -/
theorem handleEvent_confined (runtime : Runtime) (moment : Moment) (bridge : EventBridge)
    (event : BridgeEvent) (directory : String) (id : Json) (carried : event.sessionId = some id)
    (filled : id.truthy = true) :
    (∀ sessionId session, id = .str sessionId →
      bridge.subscriptions.activeSessions.get? sessionId = some session →
        Confined runtime sessionId session.taskId bridge
          (bridge.handleEvent runtime moment event directory).2 ∧
        TracksOnly runtime session.taskId bridge
          (bridge.handleEvent runtime moment event directory).2) ∧
    ((∀ sessionId, id = .str sessionId →
      bridge.subscriptions.activeSessions.get? sessionId = none) →
        bridge.handleEvent runtime moment event directory = (.ok (), bridge)) := by
  have found : event.sessionId.filter Json.truthy = some id := by
    rw [carried, Option.filter_some, if_pos filled]
  constructor
  · rintro sessionId session rfl held
    have registered : bridge.registered event directory = some (sessionId, session) := by
      unfold EventBridge.registered addressee
      rw [found]
      simp [held]
    have confined : Confined runtime sessionId session.taskId bridge
        (bridge.handleEvent runtime moment event directory).2 := by
      unfold handleEvent
      rw [registered]
      exact process_confined event
    exact ⟨confined, confined.tracksOnly⟩
  · intro absent
    have unregistered : bridge.registered event directory = none := by
      unfold EventBridge.registered addressee
      rw [found]
      cases id with
      | str sessionId => simp [absent sessionId rfl]
      | _ => rfl
    unfold handleEvent
    rw [unregistered]

end Handling

section Samples

def sampleRuntime : Runtime := ⟨String.toLower, Json.display⟩

def twoSessions : EventBridge :=
  ((initial .empty fun _ => {}).registerSession sampleRuntime "t1" "s1" "/w"
    { prompt := "Session s1" }).registerSession sampleRuntime "t2" "s2" "/w"
      { prompt := "Session s2" }

def idleEvent (sessionId : String) : BridgeEvent :=
  { type := "session.idle", properties := some (.obj [("sessionID", .str sessionId)]) }

/-- The second of two sessions of a directory becomes idle. -/
theorem idle_event_confined :
    Confined sampleRuntime "s2" "t2" twoSessions
      (twoSessions.handleEvent sampleRuntime {} (idleEvent "s2") "/w").2 :=
  ((handleEvent_confined sampleRuntime {} twoSessions (idleEvent "s2") "/w" (.str "s2")
    (by decide +kernel) rfl).1 "s2" ⟨"t2", "/w"⟩ rfl (by decide +kernel)).1

end Samples

end EventBridge

end MultiAgents
