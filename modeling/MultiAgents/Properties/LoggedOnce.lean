import MultiAgents.Properties.EventFrame

/-!
# How often an event is logged

The messages that an event is sent to the frontend with are persisted one by one,
and the bridge queues an entry for the event as well.  So an event that reaches the
frontend is logged several times, and only one that does not is logged at most once.
-/

namespace MultiAgents.EventBridge

open Effects Text

/-- The entries for the log of a task: those of messages, and those that were queued. -/
def logged (bridge : EventBridge) (taskId : String) : Nat :=
  (bridge.persisted.filter fun entry => entry.1 = taskId).length +
    (bridge.logs.batches (fun _ => true) taskId ++ bridge.logs.pending taskId).length

/-- An event that is sent to the frontend: its session is registered, there is something to send,
and nothing raises before. -/
def Forwards (runtime : Runtime) (bridge : EventBridge) (moment : Moment) (event : BridgeEvent)
    (directory : String) : Prop :=
  ∃ sessionId session frontendEvent,
    bridge.registered event directory = some (sessionId, session) ∧
    transformEvent runtime session.taskId event = .ok (some frontendEvent) ∧
    (moment.sampled = true → ∃ text, preview frontendEvent = .ok text)

def frontendTypes : List String :=
  ["task_update", "agent_completed", "agent_failed", "agent_progress", "agent_output", "tool_call",
    "step_finish", "agent_message", "tool_result", "tool_error", "file_activity",
    "command_running", "command_output", "command_complete", "question_asked",
    "question_answered"]

section Types

variable {runtime : Runtime} {taskId : String} {event : BridgeEvent}
  {frontendEvent : FrontendEvent}

theorem toolCall_type {part : Json}
    (sent : toolCall runtime taskId part = .ok frontendEvent) :
    frontendEvent.type = "tool_call" := by
  unfold toolCall at sent
  simp only [bind, Except.bind, pure, Except.pure] at sent
  split at sent
  · cases sent
  · split at sent
    · cases sent
    · cases sent
      rfl

theorem transformPart_type {part : Value}
    (sent : transformPart runtime taskId part = .ok (some frontendEvent)) :
    frontendEvent.type ∈ frontendTypes := by
  unfold transformPart at sent
  cases part with
  | none => cases sent
  | some part =>
      simp only [bind, Except.bind, pure, Except.pure] at sent
      split at sent
      · cases sent
        simp [frontendTypes]
      · split at sent
        · split at sent
          · cases sent
          · rename_i made
            obtain rfl := Option.some.inj (Except.ok.inj sent)
            rw [toolCall_type made]
            simp [frontendTypes]
        · split at sent
          · cases sent
            simp [frontendTypes]
          · cases sent

theorem transformEvent_type
    (sent : transformEvent runtime taskId event = .ok (some frontendEvent)) :
    frontendEvent.type ∈ frontendTypes := by
  unfold transformEvent at sent
  split at sent
  case h_5 => exact transformPart_type sent
  all_goals
    cases sent
    try simp [frontendTypes]

end Types

section Entries

variable {runtime : Runtime} {moment : Moment} {bridge before after : EventBridge}
  {sessionId taskId : String}

/-- Neither messages nor queued entries are added. -/
structure Unlogged (before after : EventBridge) : Prop where
  persisted : after.persisted = before.persisted
  logs : after.logs = before.logs

theorem Unlogged.logged_eq (unlogged : Unlogged before after) (taskId : String) :
    after.logged taskId = before.logged taskId := by
  unfold logged
  rw [unlogged.persisted, unlogged.logs]

theorem emitAll_unlogged (event : BridgeEvent) :
    Unlogged bridge ((bridge.collect sessionId event).emitAll runtime sessionId event) := by
  unfold emitAll
  dsimp only
  split
  · exact ⟨rfl, rfl⟩
  · split <;> exact ⟨rfl, rfl⟩

theorem recordCost_unlogged (event : CostEvent) :
    Unlogged bridge (bridge.recordCost runtime moment event) := by
  unfold recordCost
  split
  · exact ⟨rfl, rfl⟩
  · exact ⟨List.append_nil _, rfl⟩

theorem persistedEntry_isSome (runtime : Runtime) {type : String} (known : type ∈ frontendTypes)
    (data : Json) :
    (persistedEntry runtime type data).isSome = true := by
  unfold persistedEntry
  simp only [frontendTypes, List.mem_cons, List.not_mem_nil, or_false] at known
  rcases known with rfl | rfl | rfl | rfl | rfl | rfl | rfl | rfl | rfl | rfl | rfl | rfl | rfl |
    rfl | rfl | rfl
  all_goals rfl

theorem toTask_logged (event : String) (data : Json) :
    (bridge.toTask runtime taskId event (.json data)).logged taskId =
      bridge.logged taskId + (persistedEntry runtime event data).toList.length := by
  unfold logged toTask
  cases same : persistedEntry runtime event data with
  | none => simp [same]
  | some entry =>
      simp only [same, Option.toList_some, List.map_cons, List.map_nil, List.filter_append,
        List.length_append]
      simp
      omega

theorem notify_logged {event : FrontendEvent} (known : event.type ∈ frontendTypes) :
    bridge.logged taskId + 2 ≤ (bridge.notify runtime moment taskId event).logged taskId := by
  have first : (persistedEntry runtime event.type event.data).toList.length = 1 := by
    obtain ⟨entry, same⟩ := Option.isSome_iff_exists.mp
      (persistedEntry_isSome runtime known event.data)
    rw [same]
    rfl
  have third (data : Json) : (persistedEntry runtime "notification" data).toList.length = 1 := rfl
  unfold notify
  dsimp only
  rw [toTask_logged, toTask_logged, toTask_logged, first, third]
  omega

theorem queueActivityLog_logged (taskId : String) (entry : LogEntry) :
    (bridge.queueActivityLog taskId entry).logged taskId = bridge.logged taskId + 1 := by
  have moves : ActivityLogs.Moves (fun _ => true) bridge.logs _ _ :=
    bridge.separate.queue_moves rfl taskId entry
  have total := congrArg List.length (moves.total taskId)
  rw [ActivityLogs.queued_queueActivityLog, if_pos rfl] at total
  simp only [List.length_append, List.length_singleton] at total
  unfold logged queueActivityLog
  simp only [List.length_append]
  omega

theorem saveForUIRecovery_logged (event : FrontendEvent) :
    bridge.logged taskId ≤
      (bridge.saveForUIRecovery runtime moment taskId event).2.logged taskId := by
  unfold saveForUIRecovery
  split
  · exact le_rfl
  · exact le_rfl
  · rename_i entry _
    have queued : (bridge.queueActivityLog taskId entry).logged taskId =
        bridge.logged taskId + 1 := queueActivityLog_logged taskId entry
    dsimp only
    split
    · exact queued ▸ Nat.le_succ _
    · exact queued ▸ Nat.le_succ _

end Entries

section Events

variable {runtime : Runtime} {moment : Moment} {bridge : EventBridge} {event : BridgeEvent}
  {directory : String}

theorem forward_unlogged {taskId sessionId : String} {frontendEvent : FrontendEvent}
    (raises : moment.sampled = true ∧ ∀ text, preview frontendEvent ≠ .ok text) :
    Unlogged bridge (bridge.forward runtime moment taskId sessionId frontendEvent).2 := by
  unfold forward
  rw [if_pos raises.1]
  cases failed : preview frontendEvent with
  | ok text => exact absurd failed (raises.2 text)
  | error error =>
      dsimp only
      split
      · exact recordCost_unlogged _
      · exact ⟨rfl, rfl⟩

theorem forward_logged {taskId sessionId : String} {frontendEvent : FrontendEvent}
    (known : frontendEvent.type ∈ frontendTypes)
    (passes : moment.sampled = true → ∃ text, preview frontendEvent = .ok text) :
    bridge.logged taskId + 2 ≤
      (bridge.forward runtime moment taskId sessionId frontendEvent).2.logged taskId := by
  unfold forward
  have goesOn : ∃ text, (if moment.sampled then preview frontendEvent else .ok "") =
      .ok text := by
    split
    · rename_i sampled
      exact passes sampled
    · exact ⟨"", rfl⟩
  obtain ⟨text, same⟩ := goesOn
  rw [same]
  have costed : Unlogged bridge (if frontendEvent.type = "step_finish" then
      bridge.recordCost runtime moment (costEvent taskId sessionId frontendEvent.data)
      else bridge) := by
    split
    · exact recordCost_unlogged _
    · exact ⟨rfl, rfl⟩
  rw [← costed.logged_eq taskId]
  exact (notify_logged known).trans (saveForUIRecovery_logged frontendEvent)

theorem handleEvent_unlogged (unforwarded : ¬ Forwards runtime bridge moment event directory) :
    Unlogged bridge (bridge.handleEvent runtime moment event directory).2 := by
  unfold handleEvent
  cases found : bridge.registered event directory with
  | none => exact ⟨rfl, rfl⟩
  | some entry =>
      obtain ⟨sessionId, session⟩ := entry
      have emitted : Unlogged bridge
          ((bridge.collect sessionId event).emitAll runtime sessionId event) :=
        emitAll_unlogged event
      change Unlogged bridge (bridge.process runtime moment session.taskId sessionId event).2
      unfold process
      dsimp only
      cases sent : transformEvent runtime session.taskId event with
      | error error => exact emitted
      | ok result =>
          cases result with
          | none => exact emitted
          | some frontendEvent =>
              have raises : moment.sampled = true ∧ ∀ text, preview frontendEvent ≠ .ok text := by
                by_contra passes
                refine unforwarded ⟨sessionId, session, frontendEvent, found, sent, ?_⟩
                intro sampled
                by_contra failing
                exact passes ⟨sampled, fun text same => failing ⟨text, same⟩⟩
              have forwarded : Unlogged
                  ((bridge.collect sessionId event).emitAll runtime sessionId event)
                  (((bridge.collect sessionId event).emitAll runtime sessionId event).forward
                    runtime moment session.taskId sessionId frontendEvent).2 :=
                forward_unlogged raises
              exact ⟨forwarded.persisted.trans emitted.persisted,
                forwarded.logs.trans emitted.logs⟩

theorem handleEvent_logged (forwards : Forwards runtime bridge moment event directory) :
    ∃ taskId, bridge.logged taskId + 2 ≤
      (bridge.handleEvent runtime moment event directory).2.logged taskId := by
  obtain ⟨sessionId, session, frontendEvent, found, sent, passes⟩ := forwards
  refine ⟨session.taskId, ?_⟩
  unfold handleEvent
  rw [found]
  change _ ≤ (bridge.process runtime moment session.taskId sessionId event).2.logged _
  unfold process
  rw [sent]
  have emitted : Unlogged bridge
      ((bridge.collect sessionId event).emitAll runtime sessionId event) := emitAll_unlogged event
  rw [← emitted.logged_eq session.taskId]
  exact forward_logged (transformEvent_type sent) passes

def LogsOnce (runtime : Runtime) (bridge : EventBridge)
    (arrival : Moment × BridgeEvent × String) : Prop :=
  ∀ taskId, (bridge.handleEvent runtime arrival.1 arrival.2.1 arrival.2.2).2.logged taskId ≤
    bridge.logged taskId + 1

theorem logsOnce_iff (arrival : Moment × BridgeEvent × String) :
    LogsOnce runtime bridge arrival ↔
      ¬ Forwards runtime bridge arrival.1 arrival.2.1 arrival.2.2 := by
  constructor
  · intro once forwards
    obtain ⟨taskId, twice⟩ := handleEvent_logged forwards
    exact absurd (once taskId) (by omega)
  · intro unforwarded taskId
    rw [(handleEvent_unlogged unforwarded).logged_eq taskId]
    exact Nat.le_succ _

/-- Of a stream of events each one is logged at most once exactly if none is sent to the
frontend. -/
theorem events_logged_once_iff (runtime : Runtime) (bridge : EventBridge)
    (arrivals : List (Moment × BridgeEvent × String)) :
    Machine.Guarded (fun bridge arrival =>
        (bridge.handleEvent runtime arrival.1 arrival.2.1 arrival.2.2).2)
      (LogsOnce runtime) arrivals bridge ↔
    Machine.Guarded (fun bridge arrival =>
        (bridge.handleEvent runtime arrival.1 arrival.2.1 arrival.2.2).2)
      (fun bridge arrival => ¬ Forwards runtime bridge arrival.1 arrival.2.1 arrival.2.2)
      arrivals bridge :=
  Machine.guarded_congr fun _ => logsOnce_iff

/-- A message of an agent is logged four times: once for each of the three messages to the
frontend, and once by the bridge. -/
theorem message_logged_four_times :
    let event : BridgeEvent :=
      { type := "message.complete"
        properties := some (.obj [("sessionID", .str "s1"), ("content", .str "done")]) }
    twoSessions.logged "t1" = 0 ∧
      (twoSessions.handleEvent sampleRuntime {} event "/w").2.logged "t1" = 4 ∧
      ¬ LogsOnce sampleRuntime twoSessions ({}, event, "/w") := by
  intro event
  have before : twoSessions.logged "t1" = 0 := by decide +kernel
  have after : (twoSessions.handleEvent sampleRuntime {} event "/w").2.logged "t1" = 4 := by
    decide +kernel
  refine ⟨before, after, fun once => ?_⟩
  have most := once "t1"
  change (twoSessions.handleEvent sampleRuntime {} event "/w").2.logged "t1" ≤ _ at most
  omega

end Events

end MultiAgents.EventBridge
