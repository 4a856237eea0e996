import MultiAgents.Properties.IdleWaits

/-!
# Idle events that come before the wait

A phase sends a prompt and then waits for the session.  The prompt is already being
processed while the phase still waits for the answer of the server, and then for
the module of the bridge.  Only after that the wait is begun.  It does not look at
what was collected before, so an idle event that came earlier is never heard.
-/

namespace MultiAgents.EventBridge

open Effects

/-- How far a phase is whose prompt has been accepted: `sendPrompt` waits for the answer,
`waitForIdle` for the import of the bridge, and then for the session. -/
inductive Stage where
  | prompting
  | importing
  | waiting (index : Nat)

inductive PhaseAction where
  | continues
  | bridge (action : Action)

def PhaseAction.isContinue : PhaseAction → Bool
  | .continues => true
  | .bridge _ => false

structure PromptingPhase where
  bridge : EventBridge
  stage : Stage := .prompting

namespace PromptingPhase

section Step

variable (runtime : Runtime) (sessionId : String) (timeout : Nat) (phase : PromptingPhase)

def step : PhaseAction → PromptingPhase
  | .bridge action => { phase with bridge := phase.bridge.step runtime action }
  | .continues =>
      match phase.stage with
      | .prompting => { phase with stage := .importing }
      | .importing =>
          { bridge := phase.bridge.step runtime (.waitForSessionIdle sessionId timeout)
            stage := .waiting phase.bridge.waits.length }
      | .waiting _ => phase

def result? : Option (Except String (List BridgeEvent)) :=
  match phase.stage with
  | .waiting index => phase.bridge.waits[index]?.bind Wait.outcome
  | _ => none

def BecomesIdle : PhaseAction → Prop
  | .continues => False
  | .bridge action => phase.bridge.Wakes sessionId "session.idle" action

/-- The wait is begun when the event is handled, or it returns later although the session does not
become idle again. -/
def Hears (actions : List PhaseAction) (event : PhaseAction) : Prop :=
  let reached := Machine.run (step runtime sessionId timeout) phase actions
  (∃ index, reached.stage = .waiting index) ∨
  ∃ rest events,
    Machine.Guarded (step runtime sessionId timeout)
      (fun phase action => ¬ phase.BecomesIdle sessionId action) rest
      (reached.step runtime sessionId timeout event) ∧
    (Machine.run (step runtime sessionId timeout) (reached.step runtime sessionId timeout event)
      rest).result? = some (.ok events)

end Step

end PromptingPhase

/-- The steps until the wait is begun. -/
def Stage.remaining : Stage → Nat
  | .prompting => 2
  | .importing => 1
  | .waiting _ => 0

theorem Stage.remaining_eq_zero {stage : Stage} :
    stage.remaining = 0 ↔ ∃ index, stage = .waiting index := by
  cases stage <;> simp [Stage.remaining]

theorem step_waits_length (runtime : Runtime) (bridge : EventBridge) (action : Action) :
    bridge.waits.length ≤ (bridge.step runtime action).waits.length := by
  have unregister (bridge : EventBridge) (sessionId : String) :
      (bridge.unregisterSession runtime sessionId).waits.length = bridge.waits.length := by
    rcases unregisterSession_waits runtime bridge sessionId with same | ⟨_, silenced⟩
    · rw [same]
    · rw [silenced, List.length_map]
  cases action with
  | registerSession taskId sessionId directory executionMeta =>
      change _ ≤ (if directory = "" then bridge else _).waits.length
      split <;> exact le_refl _
  | unregisterSession sessionId => exact (unregister bridge sessionId).ge
  | unregisterTaskSessions taskId =>
      have unregisterAll (sessions : List String) (bridge : EventBridge) :
          (sessions.foldl (EventBridge.unregisterSession runtime) bridge).waits.length =
            bridge.waits.length := by
        induction sessions generalizing bridge with
        | nil => rfl
        | cons sessionId rest ih =>
            exact (ih _).trans (unregister bridge sessionId)
      exact (unregisterAll _ bridge).ge
  | handleEvent moment event directory =>
      change _ ≤ (bridge.handleEvent runtime moment event directory).2.waits.length
      rcases bridge.handleEvent_cases runtime moment event directory with ⟨_, same⟩ |
        ⟨_, _, _, _, waits⟩
      · rw [same]
      · rw [waits, List.length_map]
  | waitForSessionIdle sessionId timeout =>
      change _ ≤ (bridge.waits ++ [_]).length
      simp
  | expire index =>
      change _ ≤ (bridge.waits.modify index Wait.expire).length
      rw [List.length_modify]
  | clearSessionEvents sessionId => exact le_refl _

namespace PromptingPhase

variable {runtime : Runtime} {sessionId : String} {timeout : Nat} {phase : PromptingPhase}

theorem run_remaining (actions : List PhaseAction) :
    (Machine.run (step runtime sessionId timeout) phase actions).stage.remaining =
      phase.stage.remaining - actions.countP PhaseAction.isContinue := by
  induction actions generalizing phase with
  | nil => rfl
  | cons action rest ih =>
      rw [Machine.run_cons, ih, List.countP_cons]
      cases action with
      | bridge action => rfl
      | continues =>
          have one : (phase.step runtime sessionId timeout .continues).stage.remaining =
              phase.stage.remaining - 1 := by
            obtain ⟨bridge, stage⟩ := phase
            cases stage <;> rfl
          rw [one]
          simp only [PhaseAction.isContinue, if_true]
          omega

def Unheard (sessionId : String) (phase : PromptingPhase) : Prop :=
  ∀ index, phase.stage = .waiting index → index < phase.bridge.waits.length ∧
    ∀ wait, phase.bridge.waits[index]? = some wait →
      wait.sessionId = sessionId ∧ ∀ events, wait.outcome ≠ some (.ok events)

theorem Unheard.step (unheard : phase.Unheard sessionId) {action : PhaseAction}
    (silent : ¬ phase.BecomesIdle sessionId action) :
    (phase.step runtime sessionId timeout action).Unheard sessionId := by
  cases action with
  | bridge action =>
      intro index stage
      obtain ⟨begun, outcome⟩ := unheard index stage
      refine ⟨lt_of_lt_of_le begun (step_waits_length runtime phase.bridge action), ?_⟩
      intro wait found
      rcases step_waits found with ⟨before, held, change⟩ | ⟨_, _, fresh, _, _⟩
      · obtain ⟨own, unsettled⟩ := outcome before held
        cases change with
        | same _ => exact ⟨own, unsettled⟩
        | silenced _ => exact ⟨own, unsettled⟩
        | expired message _ => exact ⟨own, nofun⟩
        | error event message _ _ _ => exact ⟨own, nofun⟩
        | idle event _ received named =>
            rw [own] at received
            exact absurd ⟨event, received, named⟩ silent
      · exact absurd fresh begun.ne
  | continues =>
      obtain ⟨bridge, stage⟩ := phase
      cases stage with
      | prompting => nofun
      | waiting index => exact unheard
      | importing =>
          intro index stage
          cases stage
          refine ⟨?_, fun wait found => ?_⟩
          · change bridge.waits.length < (bridge.waits ++ [_]).length
            simp
          · change (bridge.waits ++ [_])[bridge.waits.length]? = some wait at found
            rw [List.getElem?_concat_length] at found
            obtain rfl := Option.some.inj found
            exact ⟨rfl, nofun⟩

theorem Unheard.result? (unheard : phase.Unheard sessionId) (events : List BridgeEvent) :
    phase.result? ≠ some (.ok events) := by
  unfold PromptingPhase.result?
  split
  · rename_i index stage
    intro returned
    obtain ⟨wait, found, outcome⟩ := Option.bind_eq_some_iff.mp returned
    exact ((unheard index stage).2 wait found).2 events outcome
  · nofun

theorem unheard_of_remaining (sessionId : String) (early : phase.stage.remaining ≠ 0) :
    phase.Unheard sessionId := by
  intro index stage
  exact absurd (Stage.remaining_eq_zero.mpr ⟨index, stage⟩) early

theorem unheard_step (early : phase.stage.remaining ≠ 0) (event : PhaseAction) :
    (phase.step runtime sessionId timeout event).Unheard sessionId := by
  cases event with
  | bridge action => exact unheard_of_remaining sessionId early
  | continues => exact (unheard_of_remaining sessionId early).step not_false

theorem not_hears {actions : List PhaseAction} {event : PhaseAction}
    (early : (Machine.run (step runtime sessionId timeout) phase actions).stage.remaining ≠ 0) :
    ¬ phase.Hears runtime sessionId timeout actions event := by
  rintro (waiting | ⟨rest, events, silent, returned⟩)
  · exact early (Stage.remaining_eq_zero.mpr waiting)
  · have unheard := Machine.run_invariant (fun _ _ silent unheard => unheard.step silent) silent
      (unheard_step early event)
    exact unheard.result? events returned

/-- The idle event that ends the processing of a prompt is heard exactly when both answers, that
of the server and that of the import, have come before it. -/
theorem hears_iff (runtime : Runtime) (sessionId : String) (timeout : Nat) (bridge : EventBridge)
    (actions : List PhaseAction) (event : PhaseAction) :
    Hears runtime sessionId timeout { bridge } actions event ↔
      2 ≤ actions.countP PhaseAction.isContinue := by
  let reached := Machine.run (step runtime sessionId timeout) { bridge } actions
  have remaining : reached.stage.remaining = 2 - actions.countP PhaseAction.isContinue :=
    run_remaining actions
  constructor
  · intro hears
    by_contra early
    exact not_hears (show reached.stage.remaining ≠ 0 by omega) hears
  · intro answered
    exact .inl (Stage.remaining_eq_zero.mp (show reached.stage.remaining = 0 by omega))

section Samples

def samplePrompt : PromptingPhase where
  bridge := (initial .empty fun _ => {}).step sampleRuntime (beginSession "s1")

/-- The session becomes idle while the bridge is still being imported. -/
def earlyIdle : PhaseAction := .bridge (.handleEvent {} (idleEvent "s1") "/w")

/-- The idle event is collected, but the wait that is begun then never hears of it. -/
theorem early_idle_is_lost :
    ¬ samplePrompt.Hears sampleRuntime "s1" 1800000 [.continues] earlyIdle ∧
    (let waiting := Machine.run (step sampleRuntime "s1" 1800000) samplePrompt
      [.continues, earlyIdle, .continues]
    waiting.bridge.collected "s1" = [idleEvent "s1"] ∧
      waiting.bridge.waits.map (fun wait => wait.outcome.isSome) = [false]) :=
  ⟨not_hears (by decide +kernel), by decide +kernel⟩

end Samples

end PromptingPhase

end MultiAgents.EventBridge
