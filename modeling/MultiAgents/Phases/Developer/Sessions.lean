import MultiAgents.Phases.Developer.Requests
import MultiAgents.Services.Rules

/-!
# The session of a story

`executeStoryWithSession` unregisters the session before it returns, and a
session that is not registered gets no events: a later wait on it only ends
with an error.
-/

namespace MultiAgents

open Effects

variable {assume : Assumption environment}

def Unregistered (session : Option String) (world : SystemWorld) : Prop :=
  ∀ sessionId ∈ session, ¬world.state.bridge.Registered sessionId

theorem Unregistered.next {session : Option String} {world : SystemWorld} {request : Request}
    (unregistered : Unregistered session world) (quiet : request.registers = false) :
    Unregistered session (world.next request) := by
  intro sessionId membership
  rw [Bridge.registered_congr (SystemWorld.next_activeSessions world quiet)]
  exact unregistered sessionId membership

theorem Unregistered.keeps {α : Type} {program : Program α} {session : Option String}
    (uses : Uses (fun request : Request => request.registers = false) program) :
    Keeps assume (Unregistered session) program :=
  uses.keeps fun _ _ quiet _ unregistered => unregistered.next quiet

theorem next_register_activeSessions (world : SystemWorld)
    (taskId sessionId directory : String) :
    (world.next (.registerSession taskId sessionId directory)).state.bridge.activeSessions =
      (world.state.bridge.registerSession taskId sessionId directory).activeSessions := by
  simp only [World.next, System.serve, System.edit, System.listen_activeSessions]
  unfold System.respond
  cases world.choice.fault <;> rfl

theorem registered_register (world : SystemWorld) (taskId sessionId : String)
    {directory : String} (present : directory ≠ "") (other : String) :
    (world.next (.registerSession taskId sessionId directory)).state.bridge.Registered other ↔
      other = sessionId ∨ world.state.bridge.Registered other := by
  rw [Bridge.registered_congr (next_register_activeSessions world taskId sessionId directory),
    Bridge.registered_registerSession _ _ _ present]

theorem registered_unregister (world : SystemWorld) (sessionId other : String) :
    (world.next (.unregisterSession sessionId)).state.bridge.Registered other ↔
      other ≠ sessionId ∧ world.state.bridge.Registered other := by
  have active : (world.next (.unregisterSession sessionId)).state.bridge.activeSessions =
      (world.state.bridge.unregisterSession sessionId).activeSessions := by
    simp only [World.next, System.serve, System.edit, System.listen_activeSessions]
    unfold System.respond
    cases world.choice.fault <;> rfl
  rw [Bridge.registered_congr active, Bridge.registered_unregisterSession]

theorem unregisterSession_unregistered (sessionId : String) (world : SystemWorld) :
    Unregistered (some sessionId) (world.next (.unregisterSession sessionId)) := by
  intro other same
  obtain rfl : sessionId = other := by simpa using same
  rw [registered_unregister]
  exact fun registered => registered.1 rfl

theorem waitForIdle_unregistered {sessionId : String} {timeout : Option Nat}
    {raised : String → SystemWorld → Prop} (error : ∀ message world, raised message world) :
    Triple assume (Unregistered (some sessionId)) (OpenCodeClient.waitForIdle sessionId timeout)
      (fun _ _ => False) raised := by
  refine .attempt (.call fun world unregistered _ => ?_)
  have answered : ∃ message,
      world.answer (.waitForIdle sessionId timeout) = .error message := by
    rw [SystemWorld.answer_eq _ rfl]
    have waited := Bridge.waitForSessionIdle_unregistered (unregistered sessionId rfl)
      (timeout.getD 1800000) world.choice.arrivals
    unfold System.respond
    cases world.choice.fault <;> exact waited
  obtain ⟨message, answered⟩ := answered
  rw [answered]
  exact error message _

theorem StoryContext.runSession_unregistered (context : StoryContext) (sessionId : String) :
    Triple assume (fun _ => True) (context.runSession sessionId)
      (fun result => Unregistered result.sessionId) (fun _ _ => True) := by
  have ended : Triple assume (fun _ => True) (OpenCodeEventBridge.unregisterSession sessionId)
      (fun _ => Unregistered (some sessionId)) (fun _ _ => True) :=
    .call fun world _ _ => unregisterSession_unregistered sessionId world
  have told (notice : Notice) : Triple assume (Unregistered (some sessionId))
      (context.toTask notice) (fun _ => Unregistered (some sessionId)) (fun _ _ => True) :=
    .call fun world unregistered _ => unregistered.next rfl
  refine Triple.nothing.bind fun _ => Triple.nothing.bind fun _ => Triple.nothing.bind fun _ => ?_
  refine Triple.nothing.bind fun progress => Triple.nothing.bind fun _ => ?_
  exact ended.bind fun _ => (told _).bind fun _ => .pure fun _ => id

theorem executeStoryWithSession_unregistered (context : StoryContext) :
    Triple assume (fun _ => True) (executeStoryWithSession context)
      (fun result world => result.verdict.isApproved = true → Unregistered result.sessionId world)
      (fun _ _ => True) := by
  refine Triple.nothing.bind fun answer => ?_
  cases answer with
  | error message =>
      refine .pure fun _ _ approved => ?_
      simp [StoryContext.failure, Verdict.isApproved] at approved
  | ok sessionId =>
      have session : Triple assume (fun _ => True) (context.runSession sessionId)
          (fun result world => result.verdict.isApproved = true →
            Unregistered result.sessionId world) (fun _ _ => True) :=
        (context.runSession_unregistered sessionId).weaken (fun _ => id)
          (fun _ _ unregistered _ => unregistered) (fun _ _ => id)
      refine session.tryCatch fun message => Triple.nothing.bind fun _ => ?_
      refine .pure fun _ _ approved => ?_
      simp [StoryContext.failure, Verdict.isApproved] at approved

namespace DeveloperPhaseContext

variable {context : DeveloperPhaseContext}

theorem feedbackRound_unregistered (story : Story) (storyIndex : Nat)
    (sessionId feedback : String) (attempt : Nat) (current : StoryExecutionResult) :
    Triple assume (Unregistered (some sessionId))
      (context.feedbackRound story storyIndex sessionId feedback attempt current)
      (fun _ _ => False) (fun _ _ => True) := by
  have quiet {α : Type} {program : Program α}
      (uses : Uses (fun request : Request => request.registers = false) program) :
      Triple assume (Unregistered (some sessionId)) program
        (fun _ => Unregistered (some sessionId)) (fun _ _ => True) :=
    (Unregistered.keeps uses).onRaise fun _ _ _ => trivial
  refine (quiet (.call rfl)).bind fun _ => (quiet (.call rfl)).bind fun _ => ?_
  refine (quiet (OpenCodeClient.sendPrompt_uses rfl)).bind fun _ => ?_
  refine (waitForIdle_unregistered fun _ _ => trivial).bind fun _ => ?_
  exact .of_fact False.elim

section Approval

variable {kept : SystemWorld → Prop}
  (listing : ∀ (world : SystemWorld) (command : GitCommand) (directory : String),
    command = .status ∨ command = .diffHead →
    assume (world.step (.git command directory)) world.history → kept world →
    kept (world.next (.git command directory)))
  (approval : ∀ (world : SystemWorld) (taskId storyId : String) (output : ApprovalOutput)
    (response : ApprovalResponse),
    world.answer (.requestApproval taskId (.story storyId) output) = .ok response →
    response.action = .approve →
    assume (world.step (.requestApproval taskId (.story storyId) output)) world.history →
    kept world → kept (world.next (.requestApproval taskId (.story storyId) output)))
include listing

theorem listing_triple {α : Type} {session : Option String} {program : Program α}
    (uses : Uses (fun request : Request => ∃ command directory,
      (command = .status ∨ command = .diffHead) ∧ request = .git command directory) program) :
    Triple assume (fun world => kept world ∧ Unregistered session world) program
      (fun _ world => kept world ∧ Unregistered session world) (fun _ _ => True) := by
  refine Triple.onRaise (uses.keeps ?_) fun _ _ _ => trivial
  rintro world _ ⟨command, directory, lists, rfl⟩ assumed ⟨holds, unregistered⟩
  exact ⟨listing world command directory lists assumed holds, unregistered.next rfl⟩

include approval

theorem askUser_unregistered (story : Story) (storyIndex attempt : Nat)
    (current : StoryExecutionResult) :
    Triple assume (fun world => kept world ∧ Unregistered current.sessionId world)
      (context.askUser story storyIndex attempt current)
      (fun outcome world => outcome = .rejected ∨ outcome = .approved ∧ kept world)
      (fun _ _ => True) := by
  refine (listing_triple listing (listChangedFiles_uses fun _ _ =>
    ⟨_, _, .inl rfl, rfl⟩)).bind fun _ => ?_
  refine (listing_triple listing (GitService.getFullDiff_uses ⟨_, _, .inr rfl, rfl⟩)).bind
    fun _ => ?_
  have asked (output : ApprovalOutput) : Triple assume
      (fun world => kept world ∧ Unregistered current.sessionId world)
      (ApprovalService.requestApproval context.taskId (.story story.id) output)
      (fun response world => (response.action = .approve → kept world) ∧
        Unregistered current.sessionId world) (fun _ _ => True) :=
    ApprovalService.requestApproval_triple
      (fun world response holds assumed answered =>
        ⟨fun approves => approval world _ _ _ response answered approves assumed holds.1,
          holds.2.next rfl⟩)
      fun _ _ _ _ _ => trivial
  refine (asked _).bind fun response => ?_
  split
  · rename_i approves
    exact .pure fun _ holds => .inr ⟨rfl, holds.1 approves⟩
  · exact .pure fun _ _ => .inl rfl
  · rename_i sessionId feedback _ same _
    refine ((feedbackRound_unregistered story storyIndex sessionId feedback attempt current).bind
      fun _ => .of_fact False.elim).before fun _ holds => ?_
    exact same ▸ holds.2
  · exact .pure fun _ _ => .inl rfl

theorem approvalLoop_unregistered (story : Story) (storyIndex remaining approvalAttempts : Nat)
    (current : StoryExecutionResult) :
    Triple assume (fun world => kept world ∧ Unregistered current.sessionId world)
      (context.approvalLoop story storyIndex remaining approvalAttempts current)
      (fun approved world => approved = true → kept world) (fun _ _ => True) := by
  cases remaining with
  | zero => exact .pure fun _ _ approved => by cases approved
  | succ remaining =>
      refine ((askUser_unregistered listing approval story storyIndex (approvalAttempts + 1)
        current).tryCatch fun _ => .pure fun _ _ => .inl rfl).bind fun outcome => ?_
      cases outcome with
      | approved => exact .pure fun _ holds _ => by simpa using holds
      | rejected => exact .pure fun _ _ approved => by cases approved
      | again current => exact fun _ holds => by simp at holds

end Approval

end DeveloperPhaseContext

end MultiAgents
