import MultiAgents.Phases.Developer.Sessions
import MultiAgents.Properties.Sample

/-!
# Waiting on registered sessions

A wait can only end with an idle event of its session, and the bridge delivers
events of registered sessions only.  The story loop waits between registration
and unregistration; the FIX prompt after a failed build and the user's feedback
go to the session when it is unregistered already.
-/

namespace MultiAgents

open Effects Record

def Request.awaited? : Request → Option String
  | .waitForIdle sessionId _ => some sessionId
  | _ => none

def WaitsOnRegistered (step : SystemStep) : Prop :=
  ∀ sessionId ∈ step.call.awaited?, step.before.bridge.Registered sessionId

instance (step : SystemStep) : Decidable (WaitsOnRegistered step) :=
  inferInstanceAs (Decidable (∀ sessionId ∈ step.call.awaited?, _))

/-- A prompt to a story's session after its loop: the errors of a build or the user's
feedback. -/
def promptsAfterLoop : SystemStep → Bool
  | ⟨_, _, .sendPrompt _ (.developer (.buildFix _)), .ok _⟩ => true
  | ⟨_, _, .sendPrompt _ (.developer (.feedback _)), .ok _⟩ => true
  | _ => false

def NoPromptAfterLoop (step : SystemStep) : Prop := promptsAfterLoop step = false

instance (step : SystemStep) : Decidable (NoPromptAfterLoop step) :=
  inferInstanceAs (Decidable (_ = _))

namespace SessionWaits

variable {assume : Assumption environment}

def Waits (world : SystemWorld) : Prop :=
  Always (fun step _ => WaitsOnRegistered step) world.history

def Open (sessionId : String) (world : SystemWorld) : Prop :=
  Waits world ∧ world.state.bridge.Registered sessionId

theorem Waits.keeps {α : Type} {program : Program α}
    (uses : Uses (fun request : Request => request.awaited? = none) program) :
    Keeps assume Waits program := by
  refine uses.keeps fun world request other _ waits => .cons (fun sessionId awaited => ?_) waits
  rw [World.step_call, other] at awaited
  cases awaited

structure UsesSession (sessionId : String) (request : Request) : Prop where
  quiet : request.registers = false
  same : ∀ awaited ∈ request.awaited?, awaited = sessionId

theorem UsesSession.of_quiet {sessionId : String} {request : Request}
    (quiet : request.registers = false) (none : request.awaited? = none) :
    UsesSession sessionId request :=
  ⟨quiet, by simp [none]⟩

theorem Open.keeps {α : Type} {sessionId : String} {program : Program α}
    (uses : Uses (UsesSession sessionId) program) :
    Keeps assume (Open sessionId) program := by
  refine uses.keeps ?_
  rintro world request ⟨quiet, same⟩ _ ⟨waits, registered⟩
  refine ⟨.cons (fun awaited membership => ?_) waits, ?_⟩
  · rw [same awaited membership]
    exact registered
  · rwa [Bridge.registered_congr (SystemWorld.next_activeSessions world quiet)]

theorem register_opens {taskId sessionId directory : String} (present : directory ≠ "") :
    Triple assume Waits (OpenCodeEventBridge.registerSession taskId sessionId directory)
      (fun _ => Open sessionId) (fun _ => Waits) := by
  refine .call fun world waits _ => ⟨.cons (fun _ awaited => by cases awaited) waits, ?_⟩
  rw [registered_register _ _ _ present]
  exact .inl rfl

theorem runSession_waits {context : StoryContext} (present : context.projectPath ≠ "")
    (sessionId : String) : Keeps assume Waits (context.runSession sessionId) := by
  have opened {α : Type} {program : Program α}
      (uses : Uses (UsesSession sessionId) program) :
      Triple assume (Open sessionId) program (fun _ => Open sessionId) (fun _ => Waits) :=
    (Open.keeps uses).onRaise fun _ _ => And.left
  have closed {request : Request} (other : request.awaited? = none) :
      Keeps assume Waits (Request.issue request) := Waits.keeps (.call other)
  have looped : Uses (UsesSession sessionId) (context.iterate sessionId maxIterations {}) :=
    StoryContext.iterate_uses ⟨fun _ _ => .of_quiet rfl rfl, fun _ => .of_quiet rfl rfl,
      fun _ => ⟨rfl, fun _ awaited => (Option.some.inj awaited).symm⟩⟩ _ _
  refine (register_opens present).bind fun _ => ?_
  refine (opened (SessionRepository.create_uses (.of_quiet rfl rfl))).bind fun _ => ?_
  refine (opened (.call (.of_quiet rfl rfl))).bind fun _ => (opened looped).bind fun _ => ?_
  refine (opened (SessionRepository.updateStatus_uses (.of_quiet rfl rfl))).bind fun _ => ?_
  refine Triple.bind ((closed rfl).before fun _ => And.left) fun _ => ?_
  exact Triple.bind (closed rfl) fun _ => .pure fun _ => id

theorem executeStoryWithSession_waits {context : StoryContext}
    (present : context.projectPath ≠ "") :
    Keeps assume Waits (executeStoryWithSession context) := by
  refine Triple.bind (Waits.keeps (.call rfl)) fun answer => ?_
  cases answer with
  | error message => exact .pure fun _ => id
  | ok sessionId =>
      refine Keeps.tryCatch (runSession_waits present sessionId) fun message => ?_
      refine Triple.bind (Waits.keeps (.tryCatch ?_ fun _ => .pure _)) fun _ => .pure fun _ => id
      exact .bind (SessionRepository.updateStatus_uses rfl) fun _ => .call rfl

theorem sendPrompt_waits {sessionId : String} {prompt : DeveloperPrompt}
    (late : ∀ world : SystemWorld, world.answer (.sendPrompt sessionId (.developer prompt)) =
      .ok () → promptsAfterLoop (world.step (.sendPrompt sessionId (.developer prompt))) = true) :
    Triple (fun step _ => NoPromptAfterLoop step) Waits
      (OpenCodeClient.sendPrompt sessionId (.developer prompt)) (fun _ _ => False)
      (fun _ => Waits) := by
  refine .attempt (.call fun world waits none => ?_)
  rcases answered : world.answer (.sendPrompt sessionId (.developer prompt)) with message | _
  · exact .cons (fun _ awaited => by cases awaited) waits
  · rw [NoPromptAfterLoop, late world answered] at none
    cases none

variable {context : DeveloperPhaseContext}

theorem requestBuildFix_waits (sessionId errors : String) :
    Keeps (fun step _ => NoPromptAfterLoop step) Waits
      (DeveloperPhaseContext.requestBuildFix sessionId errors) := by
  refine Keeps.tryCatch ?_ fun _ => .pure fun _ => id
  refine (sendPrompt_waits fun world answered => ?_).bind fun _ => .of_fact False.elim
  rw [World.step_of_answer answered]
  rfl

theorem verifyBuild_waits (story : Story) (session : Option String)
    (remaining buildAttempts : Nat) (result : StoryResultV2) :
    Keeps (fun step _ => NoPromptAfterLoop step) Waits
      (context.verifyBuild story session remaining buildAttempts result) := by
  have told (notice : Notice) :
      Keeps (fun step _ => NoPromptAfterLoop step) Waits (context.toTask notice) :=
    Waits.keeps (.call rfl)
  have checked : Keeps (fun step _ => NoPromptAfterLoop step) Waits
      (runBuildChecksOnRepos context.repositories context.taskId) :=
    Waits.keeps (runBuildChecksOnRepos_uses
      ⟨⟨fun _ => rfl, fun _ => rfl, fun _ => rfl⟩, fun _ _ => rfl⟩ (fun _ _ => rfl) fun _ _ => rfl)
  induction remaining generalizing buildAttempts with
  | zero => exact .pure fun _ => id
  | succ remaining ih =>
      refine checked.bind fun checks => .ite (fun _ => ?_) fun _ => ?_
      · exact (told _).bind fun _ => .pure fun _ => id
      · refine (told _).bind fun _ => ?_
        split
        · exact (requestBuildFix_waits _ _).bind fun _ => ih _
        · exact ih _
        · refine Waits.keeps (.bind (.call rfl) fun _ => .bind (.ofExcept _) fun _ => ?_)
          exact .bind (DeveloperPhaseContext.rollbackRepositories_uses fun _ _ _ _ => rfl)
            fun _ => .bind (.call rfl) fun _ => .pure _

theorem feedbackRound_waits (story : Story) (storyIndex : Nat) (sessionId feedback : String)
    (attempt : Nat) (current : StoryExecutionResult) :
    Keeps (fun step _ => NoPromptAfterLoop step) Waits
      (context.feedbackRound story storyIndex sessionId feedback attempt current) := by
  refine Triple.bind (Waits.keeps (.call rfl)) fun _ => ?_
  refine Triple.bind (Waits.keeps (.call rfl)) fun _ => ?_
  refine (sendPrompt_waits fun world answered => ?_).bind fun _ => .of_fact False.elim
  rw [World.step_of_answer answered]
  rfl

theorem approvalLoop_waits (story : Story) (storyIndex remaining approvalAttempts : Nat)
    (current : StoryExecutionResult) :
    Keeps (fun step _ => NoPromptAfterLoop step) Waits
      (context.approvalLoop story storyIndex remaining approvalAttempts current) := by
  have asked (attempt : Nat) (current : StoryExecutionResult) :
      Keeps (fun step _ => NoPromptAfterLoop step) Waits
        (context.askUser story storyIndex attempt current) := by
    refine Triple.bind (Waits.keeps (DeveloperPhaseContext.listChangedFiles_uses
      fun _ _ => rfl)) fun _ => ?_
    refine Triple.bind (Waits.keeps (GitService.getFullDiff_uses rfl)) fun _ => ?_
    refine Triple.bind (Waits.keeps (.attempt (.call rfl))) fun response => ?_
    split
    · exact .pure fun _ => id
    · exact .pure fun _ => id
    · exact (feedbackRound_waits story storyIndex _ _ attempt current).bind
        fun _ => .pure fun _ => id
    · exact .pure fun _ => id
  induction remaining generalizing approvalAttempts current with
  | zero => exact .pure fun _ => id
  | succ remaining ih =>
      refine (Keeps.tryCatch (asked _ current) fun _ => .pure fun _ => id).bind fun outcome => ?_
      cases outcome with
      | approved => exact .pure fun _ => id
      | rejected => exact .pure fun _ => id
      | again current => exact ih _ current

theorem acceptStory_waits (story : Story) (storyIndex : Nat) (result : StoryExecutionResult)
    (recorded : StoryResultV2) :
    Keeps (fun step _ => NoPromptAfterLoop step) Waits
      (context.acceptStory story storyIndex result recorded) := by
  have concluded (approved : Bool) (recorded : StoryResultV2) :
      Keeps (fun step _ => NoPromptAfterLoop step) Waits
        (context.concludeStory story storyIndex approved recorded) := by
    refine Waits.keeps (.ite (.bind (.call rfl) fun _ => ?_) (.bind (.call rfl) fun _ => ?_))
    · exact .bind (DeveloperPhaseContext.commitRepositories_uses fun _ _ _ _ => rfl)
        fun _ => .pure _
    · exact .bind (DeveloperPhaseContext.rollbackRepositories_uses fun _ _ _ _ => rfl)
        fun _ => .bind (.call rfl) fun _ => .pure _
  refine Triple.bind (Waits.keeps (DeveloperPhaseContext.anyRepoHasChanges_uses fun _ _ => rfl))
    fun changed => .ite (fun _ => ?_) fun _ => .pure fun _ => id
  refine Triple.bind (Waits.keeps (.call rfl)) fun _ => ?_
  refine (verifyBuild_waits story result.sessionId _ _ recorded).bind fun _ => ?_
  have decided : Keeps (fun step _ => NoPromptAfterLoop step) Waits
      (context.awaitApproval story storyIndex result) :=
    .ite (fun _ => .pure fun _ => id) fun _ => approvalLoop_waits story storyIndex _ _ result
  exact decided.bind fun _ => (concluded _ _).bind fun _ => .pure fun _ => id

theorem executeDeveloperPhase_waits (context : DeveloperPhaseContext)
    (present : context.projectPath ≠ "") :
    Keeps (fun step _ => NoPromptAfterLoop step) Waits (executeDeveloperPhase context) := by
  refine DeveloperPhaseContext.executeDeveloperPhase_rule
    (fun uses => Waits.keeps (uses.mono fun _ frames => by cases frames <;> rfl))
    (fun _ _ => executeStoryWithSession_waits present) fun story storyIndex result =>
      .ite (fun _ => acceptStory_waits story storyIndex result _) fun _ => ?_
  refine Waits.keeps (.bind (.call rfl) fun _ => ?_)
  exact .bind (DeveloperPhaseContext.rollbackRepositories_uses fun _ _ _ _ => rfl)
    fun _ => .bind (.ite (.call rfl) (.pure _)) fun _ => .pure _

end SessionWaits

/-- For every sequence of verdicts, build results and user answers: in a project with a path,
as long as no prompt is sent to a session after its story loop, every wait is on a session that
is registered. -/
theorem developer_waits_on_registered_sessions (context : DeveloperPhaseContext)
    (system : System) (choices : Nat → Choice) (present : context.projectPath ≠ "")
    (loopOnly : Always (fun step _ => NoPromptAfterLoop step)
      ((executeDeveloperPhase context).exec (system.start choices)).2.history) :
    Always (fun step _ => WaitsOnRegistered step)
      ((executeDeveloperPhase context).exec (system.start choices)).2.history :=
  Triple.exec (SessionWaits.executeDeveloperPhase_waits context present) .nil loopOnly

/-- After a failed build the phase waits for a session that is unregistered already. -/
theorem developer_waits_on_unregistered_session :
    ¬Always (fun step _ => WaitsOnRegistered step)
      ((executeDeveloperPhase (Sample.developer [Sample.api])).exec
        (Sample.backend.start (Sample.unbuildableStory {}))).2.history := by
  decide +kernel

theorem developer_waits_on_registered_sessions_accepted :
    Always (fun step _ => WaitsOnRegistered step)
      ((executeDeveloperPhase (Sample.developer [Sample.api])).exec
        (Sample.backend.start Sample.acceptedStory)).2.history :=
  developer_waits_on_registered_sessions _ _ _ (by decide) (by decide +kernel)

end MultiAgents
