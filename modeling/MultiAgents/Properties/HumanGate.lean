import MultiAgents.Orchestrator.Rules
import MultiAgents.Properties.Sample

/-!
# The user's decision between phases

The phases ask for approval at four places.  The orchestrator tests the answer
as an object, so only the Planning phase can be stopped, and only by a plain
rejection.  A phase is entered when the task is marked with it.
-/

namespace MultiAgents

open Effects Record

def ApprovalPhase.isPhaseLevel : ApprovalPhase → Bool
  | .productPlanning | .analysis | .developer | .testGeneration => true
  | .clarification | .story _ => false

def approval? : SystemStep → Option (ApprovalPhase × Except String ApprovalResponse)
  | ⟨_, _, .requestApproval _ phase _, answer⟩ => some (phase, answer)
  | _ => none

def refuses : ApprovalPhase × Except String ApprovalResponse → Bool
  | (phase, .ok response) => phase.isPhaseLevel && response.action != .approve
  | (phase, .error _) => phase.isPhaseLevel

/-- The step asked for the approval of a phase and the answer was not to approve. -/
def refused (step : SystemStep) : Bool := (approval? step).any refuses

/-- The request marks the task with a phase that needs the approvals before it. -/
def Request.entersPhase : Request → Bool
  | .writeTask _ (.setCurrentPhase phase) =>
      [Phase.analysis, .developer, .testGeneration, .merge].contains phase
  | _ => false

def EntersApproved (step : SystemStep) (past : List SystemStep) : Prop :=
  step.call.entersPhase = true → ∀ earlier ∈ past, refused earlier = false

instance (step : SystemStep) (past : List SystemStep) : Decidable (EntersApproved step past) :=
  inferInstanceAs (Decidable (_ → ∀ _ ∈ _, _))

/-- An answer that has its effect: the Analysis, Developer and TestGeneration phases can only be
approved, and a plan can be approved or rejected. -/
def hasEffect : ApprovalPhase × Except String ApprovalResponse → Bool
  | (.productPlanning, .ok response) => response.action != .requestChanges
  | (.analysis, .ok response) => response.action == .approve
  | (.developer, .ok response) => response.action == .approve
  | (.testGeneration, .ok response) => response.action == .approve
  | (.testGeneration, .error _) => false
  | _ => true

def AnswerHasEffect (step : SystemStep) : Prop := (approval? step).all hasEffect = true

instance (step : SystemStep) : Decidable (AnswerHasEffect step) :=
  inferInstanceAs (Decidable (_ = true))

namespace HumanGate

theorem approval?_step (world : SystemWorld) (taskId : String) (phase : ApprovalPhase)
    (output : ApprovalOutput) : approval? (world.step (.requestApproval taskId phase output)) =
      some (phase, world.answer (.requestApproval taskId phase output)) := rfl

/-- No approval of a phase was refused so far. -/
def Unrefused (world : SystemWorld) : Prop := ∀ earlier ∈ world.history, refused earlier = false

def Gated (world : SystemWorld) : Prop := Always EntersApproved world.history

/-- Every phase so far was entered with approvals, and nothing was refused since. -/
def Open (world : SystemWorld) : Prop := Gated world ∧ Unrefused world

abbrev Works : Assumption environment := fun step _ => AnswerHasEffect step

theorem Gated.next {world : SystemWorld} {request : Request} (gated : Gated world)
    (quiet : request.entersPhase = false) : Gated (world.next request) :=
  .cons (fun enters => by simp [World.step, quiet] at enters) gated

theorem Open.next {world : SystemWorld} {request : Request} (holds : Open world)
    (answered : refused (world.step request) = false) : Open (world.next request) := by
  refine ⟨.cons (fun _ => holds.2) holds.1, fun earlier membership => ?_⟩
  rw [World.next_history] at membership
  rcases List.mem_cons.mp membership with rfl | past
  · exact answered
  · exact holds.2 earlier past

/-- Requests that neither enter a phase nor ask about one, the tests apart. -/
def harmless : Request → Bool
  | .requestApproval _ phase _ => !phase.isPhaseLevel || phase == .testGeneration
  | request => !request.entersPhase

theorem refused_of_harmless {world : SystemWorld} {request : Request}
    (permitted : harmless request = true) (assumed : AnswerHasEffect (world.step request)) :
    refused (world.step request) = false := by
  cases request with
  | requestApproval taskId phase output =>
      rw [AnswerHasEffect, approval?_step] at assumed
      rw [refused, approval?_step]
      generalize world.answer (.requestApproval taskId phase output) = answer at assumed ⊢
      rcases answer with _ | response <;> cases phase <;>
        simp_all [hasEffect, refuses, harmless, ApprovalPhase.isPhaseLevel]
  | _ => rfl

theorem Open.keeps {α : Type} {program : Program α}
    (uses : Uses (fun request => harmless request = true) program) :
    Keeps Works Open program :=
  uses.keeps fun _ _ permitted assumed holds => holds.next (refused_of_harmless permitted assumed)

theorem Gated.keeps {α : Type} {program : Program α} {assume : Assumption environment}
    (uses : Uses (fun request : Request => request.entersPhase = false) program) :
    Keeps assume Gated program :=
  uses.keeps fun _ _ quiet _ gated => gated.next quiet

theorem Open.triple {α : Type} {program : Program α}
    (uses : Uses (fun request => harmless request = true) program) :
    Triple Works Open program (fun _ => Open) (fun _ => Gated) :=
  (Open.keeps uses).onRaise fun _ _ holds => holds.1

theorem harmless_of_agentWork (request : Request) (work : request.isAgentWork = true) :
    harmless request = true := by
  cases request with
  | requestApproval taskId phase output =>
      cases phase <;> first | rfl | simp [Request.isAgentWork] at work
  | writeTask taskId write =>
      cases write <;> first | rfl | simp [Request.isAgentWork] at work
  | _ => rfl

theorem executeDeveloperPhase_uses {context : DeveloperPhaseContext}
    (saves : ∀ write ∈ context.onStoryComplete, ∀ storyIndex,
      harmless (.writeTask context.taskId (write storyIndex)) = true) :
    Uses (fun request => harmless request = true) (executeDeveloperPhase context) := by
  have permits : context.Permits fun request => harmless request = true :=
    { session := fun _ => ⟨fun _ _ => rfl, fun _ => rfl, fun _ => rfl⟩
      approval := fun _ _ => rfl
      diff := rfl
      status := fun _ _ => rfl
      existsSync := fun _ => rfl
      readFileSync := fun _ => rfl
      readdirSync := fun _ => rfl
      execBuild := fun _ _ => rfl
      log := fun _ _ => rfl
      rollback := fun _ _ _ _ => rfl
      create := fun _ _ => rfl
      register := fun _ _ => rfl
      unregister := fun _ => rfl
      record := fun _ => rfl
      closed := fun _ _ _ _ => rfl
      save := saves
      recording := fun _ _ _ _ => rfl }
  exact .bind (DeveloperPhaseContext.checkoutRepositories_uses fun _ _ _ => rfl) fun _ =>
    permits.executeStories (fun _ => rfl) fun _ _ _ => rfl

theorem executeAnalysisPhase_harmless (context : AnalysisPhaseContext) :
    Uses (fun request => harmless request = true) (executeAnalysisPhase context) :=
  executeAnalysisPhase_uses harmless_of_agentWork (fun _ _ => rfl) fun _ _ _ => rfl

theorem runTestGenerationPhase_harmless (context : TestGenerationContext) :
    Uses (fun request => harmless request = true) (runTestGenerationPhase context) :=
  runTestGenerationPhase_uses harmless_of_agentWork fun _ _ => rfl

theorem executeMergePhase_harmless (context : MergePhaseContext) :
    Uses (fun request => harmless request = true) (executeMergePhase context) :=
  executeMergePhase_uses ⟨fun _ _ => rfl, fun _ _ => rfl, fun _ _ => rfl, fun _ _ => rfl⟩
    fun _ _ _ _ => rfl

theorem approvePlan_triple (taskId : String) (output : ApprovalOutput) :
    Triple Works Open (ApprovalService.requestApproval taskId .productPlanning output)
      (fun response world => Gated world ∧ (response.action ≠ .reject → Unrefused world))
      (fun _ => Gated) := by
  refine ApprovalService.requestApproval_triple (fun world response holds assumed answer => ?_)
    fun world _ holds _ _ => holds.1.next rfl
  refine ⟨holds.1.next rfl, fun kept => (holds.next ?_).2⟩
  have effect : AnswerHasEffect (world.step (.requestApproval taskId .productPlanning output)) :=
    assumed
  rw [AnswerHasEffect, approval?_step, answer] at effect
  rw [refused, approval?_step, answer]
  cases action : response.action <;>
    simp_all [hasEffect, refuses, ApprovalPhase.isPhaseLevel]

theorem rejected_triple (context : ProductPlanningContext) (plan : Plan) :
    Triple Works Open (context.rejected plan)
      (fun rejected world => Gated world ∧ (rejected = false → Unrefused world))
      (fun _ => Gated) := by
  refine .ite (fun _ => .pure fun _ holds => ⟨holds.1, fun _ => holds.2⟩) fun _ => ?_
  refine (approvePlan_triple _ _).bind fun response => .pure fun world holds =>
    ⟨holds.1, fun kept => holds.2 fun rejects => ?_⟩
  simp [rejects] at kept

theorem concludePlan_triple (context : ProductPlanningContext) (sessionId : String)
    (plan : Plan) :
    Triple Works Open (context.conclude sessionId plan)
      (fun result world => Gated world ∧ (result.success = true → Unrefused world))
      (fun _ => Gated) := by
  refine (rejected_triple context plan).bind fun rejected => ?_
  cases rejected with
  | true =>
      have aborted : Keeps Works Gated (OpenCodeClient.abortSession sessionId) :=
        Gated.keeps (.attempt (.call rfl))
      exact Triple.bind (aborted.before fun _ => And.left) fun _ =>
        .pure fun _ gated => ⟨gated, nofun⟩
  | false =>
      have aborted : Triple Works Open (OpenCodeClient.abortSession sessionId) (fun _ => Open)
          (fun _ => Gated) := Open.triple (.attempt (.call rfl))
      refine (aborted.before fun _ holds => ⟨holds.1, holds.2 rfl⟩).bind fun _ => ?_
      have told : Triple Works Open (context.toTask (.phaseCompleted .planning)) (fun _ => Open)
          (fun _ => Gated) := Open.triple (.call rfl)
      exact told.bind fun _ => .pure fun _ holds => ⟨holds.1, fun _ => holds.2⟩

theorem runPlanningSession_triple (context : ProductPlanningContext) (sessionId : String) :
    Triple Works Open (context.runSession sessionId)
      (fun result world => Gated world ∧ (result.success = true → Unrefused world))
      (fun _ => Gated) := by
  have talk (request : Request) (talks : request.isTalk = true) : harmless request = true :=
    harmless_of_agentWork request (request.isAgentWork_of_talk talks)
  refine (Open.triple (.call rfl)).bind fun _ => ?_
  refine (Open.triple (SessionRepository.create_uses rfl)).bind fun _ => ?_
  refine (Open.triple (ProductPlanningContext.startAgent_uses talk _ _ _ _)).bind fun _ => ?_
  refine (Open.triple (ProductPlanningContext.ask_uses talk _ _)).bind fun complexity => ?_
  refine .ite (fun _ => .pure fun _ holds => ⟨holds.1, fun _ => holds.2⟩) fun _ => ?_
  refine (Open.triple (ProductPlanningContext.makePlan_uses talk _ _)).bind fun plan => ?_
  exact (Open.triple (ProductPlanningContext.judgeLoop_uses talk _ _ _ _)).bind
    fun plan => concludePlan_triple context sessionId plan

theorem runProductPlanningPhase_triple (context : ProductPlanningContext) :
    Triple Works Open (runProductPlanningPhase context)
      (fun result world => Gated world ∧ (result.success = true → Unrefused world))
      (fun _ => Gated) := by
  refine (Open.triple (.call rfl)).bind fun _ => (Open.triple (.call rfl)).bind fun answer => ?_
  have failed (notice : Notice) : Keeps Works Gated (context.toTask notice) :=
    Gated.keeps (.call rfl)
  cases answer with
  | error message =>
      exact Triple.bind ((failed _).before fun _ => And.left) fun _ =>
        .pure fun _ gated => ⟨gated, nofun⟩
  | ok sessionId =>
      refine (runPlanningSession_triple context sessionId).tryCatch fun _ =>
        Triple.bind (failed _) fun _ => ?_
      have aborted : Keeps Works Gated
          (tryCatch (OpenCodeClient.abortSession sessionId) fun _ => pure ()) :=
        Gated.keeps (.tryCatch (.attempt (.call rfl)) fun _ => .pure _)
      exact Triple.bind aborted fun _ => .pure fun _ gated => ⟨gated, nofun⟩

theorem write_triple (taskId : String) (change : TaskWrite) :
    Triple Works Open (TaskRepository.write taskId change) (fun _ => Open) (fun _ => Gated) := by
  refine .attempt (.call fun world holds _ => ?_)
  have next : Open (world.next (.writeTask taskId change)) := holds.next rfl
  cases world.answer (.writeTask taskId change) with
  | error message => exact next.1
  | ok value => exact next

theorem approval_triple (taskId : String) {phase : ApprovalPhase} (output : ApprovalOutput)
    (asked : phase.isOrchestrated = true) :
    Triple Works Open (ApprovalService.requestApproval taskId phase output) (fun _ => Open)
      (fun _ => Gated) := by
  refine ApprovalService.requestApproval_triple (fun world response holds assumed answer => ?_)
    fun world _ holds _ _ => holds.1.next rfl
  have effect : AnswerHasEffect (world.step (.requestApproval taskId phase output)) := assumed
  rw [AnswerHasEffect, approval?_step, answer] at effect
  refine holds.next ?_
  rw [refused, approval?_step, answer]
  cases phase <;> simp_all [hasEffect, refuses, ApprovalPhase.isOrchestrated]

theorem rules (taskId : String) (options : OrchestrationOptions) :
    StageRules taskId options Works Open Gated where
  weaker _ := And.left
  find := Open.triple (.attempt (.call rfl))
  configure := Open.triple (.attempt (.call rfl))
  write := write_triple taskId
  callback _ := Open.triple (.attempt (.call rfl))
  report _ := Gated.keeps (.attempt (.call rfl))
  notice _ _ := Open.triple (.call rfl)
  approval _ output asked := approval_triple taskId output asked
  planning _ := (runProductPlanningPhase_triple _).weaken (fun _ => id)
    (fun _ _ holds => ⟨holds.1, fun success => ⟨holds.1, holds.2 success⟩⟩) fun _ _ => id
  analysis _ _ := Open.triple (executeAnalysisPhase_harmless _)
  developer row analysis := by
    refine Open.triple (executeDeveloperPhase_uses ?_)
    rintro write ⟨⟩ storyIndex
    rfl
  tests _ _ := Open.triple (runTestGenerationPhase_harmless _)
  merge _ _ _ _ := Open.triple (executeMergePhase_harmless _)
  complete _ _ := Gated.keeps (Orchestration.complete_uses (fun _ _ => rfl) (fun _ _ => rfl) rfl
    rfl (fun _ => rfl) (fun _ => rfl) rfl)

end HumanGate

/-- In every run in which each answer about a phase has its effect, the phases are entered only
after all approvals asked for before. -/
theorem phases_entered_only_after_approval (taskId : String) (options : OrchestrationOptions)
    (system : System) (choices : Nat → Choice)
    (effective : Always (fun step _ => AnswerHasEffect step)
      ((execute taskId options).exec (system.start choices)).2.history) :
    Always EntersApproved ((execute taskId options).exec (system.start choices)).2.history :=
  (HumanGate.rules taskId options).execute.exec ⟨.nil, by simp [HumanGate.Unrefused,
    System.start, World.start]⟩ effective

/-- The user rejects the analysis and the Developer phase is entered. -/
theorem developer_entered_after_rejected_analysis :
    ¬Always EntersApproved ((execute "42" Sample.options).exec (Sample.project.start
      (Sample.analyzedTask [(49, { response := ⟨.reject, none⟩ })]))).2.history := by
  decide +kernel

theorem phases_entered_only_after_approval_analyzed :
    Always EntersApproved ((execute "42" Sample.options).exec
      (Sample.project.start (Sample.analyzedTask []))).2.history :=
  phases_entered_only_after_approval _ _ _ _ (by decide +kernel)

end MultiAgents
