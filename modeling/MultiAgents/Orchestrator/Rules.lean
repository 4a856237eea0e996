import MultiAgents.Phases.Requests
import MultiAgents.Services.Rules

/-!
# A rule for whole orchestrations

What holds while the phases go on, `good`, and what is left of it once one of
them has ended them, `after`: it is enough to know what each phase and each
request of the orchestrator does to the two.
-/

namespace MultiAgents

open Effects

/-- The approvals the orchestrator itself asks for. -/
def ApprovalPhase.isOrchestrated : ApprovalPhase → Bool
  | .analysis | .developer | .testGeneration => true
  | _ => false

/-- What the parts of an orchestration do to `good` and `after`. -/
structure StageRules (taskId : String) (options : OrchestrationOptions)
    (assume : Assumption environment) (good after : SystemWorld → Prop) : Prop where
  weaker : ∀ world, good world → after world
  find : Triple assume good (TaskRepository.findById taskId) (fun _ => good) (fun _ => after)
  configure : Triple assume good (Process.attempt (Request.issue (.configureModels taskId)))
    (fun _ => good) (fun _ => after)
  write : ∀ change, Triple assume good (TaskRepository.write taskId change) (fun _ => good)
    (fun _ => after)
  callback : ∀ callback,
    Triple assume good (Process.attempt (Request.issue (.callback taskId callback)))
      (fun _ => good) (fun _ => after)
  report : ∀ callback,
    Keeps assume after (Process.attempt (Request.issue (.callback taskId callback)))
  notice : ∀ notice : Notice, notice.isMilestone = false →
    Triple assume good (SocketService.toTask taskId notice) (fun _ => good) (fun _ => after)
  approval : ∀ phase output, phase.isOrchestrated = true →
    Triple assume good (ApprovalService.requestApproval taskId phase output) (fun _ => good)
      (fun _ => after)
  planning : ∀ row, Triple assume good
    (runProductPlanningPhase (Orchestration.mk taskId row options).planningContext)
    (fun result world => after world ∧ (result.success = true → good world)) (fun _ => after)
  analysis : ∀ row planning, Triple assume good
    (executeAnalysisPhase ((Orchestration.mk taskId row options).analysisContext planning))
    (fun _ => good) (fun _ => after)
  developer : ∀ row analysis, Triple assume good
    (executeDeveloperPhase ((Orchestration.mk taskId row options).developerContext analysis))
    (fun _ => good) (fun _ => after)
  tests : ∀ row developer, Triple assume good
    (runTestGenerationPhase ((Orchestration.mk taskId row options).testContext developer))
    (fun _ => good) (fun _ => after)
  merge : ∀ row analysis developer description, Triple assume good
    (executeMergePhase
      ((Orchestration.mk taskId row options).mergeContext analysis developer description))
    (fun _ => good) (fun _ => after)
  complete : ∀ row results,
    Keeps assume after ((Orchestration.mk taskId row options).complete results)

namespace StageRules

variable {taskId : String} {options : OrchestrationOptions} {assume : Assumption environment}
  {good after : SystemWorld → Prop} (rules : StageRules taskId options assume good after)
  (row : TaskRow)
include rules

omit rules in
theorem keep {pre : SystemWorld → Prop} {results : PhaseResults} {rest : Program PhaseResults}
    (triple : Triple assume pre rest (fun _ => after) (fun _ => after)) :
    Triple assume pre (Orchestration.keep results rest) (fun _ => after) (fun _ => after) :=
  triple.tryCatch fun _ => .pure fun _ => id

theorem ofExcept {α : Type} (result : Except String α) :
    Triple assume good (Process.ofExcept result) (fun _ => good) (fun _ => after) :=
  .ofExcept (fun _ _ _ => id) fun _ _ => rules.weaker

theorem notify (given : Bool) (callback : Callback) :
    Triple assume good ((Orchestration.mk taskId row options).notify given callback)
      (fun _ => good) (fun _ => after) :=
  .ite (fun _ => rules.callback callback) fun _ => .pure fun _ => id

theorem awaitApproval {phase : ApprovalPhase} (asked : phase.isOrchestrated = true)
    (current next : Phase) (output : ApprovalOutput) :
    Triple assume good
      ((Orchestration.mk taskId row options).awaitApproval phase current next output)
      (fun _ => good) (fun _ => after) := by
  refine .ite (fun _ => ?_) fun _ => .pure fun _ => id
  refine (rules.write _).bind fun _ => (rules.notice _ rfl).bind fun _ => ?_
  refine (rules.approval phase output asked).bind fun response => ?_
  refine (rules.write _).bind fun _ => (rules.notice _ rfl).bind fun _ => ?_
  exact .ite (fun _ => .pure fun _ => id) fun _ => .throw rules.weaker

theorem mergeStage (results : PhaseResults) (analysis : AnalysisResultV2)
    (developer : DeveloperResultV2) :
    Triple assume good ((Orchestration.mk taskId row options).mergeStage results analysis developer)
      (fun _ => after) (fun _ => after) := by
  refine (rules.write _).bind fun _ => (rules.ofExcept _).bind fun description => ?_
  refine (rules.merge row analysis developer description).bind fun merge => keep ?_
  have notified : Triple assume good
      (forM merge.pullRequests (Orchestration.mk taskId row options).notifyPullRequest)
      (fun _ => good) (fun _ => after) := .forM fun _ _ _ _ => rules.notify row _ _
  apply notified.bind
  intro _
  exact (rules.write _).bind fun _ => .pure rules.weaker

theorem testStage (results : PhaseResults) (analysis : AnalysisResultV2)
    (developer : DeveloperResultV2) :
    Triple assume good ((Orchestration.mk taskId row options).testStage results analysis developer)
      (fun _ => after) (fun _ => after) := by
  refine .ite (fun _ => rules.mergeStage row _ _ _) fun _ => ?_
  refine (rules.write _).bind fun _ => (rules.tests row developer).bind fun tests => keep ?_
  refine (rules.notify row _ _).bind fun _ => ?_
  refine (rules.write _).bind fun _ => Triple.bind ?_ fun _ => rules.mergeStage row _ _ _
  exact .ite (fun _ => .pure fun _ => id) fun _ => rules.awaitApproval row rfl _ _ _

theorem notifyDeveloper (analysis : AnalysisResultV2) (developer : DeveloperResultV2) :
    Triple assume good ((Orchestration.mk taskId row options).notifyDeveloper analysis developer)
      (fun _ => good) (fun _ => after) := by
  apply (rules.notify row _ _).bind
  intro _
  exact .forM fun _ _ _ _ => rules.notify row _ _

theorem developerStage (results : PhaseResults) (analysis : AnalysisResultV2) :
    Triple assume good ((Orchestration.mk taskId row options).developerStage results analysis)
      (fun _ => after) (fun _ => after) := by
  refine (rules.write _).bind fun _ => ?_
  refine (rules.developer row analysis).bind fun developer => keep ?_
  refine (rules.notifyDeveloper row analysis developer).bind fun _ => ?_
  refine (rules.write _).bind fun _ => (rules.awaitApproval row rfl _ _ _).bind fun _ => ?_
  exact rules.testStage row _ _ _

theorem afterAnalysis (results : PhaseResults) (analysis : AnalysisResultV2) :
    Triple assume good ((Orchestration.mk taskId row options).afterAnalysis results analysis)
      (fun _ => after) (fun _ => after) :=
  (rules.awaitApproval row rfl _ _ _).bind fun _ => rules.developerStage row _ _

theorem analysisStage (results : PhaseResults) :
    Triple assume good ((Orchestration.mk taskId row options).analysisStage results)
      (fun _ => after) (fun _ => after) := by
  refine .ite (fun _ => ?_) fun _ => ?_
  · exact (rules.ofExcept _).bind fun analysis => keep (rules.afterAnalysis row _ _)
  · refine (rules.write _).bind fun _ => ?_
    refine (rules.analysis row results.planning).bind fun analysis => keep ?_
    refine (rules.notify row _ _).bind fun _ => ?_
    exact (rules.ofExcept _).bind fun _ => (rules.write _).bind fun _ =>
      rules.afterAnalysis row _ _

theorem afterPlanning (results : PhaseResults) (planning : ProductPlanningResult) :
    Triple assume (fun world => after world ∧ (planning.success = true → good world))
      ((Orchestration.mk taskId row options).afterPlanning results planning)
      (fun _ => after) (fun _ => after) := by
  by_cases success : planning.success = true
  · simp only [Orchestration.afterPlanning, success, if_true]
    apply ((rules.notify row _ _).before fun _ holds => holds.2 trivial).bind
    intro _
    exact (rules.write _).bind fun _ => (rules.write _).bind fun _ => rules.analysisStage row _
  · have reported : Keeps assume after ((Orchestration.mk taskId row options).notify
        options.onPlanningComplete .planningComplete) :=
      .ite (fun _ => rules.report _) fun _ => .pure fun _ => id
    simp only [Orchestration.afterPlanning, success, Bool.false_eq_true, if_false]
    apply (reported.before fun _ holds => holds.1).bind
    exact fun _ => .throw fun _ => id

theorem planningStage :
    Triple assume good (Orchestration.mk taskId row options).planningStage (fun _ => after)
      (fun _ => after) := by
  refine .ite (fun _ => rules.analysisStage row _) fun _ => (rules.write _).bind fun _ => ?_
  exact (rules.planning row).bind fun planning => keep (rules.afterPlanning row _ planning)

theorem execute :
    Triple assume good (execute taskId options) (fun _ => after) (fun _ => after) := by
  refine rules.find.bind fun found => ?_
  cases found with
  | none => exact .pure rules.weaker
  | some row =>
      refine (rules.write _).bind fun _ => rules.configure.bind fun _ => ?_
      refine (rules.notice _ rfl).bind fun _ => ?_
      exact (keep (rules.planningStage row)).bind fun results => rules.complete row results

end StageRules

def TaskStatus.isUnderWay : TaskStatus → Bool
  | .running | .waitingForApproval => true
  | _ => false

/-- What the orchestrator does between the announcement of a run and its scan, apart from the
status of the task: what the phases do, marking them and calling the callbacks. -/
def Request.isGuardedWork : Request → Bool
  | .callback _ _ => true
  | .writeTask _ (.setCurrentPhase phase) => phase != .globalScan
  | .writeTask _ (.markPhaseComplete phase) => phase != .globalScan
  | .writeTask _ (.savePlanningResult _ _) => true
  | request => request.isPhaseWork

theorem Request.isGuardedWork_of_phaseWork (request : Request)
    (work : request.isPhaseWork = true) : request.isGuardedWork = true := by
  cases request with
  | writeTask taskId write =>
      cases write <;> first | rfl | simp [isPhaseWork, TaskWrite.isPhaseWork] at work
  | _ => first | rfl | simp [isPhaseWork] at work

def Request.settlesPlanning : Request → Bool
  | .writeTask _ (.setCurrentPhase phase) | .writeTask _ (.markPhaseComplete phase) =>
      phase == .planning
  | _ => false

/-- What is done up to the end of the analysis and not after it. -/
def Request.isEarlyWork : Request → Bool
  | .writeTask _ (.setCurrentPhase phase) | .writeTask _ (.markPhaseComplete phase) =>
      phase == .planning || phase == .analysis
  | request => request.savesAnalysis

theorem Request.settlesPlanning_of_phaseWork (request : Request)
    (work : request.isPhaseWork = true) : request.settlesPlanning = false := by
  cases request with
  | writeTask taskId write =>
      cases write <;> first | rfl | simp [isPhaseWork, TaskWrite.isPhaseWork] at work
  | _ => rfl

theorem Request.settlesPlanning_of_late (request : Request) (late : request.isEarlyWork = false) :
    request.settlesPlanning = false := by
  cases request with
  | writeTask taskId write =>
      cases write <;> first | rfl | simp_all [isEarlyWork, settlesPlanning]
  | _ => rfl

namespace Orchestration

variable {allowed : Request → Prop} (run : Orchestration)

section Later

variable (later : ∀ request : Request, request.isGuardedWork = true →
  request.isEarlyWork = false → allowed request)
include later

theorem work_of_later (request : Request) (work : request.isPhaseWork = true)
    (unsaved : request.savesAnalysis = false) : allowed request := by
  apply later request (request.isGuardedWork_of_phaseWork work)
  cases request with
  | writeTask taskId write =>
      cases write <;>
        first | exact unsaved | simp [Request.isPhaseWork, TaskWrite.isPhaseWork] at work
  | _ => exact unsaved

theorem notify_uses (given : Bool) (callback : Callback) :
    Uses allowed (run.notify given callback) :=
  .ite (.attempt (.call (later _ rfl rfl))) (.pure _)

theorem mergeStage_uses (results : PhaseResults) (analysis : AnalysisResultV2)
    (developer : DeveloperResultV2) :
    Uses allowed (run.mergeStage results analysis developer) := by
  refine .bind (.attempt (.call (later _ rfl rfl))) fun _ => .bind (.ofExcept _) fun _ => ?_
  refine .bind (executeMergePhase_work (work_of_later later) _) fun _ => ?_
  refine .tryCatch (.bind (.forM fun _ _ => run.notify_uses later _ _) fun _ => ?_)
    fun _ => .pure _
  exact .bind (.attempt (.call (later _ rfl rfl))) fun _ => .pure _

variable {run} (own : ∀ status : TaskStatus, status.isUnderWay = true →
  allowed (.writeTask run.taskId (.updateStatus status)))
include own

theorem awaitApproval_uses (phase : ApprovalPhase) (current next : Phase)
    (output : ApprovalOutput) : Uses allowed (run.awaitApproval phase current next output) := by
  refine .ite ?_ (.pure _)
  refine .bind (.attempt (.call (own _ rfl))) fun _ => .bind (.call (later _ rfl rfl)) fun _ => ?_
  refine .bind (.attempt (.call (later _ rfl rfl))) fun _ => ?_
  refine .bind (.attempt (.call (own _ rfl))) fun _ => .bind (.call (later _ rfl rfl)) fun _ => ?_
  exact .ite (.pure _) (.throw _)

theorem testStage_uses (results : PhaseResults) (analysis : AnalysisResultV2)
    (developer : DeveloperResultV2) :
    Uses allowed (run.testStage results analysis developer) := by
  refine .ite (run.mergeStage_uses later _ _ _) ?_
  refine .bind (.attempt (.call (later _ rfl rfl))) fun _ => ?_
  refine .bind (runTestGenerationPhase_work (work_of_later later) _) fun _ => ?_
  refine .tryCatch (.bind (run.notify_uses later _ _) fun _ => ?_) fun _ => .pure _
  refine .bind (.attempt (.call (later _ rfl rfl))) fun _ => ?_
  refine .bind (.ite (.pure _) (awaitApproval_uses later own _ _ _ _)) fun _ => ?_
  exact run.mergeStage_uses later _ _ _

theorem developerStage_uses (results : PhaseResults) (analysis : AnalysisResultV2) :
    Uses allowed (run.developerStage results analysis) := by
  have developed := executeDeveloperPhase_work (work_of_later later)
    (run.developerContext analysis) (by rintro write ⟨⟩ storyIndex; exact later _ rfl rfl)
  refine .bind (.attempt (.call (later _ rfl rfl))) fun _ => .bind developed fun _ => ?_
  refine .tryCatch (.bind (.bind (run.notify_uses later _ _) fun _ =>
    .forM fun _ _ => run.notify_uses later _ _) fun _ => ?_) fun _ => .pure _
  refine .bind (.attempt (.call (later _ rfl rfl))) fun _ => ?_
  exact .bind (awaitApproval_uses later own _ _ _ _) fun _ => testStage_uses later own _ _ _

theorem afterAnalysis_uses (results : PhaseResults) (analysis : AnalysisResultV2) :
    Uses allowed (run.afterAnalysis results analysis) :=
  .bind (awaitApproval_uses later own _ _ _ _) fun _ => developerStage_uses later own _ _

end Later

variable {run} (own : ∀ status : TaskStatus, status.isUnderWay = true →
  allowed (.writeTask run.taskId (.updateStatus status)))
include own

theorem analysisStage_uses
    (planned : ∀ request : Request, request.isGuardedWork = true →
      request.settlesPlanning = false → allowed request) (results : PhaseResults) :
    Uses allowed (run.analysisStage results) := by
  have later (request : Request) (work : request.isGuardedWork = true)
      (late : request.isEarlyWork = false) : allowed request :=
    planned request work (request.settlesPlanning_of_late late)
  refine .ite (.bind (.ofExcept _) fun _ => ?_) ?_
  · exact .tryCatch (afterAnalysis_uses later own _ _) fun _ => .pure _
  · refine .bind (.attempt (.call (planned _ rfl rfl))) fun _ => ?_
    refine .bind (executeAnalysisPhase_work _ fun request work =>
      planned request (request.isGuardedWork_of_phaseWork work)
        (request.settlesPlanning_of_phaseWork work)) fun _ => ?_
    refine .tryCatch (.bind (run.notify_uses later _ _) fun _ => ?_) fun _ => .pure _
    refine .bind (.ofExcept _) fun _ => .bind (.attempt (.call (planned _ rfl rfl))) fun _ => ?_
    exact afterAnalysis_uses later own _ _

theorem runPhases_uses
    (guarded : ∀ request : Request, request.isGuardedWork = true → allowed request) :
    Uses allowed run.runPhases := by
  have later (request : Request) (work : request.isGuardedWork = true)
      (_ : request.isEarlyWork = false) : allowed request := guarded request work
  have analysed (results : PhaseResults) : Uses allowed (run.analysisStage results) :=
    analysisStage_uses own (fun request work _ => guarded request work) results
  refine .tryCatch (.ite (analysed _) ?_) fun _ => .pure _
  refine .bind (.attempt (.call (guarded _ rfl))) fun _ => ?_
  refine .bind (runProductPlanningPhase_work (work_of_later later) _) fun _ => ?_
  refine .tryCatch (.bind (run.notify_uses later _ _) fun _ => .ite ?_ (.throw _))
    fun _ => .pure _
  refine .bind (.attempt (.call (guarded _ rfl))) fun _ => ?_
  exact .bind (.attempt (.call (guarded _ rfl))) fun _ => analysed _

end Orchestration

theorem Orchestration.complete_uses {run : Orchestration} {allowed : Request → Prop}
    {results : PhaseResults}
    (notice : ∀ notice : Notice, notice.isMilestone = false → allowed (.toTask run.taskId notice))
    (scan : ∀ repositories sessionId, allowed (.scanAllRepositories repositories sessionId))
    (mark : allowed (.writeTask run.taskId (.setCurrentPhase .globalScan)))
    (done : allowed (.writeTask run.taskId (.markPhaseComplete .globalScan)))
    (settle : ∀ status, allowed (.writeTask run.taskId (.updateStatus status)))
    (fail : ∀ reason, allowed (.writeTask run.taskId (.setFailed reason)))
    (clear : allowed (.writeTask run.taskId .clearResumeState)) :
    Uses allowed (run.complete results) := by
  have final : allowed (.writeTask run.taskId (finalWrite results)) := by
    unfold finalWrite
    split
    · exact settle _
    · exact fail _
  refine .bind (.attempt (.call mark)) fun _ => ?_
  refine .bind (executeGlobalScanPhase_uses notice scan) fun _ => ?_
  refine .bind (.attempt (.call done)) fun _ => .bind (.attempt (.call final)) fun _ => ?_
  exact .bind (.attempt (.call clear)) fun _ => .bind (.call (notice _ rfl)) fun _ => .pure _

def Request.setsStatus : Request → Bool
  | .writeTask _ (.updateStatus _) | .writeTask _ (.setFailed _) => true
  | _ => false

theorem Request.setsStatus_of_guardedWork (request : Request)
    (work : request.isGuardedWork = true) : request.setsStatus = false := by
  cases request with
  | writeTask taskId write =>
      cases write <;> first | rfl | simp [isGuardedWork, isPhaseWork, TaskWrite.isPhaseWork] at work
  | _ => rfl

theorem execute_uses {taskId : String} {options : OrchestrationOptions}
    {allowed : Request → Prop}
    (other : ∀ request : Request, request.setsStatus = false → allowed request)
    (own : ∀ write, allowed (.writeTask taskId write)) :
    Uses allowed (execute taskId options) := by
  refine .bind (.attempt (.call (other _ rfl))) fun found => ?_
  cases found with
  | none => exact .pure _
  | some row =>
      refine .bind (.attempt (.call (own _))) fun _ => .bind (.attempt (.call (other _ rfl))) ?_
      refine fun _ => .bind (.call (other _ rfl)) fun _ => .bind ?_ fun results => ?_
      · apply Orchestration.runPhases_uses
        · exact fun status _ => own _
        · exact fun request work => other request (request.setsStatus_of_guardedWork work)
      · exact Orchestration.complete_uses (fun _ _ => other _ rfl) (fun _ _ => other _ rfl)
          (own _) (own _) (fun _ => own _) (fun _ => own _) (own _)

end MultiAgents
