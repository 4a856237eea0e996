import MultiAgents.Orchestrator
import MultiAgents.Phases.Developer.Requests

/-!
# Requests of the other phases

What the Planning, Analysis, TestGeneration, Merge and GlobalScan phases can ask
for: all of them work with an agent's session in the same few ways.
-/

namespace MultiAgents

open Effects Text

variable {allowed : Request → Prop}

/-- What a phase other than Developer does with its session and reports about it.  It never
records that a session ended with an error. -/
def Request.isAgentWork : Request → Bool
  | .createSession (.story _ _ _) _ => false
  | .createSession _ _ | .registerSession _ _ _ | .unregisterSession _ | .sendPrompt _ _
  | .waitForIdle _ _ | .abortSession _ | .writeSession (.create _ _ _ _ _) => true
  | .writeSession (.updateStatus _ status) => status != "error"
  | .requestApproval _ .clarification _ => true
  | .writeTask _ (.setCurrentStep _ _) => true
  | .toTask _ notice => !notice.isMilestone
  | _ => false

/-- What is done with a session once it is registered, and reported about it. -/
def Request.isTalk : Request → Bool
  | .sendPrompt _ _ | .waitForIdle _ _ | .abortSession _ | .writeSession (.create _ _ _ _ _) => true
  | .writeSession (.updateStatus _ status) => status != "error"
  | .requestApproval _ .clarification _ => true
  | .writeTask _ (.setCurrentStep _ _) => true
  | .toTask _ notice => !notice.isMilestone
  | _ => false

theorem Request.isAgentWork_of_talk (request : Request) (talks : request.isTalk = true) :
    request.isAgentWork = true := by
  cases request with
  | requestApproval taskId phase output => cases phase <;> first | rfl | cases talks
  | writeTask taskId write => cases write <;> first | rfl | cases talks
  | writeSession write => cases write <;> exact talks
  | toTask taskId notice => exact talks
  | _ => first | rfl | cases talks

/-- What is done to clarify a task in the Analysis phase. -/
def Request.isClarification : Request → Bool
  | .sendPrompt _ (.analysis (.clarifier _ _)) | .sendPrompt _ (.analysis (.selfAnswer _ _ _))
  | .waitForIdle _ _ | .requestApproval _ .clarification _ => true
  | .writeTask _ (.setCurrentStep _ _) => true
  | .toTask _ notice => !notice.isMilestone
  | _ => false

theorem Request.isTalk_of_clarification (request : Request)
    (clarifies : request.isClarification = true) : request.isTalk = true := by
  cases request with
  | requestApproval taskId phase output => cases phase <;> first | rfl | cases clarifies
  | writeTask taskId write => cases write <;> first | rfl | cases clarifies
  | toTask taskId notice => exact clarifies
  | _ => first | rfl | cases clarifies

namespace ProductPlanningContext

variable {context : ProductPlanningContext}

section Talk

variable (talk : ∀ request : Request, request.isTalk = true → allowed request)
include talk

theorem startAgent_uses (sessionId agentName : String) (step iteration : Nat) :
    Uses allowed (context.startAgent sessionId step agentName iteration) :=
  .bind (.attempt (.call (talk _ rfl))) fun _ => .call (talk _ rfl)

theorem ask_uses (sessionId : String) (prompt : PlanningPrompt) :
    Uses allowed (ask sessionId prompt) :=
  .bind (.attempt (.call (talk _ rfl))) fun _ =>
    .bind (.attempt (.call (talk _ rfl))) fun _ => .pure _

theorem clarifyQuestions_uses (sessionId : String) (clarify : Value) :
    Uses allowed (context.clarifyQuestions sessionId clarify) := by
  refine .ite (.ite ?_ ?_) (.pure _)
  · refine .bind (startAgent_uses talk _ _ _ _) fun _ => .bind (.ofExcept _) fun _ => ?_
    refine .bind (ask_uses talk _ _) fun _ => ?_
    split
    · exact .bind (.ofExcept _) fun _ => .bind (.call (talk _ rfl)) fun _ => .pure _
    · exact .pure _
  · refine .bind (.attempt (.call (talk _ rfl))) fun _ => ?_
    split <;> exact .pure _

theorem makePlan_uses (sessionId : String) (complexity : Value) :
    Uses allowed (context.makePlan sessionId complexity) := by
  refine .bind (startAgent_uses talk _ _ _ _) fun _ => .bind (ask_uses talk _ _) fun _ => ?_
  refine .bind (clarifyQuestions_uses talk _ _) fun _ => .bind (.ofExcept _) fun _ => ?_
  refine .bind (startAgent_uses talk _ _ _ _) fun _ => .bind (ask_uses talk _ _) fun _ => ?_
  refine .bind (startAgent_uses talk _ _ _ _) fun _ => .bind (ask_uses talk _ _) fun _ => ?_
  exact .bind (startAgent_uses talk _ _ _ _) fun _ =>
    .bind (ask_uses talk _ _) fun _ => .pure _

theorem judgeLoop_uses (sessionId : String) (remaining iteration : Nat) (plan : Plan) :
    Uses allowed (context.judgeLoop sessionId remaining iteration plan) := by
  induction remaining generalizing iteration plan with
  | zero => exact .pure _
  | succ remaining ih =>
      refine .bind (.bind (startAgent_uses talk _ _ _ _) fun _ => .bind (.ofExcept _) fun _ =>
        .bind (ask_uses talk _ _) fun _ => .bind (.call (talk _ rfl)) fun _ => .pure _)
        fun result => ?_
      split
      · exact .pure _
      · refine .bind (.bind (startAgent_uses talk _ _ _ _) fun _ => .bind (.ofExcept _) fun _ =>
          .bind (ask_uses talk _ _) fun _ => ?_) fun _ => ih _ _
        split
        · exact .ofExcept _
        · exact .pure _

theorem runSession_uses {sessionId : String}
    (register : allowed (.registerSession context.task.id sessionId context.projectPath))
    (approval : ∀ taskId output, allowed (.requestApproval taskId .productPlanning output)) :
    Uses allowed (context.runSession sessionId) := by
  refine .bind (.call register) fun _ => .bind (.attempt (.call (talk _ rfl))) fun _ => ?_
  refine .bind (startAgent_uses talk _ _ _ _) fun _ => .bind (ask_uses talk _ _) fun _ => ?_
  refine .ite (.pure _) (.bind (makePlan_uses talk _ _) fun _ => ?_)
  refine .bind (judgeLoop_uses talk _ _ _ _) fun _ => .bind ?_ fun _ => .ite ?_ ?_
  · exact .ite (.pure _) (.bind (.attempt (.call (approval _ _))) fun _ => .pure _)
  · exact .bind (.attempt (.call (talk _ rfl))) fun _ => .pure _
  · exact .bind (.attempt (.call (talk _ rfl))) fun _ =>
      .bind (.call (talk _ rfl)) fun _ => .pure _

end Talk

end ProductPlanningContext

theorem runProductPlanningPhase_talk {context : ProductPlanningContext}
    (talk : ∀ request : Request, request.isTalk = true → allowed request)
    (create : allowed (.createSession (.planning context.task.title) context.projectPath))
    (register : ∀ sessionId,
      allowed (.registerSession context.task.id sessionId context.projectPath))
    (approval : ∀ taskId output, allowed (.requestApproval taskId .productPlanning output)) :
    Uses allowed (runProductPlanningPhase context) := by
  refine .bind (.call (talk _ rfl)) fun _ => .bind (.call create) fun answer => ?_
  cases answer with
  | error message => exact .bind (.call (talk _ rfl)) fun _ => .pure _
  | ok sessionId =>
      refine .tryCatch (ProductPlanningContext.runSession_uses talk (register sessionId) approval)
        fun _ => .bind (.call (talk _ rfl)) fun _ => ?_
      exact .bind (.tryCatch (.attempt (.call (talk _ rfl))) fun _ => .pure _) fun _ => .pure _

theorem runProductPlanningPhase_uses {context : ProductPlanningContext}
    (agent : ∀ request : Request, request.isAgentWork = true → allowed request)
    (approval : ∀ taskId output, allowed (.requestApproval taskId .productPlanning output)) :
    Uses allowed (runProductPlanningPhase context) :=
  runProductPlanningPhase_talk
    (fun request talks => agent request (request.isAgentWork_of_talk talks)) (agent _ rfl)
    (fun _ => agent _ rfl) approval

namespace TestGenerationContext

variable {context : TestGenerationContext}

section Talk

variable (talk : ∀ request : Request, request.isTalk = true → allowed request)
include talk

theorem ask_uses (sessionId : String) (prompt : TestPrompt) :
    Uses allowed (ask sessionId prompt) :=
  .bind (.attempt (.call (talk _ rfl))) fun _ =>
    .bind (.attempt (.call (talk _ rfl))) fun _ => .pure _

theorem testLoop_uses (sessionId : String) (testFiles : List Value) (framework : Json)
    (remaining iteration : Nat) (suite : TestSuite) :
    Uses allowed
      (context.testLoop sessionId testFiles framework remaining iteration suite) := by
  induction remaining generalizing iteration suite with
  | zero => exact .pure _
  | succ remaining ih =>
      refine .bind (.bind (.call (talk _ rfl)) fun _ => .bind (ask_uses talk _ _) fun _ =>
        .pure _) fun suite => ?_
      split
      · exact .pure _
      · exact .pure _
      · refine .bind (.bind (.call (talk _ rfl)) fun _ => .bind (.ofExcept _) fun _ => ?_)
          fun _ => ih _ _
        exact .bind (ask_uses talk _ _) fun _ => .bind (.ofExcept _) fun _ =>
          .bind (.call (talk _ rfl)) fun _ => .pure _

theorem conclude_uses
    (approval : ∀ taskId output, allowed (.requestApproval taskId .testGeneration output))
    (sessionId : String) (result : TestGenerationResult) :
    Uses allowed (context.conclude sessionId result) := by
  refine .bind (.ite (.pure _) (.bind (.attempt (.call (approval _ _))) fun _ => .pure _))
    fun _ => .ite ?_ ?_
  · exact .bind (.attempt (.call (talk _ rfl))) fun _ => .pure _
  · exact .bind (.attempt (.call (talk _ rfl))) fun _ =>
      .bind (.call (talk _ rfl)) fun _ => .pure _

theorem runSession_uses {sessionId : String}
    (register : allowed (.registerSession context.task.id sessionId context.projectPath))
    (approval : ∀ taskId output, allowed (.requestApproval taskId .testGeneration output)) :
    Uses allowed (context.runSession sessionId) := by
  refine .bind (.call register) fun _ => .bind (.attempt (.call (talk _ rfl))) fun _ => ?_
  refine .bind (.call (talk _ rfl)) fun _ => .bind (ask_uses talk _ _) fun _ => ?_
  refine .ite (.bind (.ofExcept _) fun _ => .ite ?_ ?_) (.throw _)
  · exact .bind (.attempt (.call (talk _ rfl))) fun _ => .pure _
  · refine .bind (.call (talk _ rfl)) fun _ => .bind (.ofExcept _) fun _ => ?_
    refine .bind (ask_uses talk _ _) fun _ => .bind (.ofExcept _) fun _ => ?_
    exact .bind (testLoop_uses talk _ _ _ _ _ _) fun _ => conclude_uses talk approval _ _

end Talk

end TestGenerationContext

theorem runTestGenerationPhase_talk {context : TestGenerationContext}
    (talk : ∀ request : Request, request.isTalk = true → allowed request)
    (create : allowed (.createSession (.tests context.task.title) context.projectPath))
    (register : ∀ sessionId,
      allowed (.registerSession context.task.id sessionId context.projectPath))
    (approval : ∀ taskId output, allowed (.requestApproval taskId .testGeneration output)) :
    Uses allowed (runTestGenerationPhase context) := by
  refine .bind (.call (talk _ rfl)) fun _ => .bind (.call create) fun answer => ?_
  cases answer with
  | error message => exact .bind (.call (talk _ rfl)) fun _ => .pure _
  | ok sessionId =>
      refine .tryCatch (TestGenerationContext.runSession_uses talk (register sessionId) approval)
        fun _ => .bind (.call (talk _ rfl)) fun _ => ?_
      exact .bind (.tryCatch (.attempt (.call (talk _ rfl))) fun _ => .pure _) fun _ => .pure _

theorem runTestGenerationPhase_uses {context : TestGenerationContext}
    (agent : ∀ request : Request, request.isAgentWork = true → allowed request)
    (approval : ∀ taskId output, allowed (.requestApproval taskId .testGeneration output)) :
    Uses allowed (runTestGenerationPhase context) :=
  runTestGenerationPhase_talk
    (fun request talks => agent request (request.isAgentWork_of_talk talks)) (agent _ rfl)
    (fun _ => agent _ rfl) approval

/-- The commands the Analysis phase runs in the primary repository. -/
def AnalysisCommand : GitCommand → Prop
  | .resetHard | .cleanFd | .diffHead => False
  | _ => True

theorem AnalysisCommand.of_recording {command : GitCommand}
    (recording : GitService.RecordingCommand command) : AnalysisCommand command := by
  cases command <;> trivial

namespace AnalysisPhaseContext

variable {context : AnalysisPhaseContext}

theorem ask_uses {sessionId : String} {prompt : AnalysisPrompt}
    (send : allowed (.sendPrompt sessionId (.analysis prompt)))
    (wait : allowed (.waitForIdle sessionId none)) : Uses allowed (ask sessionId prompt) :=
  .bind (.attempt (.call send)) fun _ => .bind (.attempt (.call wait)) fun _ => .pure _

theorem checkPlan_uses (check : PlanningData → Except String Unit) :
    Uses allowed (context.checkPlan check) := by
  unfold checkPlan
  split
  · exact .ofExcept _
  · exact .pure _

section Clarification

variable (talk : ∀ request : Request, request.isClarification = true → allowed request)
include talk

theorem startAgent_uses (sessionId agentName : String) (step iteration : Nat) :
    Uses allowed (context.startAgent sessionId step agentName iteration) :=
  .bind (.attempt (.call (talk _ rfl))) fun _ => .call (talk _ rfl)

theorem answerQuestions_uses (sessionId : String) (questions assumptions : Json) :
    Uses allowed (context.answerQuestions sessionId questions assumptions) := by
  refine .ite ?_ (.tryCatch ?_ fun _ => .ofExcept _)
  · refine .bind (startAgent_uses talk _ _ _ _) fun _ => .bind (checkPlan_uses _) fun _ => ?_
    refine .bind (.ofExcept _) fun _ => .bind (ask_uses (talk _ rfl) (talk _ rfl)) fun _ => ?_
    split
    · exact .bind (.ofExcept _) fun _ => .bind (.call (talk _ rfl)) fun _ => .pure _
    · exact .ofExcept _
  · refine .bind (.attempt (.call (talk _ rfl))) fun _ => ?_
    split
    · exact .bind (.call (talk _ rfl)) fun _ => .pure _
    · exact .bind (.ofExcept _) fun _ => .bind (.call (talk _ rfl)) fun _ => .pure _

theorem clarify_uses (sessionId : String) : Uses allowed (context.clarify sessionId) := by
  refine .bind (startAgent_uses talk _ _ _ _) fun _ => .bind (checkPlan_uses _) fun _ => ?_
  refine .bind (ask_uses (talk _ rfl) (talk _ rfl)) fun _ => ?_
  split
  · exact .bind (answerQuestions_uses talk _ _ _) fun _ => .pure _
  · exact .pure _

end Clarification

section Talk

variable (talk : ∀ request : Request, request.isTalk = true → allowed request)
include talk

theorem clarifying (request : Request) (clarifies : request.isClarification = true) :
    allowed request :=
  talk request (Request.isTalk_of_clarification request clarifies)

theorem runAnalyst_uses (sessionId : String) (clarifications : Option String)
    (iteration : Nat) (progress : AnalysisProgress) :
    Uses allowed (context.runAnalyst sessionId clarifications iteration progress) := by
  refine .bind (.ite (.bind (startAgent_uses (clarifying talk) _ _ _ _) fun _ =>
    .bind (checkPlan_uses _) fun _ => .attempt (.call (talk _ rfl))) (.pure _)) fun _ => ?_
  refine .bind (.attempt (.call (talk _ rfl))) fun _ => .bind (.call (talk _ rfl)) fun _ => ?_
  split <;> exact .pure _

theorem judgeRound_uses (sessionId : String) (remaining iteration : Nat)
    (stories : List Story) (judged : JudgeResult) :
    Uses allowed (context.judgeRound sessionId remaining iteration stories judged) := by
  refine .ite (.pure _) (.ite ?_ (.ite (.pure _) ?_))
  · exact .bind (.bind (startAgent_uses (clarifying talk) _ _ _ _) fun _ =>
      .bind (.ofExcept _) fun _ => .attempt (.call (talk _ rfl))) fun _ => .pure _
  · exact .bind (.ite (.pure _) (.bind (.call (talk _ rfl)) fun _ =>
      .attempt (.call (talk _ rfl)))) fun _ => .pure _

theorem analysisLoop_uses (sessionId : String) (clarifications : Option String)
    (remaining iterations : Nat) (progress : AnalysisProgress) :
    Uses allowed
      (context.analysisLoop sessionId clarifications remaining iterations progress) := by
  induction remaining generalizing iterations progress with
  | zero => exact .pure _
  | succ remaining ih =>
      refine .bind (runAnalyst_uses talk _ _ _ _) fun _ => ?_
      refine .bind (.bind (startAgent_uses (clarifying talk) _ _ _ _) fun _ =>
        .bind (ask_uses (talk _ rfl) (talk _ rfl)) fun _ =>
          .bind (.call (talk _ rfl)) fun _ => .pure _) fun _ => ?_
      refine .bind (.bind (startAgent_uses (clarifying talk) _ _ _ _) fun _ =>
        .bind (ask_uses (talk _ rfl) (talk _ rfl)) fun _ => .bind (.ofExcept _) fun _ =>
          .bind (.call (talk _ rfl)) fun _ => .pure _) fun _ => ?_
      exact .bind (judgeRound_uses talk _ _ _ _ _) fun _ =>
        .ite (.pure _) (ih _ _)

end Talk

section Git

variable (git : ∀ command, AnalysisCommand command →
  allowed (.git command context.workingDirectory))
include git

theorem checkoutBranch_uses : Uses allowed context.checkoutBranch := by
  refine .tryCatch (.bind ?_ fun _ => .pure _) fun _ =>
    .tryCatch (.bind (.bind ?_ fun _ => .pure _) fun _ => .pure _) fun _ => .pure _
  · exact .bind (GitService.git_uses (git .fetch trivial)) fun _ =>
      .bind (GitService.git_uses (git (.checkoutNew _ _) trivial)) fun _ => .pure _
  · exact GitService.git_uses (git (.checkout _) trivial)

theorem describeBranch_uses (analysis : Value) :
    Uses allowed (context.describeBranch analysis) := by
  unfold describeBranch
  split
  · refine .bind (.ofExcept _) fun _ => .tryCatch ?_ fun _ => .pure _
    exact .bind (GitService.git_uses (git .abbrevRefHead trivial)) fun _ =>
      .bind (GitService.git_uses (git (.describeBranch _ _) trivial)) fun _ => .pure _
  · exact .pure _

theorem commitAnalysis_uses (stories : List Story) :
    Uses allowed (context.commitAnalysis stories) := by
  refine .bind (GitService.hasChanges_uses (git .status trivial)) fun _ => .ite ?_ (.pure _)
  exact .bind (GitService.commitAndPush_uses fun command recording =>
    git command (.of_recording recording)) fun _ => .pure _

end Git

end AnalysisPhaseContext

theorem executeAnalysisPhase_uses {context : AnalysisPhaseContext}
    (agent : ∀ request : Request, request.isAgentWork = true → allowed request)
    (git : ∀ command, AnalysisCommand command → allowed (.git command context.workingDirectory))
    (save : ∀ branchName analysis stories,
      allowed (.writeTask context.task.id (.updateAfterAnalysis branchName analysis stories))) :
    Uses allowed (executeAnalysisPhase context) := by
  refine .bind (AnalysisPhaseContext.checkoutBranch_uses git) fun branch => ?_
  cases branch with
  | error message => exact .pure _
  | ok branchName =>
      refine .bind (.call (agent _ rfl)) fun _ => .bind (.attempt (.call (agent _ rfl))) fun _ => ?_
      refine .bind (.call (agent _ rfl)) fun _ => .bind (.attempt (.call (agent _ rfl))) fun _ => ?_
      refine .bind (.call (agent _ rfl)) fun _ => ?_
      have talk (request : Request) (talks : request.isTalk = true) : allowed request :=
        agent request (request.isAgentWork_of_talk talks)
      refine .bind (AnalysisPhaseContext.clarify_uses
        (AnalysisPhaseContext.clarifying talk) _) fun _ => ?_
      refine .bind (AnalysisPhaseContext.analysisLoop_uses talk _ _ _ _ _) fun progress => ?_
      refine .bind (AnalysisPhaseContext.describeBranch_uses git _) fun _ => ?_
      refine .bind (AnalysisPhaseContext.commitAnalysis_uses git _) fun _ => ?_
      refine .bind (.attempt (.call (agent _ rfl))) fun _ => .bind (.call (agent _ rfl)) fun _ => ?_
      refine .bind (.ite (.attempt (.call (save _ _ _))) (.pure _)) fun _ => ?_
      exact .bind (.call (agent _ rfl)) fun _ => .pure _

/-- What the Merge phase does apart from the commits in its repositories. -/
structure MergePermits (context : MergePhaseContext) (allowed : Request → Prop) : Prop where
  notice : ∀ notice : Notice, notice.isMilestone = false →
    allowed (.toTask context.task.id notice)
  gh : ∀ command directory, allowed (.gh command directory)
  save : ∀ number url, allowed (.writeTask context.task.id (.setPullRequest number url))
  approval : ∀ number url, allowed (.mergeApproval context.task.id number url)

theorem GitService.gh_uses {command : GhCommand} {cwd : String}
    (permitted : allowed (.gh command cwd)) : Uses allowed (gh command cwd) := by
  refine .bind (.call permitted) fun answer => ?_
  cases answer with
  | ok stdout => exact .pure _
  | error message => exact .throw _

theorem GitService.createPullRequest_uses {directory title body baseBranch : String}
    (permitted : ∀ command, RecordingCommand command → allowed (.git command directory))
    (gh : ∀ command, allowed (.gh command directory)) :
    Uses allowed (createPullRequest directory title body baseBranch) := by
  refine .bind (git_uses (permitted .abbrevRefHead trivial)) fun _ => ?_
  refine .bind (push_uses permitted) fun _ => .bind (gh_uses (gh _)) fun _ => ?_
  split
  · exact .throw _
  · exact .pure _

theorem mergePullRequest_uses {created : RepoPullRequestInfo}
    (gh : ∀ command directory, allowed (.gh command directory)) :
    Uses allowed (mergePullRequest created) := by
  refine .tryCatch (.bind (.bind (GitService.gh_uses (gh _ _)) fun _ => .ofExcept _) fun _ => ?_)
    fun _ => .pure _
  exact .bind (.ofExcept _) fun _ =>
    .bind (.bind (GitService.gh_uses (gh _ _)) fun _ => .pure _) fun _ => .pure _

namespace MergePhaseContext

variable {context : MergePhaseContext}

theorem pushRemaining_uses {repo : MergeTarget}
    (permitted : ∀ command, GitService.RecordingCommand command →
      allowed (.git command repo.path)) : Uses allowed (context.pushRemaining repo) := by
  refine .tryCatch (.bind (GitService.hasChanges_uses (permitted .status trivial)) fun _ =>
    .ite ?_ (.pure _)) fun _ => .pure _
  exact .bind (GitService.commitAndPush_uses permitted) fun _ => .pure _

theorem openPullRequest_uses (permits : MergePermits context allowed) {repo : MergeTarget}
    (permitted : ∀ command, GitService.RecordingCommand command →
      allowed (.git command repo.path)) (created : CreatedPullRequests) :
    Uses allowed (context.openPullRequest created repo) := by
  refine .tryCatch (.bind ?_ fun _ => .pure _) fun _ => .pure _
  refine .bind (GitService.createPullRequest_uses permitted fun _ => permits.gh _ _) fun _ => ?_
  exact .bind (.call (permits.notice _ rfl)) fun _ => .pure _

theorem settlePullRequests_uses (permits : MergePermits context allowed)
    (created : CreatedPullRequests) : Uses allowed (context.settlePullRequests created) := by
  unfold settlePullRequests
  split
  · exact .bind (.call (permits.notice _ rfl)) fun _ => .pure _
  · refine .bind (.attempt (.call (permits.save _ _))) fun _ => .bind ?_ fun _ => .ite ?_ ?_
    · refine .ite (.pure _) (.ite ?_ (.pure _))
      exact .bind (.call (permits.notice _ rfl)) fun _ => .attempt (.call (permits.approval _ _))
    · refine .bind (.foldlM _ fun _ _ _ => .bind (mergePullRequest_uses permits.gh) fun _ =>
        .pure _) fun _ => ?_
      exact .bind (.call (permits.notice _ rfl)) fun _ => .pure _
    · exact .bind (.call (permits.notice _ rfl)) fun _ => .pure _

end MergePhaseContext

theorem executeMergePhase_uses {context : MergePhaseContext}
    (permits : MergePermits context allowed)
    (permitted : ∀ repo ∈ context.reposToProcess, ∀ command,
      GitService.RecordingCommand command → allowed (.git command repo.path)) :
    Uses allowed (executeMergePhase context) := by
  refine .bind (.call (permits.notice _ rfl)) fun _ => .ite (.pure _) ?_
  refine .bind (.forM fun repo membership =>
    MergePhaseContext.pushRemaining_uses (permitted repo membership)) fun _ => ?_
  exact .bind (.foldlM _ fun created repo membership =>
    MergePhaseContext.openPullRequest_uses permits (permitted repo membership) created)
    fun _ => MergePhaseContext.settlePullRequests_uses permits _

theorem executeGlobalScanPhase_uses {context : GlobalScanPhaseContext}
    (notice : ∀ notice : Notice, notice.isMilestone = false →
      allowed (.toTask context.taskId notice))
    (scan : ∀ repositories sessionId, allowed (.scanAllRepositories repositories sessionId)) :
    Uses allowed (executeGlobalScanPhase context) := by
  refine .bind (.call (notice _ rfl)) fun _ => .bind (.call (scan _ _)) fun answer => ?_
  cases answer <;> exact .bind (.call (notice _ rfl)) fun _ => .pure _

def TaskWrite.isPhaseWork : TaskWrite → Bool
  | .updateAfterAnalysis _ _ _ | .setPullRequest _ _ | .setCurrentStep _ _
  | .setLastCompletedStoryIndex _ => true
  | _ => false

/-- What a phase may do.  Only the orchestrator looks the task up, sets its status, marks it with
phases, calls the callbacks and scans. -/
def Request.isPhaseWork : Request → Bool
  | .configureModels _ | .findTask _ | .callback _ _ | .scanAllRepositories _ _ => false
  | .writeTask _ write => write.isPhaseWork
  | _ => true

theorem Request.isPhaseWork_of_agentWork (request : Request) (work : request.isAgentWork = true) :
    request.isPhaseWork = true := by
  cases request with
  | writeTask taskId write => cases write <;> first | rfl | simp [isAgentWork] at work
  | _ => first | rfl | simp [isAgentWork] at work

theorem executeAnalysisPhase_work (context : AnalysisPhaseContext)
    (work : ∀ request : Request, request.isPhaseWork = true → allowed request) :
    Uses allowed (executeAnalysisPhase context) :=
  executeAnalysisPhase_uses
    (fun request agent => work request (request.isPhaseWork_of_agentWork agent))
    (fun _ _ => work _ rfl) fun _ _ _ => work _ rfl

theorem Request.savesAnalysis_of_agentWork (request : Request)
    (work : request.isAgentWork = true) : request.savesAnalysis = false := by
  cases request with
  | writeTask taskId write => cases write <;> first | rfl | simp [isAgentWork] at work
  | _ => rfl

section Work

variable (work : ∀ request : Request, request.isPhaseWork = true →
  request.savesAnalysis = false → allowed request)
include work

theorem agent_of_work (request : Request) (agent : request.isAgentWork = true) :
    allowed request :=
  work request (request.isPhaseWork_of_agentWork agent) (request.savesAnalysis_of_agentWork agent)

theorem runProductPlanningPhase_work (context : ProductPlanningContext) :
    Uses allowed (runProductPlanningPhase context) :=
  runProductPlanningPhase_uses (agent_of_work work) fun _ _ => work _ rfl rfl

theorem executeDeveloperPhase_work (context : DeveloperPhaseContext)
    (saves : ∀ write ∈ context.onStoryComplete, ∀ storyIndex,
      allowed (.writeTask context.taskId (write storyIndex))) :
    Uses allowed (executeDeveloperPhase context) := by
  have permits : context.Permits allowed :=
    { session := fun _ =>
        ⟨fun _ _ => work _ rfl rfl, fun _ => work _ rfl rfl, fun _ => work _ rfl rfl⟩
      approval := fun _ _ => work _ rfl rfl
      diff := work _ rfl rfl
      status := fun _ _ => work _ rfl rfl
      existsSync := fun _ => work _ rfl rfl
      readFileSync := fun _ => work _ rfl rfl
      readdirSync := fun _ => work _ rfl rfl
      execBuild := fun _ _ => work _ rfl rfl
      log := fun _ _ => work _ rfl rfl
      rollback := fun _ _ _ _ => work _ rfl rfl
      create := fun _ _ => work _ rfl rfl
      register := fun _ _ => work _ rfl rfl
      unregister := fun _ => work _ rfl rfl
      record := fun _ => work _ rfl rfl
      closed := fun _ _ _ _ => work _ rfl rfl
      save := saves
      recording := fun _ _ _ _ => work _ rfl rfl }
  refine .bind (DeveloperPhaseContext.checkoutRepositories_uses fun _ _ _ => work _ rfl rfl) ?_
  exact fun _ => permits.executeStories (fun _ => work _ rfl rfl) fun _ _ _ => work _ rfl rfl

theorem runTestGenerationPhase_work (context : TestGenerationContext) :
    Uses allowed (runTestGenerationPhase context) :=
  runTestGenerationPhase_uses (agent_of_work work) fun _ _ => work _ rfl rfl

theorem executeMergePhase_work (context : MergePhaseContext) :
    Uses allowed (executeMergePhase context) :=
  executeMergePhase_uses ⟨fun _ _ => work _ rfl rfl, fun _ _ => work _ rfl rfl,
    fun _ _ => work _ rfl rfl, fun _ _ => work _ rfl rfl⟩ fun _ _ _ _ => work _ rfl rfl

end Work

end MultiAgents
