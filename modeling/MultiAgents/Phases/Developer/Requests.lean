import MultiAgents.Phases.Developer.Phase
import MultiAgents.Services.Requests
import MultiAgents.System.Steps

/-!
# Requests of the Developer phase

For each part of the phase, the requests it can issue: what it may do at all,
whatever the environment answers.
-/

namespace MultiAgents

open Effects

variable {allowed : Request → Prop}

def Notice.isMilestone : Notice → Bool
  | .storyStart _ _ _ | .storyComplete _ _ _ _ _ _ _ | .sessionClosed _ _ _ _
  | .storyBuildCheckStarted _ _ | .storyBuildCheckSuccess _ _ _
  | .storyBuildCheckFailed _ _ _ => true
  | _ => false

/-- The notices with which a story begins and ends. -/
def Notice.isBoundary : Notice → Bool
  | .storyStart _ _ _ | .storyComplete _ _ _ _ _ _ _ => true
  | _ => false

def LogLine.skips : LogLine → Bool
  | .skippingStory _ _ _ => true
  | _ => false

structure ProbePermits (allowed : Request → Prop) : Prop where
  existsSync : ∀ path, allowed (.existsSync path)
  readFileSync : ∀ path, allowed (.readFileSync path)
  readdirSync : ∀ path, allowed (.readdirSync path)

structure BuildPermits (allowed : Request → Prop) : Prop extends ProbePermits allowed where
  execBuild : ∀ command directory, allowed (.execBuild command directory)

namespace BuildCheck

theorem anyExistsIn_uses (permits : ProbePermits allowed) (repoPath : String)
    (files : List String) : Uses allowed (anyExistsIn repoPath files) := by
  induction files with
  | nil => exact .pure _
  | cons file rest ih =>
      exact .bind (.call (permits.existsSync _)) fun _ => .ite (.pure _) ih

theorem firstExistingIn_uses (permits : ProbePermits allowed) (repoPath : String)
    (files : List (String × BuildSystem)) : Uses allowed (firstExistingIn repoPath files) := by
  induction files with
  | nil => exact .pure _
  | cons file rest ih =>
      exact .bind (.call (permits.existsSync _)) fun _ => .ite (.pure _) ih

theorem javascript_uses (permits : ProbePermits allowed) (repoPath : String) :
    Uses allowed (javascript repoPath) := by
  have present (file : String) : Uses allowed (existsIn repoPath file) :=
    .call (permits.existsSync _)
  have anyPresent := anyExistsIn_uses permits repoPath
  refine .bind (present _) fun _ => .ite (.tryCatch ?_ fun _ => .pure _) (.pure _)
  refine .bind (.attempt (.call (permits.readFileSync _))) fun _ => ?_
  refine .bind (.ofExcept _) fun _ => .ite ?_ ?_
  · refine .bind (anyPresent _) fun _ => .ite (.pure _) ?_
    refine .bind (anyPresent _) fun _ => .ite (.pure _) ?_
    exact .bind (present _) fun _ => .ite (.pure _) (.pure _)
  · exact .bind (present _) fun _ => .ite (.pure _) (.pure _)

theorem gradle_uses (permits : ProbePermits allowed) (repoPath : String) :
    Uses allowed (gradle repoPath) := by
  refine .bind (anyExistsIn_uses permits repoPath _) fun _ => .ite ?_ (.pure _)
  exact .bind (.call (permits.existsSync _)) fun _ => .ite (.pure _) (.pure _)

theorem dotnet_uses (permits : ProbePermits allowed) (repoPath : String) :
    Uses allowed (dotnet repoPath) :=
  .bind (.attempt (.call (permits.readdirSync _))) fun _ => .ite (.pure _) (.pure _)

theorem dart_uses (permits : ProbePermits allowed) (repoPath : String) :
    Uses allowed (dart repoPath) := by
  refine .bind (.call (permits.existsSync _)) fun _ =>
    .ite (.tryCatch ?_ fun _ => .pure _) (.pure _)
  exact .bind (.attempt (.call (permits.readFileSync _))) fun _ => .ite (.pure _) (.pure _)

theorem firstDetected_uses {detections : List (Program (Option BuildSystem))}
    (each : ∀ detection ∈ detections, Uses allowed detection) :
    Uses allowed (firstDetected detections) := by
  induction detections with
  | nil => exact .pure _
  | cons detection rest ih =>
      refine .bind (each detection (by simp)) fun found => ?_
      cases found with
      | some system => exact .pure _
      | none => exact ih fun other membership => each other (by simp [membership])

theorem detect_uses (permits : ProbePermits allowed) (repoPath : String) :
    Uses allowed (detect repoPath) := by
  apply firstDetected_uses
  simp only [List.forall_mem_cons, List.not_mem_nil, false_imp_iff, implies_true, and_true]
  exact ⟨javascript_uses permits repoPath, firstExistingIn_uses permits repoPath _,
    firstExistingIn_uses permits repoPath _, gradle_uses permits repoPath,
    dotnet_uses permits repoPath, dart_uses permits repoPath⟩

end BuildCheck

theorem runBuildCheck_uses (permits : BuildPermits allowed) (repoPath : String) :
    Uses allowed (runBuildCheck repoPath) := by
  refine .bind (BuildCheck.detect_uses permits.toProbePermits repoPath) fun found => ?_
  cases found with
  | none => exact .pure _
  | some system =>
      refine .bind (.call (permits.execBuild _ _)) fun answer => ?_
      cases answer <;> exact .pure _

theorem checkRepo_uses (permits : BuildPermits allowed) {taskId : String} {repo : RepositoryInfo}
    (notice : ∀ notice : Notice, notice.isMilestone = false → allowed (.toTask taskId notice))
    (status : allowed (.git .status repo.localPath)) : Uses allowed (checkRepo taskId repo) := by
  refine .tryCatch (.bind (GitService.hasChanges_uses status) fun _ => .ite ?_ (.pure _))
    fun _ => .pure _
  refine .bind (.call (notice _ rfl)) fun _ => .bind (runBuildCheck_uses permits _) fun _ => ?_
  exact .bind (.ite (.call (notice _ rfl)) (.call (notice _ rfl))) fun _ => .pure _

theorem runBuildChecksOnRepos_uses (permits : BuildPermits allowed) {taskId : String}
    {repositories : List RepositoryInfo}
    (notice : ∀ notice : Notice, notice.isMilestone = false → allowed (.toTask taskId notice))
    (status : ∀ repo ∈ repositories, allowed (.git .status repo.localPath)) :
    Uses allowed (runBuildChecksOnRepos repositories taskId) :=
  .foldlM _ fun _ repo membership =>
    .bind (checkRepo_uses permits notice (status repo membership)) fun _ => .pure _

/-- What is done with a session between its registration and its end. -/
structure SessionPermits (taskId sessionId : String) (allowed : Request → Prop) : Prop where
  notice : ∀ notice : Notice, notice.isMilestone = false → allowed (.toTask taskId notice)
  prompt : ∀ prompt, allowed (.sendPrompt sessionId prompt)
  wait : ∀ timeout, allowed (.waitForIdle sessionId timeout)

namespace StoryContext

variable {context : StoryContext} {sessionId : String}

theorem runDeveloper_uses (permits : SessionPermits context.taskId sessionId allowed)
    (iteration : Nat) : Uses allowed (context.runDeveloper sessionId iteration) := by
  refine .bind (.ite ?_ (.pure _)) fun _ => ?_
  · exact .bind (.call (permits.notice _ rfl)) fun _ =>
      OpenCodeClient.sendPrompt_uses (permits.prompt _)
  · exact .bind (OpenCodeClient.waitForIdle_uses (permits.wait _)) fun _ =>
      .bind (.call (permits.notice _ rfl)) fun _ => .pure _

theorem runJudge_uses (permits : SessionPermits context.taskId sessionId allowed)
    (iteration : Nat) : Uses allowed (context.runJudge sessionId iteration) :=
  .bind (.call (permits.notice _ rfl)) fun _ =>
    .bind (OpenCodeClient.sendPrompt_uses (permits.prompt _)) fun _ =>
      .bind (OpenCodeClient.waitForIdle_uses (permits.wait _)) fun _ =>
        .bind (.call (permits.notice _ rfl)) fun _ => .pure _

theorem runSpy_uses (permits : SessionPermits context.taskId sessionId allowed)
    (iteration : Nat) : Uses allowed (context.runSpy sessionId iteration) :=
  .bind (.call (permits.notice _ rfl)) fun _ =>
    .bind (OpenCodeClient.sendPrompt_uses (permits.prompt _)) fun _ =>
      .bind (OpenCodeClient.waitForIdle_uses (permits.wait _)) fun _ =>
        .bind (.ofExcept _) fun _ => .bind (.call (permits.notice _ rfl)) fun _ => .pure _

theorem runFix_uses (permits : SessionPermits context.taskId sessionId allowed)
    (iteration : Nat) (issues : Text.Json) :
    Uses allowed (context.runFix sessionId iteration issues) :=
  .bind (.call (permits.notice _ rfl)) fun _ => .bind (.ofExcept _) fun _ =>
    OpenCodeClient.sendPrompt_uses (permits.prompt _)

theorem runIteration_uses (permits : SessionPermits context.taskId sessionId allowed)
    (progress : StoryProgress) : Uses allowed (context.runIteration sessionId progress) :=
  .bind (runDeveloper_uses permits _) fun _ => .bind (runJudge_uses permits _) fun _ =>
    .bind (runSpy_uses permits _) fun _ => .pure _

theorem iterate_uses (permits : SessionPermits context.taskId sessionId allowed)
    (remaining : Nat) (progress : StoryProgress) :
    Uses allowed (context.iterate sessionId remaining progress) := by
  induction remaining generalizing progress with
  | zero => exact .pure _
  | succ remaining ih =>
      refine .bind (runIteration_uses permits progress) fun progress => ?_
      split
      · exact .pure _
      · exact .pure _
      · exact .ite (.bind (runFix_uses permits _ _) fun _ => ih progress) (.pure _)

end StoryContext

/-- What is done with sessions over a whole story. -/
structure StoryPermits (taskId : String) (allowed : Request → Prop) : Prop where
  create : ∀ title directory, allowed (.createSession title directory)
  register : ∀ sessionId directory, allowed (.registerSession taskId sessionId directory)
  unregister : ∀ sessionId, allowed (.unregisterSession sessionId)
  record : ∀ write, allowed (.writeSession write)
  closed : ∀ sessionId storyId storyIndex verdict,
    allowed (.toTask taskId (.sessionClosed sessionId storyId storyIndex verdict))
  session : ∀ sessionId, SessionPermits taskId sessionId allowed

theorem executeStoryWithSession_uses {context : StoryContext}
    (permits : StoryPermits context.taskId allowed) :
    Uses allowed (executeStoryWithSession context) := by
  refine .bind (.call (permits.create _ _)) fun answer => ?_
  cases answer with
  | error message => exact .pure _
  | ok sessionId =>
      have notice := (permits.session sessionId).notice
      refine .tryCatch ?_ fun _ => .bind (.tryCatch ?_ fun _ => .pure _) fun _ => .pure _
      · refine .bind (.call (permits.register _ _)) fun _ => ?_
        refine .bind (SessionRepository.create_uses (permits.record _)) fun _ => ?_
        refine .bind (.call (notice _ rfl)) fun _ => ?_
        refine .bind (StoryContext.iterate_uses (permits.session sessionId) _ _) fun _ => ?_
        refine .bind (SessionRepository.updateStatus_uses (permits.record _)) fun _ => ?_
        exact .bind (.call (permits.unregister _)) fun _ =>
          .bind (.call (permits.closed _ _ _ _)) fun _ => .pure _
      · exact .bind (SessionRepository.updateStatus_uses (permits.record _)) fun _ =>
          .call (permits.unregister _)

namespace DeveloperPhaseContext

variable {context : DeveloperPhaseContext}

/-- The commands that check a branch out. -/
def CheckoutCommand : GitCommand → Prop
  | .fetch | .checkout _ | .checkoutNew _ _ => True
  | _ => False

theorem checkoutRepositories_uses
    (permitted : ∀ command directory, CheckoutCommand command →
      allowed (.git command directory)) :
    Uses allowed (forM context.repositories context.checkoutRepository) := by
  refine .forM fun repo _ => .tryCatch ?_ fun _ => .tryCatch ?_ fun _ => .pure _
  · exact .bind (GitService.git_uses (permitted (.checkout _) _ trivial)) fun _ => .pure _
  · refine .bind (.bind (GitService.git_uses (permitted .fetch _ trivial)) fun _ => ?_)
      fun _ => .pure _
    exact .bind (GitService.git_uses (permitted (.checkoutNew _ _) _ trivial)) fun _ => .pure _

theorem anyRepoHasChanges_uses {repositories : List RepositoryInfo}
    (status : ∀ repo ∈ repositories, allowed (.git .status repo.localPath)) :
    Uses allowed (anyRepoHasChanges repositories) := by
  induction repositories with
  | nil => exact .pure _
  | cons repo rest ih =>
      refine .bind (.tryCatch (GitService.hasChanges_uses (status repo (by simp))) fun _ => .pure _)
        fun _ => .ite (.pure _) ?_
      exact ih fun other membership => status other (by simp [membership])

def RollbackCommand : GitCommand → Prop
  | .status | .resetHard | .cleanFd => True
  | _ => False

theorem rollbackRepository_uses {repo : RepositoryInfo}
    (permitted : ∀ command, RollbackCommand command → allowed (.git command repo.localPath)) :
    Uses allowed (rollbackRepository repo) := by
  refine .tryCatch (.bind (GitService.hasChanges_uses (permitted .status trivial)) fun _ =>
    .ite ?_ (.pure _)) fun _ => .pure _
  exact .bind (GitService.discardChanges_uses (permitted .resetHard trivial)
    (permitted .cleanFd trivial)) fun _ => .pure _

theorem rollbackRepositories_uses
    (permitted : ∀ repo ∈ context.repositories, ∀ command, RollbackCommand command →
      allowed (.git command repo.localPath)) : Uses allowed context.rollbackRepositories :=
  .foldlM _ fun _ repo membership =>
    .bind (rollbackRepository_uses (permitted repo membership)) fun _ => .pure _

theorem listChangedFiles_uses
    (status : ∀ repo ∈ context.repositories, allowed (.git .status repo.localPath)) :
    Uses allowed context.listChangedFiles :=
  .foldlM _ fun _ repo membership =>
    .bind (.tryCatch (GitService.getChangedFiles_uses (status repo membership)) fun _ => .pure _)
      fun _ => .pure _

theorem requestBuildFix_uses {sessionId errors : String}
    (prompt : ∀ prompt, allowed (.sendPrompt sessionId prompt))
    (wait : ∀ timeout, allowed (.waitForIdle sessionId timeout)) :
    Uses allowed (requestBuildFix sessionId errors) :=
  .tryCatch (.bind (OpenCodeClient.sendPrompt_uses (prompt _)) fun _ =>
    .bind (OpenCodeClient.waitForIdle_uses (wait _)) fun _ => .pure _) fun _ => .pure _

theorem commitRepository_uses {story : Story} {storyIndex : Nat} {repo : RepositoryInfo}
    (permitted : ∀ command, GitService.RecordingCommand command →
      allowed (.git command repo.localPath)) :
    Uses allowed (commitRepository story storyIndex repo) := by
  refine .tryCatch (.bind (GitService.hasChanges_uses (permitted .status trivial)) fun _ =>
    .ite ?_ (.pure _)) fun _ => .pure _
  exact .bind (GitService.commitAndPush_uses permitted) fun _ => .pure _

theorem commitRepositories_uses {story : Story} {storyIndex : Nat}
    (permitted : ∀ repo ∈ context.repositories, ∀ command, GitService.RecordingCommand command →
      allowed (.git command repo.localPath)) :
    Uses allowed (context.commitRepositories story storyIndex) :=
  .foldlM _ fun _ repo membership =>
    .bind (commitRepository_uses (permitted repo membership)) fun _ => .pure _

/-- What is done to ask the user about a story. -/
structure ApprovalPermits (context : DeveloperPhaseContext) (allowed : Request → Prop) :
    Prop where
  session : ∀ sessionId, SessionPermits context.taskId sessionId allowed
  approval : ∀ storyId output, allowed (.requestApproval context.taskId (.story storyId) output)
  diff : allowed (.git .diffHead context.workingDirectory)
  status : ∀ repo ∈ context.repositories, allowed (.git .status repo.localPath)

/-- What happens between the end of a story's session and the commit. -/
structure GatePermits (context : DeveloperPhaseContext) (allowed : Request → Prop) : Prop
    extends ApprovalPermits context allowed, BuildPermits allowed where
  log : ∀ line : LogLine, line.skips = false → allowed (.log line)
  rollback : ∀ repo ∈ context.repositories, ∀ command, RollbackCommand command →
    allowed (.git command repo.localPath)

/-- Everything the phase does for a story short of committing it. -/
structure ReviewPermits (context : DeveloperPhaseContext) (allowed : Request → Prop) : Prop
    extends GatePermits context allowed, StoryPermits context.taskId allowed where
  save : ∀ write ∈ context.onStoryComplete, ∀ storyIndex,
    allowed (.writeTask context.taskId (write storyIndex))

/-- Everything the phase does once the branches are checked out, apart from the results of build
checks. -/
structure Permits (context : DeveloperPhaseContext) (allowed : Request → Prop) : Prop
    extends ReviewPermits context allowed where
  recording : ∀ repo ∈ context.repositories, ∀ command, GitService.RecordingCommand command →
    allowed (.git command repo.localPath)

theorem GatePermits.of_git
    (others : ∀ request : Request, request.git? = none → request.registers = false →
      allowed request)
    (diff : allowed (.git .diffHead context.workingDirectory))
    (rollback : ∀ repo ∈ context.repositories, ∀ command, RollbackCommand command →
      allowed (.git command repo.localPath)) : GatePermits context allowed where
  session _ :=
    ⟨fun _ _ => others _ rfl rfl, fun _ => others _ rfl rfl, fun _ => others _ rfl rfl⟩
  approval _ _ := others _ rfl rfl
  diff := diff
  status repo membership := rollback repo membership .status trivial
  existsSync _ := others _ rfl rfl
  readFileSync _ := others _ rfl rfl
  readdirSync _ := others _ rfl rfl
  execBuild _ _ := others _ rfl rfl
  log _ _ := others _ rfl rfl
  rollback := rollback

theorem ReviewPermits.of_git (others : ∀ request : Request, request.git? = none → allowed request)
    (diff : allowed (.git .diffHead context.workingDirectory))
    (rollback : ∀ repo ∈ context.repositories, ∀ command, RollbackCommand command →
      allowed (.git command repo.localPath)) : ReviewPermits context allowed where
  toGatePermits := .of_git (fun request other _ => others request other) diff rollback
  create _ _ := others _ rfl
  register _ _ := others _ rfl
  unregister _ := others _ rfl
  record _ := others _ rfl
  closed _ _ _ _ := others _ rfl
  save _ _ _ := others _ rfl

theorem withoutCommit (context : DeveloperPhaseContext) :
    context.ReviewPermits (fun request : Request => request.isCommit = false) := by
  refine .of_git (fun request other => ?_) rfl fun repo membership command permitted => ?_
  · cases request <;> first | rfl | simp [Request.git?] at other
  · cases command <;> first | rfl | simp [RollbackCommand] at permitted

namespace ApprovalPermits

variable (permits : ApprovalPermits context allowed)
include permits

theorem notice (notice : Notice) (other : notice.isMilestone = false) :
    allowed (.toTask context.taskId notice) :=
  (permits.session "").notice notice other

theorem feedbackRound (story : Story) (storyIndex : Nat) (sessionId feedback : String)
    (attempt : Nat) (current : StoryExecutionResult) :
    Uses allowed
      (context.feedbackRound story storyIndex sessionId feedback attempt current) := by
  have session := permits.session sessionId
  refine .bind (.call (permits.notice _ rfl)) fun _ => ?_
  refine .bind (.call (permits.notice _ rfl)) fun _ => ?_
  refine .bind (OpenCodeClient.sendPrompt_uses (session.prompt _)) fun _ => ?_
  refine .bind (OpenCodeClient.waitForIdle_uses (session.wait _)) fun _ => ?_
  refine .bind (.call (permits.notice _ rfl)) fun _ => ?_
  exact .bind (StoryContext.runJudge_uses session _) fun _ =>
    .bind (StoryContext.runSpy_uses session _) fun _ => .pure _

theorem askUser (story : Story) (storyIndex attempt : Nat) (current : StoryExecutionResult) :
    Uses allowed (context.askUser story storyIndex attempt current) := by
  refine .bind (listChangedFiles_uses permits.status) fun _ => ?_
  refine .bind (GitService.getFullDiff_uses permits.diff) fun _ => ?_
  refine .bind (.attempt (.call (permits.approval _ _))) fun _ => ?_
  split
  · exact .pure _
  · exact .pure _
  · exact .bind (permits.feedbackRound story storyIndex _ _ attempt current) fun _ => .pure _
  · exact .pure _

theorem approvalLoop (story : Story) (storyIndex remaining approvalAttempts : Nat)
    (current : StoryExecutionResult) :
    Uses allowed (context.approvalLoop story storyIndex remaining approvalAttempts current) := by
  induction remaining generalizing approvalAttempts current with
  | zero => exact .pure _
  | succ remaining ih =>
      refine .bind (.tryCatch (permits.askUser story storyIndex _ current) fun _ => .pure _)
        fun outcome => ?_
      cases outcome with
      | approved => exact .pure _
      | rejected => exact .pure _
      | again current => exact ih _ current

end ApprovalPermits

namespace GatePermits

variable (permits : GatePermits context allowed)
include permits

theorem rollbackRepositories : Uses allowed context.rollbackRepositories :=
  rollbackRepositories_uses permits.rollback

theorem verifyBuild
    (milestone : ∀ notice : Notice, notice.isBoundary = false →
      allowed (.toTask context.taskId notice))
    (story : Story) (sessionId : Option String) (remaining buildAttempts : Nat)
    (result : StoryResultV2) :
    Uses allowed (context.verifyBuild story sessionId remaining buildAttempts result) := by
  induction remaining generalizing buildAttempts result with
  | zero => exact .pure _
  | succ remaining ih =>
      refine .bind (runBuildChecksOnRepos_uses permits.toBuildPermits permits.notice
        permits.status) fun checks => .ite ?_ ?_
      · exact .bind (.call (milestone _ rfl)) fun _ => .pure _
      · refine .bind (.call (milestone _ rfl)) fun _ => ?_
        split
        · have session := permits.session
          exact .bind (requestBuildFix_uses (session _).prompt (session _).wait) fun _ =>
            ih _ _
        · exact ih _ _
        · refine .bind (.call (permits.log _ rfl)) fun _ => .bind (.ofExcept _) fun _ => ?_
          exact .bind permits.rollbackRepositories fun _ =>
            .bind (.call (milestone _ rfl)) fun _ => .pure _

theorem discardStory (story : Story) (result : StoryExecutionResult)
    (recorded : StoryResultV2) : Uses allowed (context.discardStory story result recorded) :=
  .bind (.call (permits.log _ rfl)) fun _ => .bind permits.rollbackRepositories fun _ =>
    .bind (.ite (.call (permits.notice _ rfl)) (.pure _)) fun _ => .pure _

section Recording

variable (recording : ∀ repo ∈ context.repositories, ∀ command,
  GitService.RecordingCommand command → allowed (.git command repo.localPath))
include recording

theorem concludeStory (story : Story) (storyIndex : Nat) (userApproved : Bool)
    (recorded : StoryResultV2) :
    Uses allowed (context.concludeStory story storyIndex userApproved recorded) := by
  refine .ite (.bind (.call (permits.log _ rfl)) fun _ => ?_)
    (.bind (.call (permits.log _ rfl)) fun _ => ?_)
  · exact .bind (commitRepositories_uses recording) fun _ => .pure _
  · exact .bind permits.rollbackRepositories fun _ =>
      .bind (.call (permits.notice _ rfl)) fun _ => .pure _

theorem acceptStory
    (milestone : ∀ notice : Notice, notice.isBoundary = false →
      allowed (.toTask context.taskId notice))
    (story : Story) (storyIndex : Nat) (result : StoryExecutionResult) (recorded : StoryResultV2) :
    Uses allowed (context.acceptStory story storyIndex result recorded) := by
  refine .bind (anyRepoHasChanges_uses permits.status) fun _ => .ite ?_ (.pure _)
  refine .bind (.call (milestone _ rfl)) fun _ => ?_
  refine .bind (permits.verifyBuild milestone story _ _ _ recorded) fun _ => ?_
  refine .bind (.ite (.pure _) (permits.approvalLoop story storyIndex _ _ result)) fun _ => ?_
  exact .bind (permits.concludeStory recording story storyIndex _ _) fun _ => .pure _

theorem settleStory
    (milestone : ∀ notice : Notice, notice.isBoundary = false →
      allowed (.toTask context.taskId notice))
    (story : Story) (storyIndex : Nat) (result : StoryExecutionResult) (recorded : StoryResultV2) :
    Uses allowed (context.settleStory story storyIndex result recorded) :=
  .ite (permits.acceptStory recording milestone _ _ result _) (permits.discardStory _ result _)

end Recording

end GatePermits

namespace ReviewPermits

variable (permits : ReviewPermits context allowed)
include permits

theorem saveProgress (storyIndex : Nat) : Uses allowed (context.saveProgress storyIndex) := by
  unfold DeveloperPhaseContext.saveProgress
  split
  · rename_i write given
    exact .attempt (.call (permits.save write given storyIndex))
  · exact .pure _

end ReviewPermits

namespace Permits

variable (permits : Permits context allowed)
include permits

theorem processStory (milestone : ∀ notice, allowed (.toTask context.taskId notice))
    (skip : ∀ number total story, allowed (.log (.skippingStory number total story)))
    (progress : DeveloperProgress) (entry : Story × Nat) :
    Uses allowed (context.processStory progress entry) := by
  refine .ite (.bind (.call (skip _ _ _)) fun _ => .pure _) ?_
  refine .bind (.call (milestone _)) fun _ => ?_
  refine .bind (executeStoryWithSession_uses permits.toStoryPermits) fun result => ?_
  refine .bind (permits.settleStory permits.recording (fun notice _ => milestone notice) _ _ result
    _) fun _ => ?_
  exact .bind (.call (milestone _)) fun _ =>
    .bind (permits.saveProgress _) fun _ => .pure _

theorem executeStories (milestone : ∀ notice, allowed (.toTask context.taskId notice))
    (skip : ∀ number total story, allowed (.log (.skippingStory number total story))) :
    Uses allowed context.executeStories := by
  refine .bind (.call (permits.notice _ rfl)) fun _ => ?_
  refine .bind (.foldlM _ fun progress entry _ => permits.processStory milestone skip progress
    entry) fun _ => ?_
  exact .bind (.call (permits.notice _ rfl)) fun _ => .pure _

end Permits

/-- What the phase does around the sessions of its stories. -/
inductive Frames (context : DeveloperPhaseContext) : Request → Prop
  | notice {notice : Notice} (told : notice.isMilestone = notice.isBoundary) :
      Frames context (.toTask context.taskId notice)
  | skip (line : LogLine) : Frames context (.log line)
  | save (write : TaskWrite) : Frames context (.writeTask context.taskId write)
  | fetch (directory : String) : Frames context (.git .fetch directory)
  | checkout (branch directory : String) : Frames context (.git (.checkout branch) directory)
  | create (branch base directory : String) :
      Frames context (.git (.checkoutNew branch base) directory)

/-- Story after story: what holds between the stories is kept around them, and the session of a
story hands over to the settling of its result. -/
theorem executeDeveloperPhase_rule {assume : Assumption environment}
    {good after : SystemWorld → Prop} {ran : StoryExecutionResult → SystemWorld → Prop}
    (frame : ∀ {α : Type} {program : Program α}, Uses context.Frames program →
      Triple assume good program (fun _ => good) (fun _ => after))
    (session : ∀ story storyIndex, Triple assume good
      (executeStoryWithSession (context.storyContext story storyIndex)) ran (fun _ => after))
    (settle : ∀ story storyIndex result, Triple assume (ran result)
      (context.settleStory story storyIndex result (recordOf story result))
      (fun _ => good) (fun _ => after)) :
    Triple assume good (executeDeveloperPhase context) (fun _ => good) (fun _ => after) := by
  have told {notice : Notice} (told : notice.isMilestone = notice.isBoundary) :
      Triple assume good (context.toTask notice) (fun _ => good) (fun _ => after) :=
    frame (.call (.notice told))
  refine (frame (checkoutRepositories_uses fun command directory checkout => ?_)).bind fun _ => ?_
  · cases command <;> first | constructor | cases checkout
  refine (told rfl).bind fun _ => (Triple.foldlM (fun _ _ => good)
    fun _ entry _ progress _ => ?_).bind fun _ => (told rfl).bind fun _ => .pure fun _ => id
  refine .ite (fun _ => frame (.bind (.call (.skip _)) fun _ => .pure _)) fun _ => ?_
  refine (told rfl).bind fun _ => (session entry.1 entry.2).bind fun result => ?_
  refine (settle entry.1 entry.2 result).bind fun _ => (told rfl).bind fun _ => ?_
  refine (frame ?_).bind fun _ => .pure fun _ => id
  unfold saveProgress
  split
  · exact .attempt (.call (.save _))
  · exact .pure _

end DeveloperPhaseContext

end MultiAgents
