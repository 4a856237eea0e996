import MultiAgents.Phases.Developer.Build
import MultiAgents.Phases.Developer.Story

/-!
# The Developer phase

`executeDeveloperPhase` takes the stories one after the other: each is executed
in its own session, its builds are checked, the user is asked, and its changes
are committed in every repository or rolled back.  The loops of the source are
recursions on the number of attempts left.
-/

namespace MultiAgents

open Effects Text

structure DeveloperPhaseContext where
  taskId : String
  projectPath : String
  repositories : List RepositoryInfo
  stories : List Story
  branchName : String
  autoApprove : Bool := false
  startFromStoryIndex : Nat := 0
  /-- What the callback after each story writes to the task. -/
  onStoryComplete : Option (Nat → TaskWrite) := none

/-- What the loop over the stories accumulates. -/
structure DeveloperProgress where
  stories : List StoryResultV2 := []
  totalCommits : Nat := 0
  sessionIds : List String := []

def maxBuildAttempts : Nat := 3

def maxApprovalAttempts : Nat := 5

namespace DeveloperPhaseContext

variable (context : DeveloperPhaseContext)

def toTask (notice : Notice) : Program Unit :=
  SocketService.toTask context.taskId notice

def workingDirectory : String :=
  DeveloperPhaseV2.determineWorkingDirectory context.repositories context.projectPath

def storyContext (story : Story) (storyIndex : Nat) : StoryContext where
  story := story
  storyIndex := storyIndex
  totalStories := context.stories.length
  repositories := context.repositories
  projectPath := context.projectPath
  taskId := context.taskId
  autoApprove := context.autoApprove

/-- Check the branch out, or else try to create it.  The fallback passes the path
and the branch in the places of the task and the directory. -/
def checkoutRepository (repo : RepositoryInfo) : Program Unit :=
  tryCatch (GitService.checkout repo.localPath context.branchName) fun _ =>
    tryCatch (do
      let _ ← GitService.createBranch repo.localPath context.branchName)
      fun _ => pure ()

/-- Whether some repository has changes; one that cannot be asked counts as having none. -/
def anyRepoHasChanges : List RepositoryInfo → Program Bool
  | [] => pure false
  | repo :: rest => do
      if ← tryCatch (GitService.hasChanges repo.localPath) fun _ => pure false then pure true
      else anyRepoHasChanges rest

def rollbackRepository (repo : RepositoryInfo) : Program Bool :=
  tryCatch (do
    if ← GitService.hasChanges repo.localPath then
      GitService.discardChanges repo.localPath
      pure true
    else pure false)
    fun _ => pure false

/-- Roll every repository back and say whether one of them had changes. -/
def rollbackRepositories : Program Bool :=
  context.repositories.foldlM (fun rolledBack repo => do
    let discarded ← rollbackRepository repo
    pure (rolledBack || discarded)) false

def listChangedFiles : Program (List String) :=
  context.repositories.foldlM (fun listed repo => do
    let files ← tryCatch (GitService.getChangedFiles repo.localPath) fun _ => pure []
    pure (listed ++ files.map fun file => s!"{repo.name}/{file}")) []

/-- The errors of the failed builds as the FIX prompt quotes them. -/
def buildErrors (checks : BuildChecks) : String :=
  "\n\n".intercalate ((checks.results.filter fun entry => !entry.2.success).map
    fun (repo, result) => s!"{repo}:\n" ++ result.error.getD "undefined")

/-- The elements a spread takes from a value. -/
def spread : Json → Except String (List Json)
  | .arr items => .ok items
  | .str text => .ok (text.toList.map fun char => .str char.toString)
  | _ => .error "TypeError: issues is not iterable"

def rejectBuild (result : StoryResultV2) (errors : String) : Except String StoryResultV2 := do
  let issues ← spread (result.issues.orElse (.arr []))
  let description := s!"Build failed after {maxBuildAttempts} attempts: {clip 500 errors}"
  pure { result with
    status := .failed
    verdict := .rejected
    issues := some (.arr (issues ++
      [.obj [("severity", .str "critical"), ("description", .str description)]])) }

def requestBuildFix (sessionId errors : String) : Program Unit :=
  tryCatch (do
    OpenCodeClient.sendPrompt sessionId (.developer (.buildFix (clip 3000 errors)))
    let _ ← OpenCodeClient.waitForIdle sessionId (some 60000))
    fun _ => pure ()

/-- The build loop of a story.  The second component says that the last attempt
failed; the story has then been recorded and rolled back already. -/
def verifyBuild (story : Story) (sessionId : Option String) :
    Nat → Nat → StoryResultV2 → Program (StoryResultV2 × Bool)
  | 0, _, result => pure (result, false)
  | remaining + 1, buildAttempts, result => do
      let attempt := buildAttempts + 1
      let checks ← runBuildChecksOnRepos context.repositories context.taskId
      if checks.allPassed then
        context.toTask (.storyBuildCheckSuccess story.id story.title attempt)
        pure (result, false)
      else
        context.toTask (.storyBuildCheckFailed story.id story.title attempt)
        match remaining, sessionId with
        | _ + 1, some session =>
            requestBuildFix session (buildErrors checks)
            verifyBuild story sessionId remaining attempt result
        | _ + 1, none => verifyBuild story sessionId remaining attempt result
        | 0, _ =>
            Console.log (.buildFailedStory story attempt)
            let rejected ← Process.ofExcept (rejectBuild result (buildErrors checks))
            let _ ← context.rollbackRepositories
            context.toTask (.storyBuildFailed story.id story.title attempt)
            pure (rejected, true)

/-- How one round of asking the user ends. -/
inductive ApprovalOutcome where
  | approved
  | rejected
  | again (current : StoryExecutionResult)

def feedbackRound (story : Story) (storyIndex : Nat) (sessionId feedback : String)
    (attempt : Nat) (current : StoryExecutionResult) : Program StoryExecutionResult := do
  context.toTask (.storyFeedbackRound story.id feedback attempt)
  context.toTask (.agentStart "FIXER" attempt sessionId)
  OpenCodeClient.sendPrompt sessionId (.developer (.feedback feedback))
  let _ ← OpenCodeClient.waitForIdle sessionId none
  context.toTask (.iterationComplete "feedback" attempt sessionId)
  let execution := context.storyContext story storyIndex
  let (judged, _) ← execution.runJudge sessionId (current.iterations + 1)
  let spyVulns ← execution.runSpy sessionId (current.iterations + 1)
  pure { current with
    verdict := judged.verdict
    score := some judged.score
    issues := some judged.issues
    iterations := current.iterations + 1
    vulnerabilities := current.vulnerabilities ++ spyVulns }

/-- Show the user what changed and act on the answer. -/
def askUser (story : Story) (storyIndex attempt : Nat) (current : StoryExecutionResult) :
    Program ApprovalOutcome := do
  let filesModified ← context.listChangedFiles
  let diff ← GitService.getFullDiff context.workingDirectory 300
  let response ← ApprovalService.requestApproval context.taskId (.story story.id) (.story
    { story, storyIndex, totalStories := context.stories.length, verdict := current.verdict
      score := current.score, iterations := current.iterations, filesModified
      gitDiff := clip 8000 diff, issues := current.issues
      vulnerabilities := current.vulnerabilities.length, sessionId := current.sessionId
      approvalAttempt := attempt })
  match response.action, current.sessionId, response.feedback.filter (· != "") with
  | .approve, _, _ => pure .approved
  | .reject, _, _ => pure .rejected
  | .requestChanges, some sessionId, some feedback => do
      let current ← context.feedbackRound story storyIndex sessionId feedback attempt current
      pure (.again current)
  | .requestChanges, _, _ => pure .rejected

/-- Ask until there is a decision; running out of attempts is a rejection. -/
def approvalLoop (story : Story) (storyIndex : Nat) :
    Nat → Nat → StoryExecutionResult → Program Bool
  | 0, _, _ => pure false
  | remaining + 1, approvalAttempts, current => do
      let attempt := approvalAttempts + 1
      match ← tryCatch (context.askUser story storyIndex attempt current)
          fun _ => pure .rejected with
      | .approved => pure true
      | .rejected => pure false
      | .again current => approvalLoop story storyIndex remaining attempt current

/-- The user's decision; in automatic mode nobody is asked. -/
def awaitApproval (story : Story) (storyIndex : Nat) (result : StoryExecutionResult) :
    Program Bool :=
  if context.autoApprove then pure true
  else context.approvalLoop story storyIndex maxApprovalAttempts 0 result

/-- Commit and push one repository: the hash, `none` without changes or after an error. -/
def commitRepository (story : Story) (storyIndex : Nat) (repo : RepositoryInfo) :
    Program (Option String) :=
  tryCatch (do
    if ← GitService.hasChanges repo.localPath then
      let commit ← GitService.commitAndPush repo.localPath
        s!"[story-{storyIndex + 1}] {story.title}" (some (story.id, story.title))
      pure (some s!"{repo.name}:{clip 7 commit.hash}")
    else pure none)
    fun _ => pure none

def commitRepositories (story : Story) (storyIndex : Nat) : Program (List String) :=
  context.repositories.foldlM (fun hashes repo => do
    let hash ← commitRepository story storyIndex repo
    pure (hashes ++ hash.toList)) []

/-- Commit an accepted story, or roll back one that the user did not approve. -/
def concludeStory (story : Story) (storyIndex : Nat) (userApproved : Bool)
    (recorded : StoryResultV2) : Program (StoryResultV2 × Nat) :=
  if userApproved then do
    Console.log (.committingStory story)
    let hashes ← context.commitRepositories story storyIndex
    let commitHash := if hashes = [] then none else some (", ".intercalate hashes)
    pure ({ recorded with commitHash }, hashes.length)
  else do
    Console.log (.storyNotCommitted story)
    let _ ← context.rollbackRepositories
    context.toTask (.storyRollback story.id story.title "User rejected - changes discarded"
      (context.repositories.map RepositoryInfo.name))
    pure ({ recorded with status := .failed, verdict := .rejected }, 0)

/-- A story the judge approved: the entries it adds to the results, and its commits.
The entry recorded by the build loop is the object recorded at the end as well. -/
def acceptStory (story : Story) (storyIndex : Nat) (result : StoryExecutionResult)
    (recorded : StoryResultV2) : Program (List StoryResultV2 × Nat) := do
  if ← anyRepoHasChanges context.repositories then
    context.toTask (.storyBuildCheckStarted story.id story.title)
    let (recorded, buildFailed) ←
      context.verifyBuild story result.sessionId maxBuildAttempts 0 recorded
    let userApproved ← context.awaitApproval story storyIndex result
    let (recorded, commits) ← context.concludeStory story storyIndex userApproved recorded
    pure (if buildFailed then [recorded, recorded] else [recorded], commits)
  else pure ([recorded], 0)

def reportRollback (story : Story) (verdict : Verdict) (rolledBack : Bool) : Program Unit :=
  if rolledBack then
    context.toTask (.storyRollback story.id story.title
      s!"Judge verdict: {verdict.text} - changes discarded"
      (context.repositories.map RepositoryInfo.name))
  else pure ()

def discardStory (story : Story) (result : StoryExecutionResult) (recorded : StoryResultV2) :
    Program (List StoryResultV2 × Nat) := do
  Console.log (.storyFailedReview story result.verdict)
  let rolledBack ← context.rollbackRepositories
  context.reportRollback story result.verdict rolledBack
  pure ([recorded], 0)

def settleStory (story : Story) (storyIndex : Nat) (result : StoryExecutionResult)
    (recorded : StoryResultV2) : Program (List StoryResultV2 × Nat) :=
  if result.verdict.isApproved then context.acceptStory story storyIndex result recorded
  else context.discardStory story result recorded

def recordOf (story : Story) (result : StoryExecutionResult) : StoryResultV2 :=
  { story.toResult (if result.verdict.isApproved then .completed else .failed)
      result.iterations result.verdict with
    score := result.score
    issues := result.issues
    vulnerabilities := result.vulnerabilities }

def saveProgress (storyIndex : Nat) : Program Unit :=
  match context.onStoryComplete with
  | some write => TaskRepository.write context.taskId (write storyIndex)
  | none => pure ()

def executeStory (progress : DeveloperProgress) (story : Story) (storyIndex : Nat) :
    Program DeveloperProgress := do
  context.toTask (.storyStart storyIndex story context.stories.length)
  let result ← executeStoryWithSession (context.storyContext story storyIndex)
  let (entries, commits) ← context.settleStory story storyIndex result (recordOf story result)
  context.toTask (.storyComplete storyIndex story result.verdict.isApproved result.verdict
    ((entries.getLast?).bind StoryResultV2.commitHash) (result.issues.orElse (.arr []))
    context.stories.length)
  context.saveProgress storyIndex
  pure ⟨progress.stories ++ entries, progress.totalCommits + commits,
    progress.sessionIds ++ result.sessionId.toList⟩

/-- A story before the index to resume from is reported as approved and not executed. -/
def skipStory (progress : DeveloperProgress) (story : Story) (storyIndex : Nat) :
    Program DeveloperProgress := do
  Console.log (.skippingStory (storyIndex + 1) context.stories.length story)
  pure { progress with stories := progress.stories ++ [story.toResult .completed 0 .approved] }

def processStory (progress : DeveloperProgress) (entry : Story × Nat) :
    Program DeveloperProgress :=
  if entry.2 < context.startFromStoryIndex then context.skipStory progress entry.1 entry.2
  else context.executeStory progress entry.1 entry.2

/-- The phase once the branches are checked out. -/
def executeStories : Program DeveloperResultV2 := do
  context.toTask (.phaseStart .developer)
  let progress ← context.stories.zipIdx.foldlM context.processStory {}
  let allApproved := progress.stories.all fun result => result.verdict.isApproved
  context.toTask (.phaseComplete .developer allApproved)
  pure ⟨allApproved, progress.sessionIds.getLast?.getD "", progress.stories,
    progress.totalCommits⟩

end DeveloperPhaseContext

def executeDeveloperPhase (context : DeveloperPhaseContext) : Program DeveloperResultV2 := do
  forM context.repositories context.checkoutRepository
  context.executeStories

end MultiAgents
