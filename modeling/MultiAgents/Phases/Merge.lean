import MultiAgents.Services.GitService

/-!
# The Merge and GlobalScan phases

`executeMergePhase` commits what is left in every repository, opens one pull
request for each and merges them once that is approved.  The security scan runs
at the end of every orchestration and only reports.
-/

namespace MultiAgents

open Effects Text

structure MergePhaseContext where
  task : Task
  workingDirectory : String
  repositories : List RepositoryInfo
  branchName : String
  analysisDescription : String
  storiesCompleted : Nat
  totalStories : Nat
  autoMerge : Bool := false
  /-- Whether there is a callback to ask for the approval of the merge. -/
  onMergeApprovalRequired : Bool := false

/-- A repository to process. -/
structure MergeTarget where
  path : String
  name : String
  type : String
  deriving DecidableEq

structure RepoPullRequestInfo where
  pullRequest : PullRequestInfo
  repo : MergeTarget
  deriving DecidableEq

structure MergeResult where
  success : Bool
  pullRequest : Option RepoPullRequestInfo := none
  pullRequests : List RepoPullRequestInfo
  merged : Bool
  error : Option String := none
  deriving DecidableEq

/-- What the loop that opens the pull requests accumulates. -/
structure CreatedPullRequests where
  pullRequests : List RepoPullRequestInfo := []
  errors : List String := []

/-- A failure that only means that a repository has nothing to merge. -/
def nothingToMerge (message : String) : Bool :=
  includes message "No commits" || includes message "no changes" ||
    includes message "already up to date"

def requireMergeable (status : PullRequestStatus) : Except String Unit :=
  if status.state ≠ "open" then .error s!"PR is already {status.state}"
  else if status.mergeable then .ok ()
  else .error "PR has merge conflicts"

def mergePullRequest (created : RepoPullRequestInfo) : Program (Option String) :=
  tryCatch (do
    let status ← GitService.getPullRequestStatus created.repo.path created.pullRequest.number
    Process.ofExcept (requireMergeable status)
    GitService.mergePullRequest created.repo.path created.pullRequest.number
    pure none)
    fun message => pure (some message)

namespace MergePhaseContext

variable (context : MergePhaseContext)

def toTask (notice : Notice) : Program Unit :=
  SocketService.toTask context.task.id notice

def reposToProcess : List MergeTarget :=
  if context.repositories ≠ [] then
    context.repositories.map fun repo => ⟨repo.localPath, repo.name, repo.type⟩
  else if context.workingDirectory ≠ "" then [⟨context.workingDirectory, "main", "unknown"⟩]
  else []

/-- Commit whatever is left in a repository; a failure is only reported. -/
def pushRemaining (repo : MergeTarget) : Program Unit :=
  tryCatch (do
    if ← GitService.hasChanges repo.path then
      let _ ← GitService.commitAndPush repo.path s!"Final changes for {context.task.title}" none
    else pure ())
    fun _ => pure ()

def buildPRBody (repo : MergeTarget) : String :=
  let repoInfo :=
    if repo.name ≠ "" ∧ repo.type ≠ "" then
      s!"\n## Repository\n📁 **{repo.name}** ({repo.type})\n"
    else ""
  s!"## Summary\n{context.task.text}\n{repoInfo}\n## Analysis\n{context.analysisDescription}\n" ++
    s!"\n## Stories Completed\n✅ {context.storiesCompleted}/{context.totalStories} stories " ++
    "implemented\n\n## Checklist\n- [ ] Code has been reviewed\n- [ ] Tests pass\n" ++
    "- [ ] No security issues\n- [ ] Documentation updated (if needed)\n\n---\n" ++
    "*Generated by Open Multi-Agents*\n"

def prTitle (repo : MergeTarget) : String :=
  if 1 < context.repositories.length then s!"[Task] {context.task.title} ({repo.type})"
  else s!"[Task] {context.task.title}"

def createPullRequest (repo : MergeTarget) : Program RepoPullRequestInfo := do
  let pullRequest ← GitService.createPullRequest repo.path (context.prTitle repo)
    (context.buildPRBody repo) "main"
  context.toTask (.pullRequestCreated pullRequest.number pullRequest.url pullRequest.title
    context.branchName repo.name repo.type)
  pure ⟨pullRequest, repo⟩

def openPullRequest (created : CreatedPullRequests) (repo : MergeTarget) :
    Program CreatedPullRequests :=
  tryCatch (do
    let pullRequest ← context.createPullRequest repo
    pure { created with pullRequests := created.pullRequests ++ [pullRequest] })
    fun message => pure (
      if nothingToMerge message then created
      else { created with errors := created.errors ++ [s!"{repo.name}: {message}"] })

def endWithoutPullRequests (errors : List String) : Program MergeResult := do
  context.toTask (.phaseComplete .merge errors.isEmpty)
  pure {
    success := errors.isEmpty
    pullRequests := []
    merged := false
    error :=
      if errors = [] then none else some ("Failed to create PRs: " ++ "; ".intercalate errors) }

def awaitMergeApproval (primary : RepoPullRequestInfo)
    (pullRequests : List RepoPullRequestInfo) : Program Bool :=
  if context.autoMerge then pure true
  else if context.onMergeApprovalRequired then do
    context.toTask (.mergeApprovalRequired
      (pullRequests.map fun created => (created.pullRequest.number, created.pullRequest.url)))
    Process.attempt (Request.issue
      (.mergeApproval context.task.id primary.pullRequest.number primary.pullRequest.url))
  else pure false

def mergeAll (primary : RepoPullRequestInfo) (pullRequests : List RepoPullRequestInfo) :
    Program MergeResult := do
  let failures ← pullRequests.foldlM (fun failures created => do
    let failure ← mergePullRequest created
    pure (failures ++ [failure])) []
  let errors := (pullRequests.zip failures).filterMap fun (created, failure) =>
    failure.map fun message => s!"{created.repo.name}: {message}"
  let anyMerged := failures.any Option.isNone
  context.toTask (.phaseComplete .merge anyMerged)
  pure {
    success := anyMerged
    pullRequest := some primary
    pullRequests
    merged := failures.all Option.isNone
    error :=
      if errors = [] then none else some ("Some merges failed: " ++ "; ".intercalate errors) }

def leaveOpen (primary : RepoPullRequestInfo) (pullRequests : List RepoPullRequestInfo) :
    Program MergeResult := do
  context.toTask (.phaseComplete .merge true)
  pure { success := true, pullRequest := some primary, pullRequests, merged := false }

def settlePullRequests (created : CreatedPullRequests) : Program MergeResult :=
  match created.pullRequests with
  | [] => context.endWithoutPullRequests created.errors
  | primary :: others => do
      TaskRepository.write context.task.id
        (.setPullRequest primary.pullRequest.number primary.pullRequest.url)
      if ← context.awaitMergeApproval primary (primary :: others) then
        context.mergeAll primary (primary :: others)
      else context.leaveOpen primary (primary :: others)

end MergePhaseContext

def executeMergePhase (context : MergePhaseContext) : Program MergeResult := do
  context.toTask (.phaseStart .merge)
  if context.reposToProcess = [] then
    pure {
      success := false
      pullRequests := []
      merged := false
      error := some "No repositories or workingDirectory provided" }
  else
    forM context.reposToProcess context.pushRemaining
    let created ← context.reposToProcess.foldlM context.openPullRequest {}
    context.settlePullRequests created

structure GlobalScanPhaseContext where
  taskId : String
  repositories : List RepositoryInfo
  sessionId : Option String

structure GlobalScanResult where
  success : Bool
  summary : ScanSummary
  error : Option String := none

def executeGlobalScanPhase (context : GlobalScanPhaseContext) : Program GlobalScanResult := do
  SocketService.toTask context.taskId (.phaseStart .globalScan)
  let sessionId := (context.sessionId.filter fun id => id != "").getD "global-scan"
  match ← Request.issue (.scanAllRepositories context.repositories sessionId) with
  | .ok summary =>
      SocketService.toTask context.taskId (.scanComplete (.ok summary))
      pure { success := true, summary }
  | .error message =>
      SocketService.toTask context.taskId (.scanComplete (.error message))
      pure { success := false, summary := ⟨0, 0, 0, 0, 0, 0⟩, error := some message }

end MultiAgents
