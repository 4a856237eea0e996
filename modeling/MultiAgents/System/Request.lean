import MultiAgents.Effects.Triple
import MultiAgents.System.Bridge
import MultiAgents.System.Git
import MultiAgents.Types

/-!
# Requests of the orchestration

Everything the phases do outside their own memory is a request: shell and file
operations, the OpenCode server, the event bridge, the database, the user's
approvals, notices to the frontend and the console lines that report a decision
about a story.  The answer of a request that can throw is an `Except`.
-/

namespace MultiAgents

open Effects Text

inductive Phase where
  | planning
  | analysis
  | developer
  | testGeneration
  | merge
  | globalScan
  deriving DecidableEq

/-- The title a session is created with; a story's reads `Story 1/3: ...`. -/
inductive SessionTitle where
  | story (number total : Nat) (title : String)
  | planning (title : String)
  | analysis (title : String)
  | tests (title : String)
  deriving DecidableEq

inductive DeveloperPrompt where
  | developer (story : Story) (storyIndex totalStories : Nat) (repositories : List RepositoryInfo)
  | judge (story : Story)
  | fix (issues : List Json)
  | spy (story : Story) (filesModified filesCreated : List String)
  | buildFix (errors : String)
  | feedback (text : String)

/-- The prompts of the Planning phase; `text` is the description of the task, or its title. -/
inductive PlanningPrompt where
  | assessComplexity (text : String)
  | clarifyingQuestions (text : String) (repositories : List RepositoryInfo)
  | selfAnswer (text : String) (questions : List Json) (repositories : List RepositoryInfo)
  | uxFlows (text clarifications : String)
  | taskBreakdown (text : String) (uxFlows : Json) (clarifications : String)
  | enrichPrompt (text clarifications : String) (uxFlows taskBreakdown : Json)
  | judge (text : String) (questions uxFlows tasks : List Json) (enrichedPrompt : Value)
  | fix (issues : List Json)

/-- What the Planning phase hands on to the Analysis phase. -/
structure PlanningData where
  uxFlows : Value
  plannedTasks : Value
  /-- The answers to the clarifying questions, if they were asked. -/
  clarifications : Option Json

/-- The prompts of the Analysis phase; `text` is the enriched description of the task. -/
inductive AnalysisPrompt where
  | clarifier (text : Json) (planningData : Option PlanningData)
  | selfAnswer (text : Json) (questions : List Json) (planningData : Option PlanningData)
  | analyst (text : Json) (repositories : List RepositoryInfo) (projectPath : String)
      (clarifications : Option String) (planningData : Option PlanningData)
  | judge
  | fix (issues : List Json)
  | spy (analysis : Value) (stories : List Story)

inductive TestPrompt where
  | analyzeForTests (text : String) (stories : List StoryResultV2)
  | generateTests (gaps edgeCases : List Json) (framework : Json)
  | runTests (testFiles : List Value) (framework : Json)
  | fixFailedTests (failedTests : List Json) (iteration : Nat)

inductive Prompt where
  | developer (prompt : DeveloperPrompt)
  | planning (prompt : PlanningPrompt)
  | analysis (prompt : AnalysisPrompt)
  | tests (prompt : TestPrompt)

inductive ApprovalAction where
  | approve
  | reject
  | requestChanges
  deriving DecidableEq

structure ApprovalResponse where
  action : ApprovalAction
  feedback : Option String := none
  deriving DecidableEq

inductive ApprovalPhase where
  | productPlanning
  | analysis
  | developer
  | testGeneration
  | clarification
  | story (storyId : String)
  deriving DecidableEq

/-- What the user is shown about a story. -/
structure StoryApproval where
  story : Story
  storyIndex : Nat
  totalStories : Nat
  verdict : Verdict
  score : Value
  iterations : Nat
  filesModified : List String
  gitDiff : String
  issues : Value
  vulnerabilities : Nat
  sessionId : Option String
  approvalAttempt : Nat

/-- What the user is shown about a plan. -/
structure PlanningApproval where
  questions : Json
  answers : Json
  skipped : Bool
  uxFlows : Json
  plannedTasks : Json
  enrichedPrompt : Value
  complexity : Value
  estimatedTotalComplexity : Value
  suggestedBranchName : Value
  riskAreas : Value
  keyDecisions : Value
  outOfScope : Value

/-- The figures the user is shown about generated tests. -/
structure TestApproval where
  testsGenerated : Nat
  edgeCases : Nat
  coverageGaps : Nat
  testsPassed : Bool
  testsRun : Value := none
  testsFailed : Value := none
  coverage : Value

inductive ApprovalOutput where
  | story (data : StoryApproval)
  | clarification (phase : Phase) (questions : Json) (defaultAssumptions : Value)
  | planning (data : PlanningApproval)
  | analysis (stories : List StoryResultV2) (branchName : String) (analysis : AnalysisData)
  | developer (stories : List StoryResultV2) (totalCommits approvedCount totalStories : Nat)
  | tests (data : TestApproval)

/-- The figures of a security scan over all repositories. -/
structure ScanSummary where
  totalFilesScanned : Nat
  totalVulnerabilities : Nat
  criticalCount : Nat
  highCount : Nat
  mediumCount : Nat
  lowCount : Nat

/-- An event for the frontend. -/
inductive Notice where
  | phaseStart (phase : Phase)
  | phaseComplete (phase : Phase) (success : Bool)
  | sessionCreated (sessionId : String) (phase : Phase)
  | sessionClosed (sessionId storyId : String) (storyIndex : Nat) (verdict : Verdict)
  | agentStart (agent : String) (iteration : Nat) (sessionId : String)
  | iterationComplete (type : String) (iteration : Nat) (sessionId : String)
  | storyStart (storyIndex : Nat) (story : Story) (totalStories : Nat)
  | buildStarted (repoName repoType : String)
  | buildFailed (repoName repoType : String) (error : Option String) (buildSystem : String)
  | buildSuccess (repoName repoType buildSystem : String)
  | storyBuildCheckStarted (storyId storyTitle : String)
  | storyBuildCheckSuccess (storyId storyTitle : String) (attempt : Nat)
  | storyBuildCheckFailed (storyId storyTitle : String) (attempt : Nat)
  | storyBuildFailed (storyId storyTitle : String) (attempts : Nat)
  | storyFeedbackRound (storyId feedback : String) (attempt : Nat)
  | storyRollback (storyId storyTitle reason : String) (repositories : List String)
  | storyComplete (storyIndex : Nat) (story : Story) (success : Bool) (verdict : Verdict)
      (commitHash : Option String) (issues : Json) (totalStories : Nat)
  | phaseStarted (phase : Phase)
  | phaseCompleted (phase : Phase)
  | phaseFailed (phase : Phase) (error : String)
  | agentProgress (phase : Phase) (step : String)
  | selfAnswered (phase : Phase) (selfAnswers : Json)
  | clarificationReceived (phase : Phase) (clarifications : String)
  | clarificationSkipped (phase : Phase) (assumptions : Json)
  | testFixApplied (iteration : Nat) (fixesApplied : Json)
  | pullRequestCreated (number : Nat) (url title branchName repoName repoType : String)
  | mergeApprovalRequired (pullRequests : List (Nat × String))
  | scanComplete (scan : Except String ScanSummary)
  | taskStatus (status : TaskStatus) (phase : Phase)
  | orchestrationStart (phases : List Phase)
  | orchestrationComplete (success : Bool)

/-- The console lines that report what was decided about a story. -/
inductive LogLine where
  | skippingStory (number total : Nat) (story : Story)
  | committingStory (story : Story)
  | buildFailedStory (story : Story) (attempts : Nat)
  | storyNotCommitted (story : Story)
  | storyFailedReview (story : Story) (verdict : Verdict)

/-- An entry of `completedPhases`: older rows hold plain names. -/
inductive CompletedPhase where
  | name (phase : Phase)
  | entry (phase : Phase)
  deriving DecidableEq

/-- The columns of a task that the orchestration and the routes read. -/
structure TaskRow where
  title : String
  description : Option String := none
  projectId : Option String := none
  repositoryId : Option String := none
  status : TaskStatus := .pending
  branchName : Option String := none
  analysis : Value := none
  stories : Option (List Story) := none
  completedPhases : Option (List CompletedPhase) := none
  currentPhase : Option Phase := none
  lastCompletedStoryIndex : Option Nat := none
  prNumber : Option Nat := none
  prUrl : Option String := none
  failureReason : Option String := none

/-- The statements of `TaskRepository` that change a row. -/
inductive TaskWrite where
  | updateStatus (status : TaskStatus)
  | setFailed (reason : String)
  | updateAfterAnalysis (branchName : String) (analysis : Value) (stories : List Story)
  | setPullRequest (number : Nat) (url : String)
  | savePlanningResult (result : PlanningData) (enrichedPrompt : Value)
  | markPhaseComplete (phase : Phase)
  | setCurrentPhase (phase : Phase)
  | setCurrentStep (step : Nat) (agent : String)
  | setLastCompletedStoryIndex (index : Nat)
  | clearResumeState

inductive SessionWrite where
  | create (sessionId taskId directory phaseName : String) (manual : Bool)
  | updateStatus (sessionId status : String)

inductive GhCommand where
  | prCreate (base head title body : String)
  | prView (number : Nat)
  | prMerge (number : Nat) (method : String) (deleteBranch : Bool)

/-- The callbacks an orchestration reports to; one that is given a phase's result is named after
the phase. -/
inductive Callback where
  | planningComplete
  | analysisComplete
  | developerComplete
  | storyComplete (storyIndex : Nat) (storyId : String) (success : Bool)
  | testGenerationComplete
  | pullRequestCreated (number : Nat) (url : String)
  deriving DecidableEq

inductive Request where
  | configureModels (taskId : String)
  | git (command : GitCommand) (directory : String)
  | gh (command : GhCommand) (directory : String)
  | execBuild (command directory : String)
  | existsSync (path : String)
  | readFileSync (path : String)
  | readdirSync (path : String)
  | createSession (title : SessionTitle) (directory : String)
  | registerSession (taskId sessionId directory : String)
  | unregisterSession (sessionId : String)
  | sendPrompt (sessionId : String) (prompt : Prompt)
  | waitForIdle (sessionId : String) (timeout : Option Nat)
  | abortSession (sessionId : String)
  | writeSession (write : SessionWrite)
  | requestApproval (taskId : String) (phase : ApprovalPhase) (output : ApprovalOutput)
  | findTask (taskId : String)
  | writeTask (taskId : String) (write : TaskWrite)
  | mergeApproval (taskId : String) (number : Nat) (url : String)
  | callback (taskId : String) (callback : Callback)
  | scanAllRepositories (repositories : List RepositoryInfo) (sessionId : String)
  | toTask (taskId : String) (notice : Notice)
  | log (line : LogLine)

namespace Request

abbrev Answer : Request → Type
  | .git _ _ | .gh _ _ | .execBuild _ _ | .readFileSync _ | .createSession _ _ =>
      Except String String
  | .existsSync _ => Bool
  | .readdirSync _ => Except String (List String)
  | .waitForIdle _ _ => Except String (List OpenCodeEvent)
  | .requestApproval _ _ _ => Except String ApprovalResponse
  | .findTask _ => Except String (Option TaskRow)
  | .mergeApproval _ _ _ => Except String Bool
  | .scanAllRepositories _ _ => Except String ScanSummary
  | .configureModels _ | .sendPrompt _ _ | .abortSession _ | .writeSession _ | .writeTask _ _
  | .callback _ _ => Except String Unit
  | .registerSession _ _ _ | .unregisterSession _ | .toTask _ _ | .log _ => Unit

end Request

abbrev calls : Signature := ⟨Request, Request.Answer⟩

/-- A piece of the orchestration; an error is the message of what was thrown. -/
abbrev Program := Process calls String

abbrev Request.issue (request : Request) : Program request.Answer :=
  Process.call (S := calls) request

end MultiAgents
