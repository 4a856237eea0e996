import MultiAgents.Phases.Analysis
import MultiAgents.Phases.Developer.Phase
import MultiAgents.Phases.Merge
import MultiAgents.Phases.Planning
import MultiAgents.Phases.TestGeneration

/-!
# The orchestration of a task

`execute` takes a task through its phases.  An error in one of the phases up to
the merge ends them, with the results so far; the security scan runs in any
case, and the task is then completed or failed.
-/

namespace MultiAgents

open Effects Text

inductive ApprovalMode where
  | manual
  | automatic
  /-- Any other value: nothing checks what a job carries. -/
  | other
  deriving DecidableEq

structure OrchestrationOptions where
  projectPath : String
  repositories : List RepositoryInfo := []
  phaseApprovalMode : ApprovalMode := .manual
  autoMerge : Bool := false
  skipPlanningForSimpleTasks : Bool := true
  skipPlanning : Bool := false
  skipTestGeneration : Bool := false
  coverageThreshold : Option Number := none
  startFromPhase : Option Phase := none
  preserveAnalysis : Bool := false
  /-- Which callbacks are given. -/
  onPlanningComplete : Bool := false
  onAnalysisComplete : Bool := false
  onStoryComplete : Bool := false
  onDeveloperComplete : Bool := false
  onTestGenerationComplete : Bool := false
  onPullRequestCreated : Bool := false
  onMergeApprovalRequired : Bool := false

/-- The results of the phases that were reached. -/
structure PhaseResults where
  planning : Option ProductPlanningResult := none
  analysis : Option AnalysisResultV2 := none
  developer : Option DeveloperResultV2 := none
  testGeneration : Option TestGenerationResult := none
  merge : Option MergeResult := none

structure OrchestrationResult where
  success : Bool
  taskId : String
  phases : PhaseResults := {}
  globalScan : Option GlobalScanResult := none
  error : Option String := none

/-- An answer is an object, and an object counts as true whatever its action says. -/
def ApprovalResponse.truthy (_ : ApprovalResponse) : Bool := true

def phaseOrder : List Phase :=
  [.planning, .analysis, .developer, .testGeneration, .merge, .globalScan]

def Phase.label : Phase → String
  | .planning => "Product Planning"
  | .analysis => "Analysis"
  | .developer => "Developer"
  | .testGeneration => "Test Generation"
  | .merge => "Merge"
  | .globalScan => "Security Scan"

/-- What an execution works with: the task as it was found and the options. -/
structure Orchestration where
  taskId : String
  row : TaskRow
  options : OrchestrationOptions

namespace Orchestration

variable (run : Orchestration)

def task : Task := ⟨run.taskId, run.row.title, run.row.description⟩

def toTask (notice : Notice) : Program Unit :=
  SocketService.toTask run.taskId notice

def write (change : TaskWrite) : Program Unit :=
  TaskRepository.write run.taskId change

/-- Call a callback that is given; what it throws is thrown here. -/
def notify (given : Bool) (callback : Callback) : Program Unit :=
  if given then Process.attempt (Request.issue (.callback run.taskId callback)) else pure ()

def isResuming : Bool :=
  !(run.row.completedPhases.getD []).isEmpty || run.row.currentPhase.isSome

/-- `completedPhases.includes(phase)`: an entry that is an object never equals a name. -/
def isDone (phase : Phase) : Bool :=
  (run.row.completedPhases.getD []).contains (.name phase)

def startPhaseIndex : Nat :=
  match run.options.startFromPhase with
  | some phase => phaseOrder.idxOf phase
  | none => 0

def skipPlanning : Bool :=
  run.options.skipPlanning || 0 < run.startPhaseIndex || run.isDone .planning

def skipAnalysis : Bool := 1 < run.startPhaseIndex || run.isDone .analysis

/-- What is announced as skipped, although the phases below run in any case. -/
def announcedPhases : List Phase :=
  phaseOrder.filter fun phase => !(match phase with
    | .planning => run.skipPlanning
    | .analysis => run.skipAnalysis
    | .developer => 2 < run.startPhaseIndex || run.isDone .developer
    | .testGeneration => run.options.skipTestGeneration || 3 < run.startPhaseIndex ||
        run.isDone .testGeneration
    | .merge => 4 < run.startPhaseIndex || run.isDone .merge
    | .globalScan => false)

def resumeFromStoryIndex : Nat :=
  match run.isResuming, run.row.lastCompletedStoryIndex with
  | true, some index => index + 1
  | _, _ => 0

def awaitApproval (phase : ApprovalPhase) (current next : Phase) (output : ApprovalOutput) :
    Program Unit :=
  if run.options.phaseApprovalMode = .manual then do
    run.write (.updateStatus .waitingForApproval)
    run.toTask (.taskStatus .waitingForApproval current)
    let response ← ApprovalService.requestApproval run.taskId phase output
    run.write (.updateStatus .running)
    run.toTask (.taskStatus .running next)
    if response.truthy then pure () else throw (current.label ++ " phase rejected by user")
  else pure ()

/-- What has been reached stays reached when the rest fails. -/
def keep (results : PhaseResults) (rest : Program PhaseResults) : Program PhaseResults :=
  tryCatch rest fun _ => pure results

def formatAnalysisDescription (analysis : AnalysisData) : Except String String := do
  let risks ← match analysis.risks with
    | none | some .null => pure []
    | some risks => risks.items
  let listed := "\n".intercalate (risks.map fun risk => "- " ++ risk.display)
  pure ("### Summary\n" ++ analysis.summary.display ++ "\n\n### Approach\n" ++
    analysis.approach.display ++ "\n\n### Risks\n" ++
    (if listed = "" then "None identified" else listed))

def approvedCount (developer : DeveloperResultV2) : Nat :=
  (developer.stories.filter fun result => result.verdict.isApproved).length

def mergeContext (analysis : AnalysisResultV2) (developer : DeveloperResultV2)
    (analysisDescription : String) : MergePhaseContext where
  task := run.task
  workingDirectory :=
    OrchestratorV2.determineWorkingDirectory run.options.repositories run.options.projectPath
  repositories := run.options.repositories
  branchName := analysis.branchName
  analysisDescription := analysisDescription
  storiesCompleted := approvedCount developer
  totalStories := analysis.stories.length
  autoMerge := run.options.autoMerge
  onMergeApprovalRequired := run.options.onMergeApprovalRequired

def notifyPullRequest (created : RepoPullRequestInfo) : Program Unit :=
  run.notify run.options.onPullRequestCreated
    (.pullRequestCreated created.pullRequest.number created.pullRequest.url)

def mergeStage (results : PhaseResults) (analysis : AnalysisResultV2)
    (developer : DeveloperResultV2) : Program PhaseResults := do
  run.write (.setCurrentPhase .merge)
  let description ← Process.ofExcept (formatAnalysisDescription analysis.analysis)
  let merge ← executeMergePhase (run.mergeContext analysis developer description)
  keep { results with merge := some merge } do
    forM merge.pullRequests run.notifyPullRequest
    run.write (.markPhaseComplete .merge)
    pure { results with merge := some merge }

def testContext (developer : DeveloperResultV2) : TestGenerationContext where
  task := run.task
  projectPath := run.options.projectPath
  stories := developer.stories
  autoApprove := run.options.phaseApprovalMode = .automatic
  coverageThreshold := run.options.coverageThreshold.getD (.finite 70 0)
  maxIterations := 3

/-- The tests are put to the user a second time if there are any. -/
def approveTests (tests : TestGenerationResult) : Program Unit :=
  if tests.testsGenerated = [] then pure ()
  else run.awaitApproval .testGeneration .testGeneration .merge (.tests
    { testsGenerated := tests.testsGenerated.length
      edgeCases := tests.edgeCasesDetected.length
      coverageGaps := tests.coverageGaps.length
      testsPassed := tests.testsPassed
      coverage := tests.coverageAfter })

def testStage (results : PhaseResults) (analysis : AnalysisResultV2)
    (developer : DeveloperResultV2) : Program PhaseResults :=
  if run.options.skipTestGeneration then run.mergeStage results analysis developer
  else do
    run.write (.setCurrentPhase .testGeneration)
    let tests ← runTestGenerationPhase (run.testContext developer)
    let results := { results with testGeneration := some tests }
    keep results do
      run.notify run.options.onTestGenerationComplete .testGenerationComplete
      run.write (.markPhaseComplete .testGeneration)
      run.approveTests tests
      run.mergeStage results analysis developer

def developerContext (analysis : AnalysisResultV2) : DeveloperPhaseContext where
  taskId := run.taskId
  projectPath := run.options.projectPath
  repositories := run.options.repositories
  stories := analysis.stories.map StoryResultV2.toStory
  branchName := analysis.branchName
  autoApprove := run.options.phaseApprovalMode = .automatic
  startFromStoryIndex := run.resumeFromStoryIndex
  onStoryComplete := some TaskWrite.setLastCompletedStoryIndex

def notifyStory (analysis : AnalysisResultV2) (entry : StoryResultV2 × Nat) : Program Unit :=
  run.notify
    (run.options.onStoryComplete && analysis.stories.any fun story => story.id == entry.1.id)
    (.storyComplete entry.2 entry.1.id entry.1.verdict.isApproved)

def notifyDeveloper (analysis : AnalysisResultV2) (developer : DeveloperResultV2) :
    Program Unit := do
  run.notify run.options.onDeveloperComplete .developerComplete
  forM developer.stories.zipIdx (run.notifyStory analysis)

def developerStage (results : PhaseResults) (analysis : AnalysisResultV2) :
    Program PhaseResults := do
  run.write (.setCurrentPhase .developer)
  let developer ← executeDeveloperPhase (run.developerContext analysis)
  let results := { results with developer := some developer }
  keep results do
    run.notifyDeveloper analysis developer
    run.write (.markPhaseComplete .developer)
    run.awaitApproval .developer .developer .testGeneration
      (.developer developer.stories developer.totalCommits (approvedCount developer)
        analysis.stories.length)
    run.testStage results analysis developer

def afterAnalysis (results : PhaseResults) (analysis : AnalysisResultV2) :
    Program PhaseResults := do
  run.awaitApproval .analysis .analysis .developer
    (.analysis analysis.stories analysis.branchName analysis.analysis)
  run.developerStage results analysis

def preservedAnalysis : Except String AnalysisResultV2 :=
  match run.row.analysis.filter Json.truthy, run.row.stories.getD [] with
  | some analysis, story :: others => .ok {
      success := true
      sessionId := "preserved"
      analysis := {
        summary := analysis.property "summary"
        approach := analysis.property "approach"
        risks := analysis.property "risks" }
      stories := (story :: others).map fun story => story.toResult story.status 0 .approved
      branchName :=
        (run.row.branchName.filter fun name => name != "").getD s!"feature/task-{run.taskId}" }
  | _, _ => .error "Cannot skip Analysis - no preserved analysis/stories found"

def planningData (planning : ProductPlanningResult) : PlanningData where
  uxFlows := planning.uxFlows
  plannedTasks := planning.plannedTasks
  clarifications := planning.clarifications.map fun found => found.2.1

def analysisContext (planning : Option ProductPlanningResult) : AnalysisPhaseContext where
  task := run.task
  description :=
    Value.orElse (planning.bind ProductPlanningResult.enrichedPrompt) (.str run.task.text)
  projectPath := run.options.projectPath
  repositories := run.options.repositories
  autoApprove := true
  planningData := planning.map planningData

def requireStories (analysis : AnalysisResultV2) : Except String Unit :=
  if !analysis.success then
    .error ((analysis.error.filter fun text => text != "").getD "Analysis phase failed")
  else if analysis.stories.isEmpty then .error "Analysis produced no stories"
  else .ok ()

def analysisStage (results : PhaseResults) : Program PhaseResults :=
  if run.skipAnalysis && run.options.preserveAnalysis then do
    let analysis ← Process.ofExcept run.preservedAnalysis
    let results := { results with analysis := some analysis }
    keep results (run.afterAnalysis results analysis)
  else do
    run.write (.setCurrentPhase .analysis)
    let analysis ← executeAnalysisPhase (run.analysisContext results.planning)
    let results := { results with analysis := some analysis }
    keep results do
      run.notify run.options.onAnalysisComplete .analysisComplete
      Process.ofExcept (requireStories analysis)
      run.write (.markPhaseComplete .analysis)
      run.afterAnalysis results analysis

def planningContext : ProductPlanningContext where
  task := run.task
  projectPath := run.options.projectPath
  repositories := run.options.repositories
  autoApprove := run.options.phaseApprovalMode = .automatic
  skipForSimpleTasks := run.options.skipPlanningForSimpleTasks

def afterPlanning (results : PhaseResults) (planning : ProductPlanningResult) :
    Program PhaseResults := do
  run.notify run.options.onPlanningComplete .planningComplete
  if planning.success then
    run.write (.markPhaseComplete .planning)
    run.write (.savePlanningResult (planningData planning) planning.enrichedPrompt)
    run.analysisStage results
  else throw "Product Planning phase failed or was rejected"

def planningStage : Program PhaseResults :=
  if run.skipPlanning then run.analysisStage {}
  else do
    run.write (.setCurrentPhase .planning)
    let planning ← runProductPlanningPhase run.planningContext
    let results : PhaseResults := { planning := some planning }
    keep results (run.afterPlanning results planning)

def runPhases : Program PhaseResults := keep {} run.planningStage

def scanContext (results : PhaseResults) : GlobalScanPhaseContext where
  taskId := run.taskId
  repositories := run.options.repositories
  sessionId :=
    (results.developer.map DeveloperResultV2.sessionId).filter (fun id => id != "") <|>
      results.analysis.map AnalysisResultV2.sessionId

def failureReason : Option MergeResult → String
  | none => "Merge phase did not complete"
  | some merge =>
      if merge.pullRequest.isNone then "Failed to create pull request"
      else if !merge.merged then "Pull request was not merged"
      else "Unknown merge failure"

def merged (results : PhaseResults) : Bool := results.merge.any MergeResult.success

def finalWrite (results : PhaseResults) : TaskWrite :=
  if merged results then .updateStatus .completed else .setFailed (failureReason results.merge)

def complete (results : PhaseResults) : Program OrchestrationResult := do
  run.write (.setCurrentPhase .globalScan)
  let scan ← executeGlobalScanPhase (run.scanContext results)
  run.write (.markPhaseComplete .globalScan)
  run.write (finalWrite results)
  run.write .clearResumeState
  run.toTask (.orchestrationComplete (merged results && scan.success))
  pure {
    success := merged results
    taskId := run.taskId
    phases := results
    globalScan := some scan }

def orchestrate : Program OrchestrationResult := do
  run.write (.updateStatus .running)
  Process.attempt (Request.issue (.configureModels run.taskId))
  run.toTask (.orchestrationStart run.announcedPhases)
  let results ← run.runPhases
  run.complete results

end Orchestration

def execute (taskId : String) (options : OrchestrationOptions) : Program OrchestrationResult := do
  match ← TaskRepository.findById taskId with
  | none => pure { success := false, taskId, error := some "Task not found" }
  | some row => (Orchestration.mk taskId row options).orchestrate

end MultiAgents
