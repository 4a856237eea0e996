import MultiAgents.Phases.AgentOutput
import MultiAgents.Services.GitService

/-!
# The Analysis phase

The task branch is created in the primary repository and one session breaks the
task down into stories: at most three rounds of analyst, judge and spy.  An
error inside the session is not caught here.
-/

namespace MultiAgents

open Effects Text

structure AnalysisPhaseContext where
  task : Task
  /-- The description as the Planning phase enriched it. -/
  description : Json
  projectPath : String
  repositories : List RepositoryInfo
  autoApprove : Bool
  planningData : Option PlanningData

/-- The variables of the loop. -/
structure AnalysisProgress where
  analysis : Value := none
  stories : List Story := []
  vulnerabilities : List VulnerabilityV2 := []
  approved : Bool := false

/-- The JSON block, or else an object that mentions one of the names; `null` counts as none. -/
def blockOrObject? (names : List String) (output : String) : Option Json :=
  let text := match jsonBlock? output with
    | some block => some block
    | none => (rawObject names).findCapture 0 output.toList
  (text.bind Json.parse).filter fun data => !data.isNull

def textsOf : Value → List String
  | some (.arr items) => items.map Json.display
  | _ => []

/-- `value || fallback` as a text. -/
def textOr (value : Value) (fallback : String) : String :=
  (value.orElse (.str fallback)).display

def storyOf (data : Json) (index : Nat) : Story where
  id := textOr (data.property "id") s!"story-{index + 1}"
  title := textOr (data.property "title") s!"Story {index + 1}"
  description := textOr (data.property "description") ""
  filesToModify := some (textsOf (data.property "filesToModify"))
  filesToCreate := some (textsOf (data.property "filesToCreate"))
  filesToRead := some (textsOf (data.property "filesToRead"))
  acceptanceCriteria := some (textsOf (data.property "acceptanceCriteria"))

def parseAnalysisJSON (output : String) : Option (Value × List Story) := do
  let data ← blockOrObject? ["analysis", "stories"] output
  match data.property "stories" with
  | some (.arr items) =>
      if items.any Json.isNull then none
      else some (data.property "analysis",
        items.zipIdx.map fun (item, index) => storyOf item index)
  | _ => none

def parseClarifierOutput (output : String) : Option (Json × Json) :=
  (jsonData? output).map fun data =>
    ((data.property "questions").orElse (.arr []),
      (data.property "assumptionsIfSkipped").orElse (.arr []))

def parseSelfAnswerOutput (output : String) : Option Json :=
  (blockOrObject? ["selfAnswers"] output).map fun data =>
    (data.property "selfAnswers").orElse (.arr [])

def parseAnalysisVerdict (output : String) : JudgeResult :=
  if output = "" then { JudgeResult.unread with summary := .str "No judge output received" }
  else match blockOrObject? ["verdict"] output with
    | some data => .ofData data
    | none => { JudgeResult.unread with summary := .str "Failed to parse judge output" }

def analysisVulnerabilities (result : SpyResult) (taskId sessionId : String)
    (iteration : Nat) : Except String (List VulnerabilityV2) := do
  let found ← result.vulnerabilities.records
  pure (found.zipIdx.map fun (finding, index) =>
    ⟨s!"spy-analysis-{iteration}-{index}", taskId, sessionId, "Analysis", finding⟩)

namespace PlanningData

/-- `value?.join(...)`. -/
def joinable : Value → Except String Unit
  | none | some .null | some (.arr _) => pure ()
  | some _ => throw "TypeError: join is not a function"

def summarized (data : PlanningData) : Except String Unit := do
  if data.plannedTasks.nonEmpty then
    for task in ← (data.plannedTasks.orElse (.arr [])).records do
      match task.property "description" with
      | some (.str _) => pure ()
      | _ => throw "TypeError: substring is not a function"

def listedTask (task : Json) : Except String Unit := do
  let _ ← ((task.property "acceptanceCriteria").getD .null).items
  joinable (task.property "affectedAreas")
  joinable (task.property "dependencies")

def listedFlow (flow : Json) : Except String Unit := do
  match flow.property "steps" with
  | none | some .null => pure ()
  | some steps => let _ ← steps.records
  joinable (flow.property "edgeCases")
  joinable (flow.property "errorHandling")

def detailed (data : PlanningData) : Except String Unit := do
  if data.plannedTasks.nonEmpty then
    for task in ← (data.plannedTasks.orElse (.arr [])).records do listedTask task
    if data.uxFlows.nonEmpty then
      for flow in ← (data.uxFlows.orElse (.arr [])).records do listedFlow flow

end PlanningData

namespace AnalysisPhaseContext

variable (context : AnalysisPhaseContext) (sessionId : String)

def toTask (notice : Notice) : Program Unit :=
  SocketService.toTask context.task.id notice

def text : Json := Value.orElse (some context.description) (.str context.task.title)

def workingDirectory : String :=
  AnalysisPhaseV2.determineWorkingDirectory context.repositories context.projectPath

/-- Create the task branch in the primary repository, or check it out where it exists. -/
def checkoutBranch : Program (Except String String) :=
  tryCatch (do
    let name ← GitService.createBranch context.task.id context.workingDirectory
    pure (.ok name))
    fun message =>
      tryCatch (do
        GitService.checkout context.workingDirectory (GitService.taskBranch context.task.id)
        pure (.ok (GitService.taskBranch context.task.id)))
        fun _ => pure (.error s!"Failed to create/checkout branch: {message}")

def startAgent (step : Nat) (agent : String) (iteration : Nat) : Program Unit := do
  TaskRepository.write context.task.id (.setCurrentStep step agent)
  context.toTask (.agentStart agent iteration sessionId)

def sendPrompt (prompt : AnalysisPrompt) : Program Unit :=
  OpenCodeClient.sendPrompt sessionId (.analysis prompt)

/-- Prompt the session and take the text of its answer. -/
def ask (prompt : AnalysisPrompt) : Program String := do
  sendPrompt sessionId prompt
  let events ← OpenCodeClient.waitForIdle sessionId none
  pure (extractFinalOutput events)

def checkPlan (check : PlanningData → Except String Unit) : Program Unit :=
  match context.planningData with
  | some data => Process.ofExcept (check data)
  | none => pure ()

def assumptionsText (assumptions : Json) : Except String String := do
  let listed ← assumptions.items
  pure ("Using default assumptions:\n" ++ "\n".intercalate
    (listed.zipIdx.map fun (assumption, index) => s!"{index + 1}. " ++ assumption.display))

def selfAnswersText (selfAnswers : Json) : Except String String := do
  let given ← selfAnswers.records
  pure ("\n\n".intercalate (given.map fun answer =>
    "Q: " ++ (answer.property "question").display ++ "\nA: [AUTOPILOT] " ++
      (answer.property "answer").display ++ "\nReasoning: " ++
      (answer.property "reasoning").display))

def selfAnswer (questions assumptions : Json) : Program String := do
  context.startAgent sessionId 2 "SELF_ANSWERER" 0
  context.checkPlan PlanningData.summarized
  let listed ← Process.ofExcept questions.records
  let output ← ask sessionId (.selfAnswer context.text listed context.planningData)
  match (parseSelfAnswerOutput output).filter fun given => Value.nonEmpty (some given) with
  | some given =>
      let clarifications ← Process.ofExcept (selfAnswersText given)
      context.toTask (.selfAnswered .analysis given)
      pure clarifications
  | none => Process.ofExcept (assumptionsText assumptions)

/-- Ask the user; without answers, or where asking fails, the assumptions stand. -/
def askQuestions (questions assumptions : Json) : Program String :=
  tryCatch (do
    let response ← ApprovalService.requestApproval context.task.id .clarification
      (.clarification .analysis questions (some assumptions))
    match response.action, response.feedback.filter (· != "") with
    | .approve, some feedback =>
        context.toTask (.clarificationReceived .analysis feedback)
        pure feedback
    | _, _ =>
        let clarifications ← Process.ofExcept (assumptionsText assumptions)
        context.toTask (.clarificationSkipped .analysis assumptions)
        pure clarifications)
    fun _ => Process.ofExcept (assumptionsText assumptions)

def answerQuestions (questions assumptions : Json) : Program String :=
  if context.autoApprove then context.selfAnswer sessionId questions assumptions
  else context.askQuestions questions assumptions

def clarify : Program (Option String) := do
  context.startAgent sessionId 1 "CLARIFIER" 0
  context.checkPlan PlanningData.summarized
  let output ← ask sessionId (.clarifier context.text context.planningData)
  match (parseClarifierOutput output).filter fun found => Value.nonEmpty (some found.1) with
  | some (questions, assumptions) =>
      let clarifications ← context.answerQuestions sessionId questions assumptions
      pure (some clarifications)
  | none => pure none

def promptAnalyst (clarifications : Option String) (iteration : Nat) : Program Unit :=
  if iteration = 1 then do
    context.startAgent sessionId 3 "ANALYST" iteration
    context.checkPlan PlanningData.detailed
    sendPrompt sessionId (.analyst context.text context.repositories context.projectPath
      clarifications context.planningData)
  else pure ()

def runAnalyst (clarifications : Option String) (iteration : Nat)
    (progress : AnalysisProgress) : Program AnalysisProgress := do
  context.promptAnalyst sessionId clarifications iteration
  let events ← OpenCodeClient.waitForIdle sessionId none
  context.toTask (.iterationComplete "analyst" iteration sessionId)
  match parseAnalysisJSON (extractFinalOutput events) with
  | some (analysis, stories) => pure { progress with analysis, stories }
  | none => pure progress

def runJudge (iteration : Nat) : Program JudgeResult := do
  context.startAgent sessionId 4 "JUDGE" iteration
  let output ← ask sessionId .judge
  context.toTask (.iterationComplete "judge" iteration sessionId)
  pure (parseAnalysisVerdict output)

def runSpy (iteration : Nat) (progress : AnalysisProgress) : Program AnalysisProgress := do
  context.startAgent sessionId 5 "SPY" iteration
  let output ← ask sessionId (.spy progress.analysis progress.stories)
  let found ← Process.ofExcept (analysisVulnerabilities (extractSpyResult output)
    context.task.id sessionId iteration)
  context.toTask (.iterationComplete "spy" iteration sessionId)
  pure { progress with vulnerabilities := progress.vulnerabilities ++ found }

/-- The FIX prompt; what it leads to is awaited by the next round, if there is one. -/
def runFix (iteration : Nat) (issues : Json) : Program Unit := do
  context.startAgent sessionId 5 "FIXER" iteration
  let listed ← Process.ofExcept (fixIssues issues)
  sendPrompt sessionId (.fix listed)

/-- What is asked for when an analysis has no valid stories and the judge named no issue. -/
def missingStories : Json :=
  .obj [("severity", .str "critical"),
    ("description", .str "The analysis did not produce valid stories"),
    ("suggestion", .str ("Please analyze the task again and break it down into specific, " ++
      "implementable stories with clear acceptance criteria"))]

def retry (remaining iteration : Nat) : Program Unit :=
  if remaining = 0 then pure ()
  else do
    context.toTask (.agentStart "FIXER" iteration sessionId)
    sendPrompt sessionId (.fix [missingStories])

/-- Act on the verdict; the result says whether the analysis is approved. -/
def judgeRound (remaining iteration : Nat) (stories : List Story) (judged : JudgeResult) :
    Program Bool :=
  if judged.verdict.isApproved then pure true
  else if judged.hasIssues then do
    context.runFix sessionId iteration judged.issues
    pure false
  else if !stories.isEmpty && judged.score.toNumber.atLeast 50 then pure true
  else do
    context.retry sessionId remaining iteration
    pure false

def analysisLoop (clarifications : Option String) :
    Nat → Nat → AnalysisProgress → Program AnalysisProgress
  | 0, _, progress => pure progress
  | remaining + 1, iterations, progress => do
      let iteration := iterations + 1
      let progress ← context.runAnalyst sessionId clarifications iteration progress
      let judged ← context.runJudge sessionId iteration
      let progress ← context.runSpy sessionId iteration progress
      if ← context.judgeRound sessionId remaining iteration progress.stories judged then
        pure { progress with approved := true }
      else analysisLoop clarifications remaining iteration progress

def branchDescription (analysis : Json) : Except String String := do
  let risks ← match analysis.property "risks" with
    | none | some .null => pure []
    | some risks => risks.items
  let listed := "\n".intercalate (risks.map fun risk => "- " ++ risk.display)
  pure (s!"# {context.task.title}\n\n## Summary\n" ++ (analysis.property "summary").display ++
    "\n\n## Approach\n" ++ (analysis.property "approach").display ++ "\n\n## Risks\n" ++
    (if listed = "" then "None identified" else listed))

def describeBranch (analysis : Value) : Program Unit :=
  match analysis.filter Json.truthy with
  | some analysis => do
      let description ← Process.ofExcept (context.branchDescription analysis)
      tryCatch (GitService.setBranchDescription context.workingDirectory description)
        fun _ => pure ()
  | none => pure ()

/-- Whatever the agent changed in the primary repository is committed. -/
def commitAnalysis (stories : List Story) : Program Unit := do
  if ← GitService.hasChanges context.workingDirectory then
    let _ ← GitService.commitAndPush context.workingDirectory
      s!"[Analysis] {context.task.title}\n\nGenerated {stories.length} stories." none
  else pure ()

def saveAnalysis (branchName : String) (progress : AnalysisProgress) : Program Unit :=
  if progress.approved && progress.analysis.truthy then
    TaskRepository.write context.task.id
      (.updateAfterAnalysis branchName progress.analysis progress.stories)
  else pure ()

def resultOf (branchName : String) (progress : AnalysisProgress) : AnalysisResultV2 where
  success := progress.approved
  sessionId := sessionId
  analysis := {
    summary := some ((progress.analysis.member? "summary").orElse (.str ""))
    approach := some ((progress.analysis.member? "approach").orElse (.str ""))
    risks := some ((progress.analysis.member? "risks").orElse (.arr []))
    vulnerabilities := progress.vulnerabilities }
  stories := progress.stories.map fun story => story.toResult story.status 0 .needsRevision
  branchName := branchName

def runSession (branchName : String) : Program AnalysisResultV2 := do
  OpenCodeEventBridge.registerSession context.task.id sessionId context.projectPath
  SessionRepository.create sessionId context.task.id context.projectPath "Analysis"
    (!context.autoApprove)
  context.toTask (.sessionCreated sessionId .analysis)
  let clarifications ← context.clarify sessionId
  let progress ← context.analysisLoop sessionId clarifications 3 0 {}
  context.describeBranch progress.analysis
  context.commitAnalysis progress.stories
  SessionRepository.updateStatus sessionId "completed"
  OpenCodeEventBridge.unregisterSession sessionId
  context.saveAnalysis branchName progress
  context.toTask (.phaseComplete .analysis progress.approved)
  pure (resultOf sessionId branchName progress)

def failure (message : String) : AnalysisResultV2 where
  success := false
  sessionId := ""
  analysis := { summary := some (.str ""), approach := some (.str ""), risks := some (.arr []) }
  stories := []
  branchName := ""
  error := some message

end AnalysisPhaseContext

def executeAnalysisPhase (context : AnalysisPhaseContext) : Program AnalysisResultV2 := do
  match ← context.checkoutBranch with
  | .error message => pure (AnalysisPhaseContext.failure message)
  | .ok branchName =>
      context.toTask (.phaseStart .analysis)
      let sessionId ←
        OpenCodeClient.createSession (.analysis context.task.title) context.projectPath
      context.runSession sessionId branchName

end MultiAgents
