import MultiAgents.Phases.AgentOutput
import MultiAgents.Services.Clients

/-!
# The ProductPlanning phase

One session assesses the task, asks clarifying questions, designs flows, breaks
the task down and enriches its description; a judge asks for revisions and the
user approves the plan.  Only the answer `reject` stops the phase.
-/

namespace MultiAgents

open Effects Text

structure ProductPlanningContext where
  task : Task
  projectPath : String
  repositories : List RepositoryInfo
  autoApprove : Bool
  skipForSimpleTasks : Bool

structure ProductPlanningResult where
  success : Bool
  sessionId : String
  originalPrompt : String
  /-- The questions, their answers and whether they were skipped. -/
  clarifications : Option (Json × Json × Bool) := none
  uxFlows : Value := none
  plannedTasks : Value := none
  enrichedPrompt : Value := none

/-- The answers to the clarifying questions; none are given where they were skipped. -/
structure Answers where
  userAnswers : Json := .obj []
  skipped : Bool := false

/-- The results of the planning steps as the judge's loop revises them. -/
structure Plan where
  complexity : Value
  clarify : Value
  answers : Answers
  ux : Value
  breakdown : Value
  enrich : Value

namespace Plan

def questions (plan : Plan) : Json := (plan.clarify.member? "questions").orElse (.arr [])

def uxFlows (plan : Plan) : Json := (plan.ux.member? "flows").orElse (.arr [])

def plannedTasks (plan : Plan) : Json := (plan.breakdown.member? "tasks").orElse (.arr [])

def enrichedPrompt (plan : Plan) : Value := plan.enrich.member? "enrichedPrompt"

/-- `result.name = fix.name` where the fix has such a property that counts as true. -/
def replace (result : Value) (fix : Json) (name : String) : Except String Value :=
  match (fix.property name).filter Json.truthy with
  | some content => result.assign name content
  | none => pure result

def revise (plan : Plan) (fix : Json) : Except String Plan := do
  let enrich :=
    if (fix.property "enrichedPrompt").truthy then plan.enrich.merge fix else plan.enrich
  let breakdown ← replace plan.breakdown fix "tasks"
  let ux ← replace plan.ux fix "flows"
  pure { plan with enrich, breakdown, ux }

end Plan

namespace ProductPlanningContext

def rawJsonPatterns : List Regex :=
  [rawArray "tasks", rawArray "flows", rawArray "questions", rawField "enrichedPrompt",
    rawField "complexity", rawField "verdict"]

def shallowObject : Regex :=
  let plain := Regex.many fun char => char != '\x7b' && char != '\x7d'
  Regex.all [Regex.text "\x7b", plain,
    .star true (Regex.all [Regex.text "\x7b", plain, Regex.text "\x7d", plain]), Regex.text "\x7d"]

def hasExpectedKey (data : Json) : Bool :=
  ["tasks", "flows", "questions", "enrichedPrompt", "complexity", "verdict"].any fun key =>
    (data.property key).truthy

def anyObject (output : String) : Value :=
  let found := shallowObject.findAll output.length output.toList
  let sorted := found.insertionSort fun a b => (b.map charUnits).sum ≤ (a.map charUnits).sum
  sorted.findSome? fun candidate => (Json.parse candidate).filter hasExpectedKey

def extractJsonFromOutput (output : String) : Value :=
  if output = "" then none
  else
    (jsonBlock? output).bind Json.parse <|> firstBalanced rawJsonPatterns output <|>
      anyObject output

variable (context : ProductPlanningContext) (sessionId : String)

def toTask (notice : Notice) : Program Unit :=
  SocketService.toTask context.task.id notice

def startAgent (step : Nat) (agent : String) (iteration : Nat) : Program Unit := do
  TaskRepository.write context.task.id (.setCurrentStep step agent)
  context.toTask (.agentStart agent iteration sessionId)

def ask (prompt : PlanningPrompt) : Program Value := do
  OpenCodeClient.sendPrompt sessionId (.planning prompt)
  let events ← OpenCodeClient.waitForIdle sessionId none
  pure (extractJsonFromOutput (extractFinalOutput events))

def listedQuestions (questions : Json) : Except String (List Json) := do
  let listed ← questions.records
  for question in listed do
    match (question.property "options").filter Json.truthy with
    | some options => let _ ← options.items
    | none => pure ()
  pure listed

/-- The answers an agent gave itself, by question. -/
def autopilotAnswers (selfAnswers : Json) : Except String Json := do
  let given ← selfAnswers.elements
  if given.any Json.isNull then throw "TypeError: property of null"
  pure (.obj (given.map fun answer =>
    ((answer.property "question").display,
      .str ("[AUTOPILOT] " ++ (answer.property "answer").display ++ " (Reasoning: " ++
        (answer.property "reasoning").display ++ ")"))))

def selfAnswer (questions : Json) : Program Answers := do
  context.startAgent sessionId 3 "SELF_ANSWERER" 0
  let listed ← Process.ofExcept (listedQuestions questions)
  let result ← ask sessionId (.selfAnswer context.task.text listed context.repositories)
  match (result.member? "selfAnswers").filter Json.truthy with
  | some selfAnswers =>
      let userAnswers ← Process.ofExcept (autopilotAnswers selfAnswers)
      context.toTask (.selfAnswered .planning selfAnswers)
      pure { userAnswers }
  | none => pure { skipped := true }

def readFeedback (feedback : String) : Json :=
  (Json.parse feedback.toList).getD (.obj [("freeform", .str feedback)])

def askQuestions (questions : Json) (clarify : Value) : Program Answers := do
  let response ← ApprovalService.requestApproval context.task.id .clarification
    (.clarification .planning questions (clarify.member? "defaultAssumptions"))
  match response.action, response.feedback.filter (· != "") with
  | .approve, some feedback => pure { userAnswers := readFeedback feedback }
  | _, _ => pure { skipped := true }

def clarifyQuestions (clarify : Value) : Program Answers :=
  if (clarify.member? "questions").nonEmpty then
    let questions := (clarify.member? "questions").orElse (.arr [])
    if context.autoApprove then context.selfAnswer sessionId questions
    else context.askQuestions questions clarify
  else pure {}

/-- The answers, or the assumptions made without them, as later prompts quote them. -/
def clarificationsText (clarify : Value) (answers : Answers) : Except String String :=
  if answers.skipped then do
    let assumptions ← ((clarify.member? "defaultAssumptions").orElse (.arr [])).items
    pure ("Using default assumptions:\n" ++ "\n".intercalate
      (assumptions.zipIdx.map fun (assumption, index) =>
        s!"{index + 1}. " ++ assumption.display))
  else do
    let entries ← answers.userAnswers.entries
    pure ("\n\n".intercalate (entries.map fun (question, answer) =>
      s!"Q: {question}\nA: " ++ answer.display))

def judgePrompt (plan : Plan) : Except String PlanningPrompt := do
  let questions ← plan.questions.records
  let uxFlows ← plan.uxFlows.records
  let tasks ← plan.plannedTasks.records
  match plan.enrichedPrompt with
  | none | some .null | some (.str _) =>
      pure (.judge context.task.text questions uxFlows tasks plan.enrichedPrompt)
  | some _ => throw "TypeError: substring is not a function"

def runJudge (iteration : Nat) (plan : Plan) : Program Value := do
  context.startAgent sessionId 7 "JUDGE" iteration
  let prompt ← Process.ofExcept (context.judgePrompt plan)
  let result ← ask sessionId prompt
  context.toTask (.iterationComplete "judge" iteration sessionId)
  pure result

def runFix (iteration : Nat) (issues : Json) (plan : Plan) : Program Plan := do
  context.startAgent sessionId 7 "FIXER" iteration
  let listed ← Process.ofExcept (fixIssues issues)
  let fix ← ask sessionId (.fix listed)
  match fix.filter Json.truthy with
  | some fix => Process.ofExcept (plan.revise fix)
  | none => pure plan

/-- How the judge's answer is acted on. -/
inductive JudgeDecision where
  | done
  | fix (issues : Json)

/-- An answer without a verdict approves, and one without a score counts as 80. -/
def decide (result : Value) : JudgeDecision :=
  let verdict := (result.member? "verdict").orElse (.str "approved")
  let score := (result.member? "score").orElse (.num 80 0)
  let issues := (result.member? "issues").orElse (.arr [])
  if verdict.isText "approved" || score.toNumber.atLeast 80 then .done
  else if verdict.isText "rejected" then .done
  else if Value.nonEmpty (some issues) then .fix issues
  else .done

/-- Revise the plan until the judge is content, at most three times. -/
def judgeLoop : Nat → Nat → Plan → Program Plan
  | 0, _, plan => pure plan
  | remaining + 1, iteration, plan => do
      let result ← context.runJudge sessionId (iteration + 1) plan
      match decide result with
      | .done => pure plan
      | .fix issues =>
          let plan ← context.runFix sessionId (iteration + 1) issues plan
          judgeLoop remaining (iteration + 1) plan

/-- Whether the user rejects the plan; in automatic mode nobody is asked. -/
def rejected (plan : Plan) : Program Bool :=
  if context.autoApprove then pure false
  else do
    let description := context.task.description.map Json.str
    let response ← ApprovalService.requestApproval context.task.id .productPlanning (.planning
      { questions := plan.questions
        answers := plan.answers.userAnswers
        skipped := plan.answers.skipped
        uxFlows := plan.uxFlows
        plannedTasks := plan.plannedTasks
        enrichedPrompt := (plan.enrichedPrompt.filter Json.truthy) <|> description
        complexity := plan.complexity.member? "complexity"
        estimatedTotalComplexity := plan.breakdown.member? "estimatedTotalComplexity"
        suggestedBranchName := plan.breakdown.member? "suggestedBranchName"
        riskAreas := plan.breakdown.member? "riskAreas"
        keyDecisions := plan.enrich.member? "keyDecisions"
        outOfScope := plan.enrich.member? "outOfScope" })
    pure (response.action == .reject)

def failure (sessionId : String) : ProductPlanningResult :=
  { success := false, sessionId, originalPrompt := context.task.text }

def conclude (plan : Plan) : Program ProductPlanningResult := do
  if ← context.rejected plan then
    OpenCodeClient.abortSession sessionId
    pure (context.failure sessionId)
  else
    OpenCodeClient.abortSession sessionId
    context.toTask (.phaseCompleted .planning)
    pure {
      success := true
      sessionId
      originalPrompt := context.task.text
      clarifications := some (plan.questions, plan.answers.userAnswers, plan.answers.skipped)
      uxFlows := some plan.uxFlows
      plannedTasks := some plan.plannedTasks
      enrichedPrompt := some (plan.enrichedPrompt.orElse (.str context.task.text)) }

def makePlan (complexity : Value) : Program Plan := do
  let text := context.task.text
  context.startAgent sessionId 2 "CLARIFIER" 0
  let clarify ← ask sessionId (.clarifyingQuestions text context.repositories)
  let answers ← context.clarifyQuestions sessionId clarify
  let clarifications ← Process.ofExcept (clarificationsText clarify answers)
  context.startAgent sessionId 4 "UX_DESIGNER" 0
  let ux ← ask sessionId (.uxFlows text clarifications)
  let uxFlows := (ux.member? "flows").orElse (.arr [])
  context.startAgent sessionId 5 "TASK_PLANNER" 0
  let breakdown ← ask sessionId (.taskBreakdown text uxFlows clarifications)
  let tasks := (breakdown.member? "tasks").orElse (.arr [])
  context.startAgent sessionId 6 "PROMPT_ENRICHER" 0
  let enrich ← ask sessionId (.enrichPrompt text clarifications uxFlows tasks)
  pure { complexity, clarify, answers, ux, breakdown, enrich }

def fullPlanning (complexity : Value) : Program ProductPlanningResult := do
  let plan ← context.makePlan sessionId complexity
  let plan ← context.judgeLoop sessionId 3 0 plan
  context.conclude sessionId plan

def runSession : Program ProductPlanningResult := do
  OpenCodeEventBridge.registerSession context.task.id sessionId context.projectPath
  SessionRepository.create sessionId context.task.id context.projectPath "ProductPlanning"
    (!context.autoApprove)
  context.startAgent sessionId 1 "COMPLEXITY_ASSESSOR" 0
  let complexity ← ask sessionId (.assessComplexity context.task.text)
  -- a simple task leaves its session open
  if (complexity.member? "complexity").isText "simple" && context.skipForSimpleTasks then
    pure {
      success := true
      sessionId
      originalPrompt := context.task.text
      enrichedPrompt := some (.str context.task.text) }
  else context.fullPlanning sessionId complexity

end ProductPlanningContext

def runProductPlanningPhase (context : ProductPlanningContext) :
    Program ProductPlanningResult := do
  context.toTask (.phaseStarted .planning)
  match ← Request.issue (.createSession (.planning context.task.title) context.projectPath) with
  | .error message => do
      context.toTask (.phaseFailed .planning message)
      pure (context.failure "error-no-session")
  | .ok sessionId =>
      tryCatch (context.runSession sessionId) fun message => do
        context.toTask (.phaseFailed .planning message)
        tryCatch (OpenCodeClient.abortSession sessionId) fun _ => pure ()
        pure (context.failure sessionId)

end MultiAgents
