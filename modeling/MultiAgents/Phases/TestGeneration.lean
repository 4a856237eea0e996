import MultiAgents.Phases.AgentOutput
import MultiAgents.Services.Clients

/-!
# The TestGeneration phase

One session analyses the code for gaps in its tests, writes tests and runs them,
with a fix between two runs.  The phase commits nothing: what its agent writes
stays in the working trees.
-/

namespace MultiAgents

open Effects Text

structure TestGenerationContext where
  task : Task
  projectPath : String
  stories : List StoryResultV2
  autoApprove : Bool
  /-- Only printed: no result is compared with it. -/
  coverageThreshold : Number := .finite 70 0
  maxIterations : Nat := 3

structure FixAttempt where
  iteration : Nat
  failedTests : List Json
  fixesApplied : Json
  testsPassedAfter : Number := .finite 0 0
  testsFailedAfter : Json := .num 0 0
  success : Bool := false

structure TestGenerationResult where
  success : Bool
  sessionId : String
  testsGenerated : List Json := []
  edgeCasesDetected : List Json := []
  coverageGaps : List Json := []
  testsPassed : Bool
  testsRun : Json := .num 0 0
  testsFailed : Json := .num 0 0
  coverageAfter : Value := none
  fixAttempts : List FixAttempt := []
  error : Option String := none

structure TestSuite where
  testsPassed : Bool := false
  testsRun : Json := .num 0 0
  testsFailed : Json := .num 0 0
  coverageAfter : Json := .num 0 0
  failedTests : Json := .arr []
  fixAttempts : List FixAttempt := []

def OpenCodeEvent.chunk? (event : OpenCodeEvent) : Option String :=
  let present (text : Option String) : Option String := text.filter fun text => text != ""
  if event.type = "message.part.updated" then event.text?
  else if event.type = "message.complete" then present event.content
  else if event.type = "message.delta" ∨ event.type = "message.chunk" then
    present event.content <|> present event.text
  else if event.type ∈ ["text", "assistant", "message"] then present event.own
  else if event.type ∈ ["agent_output", "agent_message"] then present event.data
  else none

namespace TestGenerationContext

/-- All texts of the events, one after the other. -/
def extractFinalOutput (events : List OpenCodeEvent) : String :=
  String.join (events.filterMap OpenCodeEvent.chunk?)

def rawJsonPatterns : List Regex :=
  [rawArray "tests", rawField "testFramework", rawArray "coverageGaps", rawArray "edgeCases",
    rawField "success", rawArray "fixesApplied"]

def extractJsonFromOutput (output : String) : Value :=
  if output = "" then none
  else
    (jsonBlock? output).bind Json.parse <|> firstBalanced rawJsonPatterns output <|>
      Json.parse output.toList <|> (extractBalancedJson output.toList).bind Json.parse

variable (context : TestGenerationContext) (sessionId : String)

def toTask (notice : Notice) : Program Unit :=
  SocketService.toTask context.task.id notice

/-- Prompt the agent and read the JSON of its answer. -/
def ask (prompt : TestPrompt) : Program Value := do
  OpenCodeClient.sendPrompt sessionId (.tests prompt)
  let events ← OpenCodeClient.waitForIdle sessionId none
  pure (extractJsonFromOutput (extractFinalOutput events))

/-- A run whose report cannot be read counts as one without failures. -/
def readRun (suite : TestSuite) (report : Value) : TestSuite :=
  let testsFailed := (report.member? "testsFailed").orElse (.num 0 0)
  { suite with
    testsRun := (report.member? "testsRun").orElse (.num 0 0)
    testsFailed
    coverageAfter := (report.member? "coveragePercent").orElse (.num 0 0)
    failedTests := (report.member? "failedTests").orElse (.arr [])
    testsPassed := Value.isZero (some testsFailed) }

def runTests (testFiles : List Value) (framework : Json) (suite : TestSuite) :
    Program TestSuite := do
  context.toTask (.agentProgress .testGeneration "running")
  let report ← ask sessionId (.runTests testFiles framework)
  pure (readRun suite report)

def readFixes (fixesApplied : Value) : Except String Json := do
  let fixes := fixesApplied.orElse (.arr [])
  if fixesApplied.nonEmpty then
    let listed ← fixes.elements
    if listed.any Json.isNull then throw "TypeError: property of null"
    pure fixes
  else pure fixes

def fixTests (iteration : Nat) (suite : TestSuite) : Program TestSuite := do
  context.toTask (.agentProgress .testGeneration "fixing")
  let failedTests ← Process.ofExcept suite.failedTests.records
  let report ← ask sessionId (.fixFailedTests failedTests iteration)
  let fixesApplied ← Process.ofExcept (readFixes (report.member? "fixesApplied"))
  context.toTask (.testFixApplied iteration fixesApplied)
  pure { suite with
    fixAttempts := suite.fixAttempts ++ [{ iteration, failedTests, fixesApplied }] }

def testLoop (testFiles : List Value) (framework : Json) :
    Nat → Nat → TestSuite → Program TestSuite
  | 0, _, suite => pure suite
  | remaining + 1, iteration, suite => do
      let suite ← context.runTests sessionId testFiles framework suite
      match suite.testsPassed, remaining with
      | true, _ => pure suite
      | false, 0 => pure suite
      | false, _ + 1 =>
          let suite ← context.fixTests sessionId (iteration + 1) suite
          testLoop testFiles framework remaining (iteration + 1) suite

def updateLastAttempt (suite : TestSuite) : List FixAttempt :=
  match suite.fixAttempts.getLast? with
  | none => suite.fixAttempts
  | some lastAttempt =>
      suite.fixAttempts.dropLast ++ [{ lastAttempt with
        testsPassedAfter := suite.testsRun.toNumber.minus suite.testsFailed.toNumber
        testsFailedAfter := suite.testsFailed
        success := suite.testsPassed }]

/-- Whether the user rejects the tests; in automatic mode nobody is asked. -/
def rejected (result : TestGenerationResult) : Program Bool :=
  if context.autoApprove then pure false
  else do
    let response ← ApprovalService.requestApproval context.task.id .testGeneration (.tests
      { testsGenerated := result.testsGenerated.length
        edgeCases := result.edgeCasesDetected.length
        coverageGaps := result.coverageGaps.length
        testsPassed := result.testsPassed
        testsRun := some result.testsRun
        testsFailed := some result.testsFailed
        coverage := result.coverageAfter })
    pure (response.action == .reject)

def conclude (result : TestGenerationResult) : Program TestGenerationResult := do
  if ← context.rejected result then
    OpenCodeClient.abortSession sessionId
    pure { result with success := false, testsPassed := false, error := some "Rejected by user" }
  else
    OpenCodeClient.abortSession sessionId
    context.toTask (.phaseCompleted .testGeneration)
    pure result

def generateTests (framework : Json) (coverageGaps : Json) (edgeCases : List Json) :
    Program TestGenerationResult := do
  context.toTask (.agentProgress .testGeneration "generating")
  let gaps ← Process.ofExcept coverageGaps.records
  let generated ← ask sessionId (.generateTests gaps edgeCases framework)
  let testsGenerated ←
    Process.ofExcept ((generated.member? "tests").orElse (.arr [])).records
  let testFiles := testsGenerated.map fun test => test.property "file"
  let suite ← context.testLoop sessionId testFiles framework context.maxIterations 0 {}
  context.conclude sessionId {
    success := suite.testsPassed
    sessionId
    testsGenerated
    edgeCasesDetected := edgeCases
    coverageGaps := gaps
    testsPassed := suite.testsPassed
    testsRun := suite.testsRun
    testsFailed := suite.testsFailed
    coverageAfter := some suite.coverageAfter
    fixAttempts := updateLastAttempt suite }

/-- Nothing to test ends the phase. -/
def testAnalysis (analysis : Value) : Program TestGenerationResult := do
  let coverageGaps := (analysis.member? "coverageGaps").orElse (.arr [])
  let edgeCases ← Process.ofExcept ((analysis.member? "edgeCases").orElse (.arr [])).records
  if coverageGaps.length.isZero && edgeCases.isEmpty then
    OpenCodeClient.abortSession sessionId
    pure { success := true, sessionId, testsPassed := true }
  else
    context.generateTests sessionId ((analysis.member? "testFramework").orElse (.str "jest"))
      coverageGaps edgeCases

def runSession : Program TestGenerationResult := do
  OpenCodeEventBridge.registerSession context.task.id sessionId context.projectPath
  SessionRepository.create sessionId context.task.id context.projectPath "TestGeneration" false
  context.toTask (.agentProgress .testGeneration "analyzing")
  let analysis ← ask sessionId (.analyzeForTests context.task.text context.stories)
  if analysis.truthy then context.testAnalysis sessionId analysis
  else throw "Failed to analyze code for tests"

def failure (message : String) : TestGenerationResult :=
  { success := false, sessionId, testsPassed := false, error := some message }

end TestGenerationContext

def runTestGenerationPhase (context : TestGenerationContext) : Program TestGenerationResult := do
  context.toTask (.phaseStarted .testGeneration)
  match ← Request.issue (.createSession (.tests context.task.title) context.projectPath) with
  | .error message => do
      context.toTask (.phaseFailed .testGeneration message)
      pure (TestGenerationContext.failure "error-no-session" message)
  | .ok sessionId =>
      tryCatch (context.runSession sessionId) fun message => do
        context.toTask (.phaseFailed .testGeneration message)
        tryCatch (OpenCodeClient.abortSession sessionId) fun _ => pure ()
        pure (TestGenerationContext.failure sessionId message)

end MultiAgents
