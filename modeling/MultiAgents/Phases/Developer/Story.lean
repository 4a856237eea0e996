import MultiAgents.Phases.AgentOutput
import MultiAgents.Services.Clients

/-!
# One story in its own session

The loop of `executeStoryWithSession`: at most three rounds of developer, judge
and spy, with a FIX prompt between two rounds.
-/

namespace MultiAgents

open Effects Text

/-- The arguments of `executeStoryWithSession`. -/
structure StoryContext where
  story : Story
  storyIndex : Nat
  totalStories : Nat
  repositories : List RepositoryInfo
  projectPath : String
  taskId : String
  autoApprove : Bool

structure StoryExecutionResult where
  verdict : Verdict
  iterations : Nat
  score : Value
  issues : Value
  vulnerabilities : List VulnerabilityV2
  toolCalls : Nat
  sessionId : Option String
  criteriaStatus : Value := none
  summary : Value := none

/-- The variables of the loop. -/
structure StoryProgress where
  judged : JudgeResult := .unread
  iterations : Nat := 0
  vulnerabilities : List VulnerabilityV2 := []
  toolCalls : Nat := 0

def maxIterations : Nat := 3

namespace StoryContext

variable (context : StoryContext) (sessionId : String)

def toTask (notice : Notice) : Program Unit :=
  SocketService.toTask context.taskId notice

def promptDeveloper (iteration : Nat) : Program Unit :=
  if iteration = 1 then do
    context.toTask (.agentStart "DEVELOPER" iteration sessionId)
    OpenCodeClient.sendPrompt sessionId (.developer
      (.developer context.story context.storyIndex context.totalStories context.repositories))
  else pure ()

def runDeveloper (iteration : Nat) : Program Nat := do
  context.promptDeveloper sessionId iteration
  let devEvents ← OpenCodeClient.waitForIdle sessionId none
  context.toTask (.iterationComplete "developer" iteration sessionId)
  pure (countToolCalls devEvents)

def runJudge (iteration : Nat) : Program (JudgeResult × Nat) := do
  context.toTask (.agentStart "JUDGE" iteration sessionId)
  OpenCodeClient.sendPrompt sessionId (.developer (.judge context.story))
  let judgeEvents ← OpenCodeClient.waitForIdle sessionId none
  context.toTask (.iterationComplete "judge" iteration sessionId)
  pure (parseJudgeVerdict (extractFinalOutput judgeEvents), countToolCalls judgeEvents)

def runSpy (iteration : Nat) : Program (List VulnerabilityV2) := do
  context.toTask (.agentStart "SPY" iteration sessionId)
  OpenCodeClient.sendPrompt sessionId (.developer (.spy context.story
    (context.story.filesToModify.getD []) (context.story.filesToCreate.getD [])))
  let spyEvents ← OpenCodeClient.waitForIdle sessionId none
  let spyVulns ← Process.ofExcept (convertSpyVulnerabilities
    (extractSpyResult (extractFinalOutput spyEvents))
    context.taskId sessionId context.story.id iteration)
  context.toTask (.iterationComplete "spy" iteration sessionId)
  pure spyVulns

def runFix (iteration : Nat) (issues : Json) : Program Unit := do
  context.toTask (.agentStart "FIXER" iteration sessionId)
  let listed ← Process.ofExcept (fixIssues issues)
  OpenCodeClient.sendPrompt sessionId (.developer (.fix listed))

/-- One round, up to the decision about the verdict. -/
def runIteration (progress : StoryProgress) : Program StoryProgress := do
  let iteration := progress.iterations + 1
  let devCalls ← context.runDeveloper sessionId iteration
  let (judged, judgeCalls) ← context.runJudge sessionId iteration
  let spyVulns ← context.runSpy sessionId iteration
  pure ⟨judged, iteration, progress.vulnerabilities ++ spyVulns,
    progress.toolCalls + devCalls + judgeCalls⟩

/-- The loop, with the number of rounds that may still follow. -/
def iterate : Nat → StoryProgress → Program StoryProgress
  | 0, progress => pure progress
  | remaining + 1, progress => do
      let progress ← context.runIteration sessionId progress
      match progress.judged.verdict with
      | .approved | .rejected => pure progress
      | _ =>
          if progress.judged.hasIssues then
            context.runFix sessionId progress.iterations progress.judged.issues
            iterate remaining progress
          else
            -- "No specific issues to fix, accepting as-is"
            pure { progress with judged := { progress.judged with verdict := .approved } }

/-- Registration, the loop, and the cleanup of a session that was created. -/
def runSession : Program StoryExecutionResult := do
  OpenCodeEventBridge.registerSession context.taskId sessionId context.projectPath
  SessionRepository.create sessionId context.taskId context.projectPath
    s!"Developer-Story{context.storyIndex + 1}" (!context.autoApprove)
  context.toTask (.sessionCreated sessionId .developer)
  let progress ← context.iterate sessionId maxIterations {}
  SessionRepository.updateStatus sessionId "completed"
  OpenCodeEventBridge.unregisterSession sessionId
  context.toTask
    (.sessionClosed sessionId context.story.id context.storyIndex progress.judged.verdict)
  pure
    { verdict := progress.judged.verdict
      iterations := progress.iterations
      score := some progress.judged.score
      issues := some progress.judged.issues
      vulnerabilities := progress.vulnerabilities
      toolCalls := progress.toolCalls
      sessionId := some sessionId
      criteriaStatus := some progress.judged.criteriaStatus
      summary := some progress.judged.summary }

/-- What a story that threw is reported as. -/
def failure (session : Option String) (message : String) : StoryExecutionResult where
  verdict := .rejected
  iterations := 0
  score := some (.num 0 0)
  issues := some (.arr [.obj [("severity", .str "critical"), ("description", .str message)]])
  vulnerabilities := []
  toolCalls := 0
  sessionId := session

def cleanup : Program Unit :=
  tryCatch (do
    SessionRepository.updateStatus sessionId "error"
    OpenCodeEventBridge.unregisterSession sessionId)
    fun _ => pure ()

end StoryContext

def executeStoryWithSession (context : StoryContext) : Program StoryExecutionResult := do
  let title := SessionTitle.story (context.storyIndex + 1) context.totalStories context.story.title
  match ← Request.issue (.createSession title context.projectPath) with
  | .error message => pure (StoryContext.failure none message)
  | .ok sessionId =>
      tryCatch (context.runSession sessionId) fun message => do
        StoryContext.cleanup sessionId
        pure (StoryContext.failure (some sessionId) message)

end MultiAgents
