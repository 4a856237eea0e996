import MultiAgents.System.Steps
import MultiAgents.Orchestrator

/-!
# Runs of the tests

Each run of the tests is a prompt and its answer.  The phase reads the answer from
all texts of the session so far; what the agent answered are the events that came
after the prompt.  A session of the phase runs the tests, and after each run that
fails, but for the last, it tries a fix.
-/

namespace MultiAgents

open Effects Text

/-- What the phase reads from the events of a session. -/
def reportOf (events : List OpenCodeEvent) : Value :=
  TestGenerationContext.extractJsonFromOutput (TestGenerationContext.extractFinalOutput events)

/-- For each prompt to run the tests, the first prompt first, what the phase reads and what the
agent has answered. -/
def runReports : List SystemStep → List (Value × Value)
  | [] => []
  | ⟨_, _, .waitForIdle _ _, .ok events⟩ ::
      ⟨before, _, .sendPrompt sessionId (.tests (.runTests _ _)), _⟩ :: past =>
        runReports past ++ [(reportOf events,
          reportOf (events.drop (before.bridge.collectedEvents sessionId).length))]
  | ⟨_, _, .sendPrompt _ (.tests (.runTests _ _)), _⟩ :: past => runReports past ++ [(none, none)]
  | _ :: past => runReports past

namespace TestRuns

open TestGenerationContext

/-- What a suite becomes in a number of runs with these reports. -/
inductive Tried : Nat → TestSuite → List (Value × Value) → TestSuite → Prop where
  | unrun (suite : TestSuite) : Tried 0 suite [] suite
  | ended {suite : TestSuite} {report : Value × Value} {remaining : Nat} :
      Tried (remaining + 1) suite [report] (readRun suite report.1)
  | fixed {suite final : TestSuite} {report : Value × Value} {remaining : Nat}
      {reports : List (Value × Value)} {attempt : FixAttempt}
      (failed : (readRun suite report.1).testsPassed = false)
      (untold : attempt.testsPassedAfter = .finite 0 0 ∧ attempt.testsFailedAfter = .num 0 0 ∧
        attempt.success = false)
      (later : Tried (remaining + 1)
        { readRun suite report.1 with fixAttempts := suite.fixAttempts ++ [attempt] } reports
        final) :
      Tried (remaining + 2) suite (report :: reports) final

variable {context : TestGenerationContext} {sessionId : String} {reports : List (Value × Value)}

def Reported (reports : List (Value × Value)) (world : SystemWorld) : Prop :=
  runReports world.history = reports

def talks : Request → Bool
  | .sendPrompt _ _ | .waitForIdle _ _ => true
  | _ => false

theorem Reported.next {world : SystemWorld} (reported : Reported reports world)
    {request : Request} (other : talks request = false) :
    Reported reports (world.next request) := by
  cases request with
  | sendPrompt _ _ | waitForIdle _ _ => cases other
  | _ => exact reported

theorem Reported.leads {α : Type} {program : Program α}
    (uses : Uses (fun request => talks request = false) program) :
    Leads (Reported reports) program fun _ => Reported reports :=
  (uses.keeps fun _ _ other _ reported => reported.next other).onRaise fun _ _ _ => trivial

theorem ask_ends (prompt : TestPrompt) {record : List SystemStep}
    (reported : runReports record = reports) :
    Ends (fun report past => ∃ own, runReports past =
        reports ++ if prompt matches .runTests _ _ then [(report, own)] else [])
      (ask sessionId prompt) record := by
  refine fun before _ sent => ?_
  cases sent with
  | error message => trivial
  | ok _ =>
      refine fun _ _ answer => ?_
      cases answer with
      | error message => trivial
      | ok events =>
          refine ⟨reportOf (events.drop (before.bridge.collectedEvents sessionId).length), ?_⟩
          cases prompt <;> simp [runReports, reportOf, reported]

theorem ask_reported (prompt : TestPrompt) :
    Leads (Reported reports) (ask sessionId prompt) fun report world => ∃ own,
      Reported (reports ++ if prompt matches .runTests _ _ then [(report, own)] else []) world :=
  Ends.triple fun _ => ask_ends prompt

theorem ask_other (prompt : TestPrompt) (other : (prompt matches .runTests _ _) = false) :
    Leads (Reported reports) (ask sessionId prompt) fun _ => Reported reports := by
  refine (ask_reported prompt).weaken (fun _ => id) ?_ fun _ _ => id
  rintro report world ⟨own, reported⟩
  rwa [other, if_neg Bool.false_ne_true, List.append_nil] at reported

theorem runTests_reported (testFiles : List Value) (framework : Json) (suite : TestSuite) :
    Leads (Reported reports) (context.runTests sessionId testFiles framework suite)
      fun next world => ∃ report, next = readRun suite report.1 ∧
        Reported (reports ++ [report]) world := by
  apply (Reported.leads (.call rfl)).bind
  intro _
  apply (ask_reported (.runTests testFiles framework)).bind
  intro report
  apply Triple.exists_pre
  intro own
  exact .pure fun _ reported => ⟨(report, own), rfl, reported⟩

theorem fixTests_reported (iteration : Nat) (suite : TestSuite) :
    Leads (Reported reports) (context.fixTests sessionId iteration suite)
      fun next world => ∃ attempt : FixAttempt,
        (attempt.testsPassedAfter = .finite 0 0 ∧ attempt.testsFailedAfter = .num 0 0 ∧
          attempt.success = false) ∧
        next = { suite with fixAttempts := suite.fixAttempts ++ [attempt] } ∧
        Reported reports world := by
  apply (Reported.leads (.call rfl)).bind
  intro _
  apply (Reported.leads (.ofExcept _)).bind
  intro failedTests
  apply (ask_other (.fixFailedTests failedTests iteration) rfl).bind
  intro report
  apply (Reported.leads (.ofExcept _)).bind
  intro fixes
  apply (Reported.leads (.call rfl)).bind
  intro _
  exact .pure fun world reported => ⟨_, ⟨rfl, rfl, rfl⟩, rfl, reported⟩

theorem testLoop_tried (testFiles : List Value) (framework : Json) (remaining iteration : Nat)
    (suite : TestSuite) :
    Leads (Reported reports)
      (context.testLoop sessionId testFiles framework remaining iteration suite)
      fun final world => ∃ later, Tried remaining suite later final ∧
        Reported (reports ++ later) world := by
  induction remaining generalizing iteration suite reports with
  | zero =>
      refine .pure fun world reported => ⟨[], .unrun suite, ?_⟩
      rw [List.append_nil]
      exact reported
  | succ remaining ih =>
      apply (runTests_reported testFiles framework suite).bind
      intro next
      apply Triple.exists_pre
      intro report
      apply Triple.given
      rintro rfl
      cases passed : (readRun suite report.1).testsPassed with
      | true => exact .pure fun world reported => ⟨[report], .ended, reported⟩
      | false =>
          cases remaining with
          | zero => exact .pure fun world reported => ⟨[report], .ended, reported⟩
          | succ remaining =>
              apply (fixTests_reported (iteration + 1) _).bind
              intro next
              apply Triple.exists_pre
              intro attempt
              apply Triple.given
              intro untold
              apply Triple.given
              rintro rfl
              refine (ih (iteration + 1) _).weaken (fun _ => id) ?_ fun _ _ => id
              rintro final world ⟨later, tried, reported⟩
              refine ⟨report :: later, .fixed passed untold tried, ?_⟩
              rw [List.append_assoc] at reported
              exact reported

theorem conclude_reported (result : TestGenerationResult) :
    Leads (Reported reports) (context.conclude sessionId result)
      fun final world => (final.fixAttempts = result.fixAttempts ∧
        (final.success = true → result.success = true)) ∧ Reported reports world := by
  have asked : Uses (fun request => talks request = false) (context.rejected result) :=
    .ite (.pure _) (.bind (.attempt (.call rfl)) fun _ => .pure _)
  have closed : Uses (fun request => talks request = false)
      (OpenCodeClient.abortSession sessionId) := .attempt (.call rfl)
  apply (Reported.leads asked).bind
  intro rejected
  apply Triple.ite
  · intro _
    apply (Reported.leads closed).bind
    intro _
    exact .pure fun _ reported => ⟨⟨rfl, nofun⟩, reported⟩
  · intro _
    apply (Reported.leads closed).bind
    intro _
    apply (Reported.leads (.call rfl)).bind
    intro _
    exact .pure fun _ reported => ⟨⟨rfl, id⟩, reported⟩

/-- A result of a session: of one that had nothing to test, or of one that ran the tests. -/
inductive Yields : List (Value × Value) → TestGenerationResult → Prop where
  | untested {result : TestGenerationResult} (unfixed : result.fixAttempts = []) : Yields [] result
  | tested {limit : Nat} {reports : List (Value × Value)} {suite : TestSuite}
      {result : TestGenerationResult} (tried : Tried limit {} reports suite)
      (fixes : result.fixAttempts = updateLastAttempt suite)
      (passed : result.success = true → suite.testsPassed = true) : Yields reports result

def Tested (earlier : List (Value × Value)) (result : TestGenerationResult)
    (world : SystemWorld) : Prop :=
  ∃ reports, Yields reports result ∧ Reported (earlier ++ reports) world

theorem generateTests_tested (framework coverageGaps : Json) (edgeCases : List Json) :
    Leads (Reported reports) (context.generateTests sessionId framework coverageGaps edgeCases)
      (Tested reports) := by
  apply (Reported.leads (.call rfl)).bind
  intro _
  apply (Reported.leads (.ofExcept _)).bind
  intro gaps
  apply (ask_other (.generateTests gaps edgeCases framework) rfl).bind
  intro generated
  apply (Reported.leads (.ofExcept _)).bind
  intro tests
  apply (testLoop_tried _ _ _ _ _).bind
  intro suite
  apply Triple.exists_pre
  intro later
  apply Triple.given
  intro tried
  refine (conclude_reported _).weaken (fun _ => id) ?_ fun _ _ => id
  rintro result world ⟨⟨fixes, passed⟩, reported⟩
  exact ⟨later, .tested tried fixes passed, reported⟩

theorem testAnalysis_tested (analysis : Value) :
    Leads (Reported reports) (context.testAnalysis sessionId analysis) (Tested reports) := by
  apply (Reported.leads (.ofExcept _)).bind
  intro edgeCases
  apply Triple.ite
  · intro _
    have closed : Uses (fun request => talks request = false)
        (OpenCodeClient.abortSession sessionId) := .attempt (.call rfl)
    apply (Reported.leads closed).bind
    intro _
    refine .pure fun world reported => ⟨[], .untested rfl, ?_⟩
    rw [List.append_nil]
    exact reported
  · intro _
    exact generateTests_tested _ _ _

theorem runSession_tested :
    Leads (Reported reports) (context.runSession sessionId) (Tested reports) := by
  apply (Reported.leads (.call rfl)).bind
  intro _
  refine Triple.bind (Reported.leads (.attempt (.call rfl))) fun _ => ?_
  apply (Reported.leads (.call rfl)).bind
  intro _
  apply (ask_other (.analyzeForTests context.task.text context.stories) rfl).bind
  intro analysis
  apply Triple.ite
  · exact fun _ => testAnalysis_tested analysis
  · exact fun _ => .throw fun _ _ => trivial

end TestRuns

end MultiAgents
