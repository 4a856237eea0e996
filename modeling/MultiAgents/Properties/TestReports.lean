import MultiAgents.Properties.Sample
import MultiAgents.Properties.TestRuns

/-!
# What a passed test run rests on

The phase is right about a run of the tests when it reads the same report from all
texts of the session and from what the agent answered.  It compares no coverage,
so it is right about that only where none is asked for.
-/

namespace MultiAgents

open Effects Text

/-- The failing tests are given, as a number or as anything that does not count as false. -/
def statesFailures (report : Json) : Bool :=
  match report.property "testsFailed" with
  | some (.num _ _) => true
  | failures => failures.truthy

def reportsNoFailure (report : Json) : Bool :=
  Value.isZero (report.property "testsFailed")

def covers (threshold : Number) (report : Json) : Bool :=
  match report.property "coveragePercent" with
  | some (.num mantissa exponent) => (Number.finite mantissa exponent).ge threshold
  | _ => false

def statesCoverage (report : Json) : Bool :=
  match report.property "coveragePercent" with
  | some (.num mantissa _) => 0 ≤ mantissa
  | _ => false

/-- The answer has a report, which says that no test fails and that the coverage reaches the
threshold. -/
def passes (threshold : Number) (answer : Value) : Bool :=
  answer.any fun report => reportsNoFailure report && covers threshold report

/-- What was answered has a report that gives the failing tests, and the coverage if there are
none, and the phase finds the same report among all texts of the session. -/
def ReportsRun (run : Value × Value) : Prop :=
  ∃ report ∈ run.2, run.1 = run.2 ∧ statesFailures report = true ∧
    (reportsNoFailure report = true → statesCoverage report = true)

instance (run : Value × Value) : Decidable (ReportsRun run) :=
  inferInstanceAs (Decidable (∃ report ∈ run.2, _))

namespace TestReports

open TestRuns

variable {threshold : Number}

theorem reportsNoFailure_of_passed {suite : TestSuite} {report : Json}
    (states : statesFailures report = true)
    (passed : (TestGenerationContext.readRun suite (some report)).testsPassed = true) :
    reportsNoFailure report = true := by
  unfold statesFailures at states
  simp only [TestGenerationContext.readRun, Value.member?, Option.bind_some] at passed
  split at states
  · rename_i mantissa exponent found
    by_cases zero : mantissa = 0
    · simp [reportsNoFailure, found, Value.isZero, zero]
    · simp [found, Value.orElse, Json.truthy, Value.isZero, zero] at passed
  · cases found : report.property "testsFailed" with
    | none => rw [found] at states; cases states
    | some value =>
        have filled : value.truthy = true := by rwa [found] at states
        rw [found, Value.orElse, if_pos filled] at passed
        rwa [reportsNoFailure, found]

theorem covers_of_statesCoverage {report : Json}
    (unasked : (Number.finite 0 0).ge threshold = true)
    (states : statesCoverage report = true) : covers threshold report = true := by
  unfold statesCoverage at states
  unfold covers
  split at states
  · next mantissa exponent found =>
      have nonneg : 0 ≤ mantissa := by simpa using states
      have power (scale : Nat) : (0 : Int) < 10 ^ scale := Int.pow_pos (by decide)
      cases threshold with
      | nan => cases unasked
      | infinite negative => exact unasked
      | finite bound scale =>
          simp only [Number.ge, decide_eq_true_eq, Int.zero_mul] at unasked ⊢
          have notPositive : bound ≤ 0 := Int.not_lt.mp fun positive =>
            absurd (Int.mul_pos positive (power _)) (Int.not_lt.mpr unasked)
          calc bound * 10 ^ (scale - min exponent scale).toNat
              ≤ 0 := Int.mul_nonpos_of_nonpos_of_nonneg notPositive (power _).le
            _ ≤ mantissa * 10 ^ (exponent - min exponent scale).toNat :=
              Int.mul_nonneg nonneg (power _).le
  · exact states

theorem passes_of_reportsRun {run : Value × Value} (reports : ReportsRun run)
    (unasked : (Number.finite 0 0).ge threshold = true)
    (passed : (TestGenerationContext.readRun {} run.1).testsPassed = true) :
    passes threshold run.2 = true := by
  obtain ⟨report, own, same, states, covered⟩ := reports
  rw [same, own] at passed
  have noFailure := reportsNoFailure_of_passed states passed
  rw [own]
  simp [MultiAgents.passes, noFailure, covers_of_statesCoverage unasked (covered noFailure)]

theorem tried_last {limit : Nat} {suite final : TestSuite} {reports : List (Value × Value)}
    (tried : Tried limit suite reports final) (unpassed : suite.testsPassed = false)
    (passed : final.testsPassed = true) :
    ∃ last ∈ reports.getLast?, (TestGenerationContext.readRun {} last.1).testsPassed = true := by
  induction tried with
  | unrun suite => exact absurd (unpassed.symm.trans passed) (by decide)
  | @ended suite report remaining => exact ⟨report, rfl, passed⟩
  | @fixed suite final report remaining reports attempt failed untold later ih =>
      obtain ⟨last, isLast, reads⟩ := ih failed passed
      exact ⟨last, by simp [List.getLast?_cons, Option.mem_def.mp isLast], reads⟩

theorem runTestGenerationPhase_tested (context : TestGenerationContext) :
    Leads (Reported []) (runTestGenerationPhase context)
      fun result world => result.success = true → Tested [] result world := by
  apply (Reported.leads (.call rfl)).bind
  intro _
  apply (Reported.leads (.call rfl)).bind
  intro answer
  cases answer with
  | error message =>
      refine Triple.bind Triple.nothing fun _ => ?_
      exact .pure fun _ _ => nofun
  | ok sessionId =>
      have ran : Leads (Reported []) (context.runSession sessionId)
          fun result world => result.success = true → Tested [] result world :=
        runSession_tested.weaken (fun _ => id) (fun _ _ tested _ => tested) fun _ _ => id
      apply ran.tryCatch
      intro message
      refine Triple.bind Triple.nothing fun _ => Triple.bind Triple.nothing fun _ => ?_
      exact .pure fun _ _ => nofun

end TestReports

namespace TestReports

/-- A session that finds a gap in the tests and is then asked to run them. -/
def tested (gaps report : String) : Nat → Choice :=
  script [(1, { text := "ses_t" }), (6, .reply "/work" "ses_t" gaps []),
    (9, .reply "/work" "ses_t" "Tests written." []), (12, .reply "/work" "ses_t" report [])]

def reportText (testsFailed coverage : String) : String :=
  "```json\n\x7b\"testsFailed\": " ++ testsFailed ++ ", \"coveragePercent\": " ++ coverage ++
    "\x7d\n```"

def login : TestGenerationContext where
  task := ⟨"42", "Login", none⟩
  projectPath := "/work"
  stories := []
  autoApprove := true

/-- No coverage is asked for. -/
def uncovered : TestGenerationContext := { login with coverageThreshold := .finite 0 0 }

/-- The gaps stand in the first block of the session. -/
def shadowedRun : Except String TestGenerationResult × SystemWorld :=
  (runTestGenerationPhase login).exec (Sample.backend.start
    (tested "```json\n\x7b\"coverageGaps\": [1]\x7d\n```" (reportText "3" "10")))

/-- The gaps stand outside of a block. -/
def covered : Nat → Choice :=
  tested "\x7b\"coverageGaps\": [1]\x7d" (reportText "0" "85.5")

end TestReports

end MultiAgents
