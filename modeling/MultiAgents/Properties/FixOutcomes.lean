import MultiAgents.Properties.TestReports

/-!
# What became of a fix

The phase notes a fix before it knows whether the tests pass with it.  The run that follows says
so, but only the last of the fixes is told, and it is told what the phase reads from all texts of
the session.
-/

namespace MultiAgents

open Effects Text

/-- The passed and failed tests of a run and whether it has passed. -/
def runOutcome (report : Value) : Number × Json × Bool :=
  let suite := TestGenerationContext.readRun {} report
  (suite.testsRun.toNumber.minus suite.testsFailed.toNumber, suite.testsFailed, suite.testsPassed)

def FixAttempt.outcome (attempt : FixAttempt) : Number × Json × Bool :=
  (attempt.testsPassedAfter, attempt.testsFailedAfter, attempt.success)

namespace FixOutcomes

open TestGenerationContext TestRuns

theorem keeps_attempts {remaining : Nat} {suite final : TestSuite}
    {reports : List (Value × Value)} (tried : Tried remaining suite reports final) :
    suite.fixAttempts <+: final.fixAttempts := by
  induction tried with
  | unrun suite => exact List.prefix_rfl
  | ended => exact List.prefix_rfl
  | fixed _ _ _ ih => exact (List.prefix_append _ _).trans ih

/-- No run without a failing test is one that has not passed. -/
theorem runOutcome_ne (report : Value) (passed : Number) :
    runOutcome report ≠ (passed, .num 0 0, false) := by
  intro same
  have failed : (readRun {} report).testsFailed = .num 0 0 := congrArg (·.2.1) same
  have passes : (readRun {} report).testsPassed =
      Value.isZero (some (readRun {} report).testsFailed) := rfl
  rw [failed] at passes
  have not : (readRun {} report).testsPassed = false := congrArg (·.2.2) same
  exact absurd (passes.symm.trans not) (by decide)

theorem updateLastAttempt_single (suite : TestSuite) (report : Value) (attempt : FixAttempt)
    (only : suite.fixAttempts = [attempt]) :
    (updateLastAttempt (readRun suite report)).map FixAttempt.outcome = [runOutcome report] := by
  have same : (readRun suite report).fixAttempts = [attempt] := only
  rw [updateLastAttempt, same]
  rfl

theorem updateLastAttempt_cons {suite : TestSuite} {first second : FixAttempt}
    (beginning : [first, second] <+: suite.fixAttempts) :
    ∃ others, updateLastAttempt suite = first :: others := by
  obtain ⟨others, listed⟩ := beginning
  unfold updateLastAttempt
  rw [← listed]
  simp [List.getLast?_eq_some_getLast]

/-- At most two runs were made, and the second of them was read right. -/
def FewRuns (reports : List (Value × Value)) : Prop :=
  reports.length ≤ 2 ∧ ∀ second ∈ reports.tail, runOutcome second.1 = runOutcome second.2

theorem FewRuns.of_tail {reports : List (Value × Value)} {outcome : Number × Json × Bool}
    (runs : reports.tail.map (fun report => (runOutcome report.1, runOutcome report.2)) =
      [(outcome, outcome)]) : FewRuns reports := by
  rcases reports with _ | ⟨first, _ | ⟨second, _ | ⟨third, rest⟩⟩⟩ <;> simp_all [FewRuns]

theorem records_iff {limit : Nat} {final : TestSuite} {reports : List (Value × Value)}
    (tried : Tried limit {} reports final) :
    (updateLastAttempt final).map FixAttempt.outcome =
        reports.tail.map (fun report => runOutcome report.2) ↔ FewRuns reports := by
  cases tried with
  | unrun => simp [updateLastAttempt, FewRuns]
  | ended => simp [updateLastAttempt, readRun, FewRuns]
  | @fixed _ _ _ _ _ attempt _ untold later =>
      cases later with
      | ended =>
          rw [updateLastAttempt_single _ _ _ rfl]
          simp [FewRuns]
      | fixed _ _ latest =>
          obtain ⟨others, listed⟩ := updateLastAttempt_cons (keeps_attempts latest)
          have outcome : attempt.outcome = (.finite 0 0, .num 0 0, false) := by
            rw [FixAttempt.outcome, untold.1, untold.2.1, untold.2.2]
          refine iff_of_false (fun records => ?_) ?_
          · rw [listed, List.map_cons, List.tail_cons, List.map_cons, outcome] at records
            exact runOutcome_ne _ _ (List.head_eq_of_cons_eq records).symm
          · cases latest <;> simp [FewRuns]

end FixOutcomes

open FixOutcomes in
/-- In a session that ends without an error, every fix has the results of the run that directly
followed it exactly if at most two runs are made and the second is read as it was answered. -/
theorem fixes_record_next_run (context : TestGenerationContext) (sessionId : String)
    (world : SystemWorld) (result : TestGenerationResult)
    (returned : ((context.runSession sessionId).exec world).1 = .ok result) :
    ∃ reports, runReports ((context.runSession sessionId).exec world).2.history =
        runReports world.history ++ reports ∧
      (result.fixAttempts.map FixAttempt.outcome =
        reports.tail.map (fun report => runOutcome report.2) ↔ FewRuns reports) := by
  have outcome : Outcome _ _ ((context.runSession sessionId).exec world) :=
    Triple.outcome TestRuns.runSession_tested
      (show TestRuns.Reported (runReports world.history) world from rfl)
  generalize (context.runSession sessionId).exec world = run at returned outcome ⊢
  rcases run with ⟨message | value, after⟩
  · cases returned
  · cases returned
    obtain ⟨reports, yields, reported⟩ := outcome
    refine ⟨reports, reported, ?_⟩
    cases yields with
    | untested unfixed => simp [unfixed, FewRuns]
    | tested tried fixes _ => rw [fixes, records_iff tried]

namespace FixOutcomes

/-- The tests are run again after each fix, and each run reports that two of them fail. -/
def failingRuns : Nat → Choice :=
  let report := "```json\x7b\"testsFailed\":2\x7d```"
  script [(4, .reply "/work" "ses_t" "\x7b\"coverageGaps\":[1]\x7d" []),
    (7, .reply "/work" "ses_t" "" []), (10, .reply "/work" "ses_t" report []),
    (13, .reply "/work" "ses_t" "" []), (17, .reply "/work" "ses_t" report []),
    (20, .reply "/work" "ses_t" "" []), (24, .reply "/work" "ses_t" report [])]

def failingSession (maxIterations : Nat) : Except String TestGenerationResult × SystemWorld :=
  (({ TestReports.login with maxIterations } : TestGenerationContext).runSession "ses_t").exec
    (Sample.backend.start failingRuns)

end FixOutcomes

open FixOutcomes in
/-- The first of two fixes is said to leave no failing test, though two tests fail in the run after
it. -/
theorem first_fix_not_updated :
    ∃ result, (failingSession 3).1 = .ok result ∧ result.fixAttempts.map FixAttempt.outcome ≠
      (runReports (failingSession 3).2.history).tail.map fun report => runOutcome report.2 := by
  have noted : (failingSession 3).1.toOption.any (fun result => decide
      (result.fixAttempts.map FixAttempt.testsFailedAfter = [.num 0 0, .num 2 0])) = true := by
    decide +kernel
  have ran : (runReports (failingSession 3).2.history).tail.map
      (fun report => (runOutcome report.2).2.1) = [.num 2 0, .num 2 0] := by
    decide +kernel
  obtain ⟨result, returned, told⟩ := Process.returned_of_any noted
  refine ⟨result, returned, ?_⟩
  generalize (runReports (failingSession 3).2.history).tail = own at ran ⊢
  intro same
  have failed : result.fixAttempts.map FixAttempt.testsFailedAfter =
      own.map fun report => (runOutcome report.2).2.1 := by
    simpa [Function.comp_def, FixAttempt.outcome] using congrArg (List.map (·.2.1)) same
  rw [of_decide_eq_true told, ran] at failed
  exact absurd failed (by decide)

open FixOutcomes in
/-- With two runs there is one fix, and it is told that two tests still fail. -/
theorem only_fix_updated :
    ∃ result, (failingSession 2).1 = .ok result ∧ result.fixAttempts.length = 1 ∧
      result.fixAttempts.map FixAttempt.outcome =
        (runReports (failingSession 2).2.history).tail.map fun report => runOutcome report.2 := by
  have evaluated : (failingSession 2).1.toOption.any (fun result =>
      decide (result.fixAttempts.length = 1)) = true := by decide +kernel
  have runs : (runReports (failingSession 2).2.history).tail.map (fun report =>
      (runOutcome report.1, runOutcome report.2)) =
        [((.finite (-2) 0, .num 2 0, false), (.finite (-2) 0, .num 2 0, false))] := by
    decide +kernel
  obtain ⟨result, returned, once⟩ := Process.returned_of_any evaluated
  obtain ⟨reports, ran, told⟩ := fixes_record_next_run
    { TestReports.login with maxIterations := 2 } "ses_t" (Sample.backend.start failingRuns) result
    returned
  refine ⟨result, returned, of_decide_eq_true once, ?_⟩
  have few := FewRuns.of_tail runs
  clear runs
  revert few
  unfold failingSession
  rewrite [ran]
  exact told.mpr

end MultiAgents
