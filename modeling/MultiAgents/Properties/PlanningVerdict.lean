import MultiAgents.Phases.Requests
import MultiAgents.Properties.Sample

/-!
# What a planned task rests on

The judge's answers are read off the record of a call of the Planning phase.  A
phase that got to its judge and succeeds had an answer that ended the rounds, or
three that asked for a revision.  Whether one of them approved the plan makes no
difference to the result.
-/

namespace MultiAgents

open Effects Text

def PlanningPrompt.isJudge : PlanningPrompt → Bool
  | .judge _ _ _ _ _ => true
  | _ => false

/-- The JSON of the judge's answers so far, and whether the next answer is one. -/
structure PlanReading where
  judging : Bool := false
  answers : List Value := []

def PlanReading.after (reading : PlanReading) : SystemStep → PlanReading
  | ⟨_, _, .sendPrompt _ (.planning prompt), _⟩ => { reading with judging := prompt.isJudge }
  | ⟨_, _, .waitForIdle _ _, .ok events⟩ =>
      if reading.judging then
        { reading with
          answers := reading.answers ++
            [ProductPlanningContext.extractJsonFromOutput (extractFinalOutput events)] }
      else reading
  | _ => reading

def planReading : List SystemStep → PlanReading
  | [] => {}
  | step :: past => (planReading past).after step

/-- What was read from each answer of the judge, in order; `none` where nothing could be read. -/
def planVerdicts (record : List SystemStep) : List Value := (planReading record).answers

/-- The judge's turn begins. -/
def Request.entersPlanJudge : Request → Bool
  | .writeTask _ (.setCurrentStep _ agent) => agent == "JUDGE"
  | _ => false

def reachesPlanJudge (record : List SystemStep) : Bool :=
  record.any fun step => step.call.entersPlanJudge

def approvesPlan (answer : Value) : Bool :=
  (answer.member? "verdict").isText "approved" ||
    (answer.member? "score").any (·.toNumber.atLeast 80) &&
      !(answer.member? "verdict").isText "rejected"

/-- The answer scores less than 80, and its verdict is not an approval. -/
def declinesPlan (answer : Value) : Bool :=
  (answer.member? "verdict").truthy && !(answer.member? "verdict").isText "approved" &&
    (answer.member? "score").truthy && !(answer.member? "score").any (·.toNumber.atLeast 80)

def asksForRevision (answer : Value) : Bool :=
  declinesPlan answer && !(answer.member? "verdict").isText "rejected" &&
    (answer.member? "issues").nonEmpty

/-- The answer approves the plan, or it grades it, with issues unless the score is at least 80. -/
def gradesPlan (answer : Value) : Bool :=
  (answer.member? "verdict").isText "approved" ||
    (answer.member? "verdict").truthy && !(answer.member? "verdict").isText "rejected" &&
      (answer.member? "score").truthy &&
        ((answer.member? "score").any (·.toNumber.atLeast 80) ||
          (answer.member? "issues").nonEmpty)

/-- The judge was heard to the end: an answer ended the rounds, or all three were used up. -/
def EndsJudging (answers : List Value) : Prop :=
  (∃ last ∈ answers, ProductPlanningContext.decide last = .done) ∨
    3 ≤ answers.countP asksForRevision

namespace PlanningVerdict

open ProductPlanningContext

theorem isText_orElse {value : Value} {fallback : Json} {text : String} (nonempty : text ≠ "") :
    (value.orElse fallback).isText text =
      (value.isText text || !value.truthy && fallback.isText text) := by
  cases value with
  | none => simp [Value.orElse, Value.isText, Value.truthy]
  | some found =>
      cases truthy : found.truthy with
      | true => simp [Value.orElse, Value.isText, Value.truthy, truthy]
      | false =>
          have other : found.isText text = false := by
            cases found with
            | str content =>
                have blank : content = "" := by simpa [Json.truthy] using truthy
                simpa [Json.isText, blank] using nonempty.symm
            | _ => rfl
          simp [Value.orElse, Value.isText, Value.truthy, truthy, other]

theorem score_orElse (value : Value) :
    (value.orElse (.num 80 0)).toNumber.atLeast 80 =
      (!value.truthy || value.any (·.toNumber.atLeast 80)) := by
  cases value with
  | none => rfl
  | some found =>
      cases truthy : found.truthy with
      | true => simp [Value.orElse, Value.truthy, truthy]
      | false => simp [Value.orElse, Value.truthy, truthy]; rfl

theorem nonEmpty_orElse (value : Value) :
    Value.nonEmpty (some (value.orElse (.arr []))) = value.nonEmpty := by
  cases value with
  | none => rfl
  | some found =>
      cases truthy : found.truthy with
      | true => simp only [Value.orElse_of_truthy truthy]
      | false =>
          simp only [Value.orElse_of_falsy truthy]
          cases found with
          | str text =>
              obtain rfl : text = "" := by simpa [Json.truthy] using truthy
              rfl
          | null | bool _ | num _ _ => rfl
          | arr _ | obj _ => cases truthy

theorem accepted_eq_not_declines (answer : Value) :
    (((answer.member? "verdict").orElse (.str "approved")).isText "approved" ||
      ((answer.member? "score").orElse (.num 80 0)).toNumber.atLeast 80) =
        !declinesPlan answer := by
  have sameText : (Json.str "approved").isText "approved" = true := by decide
  rw [isText_orElse (by decide), score_orElse, sameText]
  unfold declinesPlan
  simp only [Bool.and_true, Bool.not_and, Bool.not_not]
  ac_rfl

theorem decide_fix_iff (answer : Value) :
    (∃ issues, ProductPlanningContext.decide answer = .fix issues) ↔
      asksForRevision answer = true := by
  have otherText : (Json.str "approved").isText "rejected" = false := by decide
  unfold ProductPlanningContext.decide asksForRevision
  simp only [accepted_eq_not_declines, isText_orElse (show "rejected" ≠ "" by decide),
    nonEmpty_orElse, otherText]
  cases declinesPlan answer <;> cases (answer.member? "verdict").isText "rejected" <;>
    cases (answer.member? "issues").nonEmpty <;> simp

/-- The judge's turn has not begun, unless `judged`, and its answers were these. -/
structure Heard (judged : Bool) (answers : List Value) (world : SystemWorld) : Prop where
  unreached : judged = false → reachesPlanJudge world.history = false
  answers : planVerdicts world.history = answers

def isHeard (judged : Bool) : Request → Bool
  | .sendPrompt _ _ | .waitForIdle _ _ => true
  | request => request.entersPlanJudge && !judged

variable {context : ProductPlanningContext} {judged : Bool} {answers : List Value}
  {sessionId : String}

theorem unreached_next {world : SystemWorld} {request : Request}
    (unreached : reachesPlanJudge world.history = false)
    (other : request.entersPlanJudge = false) :
    reachesPlanJudge (world.next request).history = false := by
  rw [World.next_history, reachesPlanJudge, List.any_cons, World.step_call, other]
  exact unreached

theorem Heard.next {world : SystemWorld} (heard : Heard judged answers world) {request : Request}
    (other : isHeard judged request = false) : Heard judged answers (world.next request) where
  unreached := by
    rintro rfl
    apply unreached_next (heard.unreached rfl)
    cases request <;> first | rfl | simpa [isHeard] using other
  answers := by
    rw [← heard.answers]
    cases request with
    | sendPrompt _ _ | waitForIdle _ _ => cases other
    | _ => rfl

theorem Heard.keeps {α : Type} {program : Program α}
    (uses : Uses (fun request => isHeard judged request = false) program) :
    Leads (Heard judged answers) program fun _ => Heard judged answers := by
  have keeps : Keeps Anything (Heard judged answers) program :=
    uses.keeps fun _ _ other _ heard => heard.next other
  exact keeps.onRaise fun _ _ _ => trivial

theorem ask_ends (prompt : PlanningPrompt) {record : List SystemStep}
    (heard : (judged = false → reachesPlanJudge record = false) ∧ planVerdicts record = answers) :
    Ends (fun result past => (judged = false → reachesPlanJudge past = false) ∧
        planVerdicts past = if prompt.isJudge then answers ++ [result] else answers)
      (ask sessionId prompt) record := by
  refine fun _ _ sent => ?_
  cases sent with
  | error message => trivial
  | ok _ =>
      refine fun _ _ answer => ?_
      cases answer with
      | error message => trivial
      | ok events =>
          obtain ⟨unreached, rfl⟩ := heard
          refine ⟨unreached, ?_⟩
          cases prompt <;> rfl

theorem ask_leads (prompt : PlanningPrompt) :
    Leads (Heard judged answers) (ask sessionId prompt)
      fun result => Heard judged (if prompt.isJudge then answers ++ [result] else answers) :=
  (Ends.triple fun _ => ask_ends prompt).weaken (fun _ heard => ⟨heard.unreached, heard.answers⟩)
    (fun _ _ heard => ⟨heard.1, heard.2⟩) fun _ _ => id

theorem startAgent_leads (step iteration : Nat) {agent : String}
    (other : judged = true ∨ agent ≠ "JUDGE") :
    Leads (Heard judged answers) (context.startAgent sessionId step agent iteration)
      fun _ => Heard judged answers := by
  have unheard : isHeard judged (.writeTask context.task.id (.setCurrentStep step agent)) =
      false := by
    rcases other with rfl | other
    · simp [isHeard]
    · simp [isHeard, Request.entersPlanJudge, other]
  exact Heard.keeps (.bind (.attempt (.call unheard)) fun _ => .call rfl)

theorem selfAnswer_leads (questions : Json) :
    Leads (Heard judged answers) (context.selfAnswer sessionId questions)
      fun _ => Heard judged answers := by
  apply (startAgent_leads 3 0 (.inr (by decide))).bind
  intro _
  apply (Heard.keeps (.ofExcept _)).bind
  intro listed
  apply (ask_leads _).bind
  intro result
  apply Heard.keeps
  split
  · exact .bind (.ofExcept _) fun _ => .bind (.call rfl) fun _ => .pure _
  · exact .pure _

theorem clarifyQuestions_leads (clarify : Value) :
    Leads (Heard judged answers) (context.clarifyQuestions sessionId clarify)
      fun _ => Heard judged answers := by
  apply Triple.ite
  · intro _
    apply Triple.ite
    · exact fun _ => selfAnswer_leads _
    · intro _
      apply Heard.keeps
      refine .bind (.attempt (.call rfl)) fun response => ?_
      split <;> exact .pure _
  · exact fun _ => .pure fun _ => id

theorem makePlan_leads (complexity : Value) :
    Leads (Heard judged answers) (context.makePlan sessionId complexity)
      fun _ => Heard judged answers := by
  apply (startAgent_leads 2 0 (.inr (by decide))).bind
  intro _
  apply (ask_leads _).bind
  intro clarify
  apply (clarifyQuestions_leads clarify).bind
  intro given
  apply (Heard.keeps (.ofExcept _)).bind
  intro clarifications
  apply (startAgent_leads 4 0 (.inr (by decide))).bind
  intro _
  apply (ask_leads _).bind
  intro ux
  apply (startAgent_leads 5 0 (.inr (by decide))).bind
  intro _
  apply (ask_leads _).bind
  intro breakdown
  apply (startAgent_leads 6 0 (.inr (by decide))).bind
  intro _
  apply (ask_leads _).bind
  intro enrich
  exact .pure fun _ => id

theorem isJudge_of_judgePrompt {plan : Plan} {prompt : PlanningPrompt}
    (made : context.judgePrompt plan = .ok prompt) : prompt.isJudge = true := by
  unfold judgePrompt at made
  rcases questions : plan.questions.records with _ | questions <;>
    rcases flows : plan.uxFlows.records with _ | flows <;>
    rcases tasks : plan.plannedTasks.records with _ | tasks <;>
    simp only [questions, flows, tasks] at made <;> try cases made
  split at made <;> cases made <;> rfl

theorem runJudge_leads (iteration : Nat) (plan : Plan) :
    Leads (Heard judged answers) (context.runJudge sessionId iteration plan)
      fun result => Heard true (answers ++ [result]) := by
  have entered : Leads (Heard true answers) (context.startAgent sessionId 7 "JUDGE" iteration)
      fun _ => Heard true answers := startAgent_leads 7 iteration (.inl rfl)
  have reached (world : SystemWorld) (heard : Heard judged answers world) :
      Heard true answers world := ⟨nofun, heard.answers⟩
  apply (entered.before reached).bind
  intro _
  have made : Leads (Heard true answers) (Process.ofExcept (context.judgePrompt plan))
      fun prompt world => prompt.isJudge = true ∧ Heard true answers world := by
    apply Triple.ofExcept
    · exact fun prompt made _ heard => ⟨isJudge_of_judgePrompt made, heard⟩
    · exact fun _ _ _ _ => trivial
  apply made.bind
  intro prompt
  apply Triple.given
  intro isJudge
  apply (ask_leads prompt).bind
  intro result
  rw [isJudge]
  apply (Heard.keeps (.call rfl)).bind
  intro _
  exact .pure fun _ => id

theorem runFix_leads (iteration : Nat) (issues : Json) (plan : Plan) :
    Leads (Heard true answers) (context.runFix sessionId iteration issues plan)
      fun _ => Heard true answers := by
  apply (startAgent_leads 7 iteration (.inl rfl)).bind
  intro _
  apply (Heard.keeps (.ofExcept _)).bind
  intro listed
  apply (ask_leads _).bind
  intro fix
  apply Heard.keeps
  split
  · exact .ofExcept _
  · exact .pure _

theorem judgeLoop_leads (remaining : Nat) (plan : Plan) {revisions : List Value}
    (revised : ∀ answer ∈ revisions, asksForRevision answer = true)
    (bound : revisions.length + remaining = 3) :
    Leads (Heard judged revisions)
      (context.judgeLoop sessionId remaining revisions.length plan)
      fun _ world => EndsJudging (planVerdicts world.history) := by
  induction remaining generalizing revisions plan judged with
  | zero =>
      apply Triple.pure
      intro world heard
      rw [heard.answers]
      exact .inr (bound.ge.trans (List.countP_eq_length.mpr revised).ge)
  | succ remaining ih =>
      apply (runJudge_leads _ plan).bind
      intro result
      cases decided : ProductPlanningContext.decide result with
      | done =>
          dsimp only
          apply Triple.pure
          intro world heard
          rw [heard.answers]
          exact .inl ⟨result, by simp, decided⟩
      | fix issues =>
          dsimp only
          apply (runFix_leads _ issues plan).bind
          intro plan
          have asks := (decide_fix_iff result).mp ⟨issues, decided⟩
          have longer : (revisions ++ [result]).length = revisions.length + 1 := by simp
          rw [← longer]
          apply ih plan
          · intro answer membership
            rcases List.mem_append.mp membership with earlier | last
            · exact revised answer earlier
            · rwa [List.mem_singleton.mp last]
          · rw [longer]
            omega

/-- A call that succeeds did not get to the judge, or ended its rounds. -/
def Judged (result : ProductPlanningResult) (world : SystemWorld) : Prop :=
  result.success = true → reachesPlanJudge world.history = true →
    EndsJudging (planVerdicts world.history)

theorem fullPlanning_leads (complexity : Value) :
    Leads (Heard false []) (context.fullPlanning sessionId complexity) Judged := by
  apply (makePlan_leads complexity).bind
  intro plan
  have looped : Leads (Heard false []) (context.judgeLoop sessionId 3 0 plan)
      fun _ world => EndsJudging (planVerdicts world.history) :=
    judgeLoop_leads 3 plan nofun rfl
  apply looped.bind
  intro plan
  have quiet : Uses (fun request => isHeard true request = false)
      (context.conclude sessionId plan) := by
    refine .bind ?_ fun rejected => .ite ?_ ?_
    · exact .ite (.pure _) (.bind (.attempt (.call rfl)) fun _ => .pure _)
    · exact .bind (.attempt (.call rfl)) fun _ => .pure _
    · exact .bind (.attempt (.call rfl)) fun _ => .bind (.call rfl) fun _ => .pure _
  intro world ended assumed
  have kept := (Heard.keeps quiet) world (⟨nofun, rfl⟩ : Heard true _ world) assumed
  revert kept
  rcases (context.conclude sessionId plan).exec world with ⟨message | result, after⟩
  · exact fun _ => trivial
  · intro heard _ _
    rw [heard.answers]
    exact ended

theorem runSession_leads : Leads (Heard false []) (context.runSession sessionId) Judged := by
  apply (Heard.keeps (.call rfl)).bind
  intro _
  apply (Heard.keeps (SessionRepository.create_uses rfl)).bind
  intro _
  apply (startAgent_leads 1 0 (.inr (by decide))).bind
  intro _
  apply (ask_leads _).bind
  intro complexity
  apply Triple.ite
  · intro _
    apply Triple.pure
    intro world heard _ reached
    rw [heard.unreached rfl] at reached
    cases reached
  · exact fun _ => fullPlanning_leads complexity

theorem runProductPlanningPhase_leads (context : ProductPlanningContext) :
    Leads (Heard false []) (runProductPlanningPhase context) Judged := by
  apply (Heard.keeps (.call rfl)).bind
  intro _
  apply (Heard.keeps (.call rfl)).bind
  intro created
  cases created with
  | error message =>
      apply (Heard.keeps (.call rfl)).bind
      intro _
      exact .pure fun _ _ success => nomatch success
  | ok sessionId =>
      apply Triple.tryCatch runSession_leads
      intro message
      have failing : Leads (fun _ => True) (do
          context.toTask (.phaseFailed .planning message)
          tryCatch (OpenCodeClient.abortSession sessionId) fun _ => pure ()
          pure (context.failure sessionId)) Judged := by
        apply Triple.bind (.nothing)
        intro _
        apply Triple.bind (.nothing)
        intro _
        exact .pure fun _ _ success => nomatch success
      exact failing

end PlanningVerdict

open PlanningVerdict

theorem approvesPlan_of_done {answer : Value} (graded : gradesPlan answer = true)
    (done : ProductPlanningContext.decide answer = .done) : approvesPlan answer = true := by
  have declines : asksForRevision answer = false := by
    by_contra asks
    obtain ⟨issues, fixes⟩ := (decide_fix_iff answer).mpr (by simpa using asks)
    rw [done] at fixes
    cases fixes
  revert graded declines
  unfold gradesPlan asksForRevision declinesPlan approvesPlan
  generalize (answer.member? "score").any (·.toNumber.atLeast 80) = enough
  cases (answer.member? "verdict").isText "approved" <;>
    cases (answer.member? "verdict").isText "rejected" <;> cases enough <;>
      cases (answer.member? "verdict").truthy <;> cases (answer.member? "score").truthy <;>
        cases (answer.member? "issues").nonEmpty <;> simp

/-- When each answer of the judge approves the plan or grades it without rejecting it, and at most
two of them ask for a revision, a phase that got to its judge succeeds only if the judge approved
the plan. -/
theorem planning_succeeds_when_approved (context : ProductPlanningContext) (system : System)
    (choices : Nat → Choice) (result : ProductPlanningResult)
    (returned : ((runProductPlanningPhase context).exec (system.start choices)).1 = .ok result)
    (success : result.success = true)
    (reached : reachesPlanJudge
      ((runProductPlanningPhase context).exec (system.start choices)).2.history = true)
    (graded : ∀ answer ∈ planVerdicts
      ((runProductPlanningPhase context).exec (system.start choices)).2.history,
      gradesPlan answer = true)
    (recovers : (planVerdicts
      ((runProductPlanningPhase context).exec (system.start choices)).2.history).countP
        asksForRevision ≤ 2) :
    (planVerdicts ((runProductPlanningPhase context).exec
      (system.start choices)).2.history).any approvesPlan = true := by
  have fresh : Heard false [] (system.start choices) := ⟨fun _ => rfl, rfl⟩
  have outcome := Triple.outcome (runProductPlanningPhase_leads context) fresh
  revert returned reached graded recovers outcome
  rcases (runProductPlanningPhase context).exec (system.start choices) with ⟨answer, world⟩
  rintro rfl reached graded recovers judged
  rcases judged success reached with ⟨last, isLast, done⟩ | three
  · exact List.any_eq_true.mpr ⟨last, isLast, approvesPlan_of_done (graded last isLast) done⟩
  · exact absurd (three.trans recovers) (by decide)

namespace PlanningSample

/-- The planning of a task that nobody is asked about. -/
def context : ProductPlanningContext where
  task := { id := "42", title := "Login" }
  projectPath := "/work"
  repositories := [Sample.api]
  autoApprove := true
  skipForSimpleTasks := true

def judgedBy (judge : String) : Nat → Choice :=
  script [(1, { text := "ses_p" }),
    (7, .reply "/work" "ses_p" "Not simple." []),
    (11, .reply "/work" "ses_p" "No questions." []),
    (15, .reply "/work" "ses_p" "No flows." []),
    (19, .reply "/work" "ses_p" "No tasks." []),
    (23, .reply "/work" "ses_p" "Nothing to add." []),
    (27, .reply "/work" "ses_p" judge [])]

def rejected : Nat → Choice :=
  judgedBy "```json\n\x7b\"verdict\": \"rejected\", \"score\": 20\x7d\n```"

def approved : Nat → Choice := judgedBy (Sample.verdictText "approved")

end PlanningSample

/-- A plan that the judge rejects: the phase stops asking and succeeds. -/
theorem planning_succeeds_though_rejected :
    PlanningSample.context.autoApprove = true ∧
      ((runProductPlanningPhase PlanningSample.context).exec
        (Sample.project.start PlanningSample.rejected)).1.toOption.any (·.success) = true ∧
      reachesPlanJudge ((runProductPlanningPhase PlanningSample.context).exec
        (Sample.project.start PlanningSample.rejected)).2.history = true ∧
      ¬(planVerdicts ((runProductPlanningPhase PlanningSample.context).exec
        (Sample.project.start PlanningSample.rejected)).2.history).any approvesPlan = true := by
  decide +kernel

theorem planning_succeeds_when_approved_once :
    (planVerdicts ((runProductPlanningPhase PlanningSample.context).exec
      (Sample.project.start PlanningSample.approved)).2.history).any approvesPlan = true := by
  have succeeded : ((runProductPlanningPhase PlanningSample.context).exec
      (Sample.project.start PlanningSample.approved)).1.toOption.any (·.success) = true := by
    decide +kernel
  obtain ⟨result, returned, success⟩ := Process.returned_of_any succeeded
  exact planning_succeeds_when_approved PlanningSample.context Sample.project
    PlanningSample.approved result returned success (by decide +kernel) (by decide +kernel)
    (by decide +kernel)

end MultiAgents
