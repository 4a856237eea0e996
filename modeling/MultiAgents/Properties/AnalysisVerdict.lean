import MultiAgents.Phases.Requests

/-!
# What the Analysis phase accepts

The answers of the session are read off the record of a call: what an answer is
taken for depends on the prompt before it.  The phase succeeds only on the
verdict of its last round, asks for at most three verdicts and saves an analysis
only where it then returns success.
-/

namespace MultiAgents

open Effects Text

/-- What the answer to a prompt is read for. -/
inductive Awaited where
  | stories
  | verdict
  deriving DecidableEq

def AnalysisPrompt.awaits : AnalysisPrompt → Option Awaited
  | .analyst _ _ _ _ _ | .fix _ => some .stories
  | .judge => some .verdict
  | .clarifier _ _ | .selfAnswer _ _ _ | .spy _ _ => none

structure AnalysisReading where
  awaited : Option Awaited := none
  stories : List Story := []
  verdict : Option JudgeResult := none

namespace AnalysisReading

/-- An answer of the session; stories that cannot be read leave the earlier ones in place. -/
def hear (reading : AnalysisReading) (output : String) : AnalysisReading :=
  match reading.awaited with
  | some .stories =>
      { reading with stories := (parseAnalysisJSON output).elim reading.stories Prod.snd }
  | some .verdict => { reading with verdict := some (parseAnalysisVerdict output) }
  | none => reading

def after (reading : AnalysisReading) : SystemStep → AnalysisReading
  | ⟨_, _, .sendPrompt _ (.analysis prompt), _⟩ => { reading with awaited := prompt.awaits }
  | ⟨_, _, .waitForIdle _ _, .ok events⟩ => reading.hear (extractFinalOutput events)
  | _ => reading

end AnalysisReading

def analysisReading : List SystemStep → AnalysisReading
  | [] => {}
  | step :: past => (analysisReading past).after step

/-- The verdict is an approval, or it names no issue, scores at least 50 and there are stories. -/
def JudgeResult.Accepts (judged : JudgeResult) (stories : List Story) : Prop :=
  judged.verdict.isApproved = true ∨
    judged.hasIssues = false ∧ judged.score.toNumber.atLeast 50 = true ∧ stories ≠ []

def Request.isJudgePrompt : Request → Bool
  | .sendPrompt _ (.analysis .judge) => true
  | _ => false

def judgePrompts (record : List SystemStep) : Nat :=
  record.countP fun step => step.call.isJudgePrompt

def analysisSaves (record : List SystemStep) : Nat :=
  record.countP fun step => step.call.savesAnalysis

/-- The analysis and the stories were written. -/
def analysisSaved : SystemStep → Bool
  | ⟨_, _, .writeTask _ (.updateAfterAnalysis _ _ _), .ok _⟩ => true
  | _ => false

namespace AnalysisVerdict

/-- Nothing was saved so far; this many verdicts were asked for and this was read. -/
structure Read (judges : Nat) (reading : AnalysisReading) (world : SystemWorld) : Prop where
  judges : judgePrompts world.history = judges
  saves : analysisSaves world.history = 0
  reading : analysisReading world.history = reading

/-- What holds where the phase throws before it saves anything. -/
def Unsaved (world : SystemWorld) : Prop :=
  judgePrompts world.history ≤ 3 ∧ analysisSaves world.history = 0

def Known (judges : Nat) (stories : List Story) (verdict : Option JudgeResult)
    (world : SystemWorld) : Prop :=
  ∃ awaited, Read judges ⟨awaited, stories, verdict⟩ world

def isReadOff : Request → Bool
  | .sendPrompt _ _ | .waitForIdle _ _ => true
  | request => request.savesAnalysis

variable {context : AnalysisPhaseContext} {judges : Nat} {reading : AnalysisReading}
  {stories : List Story} {verdict : Option JudgeResult} {sessionId : String}

theorem Read.unsaved {world : SystemWorld} (read : Read judges reading world)
    (bound : judges ≤ 3) : Unsaved world :=
  ⟨read.judges.le.trans bound, read.saves⟩

theorem judgePrompts_cons (step : SystemStep) (past : List SystemStep) :
    judgePrompts (step :: past) =
      judgePrompts past + if step.call.isJudgePrompt then 1 else 0 := by
  simp [judgePrompts, List.countP_cons]

theorem analysisSaves_cons (step : SystemStep) (past : List SystemStep) :
    analysisSaves (step :: past) =
      analysisSaves past + if step.call.savesAnalysis then 1 else 0 := by
  simp [analysisSaves, List.countP_cons]

theorem Read.next {world : SystemWorld} (read : Read judges reading world) (request : Request)
    (unsaved : request.savesAnalysis = false) :
    Read (judges + if request.isJudgePrompt then 1 else 0) (reading.after (world.step request))
      (world.next request) where
  judges := by rw [World.next_history, judgePrompts_cons, read.judges, World.step_call]
  saves := by rw [World.next_history, analysisSaves_cons, read.saves, World.step_call, unsaved]; rfl
  reading := by rw [World.next_history, analysisReading, read.reading]

theorem Read.next_other {world : SystemWorld} (read : Read judges reading world)
    {request : Request} (other : isReadOff request = false) :
    Read judges reading (world.next request) := by
  have quiet : request.isJudgePrompt = false ∧ request.savesAnalysis = false ∧
      reading.after (world.step request) = reading := by
    cases request with
    | sendPrompt _ _ | waitForIdle _ _ => cases other
    | writeTask _ change => cases change <;> first | exact ⟨rfl, rfl, rfl⟩ | cases other
    | _ => exact ⟨rfl, rfl, rfl⟩
  simpa [quiet.1, quiet.2.2] using read.next request quiet.2.1

theorem Read.keeps {α : Type} {program : Program α}
    (uses : Uses (fun request => isReadOff request = false) program) :
    Keeps Anything (Read judges reading) program :=
  uses.keeps fun _ _ other _ read => read.next_other other

theorem Read.triple {α : Type} {program : Program α} (bound : judges ≤ 3)
    (uses : Uses (fun request => isReadOff request = false) program) :
    Triple Anything (Read judges reading) program (fun _ => Read judges reading)
      (fun _ => Unsaved) :=
  (Read.keeps uses).onRaise fun _ _ read => read.unsaved bound

theorem Known.triple {α : Type} {program : Program α} (bound : judges ≤ 3)
    (uses : Uses (fun request => isReadOff request = false) program) :
    Triple Anything (Known judges stories verdict) program
      (fun _ => Known judges stories verdict) (fun _ => Unsaved) :=
  .exists_pre fun awaited => (Read.triple bound uses).weaken (fun _ => id)
    (fun _ _ read => ⟨awaited, read⟩) fun _ _ => id

theorem sendPrompt_triple (prompt : AnalysisPrompt)
    (bound : (judges + if prompt.awaits = some .verdict then 1 else 0) ≤ 3) :
    Triple Anything (Read judges reading) (AnalysisPhaseContext.sendPrompt sessionId prompt)
      (fun _ => Read (judges + if prompt.awaits = some .verdict then 1 else 0)
        { reading with awaited := prompt.awaits })
      (fun _ => Unsaved) := by
  apply Triple.attempt
  apply Triple.call
  intro world read _
  have next := read.next (.sendPrompt sessionId (.analysis prompt)) rfl
  have counted : (Request.sendPrompt sessionId (.analysis prompt)).isJudgePrompt =
      decide (prompt.awaits = some .verdict) := by
    cases prompt <;> rfl
  simp only [counted, decide_eq_true_eq] at next
  rcases world.answer (.sendPrompt sessionId (.analysis prompt)) with message | _
  · exact next.unsaved bound
  · exact next

theorem waitForIdle_triple (bound : judges ≤ 3) :
    Triple Anything (Read judges reading) (OpenCodeClient.waitForIdle sessionId none)
      (fun events => Read judges (reading.hear (extractFinalOutput events)))
      (fun _ => Unsaved) := by
  apply Triple.attempt
  apply Triple.call
  intro world read _
  have next := read.next (.waitForIdle sessionId none) rfl
  rcases answered : world.answer (.waitForIdle sessionId none) with message | events
  · exact next.unsaved bound
  · have heard : reading.after (world.step (.waitForIdle sessionId none)) =
        reading.hear (extractFinalOutput events) := by
      simp only [World.step, answered, AnalysisReading.after]
    rwa [heard] at next

theorem ask_triple (prompt : AnalysisPrompt)
    (bound : (judges + if prompt.awaits = some .verdict then 1 else 0) ≤ 3) :
    Triple Anything (Read judges reading) (AnalysisPhaseContext.ask sessionId prompt)
      (fun output => Read (judges + if prompt.awaits = some .verdict then 1 else 0)
        (AnalysisReading.hear { reading with awaited := prompt.awaits } output))
      (fun _ => Unsaved) := by
  apply (sendPrompt_triple prompt bound).bind
  intro _
  apply (waitForIdle_triple bound).bind
  intro events
  exact .pure fun _ => id

theorem ask_other (prompt : AnalysisPrompt) (bound : judges ≤ 3) (other : prompt.awaits = none) :
    Triple Anything (Known judges stories verdict) (AnalysisPhaseContext.ask sessionId prompt)
      (fun _ => Known judges stories verdict) (fun _ => Unsaved) := by
  apply Triple.exists_pre
  intro awaited
  apply (ask_triple prompt (by simpa [other] using bound)).weaken (fun _ => id) _ (fun _ _ => id)
  intro output world read
  rw [other] at read
  exact ⟨none, read⟩

theorem startAgent_uses (step iteration : Nat) (agent : String) :
    Uses (fun request => isReadOff request = false)
      (context.startAgent sessionId step agent iteration) :=
  .bind (.attempt (.call rfl)) fun _ => .call rfl

theorem selfAnswer_triple (questions assumptions : Json) (bound : judges ≤ 3) :
    Triple Anything (Known judges stories verdict)
      (context.selfAnswer sessionId questions assumptions)
      (fun _ => Known judges stories verdict) (fun _ => Unsaved) := by
  apply (Known.triple bound (startAgent_uses _ _ _)).bind
  intro _
  apply (Known.triple bound (AnalysisPhaseContext.checkPlan_uses _)).bind
  intro _
  apply (Known.triple bound (.ofExcept _)).bind
  intro listed
  apply (ask_other _ bound rfl).bind
  intro output
  apply Known.triple bound
  split
  · exact .bind (.ofExcept _) fun _ => .bind (.call rfl) fun _ => .pure _
  · exact .ofExcept _

theorem askQuestions_uses (questions assumptions : Json) :
    Uses (fun request => isReadOff request = false)
      (context.askQuestions questions assumptions) := by
  apply Uses.tryCatch
  · refine .bind (.attempt (.call rfl)) fun response => ?_
    split
    · exact .bind (.call rfl) fun _ => .pure _
    · exact .bind (.ofExcept _) fun _ => .bind (.call rfl) fun _ => .pure _
  · exact fun _ => .ofExcept _

theorem answerQuestions_triple (questions assumptions : Json) (bound : judges ≤ 3) :
    Triple Anything (Known judges stories verdict)
      (context.answerQuestions sessionId questions assumptions)
      (fun _ => Known judges stories verdict) (fun _ => Unsaved) :=
  .ite (fun _ => selfAnswer_triple _ _ bound) fun _ => Known.triple bound (askQuestions_uses _ _)

theorem clarify_triple (bound : judges ≤ 3) :
    Triple Anything (Known judges stories verdict) (context.clarify sessionId)
      (fun _ => Known judges stories verdict) (fun _ => Unsaved) := by
  apply (Known.triple bound (startAgent_uses _ _ _)).bind
  intro _
  apply (Known.triple bound (AnalysisPhaseContext.checkPlan_uses _)).bind
  intro _
  apply (ask_other _ bound rfl).bind
  intro output
  split
  · exact (answerQuestions_triple _ _ bound).bind fun _ => .pure fun _ => id
  · exact .pure fun _ => id

theorem promptAnalyst_triple (clarifications : Option String) {awaited : Option Awaited}
    (prompted : judges = 0 ∨ awaited = some .stories) (bound : judges ≤ 3) :
    Triple Anything (Read judges ⟨awaited, stories, verdict⟩)
      (context.promptAnalyst sessionId clarifications (judges + 1))
      (fun _ => Read judges ⟨some .stories, stories, verdict⟩) (fun _ => Unsaved) := by
  apply Triple.ite
  · intro _
    apply (Read.triple bound (startAgent_uses _ _ _)).bind
    intro _
    apply (Read.triple bound (AnalysisPhaseContext.checkPlan_uses _)).bind
    intro _
    exact sendPrompt_triple _ bound
  · intro later
    obtain rfl : awaited = some .stories := prompted.resolve_left (by omega)
    exact .pure fun _ => id

theorem runAnalyst_triple (clarifications : Option String) (progress : AnalysisProgress)
    {awaited : Option Awaited} (prompted : judges = 0 ∨ awaited = some .stories)
    (bound : judges ≤ 3) :
    Triple Anything (Read judges ⟨awaited, progress.stories, verdict⟩)
      (context.runAnalyst sessionId clarifications (judges + 1) progress)
      (fun next world => next.approved = progress.approved ∧
        Known judges next.stories verdict world)
      (fun _ => Unsaved) := by
  apply (promptAnalyst_triple clarifications prompted bound).bind
  intro _
  apply (waitForIdle_triple bound).bind
  intro events
  apply (Read.triple bound (.call rfl)).bind
  intro _
  cases parsed : parseAnalysisJSON (extractFinalOutput events) with
  | none =>
      apply Triple.pure
      intro world read
      refine ⟨rfl, some .stories, ?_⟩
      simpa only [AnalysisReading.hear, parsed, Option.elim_none] using read
  | some found =>
      apply Triple.pure
      intro world read
      refine ⟨rfl, some .stories, ?_⟩
      simpa only [AnalysisReading.hear, parsed, Option.elim_some] using read

theorem runJudge_triple (iteration : Nat) (bound : judges + 1 ≤ 3) :
    Triple Anything (Known judges stories verdict) (context.runJudge sessionId iteration)
      (fun judged => Known (judges + 1) stories (some judged)) (fun _ => Unsaved) := by
  apply (Known.triple (by omega) (startAgent_uses _ _ _)).bind
  intro _
  apply Triple.exists_pre
  intro awaited
  apply (ask_triple .judge bound).bind
  intro output
  apply (Read.triple bound (.call rfl)).bind
  intro _
  exact .pure fun _ read => ⟨some .verdict, read⟩

theorem runSpy_triple (iteration : Nat) (progress : AnalysisProgress) (bound : judges ≤ 3) :
    Triple Anything (Known judges progress.stories verdict)
      (context.runSpy sessionId iteration progress)
      (fun next world => (next.approved = progress.approved ∧ next.stories = progress.stories) ∧
        Known judges next.stories verdict world)
      (fun _ => Unsaved) := by
  apply (Known.triple bound (startAgent_uses _ _ _)).bind
  intro _
  apply (ask_other _ bound rfl).bind
  intro output
  apply (Known.triple bound (.ofExcept _)).bind
  intro found
  apply (Known.triple bound (.call rfl)).bind
  intro _
  exact .pure fun _ known => ⟨⟨rfl, rfl⟩, known⟩

theorem judgeRound_triple (remaining iteration : Nat) (judged : JudgeResult)
    (bound : judges ≤ 3) :
    Triple Anything (Known judges stories (some judged))
      (context.judgeRound sessionId remaining iteration stories judged)
      (fun approved world => (approved = true → judged.Accepts stories) ∧
        ∃ awaited, (approved = false → remaining = 0 ∨ awaited = some .stories) ∧
          Read judges ⟨awaited, stories, some judged⟩ world)
      (fun _ => Unsaved) := by
  apply Triple.ite
  · intro isApproved
    apply Triple.pure
    rintro world ⟨awaited, read⟩
    exact ⟨fun _ => .inl isApproved, awaited, nofun, read⟩
  intro unapproved
  apply Triple.ite
  · intro hasIssues
    apply Triple.exists_pre
    intro awaited
    have fixing : Triple Anything (Read judges ⟨awaited, stories, some judged⟩)
        (context.runFix sessionId iteration judged.issues)
        (fun _ => Read judges ⟨some .stories, stories, some judged⟩) (fun _ => Unsaved) := by
      apply (Read.triple bound (startAgent_uses _ _ _)).bind
      intro _
      apply (Read.triple bound (.ofExcept _)).bind
      intro listed
      exact sendPrompt_triple _ bound
    apply fixing.bind
    intro _
    exact .pure fun _ read => ⟨nofun, some .stories, fun _ => .inr rfl, read⟩
  intro noIssues
  apply Triple.ite
  · intro acceptable
    simp only [Bool.and_eq_true, Bool.not_eq_true', List.isEmpty_eq_false_iff] at acceptable
    apply Triple.pure
    rintro world ⟨awaited, read⟩
    refine ⟨fun _ => .inr ⟨?_, acceptable.2, acceptable.1⟩, awaited, nofun, read⟩
    simpa using noIssues
  · intro _
    apply Triple.exists_pre
    intro awaited
    have retrying : Triple Anything (Read judges ⟨awaited, stories, some judged⟩)
        (context.retry sessionId remaining iteration)
        (fun _ world => ∃ awaited, (remaining = 0 ∨ awaited = some .stories) ∧
          Read judges ⟨awaited, stories, some judged⟩ world) (fun _ => Unsaved) := by
      apply Triple.ite
      · exact fun last => .pure fun _ read => ⟨awaited, .inl last, read⟩
      · intro _
        apply (Read.triple bound (.call rfl)).bind
        intro _
        apply (sendPrompt_triple _ bound).weaken (fun _ => id) _ fun _ _ => id
        exact fun _ _ read => ⟨some .stories, .inr rfl, read⟩
    apply retrying.bind
    intro _
    apply Triple.pure
    rintro world ⟨awaited, prompted, read⟩
    exact ⟨nofun, awaited, fun _ => prompted, read⟩

/-- What the loop leaves behind: an approval has a verdict, the last one, that allows it. -/
def Judged (progress : AnalysisProgress) (world : SystemWorld) : Prop :=
  ∃ judges reading, judges ≤ 3 ∧
    (progress.approved = true →
      ∃ judged, reading.verdict = some judged ∧ judged.Accepts reading.stories) ∧
    Read judges reading world

theorem analysisLoop_triple (clarifications : Option String) (remaining : Nat)
    (progress : AnalysisProgress) (unapproved : progress.approved = false)
    {awaited : Option Awaited}
    (prompted : judges = 0 ∨ remaining = 0 ∨ awaited = some .stories)
    (bound : judges + remaining ≤ 3) :
    Triple Anything (Read judges ⟨awaited, progress.stories, verdict⟩)
      (context.analysisLoop sessionId clarifications remaining judges progress)
      Judged (fun _ => Unsaved) := by
  induction remaining generalizing judges progress awaited verdict with
  | zero =>
      apply Triple.pure
      intro world read
      exact ⟨judges, _, bound, by simp [unapproved], read⟩
  | succ remaining ih =>
      have current : judges = 0 ∨ awaited = some .stories := by simpa using prompted
      apply (runAnalyst_triple clarifications progress current (by omega)).bind
      intro analysed
      apply Triple.given
      intro stillUnapproved
      apply (runJudge_triple _ (by omega)).bind
      intro judged
      apply (runSpy_triple _ analysed (by omega)).bind
      intro spied
      apply Triple.given
      rintro ⟨sameApproval, _⟩
      apply (judgeRound_triple remaining _ judged (by omega)).bind
      intro approved
      apply Triple.given
      intro accepts
      apply Triple.exists_pre
      intro next
      apply Triple.given
      intro prompts
      cases approved with
      | true =>
          apply Triple.pure
          intro world read
          exact ⟨judges + 1, _, by omega, fun _ => ⟨judged, rfl, accepts rfl⟩, read⟩
      | false =>
          apply ih spied
          · rw [sameApproval, stillUnapproved, unapproved]
          · exact .inr (prompts rfl)
          · omega

theorem Judged.keeps {α : Type} {program : Program α} {progress : AnalysisProgress}
    (uses : Uses (fun request => isReadOff request = false) program) :
    Triple Anything (Judged progress) program (fun _ => Judged progress) (fun _ => Unsaved) := by
  apply Triple.exists_pre
  intro judges
  apply Triple.exists_pre
  intro reading
  apply Triple.given
  intro bound
  apply Triple.given
  intro accepted
  exact (Read.triple bound uses).weaken (fun _ => id)
    (fun _ _ read => ⟨judges, reading, bound, accepted, read⟩) fun _ _ => id

structure Settled (success : Bool) (world : SystemWorld) : Prop where
  judges : judgePrompts world.history ≤ 3
  saves : analysisSaves world.history ≤ 1
  saved : ∀ step ∈ world.history, analysisSaved step = true → success = true
  accepted : success = true → ∃ judged,
    (analysisReading world.history).verdict = some judged ∧
      judged.Accepts (analysisReading world.history).stories

/-- What holds wherever the phase throws. -/
structure Thrown (world : SystemWorld) : Prop where
  judges : judgePrompts world.history ≤ 3
  saves : analysisSaves world.history ≤ 1
  saved : ∀ step ∈ world.history, analysisSaved step = false

theorem savesAnalysis_of_saved {step : SystemStep} (saved : analysisSaved step = true) :
    step.call.savesAnalysis = true := by
  unfold analysisSaved at saved
  split at saved
  · rfl
  · cases saved

theorem Unsaved.saved {world : SystemWorld} (unsaved : Unsaved world) (step : SystemStep)
    (membership : step ∈ world.history) : analysisSaved step = false := by
  have none := List.countP_eq_zero.mp unsaved.2 step membership
  by_contra saved
  exact none (savesAnalysis_of_saved (by simpa using saved))

theorem Unsaved.thrown {world : SystemWorld} (unsaved : Unsaved world) : Thrown world :=
  ⟨unsaved.1, by rw [unsaved.2]; omega, unsaved.saved⟩

theorem Judged.settled {world : SystemWorld} {progress : AnalysisProgress}
    (judged : Judged progress world) : Settled progress.approved world := by
  obtain ⟨judges, reading, bound, accepted, read⟩ := judged
  have unsaved := read.unsaved bound
  refine ⟨unsaved.1, by rw [unsaved.2]; omega, ?_, ?_⟩
  · intro step membership saved
    rw [unsaved.saved step membership] at saved
    cases saved
  · rw [read.reading]
    exact accepted

theorem saveAnalysis_triple (branchName : String) (progress : AnalysisProgress) :
    Triple Anything (Judged progress) (context.saveAnalysis branchName progress)
      (fun _ => Settled progress.approved) (fun _ => Thrown) := by
  apply Triple.ite
  · intro approved
    rw [Bool.and_eq_true] at approved
    apply Triple.attempt
    apply Triple.call
    intro world holds _
    have settled := holds.settled
    obtain ⟨judges, reading, bound, accepted, read⟩ := holds
    have unsaved := read.unsaved bound
    have asked : judgePrompts (world.next (.writeTask context.task.id (.updateAfterAnalysis
        branchName progress.analysis progress.stories))).history ≤ 3 := by
      rw [World.next_history, judgePrompts_cons]
      exact unsaved.1
    have once : analysisSaves (world.next (.writeTask context.task.id (.updateAfterAnalysis
        branchName progress.analysis progress.stories))).history ≤ 1 := by
      rw [World.next_history, analysisSaves_cons, read.saves]
      exact le_rfl
    rcases answered : world.answer (.writeTask context.task.id (.updateAfterAnalysis
      branchName progress.analysis progress.stories)) with message | _
    · refine ⟨asked, once, ?_⟩
      intro step membership
      rcases List.mem_cons.mp membership with rfl | earlier
      · simp only [World.step, answered, analysisSaved]
      · exact unsaved.saved step earlier
    · exact ⟨asked, once, fun _ _ _ => approved.1, settled.accepted⟩
  · intro _
    exact .pure fun _ holds => holds.settled

theorem Settled.tell {success : Bool} {world : SystemWorld} (settled : Settled success world)
    (taskId : String) (notice : Notice) : Settled success (world.next (.toTask taskId notice)) := by
  refine ⟨?_, ?_, ?_, settled.accepted⟩
  · rw [World.next_history, judgePrompts_cons]
    exact settled.judges
  · rw [World.next_history, analysisSaves_cons]
    exact settled.saves
  · intro step membership saved
    rcases List.mem_cons.mp membership with rfl | earlier
    · cases saved
    · exact settled.saved step earlier saved

theorem thrown {α : Type} {program : Program α} {pre : SystemWorld → Prop}
    {returned : α → SystemWorld → Prop}
    (triple : Triple Anything pre program returned (fun _ => Unsaved)) :
    Triple Anything pre program returned (fun _ => Thrown) :=
  triple.onRaise fun _ _ => Unsaved.thrown

theorem runSession_triple (branchName : String) :
    Triple Anything (Read 0 {}) (context.runSession sessionId branchName)
      (fun result => Settled result.success) (fun _ => Thrown) := by
  apply (thrown (Read.triple (Nat.zero_le 3) (.call rfl))).bind
  intro _
  refine Triple.bind (thrown (Read.triple (Nat.zero_le 3) (.attempt (.call rfl)))) fun _ => ?_
  apply (thrown (Read.triple (Nat.zero_le 3) (.call rfl))).bind
  intro _
  apply (thrown ((clarify_triple (Nat.zero_le 3)).before fun _ read => ⟨none, read⟩)).bind
  intro clarifications
  apply Triple.exists_pre
  intro awaited
  apply (thrown (analysisLoop_triple clarifications 3 {} rfl (.inl rfl) le_rfl)).bind
  intro progress
  apply (thrown (Judged.keeps
    (AnalysisPhaseContext.describeBranch_uses (fun _ _ => rfl) _))).bind
  intro _
  apply (thrown (Judged.keeps
    (AnalysisPhaseContext.commitAnalysis_uses (fun _ _ => rfl) _))).bind
  intro _
  refine Triple.bind (thrown (Judged.keeps (.attempt (.call rfl)))) fun _ => ?_
  apply (thrown (Judged.keeps (.call rfl))).bind
  intro _
  apply (saveAnalysis_triple branchName progress).bind
  intro _
  have told : Triple Anything (Settled progress.approved)
      (context.toTask (.phaseComplete .analysis progress.approved))
      (fun _ => Settled progress.approved) (fun _ => Thrown) :=
    .call fun _ settled _ => settled.tell _ _
  apply told.bind
  intro _
  exact .pure fun _ => id

theorem executeAnalysisPhase_triple (context : AnalysisPhaseContext) :
    Triple Anything (Read 0 {}) (executeAnalysisPhase context)
      (fun result => Settled result.success) (fun _ => Thrown) := by
  apply (thrown (Read.triple (Nat.zero_le 3)
    (AnalysisPhaseContext.checkoutBranch_uses fun _ _ => rfl))).bind
  intro branch
  cases branch with
  | error message =>
      apply Triple.pure
      intro world read
      have unapproved : Judged {} world := ⟨0, {}, Nat.zero_le 3, nofun, read⟩
      exact unapproved.settled
  | ok branchName =>
      apply (thrown (Read.triple (Nat.zero_le 3) (.call rfl))).bind
      intro _
      refine Triple.bind (thrown (Read.triple (Nat.zero_le 3) (.attempt (.call rfl)))) fun _ => ?_
      exact runSession_triple branchName

end AnalysisVerdict

open AnalysisVerdict in
/-- For every stream of agent outputs. -/
theorem analysis_accepted_by_last_verdict (context : AnalysisPhaseContext) (system : System)
    (choices : Nat → Choice) :
    let run := (executeAnalysisPhase context).exec (system.start choices)
    let reading := analysisReading run.2.history
    (∀ result, run.1 = .ok result → result.success = true →
      ∃ judged, reading.verdict = some judged ∧
        (judged.verdict.isApproved = true ∨
          judged.hasIssues = false ∧ judged.score.toNumber.atLeast 50 = true ∧
            reading.stories ≠ [])) ∧
    judgePrompts run.2.history ≤ 3 ∧
    analysisSaves run.2.history ≤ 1 ∧
    ∀ step ∈ run.2.history, analysisSaved step = true →
      ∃ result, run.1 = .ok result ∧ result.success = true := by
  intro run reading
  have initial : Read 0 {} (system.start choices) := ⟨rfl, rfl, rfl⟩
  have outcome : Outcome _ _ run := (executeAnalysisPhase_triple context).outcome initial
  clear_value run
  rcases run with ⟨message | value, world⟩
  · refine ⟨nofun, outcome.judges, outcome.saves, ?_⟩
    intro step membership saved
    rw [outcome.saved step membership] at saved
    cases saved
  · refine ⟨?_, outcome.judges, outcome.saves, ?_⟩
    · intro result returned success
      cases returned
      exact outcome.accepted success
    · intro step membership saved
      exact ⟨value, rfl, outcome.saved step membership saved⟩

end MultiAgents
