import MultiAgents.Phases.Developer.Requests
import MultiAgents.Properties.Sample

/-!
# What approves a story

A story should be approved by the JSON verdict in the agent's answer to the last
JUDGE prompt.  The loop looks at the last text among all events of the session,
and takes every verdict that is not "rejected" and lists no issues for an
approval.
-/

namespace MultiAgents

open Effects Text

/-- How far the last JUDGE prompt got: not sent; sent when `earlier` had been collected for the
session; or answered, with all events the wait for it returned. -/
inductive JudgeRound where
  | unasked
  | asked (earlier : List OpenCodeEvent)
  | answered (earlier events : List OpenCodeEvent)

namespace JudgeRound

def advance (step : SystemStep) (round : JudgeRound) : JudgeRound :=
  match step with
  | ⟨before, _, .sendPrompt sessionId (.developer (.judge _)), .ok _⟩ =>
      .asked (before.bridge.collectedEvents sessionId)
  | ⟨_, _, .waitForIdle _ _, .ok events⟩ =>
      match round with
      | .asked earlier => .answered earlier events
      | round => round
  | _ => round

def isAnswered : JudgeRound → Bool
  | .answered _ _ => true
  | _ => false

/-- The text written in answer to the prompt, empty when there is none. -/
def answer : JudgeRound → String
  | .answered earlier events => extractFinalOutput (events.drop earlier.length)
  | _ => ""

/-- The last text that was there before the prompt. -/
def stale : JudgeRound → String
  | .answered earlier _ => extractFinalOutput earlier
  | _ => ""

end JudgeRound

def judgeRound (history : List SystemStep) : JudgeRound :=
  history.foldr JudgeRound.advance .unasked

def carriesApproval (text : String) : Bool :=
  (jsonData? text).any fun data => Value.isText (data.property "verdict") "approved"

/-- The session of a story is recorded as completed, as it is once its loop ends without an
error. -/
def completesSession : SystemStep → Bool
  | ⟨_, _, .writeSession (.updateStatus _ status), .ok _⟩ => status == "completed"
  | _ => false

def sessionCompleted (history : List SystemStep) : Bool :=
  history.any completesSession

def ApprovedByJudge : Except String StoryExecutionResult × SystemWorld → Prop
  | (.ok result, world) =>
      result.verdict.isApproved = true → carriesApproval (judgeRound world.history).answer = true
  | (.error _, _) => True

instance : DecidablePred ApprovedByJudge
  | (.ok _, _) => inferInstanceAs (Decidable (_ → _))
  | (.error _, _) => .isTrue trivial

namespace JudgeResult

/-- What the loop takes for an approval. -/
def isAccepted (judged : JudgeResult) : Bool :=
  judged.verdict.isApproved || (!judged.verdict.isRejected && !judged.hasIssues)

end JudgeResult

/-- The story is approved only in a completed session whose last JUDGE prompt was answered, with
nothing in the answer that can be read and asks for more work. -/
def AcceptedByJudge : Except String StoryExecutionResult × SystemWorld → Prop
  | (.ok result, world) =>
      result.verdict.isApproved = true →
        sessionCompleted world.history = true ∧ (judgeRound world.history).isAnswered = true ∧
          ∀ data ∈ jsonData? (judgeRound world.history).answer,
            (JudgeResult.ofData data).isAccepted = true
  | (.error _, _) => True

namespace JudgeVerdict

theorem text?_ne_empty {event : OpenCodeEvent} {text : String}
    (found : event.text? = some text) : text ≠ "" := by
  unfold OpenCodeEvent.text? at found
  split at found
  · split at found
    · split at found
      · simpa using (Option.filter_eq_some_iff.mp found).2
      · cases found
    · cases found
  · cases found

theorem foldl_text (events : List OpenCodeEvent) (start : String) :
    events.foldl (fun output event => event.text?.getD output) start =
      if extractFinalOutput events = "" then start else extractFinalOutput events := by
  unfold extractFinalOutput
  induction events generalizing start with
  | nil => simp
  | cons event rest ih =>
      cases found : event.text? with
      | none => simpa [found] using ih start
      | some text =>
          simp only [List.foldl_cons, found, Option.getD_some]
          rw [if_neg]
          rw [ih text]
          split
          · exact text?_ne_empty found
          · assumption

theorem extractFinalOutput_append (earlier later : List OpenCodeEvent) :
    extractFinalOutput (earlier ++ later) =
      if extractFinalOutput later = "" then extractFinalOutput earlier
      else extractFinalOutput later := by
  rw [extractFinalOutput, List.foldl_append, foldl_text]
  rfl

variable {assume : Assumption environment}

/-- The last JUDGE prompt was sent when the collected events of its session began like this. -/
def Asked (sessionId : String) (world : SystemWorld) : Prop :=
  ∃ earlier, judgeRound world.history = .asked earlier ∧
    earlier <+: world.state.bridge.collectedEvents sessionId

/-- The last JUDGE prompt was answered, and this is what was read from the events. -/
def Answered (judged : JudgeResult) (world : SystemWorld) : Prop :=
  ∃ earlier events, judgeRound world.history = .answered earlier events ∧ earlier <+: events ∧
    judged = parseJudgeVerdict (extractFinalOutput events)

def isJudgePrompt : Request → Bool
  | .sendPrompt _ (.developer (.judge _)) => true
  | _ => false

theorem Answered.next {judged : JudgeResult} {world : SystemWorld} {request : Request}
    (answered : Answered judged world) (other : isJudgePrompt request = false) :
    Answered judged (world.next request) := by
  obtain ⟨earlier, events, round, grown, read⟩ := answered
  refine ⟨earlier, events, ?_, grown, read⟩
  rw [World.next_history, judgeRound, List.foldr_cons, ← judgeRound, round]
  cases request with
  | sendPrompt sessionId prompt =>
      cases prompt with
      | developer prompt =>
          cases prompt with
          | judge story => simp [isJudgePrompt] at other
          | _ => rfl
      | _ => rfl
  | waitForIdle sessionId timeout =>
      unfold World.step
      rcases world.answer (.waitForIdle sessionId timeout) with _ | _ <;> rfl
  | _ => rfl

theorem Answered.triple {α : Type} {judged : JudgeResult} {program : Program α}
    (uses : Uses (fun request => isJudgePrompt request = false) program) :
    Triple assume (Answered judged) program (fun _ => Answered judged) (fun _ _ => True) :=
  Triple.onRaise (uses.keeps fun _ _ other _ answered => answered.next other) fun _ _ _ => trivial

theorem sendJudge_triple (sessionId : String) (story : Story) :
    Triple assume (fun _ => True)
      (OpenCodeClient.sendPrompt sessionId (.developer (.judge story)))
      (fun _ => Asked sessionId) (fun _ _ => True) := by
  refine .attempt (.call fun world _ _ => ?_)
  rcases answered : world.answer (.sendPrompt sessionId (.developer (.judge story))) with
    message | _
  · trivial
  · refine ⟨world.state.bridge.collectedEvents sessionId, ?_, ?_⟩
    · rw [World.next_history, judgeRound, List.foldr_cons]
      rw [World.step_of_answer answered]
      rfl
    · have heard : (world.next (.sendPrompt sessionId (.developer (.judge story)))).state.bridge =
          world.state.bridge.deliverAll world.choice.arrivals := by
        simp only [World.next, System.serve, System.edit, System.respond]
        cases world.choice.fault <;> rfl
      rw [heard]
      exact Bridge.deliverAll_collectedEvents _ _ _

theorem waitForJudge_triple (sessionId : String) (timeout : Option Nat) :
    Triple assume (Asked sessionId) (OpenCodeClient.waitForIdle sessionId timeout)
      (fun events => Answered (parseJudgeVerdict (extractFinalOutput events)))
      (fun _ _ => True) := by
  refine .attempt (.call fun world asked _ => ?_)
  obtain ⟨earlier, round, grown⟩ := asked
  rcases answered : world.answer (.waitForIdle sessionId timeout) with message | events
  · trivial
  · refine ⟨earlier, events, ?_, ?_, rfl⟩
    · rw [World.next_history, judgeRound, List.foldr_cons, ← judgeRound, round]
      rw [World.step_of_answer answered]
      rfl
    · have returned : (world.state.bridge.waitForSessionIdle sessionId
          (timeout.getD 1800000) world.choice.arrivals).1 = .ok events := by
        rw [← answered, SystemWorld.answer_eq _ rfl]
        unfold System.respond
        cases world.choice.fault <;> rfl
      exact grown.trans (Bridge.waitForSessionIdle_collectedEvents returned)

variable {context : StoryContext} {sessionId : String}

def Running (world : SystemWorld) : Prop := sessionCompleted world.history = false

def isCompletion : Request → Bool
  | .writeSession (.updateStatus _ status) => status == "completed"
  | _ => false

theorem Running.next {world : SystemWorld} {request : Request} (running : Running world)
    (other : completesSession (world.step request) = false) : Running (world.next request) := by
  rw [Running, World.next_history, sessionCompleted, List.any_cons, other, Bool.false_or]
  exact running

theorem completesSession_other {world : SystemWorld} {request : Request}
    (other : isCompletion request = false) : completesSession (world.step request) = false := by
  cases request with
  | writeSession write =>
      unfold World.step
      cases write with
      | create _ _ _ _ _ => rfl
      | updateStatus _ status =>
          rcases world.answer _ with _ | _
          · rfl
          · exact other
  | _ => rfl

theorem Running.keeps {α : Type} {program : Program α}
    (uses : Uses (fun request => isCompletion request = false) program) :
    Keeps assume Running program :=
  uses.keeps fun _ _ other _ running => running.next (completesSession_other other)

theorem runJudge_triple (iteration : Nat) :
    Triple assume (fun _ => True) (context.runJudge sessionId iteration)
      (fun outcome => Answered outcome.1) (fun _ _ => True) := by
  refine Triple.nothing.bind fun _ => (sendJudge_triple sessionId context.story).bind fun _ => ?_
  refine (waitForJudge_triple sessionId none).bind fun events => ?_
  exact (Answered.triple (.call rfl)).bind fun _ => .pure fun _ => id

theorem runIteration_triple (progress : StoryProgress) :
    Triple assume (fun _ => True) (context.runIteration sessionId progress)
      (fun progress => Answered progress.judged) (fun _ _ => True) := by
  refine Triple.nothing.bind fun _ => (runJudge_triple _).bind fun outcome => ?_
  have spied : Uses (fun request => isJudgePrompt request = false)
      (context.runSpy sessionId (progress.iterations + 1)) :=
    .bind (.call rfl) fun _ => .bind (OpenCodeClient.sendPrompt_uses rfl) fun _ =>
      .bind (OpenCodeClient.waitForIdle_uses rfl) fun _ =>
        .bind (.ofExcept _) fun _ => .bind (.call rfl) fun _ => .pure _
  exact (Answered.triple spied).bind fun _ => .pure fun _ => id

/-- The verdict the loop ends with is its reading of the answer to the last JUDGE prompt. -/
def Settled (progress : StoryProgress) (world : SystemWorld) : Prop :=
  ∃ judged, Answered judged world ∧ progress.judged.verdict.isApproved = judged.isAccepted

theorem round_triple {remaining : Nat}
    (again : ∀ progress, progress.judged.verdict.isApproved = false →
      progress.judged.hasIssues = true →
      Triple assume (Answered progress.judged) (context.iterate sessionId remaining progress)
        Settled (fun _ _ => True)) (progress : StoryProgress) :
    Triple assume (fun _ => True) (context.iterate sessionId (remaining + 1) progress)
      Settled (fun _ _ => True) := by
  refine (runIteration_triple progress).bind fun progress => ?_
  split
  · rename_i approved
    exact .pure fun _ answered =>
      ⟨_, answered, by simp [JudgeResult.isAccepted, approved, Verdict.isApproved]⟩
  · rename_i rejected
    refine .pure fun _ answered => ⟨_, answered, ?_⟩
    simp [JudgeResult.isAccepted, rejected, Verdict.isApproved, Verdict.isRejected]
  · rename_i notApproved notRejected
    have unapproved := Verdict.isApproved_eq_false notApproved
    refine .ite (fun issues => ?_) fun noIssues => ?_
    · have fixed : Uses (fun request => isJudgePrompt request = false)
          (context.runFix sessionId progress.iterations progress.judged.issues) :=
        .bind (.call rfl) fun _ => .bind (.ofExcept _) fun _ =>
          OpenCodeClient.sendPrompt_uses rfl
      exact (Answered.triple fixed).bind fun _ => again progress unapproved issues
    · have unrejected := Verdict.isRejected_eq_false notRejected
      refine .pure fun _ answered => ⟨_, answered, ?_⟩
      simp [JudgeResult.isAccepted, unrejected, noIssues, Verdict.isApproved]

theorem iterate_triple (remaining : Nat) (progress : StoryProgress) :
    Triple assume (fun _ => True) (context.iterate sessionId (remaining + 1) progress)
      Settled (fun _ _ => True) := by
  induction remaining generalizing progress with
  | zero =>
      refine round_triple (fun progress unapproved issues => ?_) progress
      refine .pure fun _ answered => ⟨_, answered, ?_⟩
      simp [JudgeResult.isAccepted, unapproved, issues]
  | succ remaining ih =>
      exact round_triple (fun progress _ _ =>
        (ih progress).before fun _ _ => trivial) progress

def Finished (progress : StoryProgress) (world : SystemWorld) : Prop :=
  sessionCompleted world.history = true ∧ Settled progress world

theorem Finished.next {progress : StoryProgress} {world : SystemWorld} {request : Request}
    (finished : Finished progress world) (other : isJudgePrompt request = false) :
    Finished progress (world.next request) := by
  obtain ⟨completed, judged, answered, verdict⟩ := finished
  refine ⟨?_, judged, answered.next other, verdict⟩
  rw [World.next_history, sessionCompleted, List.any_cons, Bool.or_eq_true]
  exact .inr completed

theorem complete_triple (progress : StoryProgress) (sessionId : String) :
    Triple assume (fun world => Running world ∧ Settled progress world)
      (SessionRepository.updateStatus sessionId "completed")
      (fun _ => Finished progress) (fun _ => Running) := by
  refine .attempt (.call ?_)
  rintro world ⟨running, judged, answered, verdict⟩ _
  rcases result : world.answer (.writeSession (.updateStatus sessionId "completed")) with
    message | _
  · refine running.next ?_
    rw [World.step_of_answer result]
    rfl
  · refine ⟨?_, judged, answered.next rfl, verdict⟩
    rw [World.next_history, sessionCompleted, List.any_cons, Bool.or_eq_true]
    rw [World.step_of_answer result]
    exact .inl rfl

theorem runSession_triple (sessionId : String) :
    Triple assume Running (context.runSession sessionId)
      (fun result world => sessionCompleted world.history = true ∧
        ∃ judged, Answered judged world ∧ result.verdict.isApproved = judged.isAccepted)
      (fun _ => Running) := by
  have looped : Triple assume Running (context.iterate sessionId maxIterations {})
      (fun progress world => Running world ∧ Settled progress world) (fun _ => Running) :=
    Triple.also (Running.keeps (StoryContext.iterate_uses ⟨fun _ _ => rfl, fun _ => rfl,
      fun _ => rfl⟩ _ _)) (iterate_triple 2 {})
  have quiet {request : Request} (other : isCompletion request = false) :
      Keeps assume Running (Request.issue request) := Running.keeps (.call other)
  refine Triple.bind (quiet rfl) fun _ => ?_
  refine Triple.bind (Running.keeps (SessionRepository.create_uses rfl)) fun _ => ?_
  refine Triple.bind (quiet rfl) fun _ => looped.bind fun progress => ?_
  refine (complete_triple progress sessionId).bind fun _ => ?_
  have told {request : Request} (other : isJudgePrompt request = false) :
      Triple assume (Finished progress) (Request.issue request) (fun _ => Finished progress)
        (fun _ => Running) := .call fun _ finished _ => finished.next other
  exact (told rfl).bind fun _ => (told rfl).bind fun _ => .pure fun _ => id

def Decided (result : StoryExecutionResult) (world : SystemWorld) : Prop :=
  sessionCompleted world.history = false ∧ result.verdict.isApproved = false ∨
  sessionCompleted world.history = true ∧
    ∃ judged, Answered judged world ∧ result.verdict.isApproved = judged.isAccepted

theorem executeStoryWithSession_triple (context : StoryContext) :
    Triple assume Running (executeStoryWithSession context) Decided (fun _ _ => False) := by
  have created (title : SessionTitle) : Triple assume Running
      (Request.issue (.createSession title context.projectPath)) (fun _ => Running)
      (fun _ _ => False) := .call fun _ running _ => running.next rfl
  refine (created _).bind fun answer => ?_
  cases answer with
  | error message => exact .pure fun _ running => .inl ⟨running, rfl⟩
  | ok sessionId =>
      have cleaned : Triple assume Running (StoryContext.cleanup sessionId) (fun _ => Running)
          (fun _ _ => False) := by
        have body : Keeps assume Running (do
            SessionRepository.updateStatus sessionId "error"
            OpenCodeEventBridge.unregisterSession sessionId) :=
          Running.keeps (.bind (SessionRepository.updateStatus_uses rfl) fun _ => .call rfl)
        exact Triple.tryCatch body fun _ => .pure fun _ => id
      refine ((runSession_triple sessionId).weaken (fun _ => id) (fun _ _ => .inr)
        fun _ _ => id).tryCatch fun message => cleaned.bind fun _ => ?_
      exact .pure fun _ running => .inl ⟨running, rfl⟩

theorem jsonData?_empty : jsonData? "" = none := by decide +kernel

theorem Answered.isAnswered {judged : JudgeResult} {world : SystemWorld}
    (answered : Answered judged world) : (judgeRound world.history).isAnswered = true := by
  obtain ⟨earlier, events, round, _⟩ := answered
  rw [round]
  rfl

theorem Answered.judged_eq {judged : JudgeResult} {world : SystemWorld}
    (answered : Answered judged world) :
    judged = parseJudgeVerdict (if (judgeRound world.history).answer = "" then
      (judgeRound world.history).stale else (judgeRound world.history).answer) := by
  obtain ⟨earlier, _, round, ⟨later, rfl⟩, read⟩ := answered
  rw [read, extractFinalOutput_append, round]
  simp only [JudgeRound.answer, JudgeRound.stale, List.drop_left]

theorem Decided.accepted {result : StoryExecutionResult} {world : SystemWorld}
    (decided : Decided result world) : AcceptedByJudge (.ok result, world) := by
  intro approved
  rcases decided with ⟨_, unapproved⟩ | ⟨completed, judged, answered, verdict⟩
  · simp [unapproved] at approved
  · refine ⟨completed, answered.isAnswered, fun data readable => ?_⟩
    have written : (judgeRound world.history).answer ≠ "" := by
      intro silent
      rw [silent, jsonData?_empty] at readable
      cases readable
    have read : judged = .ofData data := by
      rw [answered.judged_eq, if_neg written, parseJudgeVerdict, Option.mem_def.mp readable]
      rfl
    rw [← read, ← verdict]
    exact approved

end JudgeVerdict

/-- A judge whose answer has no JSON block approves the story. -/
example : ¬ApprovedByJudge
    ((executeStoryWithSession ((Sample.developer [Sample.api]).storyContext Sample.story 0)).exec
      (Sample.backend.start
        (script (Sample.session 0 Sample.newFile "I could not finish the review.")))) := by
  decide +kernel

/-- For every stream of agent events: an approved story had a session that ended without an
error, its last JUDGE prompt was answered, and a JSON block in the answer has the verdict
"approved", or one other than "rejected" with no issues to fix. -/
theorem story_approved_only_if_accepted (context : StoryContext) (system : System)
    (choices : Nat → Choice) :
    AcceptedByJudge ((executeStoryWithSession context).exec (system.start choices)) := by
  have outcome := (JudgeVerdict.executeStoryWithSession_triple context).outcome
    (show JudgeVerdict.Running (system.start choices) from rfl)
  revert outcome
  rcases (executeStoryWithSession context).exec (system.start choices) with ⟨_ | result, world⟩
  · exact False.elim
  · exact JudgeVerdict.Decided.accepted

/-- A verdict "needs_revision" without issues is accepted as it is. -/
theorem story_approved_without_issues :
    ¬ApprovedByJudge
      ((executeStoryWithSession ((Sample.developer [Sample.api]).storyContext Sample.story 0)).exec
        (Sample.backend.start
          (script (Sample.session 0 Sample.newFile (Sample.verdictText "needs_revision"))))) := by
  decide +kernel

end MultiAgents
