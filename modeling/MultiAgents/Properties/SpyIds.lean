import MultiAgents.Phases.Developer.Requests
import MultiAgents.Properties.Sample

/-!
# Ids of the findings of the SPY

A finding is named after its story, the iteration and its place in the answer.
The iteration and the place have no hyphens, so they can be read back from the end
of the id whatever the story is called.  The iterations of a story go on with the
rounds that the user asks for.
-/

namespace MultiAgents

open Effects

def spyId (storyId : String) (iteration index : Nat) : String :=
  s!"spy-{storyId}-{iteration}-{index}"

theorem eq_of_append_hyphen {first second : List Char} {number other : Nat}
    (same : first ++ '-' :: Nat.toDigits 10 number = second ++ '-' :: Nat.toDigits 10 other) :
    first = second ∧ number = other := by
  have plain (number : Nat) : ∀ char ∈ (Nat.toDigits 10 number).reverse, (char != '-') = true := by
    intro char isDigit
    have isDigit := Nat.isDigit_of_mem_toDigits (by decide) (by decide)
      (List.mem_reverse.mp isDigit)
    rw [bne_iff_ne]
    rintro rfl
    cases isDigit
  have reversed := congrArg List.reverse same
  simp only [List.reverse_append, List.reverse_cons, List.append_assoc, List.singleton_append]
    at reversed
  have digits := congrArg (List.takeWhile (· != '-')) reversed
  rw [List.takeWhile_append_of_pos (plain number), List.takeWhile_append_of_pos (plain other)]
    at digits
  have digits : Nat.toDigits 10 number = Nat.toDigits 10 other := by simpa using digits
  have numbers := congrArg (Nat.ofDigitChars 10 · 0) digits
  rw [digits] at same
  exact ⟨List.append_cancel_right same, by simpa [Nat.ofDigitChars_ten_toDigits] using numbers⟩

theorem spyId_inj {storyId other : String} {iteration iteration' index index' : Nat}
    (same : spyId storyId iteration index = spyId other iteration' index') :
    storyId = other ∧ iteration = iteration' ∧ index = index' := by
  have text : "spy-".toList ++ storyId.toList ++ '-' :: Nat.toDigits 10 iteration ++
        '-' :: Nat.toDigits 10 index =
      "spy-".toList ++ other.toList ++ '-' :: Nat.toDigits 10 iteration' ++
        '-' :: Nat.toDigits 10 index' := by
    simpa [spyId, ← String.toList_inj, Nat.repr_eq_ofList_toDigits, toString] using same
  obtain ⟨text, sameIndex⟩ := eq_of_append_hyphen text
  obtain ⟨text, sameIteration⟩ := eq_of_append_hyphen text
  exact ⟨String.toList_inj.mp (List.append_cancel_left text), sameIteration, sameIndex⟩

theorem map_eq_of_mapM {α β γ : Type} {convert : α → Except String β} {name : α → γ} {id : β → γ}
    (each : ∀ item value, convert item = .ok value → id value = name item) {items : List α}
    {values : List β} (converted : items.mapM convert = .ok values) :
    values.map id = items.map name := by
  induction items generalizing values with
  | nil =>
      cases converted
      rfl
  | cons item items ih =>
      rw [List.mapM_cons] at converted
      cases first : convert item with
      | error error => rw [first] at converted; cases converted
      | ok value =>
          rw [first] at converted
          cases later : items.mapM convert with
          | error error => rw [later] at converted; cases converted
          | ok others =>
              rw [later] at converted
              cases converted
              exact congrArg₂ List.cons (each item value first) (ih later)

/-- The findings of one answer are numbered. -/
theorem convertSpyVulnerabilities_ids {result : SpyResult} {taskId sessionId storyId : String}
    {iteration : Nat} {found : List VulnerabilityV2}
    (converted : convertSpyVulnerabilities result taskId sessionId storyId iteration = .ok found) :
    ∃ indices : List Nat, indices.Nodup ∧
      found.map VulnerabilityV2.id = indices.map (spyId storyId iteration) := by
  unfold convertSpyVulnerabilities at converted
  cases listed : result.vulnerabilities.items with
  | error error => rw [listed] at converted; cases converted
  | ok items =>
      rw [listed] at converted
      refine ⟨items.zipIdx.map Prod.snd, ?_, ?_⟩
      · rw [List.zipIdx_map_snd]
        exact List.nodup_range'
      · rw [List.map_map]
        refine map_eq_of_mapM (fun entry value named => ?_) converted
        obtain ⟨finding, index⟩ := entry
        cases known : Text.Value.member (some finding) "severity" with
        | error error => simp only [known] at named; cases named
        | ok severity =>
            simp only [known] at named
            cases named
            rfl

/-- The task, the iteration and the session of a SPY round that is reported as done. -/
def Request.spyEnd? : Request → Option (String × Nat × String)
  | .toTask taskId (.iterationComplete type iteration sessionId) =>
      if type = "spy" then some (taskId, iteration, sessionId) else none
  | _ => none

/-- What the wait for an agent was answered with. -/
def waited? : SystemStep → Option (List OpenCodeEvent)
  | ⟨_, _, .waitForIdle _ _, answer⟩ => answer.toOption
  | _ => none

def spyPrompt? : SystemStep → Option Story
  | ⟨_, _, .sendPrompt _ (.developer (.spy story _ _)), _⟩ => some story
  | _ => none

/-- The findings of the round that a step ends: those in the answer to the last prompt. -/
def roundFindings (step : SystemStep) (past : List SystemStep) : List VulnerabilityV2 :=
  let findings := do
    let (taskId, iteration, sessionId) ← step.call.spyEnd?
    let events ← past[0]?.bind waited?
    let story ← past[1]?.bind spyPrompt?
    (convertSpyVulnerabilities (extractSpyResult (extractFinalOutput events)) taskId sessionId
      story.id iteration).toOption
  findings.getD []

/-- All findings of a run, the newest first. -/
def spyFindings : List SystemStep → List VulnerabilityV2
  | [] => []
  | step :: past => roundFindings step past ++ spyFindings past

namespace SpyIds

variable {assume : Assumption environment}

/-- A program that ends no SPY round. -/
abbrev Quiet {α : Type} (program : Program α) : Prop :=
  Uses (fun request : Request => request.spyEnd? = none) program

/-- The findings have different ids, made for known iterations of known stories. -/
structure Named (known : String → Nat → Prop) (world : SystemWorld) : Prop where
  nodup : ((spyFindings world.history).map VulnerabilityV2.id).Nodup
  named : ∀ id ∈ (spyFindings world.history).map VulnerabilityV2.id,
    ∃ storyId iteration index, known storyId iteration ∧ id = spyId storyId iteration index

theorem Named.mono {known others : String → Nat → Prop} {world : SystemWorld}
    (named : Named known world) (weaker : ∀ storyId iteration, known storyId iteration →
      others storyId iteration) : Named others world where
  nodup := named.nodup
  named id isId := by
    obtain ⟨storyId, iteration, index, isKnown, same⟩ := named.named id isId
    exact ⟨storyId, iteration, index, weaker _ _ isKnown, same⟩

theorem Named.next_quiet {known : String → Nat → Prop} {world : SystemWorld} {request : Request}
    (named : Named known world) (quiet : request.spyEnd? = none) :
    Named known (world.next request) := by
  have none : roundFindings (world.step request) world.history = [] := by
    rw [roundFindings, World.step_call, quiet]
    rfl
  have same : spyFindings (world.next request).history = spyFindings world.history := by
    rw [World.next_history, spyFindings, none, List.nil_append]
  exact ⟨same ▸ named.nodup, same ▸ named.named⟩

theorem quiet {α : Type} {known : String → Nat → Prop} {program : Program α}
    (uses : Quiet program) :
    Triple assume (Named known) program (fun _ => Named known) (fun _ => Named known) :=
  uses.keeps fun _ _ quiet _ named => named.next_quiet quiet

/-- The findings up to an iteration of a story, after some other stories. -/
abbrev Within (done : List String) (storyId : String) (count : Nat) : SystemWorld → Prop :=
  Named fun id iteration => id ∈ done ∨ id = storyId ∧ iteration ≤ count

theorem Within.succ {done : List String} {storyId : String} {count : Nat} {world : SystemWorld}
    (within : Within done storyId count world) : Within done storyId (count + 1) world :=
  within.mono fun _ _ known => known.imp_right fun own => ⟨own.1, Nat.le_succ_of_le own.2⟩

/-- The story is one of those that are done. -/
abbrev Finished (done : List String) (storyId : String) : SystemWorld → Prop :=
  Named fun id _ => id ∈ done ++ [storyId]

theorem Within.finished {done : List String} {storyId : String} {count : Nat}
    {world : SystemWorld} (within : Within done storyId count world) :
    Finished done storyId world :=
  within.mono fun _ _ known => List.mem_append.mpr
    (known.imp_right fun own => List.mem_singleton.mpr own.1)

/-- The result of a session tells the iterations that there were, unless it failed. -/
def Told (done : List String) (storyId : String) (result : StoryExecutionResult)
    (world : SystemWorld) : Prop :=
  Finished done storyId world ∧
    (result.verdict.isApproved = true → Within done storyId result.iterations world)

theorem quietly {α : Type} {done : List String} {storyId : String} {count : Nat}
    {program : Program α} (uses : Quiet program) :
    Triple assume (Within done storyId count) program (fun _ => Within done storyId count)
      (fun _ => Finished done storyId) :=
  (quiet uses).onRaise fun _ _ => Within.finished

/-- A new iteration gives ids that there were not. -/
theorem Within.next {done : List String} {story : Story} {count : Nat} {world : SystemWorld}
    (within : Within done story.id count world) (fresh : story.id ∉ done) {taskId : String}
    {sessionId : String} {events : List OpenCodeEvent} {found : List VulnerabilityV2}
    (converted : convertSpyVulnerabilities (extractSpyResult (extractFinalOutput events)) taskId
      sessionId story.id (count + 1) = .ok found)
    {waited prompted : SystemStep} {past : List SystemStep}
    (history : world.history = waited :: prompted :: past) (answered : waited? waited = some events)
    (asked : spyPrompt? prompted = some story) :
    Within done story.id (count + 1)
      (world.next (.toTask taskId (.iterationComplete "spy" (count + 1) sessionId))) := by
  have round : roundFindings (world.step (.toTask taskId (.iterationComplete "spy" (count + 1)
      sessionId))) world.history = found := by
    rw [history, roundFindings, World.step_call]
    simp [Request.spyEnd?, answered, asked, converted, Except.toOption]
  have all : (spyFindings (world.next (.toTask taskId (.iterationComplete "spy" (count + 1)
      sessionId))).history).map VulnerabilityV2.id =
      found.map VulnerabilityV2.id ++ (spyFindings world.history).map VulnerabilityV2.id := by
    rw [World.next_history, spyFindings, round, List.map_append]
  obtain ⟨indices, distinct, ids⟩ := convertSpyVulnerabilities_ids converted
  constructor
  · rw [all, ids, List.nodup_append]
    refine ⟨distinct.map fun _ _ same => (spyId_inj same).2.2, within.nodup, ?_⟩
    intro id isNew other isOld same
    obtain ⟨index, -, rfl⟩ := List.mem_map.mp isNew
    obtain ⟨storyId, iteration, place, known, named⟩ := within.named other isOld
    obtain ⟨rfl, rfl, -⟩ := spyId_inj (same.trans named)
    rcases known with isDone | ⟨-, early⟩
    · exact fresh isDone
    · omega
  · intro id isId
    rw [all, ids] at isId
    rcases List.mem_append.mp isId with isNew | isOld
    · obtain ⟨index, -, rfl⟩ := List.mem_map.mp isNew
      exact ⟨story.id, count + 1, index, .inr ⟨rfl, le_rfl⟩, rfl⟩
    · exact within.succ.named id isOld

section Story

variable (context : StoryContext) {done : List String} (fresh : context.story.id ∉ done)
include fresh

theorem runSpy_within (sessionId : String) (count : Nat) :
    Triple assume (Within done context.story.id count) (context.runSpy sessionId (count + 1))
      (fun _ => Within done context.story.id (count + 1))
      (fun _ => Within done context.story.id (count + 1)) := by
  refine (Triple.onRaise (quiet (.call rfl)) fun _ _ => Within.succ).bind fun _ => ?_
  have prompted : Triple assume (Within done context.story.id count)
      (OpenCodeClient.sendPrompt sessionId (.developer (.spy context.story
        (context.story.filesToModify.getD []) (context.story.filesToCreate.getD []))))
      (fun _ world => Within done context.story.id count world ∧
        ∃ step past, world.history = step :: past ∧ spyPrompt? step = some context.story)
      (fun _ => Within done context.story.id (count + 1)) := by
    refine .attempt (.call fun world within _ => ?_)
    have kept (prompt : Prompt) : Within done context.story.id count
        (world.next (.sendPrompt sessionId prompt)) := within.next_quiet rfl
    cases world.answer (.sendPrompt sessionId _) with
    | error message => exact Within.succ (kept _)
    | ok answer => exact ⟨kept _, _, _, rfl, rfl⟩
  refine prompted.bind fun _ => ?_
  have waited : Triple assume (fun world => Within done context.story.id count world ∧
        ∃ step past, world.history = step :: past ∧ spyPrompt? step = some context.story)
      (OpenCodeClient.waitForIdle sessionId none)
      (fun events world => Within done context.story.id count world ∧
        ∃ waited prompted past, world.history = waited :: prompted :: past ∧
          waited? waited = some events ∧ spyPrompt? prompted = some context.story)
      (fun _ => Within done context.story.id (count + 1)) := by
    refine .attempt (.call fun world ⟨within, step, past, history, asked⟩ _ => ?_)
    have kept : Within done context.story.id count
        (world.next (.waitForIdle sessionId none)) := within.next_quiet rfl
    cases answered : world.answer (.waitForIdle sessionId none) with
    | error message => exact Within.succ kept
    | ok events =>
        refine ⟨kept, world.step (.waitForIdle sessionId none), step, past, ?_, ?_, asked⟩
        · rw [World.next_history, history]
        · rw [World.step_of_answer answered]
          rfl
  refine waited.bind fun events => ?_
  cases converted : convertSpyVulnerabilities (extractSpyResult (extractFinalOutput events))
    context.taskId sessionId context.story.id (count + 1) with
  | error message => exact .throw fun _ holds => Within.succ holds.1
  | ok found =>
      change Triple assume _ (context.toTask (.iterationComplete "spy" (count + 1) sessionId) >>=
        fun _ => pure found) _ _
      refine Triple.bind (.call fun world holds _ => ?_) fun _ => .pure fun _ => id
      obtain ⟨within, waited, prompted, past, history, answered, asked⟩ := holds
      exact Within.next within fresh converted history answered asked

omit fresh in
theorem agents_quiet (sessionId : String) (iteration : Nat) (issues : Text.Json) :
    Quiet (context.runDeveloper sessionId iteration) ∧
    Quiet (context.runJudge sessionId iteration) ∧
    Quiet (context.runFix sessionId iteration issues) := by
  have prompted (prompt : Prompt) : Quiet (OpenCodeClient.sendPrompt sessionId prompt) :=
    OpenCodeClient.sendPrompt_uses rfl
  have waited (timeout : Option Nat) : Quiet (OpenCodeClient.waitForIdle sessionId timeout) :=
    OpenCodeClient.waitForIdle_uses rfl
  refine ⟨?_, ?_, ?_⟩
  · refine .bind (.ite (.bind (.call rfl) fun _ => prompted _) (.pure _)) fun _ => ?_
    exact .bind (waited _) fun _ => .bind (.call rfl) fun _ => .pure _
  · exact .bind (.call rfl) fun _ => .bind (prompted _) fun _ => .bind (waited _) fun _ =>
      .bind (.call rfl) fun _ => .pure _
  · exact .bind (.call rfl) fun _ => .bind (.ofExcept _) fun _ => prompted _

theorem iterate_within (sessionId : String) (remaining : Nat) (progress : StoryProgress) :
    Triple assume (Within done context.story.id progress.iterations)
      (context.iterate sessionId remaining progress)
      (fun after => Within done context.story.id after.iterations)
      (fun _ => Finished done context.story.id) := by
  induction remaining generalizing progress with
  | zero => exact .pure fun _ => id
  | succ remaining ih =>
      have agents := agents_quiet context sessionId
      have round : Triple assume (Within done context.story.id progress.iterations)
          (context.runIteration sessionId progress)
          (fun after => Within done context.story.id after.iterations)
          (fun _ => Finished done context.story.id) := by
        refine (quietly (agents _ .null).1).bind fun _ => ?_
        refine (quietly (agents _ .null).2.1).bind fun judged => ?_
        refine ((runSpy_within context fresh sessionId progress.iterations).onRaise
          fun _ _ => Within.finished).bind fun found => ?_
        exact .pure fun _ => id
      refine round.bind fun progress => ?_
      split
      · exact .pure fun _ => id
      · exact .pure fun _ => id
      · refine .ite (fun _ => ?_) fun _ => .pure fun _ => id
        exact (quietly (agents _ progress.judged.issues).2.2).bind fun _ => ih progress

theorem executeStoryWithSession_told :
    Triple assume (Within done context.story.id 0) (executeStoryWithSession context)
      (Told done context.story.id) (fun _ => Finished done context.story.id) := by
  refine (quietly (.call rfl)).bind fun answer => ?_
  cases answer with
  | error message =>
      refine .pure fun _ within => ⟨within.finished, fun approved => ?_⟩
      simp [StoryContext.failure, Verdict.isApproved] at approved
  | ok sessionId =>
      have session : Triple assume (Within done context.story.id 0) (context.runSession sessionId)
          (Told done context.story.id) (fun _ => Finished done context.story.id) := by
        refine (quietly (.call rfl)).bind fun _ => ?_
        refine (quietly (SessionRepository.create_uses rfl)).bind fun _ => ?_
        refine (quietly (.call rfl)).bind fun _ => ?_
        refine (iterate_within context fresh sessionId maxIterations {}).bind fun progress => ?_
        refine (quietly (SessionRepository.updateStatus_uses rfl)).bind fun _ => ?_
        refine (quietly (.call rfl)).bind fun _ => (quietly (.call rfl)).bind fun _ => ?_
        exact .pure fun _ within => ⟨within.finished, fun _ => within⟩
      refine session.tryCatch fun message => ?_
      have cleanup : Quiet (StoryContext.cleanup sessionId) :=
        .tryCatch (.bind (SessionRepository.updateStatus_uses rfl) fun _ => .call rfl)
          fun _ => .pure _
      refine (quiet cleanup).bind fun _ => .pure fun _ finished => ⟨finished, fun approved => ?_⟩
      simp [StoryContext.failure, Verdict.isApproved] at approved

end Story

section Phase

variable {context : DeveloperPhaseContext} {done : List String} {story : Story}

theorem verifyBuild_quiet (sessionId : Option String) (remaining buildAttempts : Nat)
    (result : StoryResultV2) :
    Quiet (context.verifyBuild story sessionId remaining buildAttempts result) := by
  have build : BuildPermits fun request : Request => request.spyEnd? = none :=
    ⟨⟨fun _ => rfl, fun _ => rfl, fun _ => rfl⟩, fun _ _ => rfl⟩
  have checked : Quiet (runBuildChecksOnRepos context.repositories context.taskId) := by
    refine .foldlM _ fun _ repo _ => .bind ?_ fun _ => .pure _
    refine .tryCatch (.bind (GitService.hasChanges_uses rfl) fun _ => .ite ?_ (.pure _))
      fun _ => .pure _
    refine .bind (.call rfl) fun _ => .bind (runBuildCheck_uses build _) fun _ => ?_
    exact .bind (.ite (.call rfl) (.call rfl)) fun _ => .pure _
  induction remaining generalizing buildAttempts result with
  | zero => exact .pure _
  | succ remaining ih =>
      refine .bind checked fun checks => .ite (.bind (.call rfl) fun _ => .pure _) ?_
      refine .bind (.call rfl) fun _ => ?_
      split
      · exact .bind (DeveloperPhaseContext.requestBuildFix_uses (fun _ => rfl) fun _ => rfl)
          fun _ => ih _ _
      · exact ih _ _
      · refine .bind (.call rfl) fun _ => .bind (.ofExcept _) fun _ => ?_
        exact .bind (DeveloperPhaseContext.rollbackRepositories_uses fun _ _ _ _ => rfl) fun _ =>
          .bind (.call rfl) fun _ => .pure _

theorem concludeStory_quiet (storyIndex : Nat) (userApproved : Bool) (recorded : StoryResultV2) :
    Quiet (context.concludeStory story storyIndex userApproved recorded) := by
  refine .ite (.bind (.call rfl) fun _ => ?_) (.bind (.call rfl) fun _ => ?_)
  · exact .bind (DeveloperPhaseContext.commitRepositories_uses fun _ _ _ _ => rfl) fun _ => .pure _
  · exact .bind (DeveloperPhaseContext.rollbackRepositories_uses fun _ _ _ _ => rfl) fun _ =>
      .bind (.call rfl) fun _ => .pure _

variable (fresh : story.id ∉ done)
include fresh

theorem feedbackRound_within (storyIndex : Nat) (sessionId feedback : String) (attempt : Nat)
    (current : StoryExecutionResult) :
    Triple assume (Within done story.id current.iterations)
      (context.feedbackRound story storyIndex sessionId feedback attempt current)
      (fun after => Within done story.id after.iterations)
      (fun _ => Finished done story.id) := by
  have agents := agents_quiet (context.storyContext story storyIndex) sessionId
  refine (quietly (.call rfl)).bind fun _ => (quietly (.call rfl)).bind fun _ => ?_
  refine (quietly (OpenCodeClient.sendPrompt_uses rfl)).bind fun _ => ?_
  refine (quietly (OpenCodeClient.waitForIdle_uses rfl)).bind fun _ => ?_
  refine (quietly (.call rfl)).bind fun _ => ?_
  refine (quietly (agents _ .null).2.1).bind fun judged => ?_
  refine ((runSpy_within (context.storyContext story storyIndex) fresh sessionId
    current.iterations).onRaise fun _ _ => Within.finished).bind fun found => ?_
  exact .pure fun _ => id

theorem approvalLoop_finished (storyIndex remaining approvalAttempts : Nat)
    (current : StoryExecutionResult) :
    Triple assume (Within done story.id current.iterations)
      (context.approvalLoop story storyIndex remaining approvalAttempts current)
      (fun _ => Finished done story.id) (fun _ => Finished done story.id) := by
  induction remaining generalizing approvalAttempts current with
  | zero => exact .pure fun _ => Within.finished
  | succ remaining ih =>
      have asked : Triple assume (Within done story.id current.iterations)
          (context.askUser story storyIndex (approvalAttempts + 1) current)
          (fun outcome world => Finished done story.id world ∧
            ∀ after, outcome = .again after → Within done story.id after.iterations world)
          (fun _ => Finished done story.id) := by
        refine (quietly (DeveloperPhaseContext.listChangedFiles_uses fun _ _ => rfl)).bind
          fun _ => ?_
        refine (quietly (GitService.getFullDiff_uses rfl)).bind fun _ => ?_
        refine (quietly (.attempt (.call (show Request.spyEnd? _ = none from rfl)))).bind
          fun response => ?_
        split
        · exact .pure fun _ within => ⟨within.finished, fun _ again => by cases again⟩
        · exact .pure fun _ within => ⟨within.finished, fun _ again => by cases again⟩
        · refine (feedbackRound_within fresh storyIndex _ _ _ current).bind fun after => ?_
          refine .pure fun _ within => ⟨within.finished, fun _ again => ?_⟩
          cases again
          exact within
        · exact .pure fun _ within => ⟨within.finished, fun _ again => by cases again⟩
      refine (asked.tryCatch fun _ => .pure fun _ finished =>
        ⟨finished, fun _ again => by cases again⟩).bind fun outcome => ?_
      cases outcome with
      | approved => exact .pure fun _ => And.left
      | rejected => exact .pure fun _ => And.left
      | again after => exact (ih _ after).before fun _ holds => holds.2 after rfl

theorem settleStory_finished (storyIndex : Nat) (result : StoryExecutionResult)
    (recorded : StoryResultV2) :
    Triple assume (Told done story.id result) (context.settleStory story storyIndex result recorded)
      (fun _ => Finished done story.id) (fun _ => Finished done story.id) := by
  refine .ite (fun approved => ?_) fun _ => ?_
  · refine Triple.before ?_ fun _ holds => holds.2 approved
    refine (quietly (DeveloperPhaseContext.anyRepoHasChanges_uses fun _ _ => rfl)).bind
      fun changed => .ite (fun _ => ?_) fun _ => .pure fun _ => Within.finished
    refine (quietly (.call rfl)).bind fun _ => ?_
    refine (quietly (verifyBuild_quiet result.sessionId maxBuildAttempts 0 recorded)).bind
      fun built => ?_
    have decided : Triple assume (Within done story.id result.iterations)
        (context.awaitApproval story storyIndex result) (fun _ => Finished done story.id)
        (fun _ => Finished done story.id) :=
      .ite (fun _ => .pure fun _ => Within.finished)
        fun _ => approvalLoop_finished fresh storyIndex _ _ result
    refine decided.bind fun userApproved => ?_
    exact (quiet (concludeStory_quiet storyIndex userApproved built.1)).bind fun _ =>
      .pure fun _ => id
  · have discarded : Quiet (context.discardStory story result recorded) :=
      .bind (.call rfl) fun _ =>
        .bind (DeveloperPhaseContext.rollbackRepositories_uses fun _ _ _ _ => rfl) fun _ =>
          .bind (.ite (.call rfl) (.pure _)) fun _ => .pure _
    exact (quiet discarded).before fun _ => And.left

theorem executeStory_finished (progress : DeveloperProgress) (storyIndex : Nat) :
    Triple assume (Named fun id _ => id ∈ done) (context.executeStory progress story storyIndex)
      (fun _ => Finished done story.id) (fun _ => Finished done story.id) := by
  suffices started : Triple assume (Within done story.id 0)
      (context.executeStory progress story storyIndex) (fun _ => Finished done story.id)
      (fun _ => Finished done story.id) from
    started.before fun _ named => named.mono fun _ _ => .inl
  refine (quietly (.call rfl)).bind fun _ => ?_
  refine (executeStoryWithSession_told (context.storyContext story storyIndex) fresh).bind
    fun result => ?_
  refine (settleStory_finished fresh storyIndex result _).bind fun outcome => ?_
  refine (quiet (.call rfl)).bind fun _ => ?_
  have saved : Quiet (context.saveProgress storyIndex) := by
    unfold DeveloperPhaseContext.saveProgress
    split
    · exact .attempt (.call rfl)
    · exact .pure _
  exact (quiet saved).bind fun _ => .pure fun _ => id

end Phase

theorem executeDeveloperPhase_named (context : DeveloperPhaseContext)
    (distinct : (context.stories.map Story.id).Nodup) :
    Triple assume (Named fun _ _ => False) (executeDeveloperPhase context)
      (fun _ => Named fun _ _ => True) (fun _ => Named fun _ _ => True) := by
  have anything {known : String → Nat → Prop} {world : SystemWorld} (named : Named known world) :
      Named (fun _ _ => True) world := named.mono fun _ _ _ => trivial
  have checkouts : Quiet (forM context.repositories context.checkoutRepository) :=
    DeveloperPhaseContext.checkoutRepositories_uses fun _ _ _ => rfl
  refine ((quiet checkouts).onRaise fun _ _ => anything).bind fun _ => ?_
  refine ((quiet (.call rfl)).onRaise fun _ _ => anything).bind fun _ => ?_
  have looped : Triple assume (Named fun _ _ => False)
      (context.stories.zipIdx.foldlM context.processStory {})
      (fun _ => Named fun _ _ => True) (fun _ => Named fun _ _ => True) := by
    refine (Triple.foldlM (fun done _ => Named fun id _ => id ∈ done.map (·.1.id))
      fun done entry rest progress split => ?_).weaken (fun _ named => named.mono
        fun _ _ => False.elim) (fun _ _ => anything) fun _ _ => id
    have fresh : entry.1.id ∉ done.map (·.1.id) := by
      have ids : context.stories.map Story.id =
          done.map (·.1.id) ++ entry.1.id :: rest.map (·.1.id) := by
        rw [← List.zipIdx_map_fst 0 context.stories, split, List.map_map, List.map_append]
        rfl
      rw [ids] at distinct
      exact fun isDone => (List.nodup_append.mp distinct).2.2 _ isDone _ (by simp) rfl
    have finished {world : SystemWorld} (named : Finished (done.map (·.1.id)) entry.1.id world) :
        Named (fun id _ => id ∈ (done ++ [entry]).map (·.1.id)) world := by
      rw [List.map_append]
      exact named
    refine .ite (fun _ => ?_) fun _ => ?_
    · refine ((quiet (.call rfl)).onRaise fun _ _ => anything).bind
        fun _ => .pure fun _ named => finished (named.mono fun _ _ => List.mem_append_left _)
    · exact (executeStory_finished fresh progress entry.2).weaken (fun _ => id)
        (fun _ _ => finished) fun _ _ => anything
  refine looped.bind fun progress => (quiet (.call rfl)).bind fun _ => .pure fun _ => id

end SpyIds

/-- In every run over stories of different ids, all findings of the SPY have different ids. -/
theorem spyFindings_ids_nodup (context : DeveloperPhaseContext)
    (distinct : (context.stories.map Story.id).Nodup) (system : System)
    (choices : Nat → Choice) :
    ((spyFindings ((executeDeveloperPhase context).exec (system.start choices)).2.history).map
      VulnerabilityV2.id).Nodup := by
  have start : SpyIds.Named (fun _ _ => False) (system.start choices) :=
    ⟨List.nodup_nil, fun _ isId => by cases isId⟩
  have outcome := (SpyIds.executeDeveloperPhase_named context distinct).exec start
    (Record.always_iff.mpr fun _ _ _ _ => trivial)
  exact outcome.nodup

namespace Sample

def twoStories : DeveloperPhaseContext :=
  { developer [api] with stories := [story, { story with id := "story-2" }] }

def findings (session found : String) : Choice :=
  .reply "/work" session ("```json\n\x7b\"vulnerabilities\": [" ++ found ++ "]\x7d\n```") []

/-- The SPY finds something in both rounds of the first story and in the second story. -/
def spiedStories : Nat → Choice :=
  script ([(17, findings "ses_1" "\x7b\x7d, \x7b\x7d"), (21, .reply "/work" "ses_1" "Fixed." []),
    (25, .reply "/work" "ses_1" (verdictText "approved") []),
    (29, findings "ses_1" "\x7b\x7d"), (75, findings "ses_2" "\x7b\x7d")] ++
    session 3 newFile ("```json\n\x7b\"verdict\": \"needs_revision\", " ++
      "\"issues\": [\x7b\"severity\": \"low\"\x7d]\x7d\n```") ++
    session 61 { newFile with session := "ses_2" } (verdictText "approved"))

end Sample

example : (spyFindings ((executeDeveloperPhase Sample.twoStories).exec
      (Sample.backend.start Sample.spiedStories)).2.history).map VulnerabilityV2.id =
    ["spy-story-2-1-0", "spy-story-1-2-0", "spy-story-1-1-0", "spy-story-1-1-1"] := by
  decide +kernel

theorem spyFindings_ids_nodup_two :
    ((spyFindings ((executeDeveloperPhase Sample.twoStories).exec
      (Sample.backend.start Sample.spiedStories)).2.history).map VulnerabilityV2.id).Nodup :=
  spyFindings_ids_nodup Sample.twoStories (by decide) _ _

end MultiAgents
