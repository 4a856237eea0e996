import MultiAgents.Properties.BuildGate

/-!
# One result for each story

The Developer phase returns its results in the order of the stories.  A story
whose build check fails for the last time is entered twice: once in the build
loop and once after the approval that follows it.
-/

namespace MultiAgents

open Effects Record

/-- One entry for each story, in the order of the stories and with their ids. -/
def OneResultPerStory (context : DeveloperPhaseContext) (result : DeveloperResultV2) : Prop :=
  result.stories.map StoryResultV2.id = context.stories.map Story.id

instance (context : DeveloperPhaseContext) (result : DeveloperResultV2) :
    Decidable (OneResultPerStory context result) :=
  inferInstanceAs (Decidable (_ = _))

namespace StoryResults

variable {assume : Assumption environment}

/-- No build check has failed for the last time. -/
def Recovered (world : SystemWorld) : Prop :=
  Always (fun step _ => BuildRecovers step) world.history

theorem recovered_next (world : SystemWorld) (request : Request) :
    Recovered (world.next request) ↔ request.reportsLastBuildFailure = false ∧ Recovered world :=
  always_cons ..

theorem steady {α : Type} {status : Prop} {program : Program α}
    (uses : Uses (fun request : Request => request.reportsLastBuildFailure = false) program) :
    Triple assume (fun world => Recovered world ↔ status) program
      (fun _ world => Recovered world ↔ status) (fun _ _ => True) := by
  refine Triple.onRaise (uses.keeps fun world request other _ same => ?_) fun _ _ _ => trivial
  rw [recovered_next, other, same]
  simp

theorem permits (context : DeveloperPhaseContext) : context.Permits
    (fun request : Request => request.reportsLastBuildFailure = false) where
  session _ :=
    { notice := fun notice other => by
        cases notice <;> first | rfl | cases other
      prompt := fun _ => rfl
      wait := fun _ => rfl }
  approval _ _ := rfl
  diff := rfl
  status _ _ := rfl
  existsSync _ := rfl
  readFileSync _ := rfl
  readdirSync _ := rfl
  execBuild _ _ := rfl
  log _ _ := rfl
  rollback _ _ _ _ := rfl
  create _ _ := rfl
  register _ _ := rfl
  unregister _ := rfl
  record _ := rfl
  closed _ _ _ _ := rfl
  save _ _ _ := rfl
  recording _ _ _ _ := rfl

variable {context : DeveloperPhaseContext}

theorem rejectBuild_id {result rejected : StoryResultV2} {errors : String}
    (computed : DeveloperPhaseContext.rejectBuild result errors = .ok rejected) :
    rejected.id = result.id := by
  unfold DeveloperPhaseContext.rejectBuild at computed
  rcases spread : DeveloperPhaseContext.spread (result.issues.orElse (.arr [])) with _ | issues
  · simp [spread, bind, Except.bind] at computed
  · simp only [spread, bind, Except.bind, pure, Except.pure, Except.ok.injEq] at computed
    rw [← computed]

theorem verifyBuild_recovered {status : Prop} (story : Story) (session : Option String)
    (remaining buildAttempts : Nat) (total : buildAttempts + (remaining + 1) = maxBuildAttempts)
    (result : StoryResultV2) :
    Triple assume (fun world => Recovered world ↔ status)
      (context.verifyBuild story session (remaining + 1) buildAttempts result)
      (fun outcome world => outcome.1.id = result.id ∧
        (Recovered world ↔ status ∧ outcome.2 = false)) (fun _ _ => True) := by
  have permits := permits context
  have checked := runBuildChecksOnRepos_uses permits.toBuildPermits permits.notice permits.status
  have passed (attempt : Nat) : Triple assume (fun world => Recovered world ↔ status)
      (do
        context.toTask (.storyBuildCheckSuccess story.id story.title attempt)
        pure (result, false))
      (fun outcome world => outcome.1.id = result.id ∧
        (Recovered world ↔ status ∧ outcome.2 = false)) (fun _ _ => True) :=
    (steady (.call rfl)).bind fun _ => .pure fun _ same => ⟨rfl, by simpa using same⟩
  induction remaining generalizing buildAttempts with
  | zero =>
      refine (steady checked).bind fun checks => .ite (fun _ => passed _) fun _ => ?_
      have failed : Triple assume (fun _ => True)
          (context.toTask (.storyBuildCheckFailed story.id story.title (buildAttempts + 1)))
          (fun _ world => Recovered world ↔ False) (fun _ _ => True) := by
        refine .call fun world _ _ => ?_
        rw [recovered_next]
        simp [Request.reportsLastBuildFailure, ← total]
      refine (failed.before fun _ _ => trivial).bind fun _ => (steady (.call rfl)).bind fun _ => ?_
      have rejected : Triple assume (fun world => Recovered world ↔ False)
          (Process.ofExcept (DeveloperPhaseContext.rejectBuild result
            (DeveloperPhaseContext.buildErrors checks)))
          (fun rejected world => rejected.id = result.id ∧ (Recovered world ↔ False))
          (fun _ _ => True) :=
        .ofExcept (fun _ computed _ same => ⟨rejectBuild_id computed, same⟩)
          fun _ _ _ _ => trivial
      refine rejected.bind fun entry => .given fun sameId => ?_
      refine (steady permits.rollbackRepositories).bind fun _ => ?_
      exact (steady (.call rfl)).bind fun _ => .pure fun _ same => ⟨sameId, by simpa using same⟩
  | succ remaining ih =>
      refine (steady checked).bind fun checks => .ite (fun _ => passed _) fun _ => ?_
      have early : (Request.toTask context.taskId (.storyBuildCheckFailed story.id story.title
          (buildAttempts + 1))).reportsLastBuildFailure = false := by
        simp only [Request.reportsLastBuildFailure, ← total, beq_eq_false_iff_ne]
        omega
      refine (steady (.call early)).bind fun _ => ?_
      have again := ih (buildAttempts + 1) (by omega)
      cases session with
      | none => exact again
      | some sessionId =>
          have session := permits.session sessionId
          exact (steady (DeveloperPhaseContext.requestBuildFix_uses session.prompt
            session.wait)).bind fun _ => again

theorem concludeStory_recovered {status : Prop} (story : Story) (storyIndex : Nat)
    (userApproved : Bool) (recorded : StoryResultV2) :
    Triple assume (fun world => Recovered world ↔ status)
      (context.concludeStory story storyIndex userApproved recorded)
      (fun outcome world => outcome.1.id = recorded.id ∧ (Recovered world ↔ status))
      (fun _ _ => True) := by
  have permits := permits context
  refine .ite (fun _ => ?_) fun _ => ?_
  · refine (steady (.call rfl)).bind fun _ => ?_
    exact (steady (DeveloperPhaseContext.commitRepositories_uses permits.recording)).bind
      fun _ => .pure fun _ same => ⟨rfl, same⟩
  · refine (steady (.call rfl)).bind fun _ => (steady permits.rollbackRepositories).bind fun _ => ?_
    exact (steady (.call rfl)).bind fun _ => .pure fun _ same => ⟨rfl, same⟩

/-- The entries of a story: two of them if its build check failed for the last time. -/
def Entered (story : Story) (status : Prop) (entries : List StoryResultV2)
    (world : SystemWorld) : Prop :=
  ∃ failed : Bool, entries.map StoryResultV2.id =
      (if failed then [story.id, story.id] else [story.id]) ∧
    (Recovered world ↔ status ∧ failed = false)

theorem entered_once {story : Story} {status : Prop} {entry : StoryResultV2} {world : SystemWorld}
    (sameId : entry.id = story.id) (same : Recovered world ↔ status) :
    Entered story status [entry] world :=
  ⟨false, by simp [sameId], by simpa using same⟩

theorem acceptStory_entered {status : Prop} (story : Story) (storyIndex : Nat)
    (result : StoryExecutionResult) (recorded : StoryResultV2) (sameId : recorded.id = story.id) :
    Triple assume (fun world => Recovered world ↔ status)
      (context.acceptStory story storyIndex result recorded)
      (fun outcome => Entered story status outcome.1) (fun _ _ => True) := by
  have permits := permits context
  refine (steady (DeveloperPhaseContext.anyRepoHasChanges_uses permits.status)).bind
    fun changed => .ite (fun _ => ?_) fun _ => .pure fun _ same => entered_once sameId same
  refine (steady (.call rfl)).bind fun _ => ?_
  refine (verifyBuild_recovered story result.sessionId 2 0 rfl recorded).bind fun outcome => ?_
  refine .given fun keptId => ?_
  have approved : Uses (fun request : Request => request.reportsLastBuildFailure = false)
      (context.awaitApproval story storyIndex result) :=
    .ite (.pure _) (permits.approvalLoop story storyIndex _ _ result)
  refine (steady approved).bind fun userApproved => ?_
  refine (concludeStory_recovered story storyIndex userApproved outcome.1).bind fun concluded => ?_
  refine .pure fun world ⟨entryId, same⟩ => ⟨outcome.2, ?_, same⟩
  have entry : concluded.1.id = story.id := entryId.trans (keptId.trans sameId)
  cases outcome.2 <;> simp [entry]

theorem entered_steady {α : Type} {story : Story} {status : Prop} {entries : List StoryResultV2}
    {program : Program α}
    (uses : Uses (fun request : Request => request.reportsLastBuildFailure = false) program) :
    Triple assume (Entered story status entries) program
      (fun _ => Entered story status entries) (fun _ _ => True) := by
  refine Triple.onRaise (uses.keeps fun world request other _ entered => ?_) fun _ _ _ => trivial
  obtain ⟨failed, ids, same⟩ := entered
  refine ⟨failed, ids, ?_⟩
  rw [recovered_next, other, same]
  simp

theorem executeStory_entered {status : Prop} (progress : DeveloperProgress) (story : Story)
    (storyIndex : Nat) :
    Triple assume (fun world => Recovered world ↔ status)
      (context.executeStory progress story storyIndex)
      (fun after world => ∃ entries, after.stories = progress.stories ++ entries ∧
        Entered story status entries world) (fun _ _ => True) := by
  have permits := permits context
  refine (steady (.call rfl)).bind fun _ => ?_
  refine (steady (executeStoryWithSession_uses permits.toStoryPermits)).bind fun result => ?_
  have settled : Triple assume (fun world => Recovered world ↔ status)
      (context.settleStory story storyIndex result (DeveloperPhaseContext.recordOf story result))
      (fun outcome => Entered story status outcome.1) (fun _ _ => True) := by
    refine .ite (fun _ => acceptStory_entered story storyIndex result _ rfl) fun _ => ?_
    refine (steady (.call rfl)).bind fun _ => (steady permits.rollbackRepositories).bind fun _ => ?_
    have reported (rolledBack : Bool) :
        Uses (fun request : Request => request.reportsLastBuildFailure = false)
          (context.reportRollback story result.verdict rolledBack) := .ite (.call rfl) (.pure _)
    exact (steady (reported _)).bind fun _ => .pure fun _ same => entered_once rfl same
  refine settled.bind fun outcome => (entered_steady (.call rfl)).bind fun _ => ?_
  refine (entered_steady (permits.saveProgress storyIndex)).bind fun _ => ?_
  exact .pure fun _ entered => ⟨outcome.1, rfl, entered⟩

theorem processStory_entered {status : Prop} (progress : DeveloperProgress)
    (entry : Story × Nat) :
    Triple assume (fun world => Recovered world ↔ status) (context.processStory progress entry)
      (fun after world => ∃ entries, after.stories = progress.stories ++ entries ∧
        Entered entry.1 status entries world) (fun _ _ => True) := by
  refine .ite (fun _ => ?_) fun _ => executeStory_entered progress entry.1 entry.2
  exact (steady (.call rfl)).bind fun _ => .pure fun _ same => ⟨_, rfl, entered_once rfl same⟩

/-- The results of the stories done so far: in order while no build failed for good, and too
many of them afterwards. -/
def Tally (done : List (Story × Nat)) (results : List StoryResultV2) (world : SystemWorld) :
    Prop :=
  Recovered world ∧ results.map StoryResultV2.id = done.map (fun entry => entry.1.id) ∨
  ¬Recovered world ∧ done.length < results.length

theorem Tally.append {done : List (Story × Nat)} {results entries : List StoryResultV2}
    {before world : SystemWorld} {entry : Story × Nat} (tally : Tally done results before)
    (entered : Entered entry.1 (Recovered before) entries world) :
    Tally (done ++ [entry]) (results ++ entries) world := by
  obtain ⟨failed, ids, same⟩ := entered
  have count : entries.length = if failed then 2 else 1 := by
    rw [← List.length_map StoryResultV2.id, ids]
    split <;> rfl
  rcases tally with ⟨recovered, ordered⟩ | ⟨unrecovered, excess⟩
  · cases failed with
    | false =>
        refine .inl ⟨same.mpr ⟨recovered, rfl⟩, ?_⟩
        simp only [List.map_append, ordered, ids]
        simp
    | true =>
        have length := congrArg List.length ordered
        simp only [List.length_map] at length
        refine .inr ⟨fun holds => by simpa using same.mp holds, ?_⟩
        simp only [List.length_append, List.length_singleton, count, if_true, length]
        omega
  · refine .inr ⟨fun holds => unrecovered (same.mp holds).1, ?_⟩
    simp only [List.length_append, List.length_singleton, count]
    split <;> omega

theorem Tally.oneResultPerStory_iff {context : DeveloperPhaseContext} {result : DeveloperResultV2}
    {world : SystemWorld} (tally : Tally context.stories.zipIdx result.stories world) :
    OneResultPerStory context result ↔ Recovered world := by
  have ids : context.stories.zipIdx.map (fun entry => entry.1.id) =
      context.stories.map Story.id := by
    have firsts := congrArg (List.map Story.id) (List.zipIdx_map_fst 0 context.stories)
    rwa [List.map_map] at firsts
  unfold OneResultPerStory
  rcases tally with ⟨recovered, ordered⟩ | ⟨unrecovered, excess⟩
  · exact iff_of_true (ordered.trans ids) recovered
  · refine iff_of_false (fun same => ?_) unrecovered
    have length := congrArg List.length same
    simp only [List.length_map, List.length_zipIdx] at length excess
    omega

theorem processStory_tally (done : List (Story × Nat)) (progress : DeveloperProgress)
    (entry : Story × Nat) :
    Triple assume (Tally done progress.stories) (context.processStory progress entry)
      (fun after => Tally (done ++ [entry]) after.stories) (fun _ _ => True) := by
  intro world tally
  refine (processStory_entered progress entry).weaken (fun _ => id) ?_ (fun _ _ => id) world Iff.rfl
  rintro after reached ⟨entries, appended, entered⟩
  rw [appended]
  exact tally.append entered

theorem executeDeveloperPhase_tally (context : DeveloperPhaseContext) :
    Triple assume (fun world => Recovered world ↔ True) (executeDeveloperPhase context)
      (fun result => Tally context.stories.zipIdx result.stories) (fun _ _ => True) := by
  have checkouts : Uses (fun request : Request => request.reportsLastBuildFailure = false)
      (forM context.repositories context.checkoutRepository) :=
    DeveloperPhaseContext.checkoutRepositories_uses fun _ _ _ => rfl
  refine (steady checkouts).bind fun _ => (steady (.call rfl)).bind fun _ => ?_
  have looped : Triple assume (fun world => Recovered world ↔ True)
      (context.stories.zipIdx.foldlM context.processStory {})
      (fun progress => Tally context.stories.zipIdx progress.stories) (fun _ _ => True) :=
    (Triple.foldlM (fun done progress => Tally done progress.stories)
      fun done entry _ progress _ => processStory_tally done progress entry).before
      fun _ recovered => .inl ⟨of_iff_true recovered, rfl⟩
  refine looped.bind fun progress => ?_
  have told (success : Bool) : Triple assume (Tally context.stories.zipIdx progress.stories)
      (context.toTask (.phaseComplete .developer success))
      (fun _ => Tally context.stories.zipIdx progress.stories) (fun _ _ => True) := by
    refine .call fun world tally _ => ?_
    have same : Recovered (world.next (.toTask context.taskId (.phaseComplete .developer
        success))) ↔ Recovered world := by
      rw [recovered_next]
      exact and_iff_right rfl
    unfold Tally
    rw [same]
    exact tally
  exact (told _).bind fun _ => .pure fun _ => id

end StoryResults

/-- For every list of stories and every outcome of judges, builds, user answers and exceptions:
the phase returns one result for each story exactly if no build check fails in its last
attempt. -/
theorem developer_one_result_per_story_iff (context : DeveloperPhaseContext) (system : System)
    (choices : Nat → Choice) (result : DeveloperResultV2)
    (returned : ((executeDeveloperPhase context).exec (system.start choices)).1 = .ok result) :
    OneResultPerStory context result ↔
      Always (fun step _ => BuildRecovers step)
        ((executeDeveloperPhase context).exec (system.start choices)).2.history := by
  have outcome := (StoryResults.executeDeveloperPhase_tally context).outcome
    (show StoryResults.Recovered (system.start choices) ↔ True from iff_true_intro .nil)
  revert outcome returned
  rcases (executeDeveloperPhase context).exec (system.start choices) with ⟨_ | _, world⟩
  · intro returned
    cases returned
  · intro returned outcome
    cases returned
    exact StoryResults.Tally.oneResultPerStory_iff outcome

/-- Three failed builds: the story is entered twice. -/
theorem developer_enters_failed_build_twice :
    ¬∀ result ∈ ((executeDeveloperPhase (Sample.developer [Sample.api])).exec
      (Sample.backend.start (Sample.unbuildableStory {}))).1.toOption,
      OneResultPerStory (Sample.developer [Sample.api]) result := by
  decide +kernel

theorem developer_one_result_per_story_accepted :
    ∃ result, ((executeDeveloperPhase (Sample.developer [Sample.api])).exec
        (Sample.backend.start Sample.acceptedStory)).1 = .ok result ∧
      OneResultPerStory (Sample.developer [Sample.api]) result := by
  have isOk : ((executeDeveloperPhase (Sample.developer [Sample.api])).exec
      (Sample.backend.start Sample.acceptedStory)).1.isOk = true := by decide +kernel
  obtain ⟨result, returned⟩ := Process.returned_of_isOk isOk
  exact ⟨result, returned,
    (developer_one_result_per_story_iff _ _ _ result returned).mpr (by decide +kernel)⟩

end MultiAgents
