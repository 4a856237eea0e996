import MultiAgents.Phases.Developer.Sessions
import MultiAgents.Properties.Sample

/-!
# The build gate

A commit of the Developer phase comes after a build check that passed, with no
prompt to an agent in between.  The one way around the gate is a build check
that fails for the last time: the loop ends there, but the story goes on to the
user's approval and the commit.
-/

namespace MultiAgents

open Effects Record Text

def Request.reportsLastBuildFailure : Request → Bool
  | .toTask _ (.storyBuildCheckFailed _ _ attempt) => attempt == maxBuildAttempts
  | _ => false

namespace BuildGate

/-- What was shown before such a step no longer counts: an agent gets to work or a build fails. -/
def outdates : SystemStep → Bool
  | ⟨_, _, .sendPrompt _ _, _⟩ => true
  | ⟨_, _, .execBuild _ _, .error _⟩ => true
  | _ => false

def Shown (shows : SystemStep → Bool) : List SystemStep → Prop :=
  Since (fun step => shows step = true) (fun step => outdates step = true)

instance (shows : SystemStep → Bool) (past : List SystemStep) : Decidable (Shown shows past) :=
  inferInstanceAs (Decidable (Since _ _ past))

def unchanged (path : String) : SystemStep → Bool
  | ⟨_, _, .git .status directory, .ok listing⟩ =>
      directory == path && trim listing.toList == []
  | _ => false

def built (path : String) : SystemStep → Bool
  | ⟨_, _, .execBuild _ directory, .ok _⟩ => directory == path
  | _ => false

def inside (path file : String) : String := s!"{path}/{file}"

def lacks (path file : String) : SystemStep → Bool
  | ⟨_, _, .existsSync other, false⟩ => other == inside path file
  | _ => false

def noProject (path : String) : SystemStep → Bool
  | ⟨_, _, .readdirSync directory, .ok files⟩ => directory == path &&
      !files.any fun file => file.endsWith ".csproj" || file.endsWith ".sln"
  | _ => false

/-- The package description was read, and its scripts are such; `none` if there are none to be
had from the text, or no text. -/
def scripts (path : String) (such : Option Json → Bool) : SystemStep → Bool
  | ⟨_, _, .readFileSync file, content⟩ => file == inside path "package.json" &&
      such (content >>= BuildCheck.packageScripts).toOption
  | _ => false

def NoScript (path : String) (past : List SystemStep) : Prop :=
  Shown (lacks path "package.json") past ∨ Shown (scripts path Option.isNone) past ∨
    Shown (scripts path (Option.any fun scripts => !(scripts.property "build").truthy)) past ∧
      Shown (lacks path "tsconfig.json") past

/-- There is nothing to build with: the directory has none of the files that stand for a build
system. -/
def NoBuildSystem (path : String) (past : List SystemStep) : Prop :=
  NoScript path past ∧ Shown (noProject path) past ∧
    ∀ file ∈ ["pyproject.toml", "setup.py", "requirements.txt", "go.mod", "Cargo.toml", "pom.xml",
      "build.gradle", "build.gradle.kts", "pubspec.yaml"], Shown (lacks path file) past

def RepoPassed (path : String) (past : List SystemStep) : Prop :=
  Shown (unchanged path) past ∨ Shown (built path) past ∨ NoBuildSystem path past

instance (path : String) (past : List SystemStep) : Decidable (RepoPassed path past) := by
  unfold RepoPassed NoBuildSystem NoScript
  infer_instance

end BuildGate

/-- Since the last prompt and the last failed build, each repository was found to be unchanged,
to build, or to have nothing to build with. -/
def BuildPassed (repositories : List RepositoryInfo) (past : List SystemStep) : Prop :=
  ∀ repo ∈ repositories, BuildGate.RepoPassed repo.localPath past

def BuildGated (repositories : List RepositoryInfo) (step : SystemStep)
    (past : List SystemStep) : Prop :=
  step.call.isCommit = true → BuildPassed repositories past

instance (repositories : List RepositoryInfo) (step : SystemStep) (past : List SystemStep) :
    Decidable (BuildGated repositories step past) :=
  inferInstanceAs (Decidable (_ → ∀ repo ∈ repositories, _))

/-- The build check of a story does not fail in its last attempt. -/
def BuildRecovers (step : SystemStep) : Prop :=
  step.call.reportsLastBuildFailure = false

instance (step : SystemStep) : Decidable (BuildRecovers step) :=
  inferInstanceAs (Decidable (_ = _))

namespace BuildGate

def quiet : Request → Bool
  | .sendPrompt _ _ | .execBuild _ _ => false
  | _ => true

/-- What has been shown and is not outdated stays shown. -/
def Stable (fact : List SystemStep → Prop) : Prop :=
  ∀ step past, outdates step = false → fact past → fact (step :: past)

theorem Shown.stable (shows : SystemStep → Bool) : Stable (Shown shows) :=
  fun _ _ fresh shown => .inr ⟨by simp [fresh], shown⟩

theorem Shown.stable_forall {α : Type} (items : List α) (shows : α → SystemStep → Bool) :
    Stable fun past => ∀ item ∈ items, Shown (shows item) past :=
  fun _ _ fresh shown item membership => Shown.stable _ _ _ fresh (shown item membership)

theorem NoScript.stable (path : String) : Stable (NoScript path) := fun _ _ fresh =>
  have next (shows : SystemStep → Bool) := Shown.stable shows _ _ fresh
  Or.imp (next _) (Or.imp (next _) (And.imp (next _) (next _)))

theorem RepoPassed.stable (path : String) : Stable (RepoPassed path) := fun _ _ fresh =>
  have next (shows : SystemStep → Bool) := Shown.stable shows _ _ fresh
  Or.imp (next _) (Or.imp (next _) (And.imp (NoScript.stable path _ _ fresh)
    (And.imp (next _) (Shown.stable_forall _ _ _ _ fresh))))

theorem BuildPassed.stable (repositories : List RepositoryInfo) :
    Stable (BuildPassed repositories) :=
  fun _ _ fresh passed repo membership => RepoPassed.stable _ _ _ fresh (passed repo membership)

variable {assume : Assumption environment} {fact : List SystemStep → Prop}

theorem outdates_step {request : Request} (still : quiet request = true) (world : SystemWorld) :
    outdates (world.step request) = false := by
  cases request <;> first | rfl | cases still

theorem Stable.keeps {α : Type} {program : Program α} (stable : Stable fact)
    (uses : Uses (fun request : Request => quiet request = true) program) :
    Keeps assume (fun world => fact world.history) program :=
  uses.keeps fun world _ still _ => stable _ _ (outdates_step still world)

theorem Stable.carry {α : Type} {program : Program α} {returned : α → SystemWorld → Prop}
    {raised : String → SystemWorld → Prop} (stable : Stable fact)
    (uses : Uses (fun request : Request => quiet request = true) program)
    (triple : Triple assume (fun _ => True) program returned raised) :
    Triple assume (fun world => fact world.history) program
      (fun value world => returned value world ∧ fact world.history) raised :=
  (triple.and (stable.keeps uses)).weaken (fun _ holds => ⟨trivial, holds⟩) (fun _ _ => id)
    fun _ _ => And.left

section Detection

open BuildCheck

variable {path : String} {record : List SystemStep}

theorem probes : ProbePermits fun request : Request => quiet request = true :=
  ⟨fun _ => rfl, fun _ => rfl, fun _ => rfl⟩

-- The probes are answered one after the other; an answer that names a build system ends the walk.
theorem javascript_ends : Ends (fun found past => found = none → NoScript path past)
    (javascript path) record := by
  refine fun _ _ found => ?_
  cases found
  case false => exact fun _ => .inl (.inl (by simp [lacks, inside]))
  refine fun _ _ answer => ?_
  rcases answer with message | content
  · exact fun _ => .inr (.inl (.inl (by
      simp [scripts, inside, bind, Except.bind, Except.toOption])))
  change Ends _ (((Process.ofExcept (packageScripts content)).andThen _).rescue _) _
  rcases parsed : packageScripts content with error | package
  · exact fun _ => .inr (.inl (.inl (by
      simp [scripts, inside, bind, Except.bind, Except.toOption, parsed])))
  change Ends _ ((if _ = true then _ else _ : Program _).rescue _) _
  split
  case isTrue =>
    iterate 6
      refine fun _ _ found => ?_
      cases found
      case true => exact fun missing => by cases missing
    exact fun missing => by cases missing
  case isFalse unscripted =>
    refine fun _ _ found => ?_
    cases found
    case true => exact fun missing => by cases missing
    exact fun _ => .inr (.inr (by
      simp [Shown, Since, outdates, lacks, scripts, inside, bind, Except.bind, Except.toOption,
        parsed, unscripted]))

theorem others_end (script : NoScript path record) :
    Ends (fun found past => found = none → NoBuildSystem path past)
      (firstDetected [firstExistingIn path python, firstExistingIn path compiled, gradle path,
        dotnet path, dart path]) record := by
  iterate 6
    refine fun _ _ found => ?_
    cases found
    case true => exact fun missing => by cases missing
  iterate 2
    refine fun _ _ found => ?_
    cases found
    case true => exact fun _ _ found => by cases found <;> exact fun missing => by cases missing
  refine fun _ _ answer => ?_
  rcases answer with message | files
  · trivial
  change Ends _ ((if (files.any _) = true then _ else _ : Program _).andThen _) _
  split
  case isTrue => exact fun missing => by cases missing
  case isFalse listed =>
    refine fun _ _ found => ?_
    cases found with
    | false =>
        refine fun _ => ⟨?_, by simp [Shown, Since, outdates, lacks, noProject, inside, listed]⟩
        iterate 10 refine NoScript.stable path _ _ rfl ?_
        exact script
    | true =>
        refine fun _ _ answer => ?_
        rcases answer with message | content
        · exact fun missing => by cases missing
        change Ends _ (((if _ = true then _ else _ : Program _).rescue _).andThen _) _
        split <;> exact fun missing => by cases missing

theorem detect_none :
    Triple assume (fun _ => True) (detect path)
      (fun found world => found = none → NoBuildSystem path world.history) (fun _ _ => True) := by
  refine Triple.bind (Ends.triple fun _ (_ : True) => javascript_ends) fun found => ?_
  cases found with
  | some system => exact .pure fun _ _ missing => by cases missing
  | none =>
      exact Triple.before (Ends.triple fun _ => others_end) fun _ script => script rfl

end Detection

theorem runBuildCheck_passed (stable : Stable fact) (path : String) :
    Triple assume (fun world => fact world.history) (runBuildCheck path)
      (fun result world => result.success = true →
        fact world.history ∧ RepoPassed path world.history) (fun _ _ => True) := by
  refine (stable.carry (BuildCheck.detect_uses probes _) detect_none).bind fun found => ?_
  cases found with
  | none => exact .pure fun _ holds _ => ⟨holds.2, .inr (.inr (holds.1 rfl))⟩
  | some system =>
      refine Triple.before (Ends.triple (?_ : ∀ record, fact record →
        Ends (fun (result : BuildCheckResult) past => result.success = true →
          fact past ∧ RepoPassed path past) _ record)) fun _ => And.right
      intro record holds before choice answer
      cases answer with
      | ok output =>
          exact fun _ => ⟨stable _ _ rfl holds, .inr (.inl (.inl (by simp [built])))⟩
      | error message => exact fun failed => by cases failed

theorem hasChanges_ends {path : String} {record : List SystemStep} :
    Ends (fun changed past => changed = false → Shown (unchanged path) past)
      (GitService.hasChanges path) record := by
  refine fun _ _ answer => ?_
  cases answer with
  | error message => trivial
  | ok listing => exact fun clean => .inl (by simpa [unchanged] using clean)

theorem checkRepo_passed (stable : Stable fact) (taskId : String) (repo : RepositoryInfo) :
    Triple assume (fun world => fact world.history) (checkRepo taskId repo)
      (fun found world => (∀ result, found = some result → result.success = true) →
        fact world.history ∧ RepoPassed repo.localPath world.history) (fun _ _ => True) := by
  refine Triple.tryCatch (?_ : Triple _ _ _ _ fun _ _ => True) fun _ =>
    .pure fun _ _ passed => by simpa using passed _ rfl
  refine (stable.carry (GitService.hasChanges_uses rfl)
    (Ends.triple fun _ (_ : True) => hasChanges_ends)).bind fun changed => .ite (fun _ => ?_)
      fun clean => .pure fun _ holds _ => ⟨holds.2, .inl (holds.1 (by simpa using clean))⟩
  refine Triple.bind (((stable.keeps (.call rfl)).before fun _ => And.right).onRaise
    fun _ _ _ => trivial) fun _ => (runBuildCheck_passed stable _).bind fun result => ?_
  have kept : Stable fun past => result.success = true →
      fact past ∧ RepoPassed repo.localPath past :=
    fun _ _ fresh passed success => (passed success).imp (stable _ _ fresh)
      (RepoPassed.stable _ _ _ fresh)
  have uses : Uses (fun request : Request => quiet request = true)
      (reportBuild taskId repo result) := .ite (.call rfl) (.call rfl)
  exact Triple.bind ((kept.keeps uses).onRaise fun _ _ _ => trivial) fun _ =>
    .pure fun _ holds passed => holds (passed _ rfl)

theorem runBuildChecksOnRepos_passed (repositories : List RepositoryInfo) (taskId : String) :
    Triple assume (fun _ => True) (runBuildChecksOnRepos repositories taskId)
      (fun checks world => checks.allPassed = true → BuildPassed repositories world.history)
      (fun _ _ => True) := by
  refine (Triple.foldlM (fun done (checks : BuildChecks) world => checks.allPassed = true →
    BuildPassed done world.history) fun done repo _ checks _ => ?_).before
    fun _ _ _ _ membership => by simp at membership
  have stable : Stable fun past => checks.allPassed = true → BuildPassed done past :=
    fun _ _ fresh passed all => BuildPassed.stable _ _ _ fresh (passed all)
  refine (checkRepo_passed stable taskId repo).bind fun found => .pure fun world holds passed => ?_
  suffices earlier : BuildPassed done world.history ∧ RepoPassed repo.localPath world.history by
    exact List.forall_mem_append.mpr ⟨earlier.1, by simpa using earlier.2⟩
  cases found with
  | none => exact (holds (by simp)).imp (· passed) id
  | some result =>
      have both : checks.allPassed = true ∧ result.success = true := by
        simpa [BuildChecks.add] using passed
      exact (holds (by simpa using both.2)).imp (· both.1) id

variable {context : DeveloperPhaseContext}

/-- Every commit so far went through the gate. -/
def Gated (context : DeveloperPhaseContext) (world : SystemWorld) : Prop :=
  Always (BuildGated context.repositories) world.history

/-- The gate is open. -/
def Passed (context : DeveloperPhaseContext) (world : SystemWorld) : Prop :=
  BuildPassed context.repositories world.history

theorem Gated.keeps {α : Type} {program : Program α}
    (uses : Uses (fun request : Request => request.isCommit = false) program) :
    Keeps assume (Gated context) program :=
  uses.keeps fun _ _ other _ gated => .cons (fun commits => by simp [other] at commits) gated

theorem Passed.next {world : SystemWorld} {request : Request} (passed : Passed context world)
    (still : quiet request = true) : Passed context (world.next request) :=
  BuildPassed.stable _ _ _ (outdates_step still world) passed

theorem gated_and_passed_keeps {α : Type} {program : Program α}
    (uses : Uses (fun request : Request => quiet request = true) program) :
    Keeps assume (fun world => Gated context world ∧ Passed context world) program :=
  uses.keeps fun _ _ still _ holds => ⟨.cons (fun _ => holds.2) holds.1, holds.2.next still⟩

theorem gatePermits (context : DeveloperPhaseContext) : context.GatePermits
    (fun request : Request => request.isCommit = false ∧ request.registers = false) := by
  refine .of_git (fun request other quiet => ⟨?_, quiet⟩) ⟨rfl, rfl⟩
    fun repo membership command permitted => ?_
  · cases request <;> first | rfl | simp [Request.git?] at other
  · cases command <;> first | exact ⟨rfl, rfl⟩ |
      simp [DeveloperPhaseContext.RollbackCommand] at permitted

theorem quiet_triple {α : Type} {session : Option String} {program : Program α}
    (uses : Uses (fun request : Request => request.isCommit = false ∧ request.registers = false)
      program) :
    Triple assume (fun world => Gated context world ∧ Unregistered session world) program
      (fun _ world => Gated context world ∧ Unregistered session world) (fun _ => Gated context) :=
  ((Gated.keeps (uses.mono fun _ => And.left)).and
    (Unregistered.keeps (uses.mono fun _ => And.right))).onRaise fun _ _ => And.left

theorem verifyBuild_passes (story : Story) (session : Option String)
    (remaining buildAttempts : Nat) (total : buildAttempts + (remaining + 1) = maxBuildAttempts)
    (result : StoryResultV2) :
    Triple (fun step _ => BuildRecovers step) (fun _ => True)
      (context.verifyBuild story session (remaining + 1) buildAttempts result)
      (fun _ => Passed context) (fun _ _ => True) := by
  have passes (attempt : Nat) : Triple (fun step _ => BuildRecovers step) (Passed context)
      (context.toTask (.storyBuildCheckSuccess story.id story.title attempt))
      (fun _ => Passed context) (fun _ _ => True) := .call fun _ passed _ => passed.next rfl
  induction remaining generalizing buildAttempts result with
  | zero =>
      refine (runBuildChecksOnRepos_passed _ _).bind fun checks => .ite (fun all => ?_) fun _ => ?_
      · exact ((passes _).before fun _ passed => passed all).bind fun _ => .pure fun _ => id
      · have impossible : Triple (fun step _ => BuildRecovers step) (fun _ => True)
            (context.toTask (.storyBuildCheckFailed story.id story.title (buildAttempts + 1)))
            (fun _ _ => False) (fun _ _ => True) := .call fun _ _ recovers => by
          simp [BuildRecovers, Request.reportsLastBuildFailure, ← total] at recovers
        exact (impossible.before fun _ _ => trivial).bind fun _ => .of_fact False.elim
  | succ remaining ih =>
      refine (runBuildChecksOnRepos_passed _ _).bind fun checks => .ite (fun all => ?_) fun _ => ?_
      · exact ((passes _).before fun _ passed => passed all).bind fun _ => .pure fun _ => id
      · refine Triple.nothing.bind fun _ => ?_
        have again := ih (buildAttempts + 1) (by omega) result
        cases session with
        | none => exact again
        | some sessionId => exact Triple.nothing.bind fun _ => again

theorem awaitApproval_passes (story : Story) (storyIndex : Nat) (result : StoryExecutionResult) :
    Triple assume
      (fun world => (Gated context world ∧ Unregistered result.sessionId world) ∧
        Passed context world)
      (context.awaitApproval story storyIndex result)
      (fun approved world => Gated context world ∧ (approved = true → Passed context world))
      (fun _ => Gated context) := by
  refine .ite (fun _ => .pure fun _ holds => ⟨holds.1.1, fun _ => holds.2⟩) fun _ => ?_
  have gated : Keeps assume (Gated context)
      (context.approvalLoop story storyIndex maxApprovalAttempts 0 result) :=
    Gated.keeps (context.withoutCommit.approvalLoop story storyIndex _ _ result)
  exact (gated.and (DeveloperPhaseContext.approvalLoop_unregistered
    (fun _ _ _ _ _ passed => passed.next rfl) (fun _ _ _ _ _ _ _ _ passed => passed.next rfl)
    story storyIndex _ _ result)).weaken (fun _ holds => ⟨holds.1.1, holds.2, holds.1.2⟩)
    (fun _ _ => id) fun _ _ => And.left

theorem concludeStory_gated (story : Story) (storyIndex : Nat) (approved : Bool)
    (recorded : StoryResultV2) :
    Triple assume (fun world => Gated context world ∧ (approved = true → Passed context world))
      (context.concludeStory story storyIndex approved recorded)
      (fun _ => Gated context) (fun _ => Gated context) := by
  refine .ite (fun decided => ?_) fun _ => ?_
  · have open? : Keeps assume (fun world => Gated context world ∧ Passed context world)
        (context.commitRepositories story storyIndex) :=
      gated_and_passed_keeps (DeveloperPhaseContext.commitRepositories_uses fun _ _ _ _ => rfl)
    have logged : Keeps assume (fun world => Gated context world ∧ Passed context world)
        (Console.log (.committingStory story)) := gated_and_passed_keeps (.call rfl)
    refine Triple.weaken (logged.bind fun _ => open?.bind fun _ => .pure fun _ => id)
      (fun _ holds => ⟨holds.1, holds.2 decided⟩) (fun _ _ => And.left) fun _ _ => And.left
  · refine Triple.before (Gated.keeps ?_) fun _ => And.left
    exact .bind (.call rfl) fun _ => .bind context.withoutCommit.rollbackRepositories fun _ =>
      .bind (.call rfl) fun _ => .pure _

theorem acceptStory_gated (story : Story) (storyIndex : Nat) (result : StoryExecutionResult)
    (recorded : StoryResultV2) :
    Triple (fun step _ => BuildRecovers step)
      (fun world => Gated context world ∧ Unregistered result.sessionId world)
      (context.acceptStory story storyIndex result recorded)
      (fun _ => Gated context) (fun _ => Gated context) := by
  refine (quiet_triple (DeveloperPhaseContext.anyRepoHasChanges_uses
    (gatePermits context).status)).bind fun changed => .ite (fun _ => ?_) fun _ => ?_
  · refine (quiet_triple (.call ⟨rfl, rfl⟩)).bind fun _ => ?_
    have checked : Triple (fun step _ => BuildRecovers step)
        (fun world => Gated context world ∧ Unregistered result.sessionId world)
        (context.verifyBuild story result.sessionId maxBuildAttempts 0 recorded)
        (fun _ world => (Gated context world ∧ Unregistered result.sessionId world) ∧
          Passed context world)
        (fun _ => Gated context) :=
      (quiet_triple ((gatePermits context).verifyBuild (fun _ _ => ⟨rfl, rfl⟩) story _ _ 0
        recorded)).also (verifyBuild_passes story result.sessionId 2 0 rfl recorded)
    refine checked.bind fun _ => (awaitApproval_passes story storyIndex result).bind fun _ => ?_
    exact (concludeStory_gated story storyIndex _ _).bind fun _ => .pure fun _ => id
  · exact .pure fun _ => And.left

theorem executeDeveloperPhase_gated (context : DeveloperPhaseContext) :
    Keeps (fun step _ => BuildRecovers step) (Gated context) (executeDeveloperPhase context) := by
  have permits := context.withoutCommit
  refine DeveloperPhaseContext.executeDeveloperPhase_rule
    (fun uses => Gated.keeps (uses.mono fun _ frames => by cases frames <;> rfl))
    (fun _ _ => Triple.also (Gated.keeps (executeStoryWithSession_uses permits.toStoryPermits))
      (executeStoryWithSession_unregistered _))
    fun story storyIndex result => .ite (fun approved => ?_) fun _ => ?_
  · exact (acceptStory_gated story storyIndex result _).before
      fun _ holds => ⟨holds.1, holds.2 approved⟩
  · exact Triple.before (Gated.keeps (permits.discardStory story result _)) fun _ => And.left

end BuildGate

/-- For every list of stories and every behaviour of builds, agents, git and user: as long as
no build check fails in its last attempt, each commit comes after a build check that passed for
all repositories, with no prompt in between. -/
theorem developer_commits_after_passed_build (context : DeveloperPhaseContext) (system : System)
    (choices : Nat → Choice)
    (recovers : Always (fun step _ => BuildRecovers step)
      ((executeDeveloperPhase context).exec (system.start choices)).2.history) :
    Always (BuildGated context.repositories)
      ((executeDeveloperPhase context).exec (system.start choices)).2.history :=
  Triple.exec (BuildGate.executeDeveloperPhase_gated context) .nil recovers

/-- Three failed builds and a rollback that fails: the story is committed all the same. -/
theorem developer_commits_failed_build :
    ¬Always (BuildGated [Sample.api]) ((executeDeveloperPhase (Sample.developer [Sample.api])).exec
      (Sample.backend.start (Sample.unbuildableStory
        { fault := some "index.lock exists" }))).2.history := by
  decide +kernel

/-- The first build fails, the second one passes. -/
def BuildGate.repairedStory : Nat → Choice :=
  script (Sample.session 3 Sample.newFile (Sample.verdictText "approved") ++
    Sample.failedBuild 30 ++ [(42, { found := true })])

theorem developer_commits_after_passed_build_accepted :
    (∃ step ∈ ((executeDeveloperPhase (Sample.developer [Sample.api])).exec
      (Sample.backend.start BuildGate.repairedStory)).2.history, step.call.isCommit = true) ∧
    Always (BuildGated [Sample.api]) ((executeDeveloperPhase (Sample.developer [Sample.api])).exec
      (Sample.backend.start BuildGate.repairedStory)).2.history :=
  ⟨by decide +kernel, developer_commits_after_passed_build (Sample.developer [Sample.api]) _ _
    (by decide +kernel)⟩

end MultiAgents
