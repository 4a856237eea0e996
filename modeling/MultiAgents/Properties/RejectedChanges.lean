import MultiAgents.Orchestrator.Rules
import MultiAgents.Phases.Developer.Sessions
import MultiAgents.Properties.Sample
import MultiAgents.System.WorkingTree

/-!
# Changes of rejected stories

A story that is not accepted is rolled back in every listed repository.  What
its session changed can reach a later commit only if the session goes on editing
after the decision, if a command of the rollback fails, or if it is something
that the rollback does not discard.
-/

namespace MultiAgents

open Effects Record

namespace Request

/-- Where a request asks for the changes or discards some of them. -/
def rollsBackIn? : Request → Option String
  | .git .status directory | .git .resetHard directory | .git .cleanFd directory => some directory
  | _ => none

/-- A request that can settle that a story is not accepted. -/
def decides : Request → Bool
  | .toTask _ (.sessionClosed _ _ _ verdict) => !verdict.isApproved
  | .toTask _ (.storyBuildCheckFailed _ _ attempt) => attempt == maxBuildAttempts
  | .writeSession (.updateStatus _ status) => status == "error"
  | .requestApproval _ (.story _) _ => true
  | _ => false

theorem decides_of_milestone {taskId : String} {notice : Notice}
    (other : notice.isMilestone = false) : (Request.toTask taskId notice).decides = false := by
  cases notice <;> first | rfl | cases other

end Request

def storySession? : SystemStep → Option String
  | ⟨_, _, .createSession (.story _ _ _) _, .ok sessionId⟩ => some sessionId
  | _ => none

def currentSession : List SystemStep → Option String
  | [] => none
  | step :: past =>
      if step.call.startsStory then none else storySession? step <|> currentSession past

/-- The step settles that the story of the session is not accepted: the session ends with another
verdict than `approved` or with an error, the story fails its last build check, or the user is
asked and does not approve.  (A request for changes is no approval either: it goes to a session
whose answer is not received any more.) -/
def rejects (session : String) : SystemStep → Bool
  | ⟨_, _, .toTask _ (.sessionClosed closed _ _ verdict), _⟩ =>
      closed == session && !verdict.isApproved
  | ⟨_, _, .toTask _ (.storyBuildCheckFailed _ _ attempt), _⟩ => attempt == maxBuildAttempts
  | ⟨_, _, .writeSession (.updateStatus ended status), _⟩ => ended == session && status == "error"
  | ⟨_, _, .requestApproval _ (.story _) _, .ok response⟩ => response.action != .approve
  | ⟨_, _, .requestApproval _ (.story _) _, .error _⟩ => true
  | _ => false

/-- The sessions of the stories whose final verdict is not `approved`. -/
def rejectedSessions : List SystemStep → List String
  | [] => []
  | step :: past =>
      ((currentSession past).toList.filter fun session => rejects session step) ++
        rejectedSessions past

def CommitsAccepted (step : SystemStep) (past : List SystemStep) : Prop :=
  ∀ directory ∈ step.call.commitsIn?, ∀ change ∈ step.before.repositories.changes directory,
    change.added = true → change.session ∉ rejectedSessions past

instance (step : SystemStep) (past : List SystemStep) : Decidable (CommitsAccepted step past) :=
  inferInstanceAs (Decidable (∀ _ ∈ _, ∀ _ ∈ _, _ → _))

/-- The shell takes the command line as it is meant, the sessions of rejected stories make no
further edits, and where they have left changes, a command of the rollback succeeds and the changes
are neither ignored files nor nested repositories. -/
def RejectionSettles (step : SystemStep) (past : List SystemStep) : Prop :=
  step.call.literal = true ∧ (∀ edit ∈ stepEdits step, edit.session ∉ rejectedSessions past) ∧
    ∀ directory ∈ step.call.rollsBackIn?, ∀ change ∈ step.before.repositories.changes directory,
      change.session ∈ rejectedSessions past →
        gitFailed step = false ∧ change.discardable = true

instance (step : SystemStep) (past : List SystemStep) : Decidable (RejectionSettles step past) :=
  inferInstanceAs (Decidable (_ ∧ _ ∧ _))

namespace RejectedChanges

def Clean (world : SystemWorld) (directory : String) : Prop :=
  ∀ change ∈ world.state.repositories.changes directory,
    change.session ∉ rejectedSessions world.history

def Recorded (world : SystemWorld) : Prop := Always CommitsAccepted world.history

/-- Only accepted changes were committed, and the given directories are clean. -/
def Safe (listed : List String) (world : SystemWorld) : Prop :=
  Recorded world ∧ ∀ directory ∈ listed, Clean world directory

structure Contained (listed : List String) (request : Request) : Prop where
  undecided : request.decides = false
  listed : ∀ directory ∈ request.commitsIn?, directory ∈ listed

theorem Contained.of_quiet {listed : List String} {request : Request}
    (undecided : request.decides = false) (quiet : request.commitsIn? = none) :
    Contained listed request :=
  ⟨undecided, by simp [quiet]⟩

/-- The step settles nothing against a story. -/
def Accepts (step : SystemStep) : Prop := ∀ session, rejects session step = false

theorem accepts_of_undecided {step : SystemStep} (undecided : step.call.decides = false) :
    Accepts step := by
  intro session
  unfold rejects
  split <;> simp_all [Request.decides]

theorem rejectedSessions_next {world : SystemWorld} {request : Request}
    (accepts : Accepts (world.step request)) :
    rejectedSessions (world.next request).history = rejectedSessions world.history := by
  simp [World.next_history, rejectedSessions, accepts _]

theorem Clean.next {world : SystemWorld} {request : Request} {directory : String}
    (clean : Clean world directory) (accepts : Accepts (world.step request))
    (settles : RejectionSettles (world.step request) world.history) :
    Clean (world.next request) directory := by
  intro change present
  rw [rejectedSessions_next accepts]
  rcases SystemWorld.mem_next settles.1 present with
    ⟨middle, left, remains, _⟩ | ⟨edit, made, _, same, _⟩
  · obtain ⟨earlier, membership, same, _⟩ := SystemWorld.exists_of_mem_respond settles.1 left
    rw [← (Change.bare_eq_iff.mp (same.trans remains.bare_eq)).2.2.2]
    exact clean earlier membership
  · rw [← same]
    exact settles.2.1 edit made

theorem Recorded.next {world : SystemWorld} {request : Request} (recorded : Recorded world)
    (quiet : request.commitsIn? = none) : Recorded (world.next request) :=
  .cons (fun directory commits => by simp [World.step, quiet] at commits) recorded

theorem Recorded.keeps {α : Type} {program : Program α}
    (uses : Uses (fun request : Request => request.commitsIn? = none) program) :
    Keeps RejectionSettles Recorded program :=
  uses.keeps fun _ _ quiet _ recorded => recorded.next quiet

theorem Safe.accepted {listed : List String} {world : SystemWorld} {request : Request}
    (safe : Safe listed world) (accepts : Accepts (world.step request))
    (inside : ∀ directory ∈ request.commitsIn?, directory ∈ listed)
    (settles : RejectionSettles (world.step request) world.history) :
    Safe listed (world.next request) :=
  ⟨.cons (fun directory commits change present _ =>
      safe.2 directory (inside directory commits) change present) safe.1,
    fun directory membership => (safe.2 directory membership).next accepts settles⟩

theorem Safe.next {listed : List String} {world : SystemWorld} {request : Request}
    (safe : Safe listed world) (contained : Contained listed request)
    (settles : RejectionSettles (world.step request) world.history) :
    Safe listed (world.next request) :=
  safe.accepted (accepts_of_undecided contained.undecided) contained.listed settles

theorem Safe.keeps {α : Type} {listed : List String} {program : Program α}
    (uses : Uses (Contained listed) program) : Keeps RejectionSettles (Safe listed) program :=
  uses.keeps fun _ _ contained settles safe => safe.next contained settles

theorem Safe.triple {α : Type} {listed : List String} {program : Program α}
    (uses : Uses (Contained listed) program) :
    Triple RejectionSettles (Safe listed) program (fun _ => Safe listed) (fun _ => Recorded) :=
  (Safe.keeps uses).onRaise fun _ _ => And.left

/-- What is left of rejected changes after the reset: files the index does not know. -/
def Reset (directory : String) (world : SystemWorld) : Prop :=
  ∀ change ∈ world.state.repositories.changes directory,
    change.session ∈ rejectedSessions world.history → change.indexed = false

section Rollback

variable {world : SystemWorld} {directory output message : String} {command : GitCommand}

/-- A command of the rollback that succeeded leaves only what it leaves of the changes before. -/
theorem exists_of_mem_rollback
    (rolls : (Request.git command directory).rollsBackIn? = some directory)
    (answered : world.answer (.git command directory) = .ok output)
    (settles : RejectionSettles (world.step (.git command directory)) world.history)
    {change : Change}
    (present : change ∈ (world.next (.git command directory)).state.repositories.changes directory)
    (rejected : change.session ∈
      rejectedSessions (world.next (.git command directory)).history) :
    ∃ left ∈ command.changesAfter (world.state.repositories.changes directory),
      left.indexed = change.indexed ∧ left.session ∈ rejectedSessions world.history ∧
        left.discardable = true := by
  rw [rejectedSessions_next (accepts_of_undecided rfl)] at rejected
  have literal : (Request.git command directory).literal = true := settles.1
  rcases SystemWorld.mem_next literal present with
    ⟨left, membership, remains, _⟩ | ⟨edit, made, _, same, _⟩
  · rw [SystemWorld.respond_git_ok settles.1 answered, if_pos rfl] at membership
    obtain ⟨earlier, old, same, kind⟩ := GitCommand.exists_of_mem_changesAfter membership
    have alike := Change.bare_eq_iff.mp remains.bare_eq
    have session : left.session = change.session := alike.2.2.2
    refine ⟨left, membership, ?_, session ▸ rejected, ?_⟩
    · rw [← remains]
      rfl
    · have discards := (settles.2.2 directory rolls earlier old
        ((Change.bare_eq_iff.mp same).2.2.2.trans session ▸ rejected)).2
      rwa [Change.discardable, ← kind]
  · exact absurd rejected (same ▸ settles.2.1 edit made)

theorem clean_of_status (answered : world.answer (.git .status directory) = .ok output)
    (settles : RejectionSettles (world.step (.git .status directory)) world.history)
    (blank : String.ofList (Text.trim output.toList) = "") :
    Clean (world.next (.git .status directory)) directory := by
  intro change present rejected
  obtain ⟨left, membership, _, _, discards⟩ :=
    exists_of_mem_rollback rfl answered settles present rejected
  have ignored := (SystemWorld.status_blank_iff answered).mp blank left membership
  simp [Change.discardable, ignored] at discards

theorem clean_of_failure
    (rolls : (Request.git command directory).rollsBackIn? = some directory)
    (answered : world.answer (.git command directory) = .error message)
    (settles : RejectionSettles (world.step (.git command directory)) world.history) :
    Clean (world.next (.git command directory)) directory := by
  refine Clean.next (fun change present rejected => ?_) (accepts_of_undecided rfl) settles
  have succeeded := (settles.2.2 directory rolls change present rejected).1
  rw [gitFailed_step answered] at succeeded
  cases succeeded

theorem reset_of_resetHard (answered : world.answer (.git .resetHard directory) = .ok output)
    (settles : RejectionSettles (world.step (.git .resetHard directory)) world.history) :
    Reset directory (world.next (.git .resetHard directory)) := by
  intro change present rejected
  obtain ⟨left, membership, same, _, discards⟩ :=
    exists_of_mem_rollback rfl answered settles present rejected
  obtain ⟨earlier, kept, rfl⟩ := List.mem_map.mp membership
  have unknown := (List.mem_filter.mp kept).2
  simp only [Change.discardable] at discards unknown
  rw [← same]
  simp_all [Change.indexed]

theorem clean_of_cleanFd (reset : Reset directory world)
    (answered : world.answer (.git .cleanFd directory) = .ok output)
    (settles : RejectionSettles (world.step (.git .cleanFd directory)) world.history) :
    Clean (world.next (.git .cleanFd directory)) directory := by
  intro change present rejected
  obtain ⟨left, membership, _, earlier, discards⟩ :=
    exists_of_mem_rollback rfl answered settles present rejected
  obtain ⟨old, kept⟩ := List.mem_filter.mp membership
  simp [discards, reset left old earlier] at kept

end Rollback

theorem Safe.snoc {listed : List String} {directory : String} {world : SystemWorld}
    (safe : Safe listed world) (clean : Clean world directory) :
    Safe (listed ++ [directory]) world := by
  refine ⟨safe.1, fun other membership => ?_⟩
  rcases List.mem_append.mp membership with earlier | last
  · exact safe.2 other earlier
  · rwa [List.mem_singleton.mp last]

theorem hasChanges_triple (listed : List String) (directory : String) :
    Triple RejectionSettles (Safe listed) (GitService.hasChanges directory)
      (fun changed world => Safe listed world ∧ (changed = false → Clean world directory))
      (fun _ world => Safe listed world ∧ Clean world directory) := by
  have listing : Triple RejectionSettles (Safe listed) (GitService.git .status directory)
      (fun status world => Safe listed world ∧ (status = "" → Clean world directory))
      (fun _ world => Safe listed world ∧ Clean world directory) :=
    GitService.git_triple
      (fun world output safe settles answered =>
        ⟨safe.next (.of_quiet rfl rfl) settles, clean_of_status answered settles⟩)
      fun world message safe settles answered =>
        ⟨safe.next (.of_quiet rfl rfl) settles, clean_of_failure rfl answered settles⟩
  exact listing.bind fun status => .pure fun world holds =>
    ⟨holds.1, fun unchanged => holds.2 (by simpa using unchanged)⟩

theorem discardChanges_triple (listed : List String) (directory : String) :
    Triple RejectionSettles (Safe listed) (GitService.discardChanges directory)
      (fun _ => Safe (listed ++ [directory])) (fun _ _ => False) := by
  have reset : Triple RejectionSettles (Safe listed) (GitService.git .resetHard directory)
      (fun _ world => Safe listed world ∧ Reset directory world)
      (fun _ => Safe (listed ++ [directory])) :=
    GitService.git_triple
      (fun world output safe settles answered =>
        ⟨safe.next (.of_quiet rfl rfl) settles, reset_of_resetHard answered settles⟩)
      fun world message safe settles answered =>
        (safe.next (.of_quiet rfl rfl) settles).snoc (clean_of_failure rfl answered settles)
  have clean : Triple RejectionSettles
      (fun world => Safe listed world ∧ Reset directory world)
      (GitService.git .cleanFd directory) (fun _ => Safe (listed ++ [directory]))
      (fun _ => Safe (listed ++ [directory])) :=
    GitService.git_triple
      (fun world output holds settles answered =>
        (holds.1.next (.of_quiet rfl rfl) settles).snoc
          (clean_of_cleanFd holds.2 answered settles))
      fun world message holds settles answered =>
        (holds.1.next (.of_quiet rfl rfl) settles).snoc (clean_of_failure rfl answered settles)
  refine Triple.tryCatch (reset.bind fun _ => clean.bind fun _ => ?_) fun _ => ?_
  · exact .pure fun _ => id
  · exact .pure fun _ => id

theorem rollbackRepository_triple (listed : List String) (repo : RepositoryInfo) :
    Triple RejectionSettles (Safe listed) (DeveloperPhaseContext.rollbackRepository repo)
      (fun _ => Safe (listed ++ [repo.localPath])) (fun _ _ => False) := by
  refine Triple.tryCatch ((hasChanges_triple listed repo.localPath).bind fun changed => ?_)
    fun _ => .pure fun _ holds => holds.1.snoc holds.2
  cases changed with
  | true =>
      exact Triple.bind ((discardChanges_triple listed repo.localPath).weaken
        (fun _ holds => holds.1) (fun _ _ => id) fun _ _ => False.elim) fun _ => .pure fun _ => id
  | false => exact .pure fun _ holds => holds.1.snoc (holds.2 rfl)

variable {context : DeveloperPhaseContext}

def paths (repositories : List RepositoryInfo) : List String :=
  repositories.map RepositoryInfo.localPath

theorem rollbackRepositories_triple (context : DeveloperPhaseContext) :
    Triple RejectionSettles Recorded context.rollbackRepositories
      (fun _ => Safe (paths context.repositories)) (fun _ => Recorded) := by
  refine Triple.before (Triple.foldlM (fun done _ => Safe (paths done)) ?_)
    fun _ recorded => ⟨recorded, by simp [paths]⟩
  intro done repo rest rolledBack _
  refine ((rollbackRepository_triple (paths done) repo).onRaise
    fun _ _ => False.elim).bind fun _ => .pure fun _ safe => ?_
  simpa [paths] using safe

theorem contained_status {repo : RepositoryInfo} (_ : repo ∈ context.repositories) :
    Contained (paths context.repositories) (.git .status repo.localPath) :=
  .of_quiet rfl rfl

theorem sessionPermits (taskId sessionId : String) {listed : List String} :
    SessionPermits taskId sessionId (Contained listed) where
  notice _ other := .of_quiet (Request.decides_of_milestone other) rfl
  prompt _ := .of_quiet rfl rfl
  wait _ := .of_quiet rfl rfl

theorem buildPermits {listed : List String} : BuildPermits (Contained listed) where
  existsSync _ := .of_quiet rfl rfl
  readFileSync _ := .of_quiet rfl rfl
  readdirSync _ := .of_quiet rfl rfl
  execBuild _ _ := .of_quiet rfl rfl

theorem toTask_triple {notice : Notice}
    (undecided : (Request.toTask context.taskId notice).decides = false) :
    Triple RejectionSettles (Safe (paths context.repositories)) (context.toTask notice)
      (fun _ => Safe (paths context.repositories)) (fun _ => Recorded) :=
  Safe.triple (.call (.of_quiet undecided rfl))

/-- The session ends with its verdict; until then nothing is settled. -/
theorem executeStoryWithSession_triple (story : StoryContext) (listed : List String) :
    Triple RejectionSettles (Safe listed) (executeStoryWithSession story)
      (fun result world => Recorded world ∧
        (result.verdict.isApproved = true → Safe listed world)) (fun _ => Recorded) := by
  refine (Safe.triple (.call (.of_quiet rfl rfl))).bind fun answer => ?_
  cases answer with
  | error message => exact .pure fun _ safe => ⟨safe.1, fun _ => safe⟩
  | ok sessionId =>
      have closed (verdict : Verdict) : Triple RejectionSettles (Safe listed)
          (story.toTask (.sessionClosed sessionId story.story.id story.storyIndex verdict))
          (fun _ world => Recorded world ∧ (verdict.isApproved = true → Safe listed world))
          (fun _ => Recorded) :=
        .call fun _ safe settles => ⟨safe.1.next rfl, fun approved =>
          safe.next (.of_quiet (by simp [Request.decides, approved]) rfl) settles⟩
      refine Triple.tryCatch ?_ fun _ => Triple.bind
        (Recorded.keeps (.tryCatch (.bind (SessionRepository.updateStatus_uses rfl) fun _ =>
          .call rfl) fun _ => .pure _)) fun _ =>
            .pure fun _ recorded => ⟨recorded, fun approved => ?_⟩
      · refine (Safe.triple (.call (.of_quiet rfl rfl))).bind fun _ => ?_
        refine (Safe.triple (SessionRepository.create_uses (.of_quiet rfl rfl))).bind fun _ => ?_
        refine (Safe.triple (.call (.of_quiet rfl rfl))).bind fun _ => ?_
        refine (Safe.triple (StoryContext.iterate_uses (sessionPermits _ _) _ _)).bind
          fun progress => ?_
        refine (Safe.triple (SessionRepository.updateStatus_uses (.of_quiet rfl rfl))).bind
          fun _ => ?_
        refine (Safe.triple (.call (.of_quiet rfl rfl))).bind fun _ => ?_
        exact (closed _).bind fun _ => .pure fun _ => id
      · simp [StoryContext.failure, Verdict.isApproved] at approved

theorem verifyBuild_triple (story : Story) (sessionId : Option String)
    (remaining buildAttempts : Nat) (result : StoryResultV2)
    (total : buildAttempts + remaining ≤ maxBuildAttempts) :
    Triple RejectionSettles (Safe (paths context.repositories))
      (context.verifyBuild story sessionId remaining buildAttempts result)
      (fun _ => Safe (paths context.repositories)) (fun _ => Recorded) := by
  induction remaining generalizing buildAttempts result with
  | zero => exact .pure fun _ => id
  | succ remaining ih =>
      refine (Safe.triple (runBuildChecksOnRepos_uses buildPermits
        (fun _ other => .of_quiet (Request.decides_of_milestone other) rfl)
        fun _ => contained_status)).bind fun checks => ?_
      refine .ite (fun _ => (toTask_triple rfl).bind fun _ => .pure fun _ => id) fun _ => ?_
      cases remaining with
      | zero =>
          have failed : Triple RejectionSettles (Safe (paths context.repositories))
              (context.toTask (.storyBuildCheckFailed story.id story.title (buildAttempts + 1)))
              (fun _ => Recorded) (fun _ => Recorded) := .call fun _ safe _ => safe.1.next rfl
          refine failed.bind fun _ => Triple.bind (Recorded.keeps (.call rfl)) fun _ => ?_
          refine (Triple.ofExcept (fun _ _ _ => id) fun _ _ _ => id).bind fun rejected => ?_
          exact (rollbackRepositories_triple context).bind fun _ =>
            (toTask_triple rfl).bind fun _ => .pure fun _ => id
      | succ remaining =>
          have more : ¬buildAttempts + 1 = maxBuildAttempts := by omega
          refine (toTask_triple (by simpa [Request.decides] using more)).bind fun _ => ?_
          have again := ih (buildAttempts + 1) result (by omega)
          cases sessionId with
          | none => exact again
          | some session =>
              refine (Safe.triple (DeveloperPhaseContext.requestBuildFix_uses
                (fun _ => .of_quiet rfl rfl) fun _ => .of_quiet rfl rfl)).bind fun _ => again

theorem awaitApproval_triple (story : Story) (storyIndex : Nat) (result : StoryExecutionResult) :
    Triple RejectionSettles
      (fun world => Safe (paths context.repositories) world ∧ Unregistered result.sessionId world)
      (context.awaitApproval story storyIndex result)
      (fun approved world => Recorded world ∧
        (approved = true → Safe (paths context.repositories) world)) (fun _ => Recorded) := by
  refine .ite (fun _ => .pure fun _ holds => ⟨holds.1.1, fun _ => holds.1⟩) fun _ => ?_
  have recorded : Keeps RejectionSettles Recorded
      (context.approvalLoop story storyIndex maxApprovalAttempts 0 result) :=
    Recorded.keeps ((context.withoutCommit.approvalLoop story storyIndex _ _ result).mono
      fun _ => Request.commitsIn?_of_isCommit)
  have approves : Triple RejectionSettles
      (fun world => Safe (paths context.repositories) world ∧ Unregistered result.sessionId world)
      (context.approvalLoop story storyIndex maxApprovalAttempts 0 result)
      (fun approved world => approved = true → Safe (paths context.repositories) world)
      (fun _ _ => True) := by
    refine DeveloperPhaseContext.approvalLoop_unregistered ?_ ?_ story storyIndex _ _ result
    · intro _ command _ lists settles safe
      exact safe.next (.of_quiet rfl (by rcases lists with rfl | rfl <;> rfl)) settles
    · intro world taskId storyId output response answered approves settles safe
      exact safe.accepted (fun session => by simp [World.step, answered, rejects, approves])
        (by simp [Request.commitsIn?]) settles
  exact (recorded.and approves).weaken (fun _ holds => ⟨holds.1.1, holds⟩) (fun _ _ => id)
    fun _ _ => And.left

theorem commitRepositories_contained (story : Story) (storyIndex : Nat) :
    Uses (Contained (paths context.repositories))
      (context.commitRepositories story storyIndex) := by
  refine DeveloperPhaseContext.commitRepositories_uses fun repo membership command _ =>
    ⟨rfl, fun directory commits => ?_⟩
  exact Request.mem_commitsIn?_git commits ▸ List.mem_map_of_mem membership

theorem concludeStory_triple (story : Story) (storyIndex : Nat) (userApproved : Bool)
    (recorded : StoryResultV2) :
    Triple RejectionSettles
      (fun world => Recorded world ∧
        (userApproved = true → Safe (paths context.repositories) world))
      (context.concludeStory story storyIndex userApproved recorded)
      (fun _ => Safe (paths context.repositories)) (fun _ => Recorded) := by
  refine .ite (fun approved => ?_) fun _ => ?_
  · refine Triple.before ?_ fun _ holds => holds.2 approved
    refine (Safe.triple (.call (.of_quiet rfl rfl))).bind fun _ => ?_
    exact (Safe.triple (commitRepositories_contained story storyIndex)).bind fun _ =>
      .pure fun _ => id
  · refine (Triple.before (Recorded.keeps (.call rfl)) fun _ => And.left).bind fun _ => ?_
    exact (rollbackRepositories_triple context).bind fun _ => (toTask_triple rfl).bind fun _ =>
      .pure fun _ => id

/-- While the session stays unregistered. -/
theorem unregistered_triple {α : Type} {session : Option String} {program : Program α}
    {pre : SystemWorld → Prop} {returned : α → SystemWorld → Prop}
    (triple : Triple RejectionSettles pre program returned fun _ => Recorded)
    (quiet : Uses (fun request : Request => request.registers = false) program) :
    Triple RejectionSettles (fun world => pre world ∧ Unregistered session world) program
      (fun value world => returned value world ∧ Unregistered session world) (fun _ => Recorded) :=
  (triple.and (Unregistered.keeps quiet)).onRaise fun _ _ => And.left

theorem unregistering : context.GatePermits fun request : Request => request.registers = false :=
  .of_git (fun _ _ => id) rfl fun _ _ _ _ => rfl

theorem acceptStory_triple (story : Story) (storyIndex : Nat) (result : StoryExecutionResult)
    (recorded : StoryResultV2) :
    Triple RejectionSettles
      (fun world => Safe (paths context.repositories) world ∧ Unregistered result.sessionId world)
      (context.acceptStory story storyIndex result recorded)
      (fun _ => Safe (paths context.repositories)) (fun _ => Recorded) := by
  refine (unregistered_triple (Safe.triple (DeveloperPhaseContext.anyRepoHasChanges_uses fun _ =>
    contained_status)) (DeveloperPhaseContext.anyRepoHasChanges_uses fun _ _ => rfl)).bind
    fun _ => .ite (fun _ => ?_) fun _ => .pure fun _ => And.left
  refine (unregistered_triple (toTask_triple rfl) (.call rfl)).bind fun _ => ?_
  refine (unregistered_triple (verifyBuild_triple story _ _ _ _ (by decide))
    (unregistering.verifyBuild (fun _ _ => rfl) story _ _ _ _)).bind fun built => ?_
  refine (awaitApproval_triple story storyIndex result).bind fun _ => ?_
  exact (concludeStory_triple _ _ _ _).bind fun _ => .pure fun _ => id

theorem settleStory_triple (story : Story) (storyIndex : Nat) (result : StoryExecutionResult)
    (recorded : StoryResultV2) :
    Triple RejectionSettles
      (fun world => (Recorded world ∧ (result.verdict.isApproved = true →
        Safe (paths context.repositories) world)) ∧
          (result.verdict.isApproved = true → Unregistered result.sessionId world))
      (context.settleStory story storyIndex result recorded)
      (fun _ => Safe (paths context.repositories)) (fun _ => Recorded) := by
  refine .ite (fun approved => ?_) fun _ => ?_
  · exact (acceptStory_triple story storyIndex result recorded).before
      fun _ holds => ⟨holds.1.2 approved, holds.2 approved⟩
  · refine (Triple.before (Recorded.keeps (.call rfl)) fun _ holds => holds.1.1).bind fun _ => ?_
    refine (rollbackRepositories_triple context).bind fun _ => Triple.bind ?_ fun _ =>
      .pure fun _ => id
    exact .ite (fun _ => toTask_triple rfl) fun _ => .pure fun _ => id

theorem executeDeveloperPhase_triple (context : DeveloperPhaseContext) :
    Triple RejectionSettles (Safe (paths context.repositories)) (executeDeveloperPhase context)
      (fun _ => Safe (paths context.repositories)) (fun _ => Recorded) := by
  refine DeveloperPhaseContext.executeDeveloperPhase_rule
    (fun uses => Safe.triple (uses.mono fun _ frames => ?_))
    (fun _ _ => (executeStoryWithSession_triple _ _).also (executeStoryWithSession_unregistered _))
    fun _ _ _ => settleStory_triple _ _ _ _
  cases frames with
  | @notice notice told => cases notice <;> first | exact .of_quiet rfl rfl | cases told
  | _ => exact .of_quiet rfl rfl

theorem contained_of_agentWork {listed : List String} (request : Request)
    (work : request.isAgentWork = true) : Contained listed request := by
  refine .of_quiet ?_ (by cases request <;> first | rfl | cases work)
  cases request with
  | toTask taskId notice =>
      exact Request.decides_of_milestone (by simpa [Request.isAgentWork] using work)
  | writeSession write => cases write <;> simp_all [Request.decides, Request.isAgentWork]
  | requestApproval taskId phase output => cases phase <;> first | rfl | cases work
  | _ => rfl

theorem contained_git {listed : List String} {directory : String}
    (membership : directory ∈ listed) (command : GitCommand) :
    Contained listed (.git command directory) := by
  refine ⟨rfl, fun other commits => ?_⟩
  exact Request.mem_commitsIn?_git commits ▸ membership

theorem executeMergePhase_contained (context : MergePhaseContext)
    (listed : context.repositories ≠ []) :
    Uses (Contained (paths context.repositories)) (executeMergePhase context) := by
  refine executeMergePhase_uses
    ⟨fun _ other => .of_quiet (Request.decides_of_milestone other) rfl,
      fun _ _ => .of_quiet rfl rfl, fun _ _ => .of_quiet rfl rfl, fun _ _ => .of_quiet rfl rfl⟩
    fun repo membership command _ => contained_git ?_ command
  rw [MergePhaseContext.reposToProcess, if_pos listed] at membership
  obtain ⟨info, inList, rfl⟩ := List.mem_map.mp membership
  exact List.mem_map_of_mem inList

theorem rules (taskId : String) (options : OrchestrationOptions)
    (listed : options.repositories ≠ []) :
    StageRules taskId options RejectionSettles (Safe (paths options.repositories)) Recorded where
  weaker _ := And.left
  find := Safe.triple (.attempt (.call (.of_quiet rfl rfl)))
  configure := Safe.triple (.attempt (.call (.of_quiet rfl rfl)))
  write _ := Safe.triple (.attempt (.call (.of_quiet rfl rfl)))
  callback _ := Safe.triple (.attempt (.call (.of_quiet rfl rfl)))
  report _ := Recorded.keeps (.attempt (.call rfl))
  notice _ other := Safe.triple (.call (.of_quiet (Request.decides_of_milestone other) rfl))
  approval phase _ own := Safe.triple (.attempt (.call (.of_quiet
    (by cases phase <;> first | rfl | cases own) rfl)))
  planning _ := (Safe.triple (runProductPlanningPhase_uses contained_of_agentWork
    fun _ _ => .of_quiet rfl rfl)).weaken (fun _ => id) (fun _ _ safe => ⟨safe.1, fun _ => safe⟩)
    fun _ _ => id
  analysis _ _ := Safe.triple (executeAnalysisPhase_uses contained_of_agentWork
    (fun command _ => contained_git (determineWorkingDirectory_mem listed _) command)
    fun _ _ _ => .of_quiet rfl rfl)
  developer row analysis := executeDeveloperPhase_triple
    ((Orchestration.mk taskId row options).developerContext analysis)
  tests _ _ := Safe.triple (runTestGenerationPhase_uses contained_of_agentWork
    fun _ _ => .of_quiet rfl rfl)
  merge row analysis developer description := Safe.triple (executeMergePhase_contained
    ((Orchestration.mk taskId row options).mergeContext analysis developer description) listed)
  complete _ _ := Recorded.keeps (Orchestration.complete_uses (fun _ _ => rfl) (fun _ _ => rfl)
    rfl rfl (fun _ => rfl) (fun _ => rfl) rfl)

end RejectedChanges

/-- With repositories listed, in every run in which rejections settle, no commit contains what the
session of a rejected story changed. -/
theorem rejected_changes_never_committed (taskId : String) (options : OrchestrationOptions)
    (listed : options.repositories ≠ []) (system : System) (choices : Nat → Choice)
    (settles : Always RejectionSettles
      ((execute taskId options).exec (system.start choices)).2.history) :
    Always CommitsAccepted ((execute taskId options).exec (system.start choices)).2.history := by
  refine (RejectedChanges.rules taskId options listed).execute.exec ⟨.nil, ?_⟩ settles
  intro directory _ change _ rejected
  simp [System.start, World.start, rejectedSessions] at rejected

namespace RejectedChanges

open Sample

def options : OrchestrationOptions := { Sample.options with skipTestGeneration := true }

def revisionText : String :=
  "```json\n\x7b\"verdict\": \"needs_revision\", " ++
    "\"issues\": [\x7b\"severity\": \"major\"\x7d]\x7d\n```"

/-- One round of a story that the judge sends back; the wait for the developer comes first. -/
def revision (position : Nat) (edits : List Edit) : List (Nat × Choice) :=
  [(position, .reply "/work" "ses_1" "Done." edits),
    (position + 4, .reply "/work" "ses_1" revisionText []),
    (position + 8, .reply "/work" "ses_1" "No findings." [])]

/-- The story is sent back in all three rounds.  The last FIX prompt is not awaited, the story
is rolled back, and what is at position 105 happens after that. -/
def unfinishedStory (late : Choice) : Nat → Choice :=
  analyzedTask ([(56, { text := "ses_1" })] ++ revision 62 [newFile] ++ revision 74 [] ++
    revision 86 [] ++ [(105, late)])

end RejectedChanges

/-- The agent acts on the last FIX prompt after the rollback, and the Merge phase commits it. -/
theorem merge_commits_rejected_changes :
    ¬Always CommitsAccepted ((execute "42" RejectedChanges.options).exec (Sample.project.start
      (RejectedChanges.unfinishedStory { edits := [Sample.newFile] }))).2.history := by
  decide +kernel

theorem rejected_changes_never_committed_unfinished :
    Always CommitsAccepted ((execute "42" RejectedChanges.options).exec (Sample.project.start
      (RejectedChanges.unfinishedStory {}))).2.history :=
  rejected_changes_never_committed _ _ (by decide) _ _ (by decide +kernel)

end MultiAgents
