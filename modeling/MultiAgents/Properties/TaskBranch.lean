import MultiAgents.Phases.Developer.Requests
import MultiAgents.Properties.Sample
import MultiAgents.Services.Rules

/-!
# Commits on the task branch

The Developer phase checks the task branch out in every repository before the
first story and never switches branches again, so a commit or push is made on
another branch only where that checkout did not settle the repository, or where
the shell found something to do in the command line.
-/

namespace MultiAgents

open Effects Record

/-- A commit or push of the step is made on the given branch: the one git finds when the shell
starts it. -/
def RecordsOn (branch : String) (step : SystemStep) : Prop :=
  ∀ directory ∈ step.call.recordsIn?,
    (step.before.expand step.choice step.call).repositories.head? directory = none ∨
      (step.before.expand step.choice step.call).repositories.head? directory = some branch

instance (branch : String) (step : SystemStep) : Decidable (RecordsOn branch step) :=
  inferInstanceAs (Decidable (∀ _ ∈ _, _ ∨ _))

/-- A checkout of the step succeeds; or it fails where the branch is checked out already, and
the fallback, which takes the branch for a directory, does not reach a listed repository. -/
def CheckoutSettles (context : DeveloperPhaseContext) (step : SystemStep) : Prop :=
  ∀ target ∈ step.call.checkout?, gitFailed step = false ∨
    step.before.repositories.head? target.2 = some target.1 ∧
      ∀ repo ∈ context.repositories, repo.localPath ≠ context.branchName

instance (context : DeveloperPhaseContext) (step : SystemStep) :
    Decidable (CheckoutSettles context step) :=
  inferInstanceAs (Decidable (∀ _ ∈ _, _ ∨ _))

/-- The shell takes the command line as it is meant, and a checkout settles its repository. -/
def Settles (context : DeveloperPhaseContext) (step : SystemStep) : Prop :=
  step.call.literal = true ∧ CheckoutSettles context step

instance (context : DeveloperPhaseContext) (step : SystemStep) :
    Decidable (Settles context step) :=
  inferInstanceAs (Decidable (_ ∧ _))

namespace TaskBranch

variable {context : DeveloperPhaseContext}

def Settled (context : DeveloperPhaseContext) (directory : String) (world : SystemWorld) : Prop :=
  world.state.repositories.head? directory = none ∨
    world.state.repositories.head? directory = some context.branchName

/-- Nothing was recorded on another branch, and the given repositories are settled. -/
def Invariant (context : DeveloperPhaseContext) (settled : List RepositoryInfo)
    (world : SystemWorld) : Prop :=
  Always (fun step _ => RecordsOn context.branchName step) world.history ∧
    ∀ repo ∈ settled, Settled context repo.localPath world

structure StaysAndRecords (context : DeveloperPhaseContext) (request : Request) : Prop where
  stays : request.switches = false
  listed : ∀ directory ∈ request.recordsIn?, ∃ repo ∈ context.repositories,
    repo.localPath = directory

theorem Settled.next {directory : String} {world : SystemWorld} {request : Request}
    (settled : Settled context directory world) (literal : request.literal = true)
    (stays : request.switches = false) : Settled context directory (world.next request) := by
  unfold Settled
  rwa [SystemWorld.next_head? world literal stays]

theorem Invariant.next {world : SystemWorld} {request : Request}
    (allowed : StaysAndRecords context request) (literal : request.literal = true)
    (invariant : Invariant context context.repositories world) :
    Invariant context context.repositories (world.next request) := by
  refine ⟨.cons (fun directory records => ?_) invariant.1, fun repo membership =>
    (invariant.2 repo membership).next literal allowed.stays⟩
  obtain ⟨repo, membership, rfl⟩ := allowed.listed directory records
  simp only [World.step, System.expand_of_literal _ _ literal]
  exact invariant.2 repo membership

theorem StaysAndRecords.of_quiet {request : Request} (stays : request.switches = false)
    (quiet : request.recordsIn? = none) : StaysAndRecords context request :=
  ⟨stays, by simp [quiet]⟩

theorem permits : context.Permits (StaysAndRecords context) where
  toReviewPermits := by
    refine .of_git (fun request other => ?_) (.of_quiet rfl rfl)
      fun repo membership command permitted => ?_
    · cases request <;> first | exact .of_quiet rfl rfl | simp [Request.git?] at other
    · cases command <;> first | exact .of_quiet rfl rfl |
        simp [DeveloperPhaseContext.RollbackCommand] at permitted
  recording repo membership command permitted := by
    refine ⟨?_, fun directory records => ?_⟩
    · cases command <;> first | rfl | simp [GitService.RecordingCommand] at permitted
    · cases command <;> simp only [Request.recordsIn?, Option.mem_def, reduceCtorEq,
        Option.some.injEq] at records
      all_goals exact ⟨repo, membership, records⟩

theorem checkout_triple (settled : List RepositoryInfo) (repo : RepositoryInfo) :
    Triple (fun step _ => Settles context step) (Invariant context settled)
      (GitService.checkout repo.localPath context.branchName)
      (fun _ => Invariant context (settled ++ [repo]))
      (fun _ world => Invariant context (settled ++ [repo]) world ∧
        ∀ other ∈ context.repositories, other.localPath ≠ context.branchName) := by
  have record : ∀ (world : SystemWorld), RecordsOn context.branchName
      (world.step (.git (.checkout context.branchName) repo.localPath)) :=
    fun _ _ records => by simp [Request.recordsIn?] at records
  refine (GitService.git_triple ?_ ?_).bind fun _ => .pure fun _ => id
  · rintro world output ⟨always, heads⟩ ⟨literal, -⟩ answered
    refine ⟨.cons (record world) always, fun other membership => ?_⟩
    rcases SystemWorld.next_git_head? world literal other.localPath with
      ⟨⟨message, failed⟩, -⟩ | ⟨before, text, after, -, ran, -, next⟩
    · rw [answered] at failed
      cases failed
    · unfold Settled
      rw [next]
      by_cases same : other.localPath = repo.localPath
      · rw [if_pos same, Repo.run_checkout_head ran]
        exact .inr rfl
      · rw [if_neg same]
        rcases List.mem_append.mp membership with earlier | last
        · exact heads other earlier
        · exact absurd (by rw [List.mem_singleton.mp last]) same
  · rintro world message ⟨always, heads⟩ assumed answered
    have settles : world.state.repositories.head? repo.localPath = some context.branchName ∧
        ∀ other ∈ context.repositories, other.localPath ≠ context.branchName :=
      (assumed.2 (context.branchName, repo.localPath) rfl).resolve_left
        (by simp [gitFailed_step answered])
    refine ⟨⟨.cons (record world) always, fun other membership => ?_⟩, settles.2⟩
    rcases SystemWorld.next_git_head? world assumed.1 other.localPath with
      ⟨-, next⟩ | ⟨_, _, _, -, -, succeeded, -⟩
    · unfold Settled
      rw [next]
      rcases List.mem_append.mp membership with earlier | last
      · exact heads other earlier
      · rw [List.mem_singleton.mp last]
        exact .inr settles.1
    · rw [answered] at succeeded
      cases succeeded

theorem createBranch_keeps {settled : List RepositoryInfo} (taskId : String)
    (elsewhere : ∀ repo ∈ settled, repo.localPath ≠ context.branchName) :
    Keeps (fun step _ => Settles context step) (Invariant context settled)
      (GitService.createBranch taskId context.branchName) := by
  have command : ∀ command : GitCommand,
      (Request.git command context.branchName).recordsIn? = none →
      Keeps (fun step _ => Settles context step) (Invariant context settled)
        (GitService.git command context.branchName) := by
    intro command quiet
    have kept (world : SystemWorld)
        (literal : (Request.git command context.branchName).literal = true)
        (invariant : Invariant context settled world) :
        Invariant context settled (world.next (.git command context.branchName)) := by
      obtain ⟨always, heads⟩ := invariant
      refine ⟨.cons (by simp [RecordsOn, quiet]) always, fun repo membership => ?_⟩
      unfold Settled
      rcases SystemWorld.next_git_head? world literal repo.localPath with
        ⟨-, next⟩ | ⟨_, _, _, -, -, -, next⟩
      · rw [next]
        exact heads repo membership
      · rw [next, if_neg (elsewhere repo membership)]
        exact heads repo membership
    exact GitService.git_triple (fun world _ before settles _ => kept world settles.1 before)
      fun world _ before settles _ => kept world settles.1 before
  refine (command .fetch rfl).bind fun _ => (command (.checkoutNew _ _) rfl).bind fun _ => ?_
  exact .pure fun _ => id

theorem checkoutRepository_triple {settled : List RepositoryInfo} {repo : RepositoryInfo}
    (listed : ∀ other ∈ settled ++ [repo], other ∈ context.repositories) :
    Triple (fun step _ => Settles context step) (Invariant context settled)
      (context.checkoutRepository repo) (fun _ => Invariant context (settled ++ [repo]))
      (fun _ => Invariant context (settled ++ [repo])) := by
  refine (checkout_triple settled repo).tryCatch fun _ => ?_
  rintro world ⟨invariant, elsewhere⟩
  have created : Keeps (fun step _ => Settles context step)
      (Invariant context (settled ++ [repo]))
      (GitService.createBranch repo.localPath context.branchName) :=
    createBranch_keeps _ fun other membership => elsewhere other (listed other membership)
  exact Keeps.tryCatch (created.bind fun _ => .pure fun _ => id)
    (fun _ => .pure fun _ => id) world invariant

theorem executeDeveloperPhase_triple (context : DeveloperPhaseContext) :
    Triple (fun step _ => Settles context step) (Invariant context [])
      (executeDeveloperPhase context)
      (fun _ world => Always (fun step _ => RecordsOn context.branchName step) world.history)
      (fun _ world => Always (fun step _ => RecordsOn context.branchName step) world.history) := by
  have checkouts : Triple (fun step _ => Settles context step) (Invariant context [])
      (forM context.repositories context.checkoutRepository)
      (fun _ => Invariant context context.repositories)
      (fun _ world =>
        Always (fun step _ => RecordsOn context.branchName step) world.history) := by
    apply Triple.forM
    intro settled repo rest split
    refine (checkoutRepository_triple ?_).onRaise fun _ _ => And.left
    intro other membership
    rw [split]
    simp only [List.mem_append, List.mem_cons] at membership ⊢
    tauto
  refine checkouts.bind fun _ => ?_
  have kept : Keeps (fun step _ => Settles context step)
      (Invariant context context.repositories) context.executeStories :=
    (permits.executeStories (fun _ => .of_quiet rfl rfl) fun _ _ _ => .of_quiet rfl rfl).keeps
      fun world request stays settles invariant => invariant.next stays settles.1
  exact kept.weaken (fun _ => id) (fun _ _ => And.left) fun _ _ => And.left

end TaskBranch

/-- Whatever the repositories, their branches and the outcomes of the git commands: when the shell
takes the command lines as they are meant and each checkout of the task branch settles its
repository, the phase commits and pushes on that branch only. -/
theorem developer_records_on_task_branch (context : DeveloperPhaseContext) (system : System)
    (choices : Nat → Choice)
    (settles : Always (fun step _ => Settles context step)
      ((executeDeveloperPhase context).exec (system.start choices)).2.history) :
    Always (fun step _ => RecordsOn context.branchName step)
      ((executeDeveloperPhase context).exec (system.start choices)).2.history :=
  (TaskBranch.executeDeveloperPhase_triple context).exec ⟨.nil, by simp⟩ settles

namespace TaskBranch

open Sample

/-- A new file in the frontend; the judge approves. -/
def choices (position : Nat) : Nat → Choice :=
  script (session position ⟨"ses_1", "/work/web", .write "login.ts" "login.ts" false⟩
    (verdictText "approved"))

def branchInBackendOnly : System where
  repositories := at? [("/work/api", onBranch "task/42"), ("/work/web", onBranch "main")]

def branchInBoth : System where
  repositories := at? [("/work/api", onBranch "task/42"),
    ("/work/web", ⟨"main", ["main"], ["main", "task/42"], []⟩)]

end TaskBranch

/-- The story is committed on `main` where the checkout failed. -/
theorem developer_commits_on_main :
    ¬Always (fun step _ => RecordsOn "task/42" step)
      ((executeDeveloperPhase (Sample.developer [Sample.api, Sample.web])).exec
        (TaskBranch.branchInBackendOnly.start (TaskBranch.choices 5))).2.history := by
  decide +kernel

theorem developer_records_on_task_branch_in_both :
    Always (fun step _ => RecordsOn (Sample.developer [Sample.api, Sample.web]).branchName step)
      ((executeDeveloperPhase (Sample.developer [Sample.api, Sample.web])).exec
        (TaskBranch.branchInBoth.start (TaskBranch.choices 4))).2.history :=
  developer_records_on_task_branch _ _ _ (by decide +kernel)

namespace DeveloperPhaseContext

variable (context : DeveloperPhaseContext)

/-- Git is started in a directory of the phase, or in one named as the branch to check that
out. -/
def StartsGit : Request → Prop
  | .git command directory =>
      directory ∈ context.workingDirectory :: context.repositories.map RepositoryInfo.localPath ∨
        directory = context.branchName ∧ CheckoutCommand command
  | _ => True

theorem startsGit : Uses context.StartsGit (executeDeveloperPhase context) := by
  have inside {repo : RepositoryInfo} (listed : repo ∈ context.repositories)
      (command : GitCommand) : context.StartsGit (.git command repo.localPath) :=
    .inl (.tail _ (List.mem_map_of_mem listed))
  refine .bind (.forM fun repo listed => .tryCatch ?_ fun _ => .tryCatch ?_ fun _ => .pure _)
    fun _ => ?_
  · exact .bind (GitService.git_uses (inside listed _)) fun _ => .pure _
  · refine .bind (.bind (GitService.git_uses (.inr ⟨rfl, trivial⟩)) fun _ => ?_) fun _ => .pure _
    exact .bind (GitService.git_uses (.inr ⟨rfl, trivial⟩)) fun _ => .pure _
  · have permits : context.Permits context.StartsGit :=
      { ReviewPermits.of_git
          (fun request other => by cases request <;> first | exact trivial | cases other)
          (.inl (.head _)) fun _ listed command _ => inside listed command with
        recording := fun _ listed command _ => inside listed command }
    exact permits.executeStories (fun _ => trivial) fun _ _ _ => trivial

end DeveloperPhaseContext

theorem developer_starts_git_in_repositories (context : DeveloperPhaseContext) (system : System)
    (choices : Nat → Choice) :
    Always (fun step _ => context.StartsGit step.call)
      ((executeDeveloperPhase context).exec (system.start choices)).2.history :=
  context.startsGit.exec_keeps (fun world => Always _ world.history)
    (fun _ _ starts => .cons starts) .nil

end MultiAgents
