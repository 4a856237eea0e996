import MultiAgents.Properties.ServerSample

/-!
# What an enqueued run works with

Each route decides in which workspace, for whom, on which repositories and with
which approvals a task is run.  The data of the job and the fallbacks of worker
and orchestrator carry these decisions over, except for a retry from a phase:
there they are what the body of the request says, or nothing.
-/

namespace MultiAgents

open Text

/-- What an execution is called with for the data of a job, with all fallbacks. -/
def runArguments (config : ServerConfig) (data : Json) : ExecuteArguments :=
  (workerArguments data).resolved config.currentDirectory

/-- An execution works where, for whom, on what and how the route has decided. -/
structure FollowsRoute (config : ServerConfig) (request : TaskRequest) (found : Lookup)
    (plan : RunPlan) (arguments : ExecuteArguments) : Prop where
  path : ∃ path, arguments.projectPath = .str path ∧ Path.Inside config.workspacesDir path
  user : arguments.userId = some (.str request.userId)
  repositories : arguments.repositories = repositoriesJson plan.repositories
  mode : ∀ project, found.project = some project →
    arguments.phaseApprovalMode = project.approvalMode

/-- The options of a retry supply what the route leaves out, and no other user. -/
structure Supplies (config : ServerConfig) (userId : String) (found : Lookup) (plan : RunPlan)
    (options : Json) : Prop where
  path : ∃ path, (options.property "workspacePath").orElse (.str config.currentDirectory) =
    .str path ∧ Path.Inside config.workspacesDir path
  user : ∀ other, options.property "userId" = some other → other = .str userId
  repositories : (options.property "repositories").orElse (.arr []) =
    repositoriesJson plan.repositories
  mode : ∀ project, found.project = some project →
    (options.property "approvalMode").orElse (.str "manual") = project.approvalMode

theorem runArguments_path (config : ServerConfig) (data : Json) :
    (runArguments config data).projectPath =
      (data.property "workspacePath").orElse (.str config.currentDirectory) :=
  Value.orElse_orElse _ rfl _

theorem runArguments_repositories (config : ServerConfig) (data : Json) :
    (runArguments config data).repositories =
      (data.property "repositories").orElse (.arr []) :=
  Value.orElse_of_truthy (Value.truthy_orElse _ rfl) _

theorem runArguments_mode (config : ServerConfig) (data : Json) :
    (runArguments config data).phaseApprovalMode =
      (data.property "approvalMode").orElse (.str "manual") :=
  Value.orElse_of_truthy (Value.truthy_orElse _ (by decide)) _

theorem ProjectRecord.approvalMode_truthy (project : ProjectRecord) :
    project.approvalMode.truthy = true :=
  Value.truthy_orElse _ (by decide)

theorem follows_jobFields {config : ServerConfig} {request : TaskRequest} {found : Lookup}
    {project : ProjectRecord} {plan : RunPlan} {workspacePath : String}
    {extra : List (String × Json)} (named : found.project = some project)
    (inside : Path.Inside config.workspacesDir workspacePath)
    (other : ∀ name ∈ readFields, (Json.obj extra).property name = none)
    (data : plan.data = .obj (jobFields request.taskId request.userId workspacePath
      plan.repositories project found ++ extra)) :
    FollowsRoute config request found plan (runArguments config plan.data) := by
  have property (name : String) (read : name ∈ readFields) :
      plan.data.property name = (Json.obj (jobFields request.taskId request.userId workspacePath
        plan.repositories project found)).property name := by
    rw [data, Json.property_obj_append, other name read, Option.none_or]
  obtain ⟨-, user, path, repositories, mode⟩ := jobFields_property request.taskId request.userId
    workspacePath plan.repositories project found
  constructor
  · refine ⟨workspacePath, ?_, inside⟩
    rw [runArguments_path, property _ (by simp [readFields]), path]
    exact Value.orElse_of_truthy (by simpa [Json.truthy] using inside.nonempty) _
  · exact (property _ (by simp [readFields])).trans user
  · rw [runArguments_repositories, property _ (by simp [readFields]), repositories]
    exact Value.orElse_of_truthy rfl _
  · intro other found
    obtain rfl : project = other := Option.some.inj (named.symm.trans found)
    rw [runArguments_mode, property _ (by simp [readFields]), mode]
    exact Value.orElse_of_truthy project.approvalMode_truthy _

theorem follows_retry {config : ServerConfig} {taskId userId name : String} {phase : Phase}
    {options : Json} {found : Lookup} {plan : RunPlan}
    (made : plan = retryPlan config.workspacesDir taskId userId phase options found) :
    FollowsRoute config (.retryFrom taskId userId name options) found plan
        (runArguments config plan.data) ↔
      Supplies config userId found plan options := by
  obtain ⟨-, ownUser, noPath, noRepositories, noMode⟩ :=
    retryFields_property taskId userId phase found
  have path : (runArguments config plan.data).projectPath =
      (options.property "workspacePath").orElse (.str config.currentDirectory) := by
    rw [runArguments_path, made, retryPlan_property, noPath, Option.or_none]
  have repositories : (runArguments config plan.data).repositories =
      (options.property "repositories").orElse (.arr []) := by
    rw [runArguments_repositories, made, retryPlan_property, noRepositories, Option.or_none]
  have mode : (runArguments config plan.data).phaseApprovalMode =
      (options.property "approvalMode").orElse (.str "manual") := by
    rw [runArguments_mode, made, retryPlan_property, noMode, Option.or_none]
  have user : (runArguments config plan.data).userId = some (.str userId) ↔
      ∀ other, options.property "userId" = some other → other = .str userId := by
    have read : (runArguments config plan.data).userId =
        (options.property "userId").or (some (.str userId)) := by
      rw [← ownUser, ← retryPlan_property config.workspacesDir, ← made]
      rfl
    rw [read]
    cases options.property "userId" <;> simp
  constructor
  · intro follows
    exact ⟨path ▸ follows.path, user.mp follows.user, repositories ▸ follows.repositories,
      mode ▸ follows.mode⟩
  · intro supplies
    exact ⟨path ▸ supplies.path, user.mpr supplies.user, repositories ▸ supplies.repositories,
      mode ▸ supplies.mode⟩

/-- A run follows its route unless it is a retry whose options do not supply what the route
leaves out. -/
theorem accepted_runs_follow_their_route (config : ServerConfig) (request : TaskRequest)
    (found : Lookup) (plan : RunPlan) (directory : config.workspacesDir ≠ "")
    (identified : IsGeneratedId request.workspaceOf)
    (accepted : request.plan? config.workspacesDir found = some plan) :
    FollowsRoute config request found plan (runArguments config plan.data) ↔
      ∀ taskId userId phase options, request = .retryFrom taskId userId phase options →
        Supplies config userId found plan options := by
  have inside : Path.Inside config.workspacesDir
      (Path.join [config.workspacesDir, request.workspaceOf]) :=
    Path.inside_join _ _ directory identified.plain identified.slash
  rcases TaskRequest.plan?_cases accepted with
    ⟨taskId, userId, name, options, phase, rfl, made⟩ | ⟨other, project, extra, named, free, data⟩
  · constructor
    · rintro follows _ _ _ _ ⟨⟩
      exact (follows_retry made).mp follows
    · intro supplies
      exact (follows_retry made).mpr (supplies _ _ _ _ rfl)
  · refine iff_of_true (follows_jobFields named inside free data) ?_
    intro taskId userId phase options same
    exact absurd same (other taskId userId phase options)

namespace JobSample

open ServerSample

def project : ProjectRecord := ⟨.obj [("approvalMode", .str "automatic")]⟩

def found : Lookup where
  row := { title := "Add login", projectId := some "p1", stories := some [] }
  project := some project
  projectRepositories := [⟨"web", "frontend", some 1⟩]
  token := some "t"

def retry : TaskRequest := .retryFrom "m1_a" "ada" "Analysis" (.obj [])

def startJob : RunPlan := startPlan config.workspacesDir "m1_a" "ada" found project

end JobSample

open ServerSample JobSample in
/-- The repositories that the route has built are lost, the mode is the default and the run works
in the directory of the server. -/
theorem retry_forgets_its_repositories : ∃ plan,
    retry.plan? config.workspacesDir found = some plan ∧
      plan.repositories = [⟨"web", "frontend", "/work/m1_a/web", none⟩] ∧
      (runArguments config plan.data).repositories = .arr [] ∧
      (runArguments config plan.data).projectPath = .str "/app" ∧
      (runArguments config plan.data).phaseApprovalMode = .str "manual" ∧
      ¬FollowsRoute config retry found plan (runArguments config plan.data) := by
  refine ⟨retryPlan config.workspacesDir "m1_a" "ada" .analysis (.obj []) found, ?_⟩
  refine ⟨rfl, by decide, by decide, by decide, by decide, ?_⟩
  intro follows
  exact absurd follows.repositories (by decide)

open ServerSample JobSample in
theorem started_run_follows_its_route :
    FollowsRoute config start found startJob (runArguments config startJob.data) :=
  (accepted_runs_follow_their_route config start found startJob (by decide) generated
    rfl).mpr nofun

end MultiAgents
