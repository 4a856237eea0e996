import MultiAgents.Server.Requests
import MultiAgents.Text.Path

/-!
# The data of a job

Each route that starts a run builds the data of its job in its own way; one of
them spreads a part of the request's body over it.  The worker reads the data
back without a check and fills in what is missing.
-/

namespace MultiAgents

open Text

def Phase.name : Phase → String
  | .planning => "Planning"
  | .analysis => "Analysis"
  | .developer => "Developer"
  | .testGeneration => "TestGeneration"
  | .merge => "Merge"
  | .globalScan => "GlobalScan"

def Phase.ofName? (name : String) : Option Phase :=
  phaseOrder.find? fun phase => phase.name == name

def RepositoryInfo.toJson (repo : RepositoryInfo) : Json :=
  .obj ([("name", .str repo.name), ("type", .str repo.type), ("localPath", .str repo.localPath)] ++
    (repo.executionOrder.map fun order => ("executionOrder", Json.num order 0)).toList)

def RepositoryInfo.ofJson (data : Json) : RepositoryInfo where
  name := (data.property "name").elim "" Json.display
  type := (data.property "type").elim "" Json.display
  localPath := (data.property "localPath").elim "" Json.display
  executionOrder := match data.property "executionOrder" with
    | some (.num order 0) => some order
    | _ => none

def repositoriesJson (repositories : List RepositoryInfo) : Json :=
  .arr (repositories.map RepositoryInfo.toJson)

def isBase36 (char : Char) : Bool := char.isDigit || char.isLower

/-- What `generateId` makes: two numbers in base 36 with an underscore between them. -/
def IsGeneratedId (id : String) : Prop :=
  ∃ time random, id.toList = time ++ '_' :: random ∧ (time ++ random).all isBase36 = true

/-- What a route has found about a task and its project. -/
structure Lookup where
  row : TaskRow
  project : Option ProjectRecord := none
  projectRepositories : List RepositoryRecord := []
  repository : Option RepositoryRecord := none
  token : Option String := none
  workspaceExists : Bool := true
  context : Option String := none

/-- The repositories a route has built, and the job it adds. -/
structure RunPlan where
  repositories : List RepositoryInfo
  data : Json
  priority : Json := .num 0 0
  isPro : Bool := false

def RunPlan.queue (plan : RunPlan) : QueueName := if plan.isPro then .priority else .tasks

/-- `project.settings?.approvalMode || 'manual'`. -/
def ProjectRecord.approvalMode (project : ProjectRecord) : Json :=
  (project.settings.property "approvalMode").orElse (.str "manual")

/-- `project.settings?.priority || 0`. -/
def ProjectRecord.priority (project : ProjectRecord) : Json :=
  (project.settings.property "priority").orElse (.num 0 0)

def ProjectRecord.isPro (project : ProjectRecord) : Bool :=
  (project.settings.property "isPro").truthy

def RepositoryRecord.info (repo : RepositoryRecord) (workspacePath : String) : RepositoryInfo :=
  ⟨repo.name, repo.type, Path.join [workspacePath, repo.name], repo.executionOrder⟩

/-- The routes other than the retry from a phase agree on these fields. -/
def jobFields (taskId userId workspacePath : String) (repositories : List RepositoryInfo)
    (project : ProjectRecord) (found : Lookup) : List (String × Json) :=
  [("taskId", .str taskId), ("userId", .str userId)] ++
    (found.row.projectId.map fun id => ("projectId", Json.str id)).toList ++
    [("pipelineName", .str "v2"), ("workspacePath", .str workspacePath),
      ("repositories", repositoriesJson repositories)] ++
    (found.token.map fun token => ("githubToken", Json.str token)).toList ++
    [("approvalMode", project.approvalMode), ("priority", project.priority)]

def runPlan (project : ProjectRecord) (repositories : List RepositoryInfo)
    (fields : List (String × Json)) : RunPlan where
  repositories := repositories
  data := .obj fields
  priority := project.priority
  isPro := project.isPro

def Lookup.hasToken (found : Lookup) : Bool := found.token.any fun token => token != ""

def Lookup.usesProjectRepositories (found : Lookup) : Bool :=
  found.hasToken && !found.projectRepositories.isEmpty

def startRepositories (workspacePath : String) (found : Lookup) : List RepositoryInfo :=
  if found.usesProjectRepositories then
    found.projectRepositories.map fun repo => repo.info workspacePath
  else if found.hasToken then (found.repository.map fun repo => repo.info workspacePath).toList
  else []

def startPlan (workspacesDir taskId userId : String) (found : Lookup) (project : ProjectRecord) :
    RunPlan :=
  let workspacePath := Path.join [workspacesDir, taskId]
  let repositories := startRepositories workspacePath found
  runPlan project repositories (jobFields taskId userId workspacePath repositories project found)

/-- The phase to go on with, and whether the analysis and the stories are kept. -/
def resumePoint (row : TaskRow) : Except TaskResponse (Phase × Bool × Bool) :=
  let names := (row.completedPhases.getD []).map fun
    | .name phase => phase
    | .entry phase => phase
  match row.currentPhase with
  | some phase => .ok (phase, phase != .analysis, phase == .merge || phase == .globalScan)
  | none =>
      if names.isEmpty then .ok (.analysis, false, false)
      else if names.contains .globalScan then
        .error (.refused 400 "Task already completed all phases")
      else if names.contains .merge then .ok (.globalScan, true, true)
      else if names.contains .developer then .ok (.merge, true, true)
      else if names.contains .analysis then .ok (.developer, true, false)
      else .ok (.analysis, false, false)

def resumePlan (workspacesDir taskId userId : String) (found : Lookup) (project : ProjectRecord)
    (point : Phase × Bool × Bool) : RunPlan :=
  let workspacePath := Path.join [workspacesDir, taskId]
  let repositories := found.projectRepositories.map fun repo => repo.info workspacePath
  runPlan project repositories
    (jobFields taskId userId workspacePath repositories project found ++
      [("startFromPhase", .str point.1.name), ("preserveAnalysis", .bool point.2.1),
        ("preserveStories", .bool point.2.2)])

def continuePlan (workspacesDir originalTaskId newTaskId userId : String) (found : Lookup)
    (project : ProjectRecord) : RunPlan :=
  let workspacePath := Path.join [workspacesDir, originalTaskId]
  let repositories := found.projectRepositories.map fun repo => repo.info workspacePath
  runPlan project repositories
    (jobFields newTaskId userId workspacePath repositories project found ++
      [("continuedFromTaskId", .str originalTaskId)])

def retryFields (taskId userId : String) (phase : Phase) (found : Lookup) :
    List (String × Json) :=
  [("taskId", .str taskId), ("userId", .str userId), ("title", .str found.row.title),
      ("description", .str (found.row.description.getD ""))] ++
    ((found.row.projectId.filter fun id => id != "").map fun id =>
      ("projectId", Json.str id)).toList ++
    [("startFromPhase", .str phase.name),
      ("preserveAnalysis", .bool (phase != .analysis && phase != .planning)),
      ("preserveStories",
        .bool (phase == .testGeneration || phase == .merge || phase == .globalScan))] ++
    (found.token.map fun token => ("githubToken", Json.str token)).toList

/-- The repositories are built and not passed on; the options of the body come last. -/
def retryPlan (workspacesDir taskId userId : String) (phase : Phase) (options : Json)
    (found : Lookup) : RunPlan where
  repositories := found.projectRepositories.map fun repo =>
    ⟨repo.name, if repo.type = "" then "backend" else repo.type,
      Path.join [workspacesDir, taskId, repo.name], none⟩
  data := .obj (retryFields taskId userId phase found ++ options.fields)

/-- The task that a request is about; for a continuation it is the new one. -/
def TaskRequest.taskId : TaskRequest → String
  | .start taskId _ _ | .resume taskId _ | .continueWithContext _ taskId _ _
  | .retryFrom taskId _ _ _ | .interrupt taskId | .continueTask taskId | .retry taskId
  | .cancel taskId => taskId

def TaskRequest.userId : TaskRequest → String
  | .start _ userId _ | .resume _ userId | .continueWithContext _ _ userId _
  | .retryFrom _ userId _ _ => userId
  | _ => ""

def TaskRequest.workspaceOf : TaskRequest → String
  | .continueWithContext originalTaskId _ _ _ => originalTaskId
  | request => request.taskId

/-- `!prompt || prompt.trim().length < 5` does not hold, for a prompt that is a text. -/
def promptAccepted : Value → Bool
  | some (.str prompt) => 5 ≤ Json.codeUnits (String.ofList (trim prompt.toList))
  | _ => false

/-- The status that `resume` asks for. -/
def TaskStatus.isResumable : TaskStatus → Bool
  | .interrupted => true
  | _ => false

/-- The statuses that `continue-with-context` asks for. -/
def TaskStatus.isContinuable : TaskStatus → Bool
  | .completed | .failed | .cancelled => true
  | _ => false

/-- What a retry from a phase needs; the texts are those of the answer. -/
def retryRefusal (row : TaskRow) (phase : Phase) : Option String :=
  let noStories := (row.stories.getD []).isEmpty
  let noBranch := (row.branchName.getD "") == ""
  match phase with
  | .developer =>
      if noStories then some "Cannot retry from Developer phase - no stories from Analysis phase"
      else none
  | .testGeneration =>
      if noStories then some "Cannot retry from TestGeneration phase - no stories available"
      else none
  | .merge | .globalScan =>
      if noBranch then some s!"Cannot retry from {phase.name} phase - no branch created" else none
  | _ => none

def TaskRequest.plan? (workspacesDir : String) (found : Lookup) : TaskRequest → Option RunPlan
  | .start taskId userId prompt =>
      if promptAccepted prompt then
        found.project.map (startPlan workspacesDir taskId userId found)
      else none
  | .resume taskId userId =>
      if found.row.status.isResumable ∧ found.workspaceExists then
        match found.project, resumePoint found.row with
        | some project, .ok point =>
            some (resumePlan workspacesDir taskId userId found project point)
        | _, _ => none
      else none
  | .continueWithContext originalTaskId newTaskId userId prompt =>
      if promptAccepted prompt ∧ found.row.status.isContinuable ∧ found.context.isSome then
        found.project.map (continuePlan workspacesDir originalTaskId newTaskId userId found)
      else none
  | .retryFrom taskId userId name options =>
      match Phase.ofName? name with
      | some phase =>
          if (retryRefusal found.row phase).isNone then
            some (retryPlan workspacesDir taskId userId phase options found)
          else none
      | none => none
  | _ => none

/-- The arguments an execution is called with, as far as a job's data decides them. -/
structure ExecuteArguments where
  taskId : Value
  userId : Value
  projectPath : Json
  repositories : Json
  phaseApprovalMode : Json
  startFromPhase : Value
  preserveAnalysis : Value

/-- What the worker passes on: `workspacePath || ''`, `repositories || []` and
`approvalMode || 'manual'`. -/
def workerArguments (data : Json) : ExecuteArguments where
  taskId := data.property "taskId"
  userId := data.property "userId"
  projectPath := (data.property "workspacePath").orElse (.str "")
  repositories := (data.property "repositories").orElse (.arr [])
  phaseApprovalMode := (data.property "approvalMode").orElse (.str "manual")
  startFromPhase := data.property "startFromPhase"
  preserveAnalysis := data.property "preserveAnalysis"

/-- What the orchestrator makes of them: `options.projectPath || process.cwd()`. -/
def ExecuteArguments.resolved (arguments : ExecuteArguments) (currentDirectory : String) :
    ExecuteArguments :=
  { arguments with
    projectPath := Value.orElse (some arguments.projectPath) (.str currentDirectory)
    repositories := Value.orElse (some arguments.repositories) (.arr [])
    phaseApprovalMode := Value.orElse (some arguments.phaseApprovalMode) (.str "manual") }

/-- The options of the execution; the worker gives four of the callbacks. -/
def ExecuteArguments.options (arguments : ExecuteArguments) : OrchestrationOptions where
  projectPath := arguments.projectPath.display
  repositories := match arguments.repositories with
    | .arr items => items.map RepositoryInfo.ofJson
    | _ => []
  phaseApprovalMode :=
    if arguments.phaseApprovalMode.isText "manual" then .manual
    else if arguments.phaseApprovalMode.isText "automatic" then .automatic
    else .other
  startFromPhase := match arguments.startFromPhase with
    | some (.str name) => Phase.ofName? name
    | _ => none
  preserveAnalysis := arguments.preserveAnalysis.truthy
  onAnalysisComplete := true
  onStoryComplete := true
  onDeveloperComplete := true
  onPullRequestCreated := true

/-- The fields that are read of a job's data, apart from those about a resumed run. -/
def readFields : List String :=
  ["taskId", "userId", "workspacePath", "repositories", "approvalMode"]

/-- The job of a retry holds what the options say over the fields of the route; the others hold
the common fields, under other names than what they add. -/
theorem TaskRequest.plan?_cases {workspacesDir : String} {request : TaskRequest} {found : Lookup}
    {plan : RunPlan} (planned : request.plan? workspacesDir found = some plan) :
    (∃ taskId userId name options phase, request = .retryFrom taskId userId name options ∧
      plan = retryPlan workspacesDir taskId userId phase options found) ∨
    ((∀ taskId userId name options, request ≠ .retryFrom taskId userId name options) ∧
      ∃ project extra, found.project = some project ∧
        (∀ name ∈ readFields, (Json.obj extra).property name = none) ∧
        plan.data = .obj (jobFields request.taskId request.userId
          (Path.join [workspacesDir, request.workspaceOf]) plan.repositories project found ++
            extra)) := by
  cases request with
  | start taskId userId prompt =>
      obtain ⟨_, project, named, rfl⟩ : promptAccepted prompt = true ∧ ∃ project,
          found.project = some project ∧
            startPlan workspacesDir taskId userId found project = plan := by
        simpa [TaskRequest.plan?] using planned
      refine .inr ⟨fun _ _ _ _ => TaskRequest.noConfusion, project, [], named,
        by simp [Json.property], ?_⟩
      rw [List.append_nil]
      rfl
  | resume taskId userId =>
      simp only [TaskRequest.plan?] at planned
      split at planned
      · split at planned
        · rename_i project point named _
          obtain rfl : resumePlan workspacesDir taskId userId found project point = plan :=
            Option.some.inj planned
          exact .inr ⟨fun _ _ _ _ => TaskRequest.noConfusion, project,
            [("startFromPhase", .str point.1.name), ("preserveAnalysis", .bool point.2.1),
              ("preserveStories", .bool point.2.2)], named,
            by simp [Json.property, readFields], rfl⟩
        · cases planned
      · cases planned
  | continueWithContext originalTaskId newTaskId userId prompt =>
      obtain ⟨_, project, named, rfl⟩ : _ ∧ ∃ project, found.project = some project ∧
          continuePlan workspacesDir originalTaskId newTaskId userId found project = plan := by
        simpa [TaskRequest.plan?] using planned
      exact .inr ⟨fun _ _ _ _ => TaskRequest.noConfusion, project,
        [("continuedFromTaskId", .str originalTaskId)], named,
        by simp [Json.property, readFields], rfl⟩
  | retryFrom taskId userId name options =>
      simp only [TaskRequest.plan?] at planned
      split at planned
      · split at planned
        · exact .inl ⟨taskId, userId, name, options, _, rfl, (Option.some.inj planned).symm⟩
        · cases planned
      · cases planned
  | _ => cases planned

theorem jobFields_property (taskId userId workspacePath : String)
    (repositories : List RepositoryInfo) (project : ProjectRecord) (found : Lookup) :
    let data := Json.obj (jobFields taskId userId workspacePath repositories project found)
    data.property "taskId" = some (.str taskId) ∧ data.property "userId" = some (.str userId) ∧
      data.property "workspacePath" = some (.str workspacePath) ∧
      data.property "repositories" = some (repositoriesJson repositories) ∧
      data.property "approvalMode" = some project.approvalMode := by
  unfold jobFields
  cases found.row.projectId <;> cases found.token <;> exact ⟨rfl, rfl, rfl, rfl, rfl⟩

theorem retryFields_property (taskId userId : String) (phase : Phase) (found : Lookup) :
    let data := Json.obj (retryFields taskId userId phase found)
    data.property "taskId" = some (.str taskId) ∧ data.property "userId" = some (.str userId) ∧
      data.property "workspacePath" = none ∧ data.property "repositories" = none ∧
      data.property "approvalMode" = none := by
  unfold retryFields
  cases found.row.projectId.filter (fun id => id != "") <;> cases found.token <;>
    exact ⟨rfl, rfl, rfl, rfl, rfl⟩

theorem retryPlan_property (workspacesDir taskId userId : String) (phase : Phase) (options : Json)
    (found : Lookup) (name : String) :
    (retryPlan workspacesDir taskId userId phase options found).data.property name =
      (options.property name).or
        ((Json.obj (retryFields taskId userId phase found)).property name) := by
  unfold retryPlan
  rw [Json.property_obj_append, Json.property_obj_fields]

namespace IsGeneratedId

variable {id : String} (generated : IsGeneratedId id)
include generated

theorem chars {char : Char} (membership : char ∈ id.toList) :
    char = '_' ∨ isBase36 char = true := by
  obtain ⟨time, random, split, digits⟩ := generated
  rw [split] at membership
  rcases List.mem_append.mp membership with early | late
  · exact .inr (List.all_eq_true.mp digits char (List.mem_append_left _ early))
  · rcases List.mem_cons.mp late with rfl | later
    · exact .inl rfl
    · exact .inr (List.all_eq_true.mp digits char (List.mem_append_right _ later))

theorem underscore : '_' ∈ id.toList := by
  obtain ⟨time, random, split, _⟩ := generated
  simp [split]

theorem slash : '/' ∉ id.toList := by
  intro membership
  rcases generated.chars membership with same | digit
  · cases same
  · cases digit

theorem plain : Path.Plain id.toList := by
  have present := generated.underscore
  constructor <;> intro same <;> rw [same] at present <;> revert present <;> decide

theorem truthy {value : Value} (named : value.display = id) : value.truthy = true := by
  by_contra falsy
  have listed := value.display_of_falsy (by simpa using falsy)
  have present := generated.underscore
  rw [← named] at present
  revert present
  rcases (by simpa using listed : _ ∨ _ ∨ _ ∨ _ ∨ _) with text | text | text | text | text <;>
    rw [text] <;> decide

end IsGeneratedId

end MultiAgents
