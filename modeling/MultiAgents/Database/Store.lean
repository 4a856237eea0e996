import MultiAgents.Containers.OrderedMap
import MultiAgents.Effects.Process
import MultiAgents.Services.Env

/-!
# Projects and repositories in the database

The tables of projects and of their repositories, and the statements that the
repository classes execute on them.  An update sets a column to its parameter
unless the parameter is null.  What else the routes ask for is served here as
well: fresh ids and random bytes, the token of a user, and the services outside.
-/

namespace MultiAgents

open Containers Effects Text

structure ProjectRow where
  name : String
  description : Option String := none
  type : String := "web-app"
  status : String := "planning"
  userId : String
  apiKey : Option String := none
  settings : Option Json := some (.obj [])
  isActive : Bool := true
  createdAt : Nat := 0
  updatedAt : Nat := 0
  deriving DecidableEq

structure RepositoryRow where
  name : String
  description : Option String := none
  projectId : String
  githubRepoUrl : String
  githubRepoName : String
  githubBranch : String := "main"
  type : String := "backend"
  pathPatterns : Option (List String) := some []
  executionOrder : Option Int := some 0
  dependencies : Option (List String) := some []
  envVariables : Option (List EnvVariable) := some []
  isActive : Bool := true
  lastSyncedAt : Option Nat := none
  createdAt : Nat := 0
  updatedAt : Nat := 0
  deriving DecidableEq

structure ProjectParameters where
  name : Option String := none
  description : Option String := none
  type : Option String := none
  status : Option String := none
  apiKey : Option String := none
  settings : Option Json := none
  isActive : Option Bool := none

structure RepositoryParameters where
  name : Option String := none
  description : Option String := none
  githubRepoUrl : Option String := none
  githubRepoName : Option String := none
  githubBranch : Option String := none
  type : Option String := none
  pathPatterns : Option (List String) := none
  executionOrder : Option Int := none
  dependencies : Option (List String) := none
  envVariables : Option (List EnvVariable) := none
  isActive : Option Bool := none
  lastSyncedAt : Option Nat := none

/-- `SET name = COALESCE($1, name), …, updated_at = NOW()`. -/
def ProjectRow.update (row : ProjectRow) (data : ProjectParameters) (now : Nat) : ProjectRow :=
  { row with
    name := data.name.getD row.name
    description := data.description.or row.description
    type := data.type.getD row.type
    status := data.status.getD row.status
    apiKey := data.apiKey.or row.apiKey
    settings := data.settings.or row.settings
    isActive := data.isActive.getD row.isActive
    updatedAt := now }

def RepositoryRow.update (row : RepositoryRow) (data : RepositoryParameters) (now : Nat) :
    RepositoryRow :=
  { row with
    name := data.name.getD row.name
    description := data.description.or row.description
    githubRepoUrl := data.githubRepoUrl.getD row.githubRepoUrl
    githubRepoName := data.githubRepoName.getD row.githubRepoName
    githubBranch := data.githubBranch.getD row.githubBranch
    type := data.type.getD row.type
    pathPatterns := data.pathPatterns.or row.pathPatterns
    executionOrder := data.executionOrder.or row.executionOrder
    dependencies := data.dependencies.or row.dependencies
    envVariables := data.envVariables.or row.envVariables
    isActive := data.isActive.getD row.isActive
    lastSyncedAt := data.lastSyncedAt.or row.lastSyncedAt
    updatedAt := now }

/-- `SET is_active = false, updated_at = NOW()`. -/
def RepositoryRow.deactivate (row : RepositoryRow) (now : Nat) : RepositoryRow :=
  { row with isActive := false, updatedAt := now }

/-- `SET last_synced_at = NOW(), updated_at = NOW()`. -/
def RepositoryRow.sync (row : RepositoryRow) (now : Nat) : RepositoryRow :=
  { row with lastSyncedAt := some now, updatedAt := now }

/-! No statement moves a repository to another project. -/

theorem RepositoryRow.update_projectId (row : RepositoryRow) (data : RepositoryParameters)
    (now : Nat) : (row.update data now).projectId = row.projectId := rfl

theorem RepositoryRow.deactivate_projectId (row : RepositoryRow) (now : Nat) :
    (row.deactivate now).projectId = row.projectId := rfl

theorem RepositoryRow.sync_projectId (row : RepositoryRow) (now : Nat) :
    (row.sync now).projectId = row.projectId := rfl

/-- The technologies that are found in a repository. -/
structure StackConfig where
  frontend : Option String := none
  backend : Option String := none
  database : Option String := none
  infrastructure : Option String := none
  additionalTech : Option (List String) := none

structure GeneratedTemplate where
  path : String
  content : String
  description : String
  overwrite : Bool

structure ScaffoldingResult where
  success : Bool := true
  projectId : String := ""
  provisions : List Json := []
  envVariables : List EnvVariable := []
  templates : List GeneratedTemplate := []
  suggestions : List Json := []
  errors : List String := []

structure ScaffoldingOptions where
  projectId : String
  projectType : String
  stack : Option Json := none
  provisionDatabase : Bool
  generateEnvFiles : Bool := true
  createTemplates : Bool := true

/-- What is asked of GitHub, and of the services that clone repositories or provision them. -/
inductive OutsideCall where
  | listRepositories (token : String)
  | checkAccess (githubRepoName token : String)
  | detectStackFromRepo (repoUrl branch : String)
  | scaffoldProject (options : ScaffoldingOptions)

/-- A listing is missing where the response is not ok. -/
abbrev OutsideCall.Answer : OutsideCall → Type
  | .listRepositories _ => Option (List Json)
  | .checkAccess _ _ => Bool
  | .detectStackFromRepo _ _ => StackConfig
  | .scaffoldProject _ => ScaffoldingResult

inductive StoreRequest where
  | selectProject (id : String)
  | selectProjects (userId : String)
  | insertProject (id : String) (row : ProjectRow)
  | updateProject (id : String) (data : ProjectParameters)
  | deactivateProject (id : String)
  | selectRepository (id : String)
  | selectRepositories (projectId : String)
  | insertRepository (id : String) (row : RepositoryRow)
  | updateRepository (id : String) (data : RepositoryParameters)
  | deactivateRepository (id : String)
  | updateLastSynced (id : String)
  | getAccessToken (userId : String)
  | generateId
  | randomBytes
  | outside (call : OutsideCall)

namespace StoreRequest

abbrev Answer : StoreRequest → Type
  | .selectProject _ => Except String (Option ProjectRow)
  | .selectProjects _ => Except String (List (String × ProjectRow))
  | .selectRepository _ => Except String (Option RepositoryRow)
  | .selectRepositories _ => Except String (List (String × RepositoryRow))
  | .insertProject _ _ | .updateProject _ _ | .deactivateProject _ | .insertRepository _ _
  | .updateRepository _ _ | .deactivateRepository _ | .updateLastSynced _ => Except String Unit
  | .getAccessToken _ => Except String (Option String)
  | .generateId | .randomBytes => String
  | .outside call => Except String call.Answer

def throws? (message : String) : (request : StoreRequest) → Option request.Answer
  | .selectProject _ | .selectProjects _ | .insertProject _ _ | .updateProject _ _
  | .deactivateProject _ | .selectRepository _ | .selectRepositories _ | .insertRepository _ _
  | .updateRepository _ _ | .deactivateRepository _ | .updateLastSynced _ | .getAccessToken _
  | .outside _ => some (.error message)
  | .generateId | .randomBytes => none

end StoreRequest

@[ext]
structure Store where
  projects : OrderedMap String ProjectRow
  repositories : OrderedMap String RepositoryRow
  tokens : String → Option String
  linked : ∀ id row, repositories.get? id = some row →
    (projects.get? row.projectId).isSome = true

/-- What is decided outside while one request is served. -/
structure StoreChoice where
  fault : Option String := none
  now : Nat := 0
  id : String := ""
  bytes : String := ""
  listing : Option (List Json) := some []
  accessible : Bool := true
  stack : StackConfig := {}
  scaffolding : ScaffoldingResult := {}

def StoreChoice.answer (choice : StoreChoice) : (call : OutsideCall) → call.Answer
  | .listRepositories _ => choice.listing
  | .checkAccess _ _ => choice.accessible
  | .detectStackFromRepo _ _ => choice.stack
  | .scaffoldProject _ => choice.scaffolding

namespace Store

variable (store : Store)

def putProject (id : String) (row : ProjectRow) : Store :=
  { store with
    projects := store.projects.set id row
    linked := by
      intro repositoryId repository found
      rw [OrderedMap.get?_set]
      split
      · rfl
      · exact store.linked repositoryId repository found }

def putRepository (id : String) (row : RepositoryRow)
    (known : (store.projects.get? row.projectId).isSome = true) : Store :=
  { store with
    repositories := store.repositories.set id row
    linked := by
      intro repositoryId repository found
      rw [OrderedMap.get?_set] at found
      split at found
      · cases found
        exact known
      · exact store.linked repositoryId repository found }

def changeProject (id : String) (change : ProjectRow → ProjectRow) : Store :=
  match store.projects.get? id with
  | none => store
  | some row => store.putProject id (change row)

def changeRepository (id : String) (change : RepositoryRow → RepositoryRow)
    (stays : ∀ row, (change row).projectId = row.projectId) : Store :=
  match found : store.repositories.get? id with
  | none => store
  | some row => store.putRepository id (change row) (by
      rw [stays row]
      exact store.linked id row found)

def insertProject (id : String) (row : ProjectRow) : Except String Unit × Store :=
  if (store.projects.get? id).isSome then (.error "duplicate key value", store)
  else (.ok (), store.putProject id row)

def insertRepository (id : String) (row : RepositoryRow) : Except String Unit × Store :=
  if (store.repositories.get? id).isSome then (.error "duplicate key value", store)
  else if known : (store.projects.get? row.projectId).isSome = true then
    (.ok (), store.putRepository id row known)
  else (.error "violates foreign key constraint", store)

/-- `WHERE user_id = $1 AND is_active = true ORDER BY updated_at DESC`. -/
def selectProjects (userId : String) : List (String × ProjectRow) :=
  (store.projects.filter fun _ row => row.userId == userId && row.isActive).entries.mergeSort
    fun first second => second.2.updatedAt ≤ first.2.updatedAt

/-- Repositories without an order come last. -/
def comesBefore (first second : RepositoryRow) : Bool :=
  match first.executionOrder, second.executionOrder with
  | some order, some other => order < other ∨ order = other ∧ first.createdAt ≤ second.createdAt
  | some _, none => true
  | none, some _ => false
  | none, none => first.createdAt ≤ second.createdAt

/-- `WHERE project_id = $1 AND is_active = true ORDER BY execution_order, created_at`. -/
def selectRepositories (projectId : String) : List (String × RepositoryRow) :=
  (store.repositories.filter fun _ row =>
    row.projectId == projectId && row.isActive).entries.mergeSort
    fun first second => comesBefore first.2 second.2

/-- The effect of a request that does not fail for a reason outside the model. -/
def perform (choice : StoreChoice) : (request : StoreRequest) → request.Answer × Store
  | .selectProject id => (.ok (store.projects.get? id), store)
  | .selectProjects userId => (.ok (store.selectProjects userId), store)
  | .insertProject id row =>
      store.insertProject id { row with createdAt := choice.now, updatedAt := choice.now }
  | .updateProject id data =>
      (.ok (), store.changeProject id fun row => row.update data choice.now)
  | .deactivateProject id =>
      (.ok (), store.changeProject id fun row =>
        { row with isActive := false, updatedAt := choice.now })
  | .selectRepository id => (.ok (store.repositories.get? id), store)
  | .selectRepositories projectId => (.ok (store.selectRepositories projectId), store)
  | .insertRepository id row =>
      store.insertRepository id { row with createdAt := choice.now, updatedAt := choice.now }
  | .updateRepository id data =>
      (.ok (), store.changeRepository id (fun row => row.update data choice.now)
        fun row => row.update_projectId data choice.now)
  | .deactivateRepository id =>
      (.ok (), store.changeRepository id (fun row => row.deactivate choice.now)
        fun row => row.deactivate_projectId choice.now)
  | .updateLastSynced id =>
      (.ok (), store.changeRepository id (fun row => row.sync choice.now)
        fun row => row.sync_projectId choice.now)
  | .getAccessToken userId => (.ok (store.tokens userId), store)
  | .generateId => (choice.id, store)
  | .randomBytes => (choice.bytes, store)
  | .outside call => (.ok (choice.answer call), store)

def serve (choice : StoreChoice) (request : StoreRequest) : request.Answer × Store :=
  match choice.fault.bind fun message => request.throws? message with
  | some answer => (answer, store)
  | none => store.perform choice request

end Store

abbrev storeCalls : Signature := ⟨StoreRequest, StoreRequest.Answer⟩

abbrev StoreProgram := Process storeCalls String

abbrev StoreRequest.issue (request : StoreRequest) : StoreProgram request.Answer :=
  Process.call (S := storeCalls) request

abbrev storeEnvironment : Environment storeCalls where
  State := Store
  Choice := StoreChoice
  serve := Store.serve

abbrev StoreWorld := World storeEnvironment

def Store.start (store : Store) (choices : Nat → StoreChoice) : StoreWorld :=
  World.start (E := storeEnvironment) store choices

namespace EnvService

def prepareVariable (environment : CryptoEnvironment) (envVar : EnvVariable) :
    StoreProgram EnvVariable :=
  match envVar.value with
  | some value =>
      if envVar.isSecret then do
        let iv ← StoreRequest.randomBytes.issue
        let encrypted ← Process.ofExcept (CryptoService.encrypt environment iv value)
        return { envVar with value := some encrypted }
      else return envVar
  | none => return envVar

def prepareForStorage (environment : CryptoEnvironment) (envVariables : List EnvVariable) :
    StoreProgram (List EnvVariable) :=
  envVariables.mapM (prepareVariable environment)

end EnvService

end MultiAgents
