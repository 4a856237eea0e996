import MultiAgents.Database.Store

/-!
# Repository classes

Rows are read as projects and repositories, with empty columns left undefined.
An update passes null for every field that counts as false, so that its column
stays as it is, and reads the row again.
-/

namespace MultiAgents

open Text

structure Project where
  id : String
  name : String
  description : Option String
  type : String
  status : String
  userId : String
  apiKey : Option String
  settings : Value
  isActive : Bool
  createdAt : Nat
  updatedAt : Nat
  deriving DecidableEq

structure Repository where
  id : String
  name : String
  description : Option String
  projectId : String
  githubRepoUrl : String
  githubRepoName : String
  githubBranch : String
  type : String
  pathPatterns : List String
  executionOrder : Option Int
  dependencies : Option (List String)
  envVariables : List EnvVariable
  isActive : Bool
  lastSyncedAt : Option Nat
  createdAt : Nat
  updatedAt : Nat
  deriving DecidableEq

def rowToProject (id : String) (row : ProjectRow) : Project where
  id := id
  name := row.name
  description := presentText row.description
  type := row.type
  status := row.status
  userId := row.userId
  apiKey := presentText row.apiKey
  settings := row.settings.filter Json.truthy
  isActive := row.isActive
  createdAt := row.createdAt
  updatedAt := row.updatedAt

def rowToRepository (id : String) (row : RepositoryRow) : Repository where
  id := id
  name := row.name
  description := presentText row.description
  projectId := row.projectId
  githubRepoUrl := row.githubRepoUrl
  githubRepoName := row.githubRepoName
  githubBranch := row.githubBranch
  type := row.type
  pathPatterns := row.pathPatterns.getD []
  executionOrder := row.executionOrder.filter fun order => order != 0
  dependencies := row.dependencies
  envVariables := row.envVariables.getD []
  isActive := row.isActive
  lastSyncedAt := row.lastSyncedAt
  createdAt := row.createdAt
  updatedAt := row.updatedAt

/-- The fields of an update that are present. -/
structure ProjectUpdate where
  name : Option String := none
  description : Option String := none
  type : Option String := none
  status : Option String := none
  apiKey : Option String := none
  settings : Option Json := none
  isActive : Option Bool := none

def ProjectUpdate.parameters (data : ProjectUpdate) : ProjectParameters where
  name := presentText data.name
  description := presentText data.description
  type := presentText data.type
  status := presentText data.status
  apiKey := presentText data.apiKey
  settings := data.settings.filter Json.truthy
  isActive := data.isActive

namespace ProjectRepository

def findById (id : String) (includeApiKey : Bool := false) : StoreProgram (Option Project) := do
  let row ← (StoreRequest.selectProject id).issue.attempt
  return row.map fun row =>
    let project := rowToProject id row
    if includeApiKey then project else { project with apiKey := none }

def update (id : String) (data : ProjectUpdate) : StoreProgram (Option Project) := do
  match ← findById id with
  | none => return none
  | some _ =>
      (StoreRequest.updateProject id data.parameters).issue.attempt
      findById id

end ProjectRepository

structure RepositoryUpdate where
  name : Option String := none
  description : Option String := none
  githubRepoUrl : Option String := none
  githubRepoName : Option String := none
  githubBranch : Option String := none
  type : Option String := none
  pathPatterns : Option (List String) := none
  executionOrder : Option Int := none
  dependencies : Option (List String) := none
  envVariables : Option (List EnvVariable) := none
  isActive : Option Bool := none
  lastSyncedAt : Option Nat := none

def RepositoryUpdate.parameters (data : RepositoryUpdate) : RepositoryParameters where
  name := presentText data.name
  description := presentText data.description
  githubRepoUrl := presentText data.githubRepoUrl
  githubRepoName := presentText data.githubRepoName
  githubBranch := presentText data.githubBranch
  type := presentText data.type
  pathPatterns := data.pathPatterns
  executionOrder := data.executionOrder
  dependencies := data.dependencies
  envVariables := data.envVariables
  isActive := data.isActive
  lastSyncedAt := data.lastSyncedAt

namespace RepositoryRepository

def findById (id : String) : StoreProgram (Option Repository) := do
  let row ← (StoreRequest.selectRepository id).issue.attempt
  return row.map (rowToRepository id)

def update (id : String) (data : RepositoryUpdate) : StoreProgram (Option Repository) := do
  match ← findById id with
  | none => return none
  | some _ =>
      (StoreRequest.updateRepository id data.parameters).issue.attempt
      findById id

end RepositoryRepository

end MultiAgents
