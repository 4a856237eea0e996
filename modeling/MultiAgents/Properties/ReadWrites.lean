import MultiAgents.Database.Repositories
import MultiAgents.Properties.ApiSample

/-!
# Reading a project or a repository after an update

A field that counts as false is passed as null, so that its column keeps the old
value, and a column that counts as false is read as undefined.  An update is read
back as it was asked for exactly if it has no such field, or if the field had
that value before.
-/

namespace MultiAgents

open Containers Effects Text

section Column

variable {α : Type} (present : α → Bool) (new old : Option α)

/-- A column that is left undefined where its value does not count. -/
theorem filter_or_filter_eq_iff :
    (new.or old).filter present = new.or (old.filter present) ↔ new.all present = true := by
  cases new with
  | none => simp
  | some value => cases counts : present value <;> simp [counts]

/-- The same column, where a value that does not count is not written either. -/
theorem filter_filter_or_eq_iff :
    ((new.filter present).or old).filter present = new.or (old.filter present) ↔
      new.all present = true := by
  cases new with
  | none => simp
  | some value =>
      cases counts : present value with
      | true => simp [counts]
      | false => simp [counts, Option.filter_eq_some_iff]

theorem present_getD_eq_iff (new : Option String) (old : String) :
    (presentText new).getD old = new.getD old ↔ (new = some "" → old = "") := by
  cases new with
  | none => simp [presentText]
  | some value => by_cases empty : value = "" <;> simp [presentText, Option.filter, empty]

theorem all_nonempty_iff (text : Option String) :
    text.all (fun text => text != "") = true ↔ text ≠ some "" := by
  cases text <;> simp

end Column

/-- The project an update asks for: fields that are present are replaced, whatever they hold. -/
def ProjectUpdate.requested (data : ProjectUpdate) (project : Project) (now : Nat) : Project :=
  { project with
    name := data.name.getD project.name
    description := data.description.or project.description
    type := data.type.getD project.type
    status := data.status.getD project.status
    apiKey := data.apiKey.or project.apiKey
    settings := data.settings.or project.settings
    isActive := data.isActive.getD project.isActive
    updatedAt := now }

def RepositoryUpdate.requested (data : RepositoryUpdate) (repository : Repository) (now : Nat) :
    Repository :=
  { repository with
    name := data.name.getD repository.name
    description := data.description.or repository.description
    githubRepoUrl := data.githubRepoUrl.getD repository.githubRepoUrl
    githubRepoName := data.githubRepoName.getD repository.githubRepoName
    githubBranch := data.githubBranch.getD repository.githubBranch
    type := data.type.getD repository.type
    pathPatterns := data.pathPatterns.getD repository.pathPatterns
    executionOrder := data.executionOrder.or repository.executionOrder
    dependencies := data.dependencies.or repository.dependencies
    envVariables := data.envVariables.getD repository.envVariables
    isActive := data.isActive.getD repository.isActive
    lastSyncedAt := data.lastSyncedAt.or repository.lastSyncedAt
    updatedAt := now }

/-- No field is emptied: an empty text is sent only for a name, type or status that is empty. -/
def ProjectUpdate.EmptiesNothing (data : ProjectUpdate) (project : Project) : Prop :=
  (data.name = some "" → project.name = "") ∧ data.description ≠ some "" ∧
    (data.type = some "" → project.type = "") ∧ (data.status = some "" → project.status = "") ∧
    data.apiKey ≠ some "" ∧ data.settings.all Json.truthy = true

def RepositoryUpdate.EmptiesNothing (data : RepositoryUpdate) (repository : Repository) : Prop :=
  (data.name = some "" → repository.name = "") ∧ data.description ≠ some "" ∧
    (data.githubRepoUrl = some "" → repository.githubRepoUrl = "") ∧
    (data.githubRepoName = some "" → repository.githubRepoName = "") ∧
    (data.githubBranch = some "" → repository.githubBranch = "") ∧
    (data.type = some "" → repository.type = "") ∧ data.executionOrder ≠ some 0

theorem rowToProject_update_iff (id : String) (row : ProjectRow) (data : ProjectUpdate)
    (now : Nat) :
    (∃ time, rowToProject id (row.update data.parameters now) =
        data.requested (rowToProject id row) time) ↔
      data.EmptiesNothing (rowToProject id row) := by
  simp only [rowToProject, ProjectRow.update, ProjectUpdate.parameters, ProjectUpdate.requested,
    ProjectUpdate.EmptiesNothing, Project.mk.injEq, present_getD_eq_iff, exists_and_left,
    exists_eq', true_and, and_true]
  unfold presentText
  simp only [filter_filter_or_eq_iff, all_nonempty_iff]

theorem rowToRepository_update_iff (id : String) (row : RepositoryRow) (data : RepositoryUpdate)
    (now : Nat) :
    (∃ time, rowToRepository id (row.update data.parameters now) =
        data.requested (rowToRepository id row) time) ↔
      data.EmptiesNothing (rowToRepository id row) := by
  have order : data.executionOrder.all (fun order => order != 0) = true ↔
      data.executionOrder ≠ some 0 := by
    cases data.executionOrder <;> simp
  have patterns : (data.pathPatterns.or row.pathPatterns).getD [] =
      data.pathPatterns.getD (row.pathPatterns.getD []) := by
    cases data.pathPatterns <;> rfl
  have envs : (data.envVariables.or row.envVariables).getD [] =
      data.envVariables.getD (row.envVariables.getD []) := by
    cases data.envVariables <;> rfl
  simp only [rowToRepository, RepositoryRow.update, RepositoryUpdate.parameters,
    RepositoryUpdate.requested, RepositoryUpdate.EmptiesNothing, Repository.mk.injEq,
    present_getD_eq_iff, filter_or_filter_eq_iff, order, patterns, envs, exists_and_left,
    exists_eq', true_and, and_true]
  unfold presentText
  simp only [filter_filter_or_eq_iff, all_nonempty_iff]

def readAround {Item : Type} (findById update : StoreProgram (Option Item)) :
    StoreProgram (Option (Item × Item)) := do
  match ← findById with
  | none => return none
  | some before =>
      match ← update with
      | none => return none
      | some _ => return (← findById).map fun after => (before, after)

section Table

variable {Row Item : Type} (row? : Store → Option Row)

/-- What returns has read the row, and has changed nothing. -/
def Reads (read : Row → Item) (findById : StoreProgram (Option Item)) : Prop :=
  ∀ (world later : StoreWorld) found, findById.exec world = (.ok found, later) →
    later.state = world.state ∧ found = (row? world.state).map read

def Changes {α : Type} (change : Nat → Row → Row) (update : StoreProgram α) : Prop :=
  ∀ (world later : StoreWorld) result, update.exec world = (.ok result, later) →
    ∃ now, row? later.state = (row? world.state).map (change now)

variable {row?} {read : Row → Item} {change : Nat → Row → Row}
  {findById : StoreProgram (Option Item)}

/-- The value that is read from a row. -/
theorem Reads.map {select : StoreProgram (Option Row)} (selects : Reads row? id select)
    (read : Row → Item) : Reads row? read (do return (← select).map read) := by
  intro world later found executed
  obtain ⟨row, between, looked, finished⟩ := Process.returned_of_bind executed
  obtain ⟨same, isRow⟩ := selects _ _ _ looked
  cases finished
  rw [isRow, Option.map_id]
  exact ⟨same, rfl⟩

/-- A row is looked for before it is written, and read again afterwards. -/
theorem Changes.update {write : StoreProgram Unit}
    {rest : Option Item → StoreProgram (Option Item)} (reads : Reads row? read findById)
    (changes : Changes row? change write) (absent : rest none = pure none)
    (there : ∀ item, rest (some item) = write >>= fun _ => findById) :
    Changes row? change (findById >>= rest) := by
  intro world later result executed
  obtain ⟨found, first, looked, continued⟩ := Process.returned_of_bind executed
  obtain ⟨same, held⟩ := reads _ _ _ looked
  cases found with
  | none =>
      rw [absent] at continued
      cases continued
      have missing : row? world.state = none := by simpa using held.symm
      exact ⟨0, by rw [same, missing]; rfl⟩
  | some item =>
      rw [there] at continued
      obtain ⟨_, second, written, again⟩ := Process.returned_of_bind continued
      obtain ⟨now, changed⟩ := changes _ _ _ written
      exact ⟨now, by rw [(reads _ _ _ again).1, changed, same]⟩

theorem readAround_returned {update : StoreProgram (Option Item)}
    (reads : Reads row? read findById) (changes : Changes row? change update)
    {world later : StoreWorld} {before after : Item}
    (executed : (readAround findById update).exec world = (.ok (some (before, after)), later)) :
    ∃ row now, before = read row ∧ after = read (change now row) := by
  obtain ⟨found, first, looked, rest⟩ := Process.returned_of_bind executed
  obtain ⟨same, held⟩ := reads _ _ _ looked
  cases found with
  | none => cases rest
  | some item =>
      obtain ⟨updated, second, written, again⟩ := Process.returned_of_bind rest
      obtain ⟨now, changed⟩ := changes _ _ _ written
      cases updated with
      | none => cases again
      | some _ =>
          obtain ⟨reread, third, looked', finished⟩ := Process.returned_of_bind again
          obtain ⟨_, held'⟩ := reads _ _ _ looked'
          obtain ⟨row, isRow, isItem⟩ := Option.map_eq_some_iff.mp held.symm
          rw [changed, same, isRow] at held'
          subst held'
          cases finished
          exact ⟨row, now, isItem.symm, rfl⟩

end Table

/-- A request that was not answered by throwing has been performed. -/
theorem StoreRequest.performed {request : StoreRequest} {answer : request.Answer}
    {world later : StoreWorld} (executed : request.issue.exec world = (.ok answer, later))
    (fine : ∀ message, request.throws? message ≠ some answer) :
    (answer, later.state) = world.state.perform world.choice request := by
  cases executed
  change world.state.serve world.choice request = _
  unfold Store.serve
  split
  · rename_i thrown isThrown
    obtain ⟨message, faulty, throws⟩ := Option.bind_eq_some_iff.mp isThrown
    have answered : world.answer request = thrown := by
      change (world.state.serve world.choice request).1 = thrown
      unfold Store.serve
      rw [isThrown]
    exact absurd (answered ▸ throws) (fine message)
  · rfl

theorem Store.get?_changeProject (store : Store) (id : String) (change : ProjectRow → ProjectRow) :
    (store.changeProject id change).projects.get? id = (store.projects.get? id).map change := by
  unfold Store.changeProject
  split
  · rename_i missing
    rw [missing]
    rfl
  · rename_i row isRow
    rw [isRow]
    exact (OrderedMap.get?_set _ _ _ _).trans (if_pos rfl)

theorem Store.get?_changeRepository (store : Store) (id : String)
    (change : RepositoryRow → RepositoryRow)
    (stays : ∀ row, (change row).projectId = row.projectId) :
    (store.changeRepository id change stays).repositories.get? id =
      (store.repositories.get? id).map change := by
  unfold Store.changeRepository
  split
  · rename_i missing
    rw [missing]
    rfl
  · rename_i row isRow
    refine Eq.trans ?_ (congrArg (Option.map change) isRow.symm)
    exact (OrderedMap.get?_set _ _ _ _).trans (if_pos rfl)

namespace ProjectRepository

theorem findById_reads (id : String) (includeApiKey : Bool) :
    Reads (fun store => store.projects.get? id)
      (fun row => if includeApiKey then rowToProject id row
        else { rowToProject id row with apiKey := none })
      (findById id includeApiKey) := by
  refine Reads.map (fun world later row executed => ?_) _
  have performed := StoreRequest.performed (Process.returned_of_attempt executed)
    fun _ thrown => nomatch thrown
  obtain ⟨isRow, same⟩ := Prod.mk.inj performed
  cases isRow
  exact ⟨same, (congrFun Option.map_id _).symm⟩

theorem write_changes (id : String) (data : ProjectParameters) :
    Changes (fun store => store.projects.get? id) (fun now row => row.update data now)
      (StoreRequest.updateProject id data).issue.attempt := by
  intro world later result executed
  have performed := StoreRequest.performed (Process.returned_of_attempt executed)
    fun _ thrown => nomatch thrown
  rw [(Prod.mk.inj performed).2]
  exact ⟨world.choice.now, Store.get?_changeProject _ _ _⟩

theorem update_changes (id : String) (data : ProjectUpdate) :
    Changes (fun store => store.projects.get? id) (fun now row => row.update data.parameters now)
      (update id data) :=
  Changes.update (findById_reads id false) (write_changes id data.parameters) rfl fun _ => rfl

end ProjectRepository

namespace RepositoryRepository

theorem findById_reads (id : String) :
    Reads (fun store => store.repositories.get? id) (rowToRepository id) (findById id) := by
  refine Reads.map (fun world later row executed => ?_) _
  have performed := StoreRequest.performed (Process.returned_of_attempt executed)
    fun _ thrown => nomatch thrown
  obtain ⟨isRow, same⟩ := Prod.mk.inj performed
  cases isRow
  exact ⟨same, (congrFun Option.map_id _).symm⟩

theorem write_changes (id : String) (data : RepositoryParameters) :
    Changes (fun store => store.repositories.get? id) (fun now row => row.update data now)
      (StoreRequest.updateRepository id data).issue.attempt := by
  intro world later result executed
  have performed := StoreRequest.performed (Process.returned_of_attempt executed)
    fun _ thrown => nomatch thrown
  rw [(Prod.mk.inj performed).2]
  exact ⟨world.choice.now, Store.get?_changeRepository _ _ _ _⟩

theorem update_changes (id : String) (data : RepositoryUpdate) :
    Changes (fun store => store.repositories.get? id)
      (fun now row => row.update data.parameters now) (update id data) :=
  Changes.update (findById_reads id) (write_changes id data.parameters) rfl fun _ => rfl

end RepositoryRepository

/-- An update is read back as it was asked for, up to the time of the update, exactly if it
empties nothing. -/
theorem update_read_back_iff (world : StoreWorld) (id : String) :
    (∀ data before after later,
      (readAround (ProjectRepository.findById id true) (ProjectRepository.update id data)).exec
        world = (.ok (some (before, after)), later) →
      ((∃ now, after = data.requested before now) ↔ data.EmptiesNothing before)) ∧
    ∀ data before after later,
      (readAround (RepositoryRepository.findById id) (RepositoryRepository.update id data)).exec
        world = (.ok (some (before, after)), later) →
      ((∃ now, after = data.requested before now) ↔ data.EmptiesNothing before) := by
  constructor
  · intro data before after later executed
    have reads : Reads _ (rowToProject id) (ProjectRepository.findById id true) :=
      ProjectRepository.findById_reads id true
    obtain ⟨row, now, rfl, rfl⟩ :=
      readAround_returned reads (ProjectRepository.update_changes id data) executed
    exact rowToProject_update_iff id row data now
  · intro data before after later executed
    obtain ⟨row, now, rfl, rfl⟩ := readAround_returned (RepositoryRepository.findById_reads id)
      (RepositoryRepository.update_changes id data) executed
    exact rowToRepository_update_iff id row data now

namespace ApiSample

def described : Store :=
  store.putProject "shop" { shop with description := some "A shop", apiKey := some "sk-ant-1" }

def changeName : StoreProgram (Option (Project × Project)) :=
  readAround (ProjectRepository.findById "shop" true)
    (ProjectRepository.update "shop" { name := some "Store" })

def clear : StoreProgram (Option (Project × Project)) :=
  readAround (ProjectRepository.findById "shop" true)
    (ProjectRepository.update "shop" { description := some "", apiKey := some "" })

def putFirst : StoreProgram (Option (Repository × Repository)) :=
  readAround (RepositoryRepository.findById "shop-api")
    (RepositoryRepository.update "shop-api" { executionOrder := some 0 })

end ApiSample

theorem renamed_project_read_back :
    ∃ before after later, ApiSample.changeName.exec (ApiSample.described.start ApiSample.choices) =
        (.ok (some (before, after)), later) ∧
      ∃ now, after = ({ name := some "Store" } : ProjectUpdate).requested before now := by
  refine ⟨_, _, _, rfl, ?_⟩
  exact ((update_read_back_iff (ApiSample.described.start ApiSample.choices) "shop").1
    { name := some "Store" } _ _ _ rfl).mpr ⟨by decide, by decide, by decide, by decide,
      by decide, by decide⟩

/-- The description and the key stay as they were, and an order of zero is not there. -/
theorem emptied_fields_not_read_back :
    ((ApiSample.clear.exec (ApiSample.described.start ApiSample.choices)).1.toOption.join.map
        fun (_, after) => (after.description, after.apiKey)) =
      some (some "A shop", some "sk-ant-1") ∧
    ((ApiSample.putFirst.exec (ApiSample.described.start ApiSample.choices)).1.toOption.join.map
        fun (_, after) => after.executionOrder) = some none := by
  constructor <;> rfl

end MultiAgents
