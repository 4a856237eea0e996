import MultiAgents.Effects.Triple
import MultiAgents.Properties.EncryptedValues
import MultiAgents.Text.Lines

/-!
# The file of environment variables

A file that is generated from what was stored lists each variable on a line of
its own, with the value that was submitted.  A secret that was submitted in the
form of an encrypted value is decrypted; if that fails there is no file.
-/

namespace MultiAgents

open Effects Text

namespace EnvService

variable {environment : CryptoEnvironment}

/-- The value of a variable that is read back from what was stored: the submitted one, which is
decrypted if it is a secret in the form of an encrypted value. -/
def readBack (environment : CryptoEnvironment) (envVar : EnvVariable) : Except String String :=
  match envVar.value with
  | some value =>
      if envVar.isSecret = true ∧ CryptoService.isEncrypted value = true then
        CryptoService.decrypt environment value
      else .ok value
  | none => .ok "undefined"

def listedLine (environment : CryptoEnvironment) (envVar : EnvVariable) :
    Except String (List Char) := do
  let value ← readBack environment envVar
  return envVar.key.toList ++ '=' :: value.toList

/-- The value stays on its line, and no line of the description but the first is read. -/
def Unbroken (environment : CryptoEnvironment) (envVar : EnvVariable) : Prop :=
  (∀ value, readBack environment envVar = .ok value → '\n' ∉ value.toList) ∧
    ∀ description, envVar.description = some description →
      ∀ later ∈ laterLines description.toList, isEntry later = false

structure Stores (environment : CryptoEnvironment) (envVar stored : EnvVariable) : Prop where
  key : stored.key = envVar.key
  description : stored.description = envVar.description
  value : writtenValue environment stored = readBack environment envVar

theorem encrypt_of_marked {iv value : String}
    (shortcut : value = "" ∨ CryptoService.isEncrypted value = true) :
    CryptoService.encrypt environment iv value = .ok value := by
  unfold CryptoService.encrypt
  rw [if_pos shortcut]

theorem stores_encrypted (ideal : environment.library.Ideal) {envVar : EnvVariable}
    {iv value : String} (hexIv : isHex iv = true) (held : envVar.value = some value)
    (secret : envVar.isSecret = true)
    (usable : value ≠ "" → CryptoService.isEncrypted value = false →
      CryptoService.Usable environment iv value) :
    ∃ encrypted, CryptoService.encrypt environment iv value = .ok encrypted ∧
      Stores environment envVar { envVar with value := some encrypted } := by
  have written : ∀ encrypted, writtenValue environment
      { envVar with value := some encrypted } = CryptoService.decrypt environment encrypted := by
    intro encrypted
    simp [writtenValue, secret]
  by_cases marked : CryptoService.isEncrypted value = true
  · refine ⟨value, encrypt_of_marked (.inr marked), rfl, rfl, ?_⟩
    rw [written]
    simp [readBack, held, secret, marked]
  · have back : readBack environment envVar = .ok value := by
      simp [readBack, held, marked]
    by_cases empty : value = ""
    · refine ⟨value, encrypt_of_marked (.inl empty), rfl, rfl, ?_⟩
      rw [written, back, empty]
      rfl
    · have unmarked := Bool.eq_false_iff.mpr marked
      obtain ⟨key, ⟨authTag, ciphertext⟩, keyed, encrypted⟩ := usable empty unmarked
      refine ⟨_, CryptoService.encrypt_of_plain empty unmarked keyed encrypted, rfl, rfl, ?_⟩
      rw [written, back]
      exact CryptoService.decrypt_format ideal hexIv keyed encrypted

def UsableFor (environment : CryptoEnvironment) (iv : String) (envVar : EnvVariable) : Prop :=
  envVar.isSecret = true → ∀ value, envVar.value = some value → value ≠ "" →
    CryptoService.isEncrypted value = false → CryptoService.Usable environment iv value

/-- Random bytes with which the cipher can be used for all of the variables. -/
def Supplies (environment : CryptoEnvironment) (envVariables : List EnvVariable)
    (choice : StoreChoice) : Prop :=
  isHex choice.bytes = true ∧
    ∀ envVar ∈ envVariables, UsableFor environment choice.bytes envVar

abbrev Supplied (environment : CryptoEnvironment) (envVariables : List EnvVariable) :
    Assumption storeEnvironment :=
  fun step _ => Supplies environment envVariables step.choice

theorem answer_randomBytes (world : StoreWorld) :
    world.answer .randomBytes = world.choice.bytes := by
  change (world.state.serve world.choice .randomBytes).1 = _
  unfold Store.serve
  cases world.choice.fault <;> rfl

theorem prepareVariable_stores (ideal : environment.library.Ideal)
    {envVariables : List EnvVariable} {envVar : EnvVariable} (membership : envVar ∈ envVariables)
    (present : envVar.value.isSome = true) :
    Triple (Supplied environment envVariables) (fun _ => True)
      (prepareVariable environment envVar)
      (fun stored _ => Stores environment envVar stored) (fun _ _ => False) := by
  obtain ⟨value, held⟩ := Option.isSome_iff_exists.mp present
  unfold prepareVariable
  rw [held]
  refine .ite (fun secret => ?_) fun plain => .pure fun _ _ => ⟨rfl, rfl, ?_⟩
  · have draws : Triple (Supplied environment envVariables) (fun _ => True)
        (StoreRequest.randomBytes.issue)
        (fun iv _ => isHex iv = true ∧ UsableFor environment iv envVar) (fun _ _ => False) := by
      refine .call fun world _ supplied => ?_
      rw [answer_randomBytes]
      exact ⟨supplied.1, supplied.2 envVar membership⟩
    refine .bind draws fun iv world supplied _ => ?_
    obtain ⟨encrypted, made, stores⟩ := stores_encrypted ideal supplied.1 held secret
      (supplied.2 secret value held)
    rw [made]
    exact stores
  · simp [writtenValue, readBack, held, plain]

theorem prepareForStorage_stores (ideal : environment.library.Ideal)
    {envVariables selected : List EnvVariable} (included : selected ⊆ envVariables)
    (present : ∀ envVar ∈ selected, envVar.value.isSome = true) :
    Triple (Supplied environment envVariables) (fun _ => True)
      (prepareForStorage environment selected)
      (fun stored _ => List.Forall₂ (Stores environment) selected stored)
      (fun _ _ => False) := by
  unfold prepareForStorage
  induction selected with
  | nil => exact .pure fun _ _ => .nil
  | cons envVar rest ih =>
      rw [List.mapM_cons]
      have first := prepareVariable_stores ideal (included List.mem_cons_self)
        (present envVar List.mem_cons_self)
      have others := ih (List.subset_of_cons_subset included)
        fun other membership => present other (List.mem_cons_of_mem envVar membership)
      refine first.bind fun stored => .of_fact fun stores => ?_
      exact others.bind fun kept => .of_fact fun all => .pure fun _ _ => .cons stores all

def submittedContent (environment : CryptoEnvironment) (envVar : EnvVariable) :
    Except String String := do
  let value ← readBack environment envVar
  return variableContent envVar.key envVar.description value

theorem mapM_stored {envVariables stored : List EnvVariable}
    (all : List.Forall₂ (Stores environment) envVariables stored) :
    (stored.mapM fun envVar => do
      let value ← writtenValue environment envVar
      return variableContent envVar.key envVar.description value : Except String (List String)) =
    envVariables.mapM (submittedContent environment) := by
  induction all with
  | nil => rfl
  | cons stores _ ih =>
      rw [List.mapM_cons, List.mapM_cons, ih, submittedContent, stores.key,
        stores.description, stores.value]

theorem isValidEnvKey_cases {key : String} (valid : isValidEnvKey key = true) :
    '\n' ∉ key.toList ∧ ∃ first rest, key.toList = first :: rest ∧ first.isUpper = true := by
  unfold isValidEnvKey at valid
  cases letters : key.toList with
  | nil =>
      rw [letters] at valid
      cases valid
  | cons first rest =>
      rw [letters] at valid
      simp only [Bool.and_eq_true, List.all_eq_true] at valid
      refine ⟨?_, first, rest, rfl, valid.1⟩
      rw [List.mem_cons, not_or]
      refine ⟨?_, fun membership => ?_⟩
      · rintro rfl
        exact absurd valid.1 (by decide)
      · exact absurd (valid.2 _ membership) (by decide)

theorem isEntry_of_key {key : String} (valid : isValidEnvKey key = true) (rest : List Char) :
    isEntry (key.toList ++ rest) = true := by
  obtain ⟨_, first, others, letters, upper⟩ := isValidEnvKey_cases valid
  rw [letters, List.cons_append]
  apply isEntry_cons
  · by_contra space
    rw [Bool.not_eq_false] at space
    simp only [Char.isWhitespace, Bool.or_eq_true, decide_eq_true_eq] at space
    rcases space with ((rfl | rfl) | rfl) | rfl <;> exact absurd upper (by decide)
  · rintro rfl
    exact absurd upper (by decide)

theorem entries_comment (description : List Char) :
    entries ('#' :: ' ' :: description) = (laterLines description).filter isEntry := by
  have split : lines (['#', ' '] ++ description) =
      (['#', ' '] ++ firstLine description) :: laterLines description :=
    lines_append (by decide) description
  unfold entries
  change (lines (['#', ' '] ++ description)).filter isEntry = _
  rw [split, List.filter_cons, if_neg (by simp [isEntry, isComment])]

theorem entries_variableContent {envVar : EnvVariable} (valid : isValidEnvKey envVar.key = true)
    (value : String) :
    entries (variableContent envVar.key envVar.description value).toList =
      ((presentText envVar.description).elim [] fun description =>
          (laterLines description.toList).filter isEntry) ++
        (envVar.key.toList ++ '=' :: firstLine value.toList) ::
          (laterLines value.toList).filter isEntry := by
  have assignment : entries (envVar.key ++ "=" ++ value).toList =
      (envVar.key.toList ++ '=' :: firstLine value.toList) ::
        (laterLines value.toList).filter isEntry := by
    obtain ⟨unbroken, _⟩ := isValidEnvKey_cases valid
    have split : lines (envVar.key.toList ++ ['='] ++ value.toList) =
        (envVar.key.toList ++ ['='] ++ firstLine value.toList) :: laterLines value.toList :=
      lines_append (by simp [unbroken]) value.toList
    unfold entries
    rw [String.toList_append, String.toList_append]
    change (lines (envVar.key.toList ++ ['='] ++ value.toList)).filter isEntry = _
    rw [split, List.filter_cons, List.append_assoc, if_pos (isEntry_of_key valid _)]
    rfl
  unfold variableContent
  cases presentText envVar.description with
  | none =>
      rw [String.toList_append]
      change entries (_ ++ '\n' :: []) = _
      rw [entries_break, assignment, entries_nil, List.append_nil]
      rfl
  | some description =>
      have text : ("# " ++ description ++ "\n" ++ (envVar.key ++ "=" ++ value ++ "\n") ++
          "\n").toList = ('#' :: ' ' :: description.toList) ++
            '\n' :: ((envVar.key ++ "=" ++ value).toList ++ '\n' :: ([] ++ '\n' :: [])) := by
        simp [String.toList_append]
      dsimp only
      rw [text, entries_break, entries_break, entries_break, entries_comment, assignment,
        entries_nil, List.append_nil, List.append_nil]
      rfl

def Accepted (envVar : EnvVariable) : Prop :=
  isValidEnvKey envVar.key = true ∧ envVar.value.isSome = true

theorem accepted_of_valid {envVariables : List EnvVariable}
    (valid : validateEnvVariables envVariables = []) :
    ∀ envVar ∈ envVariables, Accepted envVar := by
  intro envVar membership
  have none := List.flatMap_eq_nil_iff.mp valid envVar membership
  unfold variableErrors at none
  split at none
  · cases none
  · rw [List.append_eq_nil_iff] at none
    refine ⟨?_, ?_⟩
    · by_contra invalid
      simp [invalid] at none
    · by_contra missing
      simp [Option.isSome_iff_ne_none] at missing
      simp [missing] at none

theorem entries_of_unbroken {envVar : EnvVariable} (accepted : Accepted envVar)
    (unbroken : Unbroken environment envVar) {value : String}
    (read : readBack environment envVar = .ok value) :
    entries (variableContent envVar.key envVar.description value).toList =
      [envVar.key.toList ++ '=' :: value.toList] := by
  have hidden : ((presentText envVar.description).elim [] fun description =>
      (laterLines description.toList).filter isEntry) = [] := by
    cases described : presentText envVar.description with
    | none => rfl
    | some description =>
        have given := (Option.filter_eq_some_iff.mp described).1
        apply List.filter_eq_nil_iff.mpr
        intro later membership
        simp [unbroken.2 description given later membership]
  have single : lines value.toList = [value.toList] := lines_of_not_mem (unbroken.1 value read)
  rw [entries_variableContent accepted.1, hidden]
  unfold firstLine laterLines
  rw [single]
  rfl

theorem variableContent_closed (key : String) (description : Option String) (value : String) :
    (variableContent key description value).toList.getLast? = some '\n' := by
  unfold variableContent
  cases presentText description with
  | none =>
      dsimp only
      rw [String.toList_append]
      exact List.getLast?_concat
  | some description =>
      dsimp only
      rw [String.toList_append]
      exact List.getLast?_concat

theorem entries_submittedContents {envVariables : List EnvVariable}
    (accepted : ∀ envVar ∈ envVariables, Accepted envVar)
    (unbroken : ∀ envVar ∈ envVariables, Unbroken environment envVar) :
    ((envVariables.mapM (submittedContent environment)).map fun contents =>
        entries (String.join contents).toList) =
      envVariables.mapM (listedLine environment) := by
  induction envVariables with
  | nil => rfl
  | cons envVar rest ih =>
      have others := ih
        (fun other membership => accepted other (List.mem_cons_of_mem envVar membership))
        fun other membership => unbroken other (List.mem_cons_of_mem envVar membership)
      rw [List.mapM_cons, List.mapM_cons, ← others]
      cases read : readBack environment envVar with
      | error message =>
          unfold submittedContent listedLine
          rw [read]
          rfl
      | ok value =>
          have here := entries_of_unbroken (accepted envVar List.mem_cons_self)
            (unbroken envVar List.mem_cons_self) read
          have content : submittedContent environment envVar =
              .ok (variableContent envVar.key envVar.description value) := by
            rw [submittedContent, read]
            rfl
          have line : listedLine environment envVar =
              .ok (envVar.key.toList ++ '=' :: value.toList) := by
            rw [listedLine, read]
            rfl
          rw [content, line]
          cases rest.mapM (submittedContent environment) with
          | error message => rfl
          | ok contents =>
              change Except.ok (entries (String.join (_ :: contents)).toList) =
                Except.ok (_ :: entries (String.join contents).toList)
              rw [String.join_cons, String.toList_append,
                entries_append (variableContent_closed ..), here]
              rfl

theorem entries_generateEnvFileContent {envVariables stored : List EnvVariable}
    (all : List.Forall₂ (Stores environment) envVariables stored)
    (accepted : ∀ envVar ∈ envVariables, Accepted envVar)
    (unbroken : ∀ envVar ∈ envVariables, Unbroken environment envVar) :
    ((generateEnvFileContent environment stored).map fun content => entries content.toList) =
      envVariables.mapM (listedLine environment) := by
  rw [← entries_submittedContents accepted unbroken]
  cases all with
  | nil =>
      have none : entries
          "# No environment variables configured for this repository\n".toList = [] := by decide
      exact congrArg Except.ok none
  | cons stores rest =>
      unfold generateEnvFileContent
      dsimp only
      rw [mapM_stored (.cons stores rest)]
      cases List.mapM (submittedContent environment) _ with
      | error message => rfl
      | ok contents =>
          have comments : entries fileHeader.toList = [] := by decide
          change Except.ok (entries (fileHeader ++ String.join contents).toList) = Except.ok _
          rw [String.toList_append, entries_append (by decide), comments, List.nil_append]

end EnvService

open EnvService in
/-- Valid variables can be stored, and the file that is generated from what was stored lists
them with the submitted values, one line each and in order. -/
theorem env_file_lists_variables (environment : CryptoEnvironment)
    (ideal : environment.library.Ideal) (envVariables : List EnvVariable)
    (valid : validateEnvVariables envVariables = [])
    (unbroken : ∀ envVar ∈ envVariables, Unbroken environment envVar) (store : Store)
    (choices : Nat → StoreChoice)
    (supplied : ∀ index, Supplies environment envVariables (choices index)) :
    ∃ stored, ((prepareForStorage environment envVariables).exec (store.start choices)).1 =
        .ok stored ∧
      ((generateEnvFileContent environment stored).map fun content => entries content.toList) =
        envVariables.mapM (listedLine environment) := by
  have accepted := accepted_of_valid valid
  have assumed : Record.Always (Supplied environment envVariables)
      ((prepareForStorage environment envVariables).exec (store.start choices)).2.history :=
    Process.always_choices _ (Supplies environment envVariables) (store.start choices) supplied
      .nil
  have stores := prepareForStorage_stores ideal (List.Subset.refl envVariables)
    (fun envVar membership => (accepted envVar membership).2) (store.start choices) trivial
    assumed
  revert stores
  rcases (prepareForStorage environment envVariables).exec (store.start choices) with
    ⟨message | stored, next⟩
  · exact False.elim
  · intro all
    exact ⟨stored, rfl, entries_generateEnvFileContent all accepted unbroken⟩

theorem ApiSample.variables_supplied :
    EnvService.Supplies ApiSample.crypto [ApiSample.password, ApiSample.port]
      (ApiSample.choices 0) := by
  refine ⟨by decide, ?_⟩
  rintro envVar membership isSecret value held _ _
  rcases List.mem_pair.mp membership with rfl | rfl
  · cases held
    exact ⟨ApiSample.key, (ApiSample.authTag, "869dc893a59964"), by decide, by decide⟩
  · cases isSecret

theorem ApiSample.variables_unbroken :
    ∀ envVar ∈ [ApiSample.password, ApiSample.port],
      EnvService.Unbroken ApiSample.crypto envVar := by
  intro envVar membership
  rcases List.mem_pair.mp membership with rfl | rfl <;> refine ⟨?_, ?_⟩
  · intro value read
    cases read
    decide
  · intro description held
    cases held
  · intro value read
    cases read
    decide
  · intro description held
    cases held
    decide

theorem env_file_lists_password :
    ∃ stored, ((EnvService.prepareForStorage ApiSample.crypto
        [ApiSample.password, ApiSample.port]).exec
          (ApiSample.store.start ApiSample.choices)).1 = .ok stored ∧
      ((EnvService.generateEnvFileContent ApiSample.crypto stored).map fun content =>
        entries content.toList) =
          .ok ["DB_PASSWORD=hunter2".toList, "PORT=8080".toList] :=
  env_file_lists_variables ApiSample.crypto ApiSample.library_ideal
    [ApiSample.password, ApiSample.port] (by decide) ApiSample.variables_unbroken _ _
    fun _ => ApiSample.variables_supplied

def ApiSample.fileLines (envVariables : List EnvVariable) : Except String (List String) := do
  let stored ← ((EnvService.prepareForStorage ApiSample.crypto envVariables).exec
    (ApiSample.store.start ApiSample.choices)).1
  let content ← EnvService.generateEnvFileContent ApiSample.crypto stored
  return (entries content.toList).map String.ofList

/-- A secret that was submitted in encrypted form is listed as it was before, and with one that
only starts like that there is no file. -/
theorem env_file_lists_another_value :
    let encrypted : EnvVariable :=
      { key := "DB_PASSWORD", isSecret := true,
        value := some (CryptoService.format ApiSample.iv ApiSample.authTag "869dc893a59964") }
    let marked : EnvVariable :=
      { key := "DB_PASSWORD", value := some "enc:hunter2", isSecret := true }
    EnvService.validateEnvVariables [encrypted] = [] ∧
    ApiSample.fileLines [encrypted] = .ok ["DB_PASSWORD=hunter2"] ∧
    EnvService.validateEnvVariables [marked] = [] ∧
    ApiSample.fileLines [marked] =
      .error "Failed to decrypt value. Check ENV_ENCRYPTION_KEY." := by
  decide +kernel

end MultiAgents
