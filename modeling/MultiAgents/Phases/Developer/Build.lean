import MultiAgents.Services.GitService

/-!
# Build checks

Detection of a repository's build system from the files it has, and the check of
every repository with changes.
-/

namespace MultiAgents

open Effects Text

structure BuildCheckResult where
  success : Bool
  buildSystem : String
  command : String
  error : Option String := none
  output : Option String := none
  deriving DecidableEq

structure BuildSystem where
  name : String
  command : String
  deriving DecidableEq

namespace BuildCheck

def existsIn (repoPath file : String) : Program Bool :=
  Request.issue (.existsSync s!"{repoPath}/{file}")

def readIn (repoPath file : String) : Program String :=
  .attempt (Request.issue (.readFileSync s!"{repoPath}/{file}"))

/-- Whether one of the files exists, looked up from left to right. -/
def anyExistsIn (repoPath : String) : List String → Program Bool
  | [] => pure false
  | file :: rest => do
      if ← existsIn repoPath file then pure true else anyExistsIn repoPath rest

def firstExistingIn (repoPath : String) :
    List (String × BuildSystem) → Program (Option BuildSystem)
  | [] => pure none
  | (file, system) :: rest => do
      if ← existsIn repoPath file then pure (some system) else firstExistingIn repoPath rest

/-- The scripts of a package description; `null` and unreadable text throw. -/
def packageScripts (content : String) : Except String Json := do
  match Json.parse content.toList with
  | none => throw "SyntaxError: not valid JSON"
  | some package => pure ((← Value.member (some package) "scripts").orElse (.obj []))

def javascript (repoPath : String) : Program (Option BuildSystem) := do
  if ← existsIn repoPath "package.json" then
    tryCatch (do
      let content ← readIn repoPath "package.json"
      let scripts ← Process.ofExcept (packageScripts content)
      if (scripts.property "build").truthy then
        if ← anyExistsIn repoPath ["vite.config.ts", "vite.config.js"] then
          pure (some ⟨"vite", "npm run build"⟩)
        else if ← anyExistsIn repoPath ["next.config.js", "next.config.mjs", "next.config.ts"] then
          pure (some ⟨"next", "npm run build"⟩)
        else if ← existsIn repoPath "webpack.config.js" then
          pure (some ⟨"webpack", "npm run build"⟩)
        else pure (some ⟨"npm", "npm run build"⟩)
      else if ← existsIn repoPath "tsconfig.json" then
        pure (some ⟨"typescript", "npx tsc --noEmit"⟩)
      else pure none)
      fun _ => pure none
  else pure none

def python : List (String × BuildSystem) :=
  [("pyproject.toml", "python",
      "python -m mypy . --ignore-missing-imports 2>/dev/null || python -m ruff check . " ++
        "2>/dev/null || python -m py_compile $(find . -name \"*.py\" -type f | head -50)"),
    ("setup.py", "python-setup",
      "python setup.py check 2>/dev/null || " ++
        "python -m py_compile $(find . -name \"*.py\" -type f | head -50)"),
    ("requirements.txt", "python-requirements",
      "python -m py_compile $(find . -name \"*.py\" -type f | head -50) 2>/dev/null || " ++
        "echo \"Python syntax check completed\"")].map
    fun (file, name, command) => (file, ⟨name, command⟩)

def compiled : List (String × BuildSystem) :=
  [("go.mod", ⟨"go", "go build ./... && go vet ./..."⟩),
    ("Cargo.toml", ⟨"rust", "cargo check"⟩),
    ("pom.xml", ⟨"maven", "mvn compile -q"⟩)]

def gradle (repoPath : String) : Program (Option BuildSystem) := do
  if ← anyExistsIn repoPath ["build.gradle", "build.gradle.kts"] then
    if ← existsIn repoPath "gradlew" then pure (some ⟨"gradle", "./gradlew build -x test -q"⟩)
    else pure (some ⟨"gradle", "gradle build -x test -q"⟩)
  else pure none

def dotnet (repoPath : String) : Program (Option BuildSystem) := do
  let files ← Process.attempt (Request.issue (.readdirSync repoPath))
  if files.any fun file => file.endsWith ".csproj" || file.endsWith ".sln" then
    pure (some ⟨"dotnet", "dotnet build --no-restore -v q"⟩)
  else pure none

def dart (repoPath : String) : Program (Option BuildSystem) := do
  if ← existsIn repoPath "pubspec.yaml" then
    tryCatch (do
      let pubspec ← readIn repoPath "pubspec.yaml"
      if includes pubspec "flutter:" || includes pubspec "flutter_test:" then
        pure (some ⟨"flutter", "flutter analyze --no-pub"⟩)
      else pure (some ⟨"dart", "dart analyze"⟩))
      fun _ => pure (some ⟨"dart", "dart analyze"⟩)
  else pure none

def firstDetected : List (Program (Option BuildSystem)) → Program (Option BuildSystem)
  | [] => pure none
  | detect :: rest => do
      match ← detect with
      | some system => pure (some system)
      | none => firstDetected rest

def detect (repoPath : String) : Program (Option BuildSystem) :=
  firstDetected [javascript repoPath, firstExistingIn repoPath python,
    firstExistingIn repoPath compiled, gradle repoPath, dotnet repoPath, dart repoPath]

end BuildCheck

def runBuildCheck (repoPath : String) : Program BuildCheckResult := do
  match ← BuildCheck.detect repoPath with
  | none =>
      pure ⟨true, "none", "none", none,
        some "No supported build system found, skipping build check"⟩
  | some system =>
      match ← Request.issue (.execBuild system.command repoPath) with
      | .ok output => pure ⟨true, system.name, system.command, none, some output⟩
      | .error message => pure ⟨false, system.name, system.command, some message, none⟩

structure BuildChecks where
  allPassed : Bool := true
  results : List (String × BuildCheckResult) := []

def reportBuild (taskId : String) (repo : RepositoryInfo) (result : BuildCheckResult) :
    Program Unit :=
  if result.success then
    SocketService.toTask taskId (.buildSuccess repo.name repo.type result.buildSystem)
  else
    SocketService.toTask taskId
      (.buildFailed repo.name repo.type result.error result.buildSystem)

/-- The check of one repository, `none` when it has no changes. -/
def checkRepo (taskId : String) (repo : RepositoryInfo) : Program (Option BuildCheckResult) :=
  tryCatch (do
    if ← GitService.hasChanges repo.localPath then
      SocketService.toTask taskId (.buildStarted repo.name repo.type)
      let result ← runBuildCheck repo.localPath
      reportBuild taskId repo result
      pure (some result)
    else pure none)
    fun message => pure (some ⟨false, "error", "error", some message, none⟩)

def BuildChecks.add (checks : BuildChecks) (repo : RepositoryInfo) :
    Option BuildCheckResult → BuildChecks
  | none => checks
  | some result => ⟨checks.allPassed && result.success, checks.results ++ [(repo.name, result)]⟩

def runBuildChecksOnRepos (repositories : List RepositoryInfo) (taskId : String) :
    Program BuildChecks :=
  repositories.foldlM (fun checks repo => do
    let result ← checkRepo taskId repo
    pure (checks.add repo result)) {}

end MultiAgents
