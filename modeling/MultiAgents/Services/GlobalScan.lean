import MultiAgents.Containers.Entries
import MultiAgents.Services.AgentSpy
import MultiAgents.Text.Path

/-!
# The scan of all repositories

The files of a workspace are looked for in its directories, up to a depth and a
number.  The Global Scan scans each repository in turn and counts what it finds,
by severity, by type and by repository; the files are counted by a second walk.
Disks do not change during a scan.
-/

namespace MultiAgents.AgentSpy

open Containers Text

def codeExtensions : List String :=
  [".ts", ".js", ".tsx", ".jsx", ".py", ".rb", ".go", ".java", ".sh", ".bash", ".yml", ".yaml",
    ".json", ".env", ".sql"]

def ignoreDirs : List String :=
  ["node_modules", ".git", "dist", "build", ".next", "__pycache__", "venv"]

structure FileStat where
  isFile : Bool := true
  size : Nat

/-- A relative path leads to the same directory as the absolute one. -/
structure Disk where
  toLowerCase : String → String
  resolve : String → String
  readdir : String → Option (Entries Unit)
  stat : String → Option FileStat
  read : String → Option String
  readdir_resolve : ∀ path, readdir (resolve path) = readdir path

namespace Disk

variable (disk : Disk)

def isCodeFile (name : String) : Bool :=
  codeExtensions.contains (disk.toLowerCase (String.ofList (Path.extname name.toList))) ||
    ".env".toList.isPrefixOf name.toList

def isEntered (name : String) : Bool :=
  !ignoreDirs.contains name && !".".toList.isPrefixOf name.toList

def walkDir (maxFiles : Nat) (dir : String) (depth : Nat) :
    Entries Unit → List String → List String
  | .nil, files => files
  | .file name _ rest, files =>
      if maxFiles ≤ files.length then files
      else
        walkDir maxFiles dir depth rest
          (if disk.isCodeFile name then files ++ [Path.join [dir, name]] else files)
  | .directory name readable contents rest, files =>
      if maxFiles ≤ files.length then files
      else
        walkDir maxFiles dir depth rest
          (if !isEntered name || 5 < depth + 1 || !readable then files
          else walkDir maxFiles (Path.join [dir, name]) (depth + 1) contents files)
  | .other _ rest, files =>
      if maxFiles ≤ files.length then files else walkDir maxFiles dir depth rest files

def findCodeFiles (workspacePath : String) (maxFiles : Nat) : List String :=
  match disk.readdir workspacePath with
  | none => []
  | some entries => if maxFiles = 0 then [] else disk.walkDir maxFiles workspacePath 0 entries []

def countCodeFiles (workspacePath : String) : Nat :=
  (disk.findCodeFiles workspacePath 500).length

def absolute (workspacePath : String) : String :=
  if Path.isAbsolute workspacePath.toList then workspacePath else disk.resolve workspacePath

/-- The content of a file that is not too large. -/
def content? (maxFileSize : Nat) (path : String) : Option String := do
  let stat ← disk.stat path
  if !stat.isFile || maxFileSize < stat.size then none else disk.read path

def filesToScan (workspacePath : String) (maxFiles : Nat) : List (String × Option String) :=
  let workspacePath := disk.absolute workspacePath
  (disk.findCodeFiles workspacePath maxFiles).map fun filePath =>
    let fullPath :=
      if Path.isAbsolute filePath.toList then filePath else Path.join [workspacePath, filePath]
    (fullPath, disk.content? (500 * 1024) fullPath)

end Disk

structure ScannedRepository where
  name : PropertyName
  localPath : String
  type : String

structure RepositoryReport where
  name : String
  path : String
  type : String
  filesScanned : Nat
  vulnerabilitiesFound : Nat

structure GlobalVulnerabilityScan where
  totalFilesScanned : Nat := 0
  repositoriesScanned : List RepositoryReport := []
  vulnerabilities : List Vulnerability := []
  bySeverity : VulnerabilitySeverity → Nat := fun _ => 0
  byType : OrderedMap String Nat := .empty
  byRepository : OrderedMap String Nat := .empty

namespace GlobalVulnerabilityScan

def count (repository : String) (scan : GlobalVulnerabilityScan) (vulnerability : Vulnerability) :
    GlobalVulnerabilityScan :=
  { scan with
    vulnerabilities := scan.vulnerabilities ++ [vulnerability]
    bySeverity := Function.update scan.bySeverity vulnerability.severity
      (scan.bySeverity vulnerability.severity + 1)
    byType := countUp scan.byType vulnerability.type
    byRepository := countUp scan.byRepository repository }

end GlobalVulnerabilityScan

variable (runtime : Runtime) (disk : Disk) (context : Context)

def Spy.scanRepository (state : GlobalVulnerabilityScan × Spy) (repo : ScannedRepository) :
    GlobalVulnerabilityScan × Spy :=
  let (repoVulns, spy) := state.2.scanWorkspace runtime context (disk.absolute repo.localPath) 200
    (disk.filesToScan repo.localPath 200)
  let filesInRepo := disk.countCodeFiles repo.localPath
  let scan :=
    { state.1 with
      totalFilesScanned := state.1.totalFilesScanned + filesInRepo
      repositoriesScanned := state.1.repositoriesScanned ++
        [{ name := repo.name, path := repo.localPath, type := repo.type,
           filesScanned := filesInRepo, vulnerabilitiesFound := repoVulns.length }] }
  (repoVulns.foldl (GlobalVulnerabilityScan.count repo.name) scan, spy)

def Spy.scanAllRepositories (spy : Spy) (repositories : List ScannedRepository) :
    GlobalVulnerabilityScan × Spy :=
  repositories.foldl (scanRepository runtime disk context) ({}, spy)

structure ScanTotals where
  totalRepositories : Nat
  totalFilesScanned : Nat := 0
  totalVulnerabilities : Nat := 0
  criticalCount : Nat := 0
  highCount : Nat := 0
  mediumCount : Nat := 0
  lowCount : Nat := 0

structure GlobalScanReport where
  success : Bool
  scan : GlobalVulnerabilityScan
  summary : ScanTotals
  error : Option String := none

/-- Telling the frontend about the scan may fail. -/
def executeGlobalScanPhase (spy : Spy) (taskId : String) (sessionId : Option String)
    (repositories : List ScannedRepository) (fault : Option String) : GlobalScanReport × Spy :=
  let context : Context :=
    ⟨taskId, (presentText sessionId).getD "global-scan", "GlobalScan", none⟩
  let (scan, spy) := spy.scanAllRepositories runtime disk context repositories
  match fault with
  | some error =>
      ({ success := false
         scan := {}
         summary := { totalRepositories := repositories.length }
         error := some error }, spy)
  | none =>
      ({ success := true
         scan
         summary :=
           { totalRepositories := repositories.length
             totalFilesScanned := scan.totalFilesScanned
             totalVulnerabilities := scan.vulnerabilities.length
             criticalCount := scan.bySeverity .critical
             highCount := scan.bySeverity .high
             mediumCount := scan.bySeverity .medium
             lowCount := scan.bySeverity .low } }, spy)

end MultiAgents.AgentSpy
