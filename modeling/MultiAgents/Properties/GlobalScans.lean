import MultiAgents.Properties.SpyScans
import MultiAgents.Services.GlobalScan

/-!
# Files and counts of the Global Scan

A walk with a limit finds the first of the files that a walk without one would
find.  Each vulnerability is counted once in every table and stored for the task.
The files of a repository are counted without looking at them, up to another
limit than the one for scanning them.
-/

namespace MultiAgents.AgentSpy

open Containers Text

namespace Disk

variable (disk : Disk)

def below (workspacePath : String) (names : List String) : String :=
  names.foldl (fun dir name => Path.join [dir, name]) workspacePath

def eligible (found : Found Unit) : Bool :=
  found.directories.length ≤ 5 && found.directories.all isEntered && disk.isCodeFile found.name

def codeFiles (workspacePath : String) (above : List String) (entries : Entries Unit) :
    List String :=
  ((entries.listing above).filter disk.eligible).map fun found =>
    below workspacePath (found.directories ++ [found.name])

/-- The eligible files below a directory, depth first. -/
def eligibleFiles (workspacePath : String) : List String :=
  (disk.readdir workspacePath).elim [] (disk.codeFiles workspacePath [])

theorem codeFiles_of_skipped {name : String} {above : List String}
    (skipped : ¬(isEntered name = true ∧ above.length + 1 ≤ 5)) (workspacePath : String)
    (contents : Entries Unit) : disk.codeFiles workspacePath (above ++ [name]) contents = [] := by
  unfold codeFiles
  rw [List.map_eq_nil_iff, List.filter_eq_nil_iff]
  intro found membership passes
  have leads := Entries.above_prefix membership
  simp only [eligible, Bool.and_eq_true, decide_eq_true_eq, List.all_eq_true] at passes
  refine skipped ⟨passes.1.2 name (leads.subset (by simp)), ?_⟩
  have longer := leads.length_le
  rw [List.length_append, List.length_singleton] at longer
  omega

theorem walkDir_eq (workspacePath : String) (maxFiles : Nat) (entries : Entries Unit)
    {above : List String} (shallow : above.length ≤ 5) (entered : above.all isEntered = true)
    (files : List String) :
    disk.walkDir maxFiles (below workspacePath above) above.length entries files =
      files ++ (disk.codeFiles workspacePath above entries).take (maxFiles - files.length) := by
  induction entries generalizing above files with
  | nil => simp [walkDir, codeFiles, Entries.listing]
  | file name data rest ih =>
      have found : disk.codeFiles workspacePath above (.file name data rest) =
          (if disk.isCodeFile name then [Path.join [below workspacePath above, name]] else []) ++
            disk.codeFiles workspacePath above rest := by
        unfold codeFiles
        rw [Entries.listing, List.filter_cons]
        simp only [eligible, shallow, entered, decide_true, Bool.true_and]
        split <;> simp [below]
      rw [walkDir, found]
      split
      · rw [Nat.sub_eq_zero_of_le ‹_›, List.take_zero, List.append_nil]
      · split
        · rw [ih shallow entered, List.length_append, List.length_singleton, List.append_assoc,
            show maxFiles - files.length = (maxFiles - (files.length + 1)) + 1 by omega]
          rfl
        · exact ih shallow entered files
  | directory name readable contents rest ihContents ih =>
      have found : disk.codeFiles workspacePath above (.directory name readable contents rest) =
          (if readable then disk.codeFiles workspacePath (above ++ [name]) contents else []) ++
            disk.codeFiles workspacePath above rest := by
        unfold codeFiles
        rw [Entries.listing, List.filter_append, List.map_append]
        cases readable <;> rfl
      rw [walkDir, found]
      split
      · rw [Nat.sub_eq_zero_of_le ‹_›, List.take_zero, List.append_nil]
      · have inside : (if !isEntered name || 5 < above.length + 1 || !readable then files
            else disk.walkDir maxFiles (Path.join [below workspacePath above, name])
              (above.length + 1) contents files) =
            files ++ (if readable then disk.codeFiles workspacePath (above ++ [name]) contents
              else []).take (maxFiles - files.length) := by
          cases readable with
          | false => simp
          | true =>
              by_cases goes : isEntered name = true ∧ above.length + 1 ≤ 5
              · have deeper := @ihContents (above ++ [name]) (by simpa using goes.2)
                  (by simp [entered, goes.1]) files
                rw [below, List.foldl_append, List.length_append] at deeper
                rw [if_neg (by simp [goes.1]; omega), if_pos rfl]
                exact deeper
              · rw [codeFiles_of_skipped disk goes, if_pos, ite_self, List.take_nil,
                  List.append_nil]
                simp only [Bool.not_true, Bool.or_false, Bool.or_eq_true, Bool.not_eq_true',
                  decide_eq_true_eq]
                by_cases enters : isEntered name = true
                · exact .inr (by simp only [enters, true_and] at goes; omega)
                · exact .inl (by simpa using enters)
        rw [inside, ih shallow entered, List.append_assoc, List.take_append, List.length_append,
          List.length_take]
        congr 3
        omega
  | other name rest ih =>
      rw [walkDir]
      split
      · rw [Nat.sub_eq_zero_of_le ‹_›, List.take_zero, List.append_nil]
      · exact ih shallow entered files

theorem findCodeFiles_eq (workspacePath : String) (maxFiles : Nat) :
    disk.findCodeFiles workspacePath maxFiles =
      (disk.eligibleFiles workspacePath).take maxFiles := by
  unfold findCodeFiles eligibleFiles
  cases disk.readdir workspacePath with
  | none => simp
  | some entries =>
      dsimp only [Option.elim]
      split
      · rename_i none
        rw [none, List.take_zero]
      · exact @walkDir_eq disk workspacePath maxFiles entries [] (by decide) rfl []

/-- The first files of those that are eligible, as many as there may be. -/
theorem findCodeFiles_first_eligible (workspacePath : String) (maxFiles : Nat) :
    disk.findCodeFiles workspacePath maxFiles = (disk.eligibleFiles workspacePath).take
      (min maxFiles (disk.eligibleFiles workspacePath).length) := by
  rw [findCodeFiles_eq, ← List.take_eq_take_min]

end Disk

namespace GlobalVulnerabilityScan

/-- Every table counts what is listed. -/
structure Tallied (scan : GlobalVulnerabilityScan) : Prop where
  bySeverity : scan.bySeverity .low + scan.bySeverity .medium + scan.bySeverity .high +
    scan.bySeverity .critical = scan.vulnerabilities.length
  byType : scan.byType.sum id = scan.vulnerabilities.length
  byRepository : scan.byRepository.sum id = scan.vulnerabilities.length

def found (scan : GlobalVulnerabilityScan) : Nat :=
  (scan.repositoriesScanned.map RepositoryReport.vulnerabilitiesFound).sum

theorem Tallied.count {scan : GlobalVulnerabilityScan} (tallied : scan.Tallied)
    (repository : String) (vulnerability : Vulnerability) :
    (scan.count repository vulnerability).Tallied where
  bySeverity := by
    have before := tallied.bySeverity
    unfold GlobalVulnerabilityScan.count
    rw [List.length_append, List.length_singleton, ← before]
    cases vulnerability.severity <;> simp <;> omega
  byType := by
    rw [GlobalVulnerabilityScan.count, sum_countUp, tallied.byType, List.length_append]
    rfl
  byRepository := by
    rw [GlobalVulnerabilityScan.count, sum_countUp, tallied.byRepository, List.length_append]
    rfl

theorem foldl_count (repository : String) (vulnerabilities : List Vulnerability)
    (scan : GlobalVulnerabilityScan) :
    let counted := vulnerabilities.foldl (GlobalVulnerabilityScan.count repository) scan
    (scan.Tallied → counted.Tallied) ∧ counted.found = scan.found ∧
      counted.vulnerabilities = scan.vulnerabilities ++ vulnerabilities ∧
      counted.repositoriesScanned = scan.repositoriesScanned ∧
      counted.totalFilesScanned = scan.totalFilesScanned := by
  induction vulnerabilities generalizing scan with
  | nil => exact ⟨id, rfl, (List.append_nil _).symm, rfl, rfl⟩
  | cons vulnerability vulnerabilities ih =>
      obtain ⟨tallied, found, listed, reports, files⟩ := ih (scan.count repository vulnerability)
      refine ⟨fun before => tallied (before.count repository vulnerability), found, ?_, reports,
        files⟩
      exact listed.trans (List.append_assoc scan.vulnerabilities [vulnerability] vulnerabilities)

end GlobalVulnerabilityScan

section Scan

variable (runtime : Runtime) (disk : Disk) (context : Context)

theorem Spy.scanWorkspace_stored (spy : Spy) (workspacePath : String) (maxFiles : Nat)
    (files : List (String × Option String)) :
    let scanned := spy.scanWorkspace runtime context workspacePath maxFiles files
    scanned.2.getVulnerabilities context.taskId =
      spy.getVulnerabilities context.taskId ++ scanned.1 := by
  unfold Spy.scanWorkspace
  dsimp only
  split
  · rename_i nothing
    rw [nothing, List.append_nil]
    rfl
  · unfold Spy.store Spy.getVulnerabilities
    rw [OrderedMap.get?_set, if_pos rfl]
    rfl

/-- The tables agree, and what is listed has been stored after what was known before. -/
structure Consistent (before : List Vulnerability) (state : GlobalVulnerabilityScan × Spy) :
    Prop where
  tallied : state.1.Tallied
  found : state.1.found = state.1.vulnerabilities.length
  stored : state.2.getVulnerabilities context.taskId = before ++ state.1.vulnerabilities

theorem Consistent.scanRepository {before : List Vulnerability}
    {state : GlobalVulnerabilityScan × Spy} (consistent : Consistent context before state)
    (repo : ScannedRepository) :
    Consistent context before (Spy.scanRepository runtime disk context state repo) := by
  unfold Spy.scanRepository
  have stores := state.2.scanWorkspace_stored runtime context (disk.absolute repo.localPath) 200
    (disk.filesToScan repo.localPath 200)
  generalize state.2.scanWorkspace runtime context (disk.absolute repo.localPath) 200
    (disk.filesToScan repo.localPath 200) = scanned at stores
  obtain ⟨repoVulns, spy⟩ := scanned
  dsimp only at stores ⊢
  generalize reported : ({ state.1 with
    totalFilesScanned := state.1.totalFilesScanned + disk.countCodeFiles repo.localPath
    repositoriesScanned := state.1.repositoriesScanned ++
      [⟨repo.name, repo.localPath, repo.type, disk.countCodeFiles repo.localPath,
        repoVulns.length⟩] } : GlobalVulnerabilityScan) = scan
  obtain ⟨tallied, found, listed, -⟩ :=
    GlobalVulnerabilityScan.foldl_count repo.name repoVulns scan
  subst reported
  refine ⟨tallied ⟨consistent.tallied.1, consistent.tallied.2, consistent.tallied.3⟩, ?_, ?_⟩
  · rw [found, listed, List.length_append, ← consistent.found]
    simp [GlobalVulnerabilityScan.found]
  · rw [listed, stores, consistent.stored, List.append_assoc]

theorem consistent_scanAllRepositories (spy : Spy) (repositories : List ScannedRepository) :
    Consistent context (spy.getVulnerabilities context.taskId)
      (spy.scanAllRepositories runtime disk context repositories) := by
  have initial : Consistent context (spy.getVulnerabilities context.taskId) ({}, spy) :=
    ⟨⟨rfl, rfl, rfl⟩, rfl, (List.append_nil _).symm⟩
  exact List.foldlRecOn repositories _ initial fun _ consistent repo _ =>
    consistent.scanRepository runtime disk context repo

end Scan

/-- What a report says about its vulnerabilities, and AgentSpy about the task. -/
structure GlobalScanReport.Agrees (report : GlobalScanReport) (spy : Spy) (taskId : String) :
    Prop where
  total : report.summary.totalVulnerabilities = report.scan.vulnerabilities.length
  byRepositoryScanned : (report.scan.repositoriesScanned.map
    RepositoryReport.vulnerabilitiesFound).sum = report.scan.vulnerabilities.length
  bySeverity : report.scan.bySeverity .low + report.scan.bySeverity .medium +
    report.scan.bySeverity .high + report.scan.bySeverity .critical =
      report.scan.vulnerabilities.length
  summary : report.summary.lowCount + report.summary.mediumCount + report.summary.highCount +
    report.summary.criticalCount = report.scan.vulnerabilities.length
  byType : report.scan.byType.sum id = report.scan.vulnerabilities.length
  byRepository : report.scan.byRepository.sum id = report.scan.vulnerabilities.length
  stored : ∀ vulnerability ∈ report.scan.vulnerabilities,
    vulnerability ∈ spy.getVulnerabilities taskId

theorem global_scan_counts_agree (runtime : Runtime) (disk : Disk) (spy : Spy) (taskId : String)
    (sessionId : Option String) (repositories : List ScannedRepository) (fault : Option String)
    (success : (executeGlobalScanPhase runtime disk spy taskId sessionId repositories
      fault).1.success = true) :
    (executeGlobalScanPhase runtime disk spy taskId sessionId repositories fault).1.Agrees
      (executeGlobalScanPhase runtime disk spy taskId sessionId repositories fault).2 taskId := by
  cases fault with
  | some error => cases success
  | none =>
      have consistent := consistent_scanAllRepositories runtime disk
        ⟨taskId, (presentText sessionId).getD "global-scan", "GlobalScan", none⟩ spy repositories
      refine ⟨rfl, consistent.found, consistent.tallied.bySeverity, consistent.tallied.bySeverity,
        consistent.tallied.byType, consistent.tallied.byRepository, ?_⟩
      intro vulnerability membership
      refine Eq.mpr (congrArg (vulnerability ∈ ·) consistent.stored) ?_
      exact List.mem_append_right _ membership

/-- A workspace with one file. -/
def sampleDisk (size : Nat) : Disk where
  toLowerCase := id
  resolve := id
  readdir _ := some (.file "app.ts" () .nil)
  stat _ := some { size }
  read _ := some sampleLine
  readdir_resolve _ := rfl

def sampleRepository : ScannedRepository :=
  ⟨⟨"api", by decide⟩, "/workspaces/task-1/api", "backend"⟩

/-- Both repositories have the same name. -/
theorem repeated_repository_counts_agree :
    (executeGlobalScanPhase (sampleRuntime true) (sampleDisk 65) {} "task-1" none
      [sampleRepository, sampleRepository] none).1.summary.totalVulnerabilities = 2 ∧
    (executeGlobalScanPhase (sampleRuntime true) (sampleDisk 65) {} "task-1" none
      [sampleRepository, sampleRepository] none).1.Agrees
      (executeGlobalScanPhase (sampleRuntime true) (sampleDisk 65) {} "task-1" none
        [sampleRepository, sampleRepository] none).2 "task-1" :=
  ⟨by decide +kernel, global_scan_counts_agree _ _ _ _ _ _ _ rfl⟩

section Files

variable (runtime : Runtime) (disk : Disk)

/-- Whether the content of a file is scanned to its end. -/
def isScanned (context : Context) (file : String × Option String) : Bool :=
  file.2.any fun content =>
    !(runtime.raises context file.1 && !(firstLines runtime context file.1 content).isEmpty)

theorem scanFiles_scanned (context : Context) {maxFiles : Nat}
    (files : List (String × Option String)) {filesScanned : Nat}
    (room : filesScanned + files.length ≤ maxFiles) :
    (Spy.scanFiles runtime context maxFiles filesScanned {} files).2 =
      (filesScanned + (files.filter (isScanned runtime context)).length, {}) := by
  induction files generalizing filesScanned with
  | nil => rfl
  | cons file files ih =>
      obtain ⟨filePath, content⟩ := file
      rw [List.length_cons] at room
      have more : ¬maxFiles ≤ filesScanned := by omega
      rw [List.filter_cons]
      cases content with
      | none =>
          simp only [Spy.scanFiles, if_neg more]
          exact ih (by omega)
      | some content =>
          simp only [Spy.scanFiles, if_neg more, scanFileContent_eq, reported]
          by_cases failed : runtime.raises context filePath = true ∧
            firstLines runtime context filePath content ≠ []
          · rw [if_pos failed, if_neg (by simp [isScanned, failed])]
            exact ih (by omega)
          · have scanned : isScanned runtime context (filePath, some content) = true := by
              simpa [isScanned, or_iff_not_imp_left] using failed
            rw [if_neg failed, if_pos scanned, List.length_cons, ← Nat.add_assoc,
              Nat.add_right_comm]
            exact ih (by omega)

/-- The context of the scan of a repository. -/
def scanContext (context : Context) (repo : ScannedRepository) : Context :=
  { context with workspacePath := some (disk.absolute repo.localPath) }

/-- How many files of a repository are scanned; the tables are as they are before every scan. -/
def filesScanned (context : Context) (repo : ScannedRepository) : Nat :=
  (Spy.scanFiles runtime (scanContext disk context repo) 200 0 {}
    (disk.filesToScan repo.localPath 200)).2.1

theorem length_eligibleFiles_absolute (path : String) :
    (disk.eligibleFiles (disk.absolute path)).length = (disk.eligibleFiles path).length := by
  have same : disk.readdir (disk.absolute path) = disk.readdir path := by
    unfold Disk.absolute
    split
    · rfl
    · exact disk.readdir_resolve path
  unfold Disk.eligibleFiles
  rw [same]
  cases disk.readdir path with
  | none => rfl
  | some entries =>
      simp only [Option.elim, Disk.codeFiles, List.length_map]

theorem countCodeFiles_eq (path : String) :
    disk.countCodeFiles path = min 500 (disk.eligibleFiles path).length := by
  rw [Disk.countCodeFiles, Disk.findCodeFiles_eq, List.length_take]

theorem countCodeFiles_eq_filesScanned_iff (context : Context) (repo : ScannedRepository) :
    disk.countCodeFiles repo.localPath = filesScanned runtime disk context repo ↔
      (disk.eligibleFiles repo.localPath).length ≤ 200 ∧
        ∀ file ∈ disk.filesToScan repo.localPath 200,
          isScanned runtime (scanContext disk context repo) file = true := by
  have listed : (disk.filesToScan repo.localPath 200).length =
      min 200 (disk.eligibleFiles repo.localPath).length := by
    rw [Disk.filesToScan, List.length_map, Disk.findCodeFiles_eq, List.length_take,
      length_eligibleFiles_absolute]
  have scanned : filesScanned runtime disk context repo =
      ((disk.filesToScan repo.localPath 200).filter
        (isScanned runtime (scanContext disk context repo))).length := by
    rw [filesScanned, scanFiles_scanned runtime _ _ (by omega), Nat.zero_add]
  have fewer := List.length_filter_le (isScanned runtime (scanContext disk context repo))
    (disk.filesToScan repo.localPath 200)
  rw [countCodeFiles_eq, scanned, ← List.length_filter_eq_length_iff]
  omega

end Files

/-- The number of files of each repository so far, and their sum. -/
def Numbered (scan : GlobalVulnerabilityScan) (counts : List Nat) : Prop :=
  scan.repositoriesScanned.map RepositoryReport.filesScanned = counts ∧
    scan.totalFilesScanned = counts.sum

theorem Numbered.foldl {runtime : Runtime} {disk : Disk} {context : Context}
    (repositories : List ScannedRepository) {state : GlobalVulnerabilityScan × Spy}
    {counts : List Nat} (numbered : Numbered state.1 counts) :
    Numbered (repositories.foldl (Spy.scanRepository runtime disk context) state).1
      (counts ++ repositories.map fun repo => disk.countCodeFiles repo.localPath) := by
  induction repositories generalizing state counts with
  | nil => simpa using numbered
  | cons repo repositories ih =>
      rw [List.foldl_cons, List.map_cons, List.append_cons]
      apply ih
      unfold Spy.scanRepository
      obtain ⟨-, -, -, reports, files⟩ := GlobalVulnerabilityScan.foldl_count repo.name
        (state.2.scanWorkspace runtime context (disk.absolute repo.localPath) 200
          (disk.filesToScan repo.localPath 200)).1 _
      unfold Numbered
      rw [reports, files, List.map_append, numbered.1, numbered.2, List.sum_append]
      exact ⟨rfl, rfl⟩

/-- The reported number of files of a repository is the number of its eligible files, up to 500;
the total is their sum. -/
theorem reported_files_are_eligible (runtime : Runtime) (disk : Disk) (context : Context)
    (spy : Spy) (repositories : List ScannedRepository) :
    let scan := (spy.scanAllRepositories runtime disk context repositories).1
    scan.repositoriesScanned.map RepositoryReport.filesScanned = repositories.map (fun repo =>
        min 500 (disk.eligibleFiles repo.localPath).length) ∧
      scan.totalFilesScanned = (scan.repositoriesScanned.map RepositoryReport.filesScanned).sum ∧
      ∀ repo ∈ repositories,
        (min 500 (disk.eligibleFiles repo.localPath).length =
            filesScanned runtime disk context repo ↔
          (disk.eligibleFiles repo.localPath).length ≤ 200 ∧
            ∀ file ∈ disk.filesToScan repo.localPath 200,
              isScanned runtime (scanContext disk context repo) file = true) := by
  simp only [← countCodeFiles_eq]
  have initial : Numbered ({}, spy).1 [] := ⟨rfl, rfl⟩
  obtain ⟨listed, total⟩ := @Numbered.foldl runtime disk context repositories _ _ initial
  refine ⟨listed, total.trans (congrArg List.sum listed.symm), fun repo _ => ?_⟩
  exact countCodeFiles_eq_filesScanned_iff runtime disk context repo

/-- A file that is too large is counted and not scanned. -/
theorem large_file_reported_not_scanned :
    ((({} : Spy).scanAllRepositories (sampleRuntime true) (sampleDisk 600000)
        ⟨"task-1", "global-scan", "GlobalScan", none⟩
        [sampleRepository]).1.repositoriesScanned.map RepositoryReport.filesScanned) = [1] ∧
      filesScanned (sampleRuntime true) (sampleDisk 600000)
        ⟨"task-1", "global-scan", "GlobalScan", none⟩ sampleRepository = 0 := by
  decide +kernel

end MultiAgents.AgentSpy
