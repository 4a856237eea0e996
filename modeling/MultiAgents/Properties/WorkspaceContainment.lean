import MultiAgents.Server.WorkspaceFiles

/-!
# What the file route reaches

A file is served only if its path starts with the text of the path of the
workspace.  That keeps the route inside the workspace exactly if there is no
readable file at or below a neighbour whose name continues the id of the task.
-/

namespace MultiAgents

open Text

namespace WorkspaceServer

variable (server : WorkspaceServer)

def InWorkspace (taskId : String) (place : List Path.Part) : Prop :=
  server.locate (server.workspacePath taskId) <+: place

def Readable (place : List Path.Part) : Prop :=
  ∃ content size, server.files.node place = some (.file (.ok content) size)

variable {server} {taskId filePath : String}

theorem toList_workspacePath (known : taskId ∈ server.tasks) :
    (server.workspacePath taskId).toList =
      Path.normalize (server.workspacesDir.toList ++ '/' :: taskId.toList) := by
  have identified := server.generated taskId known
  have named : taskId ≠ "" := by
    rintro rfl
    exact identified.plain.nonempty rfl
  simp [workspacePath, Path.join, server.configured, named, List.intercalate]

theorem workspacePath_inside (known : taskId ∈ server.tasks) :
    Path.isAbsolute (server.workspacePath taskId).toList =
        Path.isAbsolute server.workspacesDir.toList ∧
      Path.parts (server.workspacePath taskId).toList =
        Path.parts server.workspacesDir.toList ++ [taskId.toList] := by
  have identified := server.generated taskId known
  have nonempty : server.workspacesDir.toList ≠ [] := by simpa using server.configured
  rw [toList_workspacePath known, Path.isAbsolute_normalize, Path.parts_normalize]
  refine ⟨?_, Path.parts_append _ _ nonempty identified.plain identified.slash⟩
  obtain ⟨char, rest, split⟩ := List.exists_cons_of_ne_nil nonempty
  simp [Path.isAbsolute, split]

theorem toList_fullPath (known : taskId ∈ server.tasks) (requested : filePath ≠ "") :
    (server.fullPath taskId filePath).toList =
      Path.normalize ((server.workspacePath taskId).toList ++ '/' :: filePath.toList) := by
  have nonempty : server.workspacePath taskId ≠ "" := by
    intro none
    have listed := (workspacePath_inside known).2
    rw [none] at listed
    exact List.append_ne_nil_of_right_ne_nil _ (List.cons_ne_nil _ _) listed.symm
  simp [fullPath, Path.join, nonempty, requested, List.intercalate]

theorem isAbsolute_fullPath (known : taskId ∈ server.tasks) (requested : filePath ≠ "") :
    Path.isAbsolute (server.fullPath taskId filePath).toList =
      Path.isAbsolute server.workspacesDir.toList := by
  rw [toList_fullPath known requested, Path.isAbsolute_normalize, ← (workspacePath_inside known).1]
  cases split : (server.workspacePath taskId).toList with
  | nil =>
      have listed := (workspacePath_inside known).2
      rw [split] at listed
      exact absurd listed.symm (List.append_ne_nil_of_right_ne_nil _ (List.cons_ne_nil _ _))
  | cons char rest => simp [Path.isAbsolute]

theorem isPrefixOf_fullPath_iff (known : taskId ∈ server.tasks) (requested : filePath ≠ "") :
    (server.workspacePath taskId).toList.isPrefixOf (server.fullPath taskId filePath).toList =
        true ↔
      ∃ suffix rest, Path.parts (server.fullPath taskId filePath).toList =
        Path.parts server.workspacesDir.toList ++ (taskId.toList ++ suffix) :: rest := by
  have identified := server.generated taskId known
  obtain ⟨absolute, listed⟩ := workspacePath_inside known
  rw [toList_workspacePath known, Path.isAbsolute_normalize] at absolute
  rw [toList_workspacePath known, Path.parts_normalize] at listed
  have same := isAbsolute_fullPath known requested
  rw [List.isPrefixOf_iff_prefix, toList_workspacePath known]
  rw [toList_fullPath known requested, Path.isAbsolute_normalize] at same
  rw [toList_fullPath known requested, Path.parts_normalize]
  refine Path.normalize_prefix_iff ?_ listed identified.plain (same.trans absolute.symm)
  rw [List.getLast?_append_of_ne_nil _ (by simp)]
  intro slash
  obtain ⟨char, rest, split⟩ := List.exists_cons_of_ne_nil identified.plain.nonempty
  rw [split, List.getLast?_cons_cons] at slash
  exact identified.slash (split ▸ List.mem_of_getLast? slash)

theorem locate_fullPath (known : taskId ∈ server.tasks) (requested : filePath ≠ "")
    {suffix : Path.Part} {rest : List Path.Part}
    (split : Path.parts (server.fullPath taskId filePath).toList =
      Path.parts server.workspacesDir.toList ++ (taskId.toList ++ suffix) :: rest) :
    server.locate (server.fullPath taskId filePath) =
      server.locate server.workspacesDir ++ (taskId.toList ++ suffix) :: rest := by
  have plain := (server.generated taskId known).plain.append suffix
  have resolved := Path.resolved_parts (server.fullPath taskId filePath).toList
  rw [split] at resolved
  refine Path.locate_append (isAbsolute_fullPath known requested) ?_ split
  intro name membership
  rcases List.mem_cons.mp membership with rfl | later
  · exact plain
  · exact resolved.plain_of_plain plain name later

theorem locate_workspacePath (known : taskId ∈ server.tasks) :
    server.locate (server.workspacePath taskId) =
      server.locate server.workspacesDir ++ [taskId.toList] := by
  obtain ⟨absolute, listed⟩ := workspacePath_inside known
  refine Path.locate_append absolute ?_ listed
  intro name membership
  obtain rfl := List.mem_singleton.mp membership
  exact (server.generated taskId known).plain

theorem inWorkspace_iff (known : taskId ∈ server.tasks) (suffix : Path.Part)
    (rest : List Path.Part) :
    server.InWorkspace taskId
        (server.locate server.workspacesDir ++ (taskId.toList ++ suffix) :: rest) ↔
      suffix = [] := by
  unfold InWorkspace
  rw [locate_workspacePath known, List.prefix_append_right_inj, List.cons_prefix_cons]
  simp

theorem workspaceFile_served_iff {content path : String} {size : Nat} :
    server.workspaceFile taskId filePath = .served content path size ↔
      taskId ∈ server.tasks ∧ filePath ≠ "" ∧
        (server.workspacePath taskId).toList.isPrefixOf
          (server.fullPath taskId filePath).toList = true ∧
        server.find (server.fullPath taskId filePath) = some (.file (.ok content) size) ∧
        path = filePath := by
  unfold workspaceFile
  by_cases known : taskId ∈ server.tasks
  · rw [if_pos known]
    by_cases missing : filePath = ""
    · simp [missing]
    · rw [if_neg missing]
      by_cases starts : (server.workspacePath taskId).toList.isPrefixOf
          (server.fullPath taskId filePath).toList = true
      · rw [if_pos starts]
        cases found : server.find (server.fullPath taskId filePath) with
        | none => simp
        | some node =>
            rcases node with ⟨message | text, bytes⟩ | _
            · simp
            · simp only [FileResponse.served.injEq, Option.some.injEq, FileNode.file.injEq,
                Except.ok.injEq, known, starts]
              tauto
            · simp
      · rw [if_neg starts]
        simp [starts]
  · rw [if_neg known]
    simp [known]

theorem find_eq_file_iff {path : String} {content : Except String String} {size : Nat} :
    server.find path = some (.file content size) ↔
      path.toList.getLast? ≠ some '/' ∧
        server.files.node (server.locate path) = some (.file content size) := by
  unfold find
  split <;> simp_all

/-- The request for what stands beside the workspace. -/
def besidePath (names : List Path.Part) : String :=
  String.ofList (Path.up ++ '/' :: ['/'].intercalate names)

theorem besidePath_ne_empty (names : List Path.Part) : besidePath names ≠ "" := by
  intro empty
  have letters := congrArg String.toList empty
  simp [besidePath, Path.up] at letters

theorem parts_besidePath (known : taskId ∈ server.tasks) {names : List Path.Part}
    (nonempty : names ≠ []) (plain : ∀ name ∈ names, Path.Plain name ∧ '/' ∉ name) :
    Path.parts (server.fullPath taskId (besidePath names)).toList =
      Path.parts server.workspacesDir.toList ++ names := by
  have listed := (workspacePath_inside known).2
  have base : (server.workspacePath taskId).toList ≠ [] := by
    intro none
    rw [none] at listed
    exact List.append_ne_nil_of_right_ne_nil _ (List.cons_ne_nil _ _) listed.symm
  have split : (besidePath names).toList.splitOn '/' = Path.up :: names := by
    unfold besidePath
    rw [String.toList_ofList, List.splitOn_append_cons_self,
      List.splitOn_eq_singleton (by decide),
      List.splitOn_intercalate _ (fun name membership => (plain name membership).2) nonempty]
    rfl
  have back : ∀ absolute, Path.enter absolute
      (Path.parts server.workspacesDir.toList ++ [taskId.toList]) Path.up =
        Path.parts server.workspacesDir.toList := by
    intro absolute
    have notUp := (server.generated taskId known).plain.notUp
    unfold Path.enter
    rw [if_neg (by decide), if_pos rfl, List.getLast?_concat]
    simp [notUp]
  rw [toList_fullPath known (besidePath_ne_empty names), Path.parts_normalize,
    Path.parts_append_text base, split, listed, List.foldl_cons, back]
  exact Path.foldl_plain _ _ names fun name membership => (plain name membership).1

theorem besidePath_served (known : taskId ∈ server.tasks) {suffix : Path.Part}
    {rest : List Path.Part} {content : String} {size : Nat}
    (held : server.files.node (server.locate server.workspacesDir ++
      (taskId.toList ++ suffix) :: rest) = some (.file (.ok content) size)) :
    server.locate (server.fullPath taskId (besidePath ((taskId.toList ++ suffix) :: rest))) =
        server.locate server.workspacesDir ++ (taskId.toList ++ suffix) :: rest ∧
      server.workspaceFile taskId (besidePath ((taskId.toList ++ suffix) :: rest)) =
        .served content (besidePath ((taskId.toList ++ suffix) :: rest)) size := by
  have present : (server.files.node (server.locate server.workspacesDir ++
      (taskId.toList ++ suffix) :: rest)).isSome = true := by
    rw [held]
    rfl
  have plain : ∀ name ∈ (taskId.toList ++ suffix) :: rest, Path.Plain name ∧ '/' ∉ name :=
    fun name membership =>
      server.files.named _ present name (List.mem_append_right _ membership)
  have requested := besidePath_ne_empty ((taskId.toList ++ suffix) :: rest)
  have split := parts_besidePath known (List.cons_ne_nil _ _) plain
  refine ⟨locate_fullPath known requested split, ?_⟩
  rw [workspaceFile_served_iff]
  refine ⟨known, requested, (isPrefixOf_fullPath_iff known requested).mpr ⟨suffix, rest, split⟩, ?_,
    rfl⟩
  rw [find_eq_file_iff, locate_fullPath known requested split]
  refine ⟨?_, held⟩
  obtain ⟨last, ends, different⟩ := getLast?_intercalate (List.cons_ne_nil _ _)
    fun name membership => ⟨(plain name membership).1.nonempty, (plain name membership).2⟩
  have nonempty : Path.parts (server.fullPath taskId
      (besidePath ((taskId.toList ++ suffix) :: rest))).toList ≠ [] := by
    rw [split]
    exact List.append_ne_nil_of_right_ne_nil _ (List.cons_ne_nil _ _)
  rw [toList_fullPath known requested, Path.parts_normalize] at nonempty
  rw [toList_fullPath known requested]
  refine Path.getLast?_normalize nonempty ?_
  unfold besidePath
  rw [String.toList_ofList, List.append_cons, List.getLast?_append, List.append_cons,
    List.getLast?_append, ends]
  simpa using different

end WorkspaceServer

/-- Every file that is served for a task is in the workspace of the task, exactly if there is no
readable file at or below a neighbour whose name properly continues the id of the task. -/
theorem served_files_are_in_workspace_iff (server : WorkspaceServer) (taskId : String)
    (known : taskId ∈ server.tasks) :
    (∀ filePath content path size,
        server.workspaceFile taskId filePath = .served content path size →
          server.InWorkspace taskId (server.locate (server.fullPath taskId filePath))) ↔
      ∀ suffix rest, suffix ≠ [] → ¬server.Readable
        (server.locate server.workspacesDir ++ (taskId.toList ++ suffix) :: rest) := by
  constructor
  · rintro contained suffix rest longer ⟨content, size, held⟩
    obtain ⟨located, served⟩ := WorkspaceServer.besidePath_served known held
    have inside := contained _ _ _ _ served
    rw [located, WorkspaceServer.inWorkspace_iff known] at inside
    exact longer inside
  · intro alone filePath content path size served
    obtain ⟨_, requested, starts, found, _⟩ := WorkspaceServer.workspaceFile_served_iff.mp served
    obtain ⟨suffix, rest, split⟩ :=
      (WorkspaceServer.isPrefixOf_fullPath_iff known requested).mp starts
    obtain ⟨_, held⟩ := WorkspaceServer.find_eq_file_iff.mp found
    rw [WorkspaceServer.locate_fullPath known requested split] at held ⊢
    rw [WorkspaceServer.inWorkspace_iff known]
    by_contra longer
    exact alone suffix rest longer ⟨content, size, held⟩

namespace WorkspaceSample

def place (names : List String) : List Path.Part := names.map String.toList

def files (places : List (List Path.Part))
    (named : ∀ place ∈ places, ∀ name ∈ place, Path.Plain name ∧ '/' ∉ name) : FileSystem where
  node place := if place ∈ places then some (.file (.ok "hello") 5) else none
  named place present := by
    by_cases held : place ∈ places
    · exact named place held
    · rw [if_neg held] at present
      cases present

def own : List Path.Part := place ["work", "m1_a", "notes"]

def others : List Path.Part := place ["work", "m1_ab", "notes"]

theorem plain_of_mem : ∀ held ∈ [own, others], ∀ name ∈ held, Path.Plain name ∧ '/' ∉ name := by
  have names : ∀ name ∈ own ++ others, (name ≠ [] ∧ name ≠ Path.here ∧ name ≠ Path.up) ∧
      '/' ∉ name := by
    decide
  intro held membership name found
  obtain ⟨⟨nonempty, notHere, notUp⟩, whole⟩ := names name (by
    rcases List.mem_cons.mp membership with rfl | later
    · exact List.mem_append_left _ found
    · obtain rfl := List.mem_singleton.mp later
      exact List.mem_append_right _ found)
  exact ⟨⟨nonempty, notHere, notUp⟩, whole⟩

def server (files : FileSystem) : WorkspaceServer where
  workspacesDir := "/work"
  configured := by decide
  workingDirectory := []
  tasks := ["m1_a", "m1_ab"]
  generated := by
    rintro taskId membership
    rcases List.mem_cons.mp membership with rfl | later
    · exact ⟨['m', '1'], ['a'], by decide, by decide⟩
    · obtain rfl := List.mem_singleton.mp later
      exact ⟨['m', '1'], ['a', 'b'], by decide, by decide⟩
  files := files

/-- The second task has no files yet. -/
def alone : WorkspaceServer :=
  server (files [own] fun held membership => plain_of_mem held (by
    obtain rfl := List.mem_singleton.mp membership
    exact List.mem_cons_self))

def neighbours : WorkspaceServer := server (files [own, others] plain_of_mem)

end WorkspaceSample

open WorkspaceSample in
theorem own_notes_are_in_workspace :
    alone.workspaceFile "m1_a" "notes" = .served "hello" "notes" 5 ∧
    alone.InWorkspace "m1_a" (alone.locate (alone.fullPath "m1_a" "notes")) := by
  have served : alone.workspaceFile "m1_a" "notes" = .served "hello" "notes" 5 := by
    decide +kernel
  refine ⟨served, (served_files_are_in_workspace_iff alone "m1_a" (by decide)).mpr ?_ _ _ _ _
    served⟩
  rintro suffix rest longer ⟨content, size, held⟩
  by_cases same : alone.locate alone.workspacesDir ++ ("m1_a".toList ++ suffix) :: rest = own
  · have located : alone.locate alone.workspacesDir = place ["work"] := by decide +kernel
    rw [located] at same
    have name : "m1_a".toList ++ suffix = "m1_a".toList := (List.cons.inj
      (List.cons.inj same).2).1
    exact longer (List.append_right_eq_self.mp name)
  · have missing : alone.files.node (alone.locate alone.workspacesDir ++
        ("m1_a".toList ++ suffix) :: rest) = none :=
      if_neg fun membership => same (List.mem_singleton.mp membership)
    rw [missing] at held
    cases held

open WorkspaceSample in
/-- With the id of one task a file of another is read. -/
theorem notes_of_another_task_are_served :
    neighbours.workspaceFile "m1_a" "../m1_ab/notes" = .served "hello" "../m1_ab/notes" 5 ∧
    neighbours.locate (neighbours.fullPath "m1_a" "../m1_ab/notes") =
      place ["work", "m1_ab", "notes"] ∧
    ¬neighbours.InWorkspace "m1_a"
      (neighbours.locate (neighbours.fullPath "m1_a" "../m1_ab/notes")) := by
  unfold WorkspaceServer.InWorkspace
  decide +kernel

end MultiAgents
