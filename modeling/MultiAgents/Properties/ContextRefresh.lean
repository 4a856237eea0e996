import MultiAgents.Services.ContextCache

/-!
# Refreshed contexts

Both scans of a directory tree find the same files.  What differs from the cached
files is added, modified or deleted, and reading the first two again gives the
files that a new scan would find.
-/

namespace MultiAgents.ContextCacheService

open Containers

variable (runtime : Runtime)

/-- The files that are kept, depth first. -/
def scanned (dir : RelativePath) : Tree → List (RelativePath × CachedFile)
  | .nil => []
  | .file name data rest =>
      (if shouldIgnore name (dir ++ [name]) then []
        else ((scanFile runtime name data).map fun file => (dir ++ [name], file)).toList) ++
        scanned dir rest
  | .directory name readable contents rest =>
      (if !shouldIgnore name (dir ++ [name]) && readable then scanned (dir ++ [name]) contents
        else []) ++ scanned dir rest
  | .other _ rest => scanned dir rest

theorem scanDirectory_files (dir : RelativePath) (tree : Tree) (files : Files) :
    (scanDirectory runtime dir tree files).1 =
      (scanned runtime dir tree).foldl (fun files entry => files.set entry.1 entry.2) files := by
  induction tree generalizing dir files with
  | nil => rfl
  | file name data rest ih =>
      rw [scanDirectory, scanned]
      split
      · exact ih dir files
      · cases scanFile runtime name data with
        | none => exact ih dir files
        | some file => exact ih dir (files.set (dir ++ [name]) file)
  | directory name readable contents rest ihContents ih =>
      rw [scanDirectory, scanned, List.foldl_append]
      cases shouldIgnore name (dir ++ [name]) <;> cases readable <;> simp [ih, ihContents]
  | other name rest ih => exact ih dir files

theorem scanForChanges_eq (dir : RelativePath) (tree : Tree)
    (files : OrderedMap RelativePath String) :
    scanForChanges runtime dir tree files = (scanned runtime dir tree).foldl
      (fun files entry => files.set entry.1 entry.2.hash) files := by
  induction tree generalizing dir files with
  | nil => rfl
  | file name data rest ih =>
      rw [scanForChanges, scanned]
      split
      · exact ih dir files
      · cases scanFile runtime name data with
        | none => exact ih dir files
        | some file => exact ih dir (files.set (dir ++ [name]) file.hash)
  | directory name readable contents rest ihContents ih =>
      rw [scanForChanges, scanned, List.foldl_append]
      cases shouldIgnore name (dir ++ [name]) <;> cases readable <;> simp [ih, ihContents]
  | other name rest ih => exact ih dir files

/-- The path of a file that is found starts with the name of an entry, and leads to the file. -/
theorem mem_scanned {dir : RelativePath} {tree : Tree} (distinct : tree.Distinct)
    {path : RelativePath} {file : CachedFile}
    (membership : (path, file) ∈ scanned runtime dir tree) :
    ∃ name ∈ tree.names, ∃ rest data, path = dir ++ name :: rest ∧
      tree.file? (name :: rest) = some (some data) ∧ file = cache runtime data := by
  induction tree generalizing dir with
  | nil => cases membership
  | file name data rest ih =>
      rcases List.mem_append.mp membership with own | later
      · split at own
        · cases own
        · rw [Option.mem_toList, Option.map_eq_some_iff] at own
          obtain ⟨kept, scans, ⟨⟩⟩ := own
          unfold scanFile at scans
          split at scans
          · obtain ⟨held, allowed, rfl⟩ := Option.map_eq_some_iff.mp scans
            obtain ⟨rfl, -⟩ := Option.filter_eq_some_iff.mp allowed
            exact ⟨name, by simp [Entries.names], [], held, rfl, if_pos rfl, rfl⟩
          · cases scans
      · obtain ⟨other, named, below, held, rfl, leads, kept⟩ := ih distinct.2 later
        have different : ¬other :: below = [name] := by
          rintro ⟨⟩
          exact distinct.1 named
        exact ⟨other, List.mem_cons_of_mem name named, below, held, rfl,
          (if_neg different).trans leads, kept⟩
  | directory name readable contents rest ihContents ih =>
      rcases List.mem_append.mp membership with inside | later
      · split at inside
        · obtain ⟨other, -, below, held, rfl, leads, kept⟩ := ihContents distinct.2.1 inside
          exact ⟨name, by simp [Entries.names], other :: below, held, by simp,
            (if_pos rfl).trans leads, kept⟩
        · cases inside
      · obtain ⟨other, named, below, held, rfl, leads, kept⟩ := ih distinct.2.2 later
        have different : ¬(other :: below).head? = some name := by
          rintro ⟨⟩
          exact distinct.1 named
        exact ⟨other, List.mem_cons_of_mem name named, below, held, rfl,
          (if_neg different).trans leads, kept⟩
  | other name rest ih =>
      obtain ⟨other, named, found⟩ := ih distinct.2 membership
      exact ⟨other, List.mem_cons_of_mem name named, found⟩

/-- What is below one entry is not below another. -/
theorem not_mem_scanned {dir path : RelativePath} {name : String} {rest : Tree}
    (fresh : name ∉ rest.names) (distinct : rest.Distinct) (below : dir ++ [name] <+: path) :
    path ∉ (scanned runtime dir rest).map Prod.fst := by
  rw [List.mem_map]
  rintro ⟨⟨_, file⟩, membership, rfl⟩
  obtain ⟨other, named, _, _, rfl, -⟩ := mem_scanned runtime distinct membership
  rw [List.prefix_append_right_inj, List.cons_prefix_cons] at below
  exact fresh (below.1 ▸ named)

theorem nodup_scanned (dir : RelativePath) {tree : Tree} (distinct : tree.Distinct) :
    ((scanned runtime dir tree).map Prod.fst).Nodup := by
  induction tree generalizing dir with
  | nil => exact List.nodup_nil
  | file name data rest ih =>
      rw [scanned, List.map_append]
      refine List.Nodup.append ?_ (ih dir distinct.2) ?_
      · split
        · exact List.nodup_nil
        · cases scanFile runtime name data <;> simp
      · intro path own
        apply not_mem_scanned runtime distinct.1 distinct.2
        split at own
        · cases own
        · cases scans : scanFile runtime name data with
          | none => simp [scans] at own
          | some file => simp_all
  | directory name readable contents rest ihContents ih =>
      rw [scanned, List.map_append]
      refine List.Nodup.append ?_ (ih dir distinct.2.2) ?_
      · split
        · exact ihContents _ distinct.2.1
        · exact List.nodup_nil
      · intro path own
        apply not_mem_scanned runtime distinct.1 distinct.2.2
        split at own
        · obtain ⟨⟨_, file⟩, membership, rfl⟩ := List.mem_map.mp own
          obtain ⟨other, -, below, _, rfl, -⟩ := mem_scanned runtime distinct.2.1 membership
          exact ⟨other :: below, by simp⟩
        · cases own
  | other name rest ih => exact ih dir distinct.2

/-- What a scan of a root finds. -/
def scannedRoot (root : Option Directory) : List (RelativePath × CachedFile) :=
  root.elim [] fun directory => scanned runtime [] directory.1

theorem buildContext_entries (root : Option Directory) (now : Nat) :
    (buildContext runtime root now).files.entries = scannedRoot runtime root := by
  cases root with
  | none => rfl
  | some directory =>
      have built : (buildContext runtime (some directory) now).files =
          (scanned runtime [] directory.1).foldl (fun files entry => files.set entry.1 entry.2)
            .empty :=
        scanDirectory_files runtime [] directory.1 .empty
      have added := OrderedMap.entries_foldl_set_empty id (nodup_scanned runtime [] directory.2)
      rw [built]
      exact added.trans (List.map_id _)

theorem currentFiles_get? (root : Option Directory) (now : Nat)
    (path : RelativePath) : (currentFiles runtime root).get? path =
      ((buildContext runtime root now).files.get? path).map CachedFile.hash := by
  have listed : (currentFiles runtime root).entries =
      (scannedRoot runtime root).map fun entry => (entry.1, entry.2.hash) := by
    cases root with
    | none => rfl
    | some directory =>
        have scans : currentFiles runtime (some directory) = (scanned runtime [] directory.1).foldl
            (fun files entry => files.set entry.1 entry.2.hash) .empty :=
          scanForChanges_eq runtime [] directory.1 .empty
        rw [scans]
        exact OrderedMap.entries_foldl_set_empty CachedFile.hash
          (nodup_scanned runtime [] directory.2)
  unfold OrderedMap.get?
  rw [listed, buildContext_entries, OrderedMap.lookup_map]

section Changes

variable (current : OrderedMap RelativePath String)

def isDeleted (entry : RelativePath × CachedFile) : Bool := (current.get? entry.1).isNone

def isModified (entry : RelativePath × CachedFile) : Bool :=
  (current.get? entry.1).any fun hash => hash != entry.2.hash

def isUnchanged (entry : RelativePath × CachedFile) : Bool :=
  (current.get? entry.1).any fun hash => hash == entry.2.hash

theorem foldl_compare {entries : List (RelativePath × CachedFile)}
    (nodup : (entries.map Prod.fst).Nodup) (diff : ContextDiff) :
    entries.foldl compare (diff, current) =
      ({ diff with
         deleted := diff.deleted ++ (entries.filter (isDeleted current)).map Prod.fst
         modified := diff.modified ++ (entries.filter (isModified current)).map Prod.fst
         unchanged := diff.unchanged ++ (entries.filter (isUnchanged current)).map Prod.fst },
        (entries.map Prod.fst).foldl OrderedMap.erase current) := by
  induction entries generalizing diff current with
  | nil => simp
  | cons entry entries ih =>
      obtain ⟨fresh, nodupRest⟩ := List.nodup_cons.mp nodup
      have same : ∀ later ∈ entries,
          (current.erase entry.1).get? later.1 = current.get? later.1 := by
        intro later membership
        rw [OrderedMap.get?_erase, if_neg]
        rintro equal
        exact fresh (equal ▸ List.mem_map_of_mem membership)
      have kept (test : Option String → RelativePath × CachedFile → Bool) :
          entries.filter (fun later => test ((current.erase entry.1).get? later.1) later) =
            entries.filter fun later => test (current.get? later.1) later :=
        List.filter_congr fun later membership => by rw [same later membership]
      have deleted : entries.filter (isDeleted (current.erase entry.1)) =
          entries.filter (isDeleted current) := kept fun hash _ => hash.isNone
      have modified : entries.filter (isModified (current.erase entry.1)) =
          entries.filter (isModified current) :=
        kept fun hash later => hash.any fun hash => hash != later.2.hash
      have unchanged : entries.filter (isUnchanged (current.erase entry.1)) =
          entries.filter (isUnchanged current) :=
        kept fun hash later => hash.any fun hash => hash == later.2.hash
      rw [List.foldl_cons, compare, ih _ nodupRest, deleted, modified, unchanged]
      simp only [List.map_cons, List.foldl_cons, List.filter_cons]
      cases found : current.get? entry.1 with
      | none => simp [isDeleted, isModified, isUnchanged, found]
      | some hash =>
          by_cases changed : hash = entry.2.hash <;>
            simp [isDeleted, isModified, isUnchanged, found, changed]

end Changes

section Diff

variable {context : ProjectContext} {root : Option Directory} {path : RelativePath}

theorem detectChanges_eq : detectChanges runtime context root =
    { deleted := (context.files.entries.filter (isDeleted (currentFiles runtime root))).map Prod.fst
      modified :=
        (context.files.entries.filter (isModified (currentFiles runtime root))).map Prod.fst
      unchanged :=
        (context.files.entries.filter (isUnchanged (currentFiles runtime root))).map Prod.fst
      added := ((context.files.entries.map Prod.fst).foldl OrderedMap.erase
        (currentFiles runtime root)).entries.map Prod.fst } := by
  unfold detectChanges
  rw [foldl_compare _ context.files.nodup]
  rfl

theorem mem_deleted_iff : path ∈ (detectChanges runtime context root).deleted ↔
    ∃ cached, context.files.get? path = some cached ∧
      (currentFiles runtime root).get? path = none := by
  rw [detectChanges_eq]
  simp [OrderedMap.mem_keys_filter_iff, isDeleted]

theorem mem_modified_iff : path ∈ (detectChanges runtime context root).modified ↔
    ∃ cached, context.files.get? path = some cached ∧
      ∃ hash, (currentFiles runtime root).get? path = some hash ∧ hash ≠ cached.hash := by
  rw [detectChanges_eq]
  simp [OrderedMap.mem_keys_filter_iff, isModified, Option.any_eq_true]

theorem mem_unchanged_iff : path ∈ (detectChanges runtime context root).unchanged ↔
    ∃ cached, context.files.get? path = some cached ∧
      (currentFiles runtime root).get? path = some cached.hash := by
  rw [detectChanges_eq]
  simp [OrderedMap.mem_keys_filter_iff, isUnchanged, Option.any_eq_true]

theorem mem_added_iff : path ∈ (detectChanges runtime context root).added ↔
    context.files.get? path = none ∧ ((currentFiles runtime root).get? path).isSome = true := by
  rw [detectChanges_eq]
  dsimp only
  rw [OrderedMap.mem_keys_iff, OrderedMap.get?_foldl_erase]
  simp only [OrderedMap.mem_keys_iff]
  cases context.files.get? path <;> simp

theorem foldl_updateFile (read : RelativePath → Option FileData) (paths : List RelativePath)
    (files : Files) : (paths.foldl (updateFile runtime read) files).get? path =
      if path ∈ paths then ((read path).map (cache runtime)).or (files.get? path)
      else files.get? path := by
  induction paths generalizing files with
  | nil => rfl
  | cons first paths ih =>
      rw [List.foldl_cons, ih, updateFile]
      cases held : read first with
      | none => by_cases same : path = first <;> simp [same, held]
      | some data => by_cases same : path = first <;> simp [same, held]

theorem applyDiff_get? (read : RelativePath → Option FileData) (diff : ContextDiff) (now : Nat) :
    (applyDiff runtime context read diff now).files.get? path =
      if path ∈ diff.modified ++ diff.added then
        ((read path).map (cache runtime)).or
          (if path ∈ diff.deleted then none else context.files.get? path)
      else if path ∈ diff.deleted then none else context.files.get? path := by
  unfold applyDiff
  rw [foldl_updateFile, OrderedMap.get?_foldl_erase]
  congr

end Diff

/-- All files are valid UTF-8, so that their size is that of their content. -/
def ValidUtf8 (root : Option Directory) : Prop :=
  ∀ entry ∈ scannedRoot runtime root, entry.2.size = entry.2.content.utf8ByteSize

/-- The contents of the files of a root. -/
def contents (root : Option Directory) : Set String :=
  { content | ∃ entry ∈ scannedRoot runtime root, entry.2.content = content }

def readFrom (root : Option Directory) (path : RelativePath) : Option FileData :=
  (root.bind fun directory => directory.1.file? path).join

/-- A file that is found can be read again. -/
theorem mem_of_found {root : Option Directory} {now : Nat} {path : RelativePath}
    {file : CachedFile} (found : (buildContext runtime root now).files.get? path = some file) :
    (path, file) ∈ scannedRoot runtime root ∧ file.hash = runtime.hashContent file.content ∧
      (readFrom root path).map (cache runtime) = some file := by
  rw [← OrderedMap.mem_entries_iff, buildContext_entries] at found
  refine ⟨found, ?_⟩
  cases root with
  | none => cases found
  | some directory =>
      obtain ⟨_, -, _, _, rfl, leads, rfl⟩ := mem_scanned runtime directory.2 found
      exact ⟨rfl, by simp [readFrom, leads]⟩

structure ContextDiff.Partitions (diff : ContextDiff) (cached current : List RelativePath) :
    Prop where
  disjoint : [diff.added, diff.modified, diff.deleted, diff.unchanged].Pairwise List.Disjoint
  covers : ∀ path, path ∈ diff.added ++ diff.modified ++ diff.deleted ++ diff.unchanged ↔
    path ∈ cached ∨ path ∈ current

theorem detectChanges_partitions (root : Option Directory)
    (context : ProjectContext) (now : Nat) : (detectChanges runtime context root).Partitions
      (context.files.entries.map Prod.fst)
      ((buildContext runtime root now).files.entries.map Prod.fst) where
  disjoint := by
    simp only [List.pairwise_cons, List.mem_cons, List.not_mem_nil, or_false, forall_eq_or_imp,
      forall_eq, List.Pairwise.nil, List.Disjoint, mem_added_iff, mem_modified_iff, mem_deleted_iff,
      mem_unchanged_iff]
    grind
  covers path := by
    have hashes := currentFiles_get? runtime root now path
    simp only [List.mem_append, mem_added_iff, mem_modified_iff, mem_deleted_iff,
      mem_unchanged_iff, OrderedMap.mem_keys_iff, hashes]
    cases context.files.get? path <;> cases (buildContext runtime root now).files.get? path <;>
      simp
    exact (Classical.em _).symm

section Refresh

variable {old current : Option Directory} (validOld : ValidUtf8 runtime old)
  (valid : ValidUtf8 runtime current)
  (injective : Set.InjOn runtime.hashContent (contents runtime old ∪ contents runtime current))

include validOld valid injective

theorem refreshed_get? (builtAt now : Nat) (path : RelativePath) :
    let context := buildContext runtime old builtAt
    ((applyDiff runtime context (readFrom current) (detectChanges runtime context current)
        now).files.get? path).map (fun file => (file.content, file.size)) =
      ((buildContext runtime current now).files.get? path).map
        fun file => (file.content, file.size) := by
  intro context
  have hashes := currentFiles_get? runtime current now path
  rw [applyDiff_get?]
  simp only [List.mem_append, mem_modified_iff, mem_added_iff, mem_deleted_iff, hashes]
  cases cached : context.files.get? path with
  | none =>
      cases found : (buildContext runtime current now).files.get? path with
      | none => simp
      | some file => simp [(mem_of_found runtime found).2.2]
  | some file =>
      cases found : (buildContext runtime current now).files.get? path with
      | none => simp
      | some fresh =>
          by_cases changed : fresh.hash = file.hash
          · obtain ⟨before, hashed, -⟩ := mem_of_found runtime cached
            obtain ⟨after, rehashed, -⟩ := mem_of_found runtime found
            rw [hashed, rehashed] at changed
            have same : fresh.content = file.content :=
              injective (.inr ⟨_, after, rfl⟩) (.inl ⟨_, before, rfl⟩) changed
            have sizes : fresh.size = file.size := by
              rw [valid _ after, validOld _ before]
              exact congrArg String.utf8ByteSize same
            simp [hashed, rehashed, same, sizes]
          · simp [(mem_of_found runtime found).2.2, changed]

/-- Refreshing a context gives the files, their number and their size as building it anew does. -/
theorem refreshed_context_is_rebuilt (builtAt now : Nat) :
    let context := buildContext runtime old builtAt
    let diff := detectChanges runtime context current
    let refreshed := applyDiff runtime context (readFrom current) diff now
    let rebuilt := buildContext runtime current now
    (∀ path, (refreshed.files.get? path).map CachedFile.content =
        (rebuilt.files.get? path).map CachedFile.content) ∧
      refreshed.totalFiles = rebuilt.totalFiles ∧ refreshed.totalSize = rebuilt.totalSize ∧
      diff.Partitions (context.files.entries.map Prod.fst)
        (rebuilt.files.entries.map Prod.fst) := by
  intro context diff refreshed rebuilt
  have same := refreshed_get? runtime validOld valid injective builtAt now
  have contents (path : RelativePath) := congrArg (Option.map Prod.fst) (same path)
  have sizes (path : RelativePath) := congrArg (Option.map Prod.snd) (same path)
  simp only [Option.map_map, Function.comp_def] at contents sizes
  refine ⟨contents, ?_, OrderedMap.sum_eq_of_get? sizes,
    detectChanges_partitions runtime current context now⟩
  have lengths := ((OrderedMap.perm_iff_get? _).mpr same).length_eq
  rw [List.length_map, List.length_map] at lengths
  exact lengths

end Refresh

/-- Contents are their own hashes. -/
def sampleRuntime : Runtime := ⟨id, id⟩

/-- A file in the root and one in a directory. -/
def sampleDirectory (name content : String) : Directory :=
  ⟨.file "app.ts" (some ⟨content.utf8ByteSize, content⟩)
    (.directory "src" true (.file name (some ⟨2, "42"⟩) .nil) .nil), by
      simp [Entries.Distinct, Entries.names]⟩

theorem sample_refreshed_is_rebuilt :
    let context := buildContext sampleRuntime (some (sampleDirectory "main.ts" "old")) 0
    let current := some (sampleDirectory "test.ts" "newer")
    let diff := detectChanges sampleRuntime context current
    diff.added = [["src", "test.ts"]] ∧ diff.modified = [["app.ts"]] ∧
      diff.deleted = [["src", "main.ts"]] ∧
      (applyDiff sampleRuntime context (readFrom current) diff 1).totalFiles =
        (buildContext sampleRuntime current 1).totalFiles :=
  ⟨by decide +kernel, by decide +kernel, by decide +kernel,
    (refreshed_context_is_rebuilt sampleRuntime (by unfold ValidUtf8; decide +kernel)
      (by unfold ValidUtf8; decide +kernel) (fun _ _ _ _ same => same) 0 1).2.1⟩

end MultiAgents.ContextCacheService
