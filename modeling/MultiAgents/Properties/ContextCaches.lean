import Mathlib.Algebra.BigOperators.Group.List.Lemmas
import Mathlib.Algebra.Order.BigOperators.Group.List
import Mathlib.Algebra.Order.Group.Nat
import MultiAgents.Effects.Machine
import MultiAgents.Properties.ContextRefresh

/-!
# Trees and sizes of cached contexts

A scan puts every file into the map and into the tree; a refresh changes the map
only.  Contexts are evicted when one is built; a refresh may make them larger
and evicts none.
-/

namespace MultiAgents

open Containers Effects

namespace ContextCacheService

def FileTree.leaves : FileTree → List (RelativePath × Nat × String)
  | .nil => []
  | .file _ path size hash rest => (path, size, hash) :: rest.leaves
  | .directory _ _ children rest => children.leaves ++ rest.leaves

def CachedFile.leaf (file : CachedFile) : Nat × String := (file.size, file.hash)

/-- The leaves of the tree are the files, with their sizes and hashes. -/
def ProjectContext.Agrees (context : ProjectContext) : Prop :=
  context.fileTree.leaves.Perm
    (context.files.entries.map fun entry => (entry.1, entry.2.leaf))

variable (runtime : Runtime)

theorem scanDirectory_leaves (dir : RelativePath) (tree : Tree) (files : Files) :
    (scanDirectory runtime dir tree files).2.leaves =
      (scanned runtime dir tree).map fun entry => (entry.1, entry.2.leaf) := by
  induction tree generalizing dir files with
  | nil => rfl
  | file name data rest ih =>
      rw [scanDirectory, scanned]
      split
      · exact ih dir files
      · cases scanFile runtime name data with
        | none => exact ih dir files
        | some file => exact congrArg (_ :: ·) (ih dir (files.set (dir ++ [name]) file))
  | directory name readable contents rest ihContents ih =>
      rw [scanDirectory, scanned, List.map_append]
      cases shouldIgnore name (dir ++ [name]) <;> cases readable <;>
        simp [ih, ihContents, FileTree.leaves]
  | other name rest ih => exact ih dir files

theorem buildContext_agrees (root : Option Directory) (now : Nat) :
    (buildContext runtime root now).Agrees := by
  unfold ProjectContext.Agrees
  rw [buildContext_entries]
  cases root with
  | none => exact List.Perm.nil
  | some directory =>
      exact List.Perm.of_eq (scanDirectory_leaves runtime [] directory.1 .empty)

section Refreshes

variable (context : ProjectContext) (root : Option Directory)
  (read : RelativePath → Option FileData) (now : Nat)

/-- The context that a refresh leaves. -/
def refreshed : ProjectContext :=
  let diff := detectChanges runtime context root
  if diff.added = [] ∧ diff.modified = [] ∧ diff.deleted = [] then context
  else applyDiff runtime context read diff now

/-- Nothing is deleted, and what is read again is what is cached. -/
def Unchanged : Prop :=
  let diff := detectChanges runtime context root
  diff.deleted = [] ∧ ∀ path ∈ diff.modified ++ diff.added, ∀ data, read path = some data →
    (context.files.get? path).map CachedFile.leaf = some (cache runtime data).leaf

theorem nodup_deleted : (detectChanges runtime context root).deleted.Nodup := by
  rw [detectChanges_eq]
  exact context.files.nodup.sublist (List.filter_sublist.map _)

theorem nodup_modified_added :
    ((detectChanges runtime context root).modified ++
      (detectChanges runtime context root).added).Nodup := by
  have disjoint := (detectChanges_partitions runtime root context 0).disjoint
  have apart := ((List.pairwise_cons.mp disjoint).1 _ List.mem_cons_self).symm
  rw [detectChanges_eq] at apart ⊢
  exact (context.files.nodup.sublist (List.filter_sublist.map _)).append (OrderedMap.nodup _) apart

theorem not_deleted {path : RelativePath}
    (named : path ∈ (detectChanges runtime context root).modified ++
      (detectChanges runtime context root).added) :
    path ∉ (detectChanges runtime context root).deleted := by
  rw [mem_deleted_iff]
  rintro ⟨cached, found, absent⟩
  simp [mem_modified_iff, mem_added_iff, absent] at named

variable {context}

theorem applyDiff_leaf_iff :
    (∀ path, (context.files.get? path).map CachedFile.leaf =
      ((applyDiff runtime context read (detectChanges runtime context root) now).files.get?
        path).map CachedFile.leaf) ↔ Unchanged runtime context root read := by
  constructor
  · intro same
    constructor
    · rw [List.eq_nil_iff_forall_not_mem]
      intro path deleted
      obtain ⟨cached, found, -⟩ := (mem_deleted_iff runtime).mp deleted
      have lost := same path
      rw [applyDiff_get?, if_neg fun named => not_deleted runtime context root named deleted,
        if_pos deleted, found] at lost
      cases lost
    · intro path named data held
      rw [same path, applyDiff_get?, if_pos named, held]
      rfl
  · rintro ⟨none, again⟩ path
    rw [applyDiff_get?]
    simp only [none, List.not_mem_nil, if_false]
    split
    · rename_i named
      cases held : read path with
      | none => rfl
      | some data => exact again path named data held
    · rfl

theorem ProjectContext.Agrees.refreshed_iff (agrees : context.Agrees) :
    (refreshed runtime context root read now).Agrees ↔ Unchanged runtime context root read := by
  unfold refreshed
  dsimp only
  split
  · rename_i unchanged
    obtain ⟨added, modified, deleted⟩ := unchanged
    simp [agrees, Unchanged, added, modified, deleted]
  · rw [← applyDiff_leaf_iff runtime root read now, ← OrderedMap.perm_iff_get?]
    exact ⟨agrees.symm.trans, agrees.trans⟩

def readSize (path : RelativePath) : Nat := ((read path).map FileData.size).getD 0

def Files.sizeOf (files : Files) (path : RelativePath) : Nat :=
  ((files.get? path).map CachedFile.size).getD 0

theorem foldl_updateFile_size {paths : List RelativePath} (nodup : paths.Nodup) (files : Files) :
    (paths.foldl (updateFile runtime read) files).sum CachedFile.size +
        ((paths.filter fun path => (read path).isSome).map (Files.sizeOf files)).sum =
      files.sum CachedFile.size + (paths.map (readSize read)).sum := by
  induction paths generalizing files with
  | nil => simp
  | cons path paths ih =>
      obtain ⟨fresh, nodupRest⟩ := List.nodup_cons.mp nodup
      have later := ih nodupRest (updateFile runtime read files path)
      rw [List.foldl_cons, List.map_cons, List.sum_cons]
      cases held : read path with
      | none =>
          simp only [updateFile, held] at later ⊢
          simp [held, readSize, later]
      | some data =>
          have others : (paths.filter fun path => (read path).isSome).map (Files.sizeOf files) =
              (paths.filter fun path => (read path).isSome).map
                (Files.sizeOf (updateFile runtime read files path)) := by
            apply List.map_congr_left
            intro other membership
            have different := ne_of_mem_of_not_mem (List.mem_of_mem_filter membership) fresh
            simp [Files.sizeOf, updateFile, held, different]
          have first : (updateFile runtime read files path).sum CachedFile.size +
              files.sizeOf path = files.sum CachedFile.size + data.size := by
            rw [← files.sum_erase_add CachedFile.size path]
            simp only [updateFile, held, OrderedMap.sum_set]
            exact Nat.add_right_comm _ _ _
          simp only [List.filter_cons, held, Option.isSome_some, if_true, List.map_cons,
            List.sum_cons, readSize, Option.map_some, Option.getD_some, others] at later ⊢
          omega

variable (context)

/-- The sizes of the files that a refresh reads. -/
def addedSize : Nat :=
  let diff := detectChanges runtime context root
  ((diff.modified ++ diff.added).map (readSize read)).sum

/-- The sizes, as they are cached, of the files that a refresh drops or replaces. -/
def freedSize : Nat :=
  let diff := detectChanges runtime context root
  ((diff.deleted ++ (diff.modified ++ diff.added).filter fun path => (read path).isSome).map
    context.files.sizeOf).sum

variable {context}

theorem refreshed_size_eq_sum (total : context.totalSize = context.files.sum CachedFile.size) :
    (refreshed runtime context root read now).totalSize =
      (refreshed runtime context root read now).files.sum CachedFile.size := by
  unfold refreshed
  dsimp only
  split
  · exact total
  · rfl

theorem refreshed_totalSize (total : context.totalSize = context.files.sum CachedFile.size) :
    (refreshed runtime context root read now).totalSize + freedSize runtime context root read =
      context.totalSize + addedSize runtime context root read := by
  unfold refreshed freedSize addedSize
  dsimp only
  split
  · rename_i unchanged
    obtain ⟨added, modified, deleted⟩ := unchanged
    simp [added, modified, deleted]
  · have dropped := OrderedMap.sum_foldl_erase (nodup_deleted runtime context root) context.files
      CachedFile.size
    have updated := foldl_updateFile_size runtime read (nodup_modified_added runtime context root)
      ((detectChanges runtime context root).deleted.foldl OrderedMap.erase context.files)
    rw [List.map_congr_left (g := context.files.sizeOf) ?kept] at updated
    case kept =>
      intro path membership
      have kept := not_deleted runtime context root (List.mem_of_mem_filter membership)
      unfold Files.sizeOf
      rw [OrderedMap.get?_foldl_erase, if_neg kept]
    rw [List.map_append, List.sum_append, total, ← dropped]
    unfold applyDiff Files.sizeOf at *
    dsimp only
    omega

end Refreshes

end ContextCacheService

open ContextCacheService

namespace ContextCache

variable (runtime : Runtime) {service : ContextCache}

section Evictions

variable (sorted : List (String × Nat)) (total : Nat) (service : ContextCache)

theorem evict_contexts : (evict sorted total service).contexts = service.contexts := by
  induction sorted generalizing total service with
  | nil => rfl
  | cons entry sorted ih =>
      rw [evict]
      split
      · exact ih _ _
      · rfl

theorem evict_sublist :
    (evict sorted total service).caches.entries.Sublist service.caches.entries := by
  induction sorted generalizing total service with
  | nil => exact List.Sublist.refl _
  | cons entry sorted ih =>
      rw [evict]
      split
      · exact (ih _ _).trans List.filter_sublist
      · exact List.Sublist.refl _

variable {sorted} {total} {service}

/-- The cache without some of its entries, each counted as evicted. -/
def removing (removed : List (String × Nat)) (service : ContextCache) : ContextCache :=
  { service with
    caches := removed.foldl (fun caches entry => caches.erase entry.1) service.caches
    evictions := service.evictions + removed.length }

theorem removing_cons (entry : String × Nat) (removed : List (String × Nat)) :
    service.removing (entry :: removed) = (service.removing [entry]).removing removed := by
  unfold removing
  rw [List.length_cons, Nat.add_comm removed.length, ← Nat.add_assoc]
  rfl

/-- Entries whose removal is enough, such that no fewer of them are. -/
structure Suffices (service : ContextCache) (sorted : List (String × Nat)) (count : Nat) :
    Prop where
  within : (service.removing (sorted.take count)).totalSize ≤ maxSizeBytes * 8 / 10
  shortest : ∀ fewer < count,
    maxSizeBytes * 8 / 10 < (service.removing (sorted.take fewer)).totalSize

/-- The loop keeps the total of what is left, and ends within the limit as it may go through all
contexts. -/
theorem evict_eq (listed : sorted.Perm service.caches.entries)
    (same : total = service.totalSize) :
    ∃ count, evict sorted total service = service.removing (sorted.take count) ∧
      service.Suffices sorted count := by
  induction sorted generalizing total service with
  | nil =>
      refine ⟨0, rfl, ?_, fun _ fewer => absurd fewer (Nat.not_lt_zero _)⟩
      have empty : (service.removing []).totalSize = 0 := by
        unfold totalSize OrderedMap.sum
        rw [removing, List.foldl_nil, listed.symm.eq_nil]
        rfl
      rw [List.take_nil, empty]
      exact Nat.zero_le _
  | cons entry sorted ih =>
      obtain ⟨key, number⟩ := entry
      have found : service.caches.get? key = some number :=
        OrderedMap.mem_entries_iff.mp (listed.mem_iff.mp List.mem_cons_self)
      rw [evict]
      split
      · rename_i above
        obtain ⟨count, left, enough⟩ := @ih (total - service.sizeOf number)
          (service.removing [(key, number)])
          (listed.trans (OrderedMap.cons_erase_perm found).symm).cons_inv (by
            rw [same, totalSize, ← OrderedMap.sum_erase_of_found service.sizeOf found]
            exact Nat.add_sub_cancel _ _)
        refine ⟨count + 1, ?_, ?_, fun fewer isFewer => ?_⟩
        · rw [List.take_succ_cons, removing_cons]
          exact left
        · rw [List.take_succ_cons, removing_cons]
          exact enough.within
        · cases fewer with
          | zero => exact same ▸ above
          | succ fewer =>
              rw [List.take_succ_cons, removing_cons]
              exact enough.shortest fewer (Nat.lt_of_succ_lt_succ isFewer)
      · rename_i within
        exact ⟨0, rfl, same ▸ Nat.le_of_not_lt within,
          fun _ fewer => absurd fewer (Nat.not_lt_zero _)⟩

theorem evictIfNeeded_contexts : service.evictIfNeeded.contexts = service.contexts := by
  unfold evictIfNeeded
  split
  · exact evict_contexts _ _ service
  · rfl

theorem evictIfNeeded_sublist :
    service.evictIfNeeded.caches.entries.Sublist service.caches.entries := by
  unfold evictIfNeeded
  split
  · exact evict_sublist _ _ service
  · exact List.Sublist.refl _

/-- The entries by their last updates, and those of one time as they were inserted. -/
structure OldestFirst (service : ContextCache) (sorted : List (String × Nat)) : Prop where
  listed : sorted.Perm service.caches.entries
  ordered : sorted.Pairwise fun first second =>
    service.lastUpdated first.2 ≤ service.lastUpdated second.2
  stable : ∀ first second, [first, second].Sublist service.caches.entries →
    service.lastUpdated first.2 = service.lastUpdated second.2 → [first, second].Sublist sorted

theorem oldestFirst_mergeSort (service : ContextCache) :
    service.OldestFirst (service.caches.entries.mergeSort fun first second =>
      service.lastUpdated first.2 ≤ service.lastUpdated second.2) := by
  have transitive : ∀ first second third : String × Nat,
      decide (service.lastUpdated first.2 ≤ service.lastUpdated second.2) →
      decide (service.lastUpdated second.2 ≤ service.lastUpdated third.2) →
      decide (service.lastUpdated first.2 ≤ service.lastUpdated third.2) :=
    fun _ _ _ before after =>
      decide_eq_true ((of_decide_eq_true before).trans (of_decide_eq_true after))
  have total (first second : String × Nat) :
      decide (service.lastUpdated first.2 ≤ service.lastUpdated second.2) ||
        decide (service.lastUpdated second.2 ≤ service.lastUpdated first.2) := by
    rw [Bool.or_eq_true, decide_eq_true_iff, decide_eq_true_iff]
    exact Nat.le_total _ _
  exact {
    listed := List.mergeSort_perm _ _
    ordered := (List.pairwise_mergeSort transitive total _).imp of_decide_eq_true
    stable := fun _ _ inserted same =>
      List.pair_sublist_mergeSort transitive total (decide_eq_true same.le) inserted }

/-- Nothing happens within the limit.  Otherwise the shortest sequence of oldest entries goes that
brings the total to four fifths of it. -/
theorem evictIfNeeded_shortest (service : ContextCache) :
    (service.totalSize ≤ maxSizeBytes → service.evictIfNeeded = service) ∧
    (maxSizeBytes < service.totalSize → ∃ sorted count, service.OldestFirst sorted ∧
      service.evictIfNeeded = service.removing (sorted.take count) ∧
      service.Suffices sorted count) := by
  unfold evictIfNeeded
  constructor
  · exact fun within => if_neg within.not_gt
  · intro above
    rw [if_pos above]
    have sorted := service.oldestFirst_mergeSort
    obtain ⟨count, left, enough⟩ := evict_eq sorted.listed rfl
    exact ⟨_, count, sorted, left, enough⟩

theorem evictIfNeeded_totalSize : service.evictIfNeeded.totalSize ≤ maxSizeBytes := by
  unfold evictIfNeeded
  split
  · obtain ⟨count, left, enough⟩ := evict_eq service.oldestFirst_mergeSort.listed rfl
    rw [left]
    exact enough.within.trans (by decide)
  · omega

end Evictions

section Steps

variable (service) (place now : Nat) (root : Option Directory)
  (read : RelativePath → Option FileData)

/-- A refresh replaces its context, if there is one. -/
theorem refreshContext_cases :
    (∃ number context, service.refreshes[place]? = some number ∧
      service.contexts[number]? = some context ∧
      service.refreshContext runtime place now root read =
        { service with
          refreshes := service.refreshes.eraseIdx place
          contexts :=
            service.contexts.set number (refreshed runtime context root read now) }) ∨
    ((∀ number, service.refreshes[place]? = some number → service.contexts[number]? = none) ∧
      (service.refreshContext runtime place now root read).contexts = service.contexts ∧
      (service.refreshContext runtime place now root read).caches = service.caches) := by
  unfold refreshContext refreshed
  cases named : service.refreshes[place]? with
  | none => simp
  | some number =>
      cases found : service.contexts[number]? with
      | none => simp [List.getElem?_eq_none_iff.mp found]
      | some context =>
          refine .inl ⟨number, context, rfl, found, ?_⟩
          simp only [found]
          split
          · obtain ⟨inside, rfl⟩ := List.getElem?_eq_some_iff.mp found
            rw [List.set_getElem_self]
          · rfl

theorem contexts_contextBuilt :
    (service.contextBuilt runtime place now root).contexts = service.contexts ∨
      (service.contextBuilt runtime place now root).contexts =
        service.contexts ++ [buildContext runtime root now] := by
  unfold contextBuilt
  split
  · exact .inl rfl
  · exact .inr evictIfNeeded_contexts

theorem contexts_getContext (projectId taskId : String) (forceRefresh : Bool) :
    (service.getContext projectId taskId forceRefresh now).contexts = service.contexts ∧
      (service.getContext projectId taskId forceRefresh now).caches = service.caches := by
  unfold getContext
  dsimp only
  split <;> exact ⟨rfl, rfl⟩

theorem contexts_invalidate (projectId : String) (taskId : Option String) :
    (service.invalidate projectId taskId).contexts = service.contexts ∧
      (service.invalidate projectId taskId).caches.entries.Sublist service.caches.entries := by
  unfold invalidate
  split <;> exact ⟨rfl, List.filter_sublist⟩

end Steps

def TreesAgree (service : ContextCache) : Prop := ∀ context ∈ service.contexts, context.Agrees

/-- A refresh finds the cached files on the disk, and no others. -/
def KeepsFiles (service : ContextCache) : Action → Prop
  | .refresh place _ root read => ∀ number context, service.refreshes[place]? = some number →
      service.contexts[number]? = some context → Unchanged runtime context root read
  | _ => True

theorem treesAgree_step_iff (agree : TreesAgree service) (action : Action) :
    TreesAgree (service.step runtime action) ↔ KeepsFiles runtime service action := by
  unfold TreesAgree at *
  cases action with
  | getContext projectId taskId forceRefresh now =>
      rw [step, (contexts_getContext service now projectId taskId forceRefresh).1]
      exact iff_of_true agree trivial
  | contextBuilt place now root =>
      refine iff_of_true ?_ trivial
      rcases contexts_contextBuilt runtime service place now root with same | added
      · rwa [step, same]
      · rw [step, added, List.forall_mem_append, List.forall_mem_singleton]
        exact ⟨agree, buildContext_agrees runtime root now⟩
  | invalidate projectId taskId =>
      rw [step, (contexts_invalidate service projectId taskId).1]
      exact iff_of_true agree trivial
  | refresh place now root read =>
      rw [step]
      rcases refreshContext_cases runtime service place now root read with
        ⟨number, context, named, found, after⟩ | ⟨none, same, -⟩
      · have agrees := agree context (List.mem_of_getElem? found)
        have holds := agrees.refreshed_iff runtime root read now
        have inside := (List.getElem?_eq_some_iff.mp found).1
        rw [after]
        constructor
        · intro all other held named' found'
          cases named.symm.trans named'
          cases found.symm.trans found'
          exact holds.mp (all _ (List.mem_set inside _))
        · intro unchanged other membership
          rcases List.mem_or_eq_of_mem_set membership with earlier | rfl
          · exact agree other earlier
          · exact holds.mpr (unchanged number context named found)
      · rw [same]
        refine iff_of_true agree ?_
        intro number context named found
        simp [none number named] at found

/-- In a run, the leaves of all trees are the files as long as the refreshes find nothing new. -/
theorem trees_agree_iff (actions : List Action) :
    (∀ earlier, earlier <+: actions → TreesAgree (Machine.run (step runtime) {} earlier)) ↔
      Machine.Guarded (step runtime) (KeepsFiles runtime) actions {} := by
  refine @Machine.always_iff_guarded _ _ _ (fun _ => True) TreesAgree (KeepsFiles runtime)
    (fun _ _ valid => valid) ?_ actions {} trivial ?_
  · intro service action _ agree
    exact treesAgree_step_iff runtime agree action
  · intro context membership
    cases membership

def changing : List Action :=
  [.getContext "p" "t" false 0, .contextBuilt 0 0 (some (sampleDirectory "main.ts" "old")),
    .getContext "p" "t" false 1, .refresh 0 2 (some (sampleDirectory "test.ts" "old"))
      (readFrom (some (sampleDirectory "test.ts" "old")))]

/-- The tree still has the file that was deleted. -/
theorem refreshed_tree_is_old :
    ¬TreesAgree (Machine.run (step sampleRuntime) {} changing) := by
  unfold TreesAgree ProjectContext.Agrees
  decide +kernel

/-- Different keys have different contexts, and all sizes are up to date. -/
structure Orderly (service : ContextCache) : Prop where
  distinct : ∀ first second number, service.caches.get? first = some number →
    service.caches.get? second = some number → first = second
  built : ∀ key number, service.caches.get? key = some number → number < service.contexts.length
  sizes : ∀ context ∈ service.contexts, context.totalSize = context.files.sum CachedFile.size

def Within (service : ContextCache) : Prop := service.totalSize ≤ maxSizeBytes

/-- A refresh of a context in the cache reads files for which there is room. -/
def HasRoom (service : ContextCache) : Action → Prop
  | .refresh place _ root read => ∀ number context key, service.refreshes[place]? = some number →
      service.contexts[number]? = some context → service.caches.get? key = some number →
      service.totalSize + addedSize runtime context root read ≤
        maxSizeBytes + freedSize runtime context root read
  | _ => True

theorem Orderly.of_sublist {before after : ContextCache} (orderly : Orderly before)
    (kept : after.caches.entries.Sublist before.caches.entries)
    (same : after.contexts = before.contexts) : Orderly after := by
  have held {key : String} {number : Nat} (found : after.caches.get? key = some number) :
      before.caches.get? key = some number :=
    OrderedMap.mem_entries_iff.mp (kept.subset (OrderedMap.mem_entries_iff.mpr found))
  exact ⟨fun first second number one other => orderly.distinct _ _ _ (held one) (held other),
    fun key number found => same ▸ orderly.built key number (held found),
    same ▸ orderly.sizes⟩

theorem Orderly.contextBuilt (orderly : Orderly service) (place now : Nat)
    (root : Option Directory) : Orderly (service.contextBuilt runtime place now root) := by
  unfold ContextCache.contextBuilt
  split
  · exact orderly
  · refine Orderly.of_sublist ?_ evictIfNeeded_sublist evictIfNeeded_contexts
    constructor
    · intro first second number one other
      simp only [OrderedMap.get?_set] at one other
      have fresh {key : String} (found : service.caches.get? key = some service.contexts.length) :
          False := absurd (orderly.built key _ found) (lt_irrefl _)
      split at one <;> split at other
      · simp_all
      · cases one
        exact (fresh other).elim
      · cases other
        exact (fresh one).elim
      · exact orderly.distinct _ _ _ one other
    · intro key number found
      rw [List.length_append, List.length_singleton]
      rcases OrderedMap.of_get?_set found with ⟨-, rfl⟩ | found
      · exact Nat.lt_succ_self _
      · exact (orderly.built key number found).trans (Nat.lt_succ_self _)
    · rw [List.forall_mem_append, List.forall_mem_singleton]
      exact ⟨orderly.sizes, rfl⟩

theorem Orderly.refreshContext (orderly : Orderly service) (place now : Nat)
    (root : Option Directory) (read : RelativePath → Option FileData) :
    Orderly (service.refreshContext runtime place now root read) := by
  rcases refreshContext_cases runtime service place now root read with
    ⟨number, context, named, found, after⟩ | ⟨-, same, kept⟩
  · rw [after]
    refine ⟨orderly.distinct, ?_, ?_⟩
    · intro key held cached
      rw [List.length_set]
      exact orderly.built key held cached
    · intro other membership
      rcases List.mem_or_eq_of_mem_set membership with earlier | rfl
      · exact orderly.sizes other earlier
      · exact refreshed_size_eq_sum runtime root read now
          (orderly.sizes context (List.mem_of_getElem? found))
  · exact orderly.of_sublist (kept ▸ List.Sublist.refl _) same

theorem Orderly.step (orderly : Orderly service) (action : Action) :
    Orderly (service.step runtime action) := by
  cases action with
  | getContext projectId taskId forceRefresh now =>
      obtain ⟨same, kept⟩ := contexts_getContext service now projectId taskId forceRefresh
      exact orderly.of_sublist (kept ▸ List.Sublist.refl _) same
  | contextBuilt place now root => exact orderly.contextBuilt runtime place now root
  | refresh place now root read => exact orderly.refreshContext runtime place now root read
  | invalidate projectId taskId =>
      obtain ⟨same, kept⟩ := contexts_invalidate service projectId taskId
      exact orderly.of_sublist kept same

section Replaced

variable {number : Nat} {context : ProjectContext}
  (found : service.contexts[number]? = some context) (other : ProjectContext)
  (refreshes : List Nat)

theorem sizeOf_replaced (held : Nat) :
    { service with refreshes, contexts := service.contexts.set number other }.sizeOf held =
      if number = held ∧ held < service.contexts.length then other.totalSize
      else service.sizeOf held := by
  unfold sizeOf
  dsimp only
  rw [List.getElem?_set]
  split
  · rename_i same
    subst same
    split <;> simp_all
  · simp_all

theorem sum_sizeOf_replaced (service : ContextCache) {caches : OrderedMap String Nat}
    (absent : ∀ key, caches.get? key ≠ some number) :
    caches.sum { service with refreshes, contexts := service.contexts.set number other }.sizeOf =
      caches.sum service.sizeOf := by
  apply congrArg List.sum
  apply List.map_congr_left
  rintro ⟨key, held⟩ membership
  rw [OrderedMap.mem_entries_iff] at membership
  rw [sizeOf_replaced, if_neg]
  rintro ⟨rfl, -⟩
  exact absent key membership

include found

theorem totalSize_replaced (orderly : Orderly service) {key : String}
    (cached : service.caches.get? key = some number) :
    { service with refreshes, contexts := service.contexts.set number other }.totalSize +
        context.totalSize = service.totalSize + other.totalSize := by
  have absent (later : String) : (service.caches.erase key).get? later ≠ some number := by
    intro held
    obtain ⟨different, held⟩ := OrderedMap.of_get?_erase held
    exact different (orderly.distinct _ _ _ held cached)
  have size : service.sizeOf number = context.totalSize := by simp [sizeOf, found]
  unfold totalSize
  dsimp only
  rw [← OrderedMap.sum_erase_of_found service.sizeOf cached,
    ← OrderedMap.sum_erase_of_found (sizeOf _) cached, sizeOf_replaced,
    if_pos ⟨rfl, orderly.built key number cached⟩, size,
    sum_sizeOf_replaced other refreshes service absent, Nat.add_right_comm]

end Replaced

theorem Orderly.within_refresh_iff (orderly : Orderly service) (within : Within service)
    (place now : Nat) (root : Option Directory) (read : RelativePath → Option FileData) :
    Within (service.refreshContext runtime place now root read) ↔
      HasRoom runtime service (.refresh place now root read) := by
  unfold Within HasRoom at *
  rcases refreshContext_cases runtime service place now root read with
    ⟨number, context, named, found, after⟩ | ⟨none, same, kept⟩
  · have refresh := refreshed_totalSize runtime root read now
      (orderly.sizes context (List.mem_of_getElem? found))
    rw [after]
    by_cases cached : ∃ key, service.caches.get? key = some number
    · obtain ⟨key, cached⟩ := cached
      have total := totalSize_replaced found (refreshed runtime context root read now)
        (service.refreshes.eraseIdx place) orderly cached
      constructor
      · intro small other held _ named' found' _
        cases named.symm.trans named'
        cases found.symm.trans found'
        omega
      · intro room
        have := room number context key named found cached
        omega
    · rw [not_exists] at cached
      have total := sum_sizeOf_replaced (refreshed runtime context root read now)
        (service.refreshes.eraseIdx place) service cached
      refine iff_of_true (total.trans_le within) ?_
      intro other held key named' _ cached'
      cases named.symm.trans named'
      exact absurd cached' (cached key)
  · have total : (service.refreshContext runtime place now root read).totalSize =
        service.totalSize := by
      unfold totalSize
      rw [kept]
      exact congrArg _ (funext fun number => by rw [sizeOf, same, sizeOf])
    refine iff_of_true (total.trans_le within) ?_
    intro number context key named found
    simp [none number named] at found

theorem totalSize_le_of_sublist {before after : ContextCache}
    (kept : after.caches.entries.Sublist before.caches.entries)
    (same : after.contexts = before.contexts) : after.totalSize ≤ before.totalSize := by
  have sizes : after.sizeOf = before.sizeOf := funext fun number => by rw [sizeOf, same, sizeOf]
  unfold totalSize
  rw [sizes]
  exact (kept.map _).sum_le_sum fun _ _ => Nat.zero_le _

theorem Orderly.within_step_iff (orderly : Orderly service) (within : Within service)
    (action : Action) : Within (service.step runtime action) ↔ HasRoom runtime service action := by
  cases action with
  | getContext projectId taskId forceRefresh now =>
      obtain ⟨same, kept⟩ := contexts_getContext service now projectId taskId forceRefresh
      exact iff_of_true
        ((totalSize_le_of_sublist (kept ▸ List.Sublist.refl _) same).trans within) trivial
  | contextBuilt place now root =>
      refine iff_of_true ?_ trivial
      unfold Within ContextCache.step ContextCache.contextBuilt
      dsimp only
      split
      · exact within
      · exact evictIfNeeded_totalSize
  | refresh place now root read =>
      exact orderly.within_refresh_iff runtime within place now root read
  | invalidate projectId taskId =>
      obtain ⟨same, kept⟩ := contexts_invalidate service projectId taskId
      exact iff_of_true ((totalSize_le_of_sublist kept same).trans within) trivial

/-- In a run, the cache stays within its limit as long as there is room for what is refreshed. -/
theorem within_limit_iff (actions : List Action) :
    (∀ earlier, earlier <+: actions → Within (Machine.run (step runtime) {} earlier)) ↔
      Machine.Guarded (step runtime) (HasRoom runtime) actions {} := by
  refine @Machine.always_iff_guarded _ _ _ Orderly Within (HasRoom runtime)
    (fun _ action orderly => orderly.step runtime action)
    (fun _ action orderly within => orderly.within_step_iff runtime within action) actions {} ?_ ?_
  · constructor <;> simp
  · exact Nat.zero_le _

/-- In whatever order requests, scans, refreshes and invalidations come, each refresh as a whole,
no two keys share a context, and each context has the size of its files. -/
theorem cached_contexts_are_separate (actions : List Action) :
    Orderly (Machine.run (step runtime) {} actions) :=
  Machine.run_keeps (fun _ action orderly => orderly.step runtime action)
    (by constructor <;> simp) actions

/-- While it is read, a new file grows to 200 MB. -/
def grownFile : FileData where
  size := 200 * 1024 * 1024
  content := String.ofList (List.replicate (200 * 1024 * 1024) ' ')

def growing : List Action :=
  [.getContext "p" "t" false 0, .contextBuilt 0 0 (some (sampleDirectory "main.ts" "old")),
    .getContext "p" "t" false 1, .refresh 0 2 (some (sampleDirectory "data.json" "old")) fun path =>
      if path = ["src", "data.json"] then some grownFile
      else readFrom (some (sampleDirectory "data.json" "old")) path]

theorem refresh_exceeds_limit :
    Within (Machine.run (step sampleRuntime) {} (growing.take 3)) ∧
      ¬Within (Machine.run (step sampleRuntime) {} growing) := by
  unfold Within
  decide +kernel

end ContextCache

end MultiAgents
