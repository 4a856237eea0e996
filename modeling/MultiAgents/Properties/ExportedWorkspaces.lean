import MultiAgents.Services.SpyObservations

/-!
# The workspace of exported tool calls

The paths of the calls are sorted, and what the first and the last of them have in
common begins all of them.  So they all lead through the directory that is left of
it, and through the one above that.
-/

namespace MultiAgents.TrainingExport

open TaskContextBuilder Text Units

/-- A directory that begins all paths leads to them, and so does its parent. -/
theorem sharedDirectory_leadsTo {hasFile : List Nat → String → Bool} {common workspace : List Nat}
    (found : sharedDirectory hasFile common = some workspace) {path : List Nat}
    (begins : common <+: path) (absolute : path.head? = some slash) : LeadsTo workspace path := by
  obtain ⟨directory, cut, rfl⟩ := Option.map_eq_some_iff.mp found
  obtain ⟨nonempty, inside⟩ := beforeLastSlash_prefix cut
  have through : directory ++ [slash] <+: path := inside.trans begins
  have parent : LeadsTo (dirname directory) path := by
    obtain ⟨rest, rfl⟩ := through
    rw [List.append_assoc] at absolute ⊢
    rw [List.head?_append_of_ne_nil _ nonempty] at absolute
    exact dirname_leadsTo absolute rest
  dsimp only
  split
  · exact .of_begins through
  · split
    · exact parent
    · exact .of_begins through

theorem head?_utf16 {path : String} (absolute : path.toList.head? = some '/') :
    (utf16 path).head? = some slash := by
  obtain ⟨rest, split⟩ := List.head?_eq_some_iff.mp absolute
  rw [utf16, split]
  rfl

theorem mem_sortedPaths {toolCalls : List ToolCall} {text : List Nat} :
    text ∈ sortedPaths toolCalls ↔
      ∃ call ∈ toolCalls, ∃ path, call.path? = some path ∧ utf16 path = text := by
  rw [sortedPaths, List.mem_mergeSort, List.mem_map]
  simp only [List.mem_filterMap]
  constructor
  · rintro ⟨path, ⟨call, isCall, has⟩, same⟩
    exact ⟨call, isCall, path, has, same⟩
  · rintro ⟨call, isCall, path, has, same⟩
    exact ⟨path, ⟨call, isCall, has⟩, same⟩

theorem pairwise_sortedPaths (toolCalls : List ToolCall) :
    (sortedPaths toolCalls).Pairwise (· ≤ ·) := by
  refine (List.pairwise_mergeSort ?_ ?_ _).imp of_decide_eq_true
  · intro first second third before after
    exact decide_eq_true ((of_decide_eq_true before).trans (of_decide_eq_true after))
  · intro first second
    rw [Bool.or_eq_true, decide_eq_true_iff, decide_eq_true_iff]
    exact le_total first second

/-- Whatever the disk holds, the workspace of calls on absolute paths that share a directory leads
to all of them. -/
theorem extractWorkspacePath_leadsTo (hasFile : List Nat → String → Bool)
    (existsSync : List Nat → Bool) {toolCalls : List ToolCall} (prompts : List (Option String))
    (given : toolCalls ≠ [])
    (absolute : ∀ call ∈ toolCalls, ∃ path, call.path? = some path ∧
      path.toList.head? = some '/')
    (shared : ∃ start, start ≠ [] ∧ ∀ call ∈ toolCalls, ∀ path, call.path? = some path →
      start ++ [slash] <+: utf16 path) :
    ∃ workspace, extractWorkspacePath hasFile existsSync toolCalls prompts = some workspace ∧
      ∀ call ∈ toolCalls, ∀ path, call.path? = some path → LeadsTo workspace (utf16 path) := by
  obtain ⟨start, nonempty, begins⟩ := shared
  have begins {text : List Nat} (isThere : text ∈ sortedPaths toolCalls) :
      start ++ [slash] <+: text := by
    obtain ⟨call, isCall, path, has, rfl⟩ := mem_sortedPaths.mp isThere
    exact begins call isCall path has
  have listed : sortedPaths toolCalls ≠ [] := by
    obtain ⟨call, isCall⟩ := List.exists_mem_of_ne_nil toolCalls given
    obtain ⟨path, has, -⟩ := absolute call isCall
    exact List.ne_nil_of_mem (mem_sortedPaths.mpr ⟨call, isCall, path, has, rfl⟩)
  have first := List.head?_eq_some_head listed
  have last := List.getLast?_eq_some_getLast listed
  generalize (sortedPaths toolCalls).head listed = least at first
  generalize (sortedPaths toolCalls).getLast listed = greatest at last
  have directory : (beforeLastSlash (commonPrefix least greatest)).isSome :=
    beforeLastSlash_isSome nonempty (prefix_commonPrefix_iff.mpr
      ⟨begins (List.mem_of_head? first), begins (List.mem_of_getLast? last)⟩)
  obtain ⟨workspace, found⟩ : ∃ workspace,
      sharedDirectory hasFile (commonPrefix least greatest) = some workspace :=
    Option.isSome_iff_exists.mp (Option.isSome_map.trans directory)
  refine ⟨workspace, ?_, fun call isCall path has => ?_⟩
  · unfold extractWorkspacePath
    rw [first, last]
    dsimp only [bind, Option.bind]
    rw [found]
    rfl
  · have isThere := mem_sortedPaths.mpr ⟨call, isCall, path, has, rfl⟩
    obtain ⟨after, before⟩ :=
      between_of_sorted (pairwise_sortedPaths toolCalls) first last isThere
    obtain ⟨inFirst, inLast⟩ := prefix_commonPrefix_iff.mp (List.prefix_refl _)
    obtain ⟨own, isOwn, rooted⟩ := absolute call isCall
    obtain rfl : own = path := Option.some_inj.mp (isOwn.symm.trans has)
    exact sharedDirectory_leadsTo found (prefix_of_between inFirst inLast after before)
      (head?_utf16 rooted)

def sourceCalls : List ToolCall :=
  [{ toolName := "edit", filePath := some "/w/app/src/a.ts" },
    { toolName := "read", toolInput := { path := some "/w/app/b.ts" } }]

theorem extractWorkspacePath_leadsTo_sources :
    ∃ workspace, extractWorkspacePath (fun _ _ => false) (fun _ => false) sourceCalls [] =
        some workspace ∧
      ∀ call ∈ sourceCalls, ∀ path, call.path? = some path → LeadsTo workspace (utf16 path) := by
  refine extractWorkspacePath_leadsTo _ _ [] (by decide) ?_ ⟨utf16 "/w/app", by decide, ?_⟩
  · intro call isCall
    rcases List.mem_pair.mp isCall with rfl | rfl
    · exact ⟨"/w/app/src/a.ts", rfl, rfl⟩
    · exact ⟨"/w/app/b.ts", rfl, rfl⟩
  · intro call isCall path has
    rcases List.mem_pair.mp isCall with rfl | rfl
    · obtain rfl : "/w/app/src/a.ts" = path := Option.some_inj.mp has
      decide
    · obtain rfl : "/w/app/b.ts" = path := Option.some_inj.mp has
      decide

end MultiAgents.TrainingExport
