import MultiAgents.Services.GitService
import MultiAgents.Services.WorkspaceService

/-!
# What is read from a status listing

Both readers trim the whole output first.  A first line whose index column is
blank loses that blank, so its columns are read one position further on: the
state of the work tree as that of the index, and the path without its first
character.
-/

namespace MultiAgents.WorkspaceService

open Effects Text

theorem not_isSpace_of_isPlain {char : Char} (plain : isPlain char = true) :
    isSpace char = false := by
  unfold isPlain at plain
  simp only [Bool.and_eq_true, decide_eq_true_eq] at plain
  unfold isSpace
  simp only [List.contains_eq_mem, List.mem_cons, List.not_mem_nil, or_false, Bool.or_eq_false_iff,
    decide_eq_false_iff_not, Bool.and_eq_false_iff]
  omega

theorem Column.isSpace_char (column : Column) :
    isSpace column.char = decide (column.char = ' ') := by
  cases column <;> decide

theorem trim_ne_nil_of_mem {text : List Char} {char : Char} (membership : char ∈ text)
    (visible : isSpace char = false) : trim text ≠ [] := by
  rw [Ne, trim_eq_nil_iff]
  intro blank
  rw [blank char membership] at visible
  cases visible

/-- An arrow starts with a blank. -/
theorem not_arrow_prefix_cons {char : Char} (visible : isSpace char = false) (rest : List Char) :
    ¬arrow <+: char :: rest := by
  rintro ⟨more, same⟩
  rw [← (List.cons.inj same).1] at visible
  exact absurd visible (by decide)

namespace PlainPath

variable (path : PlainPath)

theorem not_space {char : Char} (membership : char ∈ path.text) : isSpace char = false :=
  not_isSpace_of_isPlain (List.all_eq_true.mp path.plain char membership)

theorem endsVisibly : EndsVisibly path.text :=
  ⟨path.text.dropLast, path.text.getLast path.nonempty, (List.dropLast_append_getLast _).symm,
    path.not_space (List.getLast_mem _)⟩

theorem trim_suffix {text : List Char} (suffix : text <:+ path.text) : trim text = text := by
  rcases List.eq_nil_or_concat text with rfl | ⟨start, last, rfl⟩
  · rfl
  · have visible {char : Char} (membership : char ∈ start ++ [last]) : isSpace char = false :=
      path.not_space (suffix.mem (by simpa using membership))
    rw [List.concat_eq_append,
      EndsVisibly.trim_eq ⟨start, last, rfl, visible (by simp)⟩, List.dropWhile_eq_self_iff]
    intro nonempty
    simp [visible (List.getElem_mem nonempty)]

theorem breakArrow_suffix {text : List Char} (suffix : text <:+ path.text) :
    breakArrow text = none := by
  induction text with
  | nil => rfl
  | cons char rest ih =>
      have visible := path.not_space (suffix.mem (by simp : char ∈ char :: rest))
      rw [breakArrow, if_neg (not_arrow_prefix_cons visible rest),
        ih ((List.suffix_cons _ _).trans suffix)]
      rfl

end PlainPath

theorem breakArrow_append (original : PlainPath) (rest : List Char) :
    breakArrow (original.text ++ arrow ++ rest) = some (original.text, rest) := by
  suffices general : ∀ {text : List Char}, text <:+ original.text →
      breakArrow (text ++ arrow ++ rest) = some (text, rest) from general (List.suffix_refl _)
  intro text suffix
  induction text with
  | nil => rfl
  | cons char text ih =>
      have visible := original.not_space (suffix.mem (by simp : char ∈ char :: text))
      rw [List.cons_append, List.cons_append, breakArrow,
        if_neg (not_arrow_prefix_cons visible _), ih ((List.suffix_cons _ _).trans suffix)]
      rfl

namespace StatusEntry

variable (entry : StatusEntry)

/-- The columns are shifted when the line is the first one. -/
def Cut : Prop := entry.code.index = ' '

instance : Decidable entry.Cut := inferInstanceAs (Decidable (_ = _))

theorem line_endsVisibly : EndsVisibly entry.line :=
  (entry.path.endsVisibly.append _).append [_, _, _]

theorem newline_not_mem_line : '\n' ∉ entry.line := by
  have unbroken (path : PlainPath) : '\n' ∉ path.text := fun newline =>
    absurd (path.not_space newline) (by decide)
  have column (column : Column) : '\n' ≠ column.char := by cases column <;> decide
  unfold line
  cases entry.original with
  | none =>
      cases entry.code <;> simp [StatusCode.index, StatusCode.workTree, unbroken, column]
  | some original =>
      cases entry.code <;> simp [StatusCode.index, StatusCode.workTree, unbroken, column, arrow]

theorem not_isSpace_workTree (cut : entry.Cut) : isSpace entry.code.workTree = false := by
  have changed := entry.changed
  unfold Cut at cut
  revert cut changed
  cases entry.code with
  | tracked index workTree => cases index <;> cases workTree <;> decide
  | untracked => decide
  | ignored => decide

theorem not_isSpace_index (whole : ¬entry.Cut) : isSpace entry.code.index = false := by
  unfold Cut at whole
  revert whole
  cases entry.code with
  | tracked index _ => simp [StatusCode.index, Column.isSpace_char]
  | untracked => decide
  | ignored => decide

theorem dropWhile_line :
    entry.line.dropWhile isSpace = if entry.Cut then entry.line.tail else entry.line := by
  split
  case isTrue cut =>
    have blank : entry.code.index = ' ' := cut
    rw [line, List.dropWhile_cons_of_pos (by rw [blank]; decide),
      List.dropWhile_cons_of_neg (by simp [entry.not_isSpace_workTree cut])]
    rfl
  case isFalse whole =>
    rw [line, List.dropWhile_cons_of_neg (by simp [entry.not_isSpace_index whole])]

theorem trim_ne_nil {text : List Char} (suffix : entry.path.text <:+ text) : trim text ≠ [] := by
  obtain ⟨char, membership⟩ := List.exists_mem_of_ne_nil _ entry.path.nonempty
  exact trim_ne_nil_of_mem (suffix.mem membership) (entry.path.not_space membership)

theorem path_suffix_line (skipped : Nat) (few : skipped ≤ 3) :
    entry.path.text <:+ entry.line.drop skipped := by
  have after : entry.path.text <:+ entry.line.drop 3 := List.suffix_append _ _
  refine after.trans ?_
  rw [show 3 = skipped + (3 - skipped) by omega, ← List.drop_drop]
  exact List.drop_suffix _ _

theorem filesOf_text : (filesOf (trim ((entry.original.elim [] fun original =>
    original.text ++ arrow) ++ entry.path.text))).1 = entry.path.text := by
  have plain := entry.path.breakArrow_suffix (List.suffix_refl _)
  cases entry.original with
  | none => simp [filesOf, entry.path.trim_suffix (List.suffix_refl _), plain]
  | some original =>
      obtain ⟨char, text, split⟩ := List.exists_cons_of_ne_nil original.nonempty
      have visible : isSpace char = false := original.not_space (by simp [split])
      have kept : trim (original.text ++ arrow ++ entry.path.text) =
          original.text ++ arrow ++ entry.path.text := by
        rw [(entry.path.endsVisibly.append _).trim_eq, split, List.cons_append, List.cons_append,
          List.dropWhile_cons_of_neg (by simp [visible])]
      simp only [Option.elim_some, kept, filesOf, breakArrow_append, plain]
      rfl

end StatusEntry

theorem porcelain_cons (entry : StatusEntry) (entries : List StatusEntry) :
    porcelain (entry :: entries) =
      ['\n'].intercalate ((entry :: entries).map StatusEntry.line) ++ ['\n'] := by
  induction entries generalizing entry with
  | nil => simp [porcelain]
  | cons next entries ih =>
      rw [porcelain, List.flatMap_cons, ← porcelain, ih, List.map_cons,
        List.map_cons, List.map_cons, List.intercalate_cons_cons]
      simp

/-- The lines that both readers see. -/
theorem lines_porcelain (entry : StatusEntry) (entries : List StatusEntry) :
    (trim (porcelain (entry :: entries))).splitOn '\n' =
      (if entry.Cut then entry.line.tail else entry.line) :: entries.map StatusEntry.line := by
  rw [porcelain_cons, trim_append_space _ (by decide), List.map_cons, splitOn_trim_intercalate,
    entry.dropWhile_line]
  all_goals
    intro line isLine
    obtain ⟨other, _, rfl⟩ := List.mem_map.mp (List.map_cons ▸ isLine)
  · exact other.line_endsVisibly
  · exact other.newline_not_mem_line

theorem trim_porcelain_ne_nil (entry : StatusEntry) (entries : List StatusEntry) :
    trim (porcelain (entry :: entries)) ≠ [] := by
  obtain ⟨char, membership⟩ := List.exists_mem_of_ne_nil _ entry.path.nonempty
  have printed : char ∈ porcelain (entry :: entries) := by
    simp [porcelain, StatusEntry.line, membership]
  exact trim_ne_nil_of_mem printed (entry.path.not_space membership)

/-- Without renames the changed files are the paths of the entries in order, exactly if the index
column of the first entry is not blank. -/
theorem changedFiles_eq_paths_iff {entries : List StatusEntry}
    (unrenamed : ∀ entry ∈ entries, entry.original = none) :
    GitService.changedFiles (trim (porcelain entries)) =
        entries.map (fun entry => String.ofList entry.path.text) ↔
      ∀ first ∈ entries.head?, first.code.index ≠ ' ' := by
  cases entries with
  | nil => simp [porcelain, trim, GitService.changedFiles]
  | cons entry entries =>
      have file (other : StatusEntry) (membership : other ∈ entry :: entries) :
          trim (other.line.drop 3) = other.path.text := by
        simp [StatusEntry.line, unrenamed other membership,
          other.path.trim_suffix (List.suffix_refl _)]
      have cutFile : trim (entry.line.tail.drop 3) = entry.path.text.tail := by
        simp [StatusEntry.line, unrenamed entry (by simp), List.drop_one,
          entry.path.trim_suffix (List.tail_suffix _)]
      have visible (line : List Char) (membership : line ∈ (if entry.Cut then entry.line.tail
          else entry.line) :: entries.map StatusEntry.line) : (trim line != []) = true := by
        rw [bne_iff_ne]
        rcases List.mem_cons.mp membership with rfl | later
        · split
          · exact entry.trim_ne_nil (entry.path_suffix_line 1 (by omega))
          · exact entry.trim_ne_nil (entry.path_suffix_line 0 (by omega))
        · obtain ⟨other, _, rfl⟩ := List.mem_map.mp later
          exact other.trim_ne_nil (other.path_suffix_line 0 (by omega))
      have rest : (entries.map StatusEntry.line).map
            (fun line => String.ofList (trim (line.drop 3))) =
          entries.map fun other => String.ofList other.path.text := by
        rw [List.map_map]
        exact List.map_congr_left fun other membership =>
          congrArg String.ofList (file other (by simp [membership]))
      rw [GitService.changedFiles, if_neg (trim_porcelain_ne_nil _ _), lines_porcelain,
        List.filter_eq_self.mpr visible, List.map_cons, rest, List.map_cons]
      simp only [List.cons.injEq, and_true, List.head?_cons, Option.mem_def, Option.some.injEq,
        forall_eq', String.ofList_inj]
      split
      case isTrue cut =>
        have shorter : entry.path.text.tail ≠ entry.path.text := fun same => entry.path.nonempty
          (List.length_eq_zero_iff.mp (by have := congrArg List.length same; simp at this; omega))
        exact iff_of_false (cutFile ▸ shorter) (not_not_intro cut)
      case isFalse whole => exact iff_of_true (file entry (by simp)) whole

/-- Two entries that are both read as they are. -/
theorem changedFiles_of_staged :
    let entries : List StatusEntry :=
      [{ code := .tracked .modified .unmodified, path := ⟨"src/a.ts".toList, by decide, by decide⟩,
          changed := by decide, moved := rfl },
        { code := .tracked .unmodified .deleted, path := ⟨"b".toList, by decide, by decide⟩,
          changed := by decide, moved := rfl }]
    (∀ entry ∈ entries, entry.original = none) ∧
      (GitService.changedFiles (trim (porcelain entries)) =
          entries.map (fun entry => String.ofList entry.path.text) ↔
        ∀ first ∈ entries.head?, first.code.index ≠ ' ') :=
  ⟨by simp, changedFiles_eq_paths_iff (by simp)⟩

/-- The path of a file that was edited and not staged loses its first character. -/
theorem changedFiles_of_edited :
    GitService.changedFiles (trim (porcelain
      [{ code := .tracked .unmodified .modified, path := ⟨"src/a.ts".toList, by decide, by decide⟩,
          changed := by decide, moved := rfl }])) = ["rc/a.ts"] := by
  decide +kernel

/-- Columns for which a path is listed among the changes. -/
def Lists (index workTree : Char) : Prop :=
  (index = '?' ∧ workTree = '?') ∨
    (¬(index = '!' ∧ workTree = '!') ∧ (index ∈ ['A', 'D', 'M'] ∨ workTree ∈ ['M', 'D']))

instance (index workTree : Char) : Decidable (Lists index workTree) := by
  unfold Lists
  infer_instance

def LineLists (path : List Char) : List Char → Prop
  | index :: workTree :: _ :: text => Lists index workTree ∧ path = (filesOf (trim text)).1
  | _ => False

namespace ParsedGitStatus

variable (result : ParsedGitStatus) (file path : List Char)

theorem mem_changes : path ∈ result.changes ↔ path ∈ result.modified ∨ path ∈ result.untracked ∨
    path ∈ result.deleted ∨ path ∈ result.added := by
  simp [changes]

theorem mem_changes_addStaged (index : Char) : path ∈ (result.addStaged file index).changes ↔
    path ∈ result.changes ∨ (index ∈ ['A', 'D', 'M'] ∧ path = file) := by
  unfold addStaged
  split
  case isTrue =>
    simp only [mem_changes]
    split
    case isTrue added =>
      simp [added]
      tauto
    case isFalse =>
      split
      case isTrue deleted =>
        simp [deleted]
        tauto
      case isFalse =>
        split
        case isTrue modified =>
          simp [modified]
          tauto
        case isFalse => simp [*]
  case isFalse blank =>
    have other : index ∉ ['A', 'D', 'M'] := by
      rintro (_ | ⟨_, _ | ⟨_, _ | ⟨_, ⟨⟩⟩⟩⟩) <;> exact blank (by decide)
    simp [other]

theorem mem_changes_addUnstaged (workTree : Char) :
    path ∈ (result.addUnstaged file workTree).changes ↔
      path ∈ result.changes ∨ (workTree ∈ ['M', 'D'] ∧ path = file) := by
  unfold addUnstaged
  split
  case isTrue =>
    simp only [mem_changes]
    split
    case isTrue modified =>
      simp [modified.1]
      tauto
    case isFalse known =>
      split
      case isTrue deleted =>
        simp [deleted.1]
        tauto
      case isFalse absent =>
        constructor
        · exact Or.inl
        · rintro (listed | ⟨letter, rfl⟩)
          · exact listed
          · simp only [List.mem_cons, List.not_mem_nil, or_false] at letter
            tauto
  case isFalse blank =>
    have other : workTree ∉ ['M', 'D'] := by
      rintro (_ | ⟨_, _ | ⟨_, ⟨⟩⟩⟩) <;> exact blank (by decide)
    simp [other]

theorem mem_changes_addLine (line : List Char) :
    path ∈ (result.addLine line).changes ↔ path ∈ result.changes ∨ LineLists path line := by
  match line with
  | [] | [_] | [_, _] => simp [addLine, LineLists]
  | index :: workTree :: blank :: text =>
      simp only [addLine, LineLists, Lists]
      split
      case isTrue untracked =>
        simp only [mem_changes]
        simp [untracked]
        tauto
      case isFalse =>
        split
        case isTrue ignored => simp [ignored, mem_changes]
        case isFalse =>
          rw [mem_changes_addUnstaged, mem_changes_addStaged]
          simp only [mem_changes]
          tauto

theorem mem_changes_foldl (lines : List (List Char)) :
    path ∈ (lines.foldl addLine result).changes ↔
      path ∈ result.changes ∨ ∃ line ∈ lines, LineLists path line := by
  induction lines generalizing result with
  | nil => simp
  | cons line lines ih =>
      rw [List.foldl_cons, ih, mem_changes_addLine]
      simp [or_assoc]

end ParsedGitStatus

theorem lists_blank (column : Column) : Lists column.char ' ' ↔ column.char ∈ ['A', 'D', 'M'] := by
  cases column <;> decide

namespace StatusCode

/-- Untracked, or added, deleted or modified in the index, or modified or deleted in the work
tree. -/
def Listed (code : StatusCode) : Prop := Lists code.index code.workTree

instance (code : StatusCode) : Decidable code.Listed := inferInstanceAs (Decidable (Lists _ _))

end StatusCode

namespace StatusEntry

variable (entry : StatusEntry) (path : List Char)

theorem lineLists_line :
    LineLists path entry.line ↔ entry.code.Listed ∧ path = entry.path.text := by
  rw [line, LineLists, entry.filesOf_text]
  rfl

theorem tracked_of_cut (cut : entry.Cut) :
    ∃ workTree, entry.code = .tracked .unmodified workTree := by
  unfold Cut at cut
  revert cut
  cases entry.code with
  | tracked index workTree => cases index <;> simp [StatusCode.index, Column.char]
  | untracked => exact fun cut => absurd cut (by decide)
  | ignored => exact fun cut => absurd cut (by decide)

/-- The state of the work tree is read as the one of the index. -/
theorem lineLists_tail (cut : entry.Cut) : LineLists path entry.line.tail ↔
    entry.code.workTree ∈ ['A', 'D', 'M'] ∧ path = entry.path.text.tail := by
  obtain ⟨workTree, code⟩ := entry.tracked_of_cut cut
  have moved := entry.moved
  rw [code] at moved
  simp only [line, code, StatusCode.workTree, List.tail_cons]
  cases origin : entry.original with
  | none =>
      obtain ⟨char, text, split⟩ := List.exists_cons_of_ne_nil entry.path.nonempty
      have suffix : text <:+ entry.path.text := split ▸ List.suffix_cons _ _
      have file : (filesOf (trim text)).1 = text := by
        simp [filesOf, entry.path.trim_suffix suffix, entry.path.breakArrow_suffix suffix]
      simp only [split, Option.elim_none, List.nil_append, LineLists, file, lists_blank,
        List.tail_cons]
  | some original =>
      -- Only renames and copies have another path, and those are not listed.
      have other : workTree.char ∉ ['A', 'D', 'M'] := by
        rw [origin, Option.isSome_some] at moved
        cases workTree <;> first | exact absurd moved (by decide) | decide
      obtain ⟨char, text, split⟩ := List.exists_cons_of_ne_nil original.nonempty
      simp only [split, Option.elim_some, List.cons_append, LineLists, lists_blank, other,
        false_and]

end StatusEntry

/-- The entries whose columns are read where they are. -/
def whole : List StatusEntry → List StatusEntry
  | [] => []
  | first :: rest => if first.Cut then rest else first :: rest

theorem mem_of_mem_whole {entries : List StatusEntry} {entry : StatusEntry}
    (kept : entry ∈ whole entries) : entry ∈ entries := by
  cases entries with
  | nil => exact kept
  | cons first rest =>
      rw [whole] at kept
      split at kept
      · exact List.mem_cons_of_mem _ kept
      · exact kept

/-- The path that is read from a first line without its blank, if it counts as a change. -/
def shifted : List StatusEntry → List (List Char)
  | [] => []
  | first :: _ =>
      if first.Cut ∧ first.code.workTree ∈ ['A', 'D', 'M'] then [first.path.text.tail] else []

def ReportsChanges (entries : List StatusEntry) : Prop :=
  let status := parseGitStatus (some (porcelain entries))
  (status.hasChanges ↔ ∃ entry ∈ entries, entry.code ≠ .ignored) ∧
    (∀ path, path ∈ status.allChanges ↔
      ∃ entry ∈ entries, entry.code ≠ .ignored ∧ entry.path.text = path) ∧
    ∀ message branch choices, (∃ entry ∈ entries, entry.code ≠ .ignored) →
      ∃ step ∈ ((commitAndPush message branch).exec
        (World.start (E := workspace) entries choices)).2.history, step.call = .stageAll

theorem commitAndPush_stages {entries : List StatusEntry} (message : String)
    (branch : Option String) (choices : Nat → Bool)
    (changed : (parseGitStatus (some (porcelain entries))).hasChanges = true) :
    ∃ step ∈ ((commitAndPush message branch).exec
      (World.start (E := workspace) entries choices)).2.history, step.call = .stageAll := by
  have read : (getChanges : Process workspaceCalls String _).exec
      (World.start (E := workspace) entries choices) =
        (.ok (parseGitStatus (some (porcelain entries))),
          (World.start (E := workspace) entries choices).next .status) := rfl
  rw [commitAndPush, Process.exec_bind, read]
  simp only [changed, Bool.not_true, Bool.false_eq_true, if_false]
  rw [Process.exec_bind, Process.exec_call]
  dsimp only
  let staging := (World.start (E := workspace) entries choices).next .status
  have staged : staging.step .stageAll ∈ (staging.next .stageAll).history := List.mem_cons_self
  exact ⟨_, (Process.history_suffix _ _).mem staged, rfl⟩

theorem mem_allChanges (entries : List StatusEntry) (path : List Char) :
    path ∈ (parseGitStatus (some (porcelain entries))).allChanges ↔
      path ∈ shifted entries ∨
        ∃ entry ∈ whole entries, entry.code.Listed ∧ entry.path.text = path := by
  cases entries with
  | nil => simp [parseGitStatus, porcelain, trim, whole, shifted]
  | cons entry entries =>
      have read : path ∈ (parseGitStatus (some (porcelain (entry :: entries)))).allChanges ↔
          ∃ line ∈ (if entry.Cut then entry.line.tail else entry.line) ::
            entries.map StatusEntry.line, LineLists path line := by
        rw [← lines_porcelain, parseGitStatus, Option.getD_some,
          if_neg (trim_porcelain_ne_nil _ _)]
        dsimp only
        rw [List.mem_eraseDups, ParsedGitStatus.mem_changes_foldl]
        simp [ParsedGitStatus.mem_changes]
      simp only [List.mem_cons, exists_eq_or_imp, List.mem_map, exists_exists_and_eq_and,
        StatusEntry.lineLists_line, eq_comm (a := path)] at read
      rw [read, shifted, whole]
      by_cases cut : entry.Cut
      · by_cases listed : entry.code.workTree ∈ ['A', 'D', 'M'] <;>
          simp [cut, listed, entry.lineLists_tail _ cut]
      · simp [cut, entry.lineLists_line, eq_comm (a := path)]

theorem hasChanges_iff (output : Option (List Char)) : (parseGitStatus output).hasChanges ↔
    ∃ path, path ∈ (parseGitStatus output).allChanges := by
  rw [← List.isEmpty_eq_false_iff_exists_mem]
  unfold parseGitStatus
  dsimp only
  split <;> simp

/-- The changes of a workspace are reported exactly if each path that is not ignored is read from
an entry with a listed code or from a shifted first line, and nothing else is read from a shifted
first line. -/
theorem reportsChanges_iff (entries : List StatusEntry) : ReportsChanges entries ↔
    (∀ entry ∈ entries, entry.code ≠ .ignored → entry.path.text ∈ shifted entries ∨
      ∃ other ∈ whole entries, other.code.Listed ∧ other.path.text = entry.path.text) ∧
    ∀ path ∈ shifted entries, ∃ entry ∈ entries, entry.code ≠ .ignored ∧
      entry.path.text = path := by
  have visible {code : StatusCode} (listed : code.Listed) : code ≠ .ignored := by
    rintro rfl
    exact absurd listed (by decide)
  constructor
  · rintro ⟨_, reported, _⟩
    refine ⟨fun entry membership changed => ?_, fun path read => ?_⟩
    · exact (mem_allChanges entries _).mp ((reported _).mpr ⟨entry, membership, changed, rfl⟩)
    · exact (reported path).mp ((mem_allChanges entries path).mpr (.inl read))
  · rintro ⟨all, only⟩
    have reported (path : List Char) :
        path ∈ (parseGitStatus (some (porcelain entries))).allChanges ↔
          ∃ entry ∈ entries, entry.code ≠ .ignored ∧ entry.path.text = path := by
      rw [mem_allChanges]
      constructor
      · rintro (read | ⟨entry, kept, listed, rfl⟩)
        · exact only path read
        · exact ⟨entry, mem_of_mem_whole kept, visible listed, rfl⟩
      · rintro ⟨entry, membership, changed, rfl⟩
        exact all entry membership changed
    have changed : (parseGitStatus (some (porcelain entries))).hasChanges ↔
        ∃ entry ∈ entries, entry.code ≠ .ignored := by
      rw [hasChanges_iff]
      constructor
      · rintro ⟨path, read⟩
        obtain ⟨entry, membership, changed, _⟩ := (reported path).mp read
        exact ⟨entry, membership, changed⟩
      · rintro ⟨entry, membership, changed⟩
        exact ⟨_, (reported _).mpr ⟨entry, membership, changed, rfl⟩⟩
    exact ⟨changed, reported, fun message branch choices some =>
      commitAndPush_stages message branch choices (changed.mpr some)⟩

/-- A change of type is skipped, although it is a change. -/
theorem parseGitStatus_of_typeChanged :
    let entries : List StatusEntry :=
      [{ code := .tracked .typeChanged .unmodified, path := ⟨"link".toList, by decide, by decide⟩,
          changed := by decide, moved := rfl }]
    (∃ entry ∈ entries, entry.code ≠ .ignored) ∧
      (parseGitStatus (some (porcelain entries))).hasChanges = false := by
  decide +kernel

end MultiAgents.WorkspaceService
