import Mathlib.Data.List.Dedup
import MultiAgents.System.Steps

/-!
# Working trees

What git commands and agents' edits do to the uncommitted changes of a
repository, and what the status listing tells about them.
-/

namespace MultiAgents

open Text

namespace Change

theorem line_not_blank (change : Change) : ∃ char ∈ change.line, isSpace char = false := by
  unfold line code
  split
  · exact ⟨'M', by simp, by decide⟩
  · exact ⟨'M', by simp, by decide⟩
  · exact ⟨'A', by simp, by decide⟩
  · exact ⟨'?', by simp, by decide⟩

/-- The change without its standing in the repository. -/
def bare (change : Change) : Change := { change with staged := false, kind := .file }

/-- The same change, which may no longer be ignored. -/
def Remains (earlier change : Change) : Prop := { earlier with kind := change.kind } = change

theorem Remains.bare_eq {earlier change : Change} (remains : earlier.Remains change) :
    earlier.bare = change.bare := by
  rw [← remains]
  rfl

theorem bare_eq_iff {change other : Change} :
    change.bare = other.bare ↔ change.path = other.path ∧ change.entry = other.entry ∧
      change.tracked = other.tracked ∧ change.session = other.session := by
  simp [bare]

end Change

namespace Repo

variable (repo : Repo)

theorem mem_listed (change : Change) :
    change ∈ repo.listed ↔ change ∈ repo.changes ∧ change.kind ≠ .ignored := by
  unfold listed
  simp only [List.mem_append, List.mem_filter, List.mem_insertionSort]
  cases change.indexed <;> simp

theorem line_subset_porcelain {change : Change} (membership : change ∈ repo.listed) :
    change.line ⊆ repo.porcelain := by
  have piece {line : List Char} {lines : List (List Char)} (inLines : line ∈ lines) :
      line ⊆ ['\n'].intercalate lines := by
    induction lines with
    | nil => cases inLines
    | cons first rest ih =>
        rcases List.mem_cons.mp inLines with rfl | later
        · cases rest <;> simp
        · rw [List.intercalate_cons_of_ne_nil (List.ne_nil_of_mem later)]
          exact List.Subset.trans (ih later) (by simp)
  exact piece (List.mem_dedup.mpr (List.mem_map.mpr ⟨change, membership, rfl⟩))

theorem trim_porcelain_eq_nil_iff : trim repo.porcelain = [] ↔ repo.listed = [] := by
  rw [trim_eq_nil_iff]
  constructor
  · intro blank
    by_contra changed
    obtain ⟨change, membership⟩ := List.exists_mem_of_ne_nil _ changed
    obtain ⟨char, inLine, visible⟩ := change.line_not_blank
    have space := blank char (repo.line_subset_porcelain membership inLine)
    rw [visible] at space
    cases space
  · intro clean
    simp [porcelain, clean]

end Repo

/-- What a command that succeeds makes of the uncommitted changes. -/
def GitCommand.changesAfter : GitCommand → List Change → List Change
  | .addAll, changes => changes.map fun c => { c with staged := c.kind != .ignored }
  | .commit _, changes => changes.filter fun c => !c.added
  | .resetHard, changes =>
      (changes.filter fun c => !(c.discardable && c.indexed)).map fun c =>
        { c with staged := false }
  | .cleanFd, changes => changes.filter fun c => !c.discardable || c.indexed
  | _, changes => changes

theorem GitCommand.exists_of_mem_changesAfter {command : GitCommand} {changes : List Change}
    {change : Change} (present : change ∈ command.changesAfter changes) :
    ∃ earlier ∈ changes, earlier.bare = change.bare ∧ earlier.kind = change.kind := by
  cases command <;> simp only [changesAfter, List.mem_map, List.mem_filter] at present
  case addAll =>
    obtain ⟨earlier, membership, rfl⟩ := present
    exact ⟨earlier, membership, rfl, rfl⟩
  case resetHard =>
    obtain ⟨earlier, ⟨membership, _⟩, rfl⟩ := present
    exact ⟨earlier, membership, rfl, rfl⟩
  case commit | cleanFd => exact ⟨change, present.1, rfl, rfl⟩
  all_goals exact ⟨change, present, rfl, rfl⟩

theorem Repo.run_changes {repo after : Repo} {text output : String} {command : GitCommand}
    (ran : repo.run text command = .ok (output, after)) :
    after.changes = command.changesAfter repo.changes := by
  cases command <;> simp only [Repo.run] at ran
  case checkout =>
    split at ran <;> cases ran
    rfl
  case checkoutNew =>
    split at ran
    · cases ran
    · split at ran <;> cases ran
      rfl
  case commit =>
    split at ran <;> cases ran
    rfl
  case push =>
    split at ran <;> cases ran
    rfl
  all_goals cases ran; rfl

def Edit.Makes (edit : Edit) (directory : String) (change : Change) : Prop :=
  edit.directory = directory ∧ edit.session = change.session ∧
    ∃ kind, edit.action = .write change.path change.entry change.tracked kind

/-- The file is no longer ignored after the edit. -/
def Edit.Uncovers (edit : Edit) (directory : String) (change : Change) : Prop :=
  edit.directory = directory ∧ edit.action = .unignore change.path

namespace Repositories

variable {repositories : Repositories} {directory : String} {change : Change}

theorem mem_edit {edit : Edit} (present : change ∈ (repositories.edit edit).changes directory) :
    (∃ earlier ∈ repositories.changes directory, earlier.Remains change ∧
      (earlier.kind = change.kind ∨ edit.Uncovers directory change)) ∨
      edit.Makes directory change := by
  have kept (membership : change ∈ repositories.changes directory) :
      ∃ earlier ∈ repositories.changes directory, earlier.Remains change ∧
        (earlier.kind = change.kind ∨ edit.Uncovers directory change) :=
    ⟨change, membership, rfl, .inl rfl⟩
  unfold Repositories.edit changes at *
  by_cases same : directory = edit.directory
  · subst same
    rw [Function.update_self] at present
    cases found : repositories edit.directory with
    | none => simp [found] at present
    | some repo =>
        simp only [found, Option.map_some] at present kept
        cases action : edit.action with
        | write path entry tracked kind =>
            rw [action] at present
            rcases List.mem_append.mp present with old | new
            · exact .inl (kept old)
            · obtain rfl := List.mem_singleton.mp new
              exact .inr ⟨rfl, rfl, kind, action⟩
        | revert path =>
            rw [action] at present
            exact .inl (kept (List.mem_filter.mp present).1)
        | unignore path =>
            rw [action] at present
            obtain ⟨earlier, membership, rfl⟩ := List.mem_map.mp present
            refine .inl ⟨earlier, membership, ?_⟩
            split
            · rename_i ignored
              exact ⟨rfl, .inr ⟨rfl, by rw [action, ignored.1]⟩⟩
            · exact ⟨rfl, .inl rfl⟩
  · rw [Function.update_of_ne same] at present
    exact .inl (kept present)

theorem mem_foldl_edit {edits : List Edit}
    (present : change ∈ (edits.foldl Repositories.edit repositories).changes directory) :
    (∃ earlier ∈ repositories.changes directory, earlier.Remains change ∧
      (earlier.kind = change.kind ∨ ∃ edit ∈ edits, edit.Uncovers directory change)) ∨
      ∃ edit ∈ edits, edit.Makes directory change := by
  induction edits generalizing repositories with
  | nil => exact .inl ⟨change, present, rfl, .inl rfl⟩
  | cons edit rest ih =>
      rw [List.foldl_cons] at present
      rcases ih present with ⟨middle, old, same, shown⟩ | ⟨other, membership, makes⟩
      · obtain ⟨path, entry, tracked, session⟩ := Change.bare_eq_iff.mp same.bare_eq
        rcases mem_edit old with ⟨earlier, older, alike, first⟩ | ⟨here, made, kind, action⟩
        · refine .inl ⟨earlier, older, same ▸ alike ▸ rfl, ?_⟩
          rcases first with kept | uncovers
          · rcases shown with kind | ⟨other, membership, later⟩
            · exact .inl (kept.trans kind)
            · exact .inr ⟨other, by simp [membership], later⟩
          · exact .inr ⟨edit, by simp, uncovers.1, path ▸ uncovers.2⟩
        · rw [path, entry, tracked] at action
          exact .inr ⟨edit, by simp, here, made.trans session, kind, action⟩
      · exact .inr ⟨other, by simp [membership], makes⟩

end Repositories

theorem System.respond_repositories (system : System) (choice : Choice) {request : Request}
    (other : request.git? = none) :
    (system.respond choice request).2.repositories = system.repositories := by
  refine system.respond_state choice request (motive := fun after =>
    after.repositories = system.repositories) rfl ?_
  cases request with
  | git command cwd => cases other
  | createSession title directory =>
      simp only [perform, openSession]
      split <;> rfl
  | _ => rfl

namespace SystemWorld

variable {world : SystemWorld} {request : Request} {command : GitCommand}
  {cwd directory output message : String} {change : Change}

theorem respond_git_ok (literal : (Request.git command cwd).literal = true)
    (answered : world.answer (.git command cwd) = .ok output) (directory : String) :
    (world.state.respond world.choice (.git command cwd)).2.repositories.changes directory =
      if directory = cwd then command.changesAfter (world.state.repositories.changes cwd)
      else world.state.repositories.changes directory := by
  rw [world.answer_eq literal] at answered
  rcases world.state.respond_git world.choice literal with
    ⟨message, failed⟩ | ⟨repo, _, after, found, ran, served⟩
  · rw [failed] at answered
    cases answered
  · rw [served]
    by_cases same : directory = cwd
    · subst same
      simp [Repositories.changes, found, Repo.run_changes ran]
    · simp [Repositories.changes, same]

theorem respond_git_error (literal : (Request.git command cwd).literal = true)
    (answered : world.answer (.git command cwd) = .error message) :
    (world.state.respond world.choice (.git command cwd)).2.repositories =
      world.state.repositories := by
  rw [world.answer_eq literal] at answered
  rcases world.state.respond_git world.choice literal with
    ⟨message, failed⟩ | ⟨repo, _, after, found, ran, served⟩
  · rw [failed]
  · rw [served] at answered
    cases answered

theorem exists_of_mem_respond (literal : request.literal = true) (present : change ∈
    (world.state.respond world.choice request).2.repositories.changes directory) :
    ∃ earlier ∈ world.state.repositories.changes directory,
      earlier.bare = change.bare ∧ earlier.kind = change.kind := by
  cases command? : request.git? with
  | none =>
      rw [System.respond_repositories _ _ command?] at present
      exact ⟨change, present, rfl, rfl⟩
  | some pair =>
      obtain ⟨command, cwd⟩ := pair
      obtain rfl : request = .git command cwd := by
        cases request <;> simp_all [Request.git?]
      rcases answered : world.answer (.git command cwd) with message | output
      · rw [respond_git_error literal answered] at present
        exact ⟨change, present, rfl, rfl⟩
      · rw [respond_git_ok literal answered] at present
        split at present
        · rename_i same
          subst same
          exact GitCommand.exists_of_mem_changesAfter present
        · exact ⟨change, present, rfl, rfl⟩

theorem mem_next (literal : request.literal = true)
    (present : change ∈ (world.next request).state.repositories.changes directory) :
    (∃ earlier ∈ (world.state.respond world.choice request).2.repositories.changes directory,
      earlier.Remains change ∧ (earlier.kind = change.kind ∨
        ∃ edit ∈ stepEdits (world.step request), edit.Uncovers directory change)) ∨
      ∃ edit ∈ stepEdits (world.step request), edit.Makes directory change := by
  rw [world.next_repositories literal] at present
  exact Repositories.mem_foldl_edit present

theorem status_blank_iff (answered : world.answer (.git .status cwd) = .ok output) :
    String.ofList (trim output.toList) = "" ↔
      ∀ change ∈ world.state.repositories.changes cwd, change.kind = .ignored := by
  have literal : (Request.git .status cwd).literal = true := rfl
  rw [world.answer_eq literal] at answered
  rcases world.state.respond_git world.choice literal with
    ⟨message, failed⟩ | ⟨repo, listing, after, found, ran, served⟩
  · rw [failed] at answered
    cases answered
  · rw [served] at answered
    cases answered
    cases ran
    have blank : String.ofList (trim repo.porcelain) = "" ↔ repo.listed = [] := by
      rw [← repo.trim_porcelain_eq_nil_iff]
      simp [String.ext_iff]
    simp only [String.toList_ofList, blank, List.eq_nil_iff_forall_not_mem, repo.mem_listed,
      Repositories.changes, found, not_and, not_not]

end SystemWorld

end MultiAgents
