import MultiAgents.Phases.Developer.Requests
import MultiAgents.Properties.Sample
import MultiAgents.Services.Rules
import MultiAgents.System.WorkingTree

/-!
# What is committed was reviewed

Before a story is committed in manual mode the user is shown the files that
`git status` lists in the repositories.  A file of the commit is among them
unless it was edited after the listing or the listing could not be read.  The
Merge phase asks nobody: it commits whatever is left in the working trees.
-/

namespace MultiAgents

open Effects Record Text

namespace Change

/-- The entry is one line with a visible character at either end, so that it can be read back
from its line. -/
structure Plain (change : Change) : Prop where
  oneLine : '\n' ∉ change.entry.toList
  starts : change.entry.toList.dropWhile isSpace = change.entry.toList
  ends : EndsVisibly change.entry.toList

variable {change : Change}

theorem Plain.trim_entry (plain : change.Plain) :
    trim change.entry.toList = change.entry.toList :=
  plain.ends.trim_eq.trans plain.starts

theorem Plain.newline_not_mem_line (plain : change.Plain) : '\n' ∉ change.line := by
  have coded : '\n' ∉ change.code := by
    unfold code
    split <;> decide
  simp [line, coded, plain.oneLine]

theorem drop_line (change : Change) : change.line.drop 3 = change.entry.toList := by
  unfold line code
  split <;> rfl

theorem dropWhile_line (visible : change.line.head? ≠ some ' ') :
    change.line.dropWhile isSpace = change.line := by
  unfold line code at *
  split at visible
  · rfl
  · simp at visible
  · rfl
  · rfl

end Change

namespace Repo

variable {repo : Repo} {change : Change}

def lines (repo : Repo) : List (List Char) := (repo.listed.map Change.line).dedup

theorem line_mem_lines (membership : change ∈ repo.listed) : change.line ∈ repo.lines :=
  List.mem_dedup.mpr (List.mem_map_of_mem membership)

/-- The line of the change comes first and starts with a blank, which is trimmed off with the
output. -/
def Cut (repo : Repo) (change : Change) : Prop :=
  repo.lines.head? = some change.line ∧ change.line.head? = some ' '

theorem plain_of_mem_lines (plain : ∀ other ∈ repo.listed, other.Plain) {line : List Char}
    (inLines : line ∈ repo.lines) : ∃ other : Change, other.Plain ∧ other.line = line := by
  obtain ⟨other, listed, same⟩ := List.mem_map.mp (List.mem_dedup.mp inLines)
  exact ⟨other, plain other listed, same⟩

theorem splitOn_trim_porcelain (plain : ∀ other ∈ repo.listed, other.Plain) {first : List Char}
    {rest : List (List Char)} (printed : repo.lines = first :: rest) :
    (trim repo.porcelain).splitOn '\n' = first.dropWhile isSpace :: rest := by
  have joined : repo.porcelain = ['\n'].intercalate (first :: rest) := by
    rw [← printed]
    rfl
  rw [joined]
  refine splitOn_trim_intercalate (fun line isLine => ?_) fun line isLine => ?_
  all_goals obtain ⟨other, otherPlain, rfl⟩ := plain_of_mem_lines plain (printed ▸ isLine)
  · exact otherPlain.ends.append other.code
  · exact otherPlain.newline_not_mem_line

theorem entry_mem_changedFiles (plain : ∀ other ∈ repo.listed, other.Plain)
    (membership : change ∈ repo.listed) (whole : ¬repo.Cut change) :
    change.entry ∈ GitService.changedFiles (trim repo.porcelain) := by
  have inLines := line_mem_lines membership
  cases printed : repo.lines with
  | nil => simp [printed] at inLines
  | cons first rest =>
      have kept : change.line ∈ first.dropWhile isSpace :: rest := by
        rcases List.mem_cons.mp (printed ▸ inLines) with rfl | later
        · rw [Change.dropWhile_line fun blank => whole ⟨by simp [printed], blank⟩]
          simp
        · simp [later]
      have visible : trim change.line ≠ [] := by
        obtain ⟨char, inLine, visible⟩ := change.line_not_blank
        intro blank
        have space := (trim_eq_nil_iff _).mp blank char inLine
        simp [visible] at space
      have nonempty : trim repo.porcelain ≠ [] := by
        rw [Ne, repo.trim_porcelain_eq_nil_iff]
        exact List.ne_nil_of_mem membership
      rw [GitService.changedFiles, if_neg nonempty, splitOn_trim_porcelain plain printed]
      refine List.mem_map.mpr ⟨change.line, List.mem_filter.mpr ⟨kept, by simpa using visible⟩, ?_⟩
      rw [change.drop_line, (plain change membership).trim_entry, String.ofList_toList]

end Repo

/-- The story of an approval request that the user answered with `approve`. -/
def approvedRequest? : SystemStep → Option StoryApproval
  | ⟨_, _, .requestApproval _ (.story _) (.story data), .ok ⟨.approve, _⟩⟩ => some data
  | _ => none

/-- An edit made the change, or uncovered it as one of a file that was ignored. -/
def EditedIn (directory : String) (change : Change) (steps : List SystemStep) : Prop :=
  ∃ step ∈ steps, ∃ edit ∈ stepEdits step,
    edit.Makes directory change ∨ edit.Uncovers directory change

/-- The file was changed when the repository was listed, and stands among the files if the listing
did not fail and was legible. -/
def ListedIn (repo : RepositoryInfo) (files : List String) (listing : SystemStep)
    (change : Change) : Prop :=
  ∃ tree, listing.before.repositories repo.localPath = some tree ∧
    ∃ seen ∈ tree.listed, seen.bare = change.bare ∧
      (gitFailed listing = false → (∀ other ∈ tree.listed, other.Plain) → ¬tree.Cut seen →
        s!"{repo.name}/{seen.entry}" ∈ files)

theorem EditedIn.congr {directory : String} {change other : Change} {steps : List SystemStep}
    (edited : EditedIn directory change steps) (same : change.bare = other.bare) :
    EditedIn directory other steps := by
  obtain ⟨path, entry, tracked, session⟩ := Change.bare_eq_iff.mp same
  unfold EditedIn Edit.Makes Edit.Uncovers at *
  rwa [← path, ← entry, ← tracked, ← session]

theorem ListedIn.congr {repo : RepositoryInfo} {files : List String} {listing : SystemStep}
    {change other : Change} (listed : ListedIn repo files listing change)
    (same : change.bare = other.bare) : ListedIn repo files listing other := by
  unfold ListedIn at *
  rwa [← same]

theorem ListedIn.mono {repo : RepositoryInfo} {files more : List String} {listing : SystemStep}
    {change : Change} (listed : ListedIn repo files listing change) (subset : files ⊆ more) :
    ListedIn repo more listing change := by
  obtain ⟨tree, found, seen, membership, same, shown⟩ := listed
  exact ⟨tree, found, seen, membership, same, fun succeeded plain whole =>
    subset (shown succeeded plain whole)⟩

/-- Each file a commit of the Developer phase finds was shown to the user in an approved request,
as far as its listing shows it, or was edited after the listing.  No prompt is sent between the
listing and the commit. -/
def CommitReviewed (context : DeveloperPhaseContext) (step : SystemStep)
    (past : List SystemStep) : Prop :=
  ∀ directory ∈ step.call.commitsIn?,
    ∃ repo ∈ context.repositories, repo.localPath = directory ∧
      ∃ newer listing earlier, past = newer ++ listing :: earlier ∧
        listing.call = .git .status directory ∧
        (∀ later ∈ newer, later.call.isPrompt = false) ∧
        ∃ approval ∈ newer, ∃ data ∈ approvedRequest? approval,
          ∀ change ∈ step.before.repositories.changes directory, change.added = true →
            EditedIn directory change (newer ++ [listing]) ∨
              ListedIn repo data.filesModified listing change

def CommitListed (repositories : List RepositoryInfo) (step : SystemStep)
    (past : List SystemStep) : Prop :=
  ∀ directory ∈ step.call.commitsIn?,
    ∀ change ∈ step.before.repositories.changes directory, change.added = true →
      ∃ approval ∈ past, ∃ data ∈ approvedRequest? approval, ∃ repo ∈ repositories,
        repo.localPath = directory ∧ s!"{repo.name}/{change.path}" ∈ data.filesModified

instance (repositories : List RepositoryInfo) (step : SystemStep) (past : List SystemStep) :
    Decidable (CommitListed repositories step past) :=
  inferInstanceAs (Decidable (∀ _ ∈ _, ∀ _ ∈ _, _ → _))

namespace ReviewedCommits

variable {world : SystemWorld} {request : Request}
  {repo : RepositoryInfo} {files : List String} {newer earlier : List SystemStep}
  {listing : SystemStep}

/-- A listing of a repository with no prompt since then, and what its files show of the working
tree as it is now. -/
structure Review (repo : RepositoryInfo) (files : List String) (newer : List SystemStep)
    (listing : SystemStep) (earlier : List SystemStep) (world : SystemWorld) : Prop where
  split : world.history = newer ++ listing :: earlier
  lists : listing.call = .git .status repo.localPath
  silent : ∀ later ∈ newer, later.call.isPrompt = false
  known : ∀ change ∈ world.state.repositories.changes repo.localPath, change.kind ≠ .ignored →
    EditedIn repo.localPath change (newer ++ [listing]) ∨ ListedIn repo files listing change

theorem change_next (literal : request.literal = true) {directory : String} {change : Change}
    (present : change ∈ (world.next request).state.repositories.changes directory)
    (shown : change.kind ≠ .ignored) :
    (∃ earlier ∈ world.state.repositories.changes directory,
      earlier.bare = change.bare ∧ earlier.kind ≠ .ignored) ∨
      EditedIn directory change [world.step request] := by
  rcases SystemWorld.mem_next literal present with
    ⟨middle, left, remains, kept | ⟨edit, made, uncovers⟩⟩ | ⟨edit, made, makes⟩
  · obtain ⟨earlier, membership, same, kind⟩ := SystemWorld.exists_of_mem_respond literal left
    exact .inl ⟨earlier, membership, same.trans remains.bare_eq, by rwa [kind, kept]⟩
  · exact .inr ⟨world.step request, by simp, edit, made, .inr uncovers⟩
  · exact .inr ⟨world.step request, by simp, edit, made, .inl makes⟩

theorem Review.next (review : Review repo files newer listing earlier world)
    (literal : request.literal = true) (silent : request.isPrompt = false) :
    Review repo files (world.step request :: newer) listing earlier (world.next request) where
  split := by simp [review.split]
  lists := review.lists
  silent := by simpa [silent] using review.silent
  known change present shown := by
    rcases change_next literal present shown with
      ⟨before, membership, same, visible⟩ | ⟨step, now, edited⟩
    · rcases review.known before membership visible with edited | listed
      · obtain ⟨step, inSteps, edited⟩ := EditedIn.congr edited same
        exact .inl ⟨step, List.mem_cons_of_mem _ inSteps, edited⟩
      · exact .inr (ListedIn.congr listed same)
    · exact .inl ⟨step, by simp [List.mem_singleton.mp now], edited⟩

theorem Review.mono {more : List String} (review : Review repo files newer listing earlier world)
    (subset : files ⊆ more) : Review repo more newer listing earlier world :=
  { review with
    known := fun change present shown => (review.known change present shown).imp_right
      fun listed => ListedIn.mono listed subset }

/-- What the files show of the working tree that was listed; nothing if that failed. -/
theorem listedIn_step {change : Change}
    (shows : ∀ output, world.answer (.git .status repo.localPath) = .ok output →
      ((GitService.changedFiles (trim output.toList)).map fun file => s!"{repo.name}/{file}") ⊆
        files)
    (present : change ∈ world.state.repositories.changes repo.localPath)
    (shown : change.kind ≠ .ignored) :
    ListedIn repo files (world.step (.git .status repo.localPath)) change := by
  cases found : world.state.repositories repo.localPath with
  | none => simp [Repositories.changes, found] at present
  | some tree =>
      rw [Repositories.changes, found] at present
      have listed := (tree.mem_listed change).mpr ⟨present, shown⟩
      refine ⟨tree, found, change, listed, rfl, fun succeeded plain whole => ?_⟩
      have literal : (Request.git .status repo.localPath).literal = true := rfl
      rcases world.state.respond_git world.choice literal with
        ⟨message, failed⟩ | ⟨same, printed, after, there, ran, served⟩
      · have answered := (world.answer_eq literal).trans (congrArg Prod.fst failed)
        rw [gitFailed_step answered] at succeeded
        cases succeeded
      · rw [found] at there
        cases there
        cases ran
        refine shows _ ((world.answer_eq literal).trans (congrArg Prod.fst served)) ?_
        rw [String.toList_ofList]
        exact List.mem_map_of_mem (Repo.entry_mem_changedFiles plain listed whole)

theorem Review.opened {files : List String}
    (shows : ∀ output, world.answer (.git .status repo.localPath) = .ok output →
      ((GitService.changedFiles (trim output.toList)).map fun file => s!"{repo.name}/{file}") ⊆
        files) :
    Review repo files [] (world.step (.git .status repo.localPath)) world.history
      (world.next (.git .status repo.localPath)) where
  split := rfl
  lists := rfl
  silent := by simp
  known change present shown := by
    rcases change_next rfl present shown with ⟨before, membership, same, visible⟩ | edited
    · exact .inr (ListedIn.congr (listedIn_step shows membership visible) same)
    · exact .inl edited

def Pending (repo : RepositoryInfo) (files : List String) (world : SystemWorld) : Prop :=
  ∃ newer listing earlier, Review repo files newer listing earlier world

def Approved (repo : RepositoryInfo) (world : SystemWorld) : Prop :=
  ∃ newer listing earlier, ∃ approval ∈ newer, ∃ data ∈ approvedRequest? approval,
    Review repo data.filesModified newer listing earlier world

theorem Pending.next (pending : Pending repo files world) (literal : request.literal = true)
    (silent : request.isPrompt = false) : Pending repo files (world.next request) := by
  obtain ⟨newer, listing, earlier, review⟩ := pending
  exact ⟨_, listing, earlier, review.next literal silent⟩

theorem Pending.mono {more : List String} (pending : Pending repo files world)
    (subset : files ⊆ more) : Pending repo more world := by
  obtain ⟨newer, listing, earlier, review⟩ := pending
  exact ⟨newer, listing, earlier, review.mono subset⟩

theorem Approved.next (approved : Approved repo world) (literal : request.literal = true)
    (silent : request.isPrompt = false) : Approved repo (world.next request) := by
  obtain ⟨newer, listing, earlier, approval, membership, data, approves, review⟩ := approved
  exact ⟨_, listing, earlier, approval, List.mem_cons_of_mem _ membership, data, approves,
    review.next literal silent⟩

variable {context : DeveloperPhaseContext}

def Gated (context : DeveloperPhaseContext) (world : SystemWorld) : Prop :=
  Always (CommitReviewed context) world.history

theorem Gated.next (gated : Gated context world) (quiet : request.isCommit = false) :
    Gated context (world.next request) := by
  refine .cons (fun directory commits => ?_) gated
  simp [Request.commitsIn?_of_isCommit quiet] at commits

theorem Gated.keeps {α : Type} {program : Program α}
    (uses : Uses (fun request : Request => request.isCommit = false) program) :
    Keeps Literal (Gated context) program :=
  uses.keeps fun _ _ quiet _ gated => gated.next quiet

theorem commitReviewed_of_approved (membership : repo ∈ context.repositories)
    (approved : Approved repo world) (command : GitCommand) :
    CommitReviewed context (world.step (.git command repo.localPath)) world.history := by
  intro directory commits
  obtain ⟨newer, listing, earlier, approval, inNewer, data, approves, review⟩ := approved
  obtain rfl := Request.mem_commitsIn?_git commits
  exact ⟨repo, membership, rfl, newer, listing, earlier, review.split, review.lists,
    review.silent, approval, inNewer, data, approves, fun change present added =>
      review.known change present fun ignored => by simp [Change.added, ignored] at added⟩

theorem listRepository_triple (context : DeveloperPhaseContext) (done : List RepositoryInfo)
    (listed : List String) (repo : RepositoryInfo) :
    Triple Literal
      (fun world => Gated context world ∧ ∀ other ∈ done, Pending other listed world)
      (tryCatch (GitService.getChangedFiles repo.localPath) fun _ => pure [])
      (fun files world => Gated context world ∧ ∀ other ∈ done ++ [repo],
        Pending other (listed ++ files.map fun file => s!"{repo.name}/{file}") world)
      (fun _ => Gated context) := by
  have extended {world : SystemWorld} {files : List String}
      (holds : ∀ other ∈ done, Pending other listed world)
      (opened : Pending repo files (world.next (.git .status repo.localPath))) :
      ∀ other ∈ done ++ [repo],
        Pending other (listed ++ files) (world.next (.git .status repo.localPath)) := by
    intro other membership
    rcases List.mem_append.mp membership with earlier | last
    · exact ((holds other earlier).next rfl rfl).mono (List.subset_append_left _ _)
    · rw [List.mem_singleton.mp last]
      exact opened.mono (List.subset_append_right _ _)
  have listing : Triple Literal
      (fun world => Gated context world ∧ ∀ other ∈ done, Pending other listed world)
      (GitService.git .status repo.localPath)
      (fun status world => Gated context world ∧ ∀ other ∈ done ++ [repo],
        Pending other (listed ++ (GitService.changedFiles status.toList).map fun file =>
          s!"{repo.name}/{file}") world)
      (fun _ world => Gated context world ∧ ∀ other ∈ done ++ [repo],
        Pending other (listed ++ []) world) := by
    refine GitService.git_triple (fun world output holds _ answered => ?_)
      fun world message holds _ answered => ?_
    · refine ⟨holds.1.next rfl, extended holds.2 ⟨_, _, _, .opened fun other same => ?_⟩⟩
      cases answered.symm.trans same
      rw [String.toList_ofList]
      exact List.Subset.refl _
    · refine ⟨holds.1.next rfl, extended holds.2 ⟨_, _, _, .opened fun other same => ?_⟩⟩
      cases answered.symm.trans same
  refine Triple.tryCatch (listing.bind fun status => .pure fun _ => id) fun _ => ?_
  exact .pure fun _ => id

theorem listChangedFiles_triple (context : DeveloperPhaseContext) :
    Triple Literal (Gated context) context.listChangedFiles
      (fun files world => Gated context world ∧
        ∀ repo ∈ context.repositories, Pending repo files world)
      (fun _ => Gated context) := by
  refine Triple.before (Triple.foldlM (fun done files world => Gated context world ∧
    ∀ repo ∈ done, Pending repo files world) ?_) fun _ gated => ⟨gated, by simp⟩
  intro done repo rest listed _
  exact (listRepository_triple context done listed repo).bind fun files => .pure fun _ => id

theorem approvedRequest?_step {taskId storyId : String} {data : StoryApproval}
    {response : ApprovalResponse}
    (answered : world.answer (.requestApproval taskId (.story storyId) (.story data)) =
      .ok response) (approves : response.action = .approve) :
    approvedRequest? (world.step (.requestApproval taskId (.story storyId) (.story data))) =
      some data := by
  obtain ⟨action, feedback⟩ := response
  subst approves
  simp only [World.step, answered, approvedRequest?]

theorem askUser_triple (story : Story) (storyIndex attempt : Nat)
    (current : StoryExecutionResult) :
    Triple Literal (Gated context) (context.askUser story storyIndex attempt current)
      (fun outcome world => Gated context world ∧
        (outcome = .approved → ∀ repo ∈ context.repositories, Approved repo world))
      (fun _ => Gated context) := by
  refine (listChangedFiles_triple context).bind fun files => ?_
  have shown : Triple Literal
      (fun world => Gated context world ∧ ∀ repo ∈ context.repositories, Pending repo files world)
      (GitService.getFullDiff context.workingDirectory 300)
      (fun _ world => Gated context world ∧
        ∀ repo ∈ context.repositories, Pending repo files world) (fun _ => Gated context) := by
    have quiet : Uses (fun request : Request => request.isCommit = false ∧
        request.isPrompt = false) (GitService.getFullDiff context.workingDirectory 300) :=
      GitService.getFullDiff_uses ⟨rfl, rfl⟩
    refine Triple.onRaise (quiet.keeps ?_) fun _ _ => And.left
    rintro world request ⟨noCommit, silent⟩ literal ⟨gated, pending⟩
    exact ⟨gated.next noCommit,
      fun repo membership => (pending repo membership).next literal silent⟩
  refine shown.bind fun diff => ?_
  have asked (data : StoryApproval) (same : data.filesModified = files) : Triple Literal
      (fun world => Gated context world ∧ ∀ repo ∈ context.repositories, Pending repo files world)
      (ApprovalService.requestApproval context.taskId (.story story.id) (.story data))
      (fun response world => Gated context world ∧ (response.action = .approve →
        ∀ repo ∈ context.repositories, Approved repo world)) (fun _ => Gated context) := by
    refine ApprovalService.requestApproval_triple (fun world response holds _ answered => ?_)
      fun _ _ holds _ _ => holds.1.next rfl
    refine ⟨holds.1.next rfl, fun approves repo membership => ?_⟩
    obtain ⟨newer, listing, earlier, review⟩ := holds.2 repo membership
    exact ⟨_, listing, earlier, _, List.mem_cons_self, data,
      approvedRequest?_step answered approves, same ▸ review.next rfl rfl⟩
  refine (asked _ rfl).bind fun response => ?_
  have refused {outcome : DeveloperPhaseContext.ApprovalOutcome} {world : SystemWorld}
      (gated : Gated context world) (other : outcome ≠ .approved) :
      Gated context world ∧
        (outcome = .approved → ∀ repo ∈ context.repositories, Approved repo world) :=
    ⟨gated, fun approved => absurd approved other⟩
  split
  · rename_i approves
    exact .pure fun _ holds => ⟨holds.1, fun _ => holds.2 approves⟩
  · exact .pure fun _ holds => refused holds.1 (by simp)
  · rename_i sessionId feedback _ _ _
    have sent : Keeps Literal (Gated context)
        (context.feedbackRound story storyIndex sessionId feedback attempt current) :=
      Gated.keeps (context.withoutCommit.feedbackRound story storyIndex _ _ attempt current)
    exact Triple.bind (sent.before fun _ => And.left) fun _ =>
      .pure fun _ gated => refused gated (by simp)
  · exact .pure fun _ holds => refused holds.1 (by simp)

theorem approvalLoop_triple (story : Story) (storyIndex remaining approvalAttempts : Nat)
    (current : StoryExecutionResult) :
    Triple Literal (Gated context)
      (context.approvalLoop story storyIndex remaining approvalAttempts current)
      (fun approved world => Gated context world ∧
        (approved = true → ∀ repo ∈ context.repositories, Approved repo world))
      (fun _ => Gated context) := by
  induction remaining generalizing approvalAttempts current with
  | zero => exact .pure fun _ gated => ⟨gated, fun approved => by cases approved⟩
  | succ remaining ih =>
      refine (Triple.tryCatch (askUser_triple story storyIndex (approvalAttempts + 1) current)
        fun _ => .pure fun _ gated => ⟨gated, fun approved => by cases approved⟩).bind
          fun outcome => ?_
      cases outcome with
      | approved => exact .pure fun _ holds => ⟨holds.1, fun _ => holds.2 rfl⟩
      | rejected => exact .pure fun _ holds => ⟨holds.1, fun approved => by cases approved⟩
      | again current => exact (ih _ current).before fun _ => And.left

theorem commitRepositories_keeps (story : Story) (storyIndex : Nat) :
    Keeps Literal
      (fun world => Gated context world ∧ ∀ repo ∈ context.repositories, Approved repo world)
      (context.commitRepositories story storyIndex) := by
  have uses : Uses (fun request : Request => ∃ repo ∈ context.repositories, ∃ command,
      request = .git command repo.localPath) (context.commitRepositories story storyIndex) :=
    DeveloperPhaseContext.commitRepositories_uses fun repo membership command _ =>
      ⟨repo, membership, command, rfl⟩
  refine uses.keeps ?_
  rintro world _ ⟨repo, membership, command, rfl⟩ literal ⟨gated, approved⟩
  refine ⟨.cons (commitReviewed_of_approved membership (approved repo membership) command) gated,
    fun other inList => (approved other inList).next literal rfl⟩

theorem concludeStory_triple (story : Story) (storyIndex : Nat) (userApproved : Bool)
    (recorded : StoryResultV2) :
    Triple Literal (fun world => Gated context world ∧
        (userApproved = true → ∀ repo ∈ context.repositories, Approved repo world))
      (context.concludeStory story storyIndex userApproved recorded)
      (fun _ => Gated context) (fun _ => Gated context) := by
  refine .ite (fun decided => ?_) fun _ => ?_
  · have logged : Keeps Literal
        (fun world => Gated context world ∧ ∀ repo ∈ context.repositories, Approved repo world)
        (Console.log (.committingStory story)) :=
      .call fun _ holds _ => ⟨holds.1.next rfl, fun repo membership =>
        (holds.2 repo membership).next rfl rfl⟩
    exact Triple.weaken (logged.bind fun _ => (commitRepositories_keeps story storyIndex).bind
      fun _ => .pure fun _ => id) (fun _ holds => ⟨holds.1, holds.2 decided⟩)
      (fun _ _ => And.left) fun _ _ => And.left
  · refine Triple.before (Gated.keeps ?_) fun _ => And.left
    exact .bind (.call rfl) fun _ => .bind context.withoutCommit.rollbackRepositories fun _ =>
      .bind (.call rfl) fun _ => .pure _

theorem settleStory_keeps (manual : context.autoApprove = false) (story : Story)
    (storyIndex : Nat) (result : StoryExecutionResult) (recorded : StoryResultV2) :
    Keeps Literal (Gated context) (context.settleStory story storyIndex result recorded) := by
  have permits := context.withoutCommit
  refine .ite (fun _ => ?_) fun _ => Gated.keeps (permits.discardStory story result _)
  refine (Gated.keeps (DeveloperPhaseContext.anyRepoHasChanges_uses permits.status)).bind
    fun changed => .ite (fun _ => ?_) fun _ => .pure fun _ => id
  refine (Gated.keeps (.call rfl)).bind fun _ => ?_
  refine (Gated.keeps (permits.verifyBuild (fun _ _ => rfl) story _ _ 0 recorded)).bind fun _ => ?_
  have asked : Triple Literal (Gated context) (context.awaitApproval story storyIndex result)
      (fun approved world => Gated context world ∧
        (approved = true → ∀ repo ∈ context.repositories, Approved repo world))
      (fun _ => Gated context) := by
    rw [DeveloperPhaseContext.awaitApproval, manual]
    exact approvalLoop_triple story storyIndex _ _ result
  exact asked.bind fun _ => (concludeStory_triple story storyIndex _ _).bind fun _ =>
    .pure fun _ => id

theorem executeDeveloperPhase_keeps (manual : context.autoApprove = false) :
    Keeps Literal (Gated context) (executeDeveloperPhase context) :=
  DeveloperPhaseContext.executeDeveloperPhase_rule
    (fun uses => Gated.keeps (uses.mono fun _ frames => by cases frames <;> rfl))
    (fun _ _ => Gated.keeps (executeStoryWithSession_uses context.withoutCommit.toStoryPermits))
    fun story storyIndex result => settleStory_keeps manual story storyIndex result _

end ReviewedCommits

/-- In manual mode, for every list of repositories and every behaviour of agents, git and user,
each commit of the Developer phase is reviewed, as long as the shell takes the command lines as
they are meant. -/
theorem developer_commits_reviewed (context : DeveloperPhaseContext)
    (manual : context.autoApprove = false) (system : System) (choices : Nat → Choice)
    (literal : Always Literal
      ((executeDeveloperPhase context).exec (system.start choices)).2.history) :
    Always (CommitReviewed context)
      ((executeDeveloperPhase context).exec (system.start choices)).2.history :=
  Triple.exec (ReviewedCommits.executeDeveloperPhase_keeps manual) .nil literal

namespace ReviewedCommits

open Sample

/-- The story is approved and committed; then the session of the TestGeneration phase finds a gap,
writes a test and reports that all tests pass. -/
def testedTask : Nat → Choice :=
  analyzedTask (session 56 newFile (verdictText "approved") ++
    [(114, { text := "ses_t" }),
      (119, .reply "/work" "ses_t" "```json\n\x7b\"coverageGaps\": [1]\x7d\n```" []),
      (122, .reply "/work" "ses_t" "Tests written."
        [⟨"ses_t", "/work/api", .write "login_test.go" "login_test.go" false⟩]),
      (125, .reply "/work" "ses_t" "```json\n\x7b\"testsFailed\": 0\x7d\n```" [])])

end ReviewedCommits

/-- Everything is approved by the user, and the Merge phase commits the generated test, which no
request for a story has listed. -/
theorem merge_commits_unreviewed_tests :
    Sample.options.phaseApprovalMode = .manual ∧
      ¬Always (CommitListed Sample.options.repositories) ((execute "42" Sample.options).exec
        (Sample.project.start ReviewedCommits.testedTask)).2.history := by
  decide +kernel

theorem developer_commits_reviewed_manual :
    Always (CommitReviewed { Sample.developer [Sample.api] with autoApprove := false })
      ((executeDeveloperPhase { Sample.developer [Sample.api] with autoApprove := false }).exec
        (Sample.backend.start Sample.acceptedStory)).2.history :=
  developer_commits_reviewed _ rfl _ _ (by decide +kernel)

end MultiAgents
