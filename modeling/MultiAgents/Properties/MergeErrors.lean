import MultiAgents.Properties.Sample

/-!
# What the Merge phase says about failed pull requests

The result is compared with the outcomes of the calls to GitHub: each attempt to
open a pull request, the answer to the request for approval and each attempt to
merge.
-/

namespace MultiAgents

open Effects Text

/-- How the calls of a phase ended, in order.  Nothing is merged without an approval. -/
structure MergeOutcomes where
  creations : List (MergeTarget × Except String RepoPullRequestInfo)
  approved : Bool
  merges : List (RepoPullRequestInfo × Except String (Option String))

namespace MergeOutcomes

/-- A pull request could not be opened, though there was something to merge. -/
def failure? : MergeTarget × Except String RepoPullRequestInfo → Option (MergeTarget × String)
  | (repo, .error message) => if nothingToMerge message then none else some (repo, message)
  | (_, .ok _) => none

def opened? : MergeTarget × Except String RepoPullRequestInfo → Option RepoPullRequestInfo
  | (_, .ok created) => some created
  | (_, .error _) => none

def failedMerge? : RepoPullRequestInfo × Except String (Option String) → Option String
  | (created, .ok (some message)) => some s!"{created.repo.name}: {message}"
  | _ => none

variable (outcomes : MergeOutcomes)

def failures : List (MergeTarget × String) := outcomes.creations.filterMap failure?

def opened : List RepoPullRequestInfo := outcomes.creations.filterMap opened?

def failedMerges : List String := outcomes.merges.filterMap failedMerge?

def listsName (name : String) : Prop :=
  outcomes.failedMerges ≠ [] ∧
    includes ("Some merges failed: " ++ "; ".intercalate outcomes.failedMerges) name = true

/-- No pull request failed to be opened, none was opened at all, or the merges were approved and
either all of them failed or those that failed name the repositories in question. -/
def Tells : Prop :=
  outcomes.failures = [] ∨ outcomes.opened = [] ∨
    outcomes.approved = true ∧
      ((∀ merge ∈ outcomes.merges, (failedMerge? merge).isSome = true) ∨
        ∀ failed ∈ outcomes.failures, outcomes.listsName failed.1.name)

end MergeOutcomes

/-- Every repository whose pull request could not be opened is named, or the phase fails. -/
def MergeResult.NamesFailures (result : MergeResult) (outcomes : MergeOutcomes) : Prop :=
  ∀ failed ∈ outcomes.failures,
    result.success = false ∨ ∃ text ∈ result.error, includes text failed.1.name = true

namespace MergePhaseContext

variable (context : MergePhaseContext)

/-- What the phase does before it opens pull requests. -/
def begin : Program Unit := do
  context.toTask (.phaseStart .merge)
  forM context.reposToProcess context.pushRemaining

def approval : List RepoPullRequestInfo → Program Bool
  | [] => pure false
  | primary :: others => do
      TaskRepository.write context.task.id
        (.setPullRequest primary.pullRequest.number primary.pullRequest.url)
      context.awaitMergeApproval primary (primary :: others)

/-- The outcomes of the calls the phase makes in a world. -/
def outcomes (world : SystemWorld) : MergeOutcomes :=
  let (creations, created) := Process.attempts context.createPullRequest context.reposToProcess
    (context.begin.exec world).2
  let opened := creations.filterMap MergeOutcomes.opened?
  let (approved, asked) := (context.approval opened).exec created
  let approved := approved.toOption.getD false
  { creations, approved
    merges := if approved then (Process.attempts mergePullRequest opened asked).1 else [] }

end MergePhaseContext

namespace MergeErrors

variable {context : MergePhaseContext}

theorem pushRemaining_returns (context : MergePhaseContext) (repo : MergeTarget)
    (world : SystemWorld) :
    ((context.pushRemaining repo).exec world).1 = .ok () := by
  unfold MergePhaseContext.pushRemaining
  rw [Process.exec_tryCatch]
  split
  · rename_i value reached ended
    cases value
    rfl
  · rfl

theorem begin_returns (context : MergePhaseContext) (world : SystemWorld) :
    (context.begin.exec world).1 = .ok () := by
  unfold MergePhaseContext.begin
  rw [Process.exec_bind]
  change ((forM context.reposToProcess context.pushRemaining).exec
    (world.next (.toTask context.task.id (.phaseStart .merge)))).1 = .ok ()
  generalize world.next (.toTask context.task.id (.phaseStart .merge)) = world
  generalize context.reposToProcess = repos
  induction repos generalizing world with
  | nil => rfl
  | cons repo rest ih =>
      have pushed := pushRemaining_returns context repo world
      rw [List.forM_cons, Process.exec_bind]
      revert pushed
      rcases (context.pushRemaining repo).exec world with ⟨_ | _, reached⟩
      · intro pushed
        cases pushed
      · intro _
        exact ih reached

def collect (created : CreatedPullRequests)
    (outcome : MergeTarget × Except String RepoPullRequestInfo) : CreatedPullRequests where
  pullRequests := created.pullRequests ++ (MergeOutcomes.opened? outcome).toList
  errors := created.errors ++ ((MergeOutcomes.failure? outcome).map fun failed =>
    s!"{failed.1.name}: {failed.2}").toList

theorem openPullRequest_exec (created : CreatedPullRequests) (repo : MergeTarget)
    (world : SystemWorld) :
    (context.openPullRequest created repo).exec world =
      (.ok (collect created (repo, ((context.createPullRequest repo).exec world).1)),
        ((context.createPullRequest repo).exec world).2) := by
  unfold MergePhaseContext.openPullRequest
  rw [Process.exec_tryCatch, Process.exec_bind]
  rcases (context.createPullRequest repo).exec world with ⟨message | opened, reached⟩
  · simp only [Process.exec_pure, collect, MergeOutcomes.opened?, MergeOutcomes.failure?]
    split <;> simp
  · simp [collect, MergeOutcomes.opened?, MergeOutcomes.failure?]

theorem foldl_collect (creations : List (MergeTarget × Except String RepoPullRequestInfo))
    (created : CreatedPullRequests) :
    creations.foldl collect created =
      { pullRequests := created.pullRequests ++ creations.filterMap MergeOutcomes.opened?
        errors := created.errors ++ (creations.filterMap MergeOutcomes.failure?).map
          fun failed => s!"{failed.1.name}: {failed.2}" } := by
  induction creations generalizing created with
  | nil => simp
  | cons outcome rest ih =>
      rw [List.foldl_cons, ih]
      simp only [collect, List.filterMap_cons]
      cases MergeOutcomes.opened? outcome <;> cases MergeOutcomes.failure? outcome <;> simp

theorem mergePullRequest_returns (created : RepoPullRequestInfo) (world : SystemWorld) :
    ∃ failure, ((mergePullRequest created).exec world).1 = .ok failure := by
  unfold mergePullRequest
  rw [Process.exec_tryCatch]
  split
  · exact ⟨_, rfl⟩
  · exact ⟨_, rfl⟩

def failureOf (merge : RepoPullRequestInfo × Except String (Option String)) : Option String :=
  merge.2.toOption.getD none

theorem mergeLoop_exec (pullRequests : List RepoPullRequestInfo) (world : SystemWorld) :
    (pullRequests.foldlM (fun failures created => do
      let failure ← mergePullRequest created
      pure (failures ++ [failure])) [] : Program (List (Option String))).exec world =
      (.ok ((Process.attempts mergePullRequest pullRequests world).1.map failureOf),
        (Process.attempts mergePullRequest pullRequests world).2) := by
  have each (failures : List (Option String)) (created : RepoPullRequestInfo)
      (world : SystemWorld) : (do
        let failure ← mergePullRequest created
        pure (failures ++ [failure]) : Program (List (Option String))).exec world =
      (.ok (failures ++ [failureOf (created, ((mergePullRequest created).exec world).1)]),
        ((mergePullRequest created).exec world).2) := by
    obtain ⟨failure, returned⟩ := mergePullRequest_returns created world
    rw [Process.exec_bind]
    revert returned
    rcases (mergePullRequest created).exec world with ⟨answer, reached⟩
    rintro rfl
    rfl
  have collected (merges : List (RepoPullRequestInfo × Except String (Option String)))
      (failures : List (Option String)) :
      merges.foldl (fun failures merge => failures ++ [failureOf merge]) failures =
        failures ++ merges.map failureOf := by
    induction merges generalizing failures with
    | nil => simp
    | cons merge rest ih => simp [ih]
  rw [Process.exec_foldlM_attempts mergePullRequest
    (fun failures merge => failures ++ [failureOf merge]) each, collected, List.nil_append]

theorem zip_failures (merges : List (RepoPullRequestInfo × Except String (Option String))) :
    ((merges.map Prod.fst).zip (merges.map failureOf)).filterMap (fun merged =>
        merged.2.map fun message => s!"{merged.1.repo.name}: {message}") =
      merges.filterMap MergeOutcomes.failedMerge? := by
  induction merges with
  | nil => rfl
  | cons merge rest ih =>
      simp only [List.map_cons, List.zip_cons_cons, List.filterMap_cons, ih]
      rcases merge with ⟨created, _ | _ | message⟩ <;> rfl

theorem isNone_failureOf {merge : RepoPullRequestInfo × Except String (Option String)} :
    (failureOf merge).isNone = !(MergeOutcomes.failedMerge? merge).isSome := by
  rcases merge with ⟨created, _ | _ | message⟩ <;> rfl

theorem executeMergePhase_exec (world : SystemWorld) (some : context.reposToProcess ≠ []) :
    (executeMergePhase context).exec world =
      (context.settlePullRequests ((Process.attempts context.createPullRequest
        context.reposToProcess (context.begin.exec world).2).1.foldl collect {})).exec
        (Process.attempts context.createPullRequest context.reposToProcess
          (context.begin.exec world).2).2 := by
  have started : (executeMergePhase context).exec world = (do
      context.begin
      let created ← context.reposToProcess.foldlM context.openPullRequest {}
      context.settlePullRequests created : Program MergeResult).exec world := by
    unfold executeMergePhase MergePhaseContext.begin
    simp only [some, if_false, bind_assoc]
  have returned := begin_returns context world
  rw [started, Process.exec_bind]
  revert returned
  rcases context.begin.exec world with ⟨answer, reached⟩
  rintro rfl
  dsimp only
  rw [Process.exec_bind, Process.exec_foldlM_attempts context.createPullRequest collect
    openPullRequest_exec]

theorem settle_exec {created : CreatedPullRequests} (opened : created.pullRequests ≠ [])
    {world : SystemWorld} {result : MergeResult}
    (returned : ((context.settlePullRequests created).exec world).1 = .ok result) :
    ∃ approved asked,
      (context.approval created.pullRequests).exec world = (.ok approved, asked) ∧
      let merges := (Process.attempts mergePullRequest created.pullRequests asked).1
      let failed := merges.filterMap MergeOutcomes.failedMerge?
      result.success = (!approved || merges.any fun merge => (failureOf merge).isNone) ∧
      result.error = if approved = false ∨ failed = [] then none
        else some ("Some merges failed: " ++ "; ".intercalate failed) := by
  cases listed : created.pullRequests with
  | nil => exact absurd listed opened
  | cons primary others =>
      have settled : context.settlePullRequests created = (do
          if ← context.approval (primary :: others) then
            context.mergeAll primary (primary :: others)
          else context.leaveOpen primary (primary :: others)) := by
        unfold MergePhaseContext.settlePullRequests MergePhaseContext.approval
        simp only [listed, bind_assoc]
      rw [settled, Process.exec_bind] at returned
      revert returned
      rcases (context.approval (primary :: others)).exec world with ⟨message | approved, asked⟩
      · intro returned
        cases returned
      · intro returned
        refine ⟨approved, asked, rfl, ?_⟩
        cases approved with
        | false =>
            have left : ((context.leaveOpen primary (primary :: others)).exec asked).1 =
                .ok result := returned
            cases left
            simp
        | true =>
            have merged : ((context.mergeAll primary (primary :: others)).exec asked).1 =
                .ok result := returned
            unfold MergePhaseContext.mergeAll at merged
            rw [Process.exec_bind, mergeLoop_exec] at merged
            have same := Process.map_fst_attempts mergePullRequest (primary :: others) asked
            have zipped := zip_failures
              (Process.attempts mergePullRequest (primary :: others) asked).1
            rw [same] at zipped
            cases merged
            constructor
            · rw [List.any_map]
              rfl
            · simp only [Bool.true_eq_false, false_or]
              exact congrArg (fun failed : List String => if failed = [] then none
                else some ("Some merges failed: " ++ "; ".intercalate failed)) zipped

theorem any_merged_iff (merges : List (RepoPullRequestInfo × Except String (Option String))) :
    (merges.any fun merge => (failureOf merge).isNone) = false ↔
      ∀ merge ∈ merges, (MergeOutcomes.failedMerge? merge).isSome = true := by
  simp only [List.any_eq_false, isNone_failureOf, Bool.not_eq_true, Bool.not_eq_false']

theorem result_of_outcomes {world : SystemWorld} {result : MergeResult}
    (returned : ((executeMergePhase context).exec world).1 = .ok result) :
    let outcomes := context.outcomes world
    (context.reposToProcess = [] ∧ outcomes.failures = []) ∨
    (outcomes.opened = [] ∧ result.success = outcomes.failures.isEmpty) ∨
    (outcomes.opened ≠ [] ∧ outcomes.approved = false ∧ result.success = true ∧
      result.error = none) ∨
    (outcomes.opened ≠ [] ∧ outcomes.approved = true ∧
      result.success = (outcomes.merges.any fun merge => (failureOf merge).isNone) ∧
      result.error = if outcomes.failedMerges = [] then none
        else some ("Some merges failed: " ++ "; ".intercalate outcomes.failedMerges)) := by
  by_cases repositories : context.reposToProcess = []
  · left
    simp [MergePhaseContext.outcomes, repositories, Process.attempts, MergeOutcomes.failures]
  right
  rw [executeMergePhase_exec world repositories, foldl_collect] at returned
  by_cases opened : (context.outcomes world).opened = []
  · left
    refine ⟨opened, ?_⟩
    have none : (Process.attempts context.createPullRequest context.reposToProcess
        (context.begin.exec world).2).1.filterMap MergeOutcomes.opened? = [] := opened
    simp only [List.nil_append, none] at returned
    cases returned
    exact List.isEmpty_map
  right
  obtain ⟨approved, asked, answered, success, error⟩ := settle_exec opened returned
  have approvedOutcome : (context.outcomes world).approved = approved := by
    simp only [MergePhaseContext.outcomes]
    rw [List.nil_append] at answered
    rw [answered]
    rfl
  cases approved with
  | false => exact .inl ⟨opened, approvedOutcome, by simpa using success, by simpa using error⟩
  | true =>
      have merges : (context.outcomes world).merges =
          (Process.attempts mergePullRequest (context.outcomes world).opened asked).1 := by
        simp only [MergePhaseContext.outcomes]
        rw [List.nil_append] at answered
        rw [answered]
        rfl
      refine .inr ⟨opened, approvedOutcome, ?_, ?_⟩
      · rw [merges]
        exact success
      · simp only [Bool.true_eq_false, false_or] at error
        unfold MergeOutcomes.failedMerges
        rw [merges]
        exact error

end MergeErrors

open MergeErrors in
/-- For every list of repositories and all outcomes of the calls: the result names every repository
whose pull request could not be opened, or fails, exactly if there is none, if no pull request was
opened, or if the merges were approved and did not succeed or name them by chance. -/
theorem merge_names_failures_iff (context : MergePhaseContext) (system : System)
    (choices : Nat → Choice) (result : MergeResult)
    (returned : ((executeMergePhase context).exec (system.start choices)).1 = .ok result) :
    result.NamesFailures (context.outcomes (system.start choices)) ↔
      (context.outcomes (system.start choices)).Tells := by
  have exits := result_of_outcomes returned
  generalize context.outcomes (system.start choices) = outcomes at exits ⊢
  unfold MergeResult.NamesFailures MergeOutcomes.Tells
  rcases exits with ⟨_, none⟩ | ⟨unopened, success⟩ | ⟨opened, unapproved, success, error⟩ |
    ⟨opened, approved, success, error⟩
  · simp [none]
  · constructor
    · exact fun _ => .inr (.inl unopened)
    · intro _ failed membership
      left
      rw [success, List.isEmpty_eq_false_iff]
      exact List.ne_nil_of_mem membership
  · simp [opened, unapproved, success, error, List.eq_nil_iff_forall_not_mem]
  · by_cases merged : (outcomes.merges.any fun merge => (failureOf merge).isNone) = false
    · constructor
      · exact fun _ => .inr (.inr ⟨approved, .inl ((any_merged_iff _).mp merged)⟩)
      · exact fun _ _ _ => .inl (success.trans merged)
    · have someMerged : ¬∀ merge ∈ outcomes.merges,
          (MergeOutcomes.failedMerge? merge).isSome = true :=
        fun failed => merged ((any_merged_iff _).mpr failed)
      have succeeds : result.success = true := by simpa using success.trans_ne merged
      have named (name : String) : (∃ text ∈ result.error, includes text name = true) ↔
          outcomes.listsName name := by
        rw [error, MergeOutcomes.listsName]
        by_cases listed : outcomes.failedMerges = [] <;> simp [listed]
      simp only [opened, approved, succeeds, someMerged, named, Bool.true_eq_false, false_or,
        true_and]
      constructor
      · exact .inr
      · rintro (none | lists)
        · simp [none]
        · exact lists

namespace MergeErrors

open Sample

def bothRepositories : MergePhaseContext where
  task := { id := "42", title := "Login" }
  workingDirectory := "/work/api"
  repositories := [api, web]
  branchName := "task/42"
  analysisDescription := ""
  storiesCompleted := 1
  totalStories := 1

def bothOnBranch : System where
  repositories := at? [("/work/api", onBranch "task/42"), ("/work/web", onBranch "task/42")]

def frontendRefused (backend : Choice) : Nat → Choice :=
  script [(5, backend), (9, { fault := some "HTTP 500" })]

def backendOpened : Nat → Choice :=
  frontendRefused { text := "https://github.com/o/api/pull/7" }

def bothRefused : Nat → Choice := frontendRefused { fault := some "HTTP 500" }

end MergeErrors

open MergeErrors in
/-- The pull request of the backend stays open, and that of the frontend is not mentioned. -/
theorem merge_drops_failed_creation :
    ∃ result, ((executeMergePhase bothRepositories).exec
        (bothOnBranch.start backendOpened)).1 = .ok result ∧
      ¬result.NamesFailures (bothRepositories.outcomes (bothOnBranch.start backendOpened)) := by
  have silent : ((executeMergePhase bothRepositories).exec
      (bothOnBranch.start backendOpened)).1.toOption.any
        (fun result => result.success && result.error.isNone) = true := by decide +kernel
  have failed : (bothRepositories.outcomes (bothOnBranch.start backendOpened)).failures ≠ [] := by
    decide +kernel
  obtain ⟨result, returned, quiet⟩ := Process.returned_of_any silent
  simp only [Bool.and_eq_true, Option.isNone_iff_eq_none] at quiet
  obtain ⟨repo, membership⟩ := List.exists_mem_of_ne_nil _ failed
  refine ⟨result, returned, fun names => ?_⟩
  have named := names repo membership
  simp [quiet] at named

open MergeErrors in
theorem merge_fails_with_failed_creations :
    ∃ result, ((executeMergePhase bothRepositories).exec
        (bothOnBranch.start bothRefused)).1 = .ok result ∧
      result.NamesFailures (bothRepositories.outcomes (bothOnBranch.start bothRefused)) := by
  have isOk : ((executeMergePhase bothRepositories).exec
      (bothOnBranch.start bothRefused)).1.isOk = true := by decide +kernel
  have unopened : (bothRepositories.outcomes (bothOnBranch.start bothRefused)).opened = [] := by
    decide +kernel
  obtain ⟨result, returned⟩ := Process.returned_of_isOk isOk
  exact ⟨result, returned, (merge_names_failures_iff bothRepositories bothOnBranch bothRefused
    result returned).mpr (.inr (.inl unopened))⟩

end MultiAgents
