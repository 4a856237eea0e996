import MultiAgents.Containers.Lists
import MultiAgents.Types

/-!
# The repository that work is done in

The three copies of `determineWorkingDirectory` compare two repositories by their
kind first and by their order second.  That is a total preorder, so the stable
sort brings the first of the least repositories to the front.
-/

namespace MultiAgents

open Containers

namespace RepositoryInfo

abbrev IsBackend (repository : RepositoryInfo) : Prop := repository.type = "backend"

def order (repository : RepositoryInfo) : Int := repository.executionOrder.getD 999

theorem precedes_iff (a b : RepositoryInfo) : a.precedes b ↔
    (a.IsBackend ∧ ¬b.IsBackend) ∨ ((a.IsBackend ↔ b.IsBackend) ∧ a.order ≤ b.order) := by
  unfold precedes order IsBackend
  by_cases first : a.type = "backend" <;> by_cases second : b.type = "backend" <;>
    simp [first, second]

instance : Std.Total fun a b : RepositoryInfo => a.precedes b := ⟨fun a b => by
  simp only [precedes_iff]
  rcases Int.le_total a.order b.order with least | least <;> tauto⟩

instance : IsTrans RepositoryInfo fun a b => a.precedes b := ⟨fun a b c first second => by
  simp only [precedes_iff] at *
  have order := Int.le_trans (a := a.order) (b := b.order) (c := c.order)
  tauto⟩

end RepositoryInfo

def preferred (repositories : List RepositoryInfo) : List RepositoryInfo :=
  if ∃ repository ∈ repositories, repository.IsBackend
  then repositories.filter RepositoryInfo.IsBackend else repositories

theorem determineWorkingDirectory_of_head? {repositories : List RepositoryInfo}
    {first : RepositoryInfo} (projectPath : String)
    (sorted : (repositories.insertionSort fun a b => a.precedes b).head? = some first) :
    determineWorkingDirectory repositories projectPath = first.localPath := by
  obtain ⟨rest, sorted⟩ := List.head?_eq_some_iff.mp sorted
  rw [determineWorkingDirectory, sorted]

/-- The three functions agree: they choose the first repository of the least order among the
preferred ones. -/
theorem working_directory_is_first_least {repositories : List RepositoryInfo}
    (listed : repositories ≠ []) (projectPath : String) :
    ∃ before chosen after, preferred repositories = before ++ chosen :: after ∧
      (∀ repository ∈ before, chosen.order < repository.order) ∧
      (∀ repository ∈ after, chosen.order ≤ repository.order) ∧
      OrchestratorV2.determineWorkingDirectory repositories projectPath = chosen.localPath ∧
      AnalysisPhaseV2.determineWorkingDirectory repositories projectPath = chosen.localPath ∧
      DeveloperPhaseV2.determineWorkingDirectory repositories projectPath = chosen.localPath := by
  obtain ⟨before, chosen, after, rfl, sorted, greater, notLess⟩ :=
    exists_first_of_insertionSort (fun a b : RepositoryInfo => a.precedes b) listed
  have chosenPath := determineWorkingDirectory_of_head? projectPath sorted
  simp only [RepositoryInfo.precedes_iff] at greater notLess
  unfold preferred
  split
  case isTrue some =>
    -- A backend repository would come before any other, so the chosen one is a backend.
    have backend : chosen.IsBackend := by
      obtain ⟨repository, membership, backend⟩ := some
      by_contra other
      rcases List.mem_append.mp membership with earlier | later
      · have := greater _ earlier
        tauto
      · rcases List.mem_cons.mp later with rfl | later
        · exact other backend
        · have := notLess _ later
          tauto
    refine ⟨before.filter RepositoryInfo.IsBackend, chosen, after.filter RepositoryInfo.IsBackend,
      ?_, ?_, ?_, chosenPath, chosenPath, chosenPath⟩
    · rw [List.filter_append, List.filter_cons, if_pos (decide_eq_true backend)]
    · intro repository membership
      obtain ⟨earlier, same⟩ := List.mem_filter.mp membership
      have := greater _ earlier
      have := of_decide_eq_true same
      by_contra least
      have := Int.not_lt.mp least
      tauto
    · intro repository membership
      obtain ⟨later, same⟩ := List.mem_filter.mp membership
      have := notLess _ later
      have := of_decide_eq_true same
      tauto
  case isFalse none =>
    have other : ∀ repository ∈ before ++ chosen :: after, ¬repository.IsBackend :=
      fun repository membership backend => none ⟨repository, membership, backend⟩
    have chosenOther := other chosen (by simp)
    refine ⟨before, chosen, after, rfl, ?_, ?_, chosenPath, chosenPath, chosenPath⟩
    · intro repository membership
      have := greater _ membership
      have := other repository (by simp [membership])
      by_contra least
      have := Int.not_lt.mp least
      tauto
    · intro repository membership
      have := notLess _ membership
      have := other repository (by simp [membership])
      tauto

/-- Two backend repositories of the least order: the first one is chosen. -/
theorem working_directory_of_repositories :
    let repositories : List RepositoryInfo :=
      [{ name := "web", type := "frontend", localPath := "/web", executionOrder := some 1 },
        { name := "late", type := "backend", localPath := "/late" },
        { name := "api", type := "backend", localPath := "/api", executionOrder := some 2 },
        { name := "jobs", type := "backend", localPath := "/jobs", executionOrder := some 2 }]
    repositories ≠ [] ∧ ∃ before chosen after,
      preferred repositories = before ++ chosen :: after ∧
      (∀ repository ∈ before, chosen.order < repository.order) ∧
      (∀ repository ∈ after, chosen.order ≤ repository.order) ∧
      OrchestratorV2.determineWorkingDirectory repositories "/p" = chosen.localPath ∧
      AnalysisPhaseV2.determineWorkingDirectory repositories "/p" = chosen.localPath ∧
      DeveloperPhaseV2.determineWorkingDirectory repositories "/p" = chosen.localPath :=
  ⟨by decide, working_directory_is_first_least (by decide) "/p"⟩

end MultiAgents
