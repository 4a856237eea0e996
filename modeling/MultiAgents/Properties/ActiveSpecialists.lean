import Mathlib.Data.List.Perm.Subperm
import MultiAgents.Containers.Lists
import MultiAgents.Services.SpecialistManager

/-!
# The active specialists of a phase

A score belongs to a specialist with a matching expression or to a configured
one, and the limit cuts the contextual specialists before the configured ones are
added again.  Nothing depends on how scores are computed or compared.
-/

namespace MultiAgents.SpecialistManager

open Containers

variable {F : Type} (arithmetic : Arithmetic F) (engine : Engine) (taskContent : String)

def Matches (specialist : String) : Prop :=
  ∃ weight keywords, (specialist, weight, keywords) ∈ contextualPatterns ∧
    ∃ regex ∈ keywords, (engine regex taskContent).isSome

theorem matches_of_scored {specialist : String}
    (scored : ((contextualPatterns.foldl (scoreKeywords arithmetic engine taskContent)
      .empty).get? specialist).isSome) : Matches engine taskContent specialist := by
  suffices general : ∀ entries : List (String × ℚ × List String), entries ⊆ contextualPatterns →
      ∀ scores : Scores F,
        (∀ other, (scores.get? other).isSome → Matches engine taskContent other) →
        ∀ other, ((entries.foldl (scoreKeywords arithmetic engine taskContent) scores).get?
          other).isSome → Matches engine taskContent other from
    general _ (List.Subset.refl _) .empty (by simp) specialist scored
  intro entries listed
  induction entries with
  | nil => exact fun _ known => known
  | cons entry entries ih =>
      obtain ⟨id, weight, keywords⟩ := entry
      intro scores known
      refine ih (fun _ membership => listed (by simp [membership])) _ ?_
      intro other
      unfold scoreKeywords
      dsimp only
      split
      case isFalse => exact known other
      case isTrue some =>
        rw [OrderedMap.get?_set]
        split
        case isFalse => exact known other
        case isTrue same =>
          intro _
          subst same
          obtain ⟨text, found⟩ := List.exists_mem_of_length_pos some
          obtain ⟨regex, membership, matched⟩ := List.mem_filterMap.mp found
          exact ⟨weight, keywords, listed (by simp), regex, membership, by simp [matched]⟩

theorem configured_of_boosted {configured : List String} {minScore : F} {scores : Scores F}
    {specialist : String}
    (scored : ((configured.foldl (boost arithmetic minScore) scores).get? specialist).isSome) :
    specialist ∈ configured ∨ (scores.get? specialist).isSome := by
  induction configured generalizing scores with
  | nil => exact .inr scored
  | cons first configured ih =>
      rcases ih scored with later | boosted
      · exact .inl (by simp [later])
      · by_cases same : specialist = first
        · exact .inl (by simp [same])
        · refine .inr ?_
          unfold boost at boosted
          split at boosted <;> simpa [OrderedMap.get?_set, same] using boosted

theorem matches_of_contextual {config : ProjectSpecialistsConfig} {phase : Phase}
    {maxSpecialists : Nat} {minScore : F} {found : ContextualMatch F}
    (membership : found ∈ getContextualSpecialists arithmetic engine taskContent config
      maxSpecialists minScore phase) :
    found.specialist ∈ getActiveSpecialists config phase ∨
      Matches engine taskContent found.specialist := by
  obtain ⟨entry, kept, rfl⟩ := List.mem_map.mp membership
  have scored := (List.mem_filter.mp ((List.mem_insertionSort _).mp (List.mem_of_mem_take kept))).1
  have present := OrderedMap.mem_entries_iff.mp scored
  rcases configured_of_boosted arithmetic (Option.isSome_of_mem present) with configured | matched
  · exact .inl (List.mem_eraseDups.mp configured)
  · exact .inr (matches_of_scored arithmetic engine taskContent matched)

/-- The active specialists are distinct and include the configured ones; at most five are not
configured, and each of those has an expression that matches the text. -/
theorem active_specialists (config : ProjectSpecialistsConfig) (phase : Phase) :
    let active :=
      (buildContextualContext arithmetic engine taskContent config phase).activeSpecialists
    let configured := getActiveSpecialists config phase
    active.Nodup ∧ (∀ specialist ∈ configured, specialist ∈ active) ∧
      (active.filter fun specialist => specialist ∉ configured).length ≤ 5 ∧
      ∀ specialist ∈ active, specialist ∉ configured →
        Matches engine taskContent specialist := by
  intro active configured
  have distinct : active.Nodup := nodup_eraseDups _
  let contextual := getContextualSpecialists arithmetic engine taskContent config 5
    (arithmetic.literal 0.1) phase
  have origin {specialist : String} : specialist ∈ active ↔
      specialist ∈ contextual.map ContextualMatch.specialist ∨ specialist ∈ configured :=
    List.mem_eraseDups.trans List.mem_append
  refine ⟨distinct, fun specialist membership => origin.mpr (.inr membership), ?_, ?_⟩
  · have few : contextual.length ≤ 5 := by
      simp only [contextual, getContextualSpecialists, List.length_map]
      exact List.length_take_le _ _
    have others : (active.filter fun specialist => specialist ∉ configured) ⊆
        contextual.map ContextualMatch.specialist := by
      intro specialist membership
      obtain ⟨isActive, other⟩ := List.mem_filter.mp membership
      exact (origin.mp isActive).resolve_right (of_decide_eq_true other)
    calc (active.filter fun specialist => specialist ∉ configured).length
        ≤ (contextual.map ContextualMatch.specialist).length :=
          (List.subperm_of_subset (distinct.filter _) others).length_le
      _ = contextual.length := List.length_map _
      _ ≤ 5 := few
  · intro specialist membership other
    obtain ⟨found, isContextual, rfl⟩ :=
      List.mem_map.mp ((origin.mp membership).resolve_right other)
    exact (matches_of_contextual arithmetic engine taskContent isContextual).resolve_left other

end MultiAgents.SpecialistManager
