import MultiAgents.Phases.Analysis

/-!
# Identifiers of stories

A story without an identifier gets one from its position.  Such an identifier is no other one's
only if the agent has not given it to a story itself.
-/

namespace MultiAgents

open Text

def listedStories (output : String) : List Json :=
  match (blockOrObject? ["analysis", "stories"] output).bind (·.property "stories") with
  | some (.arr items) => items
  | _ => []

/-- The identifier that the agent gives to a story. -/
def givenId? (item : Json) : Option String :=
  match item.property "id" with
  | some id => if id.truthy then some id.display else none
  | none => none

namespace StoryIds

section Fallbacks

variable {α β : Type} (value? : α → Option β) (fallback : Nat → β)

/-- The value of an item, or else the fallback of its position. -/
def valueOr (entry : α × Nat) : β := (value? entry.1).getD (fallback entry.2)

theorem mem_valueOr_iff (items : List α) (start : Nat) (found : β) :
    found ∈ (items.zipIdx start).map (valueOr value? fallback) ↔
      found ∈ items.filterMap value? ∨
        ∃ entry ∈ items.zipIdx start, value? entry.1 = none ∧ fallback entry.2 = found := by
  constructor
  · intro membership
    obtain ⟨entry, listed, rfl⟩ := List.mem_map.mp membership
    cases given : value? entry.1 with
    | none => exact .inr ⟨entry, listed, given, by simp [valueOr, given]⟩
    | some value =>
        refine .inl (List.mem_filterMap.mpr ⟨entry.1, ?_, by simp [valueOr, given]⟩)
        exact List.fst_mem_of_mem_zipIdx listed
  · rintro (membership | ⟨entry, listed, missing, rfl⟩)
    · obtain ⟨item, listed, given⟩ := List.mem_filterMap.mp membership
      obtain ⟨index, position⟩ := List.mem_iff_getElem?.mp listed
      refine List.mem_map.mpr ⟨(item, start + index), ?_, by simp [valueOr, given]⟩
      exact List.mem_zipIdx_iff_le_and_getElem?_sub.mpr ⟨by simp, by simpa using position⟩
    · exact List.mem_map.mpr ⟨entry, listed, by simp [valueOr, missing]⟩

theorem nodup_valueOr_iff (injective : Function.Injective fallback) (items : List α)
    (start : Nat) :
    ((items.zipIdx start).map (valueOr value? fallback)).Nodup ↔
      (items.filterMap value?).Nodup ∧ ∀ entry ∈ items.zipIdx start, value? entry.1 = none →
        fallback entry.2 ∉ items.filterMap value? := by
  induction items generalizing start with
  | nil => simp
  | cons item rest ih =>
      rw [List.zipIdx_cons, List.map_cons, List.nodup_cons, mem_valueOr_iff, ih]
      have later : ∀ entry ∈ rest.zipIdx (start + 1), fallback entry.2 ≠ fallback start := by
        intro entry listed same
        have := List.le_snd_of_mem_zipIdx listed
        have := injective same
        omega
      cases given : value? item with
      | none =>
          have own : valueOr value? fallback (item, start) = fallback start := by
            simp [valueOr, given]
          rw [own, List.filterMap_cons_none given, List.forall_mem_cons]
          constructor
          · rintro ⟨apart, distinct, unused⟩
            exact ⟨distinct, fun _ membership => apart (.inl membership), unused⟩
          · rintro ⟨distinct, first, unused⟩
            refine ⟨?_, distinct, unused⟩
            rintro (membership | ⟨entry, listed, -, same⟩)
            · exact first given membership
            · exact later entry listed same
      | some value =>
          have own : valueOr value? fallback (item, start) = value := by simp [valueOr, given]
          rw [own, List.filterMap_cons_some given, List.nodup_cons, List.forall_mem_cons]
          constructor
          · rintro ⟨apart, distinct, unused⟩
            refine ⟨⟨fun membership => apart (.inl membership), distinct⟩, ?_, ?_⟩
            · intro missing
              cases given.symm.trans missing
            intro entry listed missing membership
            rcases List.mem_cons.mp membership with same | among
            · exact apart (.inr ⟨entry, listed, missing, same⟩)
            · exact unused entry listed missing among
          · rintro ⟨⟨fresh, distinct⟩, -, unused⟩
            refine ⟨?_, distinct, fun entry listed missing among =>
              unused entry listed missing (.tail value among)⟩
            rintro (membership | ⟨entry, listed, missing, same⟩)
            · exact fresh membership
            · exact unused entry listed missing (same ▸ List.mem_cons_self)

end Fallbacks

def fallbackId (index : Nat) : String := s!"story-{index + 1}"

theorem fallbackId_injective : Function.Injective fallbackId := by
  intro first second same
  have digits : Nat.toDigits 10 (first + 1) = Nat.toDigits 10 (second + 1) := by
    simpa [fallbackId, ← String.toList_inj, Nat.repr_eq_ofList_toDigits] using same
  have numbers := congrArg (Nat.ofDigitChars 10 · 0) digits
  simpa [Nat.ofDigitChars_ten_toDigits] using numbers

theorem storyOf_id (item : Json) (index : Nat) :
    (storyOf item index).id = valueOr givenId? fallbackId (item, index) := by
  show textOr _ _ = _
  unfold textOr Value.orElse valueOr givenId?
  cases item.property "id" with
  | none => rfl
  | some id => cases truthy : id.truthy <;> simp [truthy, fallbackId, Json.display]

theorem ids_of_parsed {output : String} {analysis : Value} {stories : List Story}
    (parsed : parseAnalysisJSON output = some (analysis, stories)) :
    stories.map Story.id = (listedStories output).zipIdx.map (valueOr givenId? fallbackId) := by
  unfold parseAnalysisJSON at parsed
  unfold listedStories
  cases read : blockOrObject? ["analysis", "stories"] output with
  | none => simp [read] at parsed
  | some data =>
      rw [read, Option.bind_eq_bind, Option.bind_some] at parsed
      rw [Option.bind_some]
      split at parsed
      · rename_i items listed
        rw [listed]
        split at parsed
        · cases parsed
        · cases parsed
          rw [List.map_map]
          exact List.map_congr_left fun entry _ => storyOf_id entry.1 entry.2
      · cases parsed

end StoryIds

open StoryIds in
/-- Stories whose given identifiers are distinct have distinct identifiers exactly if no story
is given the identifier that another one, without one, gets from its position. -/
theorem story_ids_distinct (output : String) (analysis : Value) (stories : List Story)
    (parsed : parseAnalysisJSON output = some (analysis, stories))
    (distinct : ((listedStories output).filterMap givenId?).Nodup) :
    (stories.map Story.id).Nodup ↔
      ∀ entry ∈ (listedStories output).zipIdx, givenId? entry.1 = none →
        s!"story-{entry.2 + 1}" ∉ (listedStories output).filterMap givenId? := by
  rw [ids_of_parsed parsed, nodup_valueOr_iff _ _ fallbackId_injective]
  exact and_iff_right distinct

/-- Two stories, the second without an identifier. -/
def Sample.namedStoryText (id : String) : String :=
  "```json\x7b\"stories\":[\x7b\"id\":\"" ++ id ++ "\"\x7d,\x7b\x7d]\x7d```"

/-- The first story has the identifier that the second one gets. -/
theorem fallback_id_taken :
    ((listedStories (Sample.namedStoryText "story-2")).filterMap givenId?).Nodup ∧
      ∃ analysis stories,
        parseAnalysisJSON (Sample.namedStoryText "story-2") = some (analysis, stories) ∧
        ¬(stories.map Story.id).Nodup := by
  have evaluated : ((listedStories (Sample.namedStoryText "story-2")).filterMap givenId?).Nodup ∧
      (parseAnalysisJSON (Sample.namedStoryText "story-2")).any
        (fun parsed => !decide (parsed.2.map Story.id).Nodup) = true := by decide +kernel
  obtain ⟨given, found⟩ := evaluated
  obtain ⟨⟨analysis, stories⟩, parsed, repeated⟩ := (Option.any_eq_true _ _).mp found
  exact ⟨given, analysis, stories, parsed, by simpa using repeated⟩

theorem fallback_id_free :
    ∃ analysis stories,
      parseAnalysisJSON (Sample.namedStoryText "login") = some (analysis, stories) ∧
      stories.length = 2 ∧ (stories.map Story.id).Nodup := by
  have evaluated : (parseAnalysisJSON (Sample.namedStoryText "login")).any
      (fun parsed => decide (parsed.2.length = 2)) = true := by decide +kernel
  obtain ⟨⟨analysis, stories⟩, parsed, two⟩ := (Option.any_eq_true _ _).mp evaluated
  refine ⟨analysis, stories, parsed, of_decide_eq_true two, ?_⟩
  exact (story_ids_distinct _ analysis stories parsed (by decide +kernel)).mpr (by decide +kernel)

end MultiAgents
