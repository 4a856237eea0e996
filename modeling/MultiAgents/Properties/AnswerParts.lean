import Mathlib.Algebra.Order.BigOperators.Group.List
import Mathlib.Algebra.Order.Group.Nat
import Mathlib.Data.List.Dedup
import Mathlib.Data.List.Perm.Subperm
import MultiAgents.Phases.TestGeneration

/-!
# Answers in several parts

An agent streams its answer as updates of text parts, each with the whole text its part has so
far.  The answer is what the parts say in the end, one after the other.  The Developer phase
reads the last text of the stream, and the Test Generation phase joins all of them.
-/

namespace MultiAgents

structure TextUpdate where
  part : String
  text : String
  session : SessionRef := {}
  deriving DecidableEq

namespace TextUpdate

def event (update : TextUpdate) : OpenCodeEvent where
  type := "message.part.updated"
  part := some { type := "text", text := some update.text, ref := update.session }

theorem event_text? (update : TextUpdate) :
    update.event.text? = if update.text = "" then none else some update.text := by
  simp [event, OpenCodeEvent.text?, Option.filter_some]

theorem event_chunk? (update : TextUpdate) : update.event.chunk? = update.event.text? := by
  simp [event, OpenCodeEvent.chunk?]

/-- What a part has got stays at the beginning of what it gets later. -/
def Cumulative (updates : List TextUpdate) : Prop :=
  updates.Pairwise fun earlier later =>
    earlier.part = later.part → earlier.text.toList <+: later.text.toList

instance (updates : List TextUpdate) : Decidable (Cumulative updates) := by
  unfold Cumulative
  infer_instance

def ofPart (updates : List TextUpdate) (part : String) : List TextUpdate :=
  updates.filter fun update => update.part = part

def finalText (updates : List TextUpdate) (part : String) : String :=
  (ofPart updates part).getLast?.elim "" TextUpdate.text

def texts (updates : List TextUpdate) : List TextUpdate :=
  updates.filter fun update => update.text ≠ ""

def parts (updates : List TextUpdate) : List String :=
  ((texts updates).map TextUpdate.part).reverse.dedup.reverse

def answerText (updates : List TextUpdate) : String :=
  String.join ((parts updates).map (finalText updates))

theorem mem_parts_iff {updates : List TextUpdate} {part : String} :
    part ∈ parts updates ↔ ∃ update ∈ texts updates, update.part = part := by
  simp [parts]

theorem nodup_parts (updates : List TextUpdate) : (parts updates).Nodup := by
  simp [parts, List.nodup_dedup]

theorem parts_of_nodup {updates : List TextUpdate}
    (distinct : ((texts updates).map TextUpdate.part).Nodup) :
    parts updates = (texts updates).map TextUpdate.part := by
  rw [parts, List.Nodup.dedup (List.nodup_reverse.mpr distinct), List.reverse_reverse]

theorem finalText_concat (updates : List TextUpdate) (last : TextUpdate) (part : String) :
    finalText (updates ++ [last]) part =
      if last.part = part then last.text else finalText updates part := by
  unfold finalText ofPart
  by_cases same : last.part = part <;> simp [List.filter_append, same]

theorem finalText_texts {updates : List TextUpdate} (cumulative : Cumulative updates)
    (part : String) : finalText (texts updates) part = finalText updates part := by
  induction updates using List.reverseRecOn with
  | nil => rfl
  | append_singleton updates last ih =>
      obtain ⟨before, -, grown⟩ := List.pairwise_append.mp cumulative
      rw [finalText_concat, ← ih before, texts, List.filter_append]
      by_cases empty : last.text = ""
      · simp only [empty, ne_eq, not_true_eq_false, decide_false, List.filter_cons_of_neg,
          Bool.false_eq_true, not_false_eq_true, List.filter_nil, List.append_nil]
        split
        · rename_i same
          have none : ofPart (texts updates) part = [] := by
            refine List.filter_eq_nil_iff.mpr ?_
            intro update textual
            obtain ⟨membership, some⟩ := List.mem_filter.mp textual
            intro own
            have beginning := grown update membership last (List.mem_singleton_self last)
              ((of_decide_eq_true own).trans same.symm)
            rw [empty] at beginning
            have without : update.text = "" := String.toList_inj.mp (List.prefix_nil.mp beginning)
            simp [without] at some
          show finalText (texts updates) part = ""
          rw [finalText, none]
          rfl
        · rfl
      · rw [List.filter_cons_of_pos (by simpa using empty), List.filter_nil, finalText_concat]
        rfl

theorem exists_final {updates : List TextUpdate} (cumulative : Cumulative updates)
    {part : String} (present : part ∈ parts updates) :
    ∃ update ∈ texts updates, update.part = part ∧ update.text = finalText updates part := by
  obtain ⟨update, membership, own⟩ := mem_parts_iff.mp present
  have some : ofPart (texts updates) part ≠ [] :=
    List.ne_nil_of_mem (List.mem_filter.mpr ⟨membership, decide_eq_true own⟩)
  obtain ⟨listed, own⟩ := List.mem_filter.mp (List.getLast_mem some)
  refine ⟨_, listed, of_decide_eq_true own, ?_⟩
  rw [← finalText_texts cumulative, finalText, List.getLast?_eq_some_getLast some]
  rfl

theorem text_ne_empty {updates : List TextUpdate} {update : TextUpdate}
    (membership : update ∈ texts updates) : update.text ≠ "" := by
  simpa using (List.mem_filter.mp membership).2

theorem length_join (words : List String) :
    (String.join words).length = (words.map String.length).sum := by
  rw [← String.length_toList, String.toList_join, List.length_flatMap]
  rfl

theorem length_answerText (updates : List TextUpdate) :
    (answerText updates).length =
      ((parts updates).map fun part => (finalText updates part).length).sum := by
  rw [answerText, length_join, List.map_map]
  rfl

theorem eq_of_sublist_of_sum {α : Type} {weight : α → Nat} {kept whole : List α}
    (sublist : kept.Sublist whole) (positive : ∀ item ∈ whole, 0 < weight item)
    (equal : (kept.map weight).sum = (whole.map weight).sum) : kept = whole := by
  induction sublist with
  | slnil => rfl
  | cons item rest ih =>
      have weighs := positive item List.mem_cons_self
      have smaller := (rest.map weight).sum_le_sum fun _ _ => Nat.zero_le _
      rw [List.map_cons, List.sum_cons] at equal
      omega
  | cons_cons item rest ih =>
      rw [List.map_cons, List.map_cons, List.sum_cons, List.sum_cons] at equal
      rw [ih (fun other membership =>
        positive other (List.mem_cons_of_mem item membership)) (by omega)]

theorem final_ne_empty {updates : List TextUpdate} (cumulative : Cumulative updates)
    {part : String} (present : part ∈ parts updates) : 0 < (finalText updates part).length := by
  obtain ⟨update, membership, -, final⟩ := exists_final cumulative present
  rw [← final]
  exact Nat.pos_of_ne_zero (mt String.length_eq_zero_iff.mp (text_ne_empty membership))

theorem eq_nil_of_sum {updates : List TextUpdate} (cumulative : Cumulative updates)
    (others : List String) (present : ∀ part ∈ others, part ∈ parts updates)
    (weightless : (others.map fun part => (finalText updates part).length).sum = 0) :
    others = [] := by
  refine List.eq_nil_iff_forall_not_mem.mpr ?_
  intro part membership
  have zero := List.sum_eq_zero_iff.mp weightless _ (List.mem_map_of_mem membership)
  have positive := final_ne_empty cumulative (present part membership)
  omega

theorem extractFinalOutput_eq (updates : List TextUpdate) :
    extractFinalOutput (updates.map event) = (texts updates).getLast?.elim "" TextUpdate.text := by
  unfold extractFinalOutput
  induction updates using List.reverseRecOn with
  | nil => rfl
  | append_singleton updates last ih =>
      rw [List.map_append, List.foldl_append, ih]
      by_cases empty : last.text = "" <;> simp [event_text?, empty, texts]

theorem last_eq_answerText_iff {updates : List TextUpdate} (cumulative : Cumulative updates) :
    (texts updates).getLast?.elim "" TextUpdate.text = answerText updates ↔
      (parts updates).length ≤ 1 := by
  cases found : (texts updates).getLast? with
  | none =>
      have none : texts updates = [] := List.getLast?_eq_none_iff.mp found
      simp [answerText, parts, none]
  | some last =>
      obtain ⟨earlier, split⟩ := List.getLast?_eq_some_iff.mp found
      have final : finalText updates last.part = last.text := by
        rw [← finalText_texts cumulative, split, finalText_concat, if_pos rfl]
      have present : last.part ∈ parts updates :=
        mem_parts_iff.mpr ⟨last, split ▸ List.mem_concat_self, rfl⟩
      obtain ⟨before, after, listed⟩ := List.append_of_mem present
      rw [Option.elim_some, ← final]
      constructor
      · intro equal
        have lengths := congrArg String.length equal
        rw [length_answerText, listed, List.map_append, List.map_cons, List.sum_append,
          List.sum_cons] at lengths
        have first := eq_nil_of_sum cumulative before
          (fun part membership => listed ▸ List.mem_append_left _ membership) (by omega)
        have second := eq_nil_of_sum cumulative after
          (fun part membership => listed ▸ List.mem_append_right _ (.tail _ membership)) (by omega)
        rw [listed, first, second]
        rfl
      · intro single
        have first : before = [] := List.length_eq_zero_iff.mp (by simp [listed] at single; omega)
        have second : after = [] := List.length_eq_zero_iff.mp (by simp [listed] at single; omega)
        rw [answerText, listed, first, second]
        simp [String.join]

theorem tests_extractFinalOutput_eq (updates : List TextUpdate) :
    TestGenerationContext.extractFinalOutput (updates.map event) =
      String.join ((texts updates).map TextUpdate.text) := by
  unfold TestGenerationContext.extractFinalOutput
  congr 1
  induction updates with
  | nil => rfl
  | cons update rest ih =>
      by_cases empty : update.text = "" <;>
        simpa [event_chunk?, event_text?, empty, texts] using ih

theorem join_eq_answerText_iff {updates : List TextUpdate} (cumulative : Cumulative updates) :
    String.join ((texts updates).map TextUpdate.text) = answerText updates ↔
      ((texts updates).map TextUpdate.part).Nodup := by
  constructor
  · intro equal
    have lengths := congrArg String.length equal
    rw [length_join, length_answerText, List.map_map] at lengths
    -- the updates that bring the final texts are among the texts and together as long as all
    have ends : ∀ part, part ∈ parts updates → _ := fun part => exists_final cumulative
    choose final listed own last using ends
    let finals := (parts updates).attach.map fun part => final part.1 part.2
    have parts_finals : finals.map TextUpdate.part = parts updates := by
      simp [finals, own, Function.comp_def]
    have distinct : finals.Nodup := by
      refine List.Nodup.of_map TextUpdate.part ?_
      rw [parts_finals]
      exact nodup_parts updates
    have among : finals ⊆ texts updates := by
      intro update membership
      obtain ⟨part, -, rfl⟩ := List.mem_map.mp membership
      exact listed part.1 part.2
    obtain ⟨kept, permuted, sublist⟩ := List.subperm_of_subset distinct among
    have weights : (kept.map fun update => update.text.length).sum =
        ((texts updates).map fun update => update.text.length).sum := by
      rw [(permuted.map _).sum_eq]
      refine Eq.trans ?_ lengths.symm
      simp [finals, last, Function.comp_def]
    have all := eq_of_sublist_of_sum sublist (fun update membership =>
      Nat.pos_of_ne_zero (mt String.length_eq_zero_iff.mp (text_ne_empty membership))) weights
    rw [← all, (permuted.map TextUpdate.part).nodup_iff, parts_finals]
    exact nodup_parts updates
  · intro distinct
    rw [answerText, parts_of_nodup distinct, List.map_map]
    congr 1
    apply List.map_congr_left
    intro update membership
    obtain ⟨final, listed, own, last⟩ :=
      exists_final cumulative (mem_parts_iff.mpr ⟨update, membership, rfl⟩)
    rw [Function.comp_apply, ← last,
      List.inj_on_of_nodup_map distinct listed membership own]

end TextUpdate

open TextUpdate

/-- The Developer phase reads the whole answer exactly if at most one of its parts has a text,
and the Test Generation phase exactly if no part has more than one update with a text. -/
theorem outputs_read_parts (updates : List TextUpdate) (cumulative : Cumulative updates) :
    (extractFinalOutput (updates.map event) = answerText updates ↔
        (parts updates).length ≤ 1) ∧
      (TestGenerationContext.extractFinalOutput (updates.map event) = answerText updates ↔
        ((texts updates).map TextUpdate.part).Nodup) := by
  rw [extractFinalOutput_eq, tests_extractFinalOutput_eq]
  exact ⟨last_eq_answerText_iff cumulative, join_eq_answerText_iff cumulative⟩

def Sample.writtenParts : List TextUpdate :=
  [{ part := "first", text := "Done" }, { part := "second", text := "." }]

def Sample.streamedParts : List TextUpdate :=
  [{ part := "first", text := "Do" }, { part := "first", text := "Done" },
    { part := "second", text := "." }]

/-- The Test Generation phase reads both of the parts, the Developer phase does not. -/
theorem written_parts_read :
    answerText Sample.writtenParts = "Done." ∧
      extractFinalOutput (Sample.writtenParts.map event) ≠ answerText Sample.writtenParts ∧
      TestGenerationContext.extractFinalOutput (Sample.writtenParts.map event) =
        answerText Sample.writtenParts := by
  have read := outputs_read_parts Sample.writtenParts (by decide +kernel)
  refine ⟨by decide +kernel, ?_, read.2.mpr (by decide +kernel)⟩
  intro equal
  exact absurd (read.1.mp equal) (by decide +kernel)

/-- One phase loses the first part and the other reads the beginning of it twice. -/
theorem streamed_parts_misread :
    Cumulative Sample.streamedParts ∧ answerText Sample.streamedParts = "Done." ∧
      extractFinalOutput (Sample.streamedParts.map event) = "." ∧
      TestGenerationContext.extractFinalOutput (Sample.streamedParts.map event) = "DoDone." := by
  decide +kernel

end MultiAgents
