import MultiAgents.Text.Path

/-!
# Directories and prefixes of texts

The text of a normalized path starts with that of a directory exactly if its
parts are those of the directory, the last of which may be continued.  So a text
that starts with the text of a directory need not lead into it.
-/

namespace Text

section Separated

variable {α : Type*} {separator : α}

/-- What is free of the separator ends before it. -/
theorem prefix_append_separator_iff {name first rest : List α} (whole : separator ∉ name) :
    name <+: first ++ separator :: rest ↔ name <+: first := by
  induction name generalizing first with
  | nil => simp
  | cons item others ih =>
      rw [List.mem_cons, not_or] at whole
      cases first with
      | nil => simp [List.cons_prefix_cons, Ne.symm whole.1]
      | cons head tail =>
          rw [List.cons_append, List.cons_prefix_cons, List.cons_prefix_cons,
            ih whole.2]

theorem append_separator_prefix_iff {name first after rest : List α} (whole : separator ∉ name)
    (alsoWhole : separator ∉ first) :
    name ++ separator :: after <+: first ++ separator :: rest ↔
      name = first ∧ after <+: rest := by
  induction name generalizing first with
  | nil =>
      cases first with
      | nil => simp [List.cons_prefix_cons]
      | cons head tail =>
          rw [List.mem_cons, not_or] at alsoWhole
          simp [List.cons_prefix_cons, alsoWhole.1]
  | cons item others ih =>
      rw [List.mem_cons, not_or] at whole
      cases first with
      | nil => simp [List.cons_prefix_cons, Ne.symm whole.1]
      | cons head tail =>
          rw [List.mem_cons, not_or] at alsoWhole
          rw [List.cons_append, List.cons_append, List.cons_prefix_cons,
            ih whole.2 alsoWhole.2, List.cons.injEq, and_assoc]

theorem intercalate_concat {parts : List (List α)} (nonempty : parts ≠ []) (last : List α) :
    [separator].intercalate (parts ++ [last]) =
      [separator].intercalate parts ++ separator :: last := by
  induction parts with
  | nil => exact absurd rfl nonempty
  | cons part rest ih =>
      cases rest with
      | nil => simp
      | cons next more =>
          rw [List.cons_append, List.intercalate_cons_of_ne_nil (by simp),
            ih (by simp), List.intercalate_cons_cons]
          simp only [List.append_assoc]

/-- A text of nonempty parts does not end with the separator. -/
theorem getLast?_intercalate {parts : List (List α)} (nonempty : parts ≠ [])
    (whole : ∀ part ∈ parts, part ≠ [] ∧ separator ∉ part) :
    ∃ last, ([separator].intercalate parts).getLast? = some last ∧ last ≠ separator := by
  rcases List.eq_nil_or_concat parts with rfl | ⟨before, final, rfl⟩
  · exact absurd rfl nonempty
  obtain ⟨present, free⟩ := whole final (by simp)
  obtain ⟨last, ends⟩ := Option.isSome_iff_exists.mp (List.getLast?_isSome.mpr present)
  refine ⟨last, ?_, fun same => free (same ▸ List.mem_of_getLast? ends)⟩
  rw [List.concat_eq_append]
  by_cases single : before = []
  · rw [single, List.nil_append, List.intercalate_singleton, ends]
  · rw [intercalate_concat single, List.append_cons, List.getLast?_append, ends]
    rfl

/-- The parts before the last are the same, and the last one may be continued. -/
theorem intercalate_prefix_iff {before all : List (List α)} {name : List α}
    (wholeBefore : ∀ part ∈ before, separator ∉ part) (whole : separator ∉ name)
    (wholeAll : ∀ part ∈ all, separator ∉ part) (nonempty : all ≠ []) :
    [separator].intercalate (before ++ [name]) <+: [separator].intercalate all ↔
      ∃ suffix rest, all = before ++ (name ++ suffix) :: rest := by
  induction before generalizing all with
  | nil =>
      obtain ⟨first, others, rfl⟩ := List.exists_cons_of_ne_nil nonempty
      have starts : [separator].intercalate ([] ++ [name]) <+:
          [separator].intercalate (first :: others) ↔ name <+: first := by
        cases others with
        | nil => simp
        | cons second more =>
            rw [List.nil_append, List.intercalate_singleton, List.intercalate_cons_cons,
              List.append_assoc, List.singleton_append, prefix_append_separator_iff whole]
      rw [starts]
      constructor
      · rintro ⟨suffix, rfl⟩
        exact ⟨suffix, others, rfl⟩
      · rintro ⟨suffix, rest, same⟩
        obtain ⟨rfl, _⟩ := List.cons.inj same
        exact List.prefix_append name suffix
  | cons part before ih =>
      obtain ⟨first, others, rfl⟩ := List.exists_cons_of_ne_nil nonempty
      have wholePart := wholeBefore part List.mem_cons_self
      have wholeFirst := wholeAll first List.mem_cons_self
      have text : [separator].intercalate (part :: before ++ [name]) =
          part ++ separator :: [separator].intercalate (before ++ [name]) := by
        obtain ⟨next, more, split⟩ := List.exists_cons_of_ne_nil
          (List.append_ne_nil_of_right_ne_nil before (List.cons_ne_nil name []))
        rw [List.cons_append, split, List.intercalate_cons_cons, List.append_assoc,
          List.singleton_append]
      rw [text]
      cases others with
      | nil =>
          constructor
          · intro starts
            rw [List.intercalate_singleton] at starts
            exact absurd (starts.subset (by simp)) wholeFirst
          · rintro ⟨suffix, rest, same⟩
            simp at same
      | cons second more =>
          rw [List.intercalate_cons_cons, List.append_assoc, List.singleton_append,
            append_separator_prefix_iff wholePart wholeFirst,
            ih
              (fun other membership => wholeBefore other (List.mem_cons_of_mem part membership))
              (fun other membership => wholeAll other (List.mem_cons_of_mem first membership))
              (List.cons_ne_nil second more)]
          simp only [List.cons_append, List.cons.injEq]
          constructor
          · rintro ⟨rfl, suffix, rest, same⟩
            exact ⟨suffix, rest, rfl, same⟩
          · rintro ⟨suffix, rest, rfl, same⟩
            exact ⟨rfl, suffix, rest, same⟩

end Separated

namespace Path

/-- The parts as they are written, with an empty one for a slash at the end. -/
def written (path : List Char) : List Part :=
  let close : List Part := if path.getLast? = some '/' then [[]] else []
  match parts path with
  | [] => if isAbsolute path then [[]] else here :: close
  | found => found ++ close

theorem normalize_eq (path : List Char) : normalize path =
    (if isAbsolute path then ['/'] else []) ++ ['/'].intercalate (written path) := by
  unfold normalize written
  cases found : parts path with
  | nil => cases isAbsolute path <;> by_cases closed : path.getLast? = some '/' <;> simp [closed]
  | cons first others =>
      by_cases closed : path.getLast? = some '/'
      · simp only [closed, if_true]
        rw [intercalate_concat (List.cons_ne_nil first others), List.append_assoc]
      · simp [closed]

theorem written_ne_nil (path : List Char) : written path ≠ [] := by
  unfold written
  cases parts path with
  | nil => cases isAbsolute path <;> simp
  | cons first others => simp

theorem mem_written {path : List Char} {part : Part} (found : part ∈ written path) :
    part ∈ parts path ∨ part = [] ∨ part = here := by
  have closing : part ∈ (if path.getLast? = some '/' then [[]] else [] : List Part) →
      part = [] := by
    split <;> simp
  unfold written at found
  dsimp only at found
  cases listed : parts path with
  | nil =>
      rw [listed] at found
      by_cases absolute : isAbsolute path = true
      · rw [if_pos absolute] at found
        exact .inr (.inl (List.mem_singleton.mp found))
      · rw [if_neg absolute] at found
        rcases List.mem_cons.mp found with dot | close
        · exact .inr (.inr dot)
        · exact .inr (.inl (closing close))
  | cons first others =>
      rw [listed] at found
      rcases List.mem_append.mp found with named | close
      · exact .inl named
      · exact .inr (.inl (closing close))

theorem not_mem_of_mem_written {path : List Char} {part : Part} (found : part ∈ written path) :
    '/' ∉ part := by
  rcases mem_written found with named | rfl | rfl
  · exact not_mem_of_mem_parts named
  · decide
  · decide

theorem written_of_ne_nil {path : List Char} (nonempty : parts path ≠ []) :
    written path = parts path ++ if path.getLast? = some '/' then [[]] else [] := by
  obtain ⟨first, others, listed⟩ := List.exists_cons_of_ne_nil nonempty
  unfold written
  rw [listed]

/-- A slash at the end of a normalized path was there before. -/
theorem getLast?_normalize {path : List Char} (nonempty : parts path ≠ [])
    (unclosed : path.getLast? ≠ some '/') : (normalize path).getLast? ≠ some '/' := by
  obtain ⟨last, ends, different⟩ := getLast?_intercalate nonempty fun part membership =>
    ⟨(resolved_parts path).nonempty membership, not_mem_of_mem_parts membership⟩
  rw [normalize_eq, written_of_ne_nil nonempty, if_neg unclosed, List.append_nil,
    List.getLast?_append, ends]
  simpa using different

/-- A text goes on from the directory that it is written after. -/
theorem parts_append_text {base : List Char} (nonempty : base ≠ []) (text : List Char) :
    parts (base ++ '/' :: text) =
      (text.splitOn '/').foldl (enter (isAbsolute base)) (parts base) := by
  have absolute : isAbsolute (base ++ '/' :: text) = isAbsolute base := by
    obtain ⟨char, rest, rfl⟩ := List.exists_cons_of_ne_nil nonempty
    simp [isAbsolute]
  unfold parts resolve
  rw [absolute, List.splitOn_append_cons_self, List.foldl_append]

/-- A slash at the end is not part of a name. -/
theorem written_eq_iff {path : List Char} {before : List Part} {name : Part} (plain : Plain name) :
    (∃ suffix rest, written path = before ++ (name ++ suffix) :: rest) ↔
      ∃ suffix rest, parts path = before ++ (name ++ suffix) :: rest := by
  have continued : ∀ suffix, name ++ suffix ≠ [] := fun suffix none =>
    plain.nonempty (List.append_eq_nil_iff.mp none).1
  constructor
  · rintro ⟨suffix, rest, same⟩
    by_cases nowhere : parts path = []
    · -- Such a path is written as an empty part or a dot.
      have listed : name ++ suffix ∈ written path := by simp [same]
      rcases mem_written listed with named | none | dot
      · rw [nowhere] at named
        cases named
      · exact absurd none (continued suffix)
      · obtain ⟨first, more, rfl⟩ := List.exists_cons_of_ne_nil plain.nonempty
        obtain ⟨rfl, last⟩ := List.cons.inj dot
        obtain ⟨rfl, _⟩ := List.append_eq_nil_iff.mp last
        exact absurd rfl plain.notHere
    · rw [written_of_ne_nil nowhere] at same
      by_cases closed : path.getLast? = some '/'
      · rw [if_pos closed] at same
        rcases List.eq_nil_or_concat rest with rfl | ⟨others, last, rfl⟩
        · obtain ⟨_, last⟩ := List.append_inj' same rfl
          exact absurd (List.cons.inj last).1.symm (continued suffix)
        · refine ⟨suffix, others, ?_⟩
          rw [List.concat_eq_append, ← List.cons_append, ← List.append_assoc] at same
          exact (List.append_inj' same rfl).1
      · rw [if_neg closed, List.append_nil] at same
        exact ⟨suffix, rest, same⟩
  · rintro ⟨suffix, rest, same⟩
    rw [written_of_ne_nil (by simp [same]), same]
    exact ⟨suffix, _, by rw [List.append_assoc, List.cons_append]⟩

/-- The text of a path starts with that of a directory if the parts do, the last of which may
be continued. -/
theorem normalize_prefix_iff {directory path : List Char} {before : List Part} {name : Part}
    (unclosed : directory.getLast? ≠ some '/') (listed : parts directory = before ++ [name])
    (plain : Plain name) (absolute : isAbsolute path = isAbsolute directory) :
    normalize directory <+: normalize path ↔
      ∃ suffix rest, parts path = before ++ (name ++ suffix) :: rest := by
  have place : written directory = before ++ [name] := by
    rw [written_of_ne_nil (by simp [listed]), if_neg unclosed, listed, List.append_nil]
  have whole : ∀ part ∈ before ++ [name], '/' ∉ part := fun part membership =>
    not_mem_of_mem_parts (listed ▸ membership)
  rw [normalize_eq, normalize_eq, absolute, List.prefix_append_right_inj, place,
    intercalate_prefix_iff (fun part membership => whole part (by simp [membership]))
      (whole name (by simp)) (fun _ => not_mem_of_mem_written) (written_ne_nil path),
    written_eq_iff plain]

def locate (workingDirectory : List Part) (path : List Char) : List Part :=
  if isAbsolute path then parts path else resolve true (workingDirectory ++ parts path)

/-- Names after the parts of a directory lead on from it. -/
theorem locate_append {workingDirectory : List Part} {directory path : List Char}
    (absolute : isAbsolute path = isAbsolute directory) {names : List Part}
    (plain : ∀ name ∈ names, Plain name) (split : parts path = parts directory ++ names) :
    locate workingDirectory path = locate workingDirectory directory ++ names := by
  unfold locate
  rw [absolute, split]
  split
  · rfl
  · rw [← List.append_assoc, resolve, List.foldl_append, foldl_plain _ _ names plain]
    rfl

/-- A name that is continued is a name. -/
theorem Plain.append {name : Part} (plain : Plain name) (suffix : Part) :
    Plain (name ++ suffix) := by
  obtain ⟨nonempty, notHere, notUp⟩ := plain
  refine ⟨by simp [nonempty], ?_, ?_⟩
  · intro same
    rcases name with _ | ⟨first, rest⟩
    · exact nonempty rfl
    · simp [here] at same notHere
      exact notHere same.1 same.2.1
  · intro same
    rcases name with _ | ⟨first, _ | ⟨second, rest⟩⟩
    · exact nonempty rfl
    · simp [up, here] at same notHere
      exact notHere same.1
    · simp [up] at same notUp
      exact notUp same.1 same.2.1 same.2.2.1

/-- What follows a name are names. -/
theorem Resolved.plain_of_plain {absolute : Bool} {before rest : List Part} {name : Part}
    (resolved : Resolved absolute (before ++ name :: rest)) (plain : Plain name) :
    ∀ other ∈ rest, Plain other := by
  obtain ⟨steps, names, split, named, _⟩ := resolved
  intro other membership
  rcases List.append_eq_append_iff.mp split with ⟨climbed, repeated, later⟩ | ⟨more, _, later⟩
  · cases climbed with
    | nil =>
        rw [List.nil_append] at later
        exact named other (later ▸ List.mem_cons_of_mem name membership)
    | cons first others =>
        obtain ⟨rfl, _⟩ := List.cons.inj later
        have climbs : name ∈ List.replicate steps up := by simp [repeated]
        exact absurd (List.eq_of_mem_replicate climbs) plain.notUp
  · exact named other (by simp [later, membership])

end Path

end Text
