import Mathlib.Data.List.Basic

/-!
# Paths

Paths as texts, normalized and joined as the path module of the runtime does it
on a system with slashes.  What a path denotes are its parts, with `.` and `..`
resolved; normalizing it leaves them as they are.
-/

namespace Text.Path

abbrev Part := List Char

def here : Part := ['.']

def up : Part := ['.', '.']

def isAbsolute (path : List Char) : Bool := path.head? == some '/'

/-- Go on from the parts so far; above the root there is nothing but the root. -/
def enter (absolute : Bool) (parts : List Part) (part : Part) : List Part :=
  if part = [] ∨ part = here then parts
  else if part = up then
    match parts.getLast? with
    | some last => if last = up then parts ++ [part] else parts.dropLast
    | none => if absolute then parts else parts ++ [part]
  else parts ++ [part]

def resolve (absolute : Bool) (parts : List Part) : List Part := parts.foldl (enter absolute) []

def parts (path : List Char) : List Part := resolve (isAbsolute path) (path.splitOn '/')

/-- `path.normalize`; a slash at the end is kept. -/
def normalize (path : List Char) : List Char :=
  let root : List Char := if isAbsolute path then ['/'] else []
  let close : List Char := if path.getLast? = some '/' then ['/'] else []
  match parts path with
  | [] => if isAbsolute path then root else here ++ close
  | found => root ++ ['/'].intercalate found ++ close

/-- `path.join`. -/
def join (names : List String) : String :=
  let given := names.filter fun text => text != ""
  if given = [] then "."
  else String.ofList (normalize (['/'].intercalate (given.map String.toList)))

/-- `path.extname` of a name; a dot at its start does not count. -/
def extname (name : List Char) : List Char :=
  match name.reverse.span (· ≠ '.') with
  | (extension, _ :: before) => if before = [] ∨ name = up then [] else '.' :: extension.reverse
  | (_, []) => []

example : extname "app.test.ts".toList = ".ts".toList ∧ extname ".env".toList = [] := by decide

structure Plain (part : Part) : Prop where
  nonempty : part ≠ []
  notHere : part ≠ here
  notUp : part ≠ up

/-- Names, after steps upwards that only a relative path can have. -/
def Resolved (absolute : Bool) (parts : List Part) : Prop :=
  ∃ steps names, parts = List.replicate steps up ++ names ∧ (∀ name ∈ names, Plain name) ∧
    (absolute = true → steps = 0)

theorem enter_plain (absolute : Bool) (parts : List Part) {part : Part} (plain : Plain part) :
    enter absolute parts part = parts ++ [part] := by
  simp [enter, plain.nonempty, plain.notHere, plain.notUp]

theorem enter_up_of_up {absolute : Bool} (steps : Nat) (relative : absolute = false) :
    enter absolute (List.replicate steps up) up = List.replicate (steps + 1) up := by
  rw [List.replicate_succ']
  cases steps with
  | zero => simp [enter, up, here, relative]
  | succ steps => simp [enter, up, here, List.replicate_succ']

theorem resolved_enter {absolute : Bool} {parts : List Part} (resolved : Resolved absolute parts)
    (part : Part) : Resolved absolute (enter absolute parts part) := by
  by_cases skipped : part = [] ∨ part = here
  · simpa [enter, skipped] using resolved
  obtain ⟨steps, names, rfl, plain, rooted⟩ := resolved
  by_cases upwards : part = up
  · subst upwards
    rcases List.eq_nil_or_concat names with rfl | ⟨rest, last, rfl⟩
    · cases absolute with
      | true =>
          obtain rfl := rooted rfl
          exact ⟨0, [], by simp [enter, up, here], by simp, fun _ => rfl⟩
      | false =>
          refine ⟨steps + 1, [], ?_, by simp, nofun⟩
          simpa using enter_up_of_up steps rfl
    · refine ⟨steps, rest, ?_, ?_, rooted⟩
      · have notUp : last ≠ up := (plain last (by simp)).notUp
        have reached : (List.replicate steps up ++ (rest ++ [last])).getLast? = some last := by
          rw [← List.append_assoc, List.getLast?_concat]
        unfold enter
        rw [if_neg skipped, if_pos rfl, List.concat_eq_append, reached]
        simp only [notUp, if_false]
        rw [← List.append_assoc, List.dropLast_concat]
      · intro name membership
        exact plain name (by simp [membership])
  · have named : Plain part := ⟨fun empty => skipped (.inl empty), fun same => skipped (.inr same),
      upwards⟩
    rw [enter_plain absolute _ named]
    refine ⟨steps, names ++ [part], by rw [List.append_assoc], ?_, rooted⟩
    intro name membership
    rcases List.mem_append.mp membership with earlier | last
    · exact plain name earlier
    · obtain rfl : name = part := by simpa using last
      exact named

theorem resolved_foldl {absolute : Bool} (added : List Part) {parts : List Part}
    (resolved : Resolved absolute parts) :
    Resolved absolute (added.foldl (enter absolute) parts) := by
  induction added generalizing parts with
  | nil => exact resolved
  | cons part rest ih => exact ih (resolved_enter resolved part)

theorem resolved_parts (path : List Char) : Resolved (isAbsolute path) (parts path) :=
  resolved_foldl _ ⟨0, [], rfl, by simp, fun _ => rfl⟩

theorem foldl_plain (absolute : Bool) (start names : List Part)
    (plain : ∀ name ∈ names, Plain name) :
    names.foldl (enter absolute) start = start ++ names := by
  induction names generalizing start with
  | nil => simp
  | cons name rest ih =>
      rw [List.foldl_cons, enter_plain absolute start (plain name (by simp)),
        ih _ fun other membership => plain other (by simp [membership])]
      simp

theorem foldl_up {absolute : Bool} (steps : Nat) (relative : absolute = false) :
    (List.replicate steps up).foldl (enter absolute) [] = List.replicate steps up := by
  induction steps with
  | zero => rfl
  | succ steps ih =>
      rw [List.replicate_succ', List.foldl_append, ih]
      simpa [List.replicate_succ'] using enter_up_of_up steps relative

/-- Resolving what is resolved changes nothing. -/
theorem resolve_resolved {absolute : Bool} {parts : List Part}
    (resolved : Resolved absolute parts) : resolve absolute parts = parts := by
  obtain ⟨steps, names, rfl, plain, rooted⟩ := resolved
  unfold resolve
  rw [List.foldl_append]
  cases absolute with
  | true =>
      obtain rfl := rooted rfl
      exact foldl_plain true _ names plain
  | false => rw [foldl_up steps rfl, foldl_plain false _ names plain]

theorem not_mem_of_mem_splitOn {path part : List Char} (found : part ∈ path.splitOn '/') :
    '/' ∉ part := by
  induction path generalizing part with
  | nil =>
      obtain rfl : part = [] := by simpa using found
      simp
  | cons char rest ih =>
      rw [List.splitOn_cons_eq_if_modifyHead] at found
      by_cases slash : char = '/'
      · subst slash
        rcases List.mem_cons.mp (by simpa using found) with rfl | later
        · simp
        · exact ih later
      · rw [if_neg (by simpa using slash)] at found
        cases split : rest.splitOn '/' with
        | nil => exact absurd split (List.splitOn_ne_nil _ _)
        | cons first others =>
            rw [split] at found ih
            rcases List.mem_cons.mp found with rfl | later
            · have untouched := ih (List.mem_cons_self (l := others))
              simp [untouched, Ne.symm slash]
            · exact ih (List.mem_cons_of_mem _ later)

theorem mem_enter {absolute : Bool} {parts : List Part} {part found : Part}
    (membership : found ∈ enter absolute parts part) : found ∈ parts ∨ found = part := by
  unfold enter at membership
  split at membership
  · exact .inl membership
  split at membership
  · split at membership
    · split at membership
      · simpa using membership
      · exact .inl (List.dropLast_subset _ membership)
    · split at membership
      · exact .inl membership
      · simpa using membership
  · simpa using membership

theorem mem_foldl_enter {absolute : Bool} {added parts : List Part} {found : Part}
    (membership : found ∈ added.foldl (enter absolute) parts) :
    found ∈ parts ∨ found ∈ added := by
  induction added generalizing parts with
  | nil => exact .inl membership
  | cons part rest ih =>
      rcases ih membership with entered | later
      · rcases mem_enter entered with earlier | rfl
        · exact .inl earlier
        · exact .inr (by simp)
      · exact .inr (by simp [later])

theorem not_mem_of_mem_parts {path : List Char} {part : Part} (found : part ∈ parts path) :
    '/' ∉ part := by
  rcases mem_foldl_enter found with none | listed
  · cases none
  · exact not_mem_of_mem_splitOn listed

theorem enter_nil (absolute : Bool) (parts : List Part) : enter absolute parts [] = parts := by
  simp [enter]

/-- Slashes around a text do not change what it resolves to. -/
theorem resolve_slashes (absolute before after : Bool) (text : List Char) :
    resolve absolute (((if before then ['/'] else []) ++ text ++
      (if after then ['/'] else [])).splitOn '/') = resolve absolute (text.splitOn '/') := by
  have closed : resolve absolute ((text ++ if after then ['/'] else []).splitOn '/') =
      resolve absolute (text.splitOn '/') := by
    cases after with
    | false => simp
    | true =>
        simp only [if_true]
        rw [List.splitOn_append_cons_self, resolve, List.foldl_append]
        exact enter_nil absolute _
  cases before with
  | false => simpa using closed
  | true =>
      rw [← closed, List.append_assoc]
      have opened := List.splitOn_append_cons_self (a := '/') []
        (text ++ if after then ['/'] else [])
      simp only [List.nil_append, List.splitOn_nil] at opened
      simp only [if_true, List.singleton_append]
      rw [opened, resolve, List.foldl_append]
      rfl

theorem Resolved.nonempty {absolute : Bool} {parts : List Part}
    (resolved : Resolved absolute parts) {part : Part} (found : part ∈ parts) : part ≠ [] := by
  obtain ⟨steps, names, rfl, plain, _⟩ := resolved
  rcases List.mem_append.mp found with climbs | named
  · rw [List.eq_of_mem_replicate climbs]
    simp [up]
  · exact (plain part named).nonempty

theorem isAbsolute_intercalate {first : Part} {others : List Part} (nonempty : first ≠ [])
    (plain : '/' ∉ first) (after : List Char) :
    isAbsolute (['/'].intercalate (first :: others) ++ after) = false := by
  obtain ⟨char, rest, rfl⟩ := List.exists_cons_of_ne_nil nonempty
  have different : char ≠ '/' := fun same => plain (by simp [same])
  cases others <;> simp [isAbsolute, List.intercalate, different]

theorem isAbsolute_normalize (path : List Char) :
    isAbsolute (normalize path) = isAbsolute path := by
  unfold normalize
  cases absolute : isAbsolute path with
  | true => cases parts path <;> simp [isAbsolute]
  | false =>
      cases found : parts path with
      | nil => simp [isAbsolute, here]
      | cons first others =>
          have listed : first ∈ parts path := by simp [found]
          simpa using isAbsolute_intercalate ((resolved_parts path).nonempty listed)
            (not_mem_of_mem_parts listed) _

/-- Normalizing a path does not change what it denotes. -/
theorem parts_normalize (path : List Char) : parts (normalize path) = parts path := by
  have same : parts (normalize path) =
      resolve (isAbsolute path) ((normalize path).splitOn '/') := by
    rw [parts, isAbsolute_normalize]
  rw [same]
  cases found : parts path with
  | nil =>
      unfold normalize
      rw [found]
      cases isAbsolute path with
      | true => rfl
      | false =>
          have dropped := resolve_slashes false false (path.getLast? = some '/') here
          have nowhere : resolve false (here.splitOn '/') = [] := rfl
          simpa [nowhere] using dropped
  | cons first others =>
      have text : normalize path = (if isAbsolute path then ['/'] else []) ++
          ['/'].intercalate (parts path) ++
            (if decide (path.getLast? = some '/') then ['/'] else []) := by
        unfold normalize
        rw [found]
        simp
      rw [text, resolve_slashes, List.splitOn_intercalate _ fun _ => not_mem_of_mem_parts,
        resolve_resolved (resolved_parts path), found]
      rw [found]
      simp

/-- The path leads to a place below a directory. -/
def Inside (root path : String) : Prop :=
  isAbsolute path.toList = isAbsolute root.toList ∧
    ∃ names, names ≠ [] ∧ (∀ name ∈ names, Plain name) ∧
      parts path.toList = parts root.toList ++ names

theorem parts_append (base name : List Char) (nonempty : base ≠ []) (plain : Plain name)
    (whole : '/' ∉ name) : parts (base ++ '/' :: name) = parts base ++ [name] := by
  have absolute : isAbsolute (base ++ '/' :: name) = isAbsolute base := by
    obtain ⟨char, rest, rfl⟩ := List.exists_cons_of_ne_nil nonempty
    simp [isAbsolute]
  unfold parts
  rw [absolute, List.splitOn_append_cons_self, List.splitOn_eq_singleton whole, resolve,
    List.foldl_append]
  exact enter_plain _ _ plain

/-- A name joined to a directory is inside it. -/
theorem inside_join (root name : String) (given : root ≠ "") (plain : Plain name.toList)
    (whole : '/' ∉ name.toList) : Inside root (join [root, name]) := by
  have named : name ≠ "" := by
    rintro rfl
    exact plain.nonempty rfl
  have nonempty : root.toList ≠ [] := by simpa using given
  have text : (join [root, name]).toList = normalize (root.toList ++ '/' :: name.toList) := by
    simp [join, given, named, List.intercalate]
  refine ⟨?_, [name.toList], by simp, by simpa using plain, ?_⟩
  · rw [text, isAbsolute_normalize]
    obtain ⟨char, rest, split⟩ := List.exists_cons_of_ne_nil nonempty
    simp [isAbsolute, split]
  · rw [text, parts_normalize, parts_append _ _ nonempty plain whole]

theorem Inside.nonempty {root path : String} (inside : Inside root path) :
    path ≠ "" := by
  rintro rfl
  obtain ⟨_, names, nonempty, _, located⟩ := inside
  have nowhere : parts "".toList = [] := rfl
  rw [nowhere] at located
  exact nonempty (List.append_eq_nil_iff.mp located.symm).2

end Text.Path
