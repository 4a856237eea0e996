import Mathlib.Data.List.Nodup

/-!
# Maps in insertion order

A map lists its entries in the order in which their keys were first set.
Setting a key again replaces its value in place, and a key that is erased and
set once more comes last.
-/

namespace Containers

@[ext]
structure OrderedMap (κ ν : Type) where
  entries : List (κ × ν)
  nodup : (entries.map Prod.fst).Nodup

namespace OrderedMap

variable {κ ν : Type} [DecidableEq κ]

def empty : OrderedMap κ ν := ⟨[], List.nodup_nil⟩

def get? (map : OrderedMap κ ν) (key : κ) : Option ν := map.entries.lookup key

def replace (entries : List (κ × ν)) (key : κ) (value : ν) : List (κ × ν) :=
  entries.map fun entry => if entry.1 = key then (key, value) else entry

theorem keys_replace (entries : List (κ × ν)) (key : κ) (value : ν) :
    (replace entries key value).map Prod.fst = entries.map Prod.fst := by
  unfold replace
  rw [List.map_map]
  apply List.map_congr_left
  intro entry _
  by_cases same : entry.1 = key <;> simp [same]

def set (map : OrderedMap κ ν) (key : κ) (value : ν) : OrderedMap κ ν :=
  if present : key ∈ map.entries.map Prod.fst then
    ⟨replace map.entries key value, by rw [keys_replace]; exact map.nodup⟩
  else
    ⟨map.entries ++ [(key, value)], by
      rw [List.map_append]
      exact map.nodup.append (List.nodup_singleton key) (by simpa using present)⟩

def erase (map : OrderedMap κ ν) (key : κ) : OrderedMap κ ν where
  entries := map.entries.filter fun entry => entry.1 ≠ key
  nodup := map.nodup.sublist (List.filter_sublist.map Prod.fst)

def filter (map : OrderedMap κ ν) (keeps : κ → ν → Bool) : OrderedMap κ ν where
  entries := map.entries.filter fun entry => keeps entry.1 entry.2
  nodup := map.nodup.sublist (List.filter_sublist.map Prod.fst)

theorem lookup_cons_ite (first key : κ) (value : ν) (rest : List (κ × ν)) :
    ((first, value) :: rest).lookup key =
      if key = first then some value else rest.lookup key := by
  by_cases same : key = first
  · subst same
    simp
  · rw [List.lookup_cons, if_neg same, beq_false_of_ne same]

theorem lookup_eq_none {entries : List (κ × ν)} {key : κ} (absent : key ∉ entries.map Prod.fst) :
    entries.lookup key = none := by
  rw [List.lookup_eq_none_iff]
  intro entry membership
  apply bne_iff_ne.mpr
  rintro rfl
  exact absent (List.mem_map_of_mem membership)

theorem mem_entries_iff {map : OrderedMap κ ν} {key : κ} {value : ν} :
    (key, value) ∈ map.entries ↔ map.get? key = some value := by
  obtain ⟨entries, nodup⟩ := map
  unfold get?
  induction entries with
  | nil => simp
  | cons entry rest ih =>
      obtain ⟨first, held⟩ := entry
      rw [List.map_cons, List.nodup_cons] at nodup
      rw [lookup_cons_ite, List.mem_cons, ih nodup.2]
      by_cases same : key = first
      · subst same
        simp [lookup_eq_none nodup.1, eq_comm]
      · simp [same]

theorem lookup_replace (entries : List (κ × ν)) (key other : κ) (value : ν) :
    (replace entries key value).lookup other =
      if other = key then (entries.lookup key).map fun _ => value else entries.lookup other := by
  induction entries with
  | nil => simp [replace]
  | cons entry rest ih =>
      obtain ⟨first, held⟩ := entry
      have split : replace ((first, held) :: rest) key value =
          (if first = key then (key, value) else (first, held)) :: replace rest key value := rfl
      rw [split, lookup_cons_ite, lookup_cons_ite]
      by_cases replaced : first = key
      · subst replaced
        rw [if_pos rfl, lookup_cons_ite, ih]
        by_cases same : other = first <;> simp [same]
      · rw [if_neg replaced, lookup_cons_ite, ih, if_neg (Ne.symm replaced)]
        by_cases same : other = key
        · subst same
          simp [Ne.symm replaced]
        · simp [same]

@[simp]
theorem get?_empty (key : κ) : (empty : OrderedMap κ ν).get? key = none := rfl

@[simp]
theorem get?_set (map : OrderedMap κ ν) (key other : κ) (value : ν) :
    (map.set key value).get? other = if other = key then some value else map.get? other := by
  unfold set get?
  split
  · rename_i present
    obtain ⟨⟨_, held⟩, membership, rfl⟩ := List.mem_map.mp present
    have found := mem_entries_iff.mp membership
    unfold get? at found
    rw [lookup_replace, found]
    rfl
  · rename_i absent
    rw [List.lookup_append, lookup_cons_ite]
    by_cases same : other = key
    · subst same
      simp [lookup_eq_none absent]
    · simp [same]

theorem of_get?_set {map : OrderedMap κ ν} {key other : κ} {value found : ν}
    (isFound : (map.set key value).get? other = some found) :
    other = key ∧ found = value ∨ map.get? other = some found := by
  rw [get?_set] at isFound
  split at isFound
  · next same => exact .inl ⟨same, (Option.some.inj isFound).symm⟩
  · exact .inr isFound

theorem lookup_filter (entries : List (κ × ν)) (key other : κ) :
    (entries.filter fun entry => entry.1 ≠ key).lookup other =
      if other = key then none else entries.lookup other := by
  induction entries with
  | nil => simp
  | cons entry rest ih =>
      obtain ⟨first, held⟩ := entry
      rw [List.filter_cons, lookup_cons_ite]
      by_cases erased : first = key
      · subst erased
        rw [if_neg (by simp), ih]
        by_cases same : other = first <;> simp [same]
      · rw [if_pos (by simpa using erased), lookup_cons_ite, ih]
        by_cases found : other = first
        · subst found
          simp [erased]
        · simp [found]

@[simp]
theorem get?_erase (map : OrderedMap κ ν) (key other : κ) :
    (map.erase key).get? other = if other = key then none else map.get? other :=
  lookup_filter map.entries key other

theorem of_get?_erase {map : OrderedMap κ ν} {key other : κ} {found : ν}
    (isFound : (map.erase key).get? other = some found) :
    other ≠ key ∧ map.get? other = some found := by
  rw [get?_erase] at isFound
  split at isFound
  · cases isFound
  · next differs => exact ⟨differs, isFound⟩

theorem erase_of_absent {map : OrderedMap κ ν} {key : κ} (absent : map.get? key = none) :
    map.erase key = map := by
  apply OrderedMap.ext
  apply List.filter_eq_self.mpr
  rintro ⟨other, held⟩ membership
  rw [mem_entries_iff] at membership
  rw [decide_eq_true_eq]
  rintro rfl
  simp [absent] at membership

theorem cons_erase_perm {map : OrderedMap κ ν} {key : κ} {value : ν}
    (found : map.get? key = some value) :
    ((key, value) :: (map.erase key).entries).Perm map.entries := by
  have nodup (map : OrderedMap κ ν) : map.entries.Nodup := List.Nodup.of_map Prod.fst map.nodup
  have fresh : (key, value) ∉ (map.erase key).entries := by simp [mem_entries_iff]
  rw [List.perm_ext_iff_of_nodup (List.nodup_cons.mpr ⟨fresh, nodup _⟩) (nodup map)]
  rintro ⟨other, held⟩
  rw [List.mem_cons, mem_entries_iff, mem_entries_iff, get?_erase]
  by_cases same : other = key
  · subst same
    simp [found, eq_comm]
  · simp [same]

theorem lookup_map {μ : Type} (value : ν → μ) (entries : List (κ × ν)) (key : κ) :
    (entries.map fun entry => (entry.1, value entry.2)).lookup key =
      (entries.lookup key).map value := by
  induction entries with
  | nil => rfl
  | cons entry rest ih =>
      rw [List.map_cons, lookup_cons_ite, lookup_cons_ite, ih]
      split <;> rfl

theorem entries_foldl_set {α : Type} (value : α → ν) (items : List (κ × α))
    {map : OrderedMap κ ν} (nodup : (map.entries.map Prod.fst ++ items.map Prod.fst).Nodup) :
    (items.foldl (fun map item => map.set item.1 (value item.2)) map).entries =
      map.entries ++ items.map fun item => (item.1, value item.2) := by
  induction items generalizing map with
  | nil => simp
  | cons item items ih =>
      have absent : item.1 ∉ map.entries.map Prod.fst := fun present =>
        (List.nodup_append.mp nodup).2.2 _ present _ (by simp) rfl
      have appended : (map.set item.1 (value item.2)).entries =
          map.entries ++ [(item.1, value item.2)] := by rw [set, dif_neg absent]
      rw [List.foldl_cons, ih (by simpa [appended] using nodup), appended]
      simp

/-- Keys that are all new come in the order in which they are set. -/
theorem entries_foldl_set_empty {α : Type} (value : α → ν) {items : List (κ × α)}
    (nodup : (items.map Prod.fst).Nodup) :
    (items.foldl (fun map item => map.set item.1 (value item.2)) empty).entries =
      items.map fun item => (item.1, value item.2) :=
  entries_foldl_set value items nodup

/-- Keep an item under its key, if it has one. -/
def keep {α : Type} (key? : α → Option κ) (map : OrderedMap κ α) (item : α) : OrderedMap κ α :=
  (key? item).elim map (map.set · item)

/-- Of the items with a key the last one is kept. -/
theorem get?_foldl_keep {α : Type} (key? : α → Option κ) (items : List α) (map : OrderedMap κ α)
    (key : κ) : (items.foldl (keep key?) map).get? key =
      (items.reverse.find? fun item => key? item = some key).or (map.get? key) := by
  induction items generalizing map with
  | nil => rfl
  | cons item items ih =>
      rw [List.foldl_cons, ih, List.reverse_cons, List.find?_append, Option.or_assoc, keep]
      cases named : key? item with
      | none => simp [named]
      | some name => by_cases same : key = name <;> simp [named, same, eq_comm]

theorem get?_foldl_erase (keys : List κ) (map : OrderedMap κ ν) (key : κ) :
    (keys.foldl erase map).get? key = if key ∈ keys then none else map.get? key := by
  induction keys generalizing map with
  | nil => simp
  | cons first keys ih =>
      rw [List.foldl_cons, ih, get?_erase]
      by_cases same : key = first <;> simp [same]

/-- Maps with the same measures hold them in some order. -/
theorem perm_iff_get? {μ : Type} (measure : ν → μ) {first second : OrderedMap κ ν} :
    (first.entries.map fun entry => (entry.1, measure entry.2)).Perm
        (second.entries.map fun entry => (entry.1, measure entry.2)) ↔
      ∀ key, (first.get? key).map measure = (second.get? key).map measure := by
  have nodup (map : OrderedMap κ ν) :
      (map.entries.map fun entry => (entry.1, measure entry.2)).Nodup :=
    List.Nodup.of_map Prod.fst (by rw [List.map_map]; exact map.nodup)
  have membership (map : OrderedMap κ ν) (key : κ) (value : μ) :
      (key, value) ∈ map.entries.map (fun entry => (entry.1, measure entry.2)) ↔
        (map.get? key).map measure = some value := by
    rw [List.mem_map, Option.map_eq_some_iff]
    constructor
    · rintro ⟨⟨_, held⟩, present, ⟨⟩⟩
      exact ⟨held, mem_entries_iff.mp present, rfl⟩
    · rintro ⟨held, found, rfl⟩
      exact ⟨(key, held), mem_entries_iff.mpr found, rfl⟩
  rw [List.perm_ext_iff_of_nodup (nodup first) (nodup second)]
  simp only [Prod.forall, membership]
  exact forall_congr' fun key => Option.ext_iff.symm

theorem mem_keys_iff {map : OrderedMap κ ν} {key : κ} :
    key ∈ map.entries.map Prod.fst ↔ (map.get? key).isSome = true := by
  rw [Option.isSome_iff_exists, List.mem_map]
  constructor
  · rintro ⟨⟨_, value⟩, membership, rfl⟩
    exact ⟨value, mem_entries_iff.mp membership⟩
  · rintro ⟨value, found⟩
    exact ⟨(key, value), mem_entries_iff.mpr found, rfl⟩

theorem mem_keys_filter_iff {map : OrderedMap κ ν} {passes : κ × ν → Bool} {key : κ} :
    key ∈ (map.entries.filter passes).map Prod.fst ↔
      ∃ value, map.get? key = some value ∧ passes (key, value) = true := by
  rw [List.mem_map]
  constructor
  · rintro ⟨⟨_, value⟩, membership, rfl⟩
    rw [List.mem_filter, mem_entries_iff] at membership
    exact ⟨value, membership⟩
  · rintro ⟨value, found, kept⟩
    exact ⟨(key, value), List.mem_filter.mpr ⟨mem_entries_iff.mpr found, kept⟩, rfl⟩

/-- At most one entry has the key. -/
theorem flatMap_filter_key {β : Type} (map : OrderedMap κ ν) (key : κ) (items : ν → List β) :
    (map.entries.filter fun entry => entry.1 = key).flatMap (fun entry => items entry.2) =
      (map.get? key).elim [] items := by
  obtain ⟨entries, nodup⟩ := map
  unfold get?
  induction entries with
  | nil => rfl
  | cons entry rest ih =>
      obtain ⟨first, held⟩ := entry
      obtain ⟨fresh, nodupRest⟩ := List.nodup_cons.mp nodup
      rw [lookup_cons_ite, List.filter_cons]
      by_cases same : first = key
      · subst same
        have others := ih nodupRest
        dsimp only at others
        rw [lookup_eq_none fresh] at others
        simp [others]
      · simpa [same, Ne.symm same] using ih nodupRest

end OrderedMap

end Containers
