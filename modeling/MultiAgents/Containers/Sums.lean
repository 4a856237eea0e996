import Mathlib.Algebra.BigOperators.Group.List.Basic
import Mathlib.Tactic.Abel
import MultiAgents.Containers.OrderedMap

/-!
# Sums over the values of a map

Setting a key adds to the sum what the value of the key grows by.  Counts are
added up under keys, and items are grouped by keys.
-/

namespace Containers.OrderedMap

variable {κ ν μ : Type} [AddCommMonoid μ]

def sum (map : OrderedMap κ ν) (measure : ν → μ) : μ :=
  (map.entries.map fun entry => measure entry.2).sum

variable [DecidableEq κ]

theorem replace_of_absent {entries : List (κ × ν)} {key : κ}
    (absent : key ∉ entries.map Prod.fst) (value : ν) : replace entries key value = entries := by
  unfold replace
  conv_rhs => rw [← List.map_id entries]
  apply List.map_congr_left
  intro entry membership
  rw [if_neg, id]
  rintro rfl
  exact absent (List.mem_map_of_mem membership)

theorem sum_replace (measure : ν → μ) {entries : List (κ × ν)} {key : κ} {held value : ν}
    (nodup : (entries.map Prod.fst).Nodup) (found : entries.lookup key = some held) {added : μ}
    (grown : measure value = measure held + added) :
    ((replace entries key value).map fun entry => measure entry.2).sum =
      (entries.map fun entry => measure entry.2).sum + added := by
  induction entries with
  | nil => cases found
  | cons entry rest ih =>
      obtain ⟨first, content⟩ := entry
      rw [List.map_cons, List.nodup_cons] at nodup
      rw [lookup_cons_ite] at found
      have split : replace ((first, content) :: rest) key value =
          (if first = key then (key, value) else (first, content)) :: replace rest key value := rfl
      rw [split, List.map_cons, List.map_cons, List.sum_cons, List.sum_cons]
      by_cases same : key = first
      · subst same
        rw [if_pos rfl] at found ⊢
        cases found
        rw [replace_of_absent nodup.1]
        simp only [grown]
        abel
      · rw [if_neg same] at found
        rw [if_neg (Ne.symm same), ih nodup.2 found]
        simp only [add_assoc]

theorem sum_set_of_found {map : OrderedMap κ ν} {key : κ} {held value : ν} (measure : ν → μ)
    (found : map.get? key = some held) {added : μ} (grown : measure value = measure held + added) :
    (map.set key value).sum measure = map.sum measure + added := by
  have present : key ∈ map.entries.map Prod.fst :=
    List.mem_map_of_mem (mem_entries_iff.mpr found)
  unfold sum
  rw [set, dif_pos present]
  exact sum_replace measure map.nodup found grown

theorem sum_set_of_absent {map : OrderedMap κ ν} {key : κ} (measure : ν → μ)
    (absent : map.get? key = none) (value : ν) :
    (map.set key value).sum measure = map.sum measure + measure value := by
  have missing : key ∉ map.entries.map Prod.fst := by
    rw [mem_keys_iff, absent]
    exact Bool.false_ne_true
  unfold sum
  rw [set, dif_neg missing]
  simp

theorem sum_eq_of_get? {measure : ν → μ} {first second : OrderedMap κ ν}
    (same : ∀ key, (first.get? key).map measure = (second.get? key).map measure) :
    first.sum measure = second.sum measure := by
  have sums := (((perm_iff_get? measure).mpr same).map Prod.snd).sum_eq
  simpa [sum, List.map_map, Function.comp_def] using sums

theorem sum_erase_of_found {map : OrderedMap κ ν} {key : κ} {held : ν} (measure : ν → μ)
    (found : map.get? key = some held) :
    (map.erase key).sum measure + measure held = map.sum measure := by
  have sums := ((cons_erase_perm found).map fun entry => measure entry.2).sum_eq
  rw [List.map_cons, List.sum_cons, add_comm] at sums
  exact sums

/-- What the key holds, if anything, is taken from the sum. -/
theorem sum_erase_add (map : OrderedMap κ ν) (measure : ν → μ) (key : κ) :
    (map.erase key).sum measure + ((map.get? key).map measure).getD 0 = map.sum measure := by
  cases found : map.get? key with
  | some held => exact sum_erase_of_found measure found
  | none => rw [erase_of_absent found, Option.map_none, Option.getD_none, add_zero]

theorem sum_foldl_erase {keys : List κ} (nodup : keys.Nodup) (map : OrderedMap κ ν)
    (measure : ν → μ) : (keys.foldl erase map).sum measure +
      (keys.map fun key => ((map.get? key).map measure).getD 0).sum = map.sum measure := by
  induction keys generalizing map with
  | nil => simp
  | cons key keys ih =>
      obtain ⟨fresh, nodupRest⟩ := List.nodup_cons.mp nodup
      have others : keys.map (fun later => ((map.get? later).map measure).getD 0) =
          keys.map fun later => (((map.erase key).get? later).map measure).getD 0 := by
        apply List.map_congr_left
        intro later membership
        rw [get?_erase, if_neg (ne_of_mem_of_not_mem membership fresh)]
      rw [List.foldl_cons, List.map_cons, List.sum_cons, others, add_left_comm, add_comm,
        ih nodupRest, sum_erase_add]

theorem erase_set (map : OrderedMap κ ν) (key : κ) (value : ν) :
    (map.set key value).erase key = map.erase key := by
  apply OrderedMap.ext
  unfold set
  split
  · change (replace map.entries key value).filter _ = map.entries.filter _
    induction map.entries with
    | nil => rfl
    | cons entry rest ih =>
        have split : replace (entry :: rest) key value =
            (if entry.1 = key then (key, value) else entry) :: replace rest key value := rfl
        rw [split, List.filter_cons, List.filter_cons, ih]
        by_cases same : entry.1 = key <;> simp [same]
  · change (map.entries ++ [(key, value)]).filter _ = map.entries.filter _
    simp

theorem sum_set (map : OrderedMap κ ν) (measure : ν → μ) (key : κ) (value : ν) :
    (map.set key value).sum measure = (map.erase key).sum measure + measure value := by
  have found : (map.set key value).get? key = some value := by simp
  rw [← sum_erase_of_found measure found, erase_set]

/-- `counts[key] = (counts[key] || 0) + count`. -/
def addAt (counts : OrderedMap κ Nat) (key : κ) (count : Nat) : OrderedMap κ Nat :=
  counts.set key ((counts.get? key).getD 0 + count)

theorem sum_addAt (counts : OrderedMap κ Nat) (key : κ) (count : Nat) :
    (counts.addAt key count).sum id = counts.sum id + count := by
  have before := counts.sum_erase_add id key
  rw [Option.map_id_fun, id] at before
  rw [addAt, sum_set, ← before]
  exact (Nat.add_assoc _ _ _).symm

/-- Add counts to others. -/
def addAll (counts others : OrderedMap κ Nat) : OrderedMap κ Nat :=
  others.entries.foldl (fun counts entry => counts.addAt entry.1 entry.2) counts

theorem sum_addAll (counts others : OrderedMap κ Nat) :
    (counts.addAll others).sum id = counts.sum id + others.sum id := by
  unfold addAll
  rw [show others.sum id = (others.entries.map Prod.snd).sum from rfl]
  induction others.entries generalizing counts with
  | nil => rfl
  | cons entry entries ih =>
      rw [List.foldl_cons, ih, sum_addAt, List.map_cons, List.sum_cons, Nat.add_assoc]

section Groups

variable {α : Type} (key : α → κ)

def addToGroup (groups : OrderedMap κ (List α)) (item : α) : OrderedMap κ (List α) :=
  groups.set (key item) ((groups.get? (key item)).getD [] ++ [item])

def groupBy (items : List α) : OrderedMap κ (List α) := items.foldl (addToGroup key) empty

theorem perm_addToGroup (groups : OrderedMap κ (List α)) (item : α) :
    ((addToGroup key groups item).entries.flatMap Prod.snd).Perm
      (groups.entries.flatMap Prod.snd ++ [item]) := by
  have found : (addToGroup key groups item).get? (key item) =
      some ((groups.get? (key item)).getD [] ++ [item]) := by simp [addToGroup]
  refine ((cons_erase_perm found).symm.flatMap_right Prod.snd).trans ?_
  rw [addToGroup, erase_set, List.flatMap_cons]
  cases held : groups.get? (key item) with
  | none =>
      rw [erase_of_absent held]
      exact List.perm_append_comm
  | some group =>
      have others := (cons_erase_perm held).flatMap_right Prod.snd
      refine List.Perm.trans ?_ (others.append_right [item])
      simp only [Option.getD_some, List.flatMap_cons, List.append_assoc]
      exact List.perm_append_comm.append_left group

theorem perm_groupBy (items : List α) :
    ((groupBy key items).entries.flatMap Prod.snd).Perm items := by
  have grouped (groups : OrderedMap κ (List α)) :
      ((items.foldl (addToGroup key) groups).entries.flatMap Prod.snd).Perm
        (groups.entries.flatMap Prod.snd ++ items) := by
    induction items generalizing groups with
    | nil => simp
    | cons item items ih =>
        refine (ih _).trans (((perm_addToGroup key groups item).append_right items).trans ?_)
        rw [List.append_assoc, List.singleton_append]
  exact grouped empty

theorem sum_groupBy (measure : α → μ) (items : List α) :
    (groupBy key items).sum (fun group => (group.map measure).sum) = (items.map measure).sum := by
  rw [← ((perm_groupBy key items).map measure).sum_eq, List.map_flatMap, List.flatMap_def,
    List.sum_flatten, List.map_map]
  rfl

theorem key_of_mem_groupBy {items : List α} {name : κ} {group : List α}
    (found : (groupBy key items).get? name = some group) {item : α} (membership : item ∈ group) :
    key item = name := by
  have keyed : ∀ name, ∀ item ∈ ((groupBy key items).get? name).getD [], key item = name := by
    refine List.foldlRecOn (motive := fun groups : OrderedMap κ (List α) =>
      ∀ name, ∀ item ∈ (groups.get? name).getD [], key item = name) items _ (by simp) ?_
    intro groups keyed item _ name other membership
    rw [addToGroup, get?_set] at membership
    split at membership
    · rename_i same
      subst same
      rcases List.mem_append.mp membership with earlier | new
      · exact keyed _ other earlier
      · rw [List.mem_singleton.mp new]
    · exact keyed name other membership
  exact keyed name item (by simpa [found] using membership)

end Groups

end Containers.OrderedMap
