import MultiAgents.Effects.Machine
import MultiAgents.Server.SettingsUpdates

/-!
# Lost updates of settings

What a request writes are the settings it has read with the requested values under
its own keys.  So it keeps the change of the other request if nothing was written
in between.
-/

namespace MultiAgents.SettingsUpdates

open Containers Effects

theorem get?_spread (first second : Settings) (key : String) :
    (spread first second).get? key = (second.get? key).or (first.get? key) := by
  obtain ⟨entries, nodup⟩ := second
  change (entries.foldl (fun merged entry => merged.set entry.1 entry.2) first).get? key =
    (entries.lookup key).or (first.get? key)
  induction entries generalizing first with
  | nil => rfl
  | cons entry entries ih =>
      obtain ⟨name, value⟩ := entry
      rw [List.map_cons, List.nodup_cons] at nodup
      rw [List.foldl_cons, ih _ nodup.2, OrderedMap.get?_set,
        OrderedMap.lookup_cons_ite]
      by_cases same : key = name
      · subst same
        rw [if_pos rfl, if_pos rfl, OrderedMap.lookup_eq_none nodup.1]
        rfl
      · rw [if_neg same, if_neg same]

theorem get?_eq_none {settings : Settings} {key : String}
    (absent : key ∉ settings.entries.map Prod.fst) : settings.get? key = none :=
  OrderedMap.lookup_eq_none absent

/-- The settings with the requested values under the keys of the request. -/
def Applied (request : SettingsRequest) (stored settings : Settings) : Prop :=
  ∀ key, settings.get? key =
    if key ∈ request.keys then request.requested stored key else stored.get? key

/-- A program that has written something when it ends; if the settings are still those it has
read when it writes, it applies the request to them. -/
def Applies (request : SettingsRequest) :
    Option Settings → List Settings → Program Unit → Prop
  | wrote, _, .done _ => wrote.isSome
  | _, _, .fail _ => False
  | wrote, reads, .ask .select next =>
      ∀ stored : Settings, Applies request wrote (stored :: reads) (next stored)
  | wrote, reads, .ask (.update settings) next =>
      wrote = none ∧ reads ≠ [] ∧
        (∀ stored, (∀ read ∈ reads, read = stored) → Applied request stored settings) ∧
        Applies request (some settings) reads (next ())

theorem applies_update {request : SettingsRequest} {reads : List Settings} {settings : Settings}
    (applied : ∀ stored, (∀ read ∈ reads, read = stored) → Applied request stored settings) :
    Applies request none reads (update settings) :=
  fun _ => ⟨rfl, by simp, fun stored same =>
    applied stored fun read known => same read (by simp [known]), fun _ => rfl⟩

theorem SettingsRequest.applies (request : SettingsRequest) :
    Applies request none [] request.program := by
  cases request with
  | patchSettings body =>
      intro _ base
      refine applies_update fun stored same key => ?_
      rw [same base (by simp), get?_spread]
      split
      · rename_i own
        obtain ⟨value, found⟩ := Option.isSome_iff_exists.mp (OrderedMap.mem_keys_iff.mp own)
        simp [requested, found]
      · rename_i other
        simp [get?_eq_none other]
  | putLlmConfig llmConfig =>
      intro base
      refine applies_update fun stored same key => ?_
      simp [same base (by simp), OrderedMap.get?_set, keys, requested]
  | deleteLlmConfig =>
      intro base
      refine applies_update fun stored same key => ?_
      simp [same base (by simp), OrderedMap.get?_erase, keys, requested]
  | detectStack specialists =>
      -- Both reads have to be up to date, since the older one is spread over the newer one.
      intro first base
      refine applies_update fun stored same key => ?_
      rw [same first (by simp), same base (by simp), get?_spread, OrderedMap.get?_set]
      by_cases own : key = "specialists" <;> simp [own, keys, requested]
  | bypassForAllPhases =>
      intro base
      refine applies_update fun stored same key => ?_
      rw [same base (by simp), get?_spread, OrderedMap.get?_set]
      by_cases own : key = "approvalMode" <;> simp [own, keys, requested]

/-- A request writes while the settings are those of each of its reads. -/
def UpToDate (session : Session) (which : Bool) : Prop :=
  match (session.threads which).program with
  | .ask (.update _) _ => ∀ read ∈ (session.threads which).reads, read = session.stored
  | _ => True

instance : DecidableEq Settings := fun _ _ => decidable_of_iff _ OrderedMap.ext_iff.symm

instance (session : Session) (which : Bool) : Decidable (UpToDate session which) := by
  unfold UpToDate
  split <;> infer_instance

/-- The requested values are stored under the keys of the request, as computed from settings that
it has read. -/
def Stored (request : SettingsRequest) (stored : Settings) (thread : Thread) : Prop :=
  ∃ found ∈ thread.reads, ∀ key ∈ request.keys, stored.get? key = request.requested found key

instance (request : SettingsRequest) (stored : Settings) (thread : Thread) :
    Decidable (Stored request stored thread) :=
  inferInstanceAs (Decidable (∃ _ ∈ _, ∀ _ ∈ _, _))

/-- What each request that has written was to change is changed. -/
structure Kept (requests : Bool → SettingsRequest) (session : Session) : Prop where
  programs : ∀ which, Applies (requests which) (session.threads which).wrote
    (session.threads which).reads (session.threads which).program
  changes : ∀ which, (session.threads which).wrote ≠ none →
    Stored (requests which) session.stored (session.threads which)

theorem Kept.step {requests : Bool → SettingsRequest}
    (disjoint : ∀ key ∈ (requests false).keys, key ∉ (requests true).keys) {session : Session}
    {which : Bool} (upToDate : UpToDate session which) (kept : Kept requests session) :
    Kept requests (session.step which) := by
  let Follows (which : Bool) (thread : Thread) : Prop :=
    Applies (requests which) thread.wrote thread.reads thread.program
  let Stands (stored : Settings) (which : Bool) (thread : Thread) : Prop :=
    thread.wrote ≠ none → Stored (requests which) stored thread
  have program := kept.programs which
  unfold UpToDate at upToDate
  unfold Session.step
  dsimp only
  split
  · exact kept
  · exact kept
  case h_3 next asked =>
    rw [asked, Applies] at program
    constructor
    · exact (Function.forall_update_iff _ Follows).mpr
        ⟨program session.stored, fun other _ => kept.programs other⟩
    · refine (Function.forall_update_iff _ (Stands session.stored)).mpr
        ⟨fun wrote => ?_, fun other _ => kept.changes other⟩
      obtain ⟨found, known, same⟩ := kept.changes which wrote
      exact ⟨found, List.mem_cons_of_mem _ known, same⟩
  case h_4 settings next asked =>
    rw [asked] at program upToDate
    obtain ⟨_, nonempty, applied, rest⟩ := program
    have set := applied session.stored upToDate
    constructor
    · exact (Function.forall_update_iff _ Follows).mpr
        ⟨rest, fun other _ => kept.programs other⟩
    · refine (Function.forall_update_iff _ (Stands settings)).mpr ⟨fun _ => ?_, ?_⟩
      · obtain ⟨read, known⟩ := List.exists_mem_of_ne_nil _ nonempty
        refine ⟨session.stored, upToDate read known ▸ known, fun key own => ?_⟩
        rw [set key, if_pos own]
      · -- The keys of the other request are not among those that change.
        intro other different wrote
        obtain ⟨found, known, same⟩ := kept.changes other wrote
        refine ⟨found, known, fun key own => ?_⟩
        have foreign : key ∉ (requests which).keys := by
          intro changed
          cases which <;> cases other
          · exact different rfl
          · exact disjoint key changed own
          · exact disjoint key own changed
          · exact different rfl
        rw [set key, if_neg foreign]
        exact same key own

/-- If no request writes over an update that it has not seen, the changes of both are there when
they have finished. -/
theorem settings_changes_kept {requests : Bool → SettingsRequest}
    (disjoint : ∀ key ∈ (requests false).keys, key ∉ (requests true).keys) (stored : Settings)
    (moves : List Bool)
    (upToDate : Machine.Guarded Session.step UpToDate moves (Session.start stored requests)) :
    let session := Machine.run Session.step (Session.start stored requests) moves
    ∀ which, session.finished which →
      Stored (requests which) session.stored (session.threads which) := by
  intro session which finished
  have initial : Kept requests (Session.start stored requests) :=
    ⟨fun which => (requests which).applies, fun _ wrote => absurd rfl wrote⟩
  have kept : Kept requests session :=
    Machine.run_invariant (fun _ _ upToDate kept => kept.step disjoint upToDate) upToDate initial
  have program := kept.programs which
  unfold Session.finished at finished
  split at finished
  case h_1 asked =>
    rw [asked, Applies] at program
    exact kept.changes which (Option.isSome_iff_ne_none.mp program)
  case h_2 => cases finished

/-- A branch is chosen while the approval of all phases is switched off. -/
def branchAndBypass : Bool → SettingsRequest
  | false => .patchSettings (OrderedMap.empty.set "defaultBranch" (.str "dev"))
  | true => .bypassForAllPhases

theorem sequential_changes_kept :
    let moves := [false, false, false, false, false, true, true, true, true]
    let session := Machine.run Session.step (Session.start .empty branchAndBypass) moves
    (∀ which, session.finished which) ∧ ∀ which, session.finished which →
      Stored (branchAndBypass which) session.stored (session.threads which) :=
  ⟨by decide +kernel, settings_changes_kept (by decide +kernel) .empty _ (by decide +kernel)⟩

/-- The request that writes last has read the settings before the other one wrote, and takes its
change back. -/
theorem interleaved_change_lost :
    let moves := [false, false, false, true, true, true, false, true, false]
    let session := Machine.run Session.step (Session.start .empty branchAndBypass) moves
    session.finished false = true ∧ session.finished true = true ∧
      ¬Stored (branchAndBypass true) session.stored (session.threads true) := by
  decide +kernel

end MultiAgents.SettingsUpdates
