import MultiAgents.Containers.Sums
import MultiAgents.Services.EventSubscriptions

/-!
# Event loops and the sessions they are counted for

A subscription that has lost its sessions is told to stop, so that its loop hands
no further event on.  A timer that fires later starts the loop again and takes the
order to stop back.  The count of a subscription is that of its sessions as long as
no session is registered twice.
-/

namespace MultiAgents.Subscriptions

open Containers Effects

section Objects

variable {bridge : Subscriptions}

theorem objects_modify (sub other : Nat)
    (change : DirectorySubscription → DirectorySubscription) :
    (bridge.modify sub change).objects[other]? =
      if sub = other then (bridge.objects[other]?).map change else bridge.objects[other]? := by
  unfold modify
  rw [List.getElem?_modify]
  split <;> simp_all

end Objects

/-- What the parts of the bridge agree on. -/
structure Orderly (bridge : Subscriptions) : Prop where
  loopsRun : ∀ sub ∈ bridge.loops, ∃ object, bridge.objects[sub]? = some object ∧
    object.running = true
  loopsApart : bridge.loops.Nodup
  subscribed : ∀ directory sub, bridge.directorySubscriptions.get? directory = some sub →
    ∃ object, bridge.objects[sub]? = some object ∧ object.directory = directory

def Stopped (bridge : Subscriptions) : Prop :=
  ∀ sub object, bridge.objects[sub]? = some object → object.shouldStop = false →
    bridge.directorySubscriptions.get? object.directory = some sub

def delivering (bridge : Subscriptions) (directory : String) : List Nat :=
  bridge.loops.filter fun sub =>
    (bridge.objects[sub]?).any fun object => object.directory = directory ∧ !object.shouldStop

theorem mem_delivering {bridge : Subscriptions} {directory : String} {sub : Nat} :
    sub ∈ bridge.delivering directory ↔ sub ∈ bridge.loops ∧ ∃ object,
      bridge.objects[sub]? = some object ∧ object.directory = directory ∧
        object.shouldStop = false := by
  unfold delivering
  rw [List.mem_filter]
  cases found : bridge.objects[sub]? with
  | none => simp
  | some object => simp

theorem delivering_length_le {bridge : Subscriptions} (orderly : Orderly bridge)
    (stopped : Stopped bridge) (directory : String) :
    (bridge.delivering directory).length ≤ 1 := by
  have own : ∀ sub ∈ bridge.delivering directory,
      bridge.directorySubscriptions.get? directory = some sub := by
    intro sub membership
    obtain ⟨_, object, found, same, active⟩ := mem_delivering.mp membership
    have held := stopped sub object found active
    rwa [same] at held
  have nodup : (bridge.delivering directory).Nodup := orderly.loopsApart.filter _
  rcases listed : bridge.delivering directory with _ | ⟨first, _ | ⟨second, rest⟩⟩
  · exact Nat.zero_le 1
  · exact le_rfl
  · rw [listed] at own nodup
    have sameSub : first = second := by
      have held := own first (by simp)
      rw [own second (by simp)] at held
      exact (Option.some.inj held).symm
    subst sameSub
    simp at nodup

section Steps

variable {bridge : Subscriptions}

theorem Orderly.modify (orderly : Orderly bridge) (sub : Nat)
    {change : DirectorySubscription → DirectorySubscription}
    (directory : ∀ object, (change object).directory = object.directory)
    (running : ∀ object, (change object).running = object.running) :
    Orderly (bridge.modify sub change) := by
  refine ⟨fun other membership => ?_, orderly.loopsApart, fun name other held => ?_⟩
  · obtain ⟨object, found, runs⟩ := orderly.loopsRun other membership
    rw [objects_modify]
    by_cases same : sub = other
    · exact ⟨change object, by simp [same, found], by rw [running, runs]⟩
    · exact ⟨object, by simp [same, found], runs⟩
  · obtain ⟨object, found, named⟩ := orderly.subscribed name other held
    rw [objects_modify]
    by_cases same : sub = other
    · exact ⟨change object, by simp [same, found], by rw [directory, named]⟩
    · exact ⟨object, by simp [same, found], named⟩

theorem Stopped.modify (stopped : Stopped bridge) (sub : Nat)
    {change : DirectorySubscription → DirectorySubscription}
    (directory : ∀ object, (change object).directory = object.directory)
    (active : ∀ object, bridge.objects[sub]? = some object → (change object).shouldStop = false →
      object.shouldStop = false) :
    Stopped (bridge.modify sub change) := by
  intro other object found going
  rw [objects_modify] at found
  split at found
  · rename_i same
    subst same
    obtain ⟨before, held, rfl⟩ := Option.map_eq_some_iff.mp found
    rw [directory]
    exact stopped sub before held (active before held going)
  · exact stopped other object found going

theorem Orderly.start (orderly : Orderly bridge) (sub : Nat) :
    Orderly (bridge.startDirectoryEventLoop sub) := by
  unfold startDirectoryEventLoop
  split
  · exact orderly
  · rename_i object found
    split
    · exact orderly
    · rename_i idle
      refine ⟨fun other membership => ?_, ?_, fun name other held => ?_⟩
      · change ∃ object, (bridge.modify sub _).objects[other]? = some object ∧ _
        rw [objects_modify]
        by_cases same : sub = other
        · exact ⟨{ object with running := true, shouldStop := false }, by simp [← same, found],
            rfl⟩
        · rcases List.mem_append.mp membership with before | added
          · obtain ⟨held, foundOther, runs⟩ := orderly.loopsRun other before
            exact ⟨held, by simp [same, foundOther], runs⟩
          · exact absurd (List.mem_singleton.mp added).symm same
      · refine orderly.loopsApart.append (List.nodup_singleton sub) ?_
        intro other before added
        obtain rfl := List.mem_singleton.mp added
        obtain ⟨held, foundOther, runs⟩ := orderly.loopsRun other before
        rw [found] at foundOther
        cases foundOther
        exact idle runs
      · change ∃ object, (bridge.modify sub _).objects[other]? = some object ∧ _
        obtain ⟨held, foundOther, named⟩ := orderly.subscribed name other held
        rw [objects_modify]
        by_cases same : sub = other
        · exact ⟨{ held with running := true, shouldStop := false }, by simp [same, foundOther],
            named⟩
        · exact ⟨held, by simp [same, foundOther], named⟩

theorem Stopped.start (stopped : Stopped bridge) {sub : Nat}
    (active : ∀ object, bridge.objects[sub]? = some object → object.shouldStop = false) :
    Stopped (bridge.startDirectoryEventLoop sub) := by
  unfold startDirectoryEventLoop
  split
  · exact stopped
  · split
    · exact stopped
    · exact stopped.modify sub (fun _ => rfl) fun object found _ => active object found

theorem Orderly.subscribe (orderly : Orderly bridge) (directory : String) :
    Orderly { bridge with
      objects := bridge.objects ++ [({ directory } : DirectorySubscription)]
      directorySubscriptions :=
        bridge.directorySubscriptions.set directory bridge.objects.length } := by
  have kept {sub : Nat} {object : DirectorySubscription}
      (found : bridge.objects[sub]? = some object) :
      (bridge.objects ++ [({ directory } : DirectorySubscription)])[sub]? = some object := by
    have inside := (List.getElem?_eq_some_iff.mp found).1
    rw [List.getElem?_append_left inside, found]
  refine ⟨fun sub membership => ?_, orderly.loopsApart, fun name sub held => ?_⟩
  · obtain ⟨object, found, runs⟩ := orderly.loopsRun sub membership
    exact ⟨object, kept found, runs⟩
  · rcases OrderedMap.of_get?_set held with ⟨rfl, rfl⟩ | held
    · exact ⟨_, List.getElem?_concat_length, rfl⟩
    · obtain ⟨object, found, named⟩ := orderly.subscribed name sub held
      exact ⟨object, kept found, named⟩

theorem Stopped.subscribe (stopped : Stopped bridge) {directory : String}
    (none : bridge.directorySubscriptions.get? directory = none) :
    Stopped { bridge with
      objects := bridge.objects ++ [({ directory } : DirectorySubscription)]
      directorySubscriptions :=
        bridge.directorySubscriptions.set directory bridge.objects.length } := by
  intro sub object found going
  rw [OrderedMap.get?_set]
  rcases Nat.lt_or_ge sub bridge.objects.length with inside | beyond
  · rw [List.getElem?_append_left inside] at found
    have own := stopped sub object found going
    have different : object.directory ≠ directory := by
      rintro rfl
      rw [none] at own
      cases own
    rwa [if_neg different]
  · rw [List.getElem?_append_right beyond] at found
    obtain ⟨position, held⟩ := List.getElem?_eq_some_iff.mp found
    simp only [List.length_singleton] at position
    have last : sub = bridge.objects.length := by omega
    subst last
    simp only [Nat.sub_self, List.getElem_cons_zero] at held
    subst held
    simp

theorem Orderly.endLoop_loops (orderly : Orderly bridge) {loop sub : Nat}
    (held : bridge.loops[loop]? = some sub) :
    (bridge.loops.eraseIdx loop).Nodup ∧
      ∀ other ∈ bridge.loops.eraseIdx loop, other ∈ bridge.loops ∧ other ≠ sub := by
  refine ⟨orderly.loopsApart.sublist (List.eraseIdx_sublist _ _), fun other membership => ?_⟩
  refine ⟨List.mem_of_mem_eraseIdx membership, ?_⟩
  rintro rfl
  obtain ⟨inside, found⟩ := List.getElem?_eq_some_iff.mp held
  rw [List.mem_eraseIdx_iff_getElem] at membership
  obtain ⟨position, bound, different, same⟩ := membership
  exact different ((orderly.loopsApart.getElem_inj_iff).mp (same.trans found.symm))

theorem Orderly.endLoop (orderly : Orderly bridge) (loop : Nat) :
    Orderly (bridge.endLoop loop) := by
  cases held : bridge.loops[loop]? with
  | none =>
      have same : bridge.endLoop loop = bridge := by
        simp only [Subscriptions.endLoop, held]
      rw [same]
      exact orderly
  | some sub =>
      obtain ⟨nodup, others⟩ := orderly.endLoop_loops held
      have ended : Orderly
          { bridge.modify sub fun object => { object with running := false } with
            loops := bridge.loops.eraseIdx loop } := by
        refine ⟨fun other membership => ?_, nodup, fun name other registered => ?_⟩
        · obtain ⟨before, different⟩ := others other membership
          obtain ⟨object, found, runs⟩ := orderly.loopsRun other before
          refine ⟨object, ?_, runs⟩
          change (bridge.modify sub _).objects[other]? = some object
          rw [objects_modify, if_neg (Ne.symm different), found]
        · change ∃ object, (bridge.modify sub _).objects[other]? = some object ∧ _
          obtain ⟨object, found, named⟩ := orderly.subscribed name other registered
          rw [objects_modify]
          by_cases same : sub = other
          · exact ⟨{ object with running := false }, by simp [same, found], named⟩
          · exact ⟨object, by simp [same, found], named⟩
      simp only [Subscriptions.endLoop, held]
      split
      · exact ended
      · split
        · exact ⟨ended.loopsRun, ended.loopsApart, ended.subscribed⟩
        · exact ended

theorem Stopped.endLoop (stopped : Stopped bridge) (loop : Nat) :
    Stopped (bridge.endLoop loop) := by
  cases held : bridge.loops[loop]? with
  | none =>
      have same : bridge.endLoop loop = bridge := by
        simp only [Subscriptions.endLoop, held]
      rw [same]
      exact stopped
  | some sub =>
      have ended : Stopped (bridge.modify sub fun object => { object with running := false }) :=
        stopped.modify sub (fun _ => rfl) fun _ _ going => going
      simp only [Subscriptions.endLoop, held]
      split
      · exact ended
      · split <;> exact ended

theorem Orderly.release (orderly : Orderly bridge) (directory : String) (sub : Nat)
    (object : DirectorySubscription) : Orderly (bridge.release directory sub object) := by
  have counted : Orderly (bridge.modify sub fun object =>
      { object with sessionCount := object.sessionCount - 1 }) :=
    orderly.modify sub (fun _ => rfl) fun _ => rfl
  have halted : Orderly ((bridge.modify sub fun object =>
      { object with sessionCount := object.sessionCount - 1 }).modify sub fun object =>
        { object with shouldStop := true }) :=
    counted.modify sub (fun _ => rfl) fun _ => rfl
  unfold Subscriptions.release
  dsimp only
  split
  · exact ⟨halted.loopsRun, halted.loopsApart, fun name other held =>
      halted.subscribed name other (OrderedMap.of_get?_erase held).2⟩
  · exact counted

theorem Stopped.release (stopped : Stopped bridge) {directory : String} {sub : Nat}
    (held : bridge.directorySubscriptions.get? directory = some sub)
    (object : DirectorySubscription) : Stopped (bridge.release directory sub object) := by
  have counted : Stopped (bridge.modify sub fun object =>
      { object with sessionCount := object.sessionCount - 1 }) :=
    stopped.modify sub (fun _ => rfl) fun _ _ going => going
  unfold Subscriptions.release
  dsimp only
  split
  · intro other found heldOther going
    change ((bridge.modify sub _).modify sub _).objects[other]? = some found at heldOther
    rw [objects_modify, objects_modify] at heldOther
    by_cases same : sub = other
    · simp only [same, if_true, Option.map_map] at heldOther
      obtain ⟨before, _, rfl⟩ := Option.map_eq_some_iff.mp heldOther
      cases going
    · rw [if_neg same, if_neg same] at heldOther
      have own := stopped other found heldOther going
      have different : found.directory ≠ directory := by
        rintro rfl
        rw [held] at own
        exact same (Option.some.inj own)
      rw [OrderedMap.get?_erase, if_neg different]
      exact own
  · exact counted

theorem Orderly.registerSession (orderly : Orderly bridge) (taskId sessionId directory : String) :
    Orderly (bridge.registerSession taskId sessionId directory) := by
  unfold Subscriptions.registerSession
  have registered : Orderly { bridge with
      activeSessions := bridge.activeSessions.set sessionId ⟨taskId, directory⟩ } :=
    ⟨orderly.loopsRun, orderly.loopsApart, orderly.subscribed⟩
  split
  · exact orderly
  · dsimp only
    split
    · exact registered.modify _ (fun _ => rfl) fun _ => rfl
    · exact (registered.subscribe directory).start _

theorem Stopped.registerSession (stopped : Stopped bridge) (taskId sessionId directory : String) :
    Stopped (bridge.registerSession taskId sessionId directory) := by
  unfold Subscriptions.registerSession
  have registered : Stopped { bridge with
      activeSessions := bridge.activeSessions.set sessionId ⟨taskId, directory⟩ } := stopped
  split
  · exact stopped
  · dsimp only
    split
    · exact registered.modify _ (fun _ => rfl) fun _ _ going => going
    · rename_i none
      refine (registered.subscribe none).start fun object found => ?_
      rw [List.getElem?_concat_length] at found
      cases found
      rfl

theorem Orderly.unregisterSession (orderly : Orderly bridge) (sessionId : String) :
    Orderly (bridge.unregisterSession sessionId) := by
  unfold Subscriptions.unregisterSession
  have removed : Orderly { bridge with
      activeSessions := bridge.activeSessions.erase sessionId } :=
    ⟨orderly.loopsRun, orderly.loopsApart, orderly.subscribed⟩
  split
  · exact orderly
  · dsimp only
    split
    · exact removed
    · split
      · exact removed
      · exact removed.release _ _ _

theorem Stopped.unregisterSession (stopped : Stopped bridge) (sessionId : String) :
    Stopped (bridge.unregisterSession sessionId) := by
  unfold Subscriptions.unregisterSession
  have removed : Stopped { bridge with
      activeSessions := bridge.activeSessions.erase sessionId } := stopped
  split
  · exact stopped
  · dsimp only
    split
    · exact removed
    · rename_i held
      split
      · exact removed
      · exact removed.release held _

/-- No timer fires for a subscription that was told to stop in the meantime. -/
def TimerInUse (bridge : Subscriptions) : Action → Prop
  | .reconnect timer => ∀ sub ∈ bridge.timers[timer]?, bridge.delivers sub = true
  | _ => True

instance (bridge : Subscriptions) (action : Action) : Decidable (TimerInUse bridge action) := by
  cases action <;> unfold TimerInUse <;> infer_instance

theorem Orderly.step (orderly : Orderly bridge) (action : Action) :
    Orderly (bridge.step action) := by
  cases action with
  | registerSession taskId sessionId directory =>
      exact orderly.registerSession taskId sessionId directory
  | unregisterSession sessionId => exact orderly.unregisterSession sessionId
  | unregisterTaskSessions taskId =>
      change Orderly ((bridge.sessionsOf taskId).foldl Subscriptions.unregisterSession bridge)
      generalize bridge.sessionsOf taskId = sessions
      induction sessions generalizing bridge with
      | nil => exact orderly
      | cons sessionId rest ih =>
          exact ih (orderly.unregisterSession sessionId)
  | event loop =>
      unfold Subscriptions.step
      dsimp only
      split
      · exact orderly.endLoop loop
      · exact orderly
  | endStream loop => exact orderly.endLoop loop
  | reconnect timer =>
      unfold Subscriptions.step
      dsimp only
      split
      · exact orderly
      · have same : Orderly { bridge with timers := bridge.timers.eraseIdx timer } :=
          ⟨orderly.loopsRun, orderly.loopsApart, orderly.subscribed⟩
        exact same.start _

theorem Stopped.step (stopped : Stopped bridge) {action : Action}
    (inUse : TimerInUse bridge action) : Stopped (bridge.step action) := by
  cases action with
  | registerSession taskId sessionId directory =>
      exact stopped.registerSession taskId sessionId directory
  | unregisterSession sessionId => exact stopped.unregisterSession sessionId
  | unregisterTaskSessions taskId =>
      change Stopped ((bridge.sessionsOf taskId).foldl Subscriptions.unregisterSession bridge)
      clear inUse
      generalize bridge.sessionsOf taskId = sessions
      induction sessions generalizing bridge with
      | nil => exact stopped
      | cons sessionId rest ih =>
          exact ih (stopped.unregisterSession sessionId)
  | event loop =>
      unfold Subscriptions.step
      dsimp only
      split
      · exact stopped.endLoop loop
      · exact stopped
  | endStream loop => exact stopped.endLoop loop
  | reconnect timer =>
      unfold Subscriptions.step
      dsimp only
      split
      · exact stopped
      · rename_i sub held
        have going := inUse sub held
        have same : Stopped { bridge with timers := bridge.timers.eraseIdx timer } := stopped
        refine same.start fun object found => ?_
        unfold delivers at going
        change bridge.objects[sub]? = some object at found
        simpa [found] using going

end Steps

/-- While no timer fires for a subscription that has ended, at most one loop of a directory
hands events on. -/
theorem one_loop_delivers (actions : List Action)
    (inUse : Machine.Guarded step TimerInUse actions {}) (directory : String) :
    ((Machine.run step {} actions).delivering directory).length ≤ 1 := by
  have initial : Orderly {} ∧ Stopped {} := by
    refine ⟨⟨by simp, by simp, by simp⟩, fun sub object found => ?_⟩
    simp at found
  have reached := Machine.run_invariant
    (fun bridge action condition (both : Orderly bridge ∧ Stopped bridge) =>
      And.intro (both.1.step action) (both.2.step condition)) inUse initial
  exact delivering_length_le reached.1 reached.2 directory

/-- Whatever happens, a subscription has at most one loop and is marked as running while it has
it. -/
theorem loops_stay_apart (actions : List Action) : Orderly (Machine.run step {} actions) :=
  Machine.run_keeps (fun _ action orderly => orderly.step action) ⟨by simp, by simp, by simp⟩
    actions

section Samples

def sampleActions : List Action :=
  [.registerSession "t1" "s1" "/work", .endStream 0, .reconnect 0, .unregisterSession "s1",
    .registerSession "t2" "s2" "/work", .event 0]

theorem one_loop_delivers_after_reconnect :
    Machine.Guarded step TimerInUse sampleActions {} ∧
      ((Machine.run step {} sampleActions).delivering "/work").length ≤ 1 := by
  have inUse : Machine.Guarded step TimerInUse sampleActions {} := by decide +kernel
  exact ⟨inUse, one_loop_delivers sampleActions inUse "/work"⟩

/-- The stream ends and the session is replaced by another before the timer fires. -/
theorem two_loops_deliver :
    ((Machine.run step {}
      [.registerSession "t1" "s1" "/work", .endStream 0, .unregisterSession "s1",
        .registerSession "t2" "s2" "/work", .reconnect 0]).delivering "/work").length = 2 := by
  decide +kernel

end Samples

end MultiAgents.Subscriptions
