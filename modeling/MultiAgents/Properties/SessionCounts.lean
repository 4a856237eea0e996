import MultiAgents.Properties.EventLoops

/-!
# Sessions of a directory and their count

Registering a session counts it once more, even where it only replaces an entry of
the table of sessions.  The counts are right in every state that is reached if and
only if no session is registered while it is active.
-/

namespace MultiAgents.Subscriptions

open Containers Effects

section Views

variable (bridge : Subscriptions) (directory : String)

def sessionsIn : Nat :=
  (bridge.activeSessions.entries.filter fun entry => entry.2.directory = directory).length

def countOf : Option Int :=
  (bridge.directorySubscriptions.get? directory).bind fun sub =>
    (bridge.objects[sub]?).map DirectorySubscription.sessionCount

end Views

def Matches (bridge : Subscriptions) : Prop :=
  ∀ directory, bridge.countOf directory =
    if bridge.sessionsIn directory = 0 then none else some (bridge.sessionsIn directory : Int)

def RegistersOnce (bridge : Subscriptions) : Action → Prop
  | .registerSession _ sessionId directory =>
      directory = "" ∨ bridge.activeSessions.get? sessionId = none
  | _ => True

section Sessions

variable {bridge : Subscriptions}

def share (directory : String) (session : TaskSession) : Nat :=
  if session.directory = directory then 1 else 0

theorem sessionsIn_eq_sum (directory : String) :
    bridge.sessionsIn directory = bridge.activeSessions.sum (share directory) := by
  unfold sessionsIn OrderedMap.sum
  induction bridge.activeSessions.entries with
  | nil => rfl
  | cons entry rest ih =>
      by_cases own : entry.2.directory = directory
      · simp [own, share, ih, Nat.add_comm]
      · simp [own, share, ih]

theorem sum_set_of_absent_session {sessionId : String} {session : TaskSession}
    (absent : bridge.activeSessions.get? sessionId = none) (directory : String) :
    (bridge.activeSessions.set sessionId session).sum (share directory) =
      bridge.sessionsIn directory + share directory session := by
  rw [sessionsIn_eq_sum, OrderedMap.sum_set_of_absent _ absent]

theorem sum_erase_session {sessionId : String} {session : TaskSession}
    (found : bridge.activeSessions.get? sessionId = some session) (directory : String) :
    (bridge.activeSessions.erase sessionId).sum (share directory) + share directory session =
      bridge.sessionsIn directory := by
  rw [sessionsIn_eq_sum, OrderedMap.sum_erase_of_found _ found]

end Sessions

section Counts

variable {bridge : Subscriptions}

theorem countOf_congr {other : Subscriptions} (directory : String)
    (same : other.directorySubscriptions = bridge.directorySubscriptions)
    (counts : ∀ sub : Nat, (other.objects[sub]?).map DirectorySubscription.sessionCount =
      (bridge.objects[sub]?).map DirectorySubscription.sessionCount) :
    other.countOf directory = bridge.countOf directory := by
  unfold countOf
  rw [same]
  exact Option.bind_congr fun sub _ => counts sub

theorem Orderly.countOf_modify (orderly : Orderly bridge) {directory : String} {sub : Nat}
    (held : bridge.directorySubscriptions.get? directory = some sub)
    {change : DirectorySubscription → DirectorySubscription} (count : Int → Int)
    (changed : ∀ object, (change object).sessionCount = count object.sessionCount)
    (other : String) :
    (bridge.modify sub change).countOf other =
      if other = directory then (bridge.countOf directory).map count else bridge.countOf other := by
  unfold countOf
  change (bridge.directorySubscriptions.get? other).bind _ = _
  by_cases same : other = directory
  · subst same
    simp [held, objects_modify, changed, Option.map_map, Function.comp_def]
  · rw [if_neg same]
    refine Option.bind_congr fun otherSub heldOther => ?_
    have different : sub ≠ otherSub := by
      rintro rfl
      obtain ⟨object, found, named⟩ := orderly.subscribed directory sub held
      obtain ⟨objectOther, foundOther, namedOther⟩ := orderly.subscribed other sub heldOther
      rw [found] at foundOther
      cases foundOther
      exact same (namedOther.symm.trans named)
    rw [objects_modify, if_neg different]

theorem countOf_start (sub : Nat) (directory : String) :
    (bridge.startDirectoryEventLoop sub).countOf directory = bridge.countOf directory := by
  unfold startDirectoryEventLoop
  split
  · rfl
  · split
    · rfl
    · refine countOf_congr directory rfl fun other => ?_
      change ((bridge.modify sub _).objects[other]?).map _ = _
      rw [objects_modify]
      split
      · simp [Option.map_map, Function.comp_def]
      · rfl

theorem countOf_endLoop (loop : Nat) (directory : String) :
    (bridge.endLoop loop).countOf directory = bridge.countOf directory := by
  have ended (sub : Nat) : (bridge.modify sub fun object =>
      { object with running := false }).countOf directory = bridge.countOf directory := by
    refine countOf_congr directory rfl fun other => ?_
    rw [objects_modify]
    split
    · simp [Option.map_map, Function.comp_def]
    · rfl
  unfold endLoop
  split
  · rfl
  · rename_i sub held
    dsimp only
    split
    · exact ended sub
    · split <;> exact ended sub

theorem Orderly.countOf_registerSession (orderly : Orderly bridge)
    (taskId sessionId : String) {directory : String} (named : directory ≠ "") (other : String) :
    (bridge.registerSession taskId sessionId directory).countOf other =
      if other = directory then some ((bridge.countOf directory).getD 0 + 1)
      else bridge.countOf other := by
  unfold Subscriptions.registerSession
  rw [if_neg named]
  dsimp only
  have registered : Orderly { bridge with
      activeSessions := bridge.activeSessions.set sessionId ⟨taskId, directory⟩ } :=
    ⟨orderly.loopsRun, orderly.loopsApart, orderly.subscribed⟩
  cases held : bridge.directorySubscriptions.get? directory with
  | some sub =>
      dsimp only
      refine (registered.countOf_modify held (fun count => count + 1) (fun _ => rfl)
        other).trans ?_
      obtain ⟨object, found, _⟩ := orderly.subscribed directory sub held
      have count : bridge.countOf directory = some object.sessionCount := by
        simp [countOf, held, found]
      change (if other = directory then (bridge.countOf directory).map _
        else bridge.countOf other) = _
      rw [count]
      rfl
  | none =>
      dsimp only
      rw [countOf_start]
      have count : bridge.countOf directory = none := by simp [countOf, held]
      rw [count]
      unfold countOf
      dsimp only
      rw [OrderedMap.get?_set]
      split
      · simp
      · refine Option.bind_congr fun sub heldOther => ?_
        obtain ⟨object, found, _⟩ := orderly.subscribed other sub heldOther
        rw [List.getElem?_append_left (List.getElem?_eq_some_iff.mp found).1]

theorem Orderly.countOf_release (orderly : Orderly bridge) {directory : String} {sub : Nat}
    {object : DirectorySubscription}
    (held : bridge.directorySubscriptions.get? directory = some sub)
    (found : bridge.objects[sub]? = some object) (other : String) :
    (bridge.release directory sub object).countOf other =
      if other = directory then
        if object.sessionCount - 1 ≤ 0 then none else some (object.sessionCount - 1)
      else bridge.countOf other := by
  have counted : ∀ other, (bridge.modify sub fun object =>
      { object with sessionCount := object.sessionCount - 1 }).countOf other =
        if other = directory then (bridge.countOf directory).map fun count => count - 1
        else bridge.countOf other :=
    orderly.countOf_modify held (fun count => count - 1) fun _ => rfl
  have count : bridge.countOf directory = some object.sessionCount := by
    simp [countOf, held, found]
  unfold Subscriptions.release
  dsimp only
  split
  · by_cases same : other = directory
    · simp [countOf, same]
    · rw [if_neg same]
      have kept := counted other
      rw [if_neg same] at kept
      rw [← kept]
      unfold countOf
      dsimp only
      rw [OrderedMap.get?_erase, if_neg same]
      refine Option.bind_congr fun otherSub _ => ?_
      rw [objects_modify]
      split
      · simp [Option.map_map, Function.comp_def]
      · rfl
  · rw [counted other, count]
    rfl

end Counts

section Steps

variable {bridge : Subscriptions}

theorem activeSessions_start (sub : Nat) :
    (bridge.startDirectoryEventLoop sub).activeSessions = bridge.activeSessions := by
  unfold startDirectoryEventLoop
  split
  · rfl
  · split <;> rfl

theorem activeSessions_registerSession (taskId sessionId : String) {directory : String}
    (named : directory ≠ "") :
    (bridge.registerSession taskId sessionId directory).activeSessions =
      bridge.activeSessions.set sessionId ⟨taskId, directory⟩ := by
  unfold registerSession
  rw [if_neg named]
  dsimp only
  split
  · rfl
  · exact activeSessions_start _

theorem activeSessions_endLoop (loop : Nat) :
    (bridge.endLoop loop).activeSessions = bridge.activeSessions := by
  unfold endLoop
  split
  · rfl
  · dsimp only
    split
    · rfl
    · split <;> rfl

theorem activeSessions_release (directory : String) (sub : Nat) (object : DirectorySubscription) :
    (bridge.release directory sub object).activeSessions = bridge.activeSessions := by
  unfold release
  dsimp only
  split <;> rfl

theorem Matches.congr (matched : Matches bridge) {other : Subscriptions}
    (counts : ∀ directory, other.countOf directory = bridge.countOf directory)
    (sessions : other.activeSessions = bridge.activeSessions) : Matches other := by
  intro directory
  have same : other.sessionsIn directory = bridge.sessionsIn directory := by
    unfold sessionsIn
    rw [sessions]
  rw [counts, same]
  exact matched directory

theorem Matches.getD_countOf (matched : Matches bridge) (directory : String) :
    (bridge.countOf directory).getD 0 = bridge.sessionsIn directory := by
  rw [matched directory]
  split
  · rename_i none
    simp [none]
  · rfl

theorem sessionsIn_registerSession (taskId sessionId : String) {directory : String}
    (named : directory ≠ "") (other : String) :
    (bridge.registerSession taskId sessionId directory).sessionsIn other =
      (bridge.activeSessions.set sessionId ⟨taskId, directory⟩).sum (share other) := by
  rw [sessionsIn_eq_sum, activeSessions_registerSession taskId sessionId named]

theorem Matches.registerSession (matched : Matches bridge) (orderly : Orderly bridge)
    {taskId sessionId directory : String} (named : directory ≠ "")
    (absent : bridge.activeSessions.get? sessionId = none) :
    Matches (bridge.registerSession taskId sessionId directory) := by
  intro other
  rw [orderly.countOf_registerSession taskId sessionId named,
    sessionsIn_registerSession taskId sessionId named, sum_set_of_absent_session absent]
  by_cases same : other = directory
  · subst same
    rw [if_pos rfl, matched.getD_countOf]
    simp [share]
  · rw [if_neg same, matched other]
    simp [share, Ne.symm same]

theorem Matches.not_registerSession (matched : Matches bridge) (orderly : Orderly bridge)
    {taskId sessionId directory : String} (named : directory ≠ "") {former : TaskSession}
    (active : bridge.activeSessions.get? sessionId = some former) :
    ¬Matches (bridge.registerSession taskId sessionId directory) := by
  intro again
  have before := sum_erase_session active former.directory
  have after := again former.directory
  rw [orderly.countOf_registerSession taskId sessionId named, matched.getD_countOf,
    sessionsIn_registerSession taskId sessionId named, OrderedMap.sum_set] at after
  have own : share former.directory former = 1 := if_pos rfl
  rw [own] at before
  by_cases same : former.directory = directory
  · have added : share former.directory ⟨taskId, directory⟩ = 1 := if_pos same.symm
    rw [if_pos same, added, before, ← same, if_neg (by omega)] at after
    have counts := Option.some.inj after
    omega
  · have added : share former.directory ⟨taskId, directory⟩ = 0 := if_neg (Ne.symm same)
    rw [if_neg same, added, matched former.directory, if_neg (by omega)] at after
    split at after
    · cases after
    · have counts := Option.some.inj after
      omega

theorem Matches.unregisterSession (matched : Matches bridge) (orderly : Orderly bridge)
    (sessionId : String) : Matches (bridge.unregisterSession sessionId) := by
  unfold Subscriptions.unregisterSession
  cases active : bridge.activeSessions.get? sessionId with
  | none => exact matched
  | some session =>
      dsimp only
      have before := sum_erase_session active
      have own : share session.directory session = 1 := if_pos rfl
      have present := before session.directory
      rw [own] at present
      -- The directory of the session has a subscription, since it has a session.
      have counted := matched session.directory
      rw [if_neg (by omega)] at counted
      obtain ⟨sub, held, object, found, count⟩ : ∃ sub,
          bridge.directorySubscriptions.get? session.directory = some sub ∧
          ∃ object, bridge.objects[sub]? = some object ∧
            object.sessionCount = bridge.sessionsIn session.directory := by
        simpa [countOf, Option.bind_eq_some_iff] using counted
      simp only [held, found]
      have removed : Orderly { bridge with
          activeSessions := bridge.activeSessions.erase sessionId } :=
        ⟨orderly.loopsRun, orderly.loopsApart, orderly.subscribed⟩
      intro other
      rw [removed.countOf_release held found, sessionsIn_eq_sum, activeSessions_release]
      dsimp only
      have remaining := before other
      by_cases same : other = session.directory
      · subst same
        rw [if_pos rfl, count]
        split <;> split
        · rfl
        · omega
        · omega
        · congr 1
          omega
      · have others : share other session = 0 := if_neg (Ne.symm same)
        rw [others, Nat.add_zero] at remaining
        rw [if_neg same, remaining]
        exact matched other

theorem Matches.unregisterSessions (matched : Matches bridge) (orderly : Orderly bridge)
    (sessions : List String) : Matches (sessions.foldl Subscriptions.unregisterSession bridge) := by
  induction sessions generalizing bridge with
  | nil => exact matched
  | cons sessionId rest ih =>
      exact ih (matched.unregisterSession orderly sessionId)
        (orderly.unregisterSession sessionId)

theorem Matches.step (matched : Matches bridge) (orderly : Orderly bridge) {action : Action}
    (once : RegistersOnce bridge action) : Matches (bridge.step action) := by
  have ended (loop : Nat) : Matches (bridge.endLoop loop) :=
    matched.congr (countOf_endLoop loop) (activeSessions_endLoop loop)
  cases action with
  | registerSession taskId sessionId directory =>
      by_cases named : directory = ""
      · subst named
        exact matched
      · exact matched.registerSession orderly named (once.resolve_left named)
  | unregisterSession sessionId => exact matched.unregisterSession orderly sessionId
  | unregisterTaskSessions taskId => exact matched.unregisterSessions orderly _
  | event loop =>
      unfold Subscriptions.step
      dsimp only
      split
      · exact ended loop
      · exact matched
  | endStream loop => exact ended loop
  | reconnect timer =>
      unfold Subscriptions.step
      dsimp only
      split
      · exact matched
      · exact matched.congr (countOf_start _) (activeSessions_start _)

theorem Matches.registersOnce (matched : Matches bridge) (orderly : Orderly bridge)
    {action : Action} (after : Matches (bridge.step action)) : RegistersOnce bridge action := by
  cases action with
  | registerSession taskId sessionId directory =>
      by_cases named : directory = ""
      · exact .inl named
      · cases active : bridge.activeSessions.get? sessionId with
        | none => exact .inr active
        | some former => exact absurd after (matched.not_registerSession orderly named active)
  | _ => trivial

end Steps

theorem counts_match_iff (actions : List Action) :
    (∀ initial, initial <+: actions → Matches (Machine.run step {} initial)) ↔
      Machine.Guarded step RegistersOnce actions {} :=
  Machine.always_iff_guarded (fun _ action orderly => orderly.step action)
    (fun _ _ orderly matched =>
      ⟨matched.registersOnce orderly, fun once => matched.step orderly once⟩)
    (by exact ⟨by simp, by simp, by simp⟩) (fun _ => rfl)

/-- A session is registered a second time, for the same directory or for another one. -/
theorem counts_do_not_match :
    ¬Matches (Machine.run step {} [.registerSession "t1" "s1" "/work",
        .registerSession "t1" "s1" "/work"]) ∧
      ¬Matches (Machine.run step {} [.registerSession "t1" "s1" "/work",
        .registerSession "t1" "s1" "/other"]) := by
  constructor <;> exact fun matched => absurd (matched "/work") (by decide +kernel)

end MultiAgents.Subscriptions
