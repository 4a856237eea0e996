import MultiAgents.System.Environment

/-!
# What a request leaves unchanged

For each part of the system, the requests that can change it and what the
others, the arriving events and the agents' edits keep.
-/

namespace MultiAgents

namespace Bridge

@[simp]
theorem handleEvent_activeSessions (bridge : Bridge) (event : OpenCodeEvent)
    (directory : String) :
    (bridge.handleEvent event directory).2.activeSessions = bridge.activeSessions := by
  unfold handleEvent
  split
  · rfl
  · split <;> rfl

@[simp]
theorem deliver_activeSessions (bridge : Bridge) (directory : String) (event : OpenCodeEvent) :
    (bridge.deliver directory event).2.activeSessions = bridge.activeSessions := by
  unfold deliver
  split
  · rfl
  · exact bridge.handleEvent_activeSessions event directory

@[simp]
theorem deliverAll_activeSessions (bridge : Bridge)
    (arrivals : List (String × OpenCodeEvent)) :
    (bridge.deliverAll arrivals).activeSessions = bridge.activeSessions := by
  unfold deliverAll
  induction arrivals generalizing bridge with
  | nil => rfl
  | cons arrival rest ih =>
      rw [List.foldl_cons, ih, deliver_activeSessions]

@[simp]
theorem waitForSessionIdle_activeSessions (bridge : Bridge) (sessionId : String) (timeout : Nat)
    (arrivals : List (String × OpenCodeEvent)) :
    (bridge.waitForSessionIdle sessionId timeout arrivals).2.activeSessions =
      bridge.activeSessions := by
  induction arrivals generalizing bridge with
  | nil => rfl
  | cons arrival rest ih =>
      obtain ⟨directory, event⟩ := arrival
      have kept := bridge.deliver_activeSessions directory event
      unfold waitForSessionIdle
      rcases delivered : bridge.deliver directory event with ⟨_ | ⟨woken, _ | message⟩, after⟩ <;>
        rw [delivered] at kept
      · exact (ih after).trans kept
      all_goals
        by_cases same : woken = sessionId
        · simpa [same] using kept
        · simpa [same, ih] using kept

theorem deliver_wakes {bridge after : Bridge} {directory woken : String} {event : OpenCodeEvent}
    {wakes : Signal} (delivered : bridge.deliver directory event = (some (woken, wakes), after)) :
    bridge.Registered woken := by
  unfold deliver handleEvent at delivered
  split at delivered
  · simp at delivered
  · split at delivered
    · simp at delivered
    · split at delivered
      · rename_i registered
        simp only [Prod.mk.injEq, Option.map_eq_some_iff] at delivered
        obtain ⟨⟨_, _, same, _⟩, _⟩ := delivered
        exact same ▸ registered
      · simp at delivered

theorem waitForSessionIdle_unregistered {bridge : Bridge} {sessionId : String}
    (unregistered : ¬bridge.Registered sessionId) (timeout : Nat)
    (arrivals : List (String × OpenCodeEvent)) :
    ∃ message, (bridge.waitForSessionIdle sessionId timeout arrivals).1 = .error message := by
  induction arrivals generalizing bridge with
  | nil => exact ⟨_, rfl⟩
  | cons arrival rest ih =>
      obtain ⟨directory, event⟩ := arrival
      have kept := bridge.deliver_activeSessions directory event
      unfold waitForSessionIdle
      rcases delivered : bridge.deliver directory event with ⟨_ | ⟨woken, _ | message⟩, after⟩ <;>
        rw [delivered] at kept
      all_goals
        have still : ¬after.Registered sessionId := by
          unfold Registered at unregistered ⊢
          rwa [kept]
      · exact ih still
      all_goals
        have different : woken ≠ sessionId := by
          rintro rfl
          exact unregistered (deliver_wakes delivered)
        simpa [different] using ih still

theorem registered_congr {bridge bridge' : Bridge} {sessionId : String}
    (same : bridge'.activeSessions = bridge.activeSessions) :
    bridge'.Registered sessionId ↔ bridge.Registered sessionId := by
  unfold Registered
  rw [same]

theorem mem_activate (sessionId other : String) (session : TaskSession)
    (sessions : List (String × TaskSession)) :
    other ∈ (activate sessionId session sessions).map Prod.fst ↔
      other = sessionId ∨ other ∈ sessions.map Prod.fst := by
  induction sessions with
  | nil => simp [activate]
  | cons entry rest ih =>
      obtain ⟨key, value⟩ := entry
      by_cases replaced : key = sessionId
      · subst replaced
        simp [activate]
      · simp only [activate, replaced, if_false, List.map_cons, List.mem_cons,
          ih]
        exact or_left_comm

theorem registered_registerSession (bridge : Bridge) (taskId sessionId : String)
    {directory : String} (present : directory ≠ "") (other : String) :
    (bridge.registerSession taskId sessionId directory).Registered other ↔
      other = sessionId ∨ bridge.Registered other := by
  unfold Registered registerSession
  rw [if_neg present]
  exact mem_activate sessionId other _ _

theorem registered_unregisterSession (bridge : Bridge) (sessionId other : String) :
    (bridge.unregisterSession sessionId).Registered other ↔
      other ≠ sessionId ∧ bridge.Registered other := by
  unfold unregisterSession Registered
  split
  · rename_i absent
    refine ⟨fun registered => ⟨?_, registered⟩, And.right⟩
    rintro rfl
    obtain ⟨entry, membership, same⟩ := List.mem_map.mp registered
    simpa [same] using List.find?_eq_none.mp absent entry membership
  · simp only [List.mem_map, List.mem_filter, bne_iff_ne]
    constructor
    · rintro ⟨entry, ⟨membership, different⟩, rfl⟩
      exact ⟨different, entry, membership, rfl⟩
    · rintro ⟨different, entry, membership, rfl⟩
      exact ⟨entry, ⟨membership, different⟩, rfl⟩

theorem deliver_collectedEvents (bridge : Bridge) (directory : String) (event : OpenCodeEvent)
    (sessionId : String) :
    bridge.collectedEvents sessionId <+:
      (bridge.deliver directory event).2.collectedEvents sessionId := by
  unfold deliver handleEvent
  split
  · exact List.prefix_refl _
  · split
    · exact List.prefix_refl _
    · split
      · rename_i addressee _ _
        by_cases same : sessionId = addressee
        · subst same
          simp
        · simp [Function.update_of_ne same]
      · exact List.prefix_refl _

theorem deliverAll_collectedEvents (bridge : Bridge) (arrivals : List (String × OpenCodeEvent))
    (sessionId : String) :
    bridge.collectedEvents sessionId <+:
      (bridge.deliverAll arrivals).collectedEvents sessionId := by
  unfold deliverAll
  induction arrivals generalizing bridge with
  | nil => exact List.prefix_refl _
  | cons arrival rest ih =>
      rw [List.foldl_cons]
      exact (bridge.deliver_collectedEvents _ _ sessionId).trans (ih _)

theorem waitForSessionIdle_collectedEvents {bridge : Bridge} {sessionId : String} {timeout : Nat}
    {arrivals : List (String × OpenCodeEvent)} {events : List OpenCodeEvent}
    (returned : (bridge.waitForSessionIdle sessionId timeout arrivals).1 = .ok events) :
    bridge.collectedEvents sessionId <+: events := by
  induction arrivals generalizing bridge with
  | nil => cases returned
  | cons arrival rest ih =>
      obtain ⟨directory, event⟩ := arrival
      have grown := bridge.deliver_collectedEvents directory event sessionId
      unfold waitForSessionIdle at returned
      rcases delivered : bridge.deliver directory event with ⟨_ | ⟨woken, _ | message⟩, after⟩ <;>
        rw [delivered] at grown returned
      · exact grown.trans (ih returned)
      · by_cases same : woken = sessionId
        · simp only [same, if_true, Except.ok.injEq] at returned
          exact returned ▸ grown
        · simp only [same, if_false] at returned
          exact grown.trans (ih returned)
      · by_cases same : woken = sessionId
        · simp [same] at returned
        · simp only [same, if_false] at returned
          exact grown.trans (ih returned)

end Bridge

namespace Repo

@[simp]
theorem edit_head (repo : Repo) (session : String) (action : EditAction) :
    (repo.edit session action).head = repo.head := by
  cases action <;> rfl

end Repo

/-- A command that can move a repository to another branch. -/
def GitCommand.switches : GitCommand → Bool
  | .checkout _ | .checkoutNew _ _ => true
  | _ => false

theorem Repo.run_head {repo after : Repo} {text output : String} {command : GitCommand}
    (stays : command.switches = false) (ran : repo.run text command = .ok (output, after)) :
    after.head = repo.head := by
  cases command <;> simp only [GitCommand.switches, Bool.true_eq_false] at stays <;>
    simp only [Repo.run] at ran
  case commit =>
    split at ran <;> cases ran
    rfl
  case push =>
    split at ran <;> cases ran
    rfl
  all_goals cases ran; rfl

theorem Repo.run_checkout_head {repo after : Repo} {text output branch : String}
    (ran : repo.run text (.checkout branch) = .ok (output, after)) : after.head = branch := by
  simp only [Repo.run] at ran
  split at ran <;> cases ran
  rfl

namespace Repositories

@[simp]
theorem edit_head? (repositories : Repositories) (edit : Edit) (directory : String) :
    (repositories.edit edit).head? directory = repositories.head? directory := by
  unfold Repositories.edit head?
  by_cases same : directory = edit.directory
  · subst same
    rw [Function.update_self]
    cases repositories edit.directory <;> simp
  · rw [Function.update_of_ne same]

@[simp]
theorem foldl_edit_head? (repositories : Repositories) (edits : List Edit)
    (directory : String) :
    (edits.foldl Repositories.edit repositories).head? directory =
      repositories.head? directory := by
  induction edits generalizing repositories with
  | nil => rfl
  | cons edit rest ih =>
      rw [List.foldl_cons, ih, edit_head?]

end Repositories

namespace Request

/-- A request that can move a repository to another branch. -/
def switches : Request → Bool
  | .git command _ => command.switches
  | _ => false

def registers : Request → Bool
  | .registerSession _ _ _ | .unregisterSession _ => true
  | _ => false

end Request

namespace System

variable (system : System) (choice : Choice) (request : Request)

theorem respond_state {motive : System → Prop} (unchanged : motive system)
    (performed : motive (system.perform choice request).2) :
    motive (system.respond choice request).2 := by
  unfold respond
  split
  · exact unchanged
  · exact performed

theorem expand_of_literal {request : Request} (literal : request.literal = true) :
    system.expand choice request = system := if_pos literal

@[simp]
theorem expand_bridge : (system.expand choice request).bridge = system.bridge := by
  unfold expand
  split <;> rfl

@[simp]
theorem expand_tasks : (system.expand choice request).tasks = system.tasks := by
  unfold expand
  split <;> rfl

@[simp]
theorem listen_repositories :
    (system.listen choice request).repositories = system.repositories := by
  unfold listen
  split <;> rfl

@[simp]
theorem listen_activeSessions :
    (system.listen choice request).bridge.activeSessions = system.bridge.activeSessions := by
  unfold listen
  split
  · rfl
  · exact system.bridge.deliverAll_activeSessions choice.arrivals

@[simp]
theorem listen_prompted : (system.listen choice request).prompted = system.prompted := by
  unfold listen
  split <;> rfl

@[simp]
theorem listen_tasks : (system.listen choice request).tasks = system.tasks := by
  unfold listen
  split <;> rfl

theorem runGit_head? {command : GitCommand} (stays : command.switches = false)
    (directory other : String) :
    (system.runGit choice command directory).2.repositories.head? other =
      system.repositories.head? other := by
  unfold runGit
  split
  · rfl
  · rename_i repo found
    split
    · rfl
    · rename_i output after ran
      unfold Repositories.head?
      by_cases same : other = directory
      · subst same
        simp [found, Repo.run_head stays ran]
      · simp [Function.update_of_ne same]

theorem serve_head? (literal : request.literal = true) (stays : request.switches = false)
    (directory : String) :
    (system.serve choice request).2.repositories.head? directory =
      system.repositories.head? directory := by
  have performed : (system.perform choice request).2.repositories.head? directory =
      system.repositories.head? directory := by
    cases request with
    | git command target =>
        rw [perform, if_pos (by exact literal)]
        exact system.runGit_head? choice stays target directory
    | createSession title target =>
        simp only [perform, openSession]
        split <;> rfl
    | _ => rfl
  have responded := system.respond_state choice request
    (motive := fun after => after.repositories.head? directory =
      system.repositories.head? directory) rfl performed
  simpa [serve, edit, expand_of_literal _ _ literal] using responded

theorem runGit_repositories (command : GitCommand) (directory : String) :
    ∃ repositories, (system.runGit choice command directory).2 = { system with repositories } := by
  unfold runGit
  split
  · exact ⟨_, rfl⟩
  · split <;> exact ⟨_, rfl⟩

theorem perform_git (command : GitCommand) (directory : String) :
    ∃ repositories, (system.perform choice (.git command directory)).2 =
      { system with repositories } := by
  simp only [perform]
  split
  · exact system.runGit_repositories choice command directory
  · exact ⟨_, rfl⟩

theorem serve_activeSessions (quiet : request.registers = false) :
    (system.serve choice request).2.bridge.activeSessions = system.bridge.activeSessions := by
  have performed (system : System) :
      (system.perform choice request).2.bridge.activeSessions = system.bridge.activeSessions := by
    cases request with
    | git command target =>
        obtain ⟨_, same⟩ := system.perform_git choice command target
        rw [same]
    | createSession title target =>
        simp only [perform, openSession]
        split <;> rfl
    | registerSession taskId sessionId target => simp [Request.registers] at quiet
    | unregisterSession sessionId => simp [Request.registers] at quiet
    | waitForIdle sessionId timeout =>
        exact system.bridge.waitForSessionIdle_activeSessions sessionId _ choice.arrivals
    | _ => rfl
  have responded := (system.expand choice request).respond_state choice request
    (motive := fun after => after.bridge.activeSessions =
      (system.expand choice request).bridge.activeSessions) rfl (performed _)
  simpa [serve, edit] using responded

theorem serve_tasks :
    (system.serve choice request).2.tasks = system.tasks ∨
      ∃ taskId write, request = .writeTask taskId write ∧
        (system.serve choice request).2.tasks = (system.writeTask taskId write).tasks := by
  have performed (system : System) : (system.perform choice request).2.tasks = system.tasks ∨
      ∃ taskId write, request = .writeTask taskId write ∧
        (system.perform choice request).2.tasks = (system.writeTask taskId write).tasks := by
    cases request with
    | git command target =>
        obtain ⟨_, same⟩ := system.perform_git choice command target
        exact .inl (by rw [same])
    | createSession title target =>
        simp only [perform, openSession]
        split <;> exact .inl rfl
    | writeTask taskId write => exact .inr ⟨taskId, write, rfl, rfl⟩
    | _ => exact .inl rfl
  have responded := (system.expand choice request).respond_state choice request
    (motive := fun after => after.tasks = (system.expand choice request).tasks ∨
      ∃ taskId write, request = .writeTask taskId write ∧
        after.tasks = ((system.expand choice request).writeTask taskId write).tasks)
    (.inl rfl) (performed _)
  simpa [serve, edit, writeTask] using responded

end System

end MultiAgents
