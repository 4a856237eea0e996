import MultiAgents.Properties.ApprovalRequests
import MultiAgents.Server.TaskRoutes

/-!
# Bypassing an approval

A bypass approves the first of three phases whose approval waits.  The components ask for approvals
under more names than these.
-/

namespace MultiAgents

open Effects Record Text

theorem Approvals.resolveWithAction_fst (service : Approvals) (taskId phase : String)
    (response : ApprovalResponse) (clientId userId : Option String) (now : String) :
    (service.resolveWithAction taskId phase response clientId userId now).1 =
      service.hasPendingApproval taskId phase := by
  unfold resolveWithAction hasPendingApproval
  cases found : service.pending.get? (approvalKey taskId phase) <;> simp [found]

/-- The host before any request of the user. -/
def TaskHost.start (host : TaskHost) (config : QueueConfig) (choices : Nat → Choice) :
    World (hostEnvironment config) :=
  World.start (E := hostEnvironment config) host choices

namespace IsolationSample

/-- A task of each of the users, or of the first one only. -/
def rows (both : Bool) (taskId : String) : Option TaskRow :=
  if taskId = "m1_a" then some { title := "Add login", projectId := some "p1" }
  else if taskId = "m1_b" ∧ both then some { title := "Fix search", projectId := some "p2" }
  else none

def host (both : Bool) : TaskHost where
  server :=
    { system := { repositories := fun _ => none, tasks := rows both }
      projects := fun projectId => if projectId = "p1" then some {} else none }
  ids := ["m1_b", "m1_a"]
  userIds taskId := if taskId = "m1_a" then "ada" else "ben"
  approvals :=
    if both then Approvals.empty.requestApproval "m1_b" "Analysis" .null none "09:00" else .empty

end IsolationSample

def ApprovalPhase.name : ApprovalPhase → String
  | .productPlanning => "ProductPlanning"
  | .analysis => "Analysis"
  | .developer => "Developer"
  | .testGeneration => "TestGeneration"
  | .clarification => "clarification"
  | .story storyId => s!"story-{storyId}"

namespace Bypass

open TaskRoutes

abbrev HostWorld (config : QueueConfig) := World (hostEnvironment config)

variable {config : QueueConfig} {approvals : Approvals} {taskId : String}

def Approved (approvals : Approvals) (taskId : String) (phases : List String)
    (after : Approvals) : Prop :=
  match phases.find? (approvals.hasPendingApproval taskId) with
  | none => after = approvals
  | some phase => ∃ now,
      after = (approvals.resolveWithAction taskId phase ⟨.approve, none⟩ none none now).2

theorem resolveWithAction_unasked {phase : String} (response : ApprovalResponse) (now : String)
    (unasked : approvals.hasPendingApproval taskId phase = false) :
    (approvals.resolveWithAction taskId phase response none none now).2 = approvals := by
  unfold Approvals.hasPendingApproval at unasked
  unfold Approvals.resolveWithAction
  rw [Option.isSome_eq_false_iff, Option.isNone_iff_eq_none] at unasked
  simp [unasked]

theorem serve_answer (config : QueueConfig) (host : TaskHost) (choice : Choice)
    (taskId phase : String) :
    host.serve config choice (.resolveWithAction taskId phase ⟨.approve, none⟩ none none) =
      host.perform config choice
        (.resolveWithAction taskId phase ⟨.approve, none⟩ none none) := by
  unfold TaskHost.serve
  cases choice.fault <;> rfl

theorem approveFirst_triple (phases : List String) :
    Triple Anything (fun world : HostWorld config => world.state.approvals = approvals)
      (approveFirst taskId phases)
      (fun _ world => Approved approvals taskId phases world.state.approvals)
      (fun _ world => Approved approvals taskId pendingPhases world.state.approvals) := by
  induction phases with
  | nil => exact .pure fun _ same => same
  | cons phase rest ih =>
      have answered : Triple Anything
          (fun world : HostWorld config => world.state.approvals = approvals)
          (HostRequest.issue (.resolveWithAction taskId phase ⟨.approve, none⟩ none none))
          (fun (resolved : Bool) world => resolved = approvals.hasPendingApproval taskId phase ∧
            ∃ now, world.state.approvals =
              (approvals.resolveWithAction taskId phase ⟨.approve, none⟩ none none now).2)
          (fun _ world => Approved approvals taskId pendingPhases world.state.approvals) := by
        apply Triple.call
        rintro world rfl _
        have served := serve_answer config world.state world.choice taskId phase
        refine ⟨?_, world.choice.text, ?_⟩
        · exact (congrArg Prod.fst served).trans (Approvals.resolveWithAction_fst ..)
        · exact congrArg (fun outcome => outcome.2.approvals) served
      apply answered.bind
      intro resolved
      apply Triple.given
      rintro rfl
      unfold Approved
      cases asked : approvals.hasPendingApproval taskId phase with
      | true =>
          rw [List.find?_cons_of_pos asked]
          exact .pure fun _ => id
      | false =>
          rw [List.find?_cons_of_neg (by simp [asked])]
          refine ih.before ?_
          rintro world ⟨now, same⟩
          rw [same, resolveWithAction_unasked _ now asked]

theorem serve_approvals (config : QueueConfig) (host : TaskHost) (choice : Choice)
    {request : HostRequest} (other : (∃ projectId settings,
      request = .updateSettings projectId settings) ∨ ∃ taskId, request = .findById taskId) :
    (host.serve config choice request).2.approvals = host.approvals := by
  unfold TaskHost.serve
  rcases other with ⟨projectId, settings, rfl⟩ | ⟨taskId, rfl⟩ <;> cases choice.fault <;> rfl

theorem enableAutomatic_keeps (enableForAllPhases : Value) (task : TaskView)
    (holds : Approvals → Prop) :
    Keeps Anything (fun world : HostWorld config => holds world.state.approvals)
      (enableAutomatic enableForAllPhases task) := by
  unfold enableAutomatic
  split
  · exact .pure fun _ => id
  · rename_i projectId _
    have uses : Uses (fun request : HostRequest => ∃ projectId settings,
        request = .updateSettings projectId settings)
        (Process.attempt (HostRequest.issue
          (.updateSettings projectId (.obj [("approvalMode", .str "automatic")])))) :=
      .attempt (.call ⟨_, _, rfl⟩)
    apply uses.keeps
    intro world request other _ held
    rw [World.next_state, serve_approvals config _ _ (.inl other)]
    exact held

theorem exec_withTask (found : TaskView → HostProgram UserResponse) (world : HostWorld config) :
    (withTask taskId found).exec world =
      match world.answer (.findById taskId) with
      | .error message => (.error message, world.next (.findById taskId))
      | .ok none =>
          (.ok (.refused 404 "Task not found"), world.next (.findById taskId))
      | .ok (some task) => (found task).exec (world.next (.findById taskId)) := by
  unfold withTask Process.attempt
  rw [Process.exec_bind, Process.exec_bind, Process.exec_call]
  dsimp only
  rw [Process.exec_ofExcept]
  rcases world.answer (.findById taskId) with message | _ | task <;> rfl

theorem bypass_exec (enableForAllPhases : Value) (world : HostWorld config) :
    (∃ task, world.answer (.findById taskId) = .ok (some task) ∧
      Approved world.state.approvals taskId pendingPhases
        ((bypass taskId enableForAllPhases).exec world).2.state.approvals) ∨
    (∀ task, world.answer (.findById taskId) ≠ .ok (some task)) ∧
      ((bypass taskId enableForAllPhases).exec world).2.state.approvals =
        world.state.approvals := by
  have same : (world.next (.findById taskId)).state.approvals = world.state.approvals := by
    rw [World.next_state, serve_approvals config _ _ (.inr ⟨taskId, rfl⟩)]
  have approved (task : TaskView) : Triple Anything
      (fun after : HostWorld config => after.state.approvals = world.state.approvals)
      (do
        let phase ← approveFirst taskId pendingPhases
        enableAutomatic enableForAllPhases task
        pure (UserResponse.bypassed phase enableForAllPhases))
      (fun _ after => Approved world.state.approvals taskId pendingPhases after.state.approvals)
      fun _ after => Approved world.state.approvals taskId pendingPhases
        after.state.approvals := by
    apply (approveFirst_triple pendingPhases).bind
    intro phase
    apply (enableAutomatic_keeps enableForAllPhases task _).bind
    intro _
    exact .pure fun _ => id
  unfold bypass
  rw [exec_withTask]
  generalize world.answer (.findById taskId) = answer
  rcases answer with message | _ | task
  · refine .inr ⟨?_, same⟩
    intro task found
    cases found
  · refine .inr ⟨?_, same⟩
    intro task found
    cases found
  · exact .inl ⟨task, rfl, (approved task).exec same (always_iff.mpr fun _ _ _ _ => trivial)⟩

variable {waiting : PendingApproval}

def IsApproved (waiting : PendingApproval) (approvals : Approvals) : Prop :=
  approvals.promises[waiting.request]? =
    some ⟨waiting.taskId, waiting.phase, some (.resolved ⟨.approve, none⟩)⟩

theorem not_isApproved
    (found : approvals.pending.get? (approvalKey taskId waiting.phase) = some waiting) :
    ¬IsApproved waiting approvals := by
  unfold IsApproved
  rw [approvals.waiting _ waiting found]
  intro same
  cases same

theorem isApproved_iff
    (found : approvals.pending.get? (approvalKey taskId waiting.phase) = some waiting)
    {phases : List String} {after : Approvals} (approved : Approved approvals taskId phases after) :
    IsApproved waiting after ↔
      phases.find? (approvals.hasPendingApproval taskId) = some waiting.phase := by
  unfold Approved at approved
  split at approved
  · rename_i none
    rw [approved, none]
    exact iff_of_false (not_isApproved found) nofun
  · rename_i phase first
    obtain ⟨now, rfl⟩ := approved
    have closes := approvals.resolveWithAction_closes taskId phase ⟨.approve, none⟩ none none now
    rw [first, Option.some.injEq]
    by_cases same : phase = waiting.phase
    · subst same
      exact iff_of_true (closes.settled _ waiting found rfl) rfl
    · refine iff_of_false ?_ same
      unfold IsApproved
      rw [closes.others]
      · exact not_isApproved found
      · rintro _ entry found' rfl own
        exact same (Approvals.phase_of_key (Approvals.key_of_request found' found own))

theorem story_not_listed (storyId : String) :
    (ApprovalPhase.story storyId).name ∉ pendingPhases := by
  intro listed
  have initials : (ApprovalPhase.story storyId).name.toList.head? ∈
      pendingPhases.map (·.toList.head?) := List.mem_map_of_mem listed
  have initial : (ApprovalPhase.story storyId).name.toList.head? = some 's' := by
    show ("story-" ++ storyId).toList.head? = some 's'
    simp
  rw [initial] at initials
  revert initials
  decide

theorem find?_pendingPhases_iff {phase : ApprovalPhase}
    (asked : approvals.hasPendingApproval taskId phase.name = true) :
    pendingPhases.find? (approvals.hasPendingApproval taskId) = some phase.name ↔
      phase = .analysis ∨
        phase = .developer ∧ approvals.hasPendingApproval taskId "Analysis" = false := by
  have unlisted (absent : phase.name ∉ pendingPhases) :
      pendingPhases.find? (approvals.hasPendingApproval taskId) ≠ some phase.name :=
    fun found => absent (List.mem_of_find?_eq_some found)
  cases phase with
  | analysis => exact iff_of_true (List.find?_cons_of_pos asked) (.inl rfl)
  | developer =>
      cases analysis : approvals.hasPendingApproval taskId "Analysis" with
      | true =>
          rw [pendingPhases, List.find?_cons_of_pos analysis]
          decide
      | false =>
          rw [pendingPhases, List.find?_cons_of_neg (by simp [analysis])]
          exact iff_of_true (List.find?_cons_of_pos asked) (.inr ⟨rfl, rfl⟩)
  | story storyId => exact iff_of_false (unlisted (story_not_listed storyId)) (by simp)
  | _ => exact iff_of_false (unlisted (by decide)) (by simp)

end Bypass

open Bypass in
/-- A bypass resolves a request that waits for the task as approved exactly if the task is found and
the request is for the Analysis, or for the Developer phase while none is for the Analysis. -/
theorem bypass_approves_pending (config : QueueConfig) (world : World (hostEnvironment config))
    (taskId : String) (enableForAllPhases : Value) (phase : ApprovalPhase)
    (waiting : PendingApproval) (own : waiting.taskId = taskId ∧ waiting.phase = phase.name)
    (found : world.state.approvals.pending.get? (approvalKey taskId phase.name) = some waiting) :
    ((TaskRoutes.bypass taskId enableForAllPhases).exec world).2.state.approvals.promises[
        waiting.request]? =
        some ⟨taskId, phase.name, some (.resolved ⟨.approve, none⟩)⟩ ↔
      (∃ task, world.answer (.findById taskId) = .ok (some task)) ∧
      (phase = .analysis ∨ phase = .developer ∧
        world.state.approvals.hasPendingApproval taskId "Analysis" = false) := by
  obtain ⟨rfl, phaseName⟩ := own
  have asked : world.state.approvals.hasPendingApproval waiting.taskId phase.name = true := by
    rw [Approvals.hasPendingApproval, found]
    rfl
  rw [← find?_pendingPhases_iff asked, ← phaseName]
  rw [← phaseName] at found
  rcases bypass_exec enableForAllPhases world with ⟨task, read, approved⟩ | ⟨unread, same⟩
  · rw [and_iff_right ⟨task, read⟩]
    exact isApproved_iff found approved
  · rw [same]
    refine iff_of_false (not_isApproved found) ?_
    rintro ⟨⟨task, read⟩, -⟩
    exact unread task read

namespace Bypass

def host (phase : ApprovalPhase) : TaskHost :=
  { IsolationSample.host false with
    approvals := Approvals.empty.requestApproval "m1_a" phase.name .null none "09:00" }

def bypassed (phase : ApprovalPhase) : Option ApprovalPromise :=
  ((TaskRoutes.bypass "m1_a" none).exec
    ((host phase).start {} fun _ => {})).2.state.approvals.promises[0]?

end Bypass

/-- The approval of a story, and that of the tests, waits on. -/
theorem bypass_misses_story :
    Bypass.bypassed (.story "story-1") = some ⟨"m1_a", "story-story-1", none⟩ ∧
      Bypass.bypassed .testGeneration = some ⟨"m1_a", "TestGeneration", none⟩ := by
  decide +kernel

theorem bypass_approves_analysis :
    Bypass.bypassed .analysis =
      some ⟨"m1_a", "Analysis", some (.resolved ⟨.approve, none⟩)⟩ :=
  (bypass_approves_pending {} ((Bypass.host .analysis).start {} fun _ => {}) "m1_a" none .analysis
    { request := 0, timeout := false, taskId := "m1_a", phase := "Analysis", output := .null,
      requestedAt := "09:00" } ⟨rfl, rfl⟩ rfl).mpr ⟨⟨_, rfl⟩, .inl rfl⟩

end MultiAgents
