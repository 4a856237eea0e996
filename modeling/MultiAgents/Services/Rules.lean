import MultiAgents.Services.GitService
import MultiAgents.System.Steps

/-!
# Rules for the service operations

What has to be shown of an operation that can throw: one part for the answer of
its request and one for the error.
-/

namespace MultiAgents

open Effects Text

variable {assume : Assumption environment} {pre : SystemWorld → Prop}
  {raised : String → SystemWorld → Prop}

theorem issue_triple (request : Request) :
    Triple assume pre request.issue
      (fun answer after => ∃ world : SystemWorld, pre world ∧
        assume (world.step request) world.history ∧ world.answer request = answer ∧
          after = world.next request) raised :=
  .call fun world before assumed => ⟨world, before, assumed, rfl, rfl⟩

namespace GitService

theorem git_triple {command : GitCommand} {cwd : String}
    {returned : String → SystemWorld → Prop}
    (ok : ∀ (world : SystemWorld) (output : String), pre world →
      assume (world.step (.git command cwd)) world.history →
      world.answer (.git command cwd) = .ok output →
      returned (String.ofList (trim output.toList)) (world.next (.git command cwd)))
    (error : ∀ (world : SystemWorld) (message : String), pre world →
      assume (world.step (.git command cwd)) world.history →
      world.answer (.git command cwd) = .error message →
      raised s!"Git command failed: {message}" (world.next (.git command cwd))) :
    Triple assume pre (git command cwd) returned raised := by
  refine (issue_triple (.git command cwd)).bind fun answer => ?_
  cases answer with
  | ok output =>
      refine .pure ?_
      rintro _ ⟨world, before, assumed, answered, rfl⟩
      exact ok world output before assumed answered
  | error message =>
      refine .throw ?_
      rintro _ ⟨world, before, assumed, answered, rfl⟩
      exact error world message before assumed answered

end GitService

theorem ApprovalService.requestApproval_triple {taskId : String} {phase : ApprovalPhase}
    {output : ApprovalOutput} {returned : ApprovalResponse → SystemWorld → Prop}
    (ok : ∀ (world : SystemWorld) (response : ApprovalResponse), pre world →
      assume (world.step (.requestApproval taskId phase output)) world.history →
      world.answer (.requestApproval taskId phase output) = .ok response →
      returned response (world.next (.requestApproval taskId phase output)))
    (error : ∀ (world : SystemWorld) (message : String), pre world →
      assume (world.step (.requestApproval taskId phase output)) world.history →
      world.answer (.requestApproval taskId phase output) = .error message →
      raised message (world.next (.requestApproval taskId phase output))) :
    Triple assume pre (requestApproval taskId phase output) returned raised := by
  refine .attempt (.call fun world before assumed => ?_)
  rcases answered : world.answer (.requestApproval taskId phase output) with message | response
  · exact error world message before assumed answered
  · exact ok world response before assumed answered

theorem TaskRepository.findById_triple {taskId : String}
    {returned : Option TaskRow → SystemWorld → Prop}
    (ok : ∀ world : SystemWorld, pre world → assume (world.step (.findTask taskId)) world.history →
      returned (world.state.tasks taskId) (world.next (.findTask taskId)))
    (error : ∀ (world : SystemWorld) (message : String), pre world →
      assume (world.step (.findTask taskId)) world.history →
      world.answer (.findTask taskId) = .error message →
      raised message (world.next (.findTask taskId))) :
    Triple assume pre (findById taskId) returned raised := by
  refine .attempt (.call fun world before assumed => ?_)
  have answers : (∃ message, world.answer (.findTask taskId) = .error message) ∨
      world.answer (.findTask taskId) = .ok (world.state.tasks taskId) := by
    rw [SystemWorld.answer_eq _ rfl]
    unfold System.respond
    cases world.choice.fault with
    | some message => exact .inl ⟨message, rfl⟩
    | none => exact .inr rfl
  rcases answers with ⟨message, answered⟩ | answered
  · rw [answered]
    exact error world message before assumed answered
  · rw [answered]
    exact ok world before assumed

end MultiAgents
