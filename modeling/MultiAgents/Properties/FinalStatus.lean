import MultiAgents.Properties.PhasePlan

/-!
# One scan and one final status

The phases up to the merge run inside a guarded block: whatever they, or a
callback, throw is caught, and what was reached is kept.  The run then scans the
repositories once and writes its final status, which follows the report of the
Merge phase.  Outside the block the calls to the database and to the model
configuration are taken to succeed.
-/

namespace MultiAgents

open Effects Record

namespace Request

def scans : Request → Bool
  | .scanAllRepositories _ _ => true
  | _ => false

/-- The announcement, after which errors are caught. -/
def opensGuard : Request → Bool
  | .toTask _ (.orchestrationStart _) => true
  | _ => false

/-- The mark of the scan, from which on errors are not caught any more. -/
def closesGuard : Request → Bool
  | .writeTask _ (.setCurrentPhase .globalScan) => true
  | _ => false

/-- What a run does after the scan. -/
def isClosing : Request → Bool
  | .toTask _ (.scanComplete _) | .toTask _ (.orchestrationComplete _)
  | .writeTask _ (.markPhaseComplete .globalScan) | .writeTask _ (.updateStatus .completed)
  | .writeTask _ (.setFailed _) | .writeTask _ .clearResumeState => true
  | _ => false

def status? : Request → Option TaskStatus
  | .writeTask _ (.updateStatus status) => some status
  | .writeTask _ (.setFailed _) => some .failed
  | _ => none

end Request

/-- A call to the database or to the configuration failed. -/
def repositoryFailed : SystemStep → Bool
  | ⟨_, _, .findTask _, .error _⟩ | ⟨_, _, .writeTask _ _, .error _⟩
  | ⟨_, _, .configureModels _, .error _⟩ => true
  | _ => false

/-- Errors are caught after the announcement and before the scan. -/
def guarded (record : List SystemStep) : Bool :=
  record.any (fun step => step.call.opensGuard) && !record.any (fun step => step.call.closesGuard)

def SucceedsOutside (step : SystemStep) (past : List SystemStep) : Prop :=
  repositoryFailed step = true → guarded (step :: past) = true

instance (step : SystemStep) (past : List SystemStep) : Decidable (SucceedsOutside step past) :=
  inferInstanceAs (Decidable (_ → _))

def lastStatus (record : List SystemStep) : Option TaskStatus :=
  record.findSome? fun step => step.call.status?

namespace FinalStatus

open PhasePlan (Reported)

/-- Nothing was announced yet. -/
def Before (world : SystemWorld) : Prop :=
  ∀ step ∈ world.history,
    step.call.opensGuard = false ∧ step.call.scans = false ∧ step.call.marks? = none

def Unscanned (world : SystemWorld) : Prop := ∀ step ∈ world.history, step.call.scans = false

/-- The steps of the phases, followed by the given requests, the last one first. -/
def Closing (closing : List Request) (world : SystemWorld) : Prop :=
  ∃ phases : List SystemStep, (∀ step ∈ phases, step.call.scans = false) ∧
    world.history.map Step.call = closing ++ phases.map Step.call

theorem Before.next {world : SystemWorld} (before : Before world) {request : Request}
    (silent : request.opensGuard = false) (quiet : request.scans = false)
    (unmarked : request.marks? = none) : Before (world.next request) := by
  intro step membership
  rw [World.next_history] at membership
  rcases List.mem_cons.mp membership with rfl | past
  · exact ⟨silent, quiet, unmarked⟩
  · exact before step past

theorem Unscanned.next {world : SystemWorld} (unscanned : Unscanned world) {request : Request}
    (quiet : request.scans = false) : Unscanned (world.next request) := by
  intro step membership
  rw [World.next_history] at membership
  rcases List.mem_cons.mp membership with rfl | past
  · exact quiet
  · exact unscanned step past

theorem Closing.next {world : SystemWorld} {closing : List Request} (holds : Closing closing world)
    (request : Request) : Closing (request :: closing) (world.next request) := by
  obtain ⟨phases, unscanned, record⟩ := holds
  refine ⟨phases, unscanned, ?_⟩
  rw [World.next_history, List.map_cons, record, World.step_call, List.cons_append]

theorem Before.succeeds {world : SystemWorld} (before : Before world) {request : Request}
    (silent : request.opensGuard = false)
    (assumed : SucceedsOutside (world.step request) world.history) :
    repositoryFailed (world.step request) = false := by
  by_contra failed
  have inside := assumed (by simpa using failed)
  have unopened : (world.step request :: world.history).any
      (fun step => step.call.opensGuard) = false := by
    simp only [List.any_cons, World.step_call, silent, Bool.false_or, List.any_eq_false]
    exact fun step membership => by simp [(before step membership).1]
  simp [guarded, unopened] at inside

theorem Closing.succeeds {world : SystemWorld} {closing : List Request}
    (holds : Closing closing world) {request : Request}
    (closed : (request :: closing).any Request.closesGuard = true)
    (assumed : SucceedsOutside (world.step request) world.history) :
    repositoryFailed (world.step request) = false := by
  obtain ⟨phases, _, record⟩ := holds
  by_contra failed
  have inside := assumed (by simpa using failed)
  have marked : (world.step request :: world.history).any
      (fun step => step.call.closesGuard) = true := by
    have mapped : ((world.step request :: world.history).map Step.call).any
        Request.closesGuard = true := by
      rw [List.map_cons, record, World.step_call, ← List.cons_append, List.any_append, closed,
        Bool.true_or]
    rwa [List.any_map] at mapped
  simp [guarded, marked] at inside

theorem write_triple {pre : SystemWorld → Prop} {returned : Unit → SystemWorld → Prop}
    {taskId : String} {change : TaskWrite}
    (succeeds : ∀ world, pre world →
      SucceedsOutside (world.step (.writeTask taskId change)) world.history →
      repositoryFailed (world.step (.writeTask taskId change)) = false)
    (next : ∀ world, pre world → returned () (world.next (.writeTask taskId change))) :
    Triple SucceedsOutside pre (TaskRepository.write taskId change) returned
      (fun _ _ => False) := by
  apply Triple.attempt
  apply Triple.call
  intro world holds assumed
  have answered := succeeds world holds assumed
  rcases answer : world.answer (.writeTask taskId change) with message | ⟨⟩
  · simp [World.step, answer, repositoryFailed] at answered
  · exact next world holds

theorem Before.write {taskId : String} {status : TaskStatus} :
    Triple SucceedsOutside Before (TaskRepository.write taskId (.updateStatus status))
      (fun _ => Before) (fun _ _ => False) :=
  write_triple (fun _ before => before.succeeds rfl) fun _ before => before.next rfl rfl rfl

theorem Closing.write {closing : List Request} {taskId : String} {change : TaskWrite}
    (closed : (Request.writeTask taskId change :: closing).any Request.closesGuard = true) :
    Triple SucceedsOutside (Closing closing) (TaskRepository.write taskId change)
      (fun _ => Closing (.writeTask taskId change :: closing)) (fun _ _ => False) :=
  write_triple (fun _ holds => holds.succeeds closed) fun _ holds => holds.next _

theorem Closing.tell {closing : List Request} (taskId : String) (notice : Notice) :
    Triple SucceedsOutside (Closing closing) (SocketService.toTask taskId notice)
      (fun _ => Closing (.toTask taskId notice :: closing)) (fun _ _ => False) :=
  .call fun _ holds _ => holds.next _

theorem find_triple (taskId : String) (row : TaskRow) :
    Triple SucceedsOutside
      (fun world => Before world ∧ world.state.tasks taskId = some row)
      (TaskRepository.findById taskId) (fun answer world => answer = some row ∧ Before world)
      (fun _ _ => False) := by
  apply TaskRepository.findById_triple
  · rintro world ⟨before, found⟩ _
    exact ⟨found, before.next rfl rfl rfl⟩
  · rintro world message ⟨before, _⟩ assumed answered
    have succeeds := before.succeeds rfl assumed
    simp [World.step, answered, repositoryFailed] at succeeds

theorem configure_triple (taskId : String) :
    Triple SucceedsOutside Before (Process.attempt (Request.issue (.configureModels taskId)))
      (fun _ => Before) (fun _ _ => False) := by
  apply Triple.attempt
  apply Triple.call
  intro world before assumed
  have succeeds := before.succeeds rfl assumed
  rcases answer : world.answer (.configureModels taskId) with message | ⟨⟩
  · simp [World.step, answer, repositoryFailed] at succeeds
  · exact before.next rfl rfl rfl

theorem scans_of_guardedWork (request : Request) (work : request.isGuardedWork = true) :
    request.scans = false := by
  cases request <;> first | rfl | simp [Request.isGuardedWork, Request.isPhaseWork] at work

variable (run : Orchestration)

theorem runPhases_triple :
    Triple SucceedsOutside (fun world => Unscanned world ∧ PhasePlan.Entered [] world)
      run.runPhases
      (fun results world => Unscanned world ∧ Reported (Orchestration.merged results) world)
      (fun _ _ => False) := by
  have kept : Keeps SucceedsOutside Unscanned run.runPhases :=
    (Orchestration.runPhases_uses (fun _ _ => rfl) scans_of_guardedWork).keeps
      fun _ _ quiet _ holds => holds.next quiet
  rintro world ⟨holds, entered⟩ assumed
  have reached := kept world holds assumed
  have reported : Outcome _ _ (run.runPhases.exec world) :=
    (PhasePlan.runPhases_triple run).outcome ⟨List.not_mem_nil, entered⟩
  have caught : ∃ results, (run.runPhases.exec world).1 = .ok results := by
    unfold Orchestration.runPhases Orchestration.keep
    rw [Process.exec_tryCatch]
    rcases run.planningStage.exec world with ⟨error | results, after⟩
    · exact ⟨{}, rfl⟩
    · exact ⟨results, rfl⟩
  obtain ⟨results, returned⟩ := caught
  revert reached reported returned
  rcases run.runPhases.exec world with ⟨error | value, after⟩
  · rintro reached reported ⟨⟩
  · exact fun reached reported _ => ⟨reached, reported.2⟩

theorem complete_silent (results : PhaseResults) :
    Uses (fun request : Request => request.reportsMerge = false) (run.complete results) := by
  refine .bind (.attempt (.call rfl)) fun _ => .bind ?_ fun _ => ?_
  · refine .bind (.call rfl) fun _ => .bind (.call rfl) fun answer => ?_
    cases answer <;> exact .bind (.call rfl) fun _ => .pure _
  · refine .bind (.attempt (.call rfl)) fun _ => .bind (.attempt (.call rfl)) fun _ => ?_
    exact .bind (.attempt (.call rfl)) fun _ => .bind (.call rfl) fun _ => .pure _

/-- The requests with which a run ends, the last one first. -/
def closingRequests (results : PhaseResults) (scan : GlobalScanResult)
    (report : Except String ScanSummary) : List Request :=
  [.toTask run.taskId (.orchestrationComplete (Orchestration.merged results && scan.success)),
    .writeTask run.taskId .clearResumeState,
    .writeTask run.taskId (Orchestration.finalWrite results),
    .writeTask run.taskId (.markPhaseComplete .globalScan),
    .toTask run.taskId (.scanComplete report)]

theorem scan_triple (results : PhaseResults) {closing : List Request}  :
    Triple SucceedsOutside (Closing closing) (executeGlobalScanPhase (run.scanContext results))
      (fun _ world => ∃ report repositories sessionId,
        Closing (.toTask run.taskId (.scanComplete report) ::
          .scanAllRepositories repositories sessionId ::
          .toTask run.taskId (.phaseStart .globalScan) :: closing) world)
      (fun _ _ => False) := by
  apply (Closing.tell _ _).bind
  intro _
  have issued : ∀ request : Request, Triple SucceedsOutside
      (Closing (.toTask run.taskId (.phaseStart .globalScan) :: closing)) (Request.issue request)
      (fun _ => Closing (request :: .toTask run.taskId (.phaseStart .globalScan) :: closing))
      (fun _ _ => False) := fun request => .call fun _ holds _ => holds.next request
  apply (issued _).bind
  intro answer
  cases answer with
  | ok summary =>
      apply (Closing.tell _ _).bind
      intro _
      exact .pure fun _ holds => ⟨_, _, _, holds⟩
  | error message =>
      apply (Closing.tell _ _).bind
      intro _
      exact .pure fun _ holds => ⟨_, _, _, holds⟩

def Settled (result : OrchestrationResult) (world : SystemWorld) : Prop :=
  result.success = Orchestration.merged result.phases ∧
  ∃ scan report repositories sessionId,
    Closing (closingRequests run result.phases scan report ++
      [.scanAllRepositories repositories sessionId, .toTask run.taskId (.phaseStart .globalScan),
        .writeTask run.taskId (.setCurrentPhase .globalScan)]) world

theorem complete_triple (results : PhaseResults) :
    Triple SucceedsOutside Unscanned (run.complete results)
      (fun result world => result.phases = results ∧ Settled run result world)
      (fun _ _ => False) := by
  have marked : Triple SucceedsOutside Unscanned (run.write (.setCurrentPhase .globalScan))
      (fun _ => Closing [.writeTask run.taskId (.setCurrentPhase .globalScan)])
      (fun _ _ => False) :=
    (Closing.write (by rfl)).before fun world unscanned => ⟨world.history, unscanned, rfl⟩
  apply marked.bind
  intro _
  apply (scan_triple run results).bind
  intro scan
  apply Triple.exists_pre
  intro report
  apply Triple.exists_pre
  intro repositories
  apply Triple.exists_pre
  intro sessionId
  apply (Closing.write (by rfl)).bind
  intro _
  apply (Closing.write (by simp [Request.closesGuard])).bind
  intro _
  apply (Closing.write (by simp [Request.closesGuard])).bind
  intro _
  apply (Closing.tell _ _).bind
  intro _
  exact .pure fun world holds => ⟨rfl, rfl, scan, report, repositories, sessionId, holds⟩

theorem Closing.split {world : SystemWorld} {closing opening : List Request} {scan : Request}
    (holds : Closing (closing ++ scan :: opening) world) (scans : scan.scans = true)
    (quiet : ∀ request ∈ opening, request.scans = false)
    (ends : ∀ request ∈ closing, request.isClosing = true) :
    ∃ later step earlier, world.history = later ++ step :: earlier ∧ step.call.scans = true ∧
      (∀ step ∈ earlier, step.call.scans = false) ∧
      ∀ step ∈ later, step.call.isClosing = true := by
  obtain ⟨phases, unscanned, record⟩ := holds
  rw [List.append_assoc, List.cons_append] at record
  obtain ⟨later, rest, split, laterCalls, restCalls⟩ := List.map_eq_append_iff.mp record
  obtain ⟨step, earlier, rfl, stepCall, earlierCalls⟩ := List.map_eq_cons_iff.mp restCalls
  refine ⟨later, step, earlier, split, by rw [stepCall]; exact scans, ?_, ?_⟩
  · intro other membership
    have listed : other.call ∈ opening ++ phases.map Step.call :=
      earlierCalls ▸ List.mem_map_of_mem membership
    rcases List.mem_append.mp listed with opens | phase
    · exact quiet _ opens
    · obtain ⟨found, inPhases, same⟩ := List.mem_map.mp phase
      rw [← same]
      exact unscanned found inPhases
  · intro other membership
    exact ends _ (laterCalls ▸ List.mem_map_of_mem membership)

theorem closingRequests_isClosing (results : PhaseResults) (scan : GlobalScanResult)
    (report : Except String ScanSummary) :
    ∀ request ∈ closingRequests run results scan report, request.isClosing = true := by
  have final : (Request.writeTask run.taskId (Orchestration.finalWrite results)).isClosing =
      true := by
    unfold Orchestration.finalWrite
    split <;> rfl
  intro request membership
  simp only [closingRequests, List.mem_cons, List.not_mem_nil, or_false] at membership
  rcases membership with rfl | rfl | rfl | rfl | rfl
  exacts [rfl, rfl, final, rfl, rfl]

theorem lastStatus_of_closing {world : SystemWorld} {results : PhaseResults}
    {scan : GlobalScanResult} {report : Except String ScanSummary} {earlier : List Request}
    (holds : Closing (closingRequests run results scan report ++ earlier) world) :
    lastStatus world.history =
      some (if Orchestration.merged results then .completed else .failed) := by
  obtain ⟨phases, _, record⟩ := holds
  have mapped : lastStatus world.history =
      (world.history.map Step.call).findSome? Request.status? := by
    rw [List.findSome?_map]
    rfl
  rw [mapped, record]
  unfold closingRequests Orchestration.finalWrite
  cases Orchestration.merged results <;> rfl

theorem orchestrate_triple :
    Triple SucceedsOutside Before run.orchestrate
      (fun result world => Settled run result world ∧
        Reported (Orchestration.merged result.phases) world) (fun _ _ => False) := by
  apply Before.write.bind
  intro _
  apply (configure_triple run.taskId).bind
  intro _
  have announced : Triple SucceedsOutside Before
      (run.toTask (.orchestrationStart run.announcedPhases))
      (fun _ world => Unscanned world ∧ PhasePlan.Entered [] world) (fun _ _ => False) := by
    refine .call fun world before _ => ⟨?_, ?_⟩
    · exact Unscanned.next (fun step membership => (before step membership).2.1) rfl
    · have entered : PhasePlan.Entered [] world :=
        List.filterMap_eq_nil_iff.mpr fun step membership => (before step membership).2.2
      exact entered.next _
  apply announced.bind
  intro _
  apply (runPhases_triple run).bind
  intro results
  have silent : Keeps SucceedsOutside (Reported (Orchestration.merged results))
      (run.complete results) :=
    (complete_silent run results).keeps fun _ _ silent _ reported => reported.next silent
  refine ((complete_triple run results).and silent).weaken (fun _ => id) ?_ fun _ _ => And.left
  rintro result world ⟨⟨rfl, settled⟩, reported⟩
  exact ⟨settled, reported⟩

end FinalStatus

/-- For every task that exists, whatever the phases and the callbacks do: a run returns, it scans
once and after that only closes, and the status it writes last is `completed` if and only if the
Merge phase has reported success, which is also the success it returns. -/
theorem run_scans_once_and_settles (taskId : String) (options : OrchestrationOptions)
    (system : System) (choices : Nat → Choice) (row : TaskRow)
    (found : system.tasks taskId = some row)
    (outside : Always SucceedsOutside
      ((execute taskId options).exec (system.start choices)).2.history) :
    ∃ result, ((execute taskId options).exec (system.start choices)).1 = .ok result ∧
      (∃ closing scan phases,
        ((execute taskId options).exec (system.start choices)).2.history =
          closing ++ scan :: phases ∧
        scan.call.scans = true ∧ (∀ step ∈ phases, step.call.scans = false) ∧
        ∀ step ∈ closing, step.call.isClosing = true) ∧
      lastStatus ((execute taskId options).exec (system.start choices)).2.history =
        some (if mergeSucceeded ((execute taskId options).exec (system.start choices)).2.history
          then .completed else .failed) ∧
      result.success =
        mergeSucceeded ((execute taskId options).exec (system.start choices)).2.history := by
  have ran : Triple SucceedsOutside
      (fun world => FinalStatus.Before world ∧ world.state.tasks taskId = some row)
      (execute taskId options)
      (fun result world => FinalStatus.Settled ⟨taskId, row, options⟩ result world ∧
        PhasePlan.Reported (Orchestration.merged result.phases) world)
      (fun _ _ => False) := by
    apply (FinalStatus.find_triple taskId row).bind
    intro answer
    apply Triple.given
    rintro rfl
    exact FinalStatus.orchestrate_triple ⟨taskId, row, options⟩
  have nothing : FinalStatus.Before (system.start choices) := by
    intro step membership
    simp [System.start, World.start] at membership
  have outcome := ran (system.start choices) ⟨nothing, found⟩ outside
  revert outcome
  rcases (execute taskId options).exec (system.start choices) with ⟨error | result, world⟩
  · exact False.elim
  · rintro ⟨⟨success, scan, report, repositories, sessionId, holds⟩, reported⟩
    refine ⟨result, rfl, ?_, ?_, success.trans reported.symm⟩
    swap
    · rw [reported]
      exact FinalStatus.lastStatus_of_closing _ holds
    exact holds.split rfl (by simp [Request.scans])
      (FinalStatus.closingRequests_isClosing _ _ _ _)

namespace FinalStatus

open Sample

def reportingOptions : OrchestrationOptions :=
  { retryFrom .developer with onPullRequestCreated := true }

def throwingCallback : Except String OrchestrationResult × SystemWorld :=
  (execute "42" reportingOptions).exec
    (implemented.start (openedWith [(19, { fault := some "socket closed" })]))

end FinalStatus

/-- The Merge phase succeeds and a callback throws. -/
theorem run_scans_once_and_settles_after_throw :
    mergeSucceeded FinalStatus.throwingCallback.2.history = true ∧
      lastStatus FinalStatus.throwingCallback.2.history = some .completed := by
  have merged : mergeSucceeded FinalStatus.throwingCallback.2.history = true := by decide +kernel
  obtain ⟨result, returned, _, status, _⟩ := run_scans_once_and_settles "42"
    FinalStatus.reportingOptions Sample.implemented
    (Sample.openedWith [(19, { fault := some "socket closed" })]) _ rfl (by decide +kernel)
  exact ⟨merged, status.trans (congrArg some (if_pos merged))⟩

theorem System.serve_status (system : System) (choice : Choice) {request : Request}
    {taskId : String}
    (spares : ∀ write, request = .writeTask taskId write → request.setsStatus = false) :
    ((system.serve choice request).2.tasks taskId).map TaskRow.status =
      (system.tasks taskId).map TaskRow.status := by
  rcases system.serve_tasks choice request with kept | ⟨id, write, rfl, changed⟩
  · rw [kept]
  · rw [changed, System.writeTask]
    dsimp only
    by_cases own : taskId = id
    · subst own
      have quiet := spares write rfl
      rw [Function.update_self, Option.map_map]
      congr 1
      funext row
      cases write <;> first | rfl | cases quiet
    · rw [Function.update_of_ne own]

/-- A run sets the status of its own task only. -/
theorem other_tasks_keep_status (taskId : String) (options : OrchestrationOptions)
    (system : System) (choices : Nat → Choice) (other : String) :
    other = taskId ∨
      (((execute taskId options).exec (system.start choices)).2.state.tasks other).map
        TaskRow.status = (system.tasks other).map TaskRow.status := by
  refine or_iff_not_imp_left.mpr fun different => ?_
  have uses : Uses (fun request : Request => ∀ write, request = .writeTask other write →
      request.setsStatus = false) (execute taskId options) := by
    refine execute_uses (fun _ quiet _ _ => quiet) ?_
    rintro _ _ ⟨⟩
    exact absurd rfl different
  exact uses.exec_keeps (fun world : SystemWorld => (world.state.tasks other).map _ = _)
    (fun world _ spares same => (world.state.serve_status world.choice spares).trans same) rfl

end MultiAgents
