import MultiAgents.Orchestrator.Rules
import MultiAgents.Properties.Sample

/-!
# Which phases a run announces and which it enters

A run computes from its options and from the phases recorded earlier what it
will skip, and announces the rest.  The record holds objects and is searched for
names; and two of the phases are entered whatever was announced.
-/

namespace MultiAgents

open Effects Record

/-- The phases a run looks up in the record. -/
def recordedPhases : List Phase := [.planning, .analysis, .developer, .testGeneration, .merge]

def TaskWrite.marksComplete? : TaskWrite → Option Phase
  | .markPhaseComplete phase => some phase
  | _ => none

/-- A task after some writes; nothing had been recorded for it before. -/
def TaskRow.after (row : TaskRow) (writes : List TaskWrite) : TaskRow :=
  writes.foldl TaskRow.apply { row with completedPhases := none }

namespace TaskRow

theorem apply_completedPhases (row : TaskRow) (write : TaskWrite) :
    (row.apply write).completedPhases.getD [] =
      row.completedPhases.getD [] ++ write.marksComplete?.toList.map CompletedPhase.entry := by
  cases write <;> simp [apply, TaskWrite.marksComplete?]

theorem foldl_apply_completedPhases (row : TaskRow) (writes : List TaskWrite) :
    (writes.foldl apply row).completedPhases.getD [] =
      row.completedPhases.getD [] ++
        (writes.filterMap TaskWrite.marksComplete?).map CompletedPhase.entry := by
  induction writes generalizing row with
  | nil => simp
  | cons write rest ih =>
      rw [List.foldl_cons, ih, apply_completedPhases, List.append_assoc]
      cases marked : write.marksComplete? <;> simp [marked]

theorem after_isDone (row : TaskRow) (writes : List TaskWrite) (taskId : String)
    (options : OrchestrationOptions) (phase : Phase) :
    (Orchestration.mk taskId (row.after writes) options).isDone phase = false := by
  have record := foldl_apply_completedPhases { row with completedPhases := none } writes
  simp only [Option.getD_none, List.nil_append] at record
  unfold Orchestration.isDone TaskRow.after
  rw [record]
  simp

end TaskRow

/-- The next run recognises exactly the recorded phases if and only if none of those it looks up
was recorded. -/
theorem recorded_phases_recognised_iff (taskId : String) (options : OrchestrationOptions)
    (row : TaskRow) (writes : List TaskWrite) :
    (∀ phase ∈ recordedPhases,
      (Orchestration.mk taskId (row.after writes) options).isDone phase = true ↔
        phase ∈ writes.filterMap TaskWrite.marksComplete?) ↔
    ∀ phase ∈ recordedPhases, TaskWrite.markPhaseComplete phase ∉ writes := by
  have recorded (phase : Phase) : phase ∈ writes.filterMap TaskWrite.marksComplete? ↔
      TaskWrite.markPhaseComplete phase ∈ writes := by
    rw [List.mem_filterMap]
    constructor
    · rintro ⟨write, membership, marked⟩
      cases write with
      | markPhaseComplete other =>
          obtain rfl : other = phase := by simpa [TaskWrite.marksComplete?] using marked
          exact membership
      | _ => simp [TaskWrite.marksComplete?] at marked
    · intro membership
      exact ⟨_, membership, rfl⟩
  simp only [TaskRow.after_isDone, recorded, Bool.false_eq_true, false_iff]

/-- The Planning phase was completed and the next run does not know it. -/
theorem completed_planning_not_recognised :
    ¬∀ phase ∈ recordedPhases,
      (Orchestration.mk "42" (TaskRow.after { title := "Login" } [.markPhaseComplete .planning])
          Sample.options).isDone phase = true ↔
        phase ∈ [TaskWrite.markPhaseComplete .planning].filterMap TaskWrite.marksComplete? := by
  decide

def Request.marks? : Request → Option Phase
  | .writeTask _ (.setCurrentPhase phase) => some phase
  | _ => none

/-- The report with which the Merge phase ends when it succeeds. -/
def Request.reportsMerge : Request → Bool
  | .toTask _ (.phaseComplete .merge success) => success
  | _ => false

/-- The Merge phase was entered and has reported success. -/
def mergeSucceeded : List SystemStep → Bool
  | [] => false
  | step :: past => step.call.reportsMerge && past.any (fun earlier =>
      earlier.call.marks? == some .merge) || mergeSucceeded past

def enteredPhases (record : List SystemStep) : List Phase :=
  (record.filterMap fun step => step.call.marks?).reverse

def Request.announcement? : Request → Option (List Phase)
  | .toTask _ (.orchestrationStart phases) => some phases
  | _ => none

def announcedPhases (record : List SystemStep) : Option (List Phase) :=
  record.reverse.findSome? fun step => step.call.announcement?

/-- The announcement and the guards of the phases agree: the run does not start behind the
Developer phase, the phases that are entered in any case are not known by name as done, and an
analysis that is announced as skipped is preserved. -/
def PlanAgrees (options : OrchestrationOptions) (row : TaskRow) : Prop :=
  options.startFromPhase ∉ [some .testGeneration, some .merge, some .globalScan] ∧
  .name .developer ∉ row.completedPhases.getD [] ∧
  .name .merge ∉ row.completedPhases.getD [] ∧
  (.name .testGeneration ∈ row.completedPhases.getD [] → options.skipTestGeneration = true) ∧
  (options.startFromPhase = some .developer ∨ .name .analysis ∈ row.completedPhases.getD [] →
    options.preserveAnalysis = true)

instance (options : OrchestrationOptions) (row : TaskRow) : Decidable (PlanAgrees options row) :=
  inferInstanceAs (Decidable (_ ∧ _))

namespace PhasePlan

def guardedPhases (run : Orchestration) : List Phase :=
  (if run.skipPlanning then [] else [.planning]) ++
  (if run.skipAnalysis && run.options.preserveAnalysis then [] else [.analysis]) ++
  [.developer] ++ (if run.options.skipTestGeneration then [] else [.testGeneration]) ++
  [.merge, .globalScan]

theorem announcedPhases_eq_iff_flags (run : Orchestration) :
    run.announcedPhases = guardedPhases run ↔
      (run.skipAnalysis = true → run.options.preserveAnalysis = true) ∧
      (2 < run.startPhaseIndex || run.isDone .developer) = false ∧
      (3 < run.startPhaseIndex || run.isDone .testGeneration) ≤ run.options.skipTestGeneration ∧
      (4 < run.startPhaseIndex || run.isDone .merge) = false := by
  unfold Orchestration.announcedPhases guardedPhases phaseOrder
  rw [Bool.or_assoc run.options.skipTestGeneration]
  generalize run.skipPlanning = planning
  generalize run.skipAnalysis = analysis
  generalize run.options.preserveAnalysis = preserved
  generalize (decide (2 < run.startPhaseIndex) || run.isDone .developer) = developer
  generalize (decide (3 < run.startPhaseIndex) || run.isDone .testGeneration) = tests
  generalize run.options.skipTestGeneration = skipTests
  generalize (decide (4 < run.startPhaseIndex) || run.isDone .merge) = merge
  cases planning <;> cases analysis <;> cases developer <;> cases merge <;>
    cases preserved <;> cases tests <;> cases skipTests <;> decide

theorem lt_startPhaseIndex_iff (run : Orchestration) :
    (1 < run.startPhaseIndex ↔ run.options.startFromPhase ∈
      [some .developer, some .testGeneration, some .merge, some .globalScan]) ∧
    (2 < run.startPhaseIndex ↔ run.options.startFromPhase ∈
      [some .testGeneration, some .merge, some .globalScan]) := by
  unfold Orchestration.startPhaseIndex
  rcases run.options.startFromPhase with _ | phase
  · decide
  · cases phase <;> decide

theorem announcedPhases_eq_iff (run : Orchestration) :
    run.announcedPhases = guardedPhases run ↔ PlanAgrees run.options run.row := by
  have done (phase : Phase) : run.isDone phase = true ↔
      .name phase ∈ run.row.completedPhases.getD [] := by
    simp [Orchestration.isDone]
  obtain ⟨developer, tests⟩ := lt_startPhaseIndex_iff run
  rw [announcedPhases_eq_iff_flags]
  simp only [PlanAgrees, ← done, Orchestration.skipAnalysis, Bool.or_eq_true, Bool.or_eq_false_iff,
    decide_eq_true_eq, decide_eq_false_iff_not, Bool.le_iff_imp]
  rw [List.mem_cons, ← tests] at developer
  rw [← tests]
  constructor
  · rintro ⟨analysis, ⟨early, notDeveloper⟩, skipped, _, notMerge⟩
    refine ⟨early, by simpa using notDeveloper, by simpa using notMerge, ?_, ?_⟩
    · exact fun known => skipped (.inr known)
    · rintro (start | known)
      · exact analysis (.inl (developer.mpr (.inl start)))
      · exact analysis (.inr known)
  · rintro ⟨early, notDeveloper, notMerge, skipped, preserved⟩
    refine ⟨?_, ⟨early, by simpa using notDeveloper⟩, ?_, by omega, by simpa using notMerge⟩
    · rintro (late | known)
      · exact preserved (.inl ((developer.mp late).resolve_right early))
      · exact preserved (.inr known)
    · rintro (late | known)
      · omega
      · exact skipped known

/-- The phases entered so far, the last one first. -/
def Entered (phases : List Phase) (world : SystemWorld) : Prop :=
  (world.history.filterMap fun step => step.call.marks?) = phases

variable {phases : List Phase}

theorem Entered.next {world : SystemWorld} (entered : Entered phases world) (request : Request) :
    Entered (request.marks?.toList ++ phases) (world.next request) := by
  unfold Entered at entered ⊢
  rw [World.next_history, List.filterMap_cons, World.step_call, entered]
  cases request.marks? <;> rfl

theorem Entered.keeps {α : Type} {program : Program α}
    (uses : Uses (fun request : Request => request.marks? = none) program) :
    Keeps Anything (Entered phases) program := by
  apply uses.keeps
  intro world request unmarked _ entered
  simpa [unmarked] using entered.next request

/-- What the record tells of a merge. -/
def Reported (success : Bool) (world : SystemWorld) : Prop :=
  mergeSucceeded world.history = success

theorem Reported.next {success : Bool} {world : SystemWorld} (reported : Reported success world)
    {request : Request} (silent : request.reportsMerge = false) :
    Reported success (world.next request) := by
  unfold Reported at reported ⊢
  rw [World.next_history, mergeSucceeded, World.step_call, silent, reported]
  rfl

theorem Reported.keeps {success : Bool} {α : Type} {program : Program α}
    (uses : Uses (fun request : Request => request.reportsMerge = false) program) :
    Keeps Anything (Reported success) program :=
  uses.keeps fun _ _ silent _ reported => reported.next silent

/-- The Merge phase is not among the phases entered. -/
def Early (phases : List Phase) (world : SystemWorld) : Prop :=
  .merge ∉ phases ∧ Entered phases world

theorem Early.reported {world : SystemWorld} (early : Early phases world) :
    Reported false world := by
  obtain ⟨absent, entered⟩ := early
  have unmarked : ∀ step ∈ world.history, step.call.marks? ≠ some .merge := by
    intro step isStep marked
    exact absent (entered ▸ List.mem_filterMap.mpr ⟨step, isStep, marked⟩)
  unfold Reported
  clear entered
  revert unmarked
  induction world.history with
  | nil => exact fun _ => rfl
  | cons step past ih =>
      intro unmarked
      have later := ih fun earlier isEarlier => unmarked earlier (.tail _ isEarlier)
      have none : (past.any fun earlier => earlier.call.marks? == some .merge) = false :=
        List.any_eq_false.mpr fun earlier isEarlier => by
          simpa using unmarked earlier (.tail _ isEarlier)
      rw [mergeSucceeded, none, later, Bool.and_false, Bool.or_false]

theorem Early.triple {α : Type} {program : Program α}
    (uses : Uses (fun request : Request => request.marks? = none) program) :
    Triple Anything (Early phases) program (fun _ => Early phases) (fun _ => Reported false) := by
  have kept : Keeps Anything (Early phases) program := by
    rintro world ⟨absent, entered⟩ assumed
    exact ((Entered.keeps uses).weaken (fun _ => id) (fun _ _ reached => ⟨absent, reached⟩)
      fun _ _ reached => ⟨absent, reached⟩) world entered assumed
  exact kept.onRaise fun _ _ => Early.reported

theorem Entered.enter (taskId : String) (phase : Phase) :
    Triple Anything (Entered phases) (TaskRepository.write taskId (.setCurrentPhase phase))
      (fun _ => Entered (phase :: phases)) (fun _ _ => True) := by
  apply Triple.attempt
  apply Triple.call
  intro world entered _
  have marked := entered.next (.writeTask taskId (.setCurrentPhase phase))
  cases world.answer (.writeTask taskId (.setCurrentPhase phase)) with
  | error message => trivial
  | ok value => exact marked

theorem Early.enters (taskId : String) (phase : Phase) :
    Triple Anything (Early phases) (TaskRepository.write taskId (.setCurrentPhase phase))
      (fun _ world => Entered (phase :: phases) world ∧ Reported false world)
      (fun _ => Reported false) :=
  ((Entered.enter taskId phase).and (Reported.keeps (.attempt (.call rfl)))).weaken
    (fun _ early => ⟨early.2, early.reported⟩) (fun _ _ => id) fun _ _ => And.right

theorem Early.enter (taskId : String) {phase : Phase} (other : phase ≠ .merge) :
    Triple Anything (Early phases) (TaskRepository.write taskId (.setCurrentPhase phase))
      (fun _ => Early (phase :: phases)) (fun _ => Reported false) := by
  intro world early
  exact ((Early.enters taskId phase).weaken (fun _ => id)
    (fun _ _ reached => ⟨by simp [other.symm, early.1], reached.1⟩) fun _ _ => id) world early

theorem write_uses {taskId : String} {change : TaskWrite}
    (unmarked : (Request.writeTask taskId change).marks? = none) :
    Uses (fun request : Request => request.marks? = none) (TaskRepository.write taskId change) :=
  .attempt (.call unmarked)

theorem marks_of_work (request : Request) (work : request.isPhaseWork = true) :
    request.marks? = none := by
  cases request with
  | writeTask taskId write =>
      cases write <;> first | rfl | simp [Request.isPhaseWork, TaskWrite.isPhaseWork] at work
  | _ => rfl

theorem later_marks_of_work (request : Request) (work : request.isPhaseWork = true)
    (_ : request.savesAnalysis = false) : request.marks? = none :=
  marks_of_work request work

def Completed (phases : List Phase) (results : PhaseResults) (world : SystemWorld) : Prop :=
  results.merge.isSome = true → Entered phases world

/-- What the phases have left when they are over. -/
def Ended (phases : List Phase) (results : PhaseResults) (world : SystemWorld) : Prop :=
  Completed phases results world ∧ Reported (results.merge.any MergeResult.success) world

theorem Ended.keep {pre : SystemWorld → Prop} {results : PhaseResults}
    {rest : Program PhaseResults} (unmerged : results.merge = none)
    (triple : Triple Anything pre rest (Ended phases) (fun _ => Reported false)) :
    Triple Anything pre (Orchestration.keep results rest) (Ended phases)
      (fun _ => Reported false) := by
  apply triple.tryCatch
  intro _
  apply Triple.pure
  intro world reported
  refine ⟨fun merged => ?_, by rwa [unmerged]⟩
  simp [unmerged] at merged

section Merge

variable (context : MergePhaseContext) {success : Bool}

/-- The Merge phase was entered. -/
def Merging (success : Bool) (world : SystemWorld) : Prop :=
  Reported success world ∧
    world.history.any (fun step => step.call.marks? == some .merge) = true

theorem Merging.keeps {α : Type} {program : Program α}
    (uses : Uses (fun request : Request => request.reportsMerge = false) program) :
    Keeps Anything (Merging success) program := by
  apply uses.keeps
  rintro world request silent _ ⟨reported, entered⟩
  refine ⟨reported.next silent, ?_⟩
  rw [World.next_history, List.any_cons, entered, Bool.or_true]

theorem Merging.triple {α : Type} {program : Program α}
    (uses : Uses (fun request : Request => request.reportsMerge = false) program) :
    Triple Anything (Merging success) program (fun _ => Merging success)
      (fun _ => Reported success) :=
  (Merging.keeps uses).onRaise fun _ _ => And.left

theorem Merging.report (merge : MergeResult) :
    Triple Anything (Merging false) (do
        context.toTask (.phaseComplete .merge merge.success)
        pure merge : Program MergeResult)
      (fun merge => Reported merge.success) (fun _ => Reported false) := by
  have reported : Triple Anything (Merging false)
      (context.toTask (.phaseComplete .merge merge.success))
      (fun _ => Reported merge.success) (fun _ => Reported false) := by
    apply Triple.call
    rintro world ⟨reported, entered⟩ _
    unfold Reported at reported ⊢
    rw [World.next_history, mergeSucceeded, World.step_call, entered, reported]
    simp [Request.reportsMerge]
  exact reported.bind fun _ => .pure fun _ => id

/-- The Merge phase reports the success that it returns. -/
theorem executeMergePhase_reports :
    Triple Anything (Merging false) (executeMergePhase context)
      (fun merge => Reported merge.success) (fun _ => Reported false) := by
  apply (Merging.triple (.call rfl)).bind
  intro _
  refine .ite (fun _ => .pure fun _ => And.left) fun _ => ?_
  apply (Merging.triple (.forM fun _ _ =>
    MergePhaseContext.pushRemaining_uses fun _ _ => rfl)).bind
  intro _
  apply (Merging.triple (.foldlM _ fun created repo _ => ?_)).bind
  · intro created
    unfold MergePhaseContext.settlePullRequests
    split
    · exact Merging.report context _
    · apply (Merging.triple (.attempt (.call (by rfl)))).bind
      intro _
      apply (Merging.triple (.ite (.pure _) (.ite (.bind (.call (by rfl)) fun _ =>
        .attempt (.call (by rfl))) (.pure _)))).bind
      intro approved
      refine .ite (fun _ => ?_) fun _ => Merging.report context _
      apply (Merging.triple (.foldlM _ fun _ _ _ =>
        .bind (mergePullRequest_uses fun _ _ => rfl) fun _ => .pure _)).bind
      exact fun failures => Merging.report context _
  · refine .tryCatch (.bind ?_ fun _ => .pure _) fun _ => .pure _
    exact .bind (GitService.createPullRequest_uses (fun _ _ => rfl) fun _ => rfl) fun _ =>
      .bind (.call rfl) fun _ => .pure _

end Merge

variable (run : Orchestration)

theorem notify_uses (given : Bool) (callback : Callback) :
    Uses (fun request : Request => request.marks? = none) (run.notify given callback) :=
  .ite (.attempt (.call rfl)) (.pure _)

theorem awaitApproval_uses (phase : ApprovalPhase) (current next : Phase)
    (output : ApprovalOutput) :
    Uses (fun request : Request => request.marks? = none)
      (run.awaitApproval phase current next output) := by
  refine .ite ?_ (.pure _)
  refine .bind (.attempt (.call rfl)) fun _ => .bind (.call rfl) fun _ => ?_
  refine .bind (.attempt (.call rfl)) fun _ => .bind (.attempt (.call rfl)) fun _ => ?_
  exact .bind (.call rfl) fun _ => .ite (.pure _) (.throw _)

theorem mergeStage_triple (results : PhaseResults) (analysis : AnalysisResultV2)
    (developer : DeveloperResultV2) :
    Triple Anything (Early phases) (run.mergeStage results analysis developer)
      (Ended (.merge :: phases)) (fun _ => Reported false) := by
  apply (Early.enters _ _).bind
  intro _
  refine Triple.bind (.ofExcept (fun _ _ _ => id) fun _ _ _ => And.right) fun description => ?_
  have merging (world : SystemWorld)
      (entered : Entered (.merge :: phases) world ∧ Reported false world) :
      Entered (.merge :: phases) world ∧ Merging false world := by
    refine ⟨entered.1, entered.2, List.any_eq_true.mpr ?_⟩
    have marked : Phase.merge ∈ world.history.filterMap fun step => step.call.marks? :=
      entered.1 ▸ List.mem_cons_self
    obtain ⟨step, isStep, isMarked⟩ := List.mem_filterMap.mp marked
    exact ⟨step, isStep, by simp [isMarked]⟩
  apply (((Entered.keeps (executeMergePhase_work later_marks_of_work _)).and
    (executeMergePhase_reports _)).weaken merging (fun _ _ => id) fun _ _ => And.right).bind
  intro merge
  have kept {program : Program PUnit}
      (uses : Uses (fun request : Request => request.marks? = none ∧ request.reportsMerge = false)
        program) :
      Keeps Anything (fun world => Entered (.merge :: phases) world ∧
        Reported merge.success world) program :=
    (Entered.keeps (uses.mono fun _ => And.left)).and
      (Reported.keeps (uses.mono fun _ => And.right))
  have ended (world : SystemWorld)
      (reached : Entered (.merge :: phases) world ∧ Reported merge.success world) :
      Ended (.merge :: phases) { results with merge := some merge } world :=
    ⟨fun _ => reached.1, reached.2⟩
  refine Triple.tryCatch ?_ fun _ => .pure ended
  refine Triple.bind (kept (.forM fun _ _ => .ite (.attempt (.call ⟨rfl, rfl⟩)) (.pure _)))
    fun _ => ?_
  exact Triple.bind (kept (.attempt (.call ⟨rfl, rfl⟩))) fun _ => .pure ended

/-- The phases entered from the tests on, the last one first. -/
def fromTests : List Phase :=
  .merge :: if run.options.skipTestGeneration then [] else [.testGeneration]

theorem testStage_triple {results : PhaseResults} (unmerged : results.merge = none)
    (analysis : AnalysisResultV2) (developer : DeveloperResultV2) :
    Triple Anything (Early phases) (run.testStage results analysis developer)
      (Ended (fromTests run ++ phases)) (fun _ => Reported false) := by
  unfold Orchestration.testStage fromTests
  by_cases skipped : run.options.skipTestGeneration = true
  · simp only [skipped, if_true]
    exact mergeStage_triple run results analysis developer
  · simp only [skipped, Bool.false_eq_true, if_false]
    apply (Early.enter _ (by decide)).bind
    intro _
    apply (Early.triple (runTestGenerationPhase_work later_marks_of_work _)).bind
    intro tests
    refine Ended.keep (by exact unmerged) ?_
    apply (Early.triple (notify_uses run _ _)).bind
    intro _
    apply (Early.triple (write_uses rfl)).bind
    intro _
    apply (Early.triple (.ite (.pure _) (awaitApproval_uses run _ _ _ _))).bind
    intro _
    exact mergeStage_triple run _ analysis developer

theorem developerStage_triple {results : PhaseResults} (unmerged : results.merge = none)
    (analysis : AnalysisResultV2) :
    Triple Anything (Early phases) (run.developerStage results analysis)
      (Ended (fromTests run ++ .developer :: phases)) (fun _ => Reported false) := by
  apply (Early.enter _ (by decide)).bind
  intro _
  have work := executeDeveloperPhase_work later_marks_of_work (run.developerContext analysis)
    (by rintro write ⟨⟩ storyIndex; rfl)
  apply (Early.triple work).bind
  intro developer
  refine Ended.keep (by exact unmerged) ?_
  apply (Early.triple (.bind (notify_uses run _ _) fun _ =>
    .forM fun _ _ => notify_uses run _ _)).bind
  intro _
  apply (Early.triple (write_uses rfl)).bind
  intro _
  apply (Early.triple (awaitApproval_uses run _ _ _ _)).bind
  intro _
  exact testStage_triple run (by exact unmerged) analysis developer

theorem afterAnalysis_triple {results : PhaseResults} (unmerged : results.merge = none)
    (analysis : AnalysisResultV2) :
    Triple Anything (Early phases) (run.afterAnalysis results analysis)
      (Ended (fromTests run ++ .developer :: phases)) (fun _ => Reported false) := by
  apply (Early.triple (awaitApproval_uses run _ _ _ _)).bind
  intro _
  exact developerStage_triple run unmerged analysis

/-- The phases entered from the analysis on. -/
def fromAnalysis : List Phase :=
  fromTests run ++ .developer ::
    if run.skipAnalysis && run.options.preserveAnalysis then [] else [.analysis]

theorem analysisStage_triple {results : PhaseResults} (unmerged : results.merge = none) :
    Triple Anything (Early phases) (run.analysisStage results)
      (Ended (fromAnalysis run ++ phases)) (fun _ => Reported false) := by
  unfold Orchestration.analysisStage fromAnalysis
  by_cases preserved : (run.skipAnalysis && run.options.preserveAnalysis) = true
  · simp only [preserved, if_true, List.append_assoc, List.cons_append, List.nil_append]
    apply (Early.triple (.ofExcept _)).bind
    intro analysis
    refine Ended.keep (by exact unmerged) ?_
    exact afterAnalysis_triple run (by exact unmerged) analysis
  · simp only [preserved, Bool.false_eq_true, if_false, List.append_assoc, List.cons_append,
      List.nil_append]
    apply (Early.enter _ (by decide)).bind
    intro _
    apply (Early.triple (executeAnalysisPhase_work _ marks_of_work)).bind
    intro analysis
    refine Ended.keep (by exact unmerged) ?_
    apply (Early.triple (notify_uses run _ _)).bind
    intro _
    apply (Early.triple (.ofExcept _)).bind
    intro _
    apply (Early.triple (write_uses rfl)).bind
    intro _
    exact afterAnalysis_triple run (by exact unmerged) analysis

theorem runPhases_triple :
    Triple Anything (Early []) run.runPhases
      (Ended (fromAnalysis run ++ if run.skipPlanning then [] else [.planning]))
      (fun _ => Reported false) := by
  refine Ended.keep (by rfl) ?_
  unfold Orchestration.planningStage
  by_cases skipped : run.skipPlanning = true
  · simp only [skipped, if_true]
    exact analysisStage_triple run rfl
  · simp only [skipped, Bool.false_eq_true, if_false]
    apply (Early.enter _ (by decide)).bind
    intro _
    apply (Early.triple (runProductPlanningPhase_work later_marks_of_work _)).bind
    intro planning
    refine Ended.keep (by rfl) ?_
    apply (Early.triple (notify_uses run _ _)).bind
    intro _
    refine .ite (fun _ => ?_) fun _ => .throw fun _ => Early.reported
    apply (Early.triple (write_uses rfl)).bind
    intro _
    apply (Early.triple (write_uses rfl)).bind
    intro _
    exact analysisStage_triple run rfl

theorem announcedPhases_suffix {earlier later : List SystemStep} {announced : List Phase}
    (known : MultiAgents.announcedPhases earlier = some announced) (order : earlier <:+ later) :
    MultiAgents.announcedPhases later = some announced := by
  obtain ⟨newer, rfl⟩ := order
  unfold MultiAgents.announcedPhases at known ⊢
  simp [List.reverse_append, List.findSome?_append, known]

theorem announcedPhases_keeps {α : Type} (program : Program α) (announced : List Phase) :
    Keeps Anything
      (fun world => MultiAgents.announcedPhases world.history = some announced) program := by
  intro world known _
  have later := announcedPhases_suffix known (program.history_suffix world)
  revert later
  rcases program.exec world with ⟨_ | _, _⟩ <;> exact id

theorem Completed.triple {α : Type} {program : Program α} {results : PhaseResults}
    (uses : Uses (fun request : Request => request.marks? = none) program) :
    Triple Anything (Completed phases results) program (fun _ => Completed phases results)
      (fun _ _ => True) := by
  have kept : Keeps Anything (Completed phases results) program := by
    apply uses.keeps
    intro world request unmarked _ completed merged
    simpa [unmarked] using (completed merged).next request
  exact kept.onRaise fun _ _ _ => trivial

theorem Completed.enter (taskId : String) (phase : Phase) (results : PhaseResults) :
    Triple Anything (Completed phases results)
      (TaskRepository.write taskId (.setCurrentPhase phase))
      (fun _ => Completed (phase :: phases) results) (fun _ _ => True) := by
  intro world completed assumed
  by_cases merged : results.merge.isSome = true
  · refine (Entered.enter taskId phase).weaken (fun _ => id) (fun _ _ entered _ => entered)
      (fun _ _ => id) world (completed merged) assumed
  · rcases (TaskRepository.write taskId (.setCurrentPhase phase)).exec world with ⟨_ | _, _⟩
    · trivial
    · exact fun reached => (merged reached).elim

theorem complete_triple (results : PhaseResults) :
    Triple Anything (Completed phases results) (run.complete results)
      (fun result => Completed (.globalScan :: phases) result.phases) (fun _ _ => True) := by
  have scanned : Uses (fun request : Request => request.marks? = none)
      (executeGlobalScanPhase (run.scanContext results)) :=
    executeGlobalScanPhase_uses (fun _ _ => rfl) fun _ _ => rfl
  have final : (Request.writeTask run.taskId (Orchestration.finalWrite results)).marks? = none := by
    unfold Orchestration.finalWrite
    split <;> rfl
  apply (Completed.enter _ _ _).bind
  intro _
  apply (Completed.triple scanned).bind
  intro scan
  apply (Completed.triple (write_uses rfl)).bind
  intro _
  apply (Completed.triple (write_uses final)).bind
  intro _
  apply (Completed.triple (write_uses rfl)).bind
  intro _
  apply (Completed.triple (.call rfl)).bind
  intro _
  exact .pure fun _ => id

theorem guardedPhases_eq :
    guardedPhases run = (.globalScan :: (fromAnalysis run ++
      if run.skipPlanning then [] else [.planning])).reverse := by
  unfold guardedPhases fromAnalysis fromTests
  generalize run.skipPlanning = planning
  generalize (run.skipAnalysis && run.options.preserveAnalysis) = analysis
  generalize run.options.skipTestGeneration = tests
  cases planning <;> cases analysis <;> cases tests <;> rfl

def Fresh (world : SystemWorld) : Prop :=
  Entered [] world ∧ MultiAgents.announcedPhases world.history = none

theorem Fresh.next {world : SystemWorld} (fresh : Fresh world) (request : Request)
    (unmarked : request.marks? = none) (silent : request.announcement? = none) :
    Fresh (world.next request) := by
  constructor
  · simpa [unmarked] using fresh.1.next request
  · have before := fresh.2
    unfold MultiAgents.announcedPhases at before ⊢
    simp [List.findSome?_append, before, silent]

theorem Fresh.triple {α : Type} {program : Program α}
    (uses : Uses (fun request : Request => request.marks? = none ∧ request.announcement? = none)
      program) : Triple Anything Fresh program (fun _ => Fresh) (fun _ _ => True) := by
  have kept : Keeps Anything Fresh program := by
    apply uses.keeps
    intro world request quiet _ fresh
    exact fresh.next request quiet.1 quiet.2
  exact kept.onRaise fun _ _ _ => trivial

theorem find_triple (taskId : String) (row : TaskRow) :
    Triple Anything (fun world => Fresh world ∧ world.state.tasks taskId = some row)
      (TaskRepository.findById taskId) (fun answer world => answer = some row ∧ Fresh world)
      (fun _ _ => True) := by
  apply TaskRepository.findById_triple
  · rintro world ⟨fresh, found⟩ _
    exact ⟨found, fresh.next (.findTask taskId) rfl rfl⟩
  · intros
    trivial

theorem announce_triple (announced : List Phase) :
    Triple Anything Fresh (run.toTask (.orchestrationStart announced))
      (fun _ world => Entered [] world ∧
        MultiAgents.announcedPhases world.history = some announced) (fun _ _ => True) := by
  apply Triple.call
  intro world fresh _
  constructor
  · exact fresh.1.next (.toTask run.taskId (.orchestrationStart announced))
  · have before := fresh.2
    unfold MultiAgents.announcedPhases at before ⊢
    rw [World.next_history, List.reverse_cons, List.findSome?_append, before]
    rfl

theorem orchestrate_triple :
    Triple Anything Fresh run.orchestrate
      (fun result world =>
        Completed (guardedPhases run).reverse result.phases world ∧
        MultiAgents.announcedPhases world.history = some run.announcedPhases)
      (fun _ _ => True) := by
  apply (Fresh.triple (.attempt (.call ⟨rfl, rfl⟩))).bind
  intro _
  apply (Fresh.triple (.attempt (.call ⟨rfl, rfl⟩))).bind
  intro _
  apply (announce_triple run run.announcedPhases).bind
  intro _
  have known := announcedPhases_keeps (α := PhaseResults) run.runPhases run.announcedPhases
  have ran := ((runPhases_triple run).weaken
    (fun _ entered => (⟨List.not_mem_nil, entered⟩ : Early [] _)) (fun _ _ => And.left)
    fun _ _ _ => trivial).and known
  refine (ran.onRaise fun _ _ _ => trivial).bind fun results => ?_
  rw [guardedPhases_eq, List.reverse_reverse]
  exact ((complete_triple run results).and (announcedPhases_keeps (run.complete results)
    run.announcedPhases)).onRaise fun _ _ _ => trivial

end PhasePlan

/-- In a run that obtains a merge result, so in which no phase has failed and no approval was
denied, the phases entered are the announced ones if and only if the plan agrees with the guards
of the phases. -/
theorem entered_phases_announced_iff (taskId : String) (options : OrchestrationOptions)
    (system : System) (choices : Nat → Choice) (row : TaskRow)
    (found : system.tasks taskId = some row) (result : OrchestrationResult)
    (returned : ((execute taskId options).exec (system.start choices)).1 = .ok result)
    (merged : result.phases.merge.isSome = true) :
    announcedPhases ((execute taskId options).exec (system.start choices)).2.history =
        some (enteredPhases ((execute taskId options).exec (system.start choices)).2.history) ↔
      PlanAgrees options row := by
  have ran : Triple Anything
      (fun world => PhasePlan.Fresh world ∧ world.state.tasks taskId = some row)
      (execute taskId options)
      (fun result world => PhasePlan.Completed
          (PhasePlan.guardedPhases ⟨taskId, row, options⟩).reverse result.phases world ∧
        announcedPhases world.history = some (Orchestration.mk taskId row options).announcedPhases)
      (fun _ _ => True) := by
    apply (PhasePlan.find_triple taskId row).bind
    intro answer
    apply Triple.given
    rintro rfl
    exact PhasePlan.orchestrate_triple ⟨taskId, row, options⟩
  have outcome := ran (system.start choices) ⟨⟨rfl, rfl⟩, found⟩
    (always_iff.mpr fun _ _ _ _ => trivial)
  revert outcome returned
  rcases (execute taskId options).exec (system.start choices) with ⟨_ | value, world⟩
  · rintro ⟨⟩
  · rintro ⟨⟩ ⟨completed, announced⟩
    have entered : enteredPhases world.history =
        PhasePlan.guardedPhases ⟨taskId, row, options⟩ := by
      unfold enteredPhases
      rw [completed merged, List.reverse_reverse]
    rw [announced, entered, Option.some_inj]
    exact PhasePlan.announcedPhases_eq_iff ⟨taskId, row, options⟩

namespace PhasePlan

open Sample

def retried (phase : Phase) : Except String OrchestrationResult × SystemWorld :=
  (execute "42" (retryFrom phase)).exec (implemented.start opened)

end PhasePlan

/-- A retry from the Merge phase announces that phase and the scan, and runs the Developer phase
first. -/
theorem developer_entered_unannounced :
    (PhasePlan.retried .merge).1.toOption.any (fun result => result.success) = true ∧
    announcedPhases (PhasePlan.retried .merge).2.history ≠
      some (enteredPhases (PhasePlan.retried .merge).2.history) := by
  decide +kernel

theorem entered_phases_announced_from_developer :
    announcedPhases (PhasePlan.retried .developer).2.history =
      some (enteredPhases (PhasePlan.retried .developer).2.history) := by
  have merged : (PhasePlan.retried .developer).1.toOption.any
      (fun result => result.phases.merge.isSome) = true := by decide +kernel
  obtain ⟨result, returned⟩ := Process.returned_of_isOk
    (show (PhasePlan.retried .developer).1.isOk = true by decide +kernel)
  rw [returned] at merged
  exact (entered_phases_announced_iff "42" (Sample.retryFrom .developer) _ _ _ rfl result
    returned merged).mpr (by decide)

end MultiAgents
