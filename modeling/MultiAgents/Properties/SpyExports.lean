import MultiAgents.Services.SpyObservations

/-!
# Counts and causes of exported vulnerabilities

What is stored with a record counts its vulnerabilities, and the export adds the
counts of records up in several ways.
-/

namespace MultiAgents.TrainingExport

open Containers SentinentalWebhook Text

theorem foldl_count_sums (vulnerabilities : List Vulnerability) (summary : Summary) :
    (vulnerabilities.foldl Summary.count summary).bySeverity.sum id =
        summary.bySeverity.sum id + vulnerabilities.length ∧
      (vulnerabilities.foldl Summary.count summary).byType.sum id =
        summary.byType.sum id + vulnerabilities.length := by
  induction vulnerabilities generalizing summary with
  | nil => exact ⟨rfl, rfl⟩
  | cons vulnerability vulnerabilities ih =>
      obtain ⟨severities, types⟩ := ih (summary.count vulnerability)
      rw [List.foldl_cons, severities, types, List.length_cons]
      simp only [Summary.count, OrderedMap.sum_addAt]
      omega

/-- The counts of a stored record agree. -/
theorem stored_sums (record : SecurityTrainingRecord) :
    record.stored.summary.bySeverity.sum id = record.stored.vulnerabilitiesCount ∧
      record.stored.summary.byType.sum id = record.stored.vulnerabilitiesCount := by
  obtain ⟨severities, types⟩ := foldl_count_sums record.vulnerabilities {}
  exact ⟨severities.trans (Nat.zero_add _), types.trans (Nat.zero_add _)⟩

theorem foldl_add_sums (records : List SecurityTrainingRecord) (summary : ObservationSummary)
    (severities : summary.bySeverity.sum id = summary.totalVulnerabilities)
    (types : summary.byType.sum id = summary.totalVulnerabilities) :
    let added := (records.map SecurityTrainingRecord.stored).foldl ObservationSummary.add summary
    added.bySeverity.sum id = added.totalVulnerabilities ∧
      added.byType.sum id = added.totalVulnerabilities ∧
      added.totalVulnerabilities = summary.totalVulnerabilities +
        (records.map fun record => record.vulnerabilities.length).sum := by
  induction records generalizing summary with
  | nil => exact ⟨severities, types, rfl⟩
  | cons record records ih =>
      obtain ⟨ofSeverity, ofType⟩ := stored_sums record
      have added := ih (summary.add record.stored)
        (by rw [ObservationSummary.add, OrderedMap.sum_addAll, severities, ofSeverity])
        (by rw [ObservationSummary.add, OrderedMap.sum_addAll, types, ofType])
      refine ⟨added.1, added.2.1, added.2.2.trans ?_⟩
      rw [List.map_cons, List.sum_cons, ← Nat.add_assoc]
      rfl

theorem observePhase_detected (toolCalls : List ToolCall)
    (entry : String × List SentinentalTrainingData) :
    (observePhase toolCalls entry).vulnerabilitiesDetected =
      (entry.2.map fun record => record.vulnerabilities.length).sum := by
  simp [observePhase, List.length_flatMap]

theorem phases_detected (records : List SentinentalTrainingData) (toolCalls : List ToolCall) :
    (((OrderedMap.groupBy SentinentalTrainingData.phase records).entries.map
        (observePhase toolCalls)).map PhaseObservations.vulnerabilitiesDetected).sum =
      (records.map fun record => record.vulnerabilities.length).sum := by
  rw [← OrderedMap.sum_groupBy SentinentalTrainingData.phase, List.map_map]
  apply congrArg List.sum
  apply List.map_congr_left
  exact fun entry _ => observePhase_detected toolCalls entry

/-- All ways to count the vulnerabilities of stored records give the same number. -/
theorem exported_counts_agree (records : List SecurityTrainingRecord) (toolCalls : List ToolCall)
    {observations : SpyObservations}
    (returned : getSpyObservations (records.map SecurityTrainingRecord.stored) toolCalls =
      some observations) :
    observations.summary.totalVulnerabilities =
        (observations.byPhase.map PhaseObservations.vulnerabilitiesDetected).sum ∧
      observations.summary.totalVulnerabilities = observations.summary.bySeverity.sum id ∧
      observations.summary.totalVulnerabilities = observations.summary.byType.sum id := by
  unfold getSpyObservations at returned
  split at returned
  · cases returned
  · cases returned
    obtain ⟨severities, types, total⟩ := foldl_add_sums records {} rfl rfl
    refine ⟨?_, severities.symm, types.symm⟩
    rw [phases_detected, List.map_map]
    exact total.trans (Nat.zero_add _)

def sampleVulnerability : Vulnerability :=
  { id := "v1", sessionId := "s1", phase := "Developer", severity := "high"
    type := ⟨"sql_injection", by decide⟩ }

/-- Two records of one phase and one of another. -/
def sampleRecords : List SecurityTrainingRecord :=
  [⟨"t1", "s1", "Developer", [sampleVulnerability, { sampleVulnerability with severity := "low" }]⟩,
    ⟨"t1", "s2", "TestGeneration", [sampleVulnerability]⟩,
    ⟨"t1", "s3", "Developer", [sampleVulnerability]⟩]

theorem sample_counts_agree :
    ∃ observations,
      getSpyObservations (sampleRecords.map SecurityTrainingRecord.stored) [] =
        some observations ∧
      observations.byPhase.map PhaseObservations.vulnerabilitiesDetected = [3, 1] ∧
      observations.summary.totalVulnerabilities = observations.summary.byType.sum id :=
  ⟨_, rfl, by decide +kernel, (exported_counts_agree sampleRecords [] rfl).2.2⟩

/-- The parts of a path, from the root of the workspace. -/
def placeOf (workspacePath path : String) : List Path.Part :=
  if Path.isAbsolute path.toList then Path.parts path.toList
  else Path.parts (workspacePath ++ "/" ++ path).toList

/-- A call wrote the file at a path. -/
def Wrote (workspacePath : String) (call : ToolCall) (target : String) : Prop :=
  call.toolSuccess = true ∧
    ∃ path, call.path? = some path ∧ placeOf workspacePath path = placeOf workspacePath target

/-- A finding with a path that is linked to an edit or write is linked to one that wrote its
file. -/
def RightlyLinked (workspacePath : String) (toolCalls : List ToolCall) (entry : Causality) : Prop :=
  ∀ target, targetPath? entry.vulnerability = some target →
    ∀ call, toolCalls[entry.action.toolCallIndex]? = some call →
      (call.isEdit || call.isWrite) = true → Wrote workspacePath call target

/-- The last call with the id of a finding. -/
def exactCall? (toolCalls : List ToolCall) (vuln : Vulnerability) : Option ToolCall :=
  (presentText vuln.toolUseId).bind fun toolUseId =>
    toolCalls.reverse.find? fun call => presentText call.toolUseId = some toolUseId

/-- The call with the id of the finding wrote its file if it is an edit or write.  Without such a
call, the first edit or write whose file name occurs in the path of the finding wrote its file. -/
def FileNamesTell (workspacePath : String) (toolCalls : List ToolCall) (vuln : Vulnerability) :
    Prop :=
  ∀ target, targetPath? vuln = some target →
    match exactCall? toolCalls vuln with
    | some call => (call.isEdit || call.isWrite) = true → Wrote workspacePath call target
    | none => ∀ call, toolCalls.find? (suggests target) = some call →
        Wrote workspacePath call target

section Links

variable (toolCalls : List ToolCall) (vuln : Vulnerability)

theorem find?_eq_map (test : ToolCall → Bool) :
    toolCalls.find? test = (toolCalls.zipIdx.find? fun entry => test entry.1).map Prod.fst := by
  conv_lhs => rw [← List.zipIdx_map_fst 0 toolCalls, List.find?_map]
  rfl

theorem toolCallByUseId_get? (toolUseId : String) : (toolCallByUseId toolCalls).get? toolUseId =
    toolCalls.zipIdx.reverse.find? fun entry => presentText entry.1.toolUseId = some toolUseId := by
  rw [toolCallByUseId, OrderedMap.get?_foldl_keep]
  exact Option.or_none

theorem exactCall?_eq_map : exactCall? toolCalls vuln =
    ((presentText vuln.toolUseId).bind (toolCallByUseId toolCalls).get?).map Prod.fst := by
  unfold exactCall?
  cases presentText vuln.toolUseId with
  | none => rfl
  | some toolUseId =>
      rw [Option.bind_some, Option.bind_some, toolCallByUseId_get?]
      conv_lhs => rw [← List.zipIdx_map_fst 0 toolCalls, ← List.map_reverse, List.find?_map]
      rfl

theorem exact_numbered {entry : ToolCall × Nat}
    (held : (presentText vuln.toolUseId).bind (toolCallByUseId toolCalls).get? = some entry) :
    toolCalls[entry.2]? = some entry.1 := by
  obtain ⟨toolUseId, -, found⟩ := Option.bind_eq_some_iff.mp held
  rw [toolCallByUseId_get?] at found
  exact List.mem_zipIdx_iff_getElem?.mp (List.mem_reverse.mp (List.mem_of_find?_eq_some found))

/-- The call that a finding is linked to. -/
theorem getElem?_causalTool :
    (causalTool? toolCalls vuln).bind (fun action => toolCalls[action.toolCallIndex]?) =
      (exactCall? toolCalls vuln).or ((targetPath? vuln).bind fun target =>
        (toolCalls.find? (suggests target)).or (toolCalls.find? (runs vuln.evidence))) := by
  have numbered {test : ToolCall → Bool} {entry : ToolCall × Nat}
      (found : toolCalls.zipIdx.find? (fun entry => test entry.1) = some entry) :
      toolCalls[entry.2]? = some entry.1 :=
    List.mem_zipIdx_iff_getElem?.mp (List.mem_of_find?_eq_some found)
  rw [exactCall?_eq_map, causalTool?]
  cases held : (presentText vuln.toolUseId).bind (toolCallByUseId toolCalls).get? with
  | some entry => exact exact_numbered toolCalls vuln held
  | none =>
      rw [findCausalToolCall]
      cases targetPath? vuln with
      | none => rfl
      | some target =>
          simp only [find?_eq_map, Option.bind_some, Option.bind_eq_bind, Option.map_none,
            Option.none_or]
          cases found : toolCalls.zipIdx.find? fun entry => suggests target entry.1 with
          | some entry => exact numbered found
          | none =>
              cases ran : toolCalls.zipIdx.find? fun entry => runs vuln.evidence entry.1 with
              | some entry => exact numbered ran
              | none => rfl

variable {toolCalls} {vuln}

theorem edits_of_suggests {target : String} {call : ToolCall}
    (suggested : suggests target call = true) : (call.isEdit || call.isWrite) = true :=
  (Bool.and_eq_true_iff.mp suggested).1

theorem not_edits_of_runs {evidence : Evidence} {call : ToolCall}
    (ran : runs evidence call = true) : ¬(call.isEdit || call.isWrite) = true := by
  have isBash := (Bool.and_eq_true_iff.mp ran).1
  simp only [ToolCall.isBash, List.contains_iff_mem, List.mem_cons, List.not_mem_nil,
    or_false] at isBash
  rcases isBash with name | name <;> simp [ToolCall.isEdit, ToolCall.isWrite, name]

theorem fileNamesTell_iff (workspacePath : String) (record : SentinentalTrainingData) :
    (∀ entry, causality? toolCalls record vuln = some entry →
      RightlyLinked workspacePath toolCalls entry) ↔
      FileNamesTell workspacePath toolCalls vuln := by
  have links : (∀ entry, causality? toolCalls record vuln = some entry →
      RightlyLinked workspacePath toolCalls entry) ↔
      ∀ target, targetPath? vuln = some target → ∀ call,
        (causalTool? toolCalls vuln).bind (fun action => toolCalls[action.toolCallIndex]?) =
          some call → (call.isEdit || call.isWrite) = true → Wrote workspacePath call target := by
    unfold causality? RightlyLinked
    cases causalTool? toolCalls vuln <;> simp
  rw [links, getElem?_causalTool]
  refine forall_congr' fun target => forall_congr' fun named => ?_
  rw [named]
  cases exactCall? toolCalls vuln with
  | some call => simp
  | none =>
      simp only [Option.none_or, Option.bind_some]
      cases first : toolCalls.find? (suggests target) with
      | some call =>
          have edits := edits_of_suggests (List.find?_some first)
          simp only [Option.some_or, Option.some.injEq, forall_eq', edits, true_implies]
      | none =>
          simp only [Option.none_or, reduceCtorEq, false_implies, implies_true, iff_true]
          intro call ran edits
          exact absurd edits (not_edits_of_runs (List.find?_some ran))

end Links

/-- Findings are linked to edits and writes of their files exactly if the names of files tell. -/
theorem causes_wrote_the_file_iff (workspacePath : String) (toolCalls : List ToolCall)
    (records : List SentinentalTrainingData) :
    (∀ entry ∈ buildCausalityMap records toolCalls,
      RightlyLinked workspacePath toolCalls entry) ↔
      ∀ record ∈ records, ∀ vuln ∈ record.vulnerabilities,
        FileNamesTell workspacePath toolCalls vuln := by
  constructor
  · intro all record member vuln held
    rw [← fileNamesTell_iff workspacePath record]
    intro entry linked
    exact all entry (List.mem_flatMap.mpr
      ⟨record, member, List.mem_filterMap.mpr ⟨vuln, held, linked⟩⟩)
  · intro tells entry membership
    obtain ⟨record, member, inside⟩ := List.mem_flatMap.mp membership
    obtain ⟨vuln, held, linked⟩ := List.mem_filterMap.mp inside
    exact (fileNamesTell_iff workspacePath record).mpr (tells record member vuln held) entry linked

/-- The name of the file of the first call ends the name of the file of the finding. -/
theorem cause_is_edit_of_another_file :
    let vuln := { sampleVulnerability with filePath := some "/w/src/data.ts" }
    let record : SecurityTrainingRecord := ⟨"t1", "s1", "Developer", [vuln]⟩
    let toolCalls : List ToolCall :=
      [{ toolName := "Edit", filePath := some "/w/src/a.ts" },
        { toolName := "Write", filePath := some "/w/src/data.ts" }]
    (buildCausalityMap [record.stored] toolCalls).map (fun entry =>
        (entry.action.toolName, entry.action.toolCallIndex)) = [("Edit", 0)] ∧
      placeOf "/w" "/w/src/a.ts" ≠ placeOf "/w" "/w/src/data.ts" := by
  decide +kernel

end MultiAgents.TrainingExport
