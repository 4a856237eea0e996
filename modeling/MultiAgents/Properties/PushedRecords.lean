import MultiAgents.Services.SentinentalWebhook

/-!
# The records of the final push

The push takes what AgentSpy knows before it is suspended for the first time, so
that clearing AgentSpy does not change its records.
-/

namespace MultiAgents.SentinentalWebhook

open Containers Effects

def Request.created? : Request → Option SecurityTrainingRecord
  | .create record => some record
  | _ => none

def created (history : List (Step environment)) : List SecurityTrainingRecord :=
  (history.filterMap fun step => step.call.created?).reverse

variable (config : Config) (taskId : String)

def record? (group : String × List Vulnerability) : Option SecurityTrainingRecord :=
  let filtered := group.2.filter fun vulnerability => config.reaches vulnerability.severity
  if filtered = [] then none else some ⟨taskId, group.1, phaseOf group.2, filtered⟩

theorem created_next (world : World environment) (request : Request) :
    created (world.next request).history = created world.history ++ request.created?.toList := by
  unfold created
  rw [World.next_history, List.filterMap_cons]
  cases found : request.created? <;> simp [World.step_call, found]

theorem pushSecurityData_created (group : String × List Vulnerability)
    (before : List SecurityTrainingRecord) :
    Triple Anything (fun world : World environment => created world.history = before)
      (pushSecurityData config taskId group.1 (phaseOf group.2) group.2)
      (fun _ world => created world.history = before ++ (record? config taskId group).toList)
      (fun _ _ => False) := by
  unfold pushSecurityData record?
  dsimp only
  split
  · exact .pure fun _ same => by simpa using same
  · have stored (record : SecurityTrainingRecord) :
        Triple Anything (fun world : World environment => created world.history = before)
          (Request.create record).issue
          (fun _ world => created world.history = before ++ [record]) (fun _ _ => False) :=
      .call fun world same _ => by rw [created_next, same]; rfl
    refine (stored _).bind fun _ => .ite (fun _ => .call fun world same _ => ?_) fun _ =>
      .pure fun _ => id
    rw [created_next, same]
    exact List.append_nil _

theorem push_created (agentSpy : AgentSpy) (choices : Nat → Choice) :
    created ((push config taskId).exec (World.start agentSpy choices)).2.history =
      (groupBySession (agentSpy.getVulnerabilities taskId)).entries.filterMap
        (record? config taskId) := by
  have taken : Triple Anything (fun world => world = World.start agentSpy choices)
      (Request.getSummary taskId).issue (fun vulnerabilities (world : World environment) =>
        vulnerabilities = agentSpy.getVulnerabilities taskId ∧ created world.history = [])
      (fun _ _ => False) := by
    refine .call fun world same _ => ?_
    subst same
    exact ⟨rfl, created_next ..⟩
  have pushed : Triple Anything (fun world => world = World.start agentSpy choices)
      (push config taskId) (fun _ (world : World environment) => created world.history =
        (groupBySession (agentSpy.getVulnerabilities taskId)).entries.filterMap
          (record? config taskId)) (fun _ _ => False) := by
    refine taken.bind fun vulnerabilities => .given fun known => ?_
    subst known
    have step (done : List (String × List Vulnerability)) (group : String × List Vulnerability)
        (rest : List (String × List Vulnerability)) (_ : (groupBySession
          (agentSpy.getVulnerabilities taskId)).entries = done ++ group :: rest) :
        Triple Anything (fun world : World environment =>
            created world.history = done.filterMap (record? config taskId))
          (pushSecurityData config taskId group.1 (phaseOf group.2) group.2)
          (fun _ world =>
            created world.history = (done ++ [group]).filterMap (record? config taskId))
          (fun _ _ => False) := by
      rw [List.filterMap_append, show [group].filterMap (record? config taskId) =
        (record? config taskId group).toList by simp [List.filterMap_cons]; split <;> simp_all]
      exact pushSecurityData_created config taskId group _
    exact Triple.forM step
  have reached := pushed.outcome rfl
  revert reached
  rcases (push config taskId).exec (World.start (E := environment) agentSpy choices) with
    ⟨_ | _, world⟩
  · exact False.elim
  · exact id

theorem record?_eq_some {group : String × List Vulnerability} {record : SecurityTrainingRecord}
    (found : record? config taskId group = some record) :
    record.taskId = taskId ∧ record.sessionId = group.1 ∧ record.vulnerabilities ≠ [] ∧
      record.vulnerabilities =
        group.2.filter fun vulnerability => config.reaches vulnerability.severity := by
  unfold record? at found
  dsimp only at found
  split at found
  · cases found
  · rename_i some
    cases found
    exact ⟨rfl, rfl, some, rfl⟩

theorem flatMap_record? (group : String × List Vulnerability) :
    (record? config taskId group).toList.flatMap SecurityTrainingRecord.vulnerabilities =
      group.2.filter fun vulnerability => config.reaches vulnerability.severity := by
  unfold record?
  dsimp only
  split
  · rename_i empty
    exact empty.symm
  · exact List.append_nil _

/-- The records of the final push hold each vulnerability known at that moment that is severe
enough exactly once, one record for each session, whatever happens to AgentSpy afterwards. -/
theorem push_records_known_vulnerabilities (agentSpy : AgentSpy) (choices : Nat → Choice) :
    let records := created ((push config taskId).exec (World.start agentSpy choices)).2.history
    (records.flatMap SecurityTrainingRecord.vulnerabilities).Perm
        ((agentSpy.getVulnerabilities taskId).filter fun vulnerability =>
          config.reaches vulnerability.severity) ∧
      (records.map SecurityTrainingRecord.sessionId).Nodup ∧
      ∀ record ∈ records, record.taskId = taskId ∧ record.vulnerabilities ≠ [] ∧
        ∀ vulnerability ∈ record.vulnerabilities, vulnerability.sessionId = record.sessionId := by
  intro records
  have same : records = (groupBySession (agentSpy.getVulnerabilities taskId)).entries.filterMap
      (record? config taskId) := push_created config taskId agentSpy choices
  have known : ((groupBySession (agentSpy.getVulnerabilities taskId)).entries.flatMap
      Prod.snd).Perm (agentSpy.getVulnerabilities taskId) :=
    OrderedMap.perm_groupBy Vulnerability.sessionId _
  rw [same]
  refine ⟨?_, ?_, ?_⟩
  · rw [List.filterMap_eq_flatMap_toList, List.flatMap_assoc]
    simp only [flatMap_record?]
    rw [← List.filter_flatMap]
    exact known.filter _
  · rw [List.Nodup, List.pairwise_map, List.pairwise_filterMap]
    refine (List.pairwise_map.mp (OrderedMap.nodup _)).imp fun distinct first one second other => ?_
    rw [(record?_eq_some config taskId one).2.1, (record?_eq_some config taskId other).2.1]
    exact distinct
  · intro record membership
    obtain ⟨group, listed, found⟩ := List.mem_filterMap.mp membership
    obtain ⟨task, session, some, content⟩ := record?_eq_some config taskId found
    refine ⟨task, some, fun vulnerability held => ?_⟩
    rw [session]
    rw [content] at held
    exact OrderedMap.key_of_mem_groupBy Vulnerability.sessionId
      (OrderedMap.mem_entries_iff.mp listed) (List.mem_of_mem_filter held)

end MultiAgents.SentinentalWebhook
