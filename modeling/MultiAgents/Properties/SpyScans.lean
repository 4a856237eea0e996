import MultiAgents.Containers.Sums
import MultiAgents.Effects.Machine
import MultiAgents.Services.AgentSpy

/-!
# What AgentSpy reports and counts

No expression of the tables keeps its last index, so a scan of a file depends on
nothing but the file.  It raises an error if something is found in a workspace
and there is no `require`.  Each operation adds to the counts of a task what it adds
to the vulnerabilities of the task, so that both stay equal.
-/

namespace MultiAgents.AgentSpy

open Containers Effects Text

def firstMatch (engine : Engine) (pattern : Pattern) (content : String) :
    Option (List Char × Nat) :=
  (content.toList.splitOn '\n').zipIdx.find? fun entry => (engine pattern entry.1 0).isSome

/-- The patterns that a file is scanned for. -/
def applicable (matchers : Matchers) (filePath : String) : List Matcher :=
  matchers.secrets ++ matchers.codeInjection ++ matchers.sensitivePaths ++
    if isScript filePath then matchers.dangerousCommands else []

/-- What is found, unless something is found that cannot be reported. -/
def reported (raises : Bool) (found : List Vulnerability) : Except String (List Vulnerability) :=
  if raises = true ∧ found ≠ [] then .error "require is not defined"
  else .ok found

namespace Matcher

variable (runtime : Runtime) (context : Context) (filePath : String)
  (lines : List (List Char × Nat))

def findings (matchers : List Matcher) : List Vulnerability :=
  matchers.filterMap fun matcher =>
    (lines.find? fun entry => (runtime.engine matcher.pattern entry.1 0).isSome).map
      (matcher.finding context filePath)

theorem firstLine_eq (engine : Engine) {matcher : Matcher}
    (stateless : matcher.pattern.keepsIndex = false) : matcher.firstLine engine lines =
      (lines.find? fun entry => (engine matcher.pattern entry.1 0).isSome, matcher) := by
  induction lines with
  | nil => rfl
  | cons entry lines ih =>
      have tested : matcher.test engine entry.1 =
          ((engine matcher.pattern entry.1 0).isSome, matcher) := by
        rw [test, if_neg (by simp [stateless])]
      rw [firstLine, tested, List.find?_cons]
      cases (engine matcher.pattern entry.1 0).isSome with
      | true => rfl
      | false => exact ih

theorem scan_eq {matchers : List Matcher}
    (stateless : ∀ matcher ∈ matchers, matcher.pattern.keepsIndex = false) :
    scan runtime context filePath lines matchers =
      (reported (runtime.raises context filePath)
        (findings runtime context filePath lines matchers), matchers) := by
  induction matchers with
  | nil => simp [scan, reported, findings]
  | cons matcher matchers ih =>
      have others := ih fun other membership => stateless other (by simp [membership])
      rw [scan, firstLine_eq lines runtime.engine (stateless matcher (by simp))]
      cases found : lines.find? fun entry => (runtime.engine matcher.pattern entry.1 0).isSome with
      | none => simp [others, findings, found]
      | some entry =>
          unfold createVulnerability
          cases raised : runtime.raises context filePath with
          | true => simp [reported, findings, found]
          | false => simp [others, reported, findings, found, raised, Except.map]

theorem scanNext_eq {matchers : List Matcher}
    (stateless : ∀ matcher ∈ matchers, matcher.pattern.keepsIndex = false)
    (before : List Vulnerability) :
    scanNext runtime context filePath lines
        (reported (runtime.raises context filePath) before) matchers =
      (reported (runtime.raises context filePath)
        (before ++ findings runtime context filePath lines matchers), matchers) := by
  unfold scanNext
  rw [scan_eq runtime context filePath lines stateless]
  cases raised : runtime.raises context filePath with
  | false => simp [reported, Except.map]
  | true =>
      by_cases nothing : before = []
      · subst nothing
        by_cases none : findings runtime context filePath lines matchers = [] <;>
          simp [reported, none, Except.map]
      · simp [reported, nothing]

end Matcher

/-- None of the expressions keeps its last index. -/
theorem matchers_stateless : ∀ matcher ∈ applicable {} "package.json",
    matcher.pattern.keepsIndex = false := by
  have tables : (applicable {} "package.json").all fun matcher => !matcher.pattern.keepsIndex := by
    decide +kernel
  intro matcher membership
  simpa using List.all_eq_true.mp tables matcher membership

/-- One vulnerability for each applicable pattern that some line matches, with the first of these
lines. -/
def firstLines (runtime : Runtime) (context : Context) (filePath content : String) :
    List Vulnerability :=
  (applicable {} filePath).filterMap fun matcher =>
    (firstMatch runtime.engine matcher.pattern content).map (matcher.finding context filePath)

theorem scanFileContent_eq (runtime : Runtime) (context : Context) (filePath content : String) :
    scanFileContent runtime {} context filePath content =
      (reported (runtime.raises context filePath) (firstLines runtime context filePath content),
        {}) := by
  have stateless := matchers_stateless
  simp only [applicable, show isScript "package.json" = true by decide +kernel, if_true,
    List.mem_append, or_imp, forall_and] at stateless
  obtain ⟨⟨⟨secrets, injections⟩, paths⟩, commands⟩ := stateless
  have start : (.ok [] : Except String (List Vulnerability)) =
      reported (runtime.raises context filePath) [] := by simp [reported]
  simp only [scanFileContent, start, Matcher.scanNext_eq _ _ _ _ secrets,
    Matcher.scanNext_eq _ _ _ _ injections, Matcher.scanNext_eq _ _ _ _ paths]
  by_cases script : isScript filePath = true
  · simp only [script, if_true, Matcher.scanNext_eq _ _ _ _ commands, firstLines, applicable,
      List.filterMap_append, List.nil_append]
    rfl
  · simp only [script, Bool.false_eq_true, if_false, firstLines, applicable,
      List.filterMap_append, List.nil_append, List.append_nil]
    rfl

def afterScans (runtime : Runtime) (scans : List (Context × String × String)) : Matchers :=
  Machine.run (fun matchers (scan : Context × String × String) =>
    (scanFileContent runtime matchers scan.1 scan.2.1 scan.2.2).2) {} scans

theorem afterScans_eq (runtime : Runtime) (scans : List (Context × String × String)) :
    afterScans runtime scans = {} := by
  induction scans with
  | nil => rfl
  | cons scan scans ih =>
      rw [afterScans, Machine.run_cons, scanFileContent_eq]
      exact ih

/-- Whatever was scanned before, the first lines are reported if the path of a finding need not be
made absolute, or there is `require`, or nothing is found. -/
theorem scan_reports_first_lines_iff (runtime : Runtime)
    (scans : List (Context × String × String)) (context : Context) (filePath content : String) :
    (scanFileContent runtime (afterScans runtime scans) context filePath content).1 =
        .ok (firstLines runtime context filePath content) ↔
      runtime.hasRequire = true ∨ presentText context.workspacePath = none ∨ filePath = "" ∨
        ∀ matcher ∈ applicable {} filePath,
          firstMatch runtime.engine matcher.pattern content = none := by
  have nothing : firstLines runtime context filePath content = [] ↔
      ∀ matcher ∈ applicable {} filePath,
        firstMatch runtime.engine matcher.pattern content = none := by
    simp [firstLines, List.filterMap_eq_nil_iff]
  rw [afterScans_eq, scanFileContent_eq, ← nothing]
  unfold reported
  split
  · rename_i failed
    obtain ⟨raised, found⟩ := failed
    simp only [Runtime.raises, Bool.and_eq_true, Bool.not_eq_true', Option.isSome_iff_ne_none,
      bne_iff_ne] at raised
    simp [raised, found]
  · rename_i reports
    simp only [Runtime.raises, Bool.and_eq_true, Bool.not_eq_true', Option.isSome_iff_ne_none,
      bne_iff_ne] at reports
    simp only [true_iff]
    by_contra! missing
    simp_all

def sampleLine : String := "const key = 'sk-" ++ String.ofList (List.replicate 48 'a') ++ "'"

/-- What the engine finds in the line; it is not run on any other. -/
def sampleRuntime (hasRequire : Bool) : Runtime :=
  ⟨fun pattern line index =>
    if pattern.description = "OpenAI API key" ∧ line = sampleLine.toList ∧ index ≤ 13 then some 64
    else none, hasRequire⟩

theorem secret_not_reported :
    let runtime := sampleRuntime false
    let context : Context := ⟨"task-1", "session-1", "Developer", some "/workspaces/task-1"⟩
    (firstLines runtime context "/workspaces/task-1/app.ts" sampleLine).length = 1 ∧
      (scanFileContent runtime {} context "/workspaces/task-1/app.ts" sampleLine).1 =
        .error "require is not defined" := by
  decide +kernel

structure SpyMetrics.Balanced (metrics : SpyMetrics) (total : Nat) : Prop where
  detected : metrics.vulnerabilitiesDetected = total
  bySeverity : metrics.bySeverity .low + metrics.bySeverity .medium + metrics.bySeverity .high +
    metrics.bySeverity .critical = total
  byType : metrics.byType.sum id = total
  byCategory : metrics.byCategory.sum id = total

theorem sum_countUp (counts : OrderedMap String Nat) (key : String) :
    (countUp counts key).sum id = counts.sum id + 1 :=
  OrderedMap.sum_addAt counts key 1

theorem SpyMetrics.Balanced.count {metrics : SpyMetrics} {total : Nat}
    (balanced : metrics.Balanced total) (vulnerability : Vulnerability) :
    (metrics.count vulnerability).Balanced (total + 1) where
  detected := congrArg (· + 1) balanced.detected
  bySeverity := by
    rw [← balanced.bySeverity]
    unfold SpyMetrics.count
    cases vulnerability.severity <;> simp <;> omega
  byType := by rw [SpyMetrics.count, sum_countUp, balanced.byType]
  byCategory := by rw [SpyMetrics.count, sum_countUp, balanced.byCategory]

theorem SpyMetrics.Balanced.foldl {metrics : SpyMetrics} {total : Nat}
    (balanced : metrics.Balanced total) (detected : List Vulnerability) :
    (detected.foldl SpyMetrics.count metrics).Balanced (total + detected.length) := by
  induction detected generalizing metrics total with
  | nil => exact balanced
  | cons vulnerability detected ih =>
      rw [List.foldl_cons, List.length_cons, Nat.add_comm detected.length, ← Nat.add_assoc]
      exact ih (balanced.count vulnerability)

inductive Operation where
  | analyze (analyzers : Analyzers) (event : Event) (context : Context)
  | scanWorkspace (runtime : Runtime) (context : Context) (workspacePath : String)
      (maxFiles : Nat) (files : List (String × Option String))
  | registerExternalVulnerability (taskId : String) (vulnerability : Vulnerability)
  | clear (taskId : String)

namespace Spy

def step (spy : Spy) : Operation → Spy
  | .analyze analyzers event context => (spy.analyze analyzers event context).2
  | .scanWorkspace runtime context workspacePath maxFiles files =>
      (spy.scanWorkspace runtime context workspacePath maxFiles files).2
  | .registerExternalVulnerability taskId vulnerability =>
      spy.registerExternalVulnerability taskId vulnerability
  | .clear taskId => spy.clear taskId

def Balanced (spy : Spy) : Prop :=
  ∀ taskId, ((spy.getMetrics taskId).getD {}).Balanced (spy.getVulnerabilities taskId).length

theorem Balanced.setMetrics {spy : Spy} (balanced : spy.Balanced) {taskId : String}
    {metrics : SpyMetrics}
    (kept : metrics.Balanced (spy.getVulnerabilities taskId).length) :
    (spy.setMetrics taskId metrics).Balanced := by
  intro other
  unfold Spy.setMetrics getMetrics
  rw [OrderedMap.get?_set]
  split
  · subst other
    exact kept
  · exact balanced other

theorem Balanced.store {spy : Spy} (balanced : spy.Balanced) {taskId : String}
    {metrics : SpyMetrics} (kept : metrics.Balanced (spy.getVulnerabilities taskId).length)
    (detected : List Vulnerability) : (spy.store taskId metrics detected).Balanced := by
  intro other
  unfold Spy.store getMetrics getVulnerabilities
  rw [OrderedMap.get?_set, OrderedMap.get?_set]
  split
  · subst other
    rw [Option.getD_some, Option.getD_some, List.length_append]
    exact kept.foldl detected
  · exact balanced other

theorem Balanced.clear {spy : Spy} (balanced : spy.Balanced) (taskId : String) :
    (spy.clear taskId).Balanced := by
  intro other
  unfold Spy.clear getMetrics getVulnerabilities
  rw [OrderedMap.get?_erase, OrderedMap.get?_erase]
  split
  · exact ⟨rfl, rfl, rfl, rfl⟩
  · exact balanced other

theorem Balanced.step {spy : Spy} (balanced : spy.Balanced) (operation : Operation) :
    (spy.step operation).Balanced := by
  cases operation with
  | analyze analyzers event context =>
      have known := balanced context.taskId
      -- Events and tool calls are counted besides the vulnerabilities.
      have counted (events calls : Nat) : SpyMetrics.Balanced
          { (spy.getMetrics context.taskId).getD {} with totalEvents := events, toolCalls := calls }
          (spy.getVulnerabilities context.taskId).length :=
        ⟨known.detected, known.bySeverity, known.byType, known.byCategory⟩
      dsimp only [Spy.step, Spy.analyze]
      split
      · exact balanced.setMetrics (counted _ _)
      · dsimp only
        split <;> split
        · exact balanced.setMetrics (counted _ _)
        · exact balanced.setMetrics (counted _ _)
        · exact balanced.store (counted _ _) _
        · exact balanced.store (counted _ _) _
  | scanWorkspace runtime context workspacePath maxFiles files =>
      dsimp only [Spy.step, Spy.scanWorkspace]
      have rescanned (matchers : Matchers) : Balanced { spy with matchers } := balanced
      split
      · exact balanced
      · exact (rescanned _).store (balanced context.taskId) _
  | registerExternalVulnerability taskId vulnerability =>
      exact balanced.store (balanced taskId) _
  | clear taskId => exact balanced.clear taskId

end Spy

/-- After every sequence of operations, the counts of each task agree with its vulnerabilities. -/
theorem counts_match_vulnerabilities (operations : List Operation) (taskId : String) :
    let spy := Machine.run Spy.step {} operations
    let stored := (spy.getVulnerabilities taskId).length
    let metrics := (spy.getMetrics taskId).getD {}
    metrics.vulnerabilitiesDetected = stored ∧
      metrics.bySeverity .low + metrics.bySeverity .medium + metrics.bySeverity .high +
        metrics.bySeverity .critical = stored ∧
      metrics.byType.sum id = stored ∧ metrics.byCategory.sum id = stored := by
  intro spy stored metrics
  have initial : Spy.Balanced {} := fun _ => ⟨rfl, rfl, rfl, rfl⟩
  have balanced : spy.Balanced :=
    List.foldlRecOn operations Spy.step initial fun _ kept operation _ => kept.step operation
  have known := balanced taskId
  exact ⟨known.detected, known.bySeverity, known.byType, known.byCategory⟩

end MultiAgents.AgentSpy
