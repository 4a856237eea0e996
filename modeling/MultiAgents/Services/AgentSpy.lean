import MultiAgents.Containers.OrderedMap
import MultiAgents.Services.SecurityPatterns
import MultiAgents.Text.Record

/-!
# The vulnerabilities that AgentSpy knows

AgentSpy keeps the vulnerabilities of a task and counts them, by severity, by
type and by category.  They come from events of the agents, from scans of the
workspace and from other phases.  How expressions are matched is left to the
engine; an expression that keeps its last index goes on from there.  The path of
a finding in a workspace is made absolute with a module that is loaded by
`require`, which the scope of an ES module does not have.  What an event gives
away is left to the analysers, and ids and times are left out.
-/

namespace MultiAgents.AgentSpy

open Containers Text

structure Vulnerability where
  taskId : String
  sessionId : String
  phase : String
  severity : VulnerabilitySeverity
  type : String
  category : String
  description : String
  toolName : Option String := none
  blocked : Bool := false
  matchedPattern : Option String := none
  filePath : Option String := none
  lineNumber : Option Nat := none
  codeSnippet : Option String := none
  deriving DecidableEq

structure Context where
  taskId : String
  sessionId : String
  phase : String
  workspacePath : Option String := none

/-- Where the first match at or after an index ends. -/
abbrev Engine := Pattern → List Char → Nat → Option Nat

structure Runtime where
  engine : Engine
  hasRequire : Bool := false

/-- Whether a vulnerability cannot be created. -/
def Runtime.raises (runtime : Runtime) (context : Context) (filePath : String) : Bool :=
  !runtime.hasRequire && (presentText context.workspacePath).isSome && filePath != ""

def Pattern.keepsIndex (pattern : Pattern) : Bool :=
  pattern.flags.toList.any fun flag => flag == 'g' || flag == 'y'

def Pattern.toString (pattern : Pattern) : String := s!"/{pattern.source}/{pattern.flags}"

/-- An expression with its last index, and what is reported of its matches. -/
structure Matcher where
  pattern : Pattern
  type : String
  category : String
  description : String
  lastIndex : Nat := 0
  deriving DecidableEq

namespace Matcher

def test (engine : Engine) (matcher : Matcher) (text : List Char) : Bool × Matcher :=
  if matcher.pattern.keepsIndex then
    match engine matcher.pattern text matcher.lastIndex with
    | some stop => (true, { matcher with lastIndex := stop })
    | none => (false, { matcher with lastIndex := 0 })
  else ((engine matcher.pattern text 0).isSome, matcher)

/-- The loop over the lines, which ends at the first match. -/
def firstLine (engine : Engine) :
    Matcher → List (List Char × Nat) → Option (List Char × Nat) × Matcher
  | matcher, [] => (none, matcher)
  | matcher, entry :: entries =>
      match matcher.test engine entry.1 with
      | (true, matcher) => (some entry, matcher)
      | (false, matcher) => matcher.firstLine engine entries

def finding (context : Context) (filePath : String) (matcher : Matcher)
    (entry : List Char × Nat) : Vulnerability where
  taskId := context.taskId
  sessionId := context.sessionId
  phase := context.phase
  severity := matcher.pattern.severity
  type := matcher.type
  category := matcher.category
  description := matcher.description
  toolName := some "workspace_scan"
  matchedPattern := some matcher.pattern.toString
  filePath := some filePath
  lineNumber := some (entry.2 + 1)
  codeSnippet := some (clip 200 (String.ofList entry.1))

def createVulnerability (runtime : Runtime) (context : Context) (filePath : String)
    (matcher : Matcher) (entry : List Char × Nat) : Except String Vulnerability :=
  if runtime.raises context filePath then .error "require is not defined"
  else .ok (matcher.finding context filePath entry)

/-- The loop over a table. -/
def scan (runtime : Runtime) (context : Context) (filePath : String)
    (lines : List (List Char × Nat)) :
    List Matcher → Except String (List Vulnerability) × List Matcher
  | [] => (.ok [], [])
  | matcher :: matchers =>
      match matcher.firstLine runtime.engine lines with
      | (none, matcher) =>
          let (others, matchers) := scan runtime context filePath lines matchers
          (others, matcher :: matchers)
      | (some entry, matcher) =>
          match matcher.createVulnerability runtime context filePath entry with
          | .error error => (.error error, matcher :: matchers)
          | .ok vulnerability =>
              let (others, matchers) := scan runtime context filePath lines matchers
              (others.map (vulnerability :: ·), matcher :: matchers)

/-- The next table, unless an error was raised. -/
def scanNext (runtime : Runtime) (context : Context) (filePath : String)
    (lines : List (List Char × Nat)) (found : Except String (List Vulnerability))
    (matchers : List Matcher) : Except String (List Vulnerability) × List Matcher :=
  match found with
  | .error error => (.error error, matchers)
  | .ok found =>
      let (others, matchers) := scan runtime context filePath lines matchers
      (others.map (found ++ ·), matchers)

end Matcher

structure Matchers where
  secrets : List Matcher := secretPatterns.map fun pattern =>
    { pattern, type := "secret_exposure", category := "secrets",
      description := s!"Secret found in code: {pattern.description}" }
  codeInjection : List Matcher := codeInjectionPatterns.map fun (type, pattern) =>
    { pattern, type, category := "code_injection", description := pattern.description }
  sensitivePaths : List Matcher := AgentSpy.sensitivePaths.map fun pattern =>
    { pattern, type := "sensitive_file_access", category := "file_system",
      description := pattern.description }
  dangerousCommands : List Matcher := AgentSpy.dangerousCommands.map fun pattern =>
    { pattern, type := "dangerous_command", category := "system_destruction",
      description := pattern.description }

/-- Whether dangerous commands are looked for in a file. -/
def isScript (filePath : String) : Bool :=
  ".sh".toList.isSuffixOf filePath.toList || ".bash".toList.isSuffixOf filePath.toList ||
    includes filePath "package.json"

def scanFileContent (runtime : Runtime) (matchers : Matchers) (context : Context)
    (filePath content : String) : Except String (List Vulnerability) × Matchers :=
  let lines := (content.toList.splitOn '\n').zipIdx
  let scan := Matcher.scanNext runtime context filePath lines
  let (detected, secrets) := scan (.ok []) matchers.secrets
  let (detected, codeInjection) := scan detected matchers.codeInjection
  let (detected, sensitivePaths) := scan detected matchers.sensitivePaths
  let (detected, dangerousCommands) :=
    if isScript filePath then scan detected matchers.dangerousCommands
    else (detected, matchers.dangerousCommands)
  (detected, { secrets, codeInjection, sensitivePaths, dangerousCommands })

structure SpyMetrics where
  totalEvents : Nat := 0
  toolCalls : Nat := 0
  vulnerabilitiesDetected : Nat := 0
  bySeverity : VulnerabilitySeverity → Nat := fun _ => 0
  byType : OrderedMap String Nat := .empty
  byCategory : OrderedMap String Nat := .empty

/-- `counts[key] = (counts[key] || 0) + 1`. -/
def countUp (counts : OrderedMap String Nat) (key : String) : OrderedMap String Nat :=
  counts.set key ((counts.get? key).getD 0 + 1)

def SpyMetrics.count (metrics : SpyMetrics) (vulnerability : Vulnerability) : SpyMetrics :=
  { metrics with
    vulnerabilitiesDetected := metrics.vulnerabilitiesDetected + 1
    bySeverity := Function.update metrics.bySeverity vulnerability.severity
      (metrics.bySeverity vulnerability.severity + 1)
    byType := countUp metrics.byType vulnerability.type
    byCategory := countUp metrics.byCategory vulnerability.category }

structure Spy where
  vulnerabilities : OrderedMap String (List Vulnerability) := .empty
  metrics : OrderedMap String SpyMetrics := .empty
  matchers : Matchers := {}

structure Event where
  type : String
  properties : Json

/-- What is found in the events of each kind; an analyser may fail. -/
structure Analyzers where
  toolBefore : Event → Context → Except String (List Vulnerability)
  toolAfter : Event → Context → Except String (List Vulnerability)
  message : Event → Context → Except String (List Vulnerability)

def Analyzers.detect (analyzers : Analyzers) (event : Event) (context : Context) :
    Except String (List Vulnerability) :=
  match event.type with
  | "tool.execute.before" => analyzers.toolBefore event context
  | "tool.execute.after" => analyzers.toolAfter event context
  | "message.part.updated" => analyzers.message event context
  | _ => .ok []

namespace Spy

variable (spy : Spy)

def getVulnerabilities (taskId : String) : List Vulnerability :=
  (spy.vulnerabilities.get? taskId).getD []

def getMetrics (taskId : String) : Option SpyMetrics := spy.metrics.get? taskId

def setMetrics (taskId : String) (metrics : SpyMetrics) : Spy :=
  { spy with metrics := spy.metrics.set taskId metrics }

def store (taskId : String) (metrics : SpyMetrics) (detected : List Vulnerability) : Spy :=
  { spy with
    vulnerabilities := spy.vulnerabilities.set taskId (spy.getVulnerabilities taskId ++ detected)
    metrics := spy.metrics.set taskId (detected.foldl SpyMetrics.count metrics) }

def analyze (analyzers : Analyzers) (event : Event) (context : Context) :
    Except String (List Vulnerability) × Spy :=
  let metrics := (spy.getMetrics context.taskId).getD {}
  let metrics := { metrics with totalEvents := metrics.totalEvents + 1 }
  match analyzers.detect event context with
  | .error error => (.error error, spy.setMetrics context.taskId metrics)
  | .ok detected =>
      let metrics :=
        if event.type = "tool.execute.before" then
          { metrics with toolCalls := metrics.toolCalls + 1 }
        else metrics
      (.ok detected,
        if detected = [] then spy.setMetrics context.taskId metrics
        else spy.store context.taskId metrics detected)

/-- The files in turn, those that cannot be read or are too large without a content.  A file whose
scan fails is skipped. -/
def scanFiles (runtime : Runtime) (context : Context) (maxFiles : Nat) :
    Nat → Matchers → List (String × Option String) → List Vulnerability × Nat × Matchers
  | filesScanned, matchers, [] => ([], filesScanned, matchers)
  | filesScanned, matchers, (filePath, content) :: files =>
      if maxFiles ≤ filesScanned then ([], filesScanned, matchers)
      else
        match content with
        | none => scanFiles runtime context maxFiles filesScanned matchers files
        | some content =>
            match scanFileContent runtime matchers context filePath content with
            | (.error _, matchers) => scanFiles runtime context maxFiles filesScanned matchers files
            | (.ok found, matchers) =>
                let (others, filesScanned, matchers) :=
                  scanFiles runtime context maxFiles (filesScanned + 1) matchers files
                (found ++ others, filesScanned, matchers)

def scanWorkspace (runtime : Runtime) (context : Context) (workspacePath : String)
    (maxFiles : Nat) (files : List (String × Option String)) : List Vulnerability × Spy :=
  let (detected, _, matchers) :=
    scanFiles runtime { context with workspacePath := some workspacePath } maxFiles 0 spy.matchers
      files
  let spy := { spy with matchers }
  (detected,
    if detected = [] then spy
    else spy.store context.taskId ((spy.getMetrics context.taskId).getD {}) detected)

def registerExternalVulnerability (taskId : String) (vulnerability : Vulnerability) : Spy :=
  spy.store taskId ((spy.getMetrics taskId).getD {}) [vulnerability]

def clear (taskId : String) : Spy :=
  { spy with
    vulnerabilities := spy.vulnerabilities.erase taskId
    metrics := spy.metrics.erase taskId }

end Spy

end MultiAgents.AgentSpy
