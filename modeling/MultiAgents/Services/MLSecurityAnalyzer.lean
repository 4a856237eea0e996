import MultiAgents.Containers.Tickets
import MultiAgents.Services.EventBridge

/-!
# Chains of tool calls

The analyzer keeps the tools that an execution has used and looks at the last ones
of them.  An event about a tool that starts reaches it through the bridge and the
tracker, once the queries of the tracker are answered.
-/

namespace MultiAgents.MLSecurityAnalyzer

open Containers Text

inductive SignalType where
  | toolChain
  | promptClassification
  | gitContext
  | errorRecovery
  deriving DecidableEq

inductive SignalSeverity where
  | critical
  | high
  | medium
  | low
  | info
  deriving DecidableEq

structure MLSecuritySignal where
  taskId : String
  executionId : Json
  signalType : SignalType
  severity : SignalSeverity
  description : String
  details : Json
  deriving DecidableEq

structure ToolUse where
  tool : Json
  filePath : Value
  command : Value
  deriving DecidableEq

def toolUse (toolName : Json) (toolInput : Value) : ToolUse where
  tool := toolName
  filePath := either (toolInput.member? "file_path") (toolInput.member? "path")
  command := toolInput.member? "command"

structure Analyzer where
  toolSequences : OrderedMap Json (List ToolUse) := .empty
  -- Those handed to the table.
  signals : List MLSecuritySignal := []

def occurs (literal : String) (text : List Char) : Bool :=
  ((Regex.text literal).find text).isSome

def endsWith (literal : String) (text : List Char) : Bool := literal.toList.isSuffixOf text

/-- They disregard letter case, so they are tested on lower-case letters. -/
def sensitiveFilePatterns : List (List Char → Bool) :=
  [fun path => endsWith ".env" path || occurs ".env." path,
    endsWith ".pem",
    endsWith ".key",
    occurs "id_rsa",
    occurs "id_ed25519",
    occurs "credentials",
    fun path => ["secret.json", "secret.yaml", "secret.yml", "secrets.json", "secrets.yaml",
      "secrets.yml"].any fun file => occurs file path,
    occurs ".aws/credentials",
    occurs ".kube/config"]

def isSensitive (path : String) : Bool :=
  sensitiveFilePatterns.any fun pattern => pattern (path.toList.map Char.toLower)

def isNetwork (command : String) : Bool :=
  ["curl", "wget", "nc", "netcat", "ssh", "scp", "rsync", "ftp"].any fun tool =>
    occurs tool (command.toList.map Char.toLower)

section Signals

variable (taskId : String) (executionId : Json)

def createSignal (severity : SignalSeverity) (description : String)
    (details : List (String × Value)) : MLSecuritySignal :=
  { taskId, executionId, signalType := .toolChain, severity, description,
    details := .record details }

/-- A command that is no text has no part. -/
def readSensitiveThenNetwork (first second : ToolUse) : Except String (List MLSecuritySignal) :=
  if first.tool.isText "Read" && second.tool.isText "Bash" then
    let readPath := first.filePath.orElse (.str "")
    let bashCmd := second.command.orElse (.str "")
    if isSensitive readPath.display && isNetwork bashCmd.display then do
      let command ← textOf bashCmd
      return [createSignal taskId executionId .critical
        "Potential exfiltration: Read sensitive file → network command"
        [("pattern", .text "read_sensitive_then_network"), ("readFile", readPath),
          ("networkCommand", .text (clip 100 command)),
          ("sequence", some (.arr [first.tool, second.tool]))]]
    else return []
  else return []

/-- An object is another one than any other. -/
def readEnvThenWrite (first second : ToolUse) : List MLSecuritySignal :=
  if first.tool.isText "Read" && second.tool.isText "Write" then
    let readPath := first.filePath.orElse (.str "")
    let writePath := second.filePath.orElse (.str "")
    if occurs ".env" (readPath.display.toList.map Char.toLower) &&
        (isObject readPath || readPath != writePath) then
      [createSignal taskId executionId .high "Potential data copy: Read .env → write elsewhere"
        [("pattern", .text "read_env_then_write"), ("readFile", readPath),
          ("writeFile", writePath), ("sequence", some (.arr [first.tool, second.tool]))]]
    else []
  else []

def multipleReads (sequence : List ToolUse) : List MLSecuritySignal :=
  let recentReads := (sequence.drop (sequence.length - 5)).filter fun used =>
    used.tool.isText "Read"
  if recentReads.length ≥ 4 then
    [createSignal taskId executionId .medium "Multiple file reads (potential reconnaissance)"
      [("pattern", .text "multiple_reads"), ("fileCount", some (.num recentReads.length 0)),
        ("files", some (.arr (recentReads.filterMap fun used =>
          used.filePath.filter Json.truthy)))]]
  else []

end Signals

def Analyzer.sequence (analyzer : Analyzer) (executionId : Json) : List ToolUse :=
  (analyzer.toolSequences.get? executionId).getD []

/-- Patterns are looked for from the second call of an execution on. -/
def trackToolCall (taskId : String) (executionId toolName : Json) (toolInput : Value)
    (analyzer : Analyzer) : Except String (List MLSecuritySignal) × Analyzer :=
  let sequence := analyzer.sequence executionId
  let used := toolUse toolName toolInput
  let tracked := { analyzer with
    toolSequences := analyzer.toolSequences.set executionId (sequence ++ [used]) }
  match sequence.getLast? with
  | none => (.ok [], tracked)
  | some previous =>
      match readSensitiveThenNetwork taskId executionId previous used with
      | .error error => (.error error, tracked)
      | .ok exfiltration =>
          let signals := exfiltration ++ readEnvThenWrite taskId executionId previous used ++
            multipleReads taskId executionId (sequence ++ [used])
          (.ok signals, { tracked with signals := analyzer.signals ++ signals })

structure ToolStart where
  toolName : Json
  toolInput : Value
  deriving DecidableEq

/-- The tool that an event starts. -/
def startedTool (runtime : Runtime) (taskId : String) (moment : Moment) (event : BridgeEvent) :
    Option ToolStart :=
  match transformEvent runtime taskId event with
  | .error _ | .ok none => none
  | .ok (some frontendEvent) =>
      match if moment.sampled then EventBridge.preview frontendEvent else .ok "",
          frontendEvent.logEntry runtime, EventBridge.trackerCall moment frontendEvent with
      | .ok _, .ok (some _), some (.startToolCall _ toolName toolInput) =>
          some { toolName, toolInput }
      | _, _, _ => none

/-- A call is tracked when it has been stored; one without input has no text to store. -/
def track (taskId : String) (executionId : Json) (analyzer : Analyzer) :
    Option ToolStart → Analyzer
  | some { toolName, toolInput := some input } =>
      (trackToolCall taskId executionId toolName input analyzer).2
  | _ => analyzer

/-- An execution with an open turn.  Events are numbered as they come. -/
structure OpenExecution where
  calls : Tickets (BridgeEvent × Option ToolStart) := .empty
  analyzer : Analyzer := {}
  -- Those whose queries were answered, in this order.
  answered : List (BridgeEvent × Option ToolStart) := []

inductive Action where
  | event (moment : Moment) (event : BridgeEvent)
  | answer (call : Nat)
  | fault (call : Nat)

def step (runtime : Runtime) (taskId : String) (executionId : Json) (execution : OpenExecution) :
    Action → OpenExecution
  | .event moment event =>
      { execution with
        calls := execution.calls.add (event, startedTool runtime taskId moment event) }
  | .answer call =>
      match execution.calls.get? call with
      | none => execution
      | some (event, started) =>
          { calls := execution.calls.remove call
            analyzer := track taskId executionId execution.analyzer started
            answered := execution.answered ++ [(event, started)] }
  | .fault call => { execution with calls := execution.calls.remove call }

end MultiAgents.MLSecurityAnalyzer
