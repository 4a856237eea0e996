import MultiAgents.Services.SentinentalWebhook
import MultiAgents.Services.TaskContextBuilder
import MultiAgents.Text.Lines
import MultiAgents.Text.Path
import MultiAgents.Text.Units

/-!
# What is exported about vulnerabilities

The stored records of a task are added up, listed by phase and linked to the tool
calls that may have caused them: by the id of the call if the finding has it, and
else by the first edit or write whose file name occurs in the path of the finding.
The workspace is what the paths of the calls have in common.
Inputs of tools have texts where texts are read.  The reasoning of the agents, the
levels of traces and what else is extracted for stories are left out.
-/

namespace MultiAgents.TrainingExport

open Containers SentinentalWebhook Text

structure ToolInput where
  filePath : Option String := none
  path : Option String := none
  command : Option String := none
  oldString : Option String := none
  newString : Option String := none
  content : Option String := none
  deriving DecidableEq

structure ToolCall where
  toolName : String
  toolUseId : Option String := none
  toolInput : ToolInput := {}
  toolOutput : Option String := none
  toolSuccess : Bool := true
  filePath : Option String := none
  bashCommand : Option String := none
  deriving DecidableEq

/-- `first || second || …`, where no text is true if it is empty. -/
def firstPresent (texts : List (Option String)) : Option String := texts.findSome? presentText

namespace ToolCall

variable (call : ToolCall)

def isEdit : Bool := ["Edit", "edit"].contains call.toolName

def isWrite : Bool := ["Write", "write"].contains call.toolName

def isBash : Bool := ["bash", "Bash"].contains call.toolName

def path? : Option String :=
  firstPresent [call.filePath, call.toolInput.filePath, call.toolInput.path]

def command? : Option String := firstPresent [call.bashCommand, call.toolInput.command]

end ToolCall

/-- `path.split('/').pop() || ''`. -/
def baseName (path : String) : String :=
  String.ofList ((path.toList.splitOn '/').getLast?.getD [])

structure CausalTool where
  toolName : String
  toolInput : ToolInput
  toolCallIndex : Nat
  toolUseId : Option String := none
  exact : Bool := false
  deriving DecidableEq

def targetPath? (vuln : Vulnerability) : Option String :=
  firstPresent [vuln.filePath, vuln.evidence.filePath]

/-- Whether an edit or write may be of the file at a path. -/
def suggests (targetPath : String) (call : ToolCall) : Bool :=
  (call.isEdit || call.isWrite) && call.path?.any fun path => includes targetPath (baseName path)

/-- Whether a command may be that of the evidence. -/
def runs (evidence : Evidence) (call : ToolCall) : Bool :=
  call.isBash && call.command?.any fun command => (presentText evidence.command).any fun found =>
    includes command (String.ofList (found.toList.take 30))

def findCausalToolCall (vuln : Vulnerability) (toolCalls : List ToolCall) : Option CausalTool := do
  let targetPath ← targetPath? vuln
  match toolCalls.zipIdx.find? fun entry => suggests targetPath entry.1 with
  | some (call, index) =>
      return { toolName := call.toolName, toolInput := call.toolInput, toolCallIndex := index }
  | none =>
      let (call, index) ← toolCalls.zipIdx.find? fun entry => runs vuln.evidence entry.1
      return { toolName := call.toolName, toolInput := { command := call.command? },
               toolCallIndex := index }

def toolCallByUseId (toolCalls : List ToolCall) : OrderedMap String (ToolCall × Nat) :=
  toolCalls.zipIdx.foldl (OrderedMap.keep fun entry => presentText entry.1.toolUseId) .empty

def causalTool? (toolCalls : List ToolCall) (vuln : Vulnerability) : Option CausalTool :=
  match (presentText vuln.toolUseId).bind (toolCallByUseId toolCalls).get? with
  | some (call, index) =>
      some
        { toolName := call.toolName
          toolInput := call.toolInput
          toolCallIndex := index
          toolUseId := vuln.toolUseId
          exact := true }
  | none => findCausalToolCall vuln toolCalls

structure Causality where
  phase : String
  action : CausalTool
  vulnerability : Vulnerability

def causality? (toolCalls : List ToolCall) (record : SentinentalTrainingData)
    (vuln : Vulnerability) : Option Causality :=
  (causalTool? toolCalls vuln).map fun action =>
    { phase := record.phase, action, vulnerability := vuln }

def buildCausalityMap (records : List SentinentalTrainingData) (toolCalls : List ToolCall) :
    List Causality :=
  records.flatMap fun record => record.vulnerabilities.filterMap (causality? toolCalls record)

structure ObservedVulnerability where
  vulnerability : Vulnerability
  causedByToolCall : Option CausalTool

structure PhaseObservations where
  phase : String
  vulnerabilitiesDetected : Nat
  vulnerabilities : List ObservedVulnerability
  riskScore : Nat

structure ObservationSummary where
  totalVulnerabilities : Nat := 0
  totalBlocked : Nat := 0
  totalRiskScore : Nat := 0
  bySeverity : OrderedMap String Nat := .empty
  byType : OrderedMap String Nat := .empty
  byOwasp : OrderedMap String Nat := .empty
  byCwe : OrderedMap String Nat := .empty

structure SpyObservations where
  summary : ObservationSummary
  byPhase : List PhaseObservations
  causalityMap : List Causality

def ObservationSummary.add (summary : ObservationSummary) (record : SentinentalTrainingData) :
    ObservationSummary where
  totalVulnerabilities := summary.totalVulnerabilities + record.vulnerabilitiesCount
  totalBlocked := summary.totalBlocked + record.blockedCount
  totalRiskScore := summary.totalRiskScore + record.riskScore
  bySeverity := summary.bySeverity.addAll record.summary.bySeverity
  byType := summary.byType.addAll record.summary.byType
  byOwasp := summary.byOwasp.addAll record.summary.byOwasp
  byCwe := summary.byCwe.addAll record.summary.byCwe

def observePhase (toolCalls : List ToolCall) (entry : String × List SentinentalTrainingData) :
    PhaseObservations :=
  let phaseVulns := entry.2.flatMap fun record => record.vulnerabilities.map fun vuln =>
    { vulnerability := vuln, causedByToolCall := findCausalToolCall vuln toolCalls }
  { phase := entry.1
    vulnerabilitiesDetected := phaseVulns.length
    vulnerabilities := phaseVulns
    riskScore := entry.2.foldl (fun risk record => max risk record.riskScore) 0 }

def getSpyObservations (records : List SentinentalTrainingData) (toolCalls : List ToolCall) :
    Option SpyObservations :=
  if records = [] then none
  else
    some
      { summary := records.foldl ObservationSummary.add {}
        byPhase := (OrderedMap.groupBy SentinentalTrainingData.phase records).entries.map
          (observePhase toolCalls)
        causalityMap := buildCausalityMap records toolCalls }

section Workspace

/- Whether there is a file of some name in a directory, and something at a path. -/
variable (hasFile : List Nat → String → Bool) (existsSync : List Nat → Bool)

/-- The directory that all paths share, or the one above it if only that one looks like the root
of a project. -/
def sharedDirectory (commonPrefix : List Nat) : Option (List Nat) :=
  (Units.beforeLastSlash commonPrefix).map fun workspacePath =>
    if ["package.json", "requirements.txt", "go.mod", "Cargo.toml"].any (hasFile workspacePath) then
      workspacePath
    else
      let parentDir := Units.dirname workspacePath
      if ["package.json", "requirements.txt"].any (hasFile parentDir) then parentDir
      else workspacePath

/-- `/(?:workspace|project|directory)[:\s]+([\/\w.-]+)/i`. -/
def promptPath : Regex :=
  .all [.alt (.caseless "workspace") (.alt (.caseless "project") (.caseless "directory")),
    .atLeastOne fun char => char == ':' || isSpace char,
    .capture 1 (.atLeastOne fun char =>
      TaskContextBuilder.isWord char || ['/', '.', '-'].contains char)]

def sortedPaths (toolCalls : List ToolCall) : List (List Nat) :=
  ((toolCalls.filterMap ToolCall.path?).map TaskContextBuilder.utf16).mergeSort (· ≤ ·)

def extractWorkspacePath (toolCalls : List ToolCall) (prompts : List (Option String)) :
    Option (List Nat) :=
  let shared := do
    let first ← (sortedPaths toolCalls).head?
    let last ← (sortedPaths toolCalls).getLast?
    sharedDirectory hasFile (Units.commonPrefix first last)
  let mentioned (prompt : Option String) : Option (List Nat) := do
    let path ← promptPath.findCapture 1 (← prompt).toList
    (some (TaskContextBuilder.utf16 (String.ofList path))).filter existsSync
  shared.or (prompts.findSome? mentioned)

end Workspace

end MultiAgents.TrainingExport
