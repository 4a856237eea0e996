import MultiAgents.Containers.Sums
import MultiAgents.Effects.Triple
import MultiAgents.Text.Record

/-!
# Security records for training

At the end of a run everything that AgentSpy knows about a task is pushed: the
vulnerabilities are grouped by session, and each group becomes a record with
those that are severe enough.  The push is not awaited, so AgentSpy may change
between its steps.  Records for the webhook are buffered and sent in batches,
which come back into the buffer if their request fails.  A record is stored with
a summary of its vulnerabilities.  The contexts of records and the scores that are
computed from them are left out.
-/

namespace MultiAgents.SentinentalWebhook

open Containers Effects Text

/-- What is read of the evidence, which may be anything. -/
structure Evidence where
  filePath : Option String := none
  command : Option String := none
  deriving DecidableEq

structure Vulnerability where
  id : String
  sessionId : String
  phase : String
  severity : String
  type : PropertyName
  category : Option PropertyName := none
  owaspCategory : Option PropertyName := none
  cweId : Option PropertyName := none
  blocked : Bool := false
  filePath : Option String := none
  toolUseId : Option String := none
  evidence : Evidence := {}
  deriving DecidableEq

/-- `SEVERITY_LEVELS`. -/
def severityLevel? : String → Option Nat
  | "low" => some 1
  | "medium" => some 2
  | "high" => some 3
  | "critical" => some 4
  | _ => none

structure Config where
  enabled : Bool := false
  minSeverity : String := "low"

/-- `SEVERITY_LEVELS[v.severity] >= minLevel`, which is false for what is no level. -/
def Config.reaches (config : Config) (severity : String) : Bool :=
  match severityLevel? severity,
      severityLevel? (if config.minSeverity = "" then "low" else config.minSeverity) with
  | some level, some minLevel => minLevel ≤ level
  | _, _ => false

structure SecurityTrainingRecord where
  taskId : String
  sessionId : String
  phase : String
  vulnerabilities : List Vulnerability
  deriving DecidableEq

structure Summary where
  total : Nat := 0
  bySeverity : OrderedMap String Nat := .empty
  byType : OrderedMap String Nat := .empty
  byCategory : OrderedMap String Nat := .empty
  byOwasp : OrderedMap String Nat := .empty
  byCwe : OrderedMap String Nat := .empty
  blocked : Nat := 0
  riskScore : Nat := 0

def severityRisk : String → Nat
  | "critical" => 25
  | "high" => 15
  | "medium" => 5
  | "low" => 1
  | _ => 0

def countPresent (counts : OrderedMap String Nat) (name : Option PropertyName) :
    OrderedMap String Nat :=
  match name with
  | some name => if name.1 = "" then counts else counts.addAt name 1
  | none => counts

def Summary.count (summary : Summary) (vulnerability : Vulnerability) : Summary where
  total := summary.total
  bySeverity := summary.bySeverity.addAt vulnerability.severity 1
  byType := summary.byType.addAt vulnerability.type 1
  byCategory := countPresent summary.byCategory vulnerability.category
  byOwasp := countPresent summary.byOwasp vulnerability.owaspCategory
  byCwe := countPresent summary.byCwe vulnerability.cweId
  blocked := summary.blocked + if vulnerability.blocked then 1 else 0
  riskScore := summary.riskScore + severityRisk vulnerability.severity

def buildSummary (vulnerabilities : List Vulnerability) : Summary :=
  let summary := vulnerabilities.foldl Summary.count {}
  { summary with total := vulnerabilities.length, riskScore := min 100 summary.riskScore }

/-- A row of `sentinental_training_data`. -/
structure SentinentalTrainingData where
  taskId : String
  sessionId : String
  phase : String
  vulnerabilities : List Vulnerability
  vulnerabilitiesCount : Nat
  summary : Summary
  riskScore : Nat
  blockedCount : Nat

/-- `SentinentalRepository.create`, for a record with the summary of its vulnerabilities. -/
def SecurityTrainingRecord.stored (record : SecurityTrainingRecord) :
    SentinentalTrainingData :=
  let summary := buildSummary record.vulnerabilities
  { taskId := record.taskId
    sessionId := record.sessionId
    phase := record.phase
    vulnerabilities := record.vulnerabilities
    vulnerabilitiesCount := record.vulnerabilities.length
    summary
    riskScore := summary.riskScore
    blockedCount := summary.blocked }

/-- What `agentSpy` knows about tasks. -/
abbrev AgentSpy := OrderedMap String (List Vulnerability)

def AgentSpy.getVulnerabilities (agentSpy : AgentSpy) (taskId : String) : List Vulnerability :=
  (agentSpy.get? taskId).getD []

inductive Request where
  | getSummary (taskId : String)
  | create (record : SecurityTrainingRecord)
  -- Keep a record for the next HTTP request, and send those that are kept if there are enough.
  | buffer (record : SecurityTrainingRecord)

abbrev Request.Answer : Request → Type
  | .getSummary _ => List Vulnerability
  | .create _ => Except String Unit
  | .buffer _ => Unit

/-- Whether a query fails, and what others do to AgentSpy before the next step. -/
structure Choice where
  fault : Option String := none
  meanwhile : AgentSpy → AgentSpy := id

def serve (agentSpy : AgentSpy) (choice : Choice) :
    (request : Request) → request.Answer × AgentSpy
  | .getSummary taskId => (agentSpy.getVulnerabilities taskId, choice.meanwhile agentSpy)
  | .create _ =>
      (match choice.fault with | some error => .error error | none => .ok (),
        choice.meanwhile agentSpy)
  | .buffer _ => ((), choice.meanwhile agentSpy)

abbrev calls : Signature := ⟨Request, Request.Answer⟩

def environment : Environment calls where
  State := AgentSpy
  Choice := Choice
  serve := serve

abbrev Program := Process calls String

abbrev Request.issue (request : Request) : Program request.Answer :=
  Process.call (S := calls) request

def groupBySession (vulnerabilities : List Vulnerability) :
    OrderedMap String (List Vulnerability) :=
  vulnerabilities.foldl (fun bySession vulnerability =>
    bySession.set vulnerability.sessionId
      ((bySession.get? vulnerability.sessionId).getD [] ++ [vulnerability])) .empty

variable (config : Config)

/-- A failure to store a record is only logged. -/
def pushSecurityData (taskId sessionId phase : String) (vulnerabilities : List Vulnerability) :
    Program Unit :=
  let filtered := vulnerabilities.filter fun vulnerability => config.reaches vulnerability.severity
  if filtered = [] then pure ()
  else do
    let record : SecurityTrainingRecord :=
      { taskId, sessionId, phase, vulnerabilities := filtered }
    let _ ← (Request.create record).issue
    if config.enabled then (Request.buffer record).issue else pure ()

/-- `vulns[0]?.phase || 'unknown'`. -/
def phaseOf (vulnerabilities : List Vulnerability) : String :=
  match vulnerabilities.head?.map Vulnerability.phase with
  | none | some "" => "unknown"
  | some phase => phase

def push (taskId : String) : Program Unit := do
  let vulnerabilities ← (Request.getSummary taskId).issue
  forM (groupBySession vulnerabilities).entries fun (sessionId, vulns) =>
    pushSecurityData config taskId sessionId (phaseOf vulns) vulns

/-- The objects that are sent are numbered in the order in which they came. -/
structure Webhook where
  records : List SecurityTrainingRecord := []
  buffer : List Nat := []
  /-- The batches of the requests that are not answered yet. -/
  flushes : List (List Nat) := []
  accepted : List (List Nat) := []

namespace Webhook

variable (webhook : Webhook)

def flush : Webhook :=
  if webhook.buffer = [] then webhook
  else { webhook with buffer := [], flushes := webhook.flushes ++ [webhook.buffer] }

/-- `config.batchSize || 10`, where what is no number is `none`. -/
def batchLimit : Option Int → Int
  | none | some 0 => 10
  | some batchSize => batchSize

/-- What `pushSecurityData` does with a record if the webhook is enabled. -/
def bufferRecord (batchSize : Option Int) (record : SecurityTrainingRecord) : Webhook :=
  let webhook := { webhook with
    records := webhook.records ++ [record]
    buffer := webhook.buffer ++ [webhook.records.length] }
  if batchLimit batchSize ≤ webhook.buffer.length then webhook.flush else webhook

/-- The rest of a flush, when its request is accepted or has failed. -/
def answered (place : Nat) (ok : Bool) : Webhook :=
  match webhook.flushes[place]? with
  | none => webhook
  | some batch =>
      let webhook := { webhook with flushes := webhook.flushes.eraseIdx place }
      if ok then { webhook with accepted := webhook.accepted ++ [batch] }
      else { webhook with buffer := batch ++ webhook.buffer }

/-- The batch size may be configured anew between records. -/
inductive Action where
  | record (batchSize : Option Int) (record : SecurityTrainingRecord)
  | flush
  | answered (place : Nat) (ok : Bool)

def step : Action → Webhook
  | .record batchSize record => webhook.bufferRecord batchSize record
  | .flush => webhook.flush
  | .answered place ok => webhook.answered place ok

end Webhook

end MultiAgents.SentinentalWebhook
