import MultiAgents.System.Bridge
import MultiAgents.Types

/-!
# Reading what agents write

The text of an agent is taken from the events of its session and the JSON block
in it is read without a check of its shape.  Reading a property of `null` or
calling an array method on anything else throws, as it does in the source.
-/

namespace MultiAgents

open Text

/-- The block between a "json" fence and the next fence, without the blanks around it. -/
def jsonFence : Regex :=
  Regex.all [Regex.text "```json", Regex.many isSpace, .capture 1 (Regex.lazily anyChar),
    Regex.many isSpace, Regex.text "```"]

def jsonBlock? (output : String) : Option (List Char) :=
  jsonFence.findCapture 1 output.toList

/-- The parsed JSON block of an output; `null` counts as a failure to read it. -/
def jsonData? (output : String) : Option Json :=
  match (jsonBlock? output).bind Json.parse with
  | some .null => none
  | data => data

/-- An object from the first brace to the last, with the name in quotes somewhere in it. -/
def rawObject (names : List String) : Regex :=
  Regex.all [Regex.text "\x7b", Regex.lazily anyChar, Regex.text "\"",
    (names.map Regex.text).foldr Regex.alt (.char fun _ => false), Regex.text "\"",
    Regex.many anyChar, Regex.text "\x7d"]

/-- An object from its first brace to the last one, with a field of that name. -/
def rawField (name : String) : Regex :=
  Regex.all [Regex.text "\x7b", Regex.lazily anyChar, Regex.text s!"\"{name}\"",
    Regex.many isSpace, Regex.text ":", Regex.many anyChar, Regex.text "\x7d"]

/-- An object up to the last bracket, with an array of that name. -/
def rawArray (name : String) : Regex :=
  Regex.all [Regex.text "\x7b", Regex.lazily anyChar, Regex.text s!"\"{name}\"",
    Regex.many isSpace, Regex.text ":", Regex.many isSpace, Regex.text "[",
    Regex.many anyChar, Regex.text "]"]

/-- Count braces; `opened` is what was read since the depth was last zero, in reverse. -/
def balancedFrom : List Char → Int → Option (List Char) → Option (List Char)
  | [], _, _ => none
  | '\x7b' :: rest, depth, opened =>
      let opened := if depth = 0 then some [] else opened
      balancedFrom rest (depth + 1) (opened.map fun read => '\x7b' :: read)
  | '\x7d' :: rest, depth, some read =>
      if depth = 1 then some ('\x7d' :: read).reverse
      else balancedFrom rest (depth - 1) (some ('\x7d' :: read))
  | '\x7d' :: rest, depth, none => balancedFrom rest (depth - 1) none
  | char :: rest, depth, opened =>
      balancedFrom rest depth (opened.map fun read => char :: read)

/-- The first object with balanced braces. -/
def extractBalancedJson (text : List Char) : Option (List Char) :=
  balancedFrom text 0 none

/-- The first match of an expression, cut to its first balanced object, that parses. -/
def firstBalanced (patterns : List Regex) (output : String) : Value :=
  patterns.findSome? fun pattern =>
    ((pattern.findCapture 0 output.toList).bind extractBalancedJson).bind Json.parse

def OpenCodeEvent.text? (event : OpenCodeEvent) : Option String :=
  if event.type = "message.part.updated" then
    match event.part with
    | some part => if part.type = "text" then part.text.filter (· != "") else none
    | none => none
  else none

def extractFinalOutput (events : List OpenCodeEvent) : String :=
  events.foldl (fun output event => event.text?.getD output) ""

def countToolCalls (events : List OpenCodeEvent) : Nat :=
  (events.filter fun event => event.type == "tool.execute.before").length

structure JudgeResult where
  verdict : Verdict
  score : Json
  issues : Json
  criteriaStatus : Json
  summary : Json

/-- What stands for a judge whose answer cannot be read. -/
def JudgeResult.unread : JudgeResult :=
  ⟨.needsRevision, .num 0 0, .arr [], .arr [], .str ""⟩

def JudgeResult.ofData (data : Json) : JudgeResult where
  verdict := .ofJson ((data.property "verdict").orElse (.str "needs_revision"))
  score := (data.property "score").orElse (.num 0 0)
  issues := (data.property "issues").orElse (.arr [])
  criteriaStatus := (data.property "criteriaStatus").orElse (.arr [])
  summary := (data.property "summary").orElse (.str "")

def parseJudgeVerdict (output : String) : JudgeResult :=
  (jsonData? output).elim .unread .ofData

/-- `issues.length > 0`. -/
def JudgeResult.hasIssues (result : JudgeResult) : Bool :=
  Value.nonEmpty (some result.issues)

def fixIssues (issues : Json) : Except String (List Json) := do
  let listed ← issues.items
  for issue in listed do
    match ← Value.member (some issue) "severity" with
    | some (.str _) => pure ()
    | _ => throw "TypeError: severity is not a string"
  pure listed

structure SpyResult where
  vulnerabilities : Json
  summary : Json
  riskLevel : Json

def extractSpyResult (output : String) : SpyResult :=
  match jsonData? output with
  | some data =>
      ⟨(data.property "vulnerabilities").orElse (.arr []),
        (data.property "summary").orElse (.str ""),
        (data.property "riskLevel").orElse (.str "safe")⟩
  | none => ⟨.arr [], .str "Failed to parse security analysis", .str "safe"⟩

def convertSpyVulnerabilities (result : SpyResult) (taskId sessionId storyId : String)
    (iteration : Nat) : Except String (List VulnerabilityV2) := do
  let found ← result.vulnerabilities.items
  found.zipIdx.mapM fun (finding, index) => do
    let _ ← Value.member (some finding) "severity"
    pure ⟨s!"spy-{storyId}-{iteration}-{index}", taskId, sessionId, "Developer", finding⟩

end MultiAgents
