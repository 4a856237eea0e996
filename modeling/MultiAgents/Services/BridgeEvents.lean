import MultiAgents.Services.ActivityLog

/-!
# Events of OpenCode and what the frontend is told

An event has a type and properties of any shape.  `transformEvent` turns it into
what is sent to the frontend, which is also what is logged.  Reading a property of
the wrong shape raises, as it does in the source.
-/

namespace MultiAgents

open Text

/-- What the language provides for texts. -/
structure Runtime where
  toLowerCase : String → String
  stringify : Json → String

structure BridgeEvent where
  type : String
  properties : Value := none
  deriving DecidableEq

structure FrontendEvent where
  type : String
  data : Json
  deriving DecidableEq

/-- `value || fallback`, where the fallback may be undefined as well. -/
def either (value fallback : Value) : Value := if value.truthy then value else fallback

/-- The text of a value that a method of texts is called on. -/
def textOf : Json → Except String String
  | .str text => .ok text
  | _ => .error "TypeError: not a function"

/-- `typeof value === 'object'`, less `null`. -/
def isObject : Json → Bool
  | .obj _ | .arr _ => true
  | _ => false

/-- `value[0]`. -/
def firstItem : Json → Value
  | .arr items => items.head?
  | .str text => text.toList.head?.map fun char => .str char.toString
  | value => value.property "0"

def Runtime.textual (runtime : Runtime) : Json → String
  | .str text => text
  | value => runtime.stringify value

/-- A file path under the names it may have, the first of them that counts as true. -/
def pathProperty (value : Value) : Value :=
  either (value.member? "file_path") <| either (value.member? "filePath") <|
    either (value.member? "path") (value.member? "file")

def filledText : Value → Option String
  | some (.str text) => presentText text
  | _ => none

def inPath (stops : List Char) (char : Char) : Bool := !isSpace char && char ∉ stops

/-- `/:\s*(\/[^\s,]+)/`. -/
def colonPath : Regex :=
  .all [.text ":", .many isSpace,
    .capture 1 (.seq (.text "/") (.atLeastOne (inPath [','])))]

/-- `/\((\/[^\s,)]+)\)/`. -/
def bracketPath : Regex :=
  .all [.text "(", .capture 1 (.seq (.text "/") (.atLeastOne (inPath [',', ')']))), .text ")"]

def pathInText (content : String) : Option String :=
  ((colonPath.findCapture 1 content.toList).or
    (bracketPath.findCapture 1 content.toList)).map String.ofList

def extractFilePath (filePath : Value) (input content : Value) : Except String String := do
  if let some path := filledText filePath then return path
  if input.any isObject then
    if let some path := filledText (pathProperty input) then return path
  match content.filter Json.truthy with
  | none => return ""
  | some content => return (pathInText (← textOf content)).getD ""

def extractEventPath (event : Json) : Except String String :=
  extractFilePath (pathProperty event) (event.property "input") (event.property "content")

/-- What a call finds of the clock and of the random numbers. -/
structure Stamp where
  dateNow : Int
  isoString : String
  random : String
  written : isoString ≠ ""

def normalizedFields (stamp : Stamp) (event : Json) (filePath : String) :
    List (String × Value) :=
  let filled (name fallback : String) : String × Value :=
    (name, some ((event.property name).orElse (.str fallback)))
  let kept (name : String) : String × Value := (name, event.property name)
  [filled "id" s!"evt-{stamp.dateNow}-{stamp.random}", filled "taskId" "", filled "type" "tool",
    filled "tool" "unknown", filled "state" "running", kept "content",
    filled "timestamp" stamp.isoString, ("file_path", .text? (presentText filePath)),
    kept "input", kept "output", kept "result", kept "error", kept "duration", kept "streaming"]

def normalizeToolEvent (stamp : Stamp) (event : Json) : Except String Json := do
  return .record (normalizedFields stamp event (← extractEventPath event))

def toolStatusAndInput (part : Json) : Json × Json :=
  let state := part.property "state"
  let own := either (part.property "input") (part.property "args")
  if state.any isObject then
    ((state.member? "status").orElse (.str ""),
      (either (state.member? "input") (either (state.member? "args") own)).orElse (.obj []))
  else ((either state (part.property "status")).orElse (.str ""), own.orElse (.obj []))

def normalizedInput (filePath : String) (toolInput : Json) : Json :=
  if filePath = "" ∨ isObject toolInput ∧ (toolInput.property "file_path").any Json.truthy then
    toolInput
  else if isObject toolInput then
    .obj (Json.setField (toolInput.entries.toOption.getD []) "file_path" (.str filePath))
  else .obj [("file_path", .str filePath), ("raw", toolInput)]

section Describe

variable (runtime : Runtime)

def describeObject (toolName : Json) (filePath : String) (toolInput : Json) :
    Except String String := do
  let pattern := (toolInput.property "pattern").filter Json.truthy
  let command := (toolInput.property "command").filter Json.truthy
  let questions := (toolInput.property "questions").filter Json.truthy
  if let (true, some pattern) := (toolName.isText "glob" || toolName.isText "grep", pattern) then
    return ": " ++ pattern.display
  if let (true, some command) := (toolName.isText "bash", command) then
    return ": " ++ clip 100 (← textOf command)
  if let (true, some questions) := (toolName.isText "question", questions) then
    return ": " ++ (((firstItem questions).member? "question").orElse (.str "asking...")).display
  if filePath ≠ "" then return ""
  let keys := (toolInput.entries.toOption.getD []).filter fun entry =>
    entry.1 != "file_path" && entry.1 != "raw"
  match keys.head? with
  | none => return ""
  | some (firstKey, value) =>
      return if firstKey = "" then "" else ": " ++ clip 100 (runtime.textual value)

def describeInput (toolName : Json) (filePath : String) (toolInput : Json) :
    Except String String := do
  -- The name of the tool is looked at only when there is a path.
  let fileTool ← if filePath = "" then pure false else do
    pure (["read", "edit", "write"].contains (runtime.toLowerCase (← textOf toolName)))
  if fileTool then return ": " ++ filePath
  else if isObject toolInput then describeObject runtime toolName filePath toolInput
  else
    match toolInput with
    | .str text =>
        return if text ≠ "" ∧ filePath = "" then
          ": " ++ clip 150 text ++ if Json.codeUnits text > 150 then "..." else ""
        else ""
    | _ => return ""

def toolCall (taskId : String) (part : Json) : Except String FrontendEvent := do
  let toolName := (either (part.property "toolName")
    (either (part.property "tool") (part.property "name"))).orElse (.str "tool")
  let (toolStatus, rawInput) := toolStatusAndInput part
  let filePath ← extractFilePath (pathProperty part) rawInput (part.property "content")
  let toolInput := normalizedInput filePath rawInput
  let status := if toolStatus.truthy then " (" ++ toolStatus.display ++ ")" else ""
  let described ← describeInput runtime toolName filePath toolInput
  return ⟨"tool_call", .record
    [("taskId", .text taskId), ("content", .text ("🔧 " ++ toolName.display ++ status ++ described)),
      ("tool", toolName), ("state", toolStatus), ("input", toolInput),
      ("file_path", .text? (presentText filePath)), ("streaming", .flag true)]⟩

def toolTypes : List String := ["tool-invocation", "tool-result", "tool-use", "tool_use", "tool"]

def transformPart (taskId : String) (part : Value) : Except String (Option FrontendEvent) := do
  let some part := part | return none
  let type := part.property "type"
  if type.isText "text" then
    return some ⟨"agent_output", .record [("taskId", .text taskId),
      ("content", (part.property "text").orElse (.str "")), ("streaming", .flag true)]⟩
  if toolTypes.any type.isText || (part.property "toolName").truthy ||
      (part.property "tool").truthy then
    return some (← toolCall runtime taskId part)
  if type.isText "step-finish" then
    return some ⟨"step_finish", .record [("taskId", .text taskId),
      ("reason", part.property "reason"), ("cost", part.property "cost"),
      ("tokens", part.property "tokens")]⟩
  return none

/-- `taskId` and further fields. -/
def frontendEvent (taskId type : String) (fields : List (String × Value)) :
    Except String (Option FrontendEvent) :=
  .ok (some ⟨type, .record (("taskId", .text taskId) :: fields)⟩)

def transformEvent (taskId : String) (event : BridgeEvent) :
    Except String (Option FrontendEvent) :=
  let property := fun name => event.properties.member? name
  let tool := either (property "tool") (property "name")
  let questionId := either (property "questionId") (property "id")
  match event.type with
  | "session.start" => frontendEvent taskId "task_update"
      [("status", .text "running"), ("message", .text "Agent started working...")]
  | "session.idle" => frontendEvent taskId "agent_completed"
      [("message", .text "Agent finished processing")]
  | "session.error" => frontendEvent taskId "agent_failed"
      [("error", (property "error").orElse (.str "Unknown error"))]
  | "message.start" => frontendEvent taskId "agent_progress"
      [("phase", .text "thinking"), ("message", .text "Agent is thinking...")]
  | "message.part.updated" => transformPart runtime taskId (property "part")
  | "message.delta" | "message.chunk" => frontendEvent taskId "agent_output"
      [("content", (either (property "content") (property "text")).orElse (.str "")),
        ("streaming", .flag true)]
  | "message.complete" => frontendEvent taskId "agent_message"
      [("content", (property "content").orElse (.str "")), ("role", .text "assistant")]
  | "tool.execute.before" | "tool.start" => frontendEvent taskId "tool_call"
      [("tool", tool), ("status", .text "running"),
        ("input", either (property "args") (property "input"))]
  | "tool.execute.after" | "tool.complete" => frontendEvent taskId "tool_result"
      [("tool", tool), ("status", .text "completed"),
        ("output", either (property "result") (property "output")),
        ("success", .flag (property "success" != .flag false))]
  | "tool.error" => frontendEvent taskId "tool_error"
      [("tool", tool), ("error", property "error")]
  | "file.read" => frontendEvent taskId "file_activity"
      [("action", .text "read"), ("path", property "path")]
  | "file.write" | "file.edit" => frontendEvent taskId "file_activity"
      [("action", (property "action").orElse (.str "write")), ("path", property "path")]
  | "bash.start" | "command.start" => frontendEvent taskId "command_running"
      [("command", property "command")]
  | "bash.output" | "command.output" => frontendEvent taskId "command_output"
      [("output", either (property "output") (property "stdout")), ("stderr", property "stderr")]
  | "bash.complete" | "command.complete" => frontendEvent taskId "command_complete"
      [("exitCode", either (property "exitCode") (property "exit_code"))]
  | "question.asked" => frontendEvent taskId "question_asked"
      [("questionId", questionId), ("question", either (property "question") (property "text")),
        ("options", property "options"),
        ("required", ((property "required").filter fun value => !value.isNull).getD (.bool true))]
  | "question.answered" => frontendEvent taskId "question_answered"
      [("questionId", questionId), ("answer", property "answer")]
  | _ => .ok none

end Describe

def mapToNotificationType : String → String
  | "task_update" => "task_update"
  | "agent_completed" => "agent_completed"
  | "agent_failed" | "tool_error" => "agent_failed"
  | "agent_output" | "agent_message" => "agent_message"
  | _ => "agent_progress"

/-- The identifier an event carries, in the order in which it is looked up. -/
def BridgeEvent.sessionId (event : BridgeEvent) : Value :=
  let props := event.properties
  let part := props.member? "part"
  let info := props.member? "info"
  either (props.member? "sessionID") <| either (props.member? "sessionId") <|
    either (part.member? "sessionID") <| either (part.member? "sessionId") <|
      either (info.member? "sessionID") (info.member? "sessionId")

/-- `data.streaming === true`. -/
def FrontendEvent.streaming (event : FrontendEvent) : Bool :=
  event.data.property "streaming" == .flag true

def FrontendEvent.logEntry (runtime : Runtime) (event : FrontendEvent) :
    Except String (Option LogEntry) := do
  if event.streaming && event.type == "content_chunk" then return none
  if event.type = "assistant_chunk" then return none
  let property := event.data.property
  let toolName := runtime.toLowerCase (← textOf ((property "tool").orElse (.str "")))
  let content := (either (property "content")
    (either (property "message") (property "phase"))).orElse (.str "")
  return some
    { type := event.type
      content := clip 5000 (runtime.textual content)
      tool := .text? (presentText toolName)
      toolState := (either (property "state") (property "status")).filter Json.truthy
      toolInput := (property "input").orElse event.data
      toolOutput := either (property "output") (property "result") }

/-- What a message to the frontend leaves in the log of the task, unless it is noise. -/
def persistedEntry (runtime : Runtime) (event : String) (data : Json) : Option LogEntry :=
  let content := (either (data.property "message") (either (data.property "phase")
    (either (data.property "content") (data.property "title")))).orElse (.str event)
  if ["cost:update", "typing", "heartbeat", "ping", "pong"].contains event then none
  else if event == "agent:activity" && (data.property "type").isText "tool_call" then none
  else some
    { type := event, content := clip 5000 (runtime.textual content), toolInput := some data }

end MultiAgents
