import MultiAgents.Properties.EventFrame
import MultiAgents.Services.TaskContextBuilder

/-!
# Files of editing tools in the context of a task

The bridge stores the names of tools in lower case, and the reader of the log
compares them with capitalised names.  So the input of a tool is never looked at,
and the files found are those that the texts of the log mention.
-/

namespace MultiAgents

open Text

namespace TaskContextBuilder

variable {runtime : Runtime}

theorem mem_extractFilesFromActivityLog (activityLog : List LogEntry) (file : Json) :
    file ∈ extractFilesFromActivityLog activityLog ↔
      ∃ entry ∈ activityLog, file ∈ entryFiles entry := by
  unfold extractFilesFromActivityLog
  rw [List.mem_mergeSort, List.mem_eraseDups, List.mem_flatMap]

theorem mem_entryFiles_of_toolFile_eq_none {entry : LogEntry} (none : toolFile entry = none)
    (path : String) :
    Json.str path ∈ entryFiles entry ↔ path ∈ mentionedPaths entry.content := by
  simp [entryFiles, none]

def Lowers (runtime : Runtime) : Prop :=
  ∀ text, ∀ char ∈ (runtime.toLowerCase text).toList, char.isUpper = false

inductive Written (runtime : Runtime) (entry : LogEntry) : Prop where
  | logged (event : FrontendEvent) (written : event.logEntry runtime = .ok (some entry))
  | sent (event : String) (data : Json) (written : persistedEntry runtime event data = some entry)

theorem lowered_isText (lowers : Lowers runtime) (text : String) {name : String}
    (capital : name.toList.any Char.isUpper = true) :
    (Value.text? (presentText (runtime.toLowerCase text))).isText name = false := by
  have differs : runtime.toLowerCase text ≠ name := by
    rintro rfl
    obtain ⟨char, isChar, upper⟩ := List.any_eq_true.mp capital
    rw [lowers text char isChar] at upper
    cases upper
  unfold presentText Value.text? Option.filter
  dsimp only
  split
  · exact beq_false_of_ne differs
  · rfl

/-- The bridge names tools in lower case, and messages to the frontend are stored without one. -/
theorem Written.toolFile_eq_none (lowers : Lowers runtime) {entry : LogEntry}
    (written : Written runtime entry) : toolFile entry = none := by
  have unnamed : ∀ name : String, name.toList.any Char.isUpper = true →
      entry.tool.isText name = false := by
    intro name capital
    cases written with
    | logged event written =>
        unfold FrontendEvent.logEntry at written
        split at written
        · cases written
        split at written
        · cases written
        dsimp only at written
        cases named : textOf ((event.data.property "tool").orElse (.str "")) with
        | error error =>
            rw [named] at written
            cases written
        | ok text =>
            rw [named] at written
            cases written
            exact lowered_isText lowers text capital
    | sent event data written =>
        unfold persistedEntry at written
        dsimp only at written
        split at written
        · cases written
        split at written
        · cases written
        cases written
        rfl
  unfold toolFile
  rw [unnamed "Edit" rfl, unnamed "Write" rfl]
  rfl

def Edits (runtime : Runtime) (taskId : String) (event : BridgeEvent) (path : String) : Prop :=
  ∃ sent tool, transformEvent runtime taskId event = .ok (some sent) ∧
    sent.data.property "tool" = .text tool ∧ runtime.toLowerCase tool ∈ ["edit", "write"] ∧
    extractFilePath (pathProperty sent.data) (sent.data.property "input")
      (sent.data.property "content") = .ok path ∧ path ≠ ""

def PersistedLog (runtime : Runtime) (activityLog : List LogEntry) : Prop :=
  ∀ entry ∈ activityLog, Written runtime entry

/-- The log of one event: its own entry, and those of messages to the frontend. -/
theorem PersistedLog.of_event (sent : FrontendEvent) {entry : LogEntry}
    (logged : sent.logEntry runtime = .ok (some entry)) (messages : List (String × Json)) :
    PersistedLog runtime
      (entry :: messages.filterMap fun message => persistedEntry runtime message.1 message.2) := by
  intro other member
  rcases List.mem_cons.mp member with rfl | isMessage
  · exact .logged sent logged
  · obtain ⟨message, _, written⟩ := List.mem_filterMap.mp isMessage
    exact .sent message.1 message.2 written

/-- The files of all editing tools are found exactly if the texts of the log mention them. -/
theorem edited_files_found_iff (runtime : Runtime) (lowers : Lowers runtime) (taskId : String)
    (events : List BridgeEvent) (activityLog : List LogEntry)
    (log : PersistedLog runtime activityLog) :
    (∀ event ∈ events, ∀ path, Edits runtime taskId event path →
      Json.str path ∈ extractFilesFromActivityLog activityLog) ↔
    ∀ event ∈ events, ∀ path, Edits runtime taskId event path →
      ∃ entry ∈ activityLog, path ∈ mentionedPaths entry.content := by
  refine forall₂_congr fun event _ => forall₂_congr fun path _ => ?_
  rw [mem_extractFilesFromActivityLog]
  refine exists_congr fun entry => and_congr_right fun member => ?_
  exact mem_entryFiles_of_toolFile_eq_none ((log entry member).toolFile_eq_none lowers) path

section Samples

open EventBridge

theorem sampleRuntime_lowers : Lowers sampleRuntime := by
  intro text char member
  change char ∈ (text.map Char.toLower).toList at member
  rw [String.toList_map] at member
  obtain ⟨original, _, rfl⟩ := List.mem_map.mp member
  unfold Char.toLower Char.isUpper
  grind

def editInput : Json := .obj [("file_path", .str "/src/a.ts")]

def editPart : BridgeEvent where
  type := "message.part.updated"
  properties := some (.obj [("part", .obj [("type", .str "tool"), ("tool", .str "edit"),
    ("state", .obj [("status", .str "running"), ("input", editInput)])])])

def editStart : BridgeEvent where
  type := "tool.execute.before"
  properties := some (.obj [("tool", .str "edit"), ("args", editInput)])

def partSent : FrontendEvent where
  type := "tool_call"
  data := .obj [("taskId", .str "t1"), ("content", .str "🔧 edit (running): /src/a.ts"),
    ("tool", .str "edit"), ("state", .str "running"), ("input", editInput),
    ("file_path", .str "/src/a.ts"), ("streaming", .bool true)]

def startSent : FrontendEvent where
  type := "tool_call"
  data := .obj [("taskId", .str "t1"), ("tool", .str "edit"), ("status", .str "running"),
    ("input", editInput)]

def partEntry : LogEntry where
  type := "tool_call"
  content := "🔧 edit (running): /src/a.ts"
  tool := .text "edit"
  toolState := .text "running"
  toolInput := editInput

def startEntry : LogEntry where
  type := "tool_call"
  content := ""
  tool := .text "edit"
  toolState := .text "running"
  toolInput := editInput

theorem edited_part_found :
    Edits sampleRuntime "t1" editPart "/src/a.ts" ∧
      Json.str "/src/a.ts" ∈ extractFilesFromActivityLog [partEntry] := by
  have transformed : transformEvent sampleRuntime "t1" editPart = .ok (some partSent) := by
    decide +kernel
  have logged : partSent.logEntry sampleRuntime = .ok (some partEntry) := by decide +kernel
  have inPart : extractFilePath (pathProperty partSent.data) (partSent.data.property "input")
      (partSent.data.property "content") = .ok "/src/a.ts" := by decide +kernel
  have edits : Edits sampleRuntime "t1" editPart "/src/a.ts" :=
    ⟨partSent, "edit", transformed, by decide +kernel, by decide +kernel, inPart, by decide⟩
  refine ⟨edits, (edited_files_found_iff sampleRuntime sampleRuntime_lowers "t1" [editPart]
    [partEntry] (.of_event partSent logged [])).mpr ?_ editPart List.mem_cons_self _ edits⟩
  rintro event member path ⟨sent, tool, isSent, _, _, found, _⟩
  cases List.mem_singleton.mp member
  rw [transformed] at isSent
  cases isSent
  rw [inPart] at found
  cases found
  exact ⟨partEntry, List.mem_cons_self, by decide +kernel⟩

theorem edited_start_not_found :
    let messages := [("tool_call", startSent.data)]
    let activityLog := startEntry :: messages.filterMap fun message =>
      persistedEntry sampleRuntime message.1 message.2
    PersistedLog sampleRuntime activityLog ∧
      Edits sampleRuntime "t1" editStart "/src/a.ts" ∧
      extractFilesFromActivityLog activityLog = [] := by
  have transformed : transformEvent sampleRuntime "t1" editStart = .ok (some startSent) := by
    decide +kernel
  exact ⟨.of_event startSent (by decide +kernel) _,
    ⟨startSent, "edit", transformed, by decide +kernel, by decide +kernel, by decide +kernel,
      by decide⟩, by decide +kernel⟩

end Samples

end TaskContextBuilder

end MultiAgents
