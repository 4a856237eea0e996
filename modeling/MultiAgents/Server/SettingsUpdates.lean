import MultiAgents.Containers.OrderedMap
import MultiAgents.Effects.Process
import MultiAgents.Text.Json

/-!
# Requests that change the settings of a project

Every such request reads the project, waits, and writes all of its settings back.
The steps of two requests interleave.  That the project exists, belongs to the
user and is sent a valid configuration is what makes a request accepted; the new
configurations of models and specialists are computed from what was read.
-/

namespace MultiAgents.SettingsUpdates

open Containers Effects Text

abbrev Settings := OrderedMap String Json

/-- `{ ...first, ...second }`. -/
def spread (first second : Settings) : Settings :=
  second.entries.foldl (fun merged entry => merged.set entry.1 entry.2) first

inductive Query where
  | select
  | update (settings : Settings)

abbrev Query.Answer : Query → Type
  | .select => Settings
  | .update _ => Unit

abbrev queries : Signature := ⟨Query, Query.Answer⟩

abbrev Program := Process queries String

/-- The settings of the project; those of a project without any are empty. -/
def findById : Program Settings := Process.call (S := queries) .select

def update (settings : Settings) : Program Unit := do
  let _ ← findById
  Process.call (S := queries) (.update settings)
  let _ ← findById

def updateSettings (settings : Settings) : Program Unit := do
  let project ← findById
  update (spread project settings)

/-- `PATCH /:projectId/settings`. -/
def patchSettings (body : Settings) : Program Unit := do
  let _ ← findById
  updateSettings body

/-- `PUT /:id/llm-config`, with the configuration that is built from the stored one. -/
def putLlmConfig (llmConfig : Option Json → Json) : Program Unit := do
  let project ← findById
  update (project.set "llm" (llmConfig (project.get? "llm")))

/-- `DELETE /:id/llm-config`. -/
def deleteLlmConfig : Program Unit := do
  let project ← findById
  update (project.erase "llm")

/-- `POST /:id/detect-stack`, with what is detected while the request waits. -/
def detectStack (specialists : Option Json → Json) : Program Unit := do
  let project ← findById
  updateSettings (project.set "specialists" (specialists (project.get? "specialists")))

/-- `POST /:taskId/bypass` with `enableForAllPhases`. -/
def bypassForAllPhases : Program Unit :=
  updateSettings (OrderedMap.empty.set "approvalMode" (.str "automatic"))

inductive SettingsRequest where
  | patchSettings (body : Settings)
  | putLlmConfig (llmConfig : Option Json → Json)
  | deleteLlmConfig
  | detectStack (specialists : Option Json → Json)
  | bypassForAllPhases

namespace SettingsRequest

def program : SettingsRequest → Program Unit
  | .patchSettings body => SettingsUpdates.patchSettings body
  | .putLlmConfig llmConfig => SettingsUpdates.putLlmConfig llmConfig
  | .deleteLlmConfig => SettingsUpdates.deleteLlmConfig
  | .detectStack specialists => SettingsUpdates.detectStack specialists
  | .bypassForAllPhases => SettingsUpdates.bypassForAllPhases

def keys : SettingsRequest → List String
  | .patchSettings body => body.entries.map Prod.fst
  | .putLlmConfig _ | .deleteLlmConfig => ["llm"]
  | .detectStack _ => ["specialists"]
  | .bypassForAllPhases => ["approvalMode"]

/-- The value a request is to give one of its keys in the settings it finds. -/
def requested (found : Settings) (key : String) : SettingsRequest → Option Json
  | .patchSettings body => body.get? key
  | .putLlmConfig llmConfig => some (llmConfig (found.get? "llm"))
  | .deleteLlmConfig => none
  | .detectStack specialists => some (specialists (found.get? "specialists"))
  | .bypassForAllPhases => some (.str "automatic")

end SettingsRequest

/-- What is left of a request, what it has read, newest first, and what it has written. -/
structure Thread where
  program : Program Unit
  reads : List Settings := []
  wrote : Option Settings := none

structure Session where
  stored : Settings
  threads : Bool → Thread

namespace Session

def start (stored : Settings) (requests : Bool → SettingsRequest) : Session where
  stored := stored
  threads which := { program := (requests which).program }

/-- The next query of one of the requests. -/
def step (session : Session) (which : Bool) : Session :=
  let thread := session.threads which
  match thread.program with
  | .done _ | .fail _ => session
  | .ask .select next =>
      { session with
        threads := Function.update session.threads which
          { thread with program := next session.stored, reads := session.stored :: thread.reads } }
  | .ask (.update settings) next =>
      { stored := settings
        threads := Function.update session.threads which
          { thread with program := next (), wrote := some settings } }

def finished (session : Session) (which : Bool) : Bool :=
  match (session.threads which).program with
  | .done _ => true
  | _ => false

end Session

end MultiAgents.SettingsUpdates
