import MultiAgents.System.Request

/-!
# The environment of the orchestration

What the requests act on: working trees and branches, the event bridge, the
sessions of the OpenCode server and the task table.  A choice fixes all that is
left open at a request: whether it fails, the texts and answers that come from
outside, the events that arrive and the edits agents make meanwhile.  Agents
edit files and never run git commands; only sessions that were prompted edit.

Git and gh are started through a shell.  A command line that the shell does not
take word by word as it is meant can do anything to the repositories.
-/

namespace MultiAgents

open Effects

structure System where
  repositories : Repositories
  bridge : Bridge := {}
  sessions : List String := []
  prompted : List String := []
  tasks : String → Option TaskRow := fun _ => none

/-- What is decided outside the program while one request is served. -/
structure Choice where
  fault : Option String := none
  text : String := ""
  found : Bool := false
  names : List String := []
  response : ApprovalResponse := ⟨.approve, none⟩
  scan : ScanSummary := ⟨0, 0, 0, 0, 0, 0⟩
  arrivals : List (String × OpenCodeEvent) := []
  edits : List Edit := []
  /-- What a command line does that is not literal. -/
  shell : Repositories → Repositories := id

/-- A word that the shell takes as it stands, and git not for an option. -/
def isPlainWord (word : String) : Bool :=
  word != "" && word.toList.head? != some '-' &&
    word.toList.all fun char => char.isAlphanum || char ∈ ['/', '-', '_', '.']

/-- A text that stands for itself in double quotes, once its own ones are escaped: without dollar
signs, backslashes, backquotes and nulls. -/
def isSafeText (text : String) : Bool :=
  text.toUTF8.data.toList.all fun byte => byte ∉ [0x24, 0x5c, 0x60, 0]

/-- The shell takes the words of the command line as they are meant. -/
def GitCommand.literal : GitCommand → Bool
  | .checkout branch | .push branch => isPlainWord branch
  | .checkoutNew branch base => isPlainWord branch && isPlainWord base
  | .commit message => isSafeText message
  | .describeBranch branch description => isPlainWord branch && isSafeText description
  | .fetch | .abbrevRefHead | .revParseHead | .status | .addAll | .resetHard | .cleanFd
  | .diffHead => true

def GhCommand.literal : GhCommand → Bool
  | .prCreate base head title body =>
      isPlainWord base && isPlainWord head && isSafeText title && isSafeText body
  | .prView _ | .prMerge _ _ _ => true

def Request.literal : Request → Bool
  | .git command _ => command.literal
  | .gh command _ => command.literal
  | _ => true

namespace TaskRow

def apply (row : TaskRow) : TaskWrite → TaskRow
  | .updateStatus status => { row with status }
  | .setFailed reason => { row with status := .failed, failureReason := some reason }
  | .updateAfterAnalysis branchName analysis stories =>
      { row with branchName := some branchName, analysis, stories := some stories }
  | .setPullRequest number url => { row with prNumber := some number, prUrl := some url }
  | .savePlanningResult _ _ => row
  | .markPhaseComplete phase =>
      { row with
        completedPhases := some (row.completedPhases.getD [] ++ [.entry phase])
        currentPhase := none }
  | .setCurrentPhase phase => { row with currentPhase := some phase }
  | .setCurrentStep _ _ => row
  | .setLastCompletedStoryIndex index => { row with lastCompletedStoryIndex := some index }
  | .clearResumeState => { row with currentPhase := none, lastCompletedStoryIndex := none }

end TaskRow

namespace System

def runGit (system : System) (choice : Choice) (command : GitCommand) (directory : String) :
    Except String String × System :=
  match system.repositories directory with
  | none => (.error s!"not a git repository: {directory}", system)
  | some repo =>
      match repo.run choice.text command with
      | .error message => (.error message, system)
      | .ok (output, after) =>
          (.ok output,
            { system with
              repositories := Function.update system.repositories directory (some after) })

/-- The server gives every session an identifier of its own. -/
def openSession (system : System) (sessionId : String) : Except String String × System :=
  if sessionId = "" ∨ sessionId ∈ system.sessions then (.error "Failed to create session", system)
  else (.ok sessionId, { system with sessions := sessionId :: system.sessions })

def writeTask (system : System) (taskId : String) (write : TaskWrite) : System :=
  { system with
    tasks := Function.update system.tasks taskId
      ((system.tasks taskId).map fun row => row.apply write) }

/-- The effect of a request that does not fail for a reason outside the model. -/
def perform (system : System) (choice : Choice) : (request : Request) → request.Answer × System
  | .configureModels _ => (.ok (), system)
  | .git command directory =>
      if command.literal then system.runGit choice command directory else (.ok choice.text, system)
  | .gh _ _ => (.ok choice.text, system)
  | .execBuild _ _ => (.ok choice.text, system)
  | .existsSync _ => (choice.found, system)
  | .readFileSync _ => (.ok choice.text, system)
  | .readdirSync _ => (.ok choice.names, system)
  | .createSession _ _ => system.openSession choice.text
  | .registerSession taskId sessionId directory =>
      ((), { system with bridge := system.bridge.registerSession taskId sessionId directory })
  | .unregisterSession sessionId =>
      ((), { system with bridge := system.bridge.unregisterSession sessionId })
  | .sendPrompt sessionId _ => (.ok (), { system with prompted := sessionId :: system.prompted })
  | .waitForIdle sessionId timeout =>
      let (answer, bridge) :=
        system.bridge.waitForSessionIdle sessionId (timeout.getD 1800000) choice.arrivals
      (answer, { system with bridge })
  | .abortSession sessionId =>
      (.ok (), { system with prompted := system.prompted.filter fun other => other != sessionId })
  | .writeSession _ => (.ok (), system)
  | .requestApproval _ _ _ => (.ok choice.response, system)
  | .findTask taskId => (.ok (system.tasks taskId), system)
  | .writeTask taskId write => (.ok (), system.writeTask taskId write)
  | .mergeApproval _ _ _ => (.ok choice.found, system)
  | .callback _ _ => (.ok (), system)
  | .scanAllRepositories _ _ => (.ok choice.scan, system)
  | .toTask _ _ => ((), system)
  | .log _ => ((), system)

end System

namespace Request

def throws? (message : String) : (request : Request) → Option request.Answer
  | .git _ _ | .gh _ _ | .execBuild _ _ | .readFileSync _ | .createSession _ _
  | .readdirSync _ | .requestApproval _ _ _ | .findTask _ | .sendPrompt _ _
  | .abortSession _ | .writeSession _ | .writeTask _ _ | .configureModels _
  | .mergeApproval _ _ _ | .callback _ _ | .scanAllRepositories _ _ => some (.error message)
  | .existsSync _ | .waitForIdle _ _ | .registerSession _ _ _ | .unregisterSession _
  | .toTask _ _ | .log _ => none

/-- A wait consumes the arriving events itself. -/
def awaits : Request → Bool
  | .waitForIdle _ _ => true
  | _ => false

end Request

namespace System

def expand (system : System) (choice : Choice) (request : Request) : System :=
  if request.literal then system
  else { system with repositories := choice.shell system.repositories }

def respond (system : System) (choice : Choice) (request : Request) : request.Answer × System :=
  match choice.fault.bind fun message => request.throws? message with
  | some answer => (answer, system)
  | none => system.perform choice request

/-- Events that arrive while no wait is taking them in. -/
def listen (system : System) (choice : Choice) (request : Request) : System :=
  if request.awaits then system
  else { system with bridge := system.bridge.deliverAll choice.arrivals }

def edit (system : System) (edits : List Edit) : System :=
  { system with
    repositories :=
      (edits.filter fun edit => edit.session ∈ system.prompted).foldl Repositories.edit
        system.repositories }

def serve (system : System) (choice : Choice) (request : Request) : request.Answer × System :=
  let (answer, after) := (system.expand choice request).respond choice request
  (answer, (after.listen choice request).edit choice.edits)

end System

/-- The environment every phase runs in. -/
abbrev environment : Environment calls where
  State := System
  Choice := Choice
  serve := System.serve

end MultiAgents
