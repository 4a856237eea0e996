import MultiAgents.System.Frame

/-!
# Steps of a run

Vocabulary for the recorded steps: what a step asked for, how it was answered
and what it did to the repositories.
-/

namespace MultiAgents

open Effects

abbrev SystemStep := Step environment

abbrev SystemWorld := World environment

/-- The choices of a run, given by position; all others are the plain ones. -/
def script (entries : List (Nat × Choice)) (position : Nat) : Choice :=
  (entries.lookup position).getD {}

def Choice.reply (directory sessionId text : String) (edits : List Edit) : Choice :=
  let ref : SessionRef := { sessionID := some sessionId }
  let part : Part := { type := "text", text := some text, ref }
  let written : OpenCodeEvent := { type := "message.part.updated", part := some part }
  { arrivals := [(directory, written), (directory, { type := "session.idle", ref })], edits }

def System.start (system : System) (choices : Nat → Choice) : SystemWorld :=
  World.start system choices

def gitFailed : SystemStep → Bool
  | ⟨_, _, .git _ _, .error _⟩ => true
  | _ => false

theorem gitFailed_step {world : SystemWorld} {command : GitCommand} {cwd message : String}
    (answered : world.answer (.git command cwd) = .error message) :
    gitFailed (world.step (.git command cwd)) = true := by
  simp only [World.step, answered, gitFailed]

/-- The shell takes the command line as it is meant. -/
def Literal (step : SystemStep) (_ : List SystemStep) : Prop := step.call.literal = true

instance (step : SystemStep) (past : List SystemStep) : Decidable (Literal step past) :=
  inferInstanceAs (Decidable (_ = _))

/-- The edits made while the request was served: those of sessions with a prompt. -/
def stepEdits (step : SystemStep) : List Edit :=
  step.choice.edits.filter fun edit =>
    edit.session ∈ (step.before.serve step.choice step.call).2.prompted

namespace Request

def isPrompt : Request → Bool
  | .sendPrompt _ _ => true
  | _ => false

def isCommit : Request → Bool
  | .git (.commit _) _ => true
  | _ => false

def commitsIn? : Request → Option String
  | .git (.commit _) directory => some directory
  | _ => none

theorem commitsIn?_of_isCommit {request : Request} (quiet : request.isCommit = false) :
    request.commitsIn? = none := by
  unfold commitsIn?
  split
  · cases quiet
  · rfl

theorem mem_commitsIn?_git {command : GitCommand} {cwd directory : String}
    (commits : directory ∈ (Request.git command cwd).commitsIn?) : cwd = directory := by
  cases command <;> simp_all [commitsIn?]

def startsStory : Request → Bool
  | .toTask _ (.storyStart _ _ _) => true
  | _ => false

def savesAnalysis : Request → Bool
  | .writeTask _ (.updateAfterAnalysis _ _ _) => true
  | _ => false

def git? : Request → Option (GitCommand × String)
  | .git command directory => some (command, directory)
  | _ => none

/-- The directory in which a request records changes on the current branch, here or at the
remote. -/
def recordsIn? : Request → Option String
  | .git (.commit _) directory | .git (.push _) directory => some directory
  | _ => none

def checkout? : Request → Option (String × String)
  | .git (.checkout branch) directory => some (branch, directory)
  | _ => none

end Request

theorem System.respond_git (system : System) (choice : Choice) {command : GitCommand}
    {cwd : String} (literal : (Request.git command cwd).literal = true) :
    (∃ message, system.respond choice (.git command cwd) = (.error message, system)) ∨
    (∃ repo output after, system.repositories cwd = some repo ∧
      repo.run choice.text command = .ok (output, after) ∧
      system.respond choice (.git command cwd) = (.ok output,
        { system with
          repositories := Function.update system.repositories cwd (some after) })) := by
  unfold System.respond
  cases choice.fault with
  | some message => exact .inl ⟨message, rfl⟩
  | none =>
      have taken : command.literal = true := literal
      simp only [Option.bind_none, System.perform, taken, if_true, System.runGit]
      cases found : system.repositories cwd with
      | none => exact .inl ⟨_, rfl⟩
      | some repo =>
          simp only
          cases ran : repo.run choice.text command with
          | error message => exact .inl ⟨message, rfl⟩
          | ok result => exact .inr ⟨repo, result.1, result.2, rfl, ran, rfl⟩

namespace SystemWorld

variable (world : SystemWorld)

theorem next_repositories {request : Request} (literal : request.literal = true) :
    (world.next request).state.repositories =
      (stepEdits (world.step request)).foldl Repositories.edit
        (world.state.respond world.choice request).2.repositories := by
  simp only [World.next, World.step, stepEdits, System.serve, System.edit,
    System.expand_of_literal _ _ literal, System.listen_repositories, System.listen_prompted]

theorem answer_eq {request : Request} (literal : request.literal = true) :
    world.answer request = (world.state.respond world.choice request).1 := by
  simp only [World.answer, System.serve, System.expand_of_literal _ _ literal]

theorem next_head? {request : Request} (literal : request.literal = true)
    (stays : request.switches = false) (directory : String) :
    (world.next request).state.repositories.head? directory =
      world.state.repositories.head? directory :=
  System.serve_head? world.state world.choice request literal stays directory

theorem next_activeSessions {request : Request} (quiet : request.registers = false) :
    (world.next request).state.bridge.activeSessions = world.state.bridge.activeSessions :=
  System.serve_activeSessions world.state world.choice request quiet

theorem next_git_head? {command : GitCommand} {cwd : String}
    (literal : (Request.git command cwd).literal = true) (directory : String) :
    (∃ message, world.answer (.git command cwd) = .error message) ∧
      (world.next (.git command cwd)).state.repositories.head? directory =
        world.state.repositories.head? directory ∨
    (∃ repo output after, world.state.repositories cwd = some repo ∧
      repo.run world.choice.text command = .ok (output, after) ∧
      world.answer (.git command cwd) = .ok output ∧
      (world.next (.git command cwd)).state.repositories.head? directory =
        if directory = cwd then some after.head
        else world.state.repositories.head? directory) := by
  rw [world.next_repositories literal, Repositories.foldl_edit_head?, world.answer_eq literal]
  rcases world.state.respond_git world.choice literal with
    ⟨message, answered⟩ | ⟨repo, output, after, found, ran, answered⟩
  · rw [answered]
    exact .inl ⟨⟨message, rfl⟩, rfl⟩
  · rw [answered]
    refine .inr ⟨repo, output, after, found, ran, rfl, ?_⟩
    by_cases same : directory = cwd
    · simp [same, Repositories.head?]
    · simp [same, Repositories.head?]

end SystemWorld

end MultiAgents
