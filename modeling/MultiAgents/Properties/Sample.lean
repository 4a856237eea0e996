import MultiAgents.Orchestrator
import MultiAgents.System.Steps

/-!
# A small project

Two repositories and a story, and the texts an agent answers with: the data on
which single runs are followed.
-/

namespace MultiAgents.Sample

def api : RepositoryInfo := ⟨"api", "backend", "/work/api", none⟩

def web : RepositoryInfo := ⟨"web", "frontend", "/work/web", none⟩

def story : Story := { id := "story-1", title := "Login page", description := "Add it" }

/-- A clean repository on a branch that the remote has as well. -/
def onBranch (branch : String) : Repo := ⟨branch, ["main", branch], ["main", branch], []⟩

/-- The repositories that stand at the given directories. -/
def at? (entries : List (String × Repo)) : Repositories := fun directory =>
  entries.lookup directory

def verdictText (verdict : String) : String :=
  "```json\n\x7b\"verdict\": \"" ++ verdict ++ "\"\x7d\n```"

def developer (repositories : List RepositoryInfo) : DeveloperPhaseContext where
  taskId := "42"
  projectPath := "/work"
  repositories := repositories
  stories := [story]
  branchName := "task/42"
  autoApprove := true

/-- A session in which the developer makes an edit and the judge answers with a text; the
first request of the session is at the given position. -/
def session (position : Nat) (edit : Edit) (judge : String) : List (Nat × Choice) :=
  [(position, { text := edit.session }),
    (position + 6, .reply "/work" edit.session "Done." [edit]),
    (position + 10, .reply "/work" edit.session judge []),
    (position + 14, .reply "/work" edit.session "No findings." [])]

def backend : System where
  repositories := at? [("/work/api", onBranch "task/42")]

def newFile : Edit := ⟨"ses_1", "/work/api", .write "login.go" "login.go" false⟩

/-- An approved story whose build passes: no build system is found. -/
def acceptedStory : Nat → Choice := script (session 3 newFile (verdictText "approved"))

def failedBuild (position : Nat) : List (Nat × Choice) :=
  [(position, { found := true }), (position + 1, { fault := some "undefined: Login" })]

/-- An approved story that fails its build check three times; what is at position 60 decides
how the rollback goes. -/
def unbuildableStory (reset : Choice) : Nat → Choice :=
  script (session 3 newFile (verdictText "approved") ++ failedBuild 30 ++ failedBuild 42 ++
    failedBuild 54 ++ [(60, reset)])

def options : OrchestrationOptions where
  projectPath := "/work"
  repositories := [api]

/-- The backend on `main`, and a new task. -/
def project : System where
  repositories := at? [("/work/api", onBranch "main")]
  tasks := Function.update (fun _ => none) "42" (some { title := "Login" })

def complexityText : String := "```json\n\x7b\"complexity\": \"simple\"\x7d\n```"

def storiesText : String :=
  "```json\n\x7b\"stories\": [\x7b\"id\": \"story-1\"\x7d]\x7d\n```"

/-- The task is simple, so it is not planned any further, and its analysis has one story. -/
def analyzedTask (others : List (Nat × Choice)) : Nat → Choice :=
  script ([(6, { text := "ses_p" }),
    (12, .reply "/work" "ses_p" complexityText []),
    (19, { text := "ses_a" }),
    (26, .reply "/work" "ses_a" "No questions." []),
    (30, .reply "/work" "ses_a" storiesText []),
    (35, .reply "/work" "ses_a" (verdictText "approved") []),
    (40, .reply "/work" "ses_a" "No findings." [])] ++ others)

def implemented : System where
  repositories := at? [("/work/api", onBranch "task/42")]
  tasks := Function.update (fun _ => none) "42" (some {
    title := "Login"
    branchName := some "task/42"
    analysis := some (.obj [])
    stories := some [story]
    completedPhases := some [.entry .developer]
    lastCompletedStoryIndex := some 0 })

/-- A retry from a phase, with everything approved automatically. -/
def retryFrom (phase : Phase) : OrchestrationOptions :=
  { options with
    phaseApprovalMode := .automatic
    skipTestGeneration := true
    startFromPhase := some phase
    preserveAnalysis := true }

/-- The pull request is opened, and other choices are made at later positions. -/
def openedWith (others : List (Nat × Choice)) : Nat → Choice :=
  script ((15, { text := "https://github.com/o/api/pull/7" }) :: others)

def opened : Nat → Choice := openedWith []

end MultiAgents.Sample
