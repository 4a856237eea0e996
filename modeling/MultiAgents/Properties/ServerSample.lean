import MultiAgents.Server.Rules

/-!
# A server with a task

The task has a project and has not been started; `start` is the request to start it.
-/

namespace MultiAgents.ServerSample

open Text

def config : ServerConfig := ⟨"/work", "/app"⟩

def start : TaskRequest := .start "m1_a" "ada" (some (.str "Add a login form"))

theorem generated : IsGeneratedId "m1_a" := ⟨['m', '1'], ['a'], by decide, by decide⟩

def server : Server where
  system :=
    { repositories := fun _ => none
      tasks := fun taskId =>
        if taskId = "m1_a" then some { title := "Add login", projectId := some "p1" } else none }
  projects := fun projectId => if projectId = "p1" then some {} else none

end MultiAgents.ServerSample
