import MultiAgents.Effects.Knowledge
import MultiAgents.Properties.Cancellation

/-!
# Requests about the session of a task

The routes keep a session with each execution, to abort it or to prompt it again.
It is the empty text in every new execution and nothing sets it, while sessions
are created by the phases and have names.  So no request of a client ever reaches
a session, and a cancelled execution leaves its session alone.
-/

namespace MultiAgents

open Effects Text

def ServerRequest.session? : ServerRequest → Option String
  | .work (.abortSession sessionId) | .promptSession sessionId => some sessionId
  | _ => none

def MissesSessions (pool : ServerPool) (move : Move Actor) : Prop :=
  ∀ index request call rest sessionId, move = .advance index →
    pool.threads[index]? = some (.client request, .ask call rest) →
    call.session? = some sessionId → sessionId ∉ pool.world.state.system.sessions

structure Unnamed (server : Server) : Prop where
  executions : ∀ taskId execution, server.executions taskId = some execution →
    execution.sessionId = ""
  sessions : "" ∉ server.system.sessions

theorem System.serve_sessions {system : System} (choice : Choice) (call : Request)
    (named : "" ∉ system.sessions) : "" ∉ (system.serve choice call).2.sessions := by
  have kept : (system.serve choice call).2.sessions =
      ((system.expand choice call).respond choice call).2.sessions := by
    unfold System.serve System.listen
    dsimp only
    split <;> rfl
  rw [kept]
  replace named : "" ∉ (system.expand choice call).sessions := by
    unfold System.expand
    split <;> exact named
  generalize system.expand choice call = system at named
  unfold System.respond
  split
  · exact named
  · cases call with
    | git command directory =>
        obtain ⟨_, same⟩ := system.perform_git choice command directory
        rw [same]
        exact named
    | createSession title directory =>
        simp only [System.perform, System.openSession]
        split
        · exact named
        · rename_i fresh
          intro member
          rcases List.mem_cons.mp member with empty | old
          · exact fresh (.inl empty.symm)
          · exact named old
    | _ => exact named

theorem Unnamed.serve {server : Server} (unnamed : Unnamed server) (choice : Choice)
    {call : ServerRequest}
    (sets : ∀ taskId execution, call = .setExecution taskId (some execution) →
      execution.sessionId = "") :
    Unnamed (server.serve choice call).2 := by
  let Empty (_ : String) (found : Option TaskExecution) : Prop :=
    ∀ execution, found = some execution → execution.sessionId = ""
  unfold Server.serve
  split
  · exact unnamed
  · cases call with
    | work request =>
        exact ⟨unnamed.executions, System.serve_sessions choice request unnamed.sessions⟩
    | setExecution taskId execution =>
        refine ⟨(Function.forall_update_iff _ Empty).mpr ⟨?_, fun other _ => ?_⟩, unnamed.sessions⟩
        · rintro found rfl
          exact sets taskId found rfl
        · exact unnamed.executions other
    | pauseExecution taskId paused =>
        refine ⟨(Function.forall_update_iff _ Empty).mpr ⟨?_, fun other _ => ?_⟩, unnamed.sessions⟩
        · intro found isFound
          obtain ⟨execution, isExecution, rfl⟩ := Option.map_eq_some_iff.mp isFound
          exact unnamed.executions taskId execution isExecution
        · exact unnamed.executions other
    | createTask taskId title description projectId repositoryId =>
        simp only [Server.perform, Server.insertRow]
        split <;> exact ⟨unnamed.executions, unnamed.sessions⟩
    | addJob queue data priority =>
        simp only [Server.perform, Server.enqueue]
        split <;> exact ⟨unnamed.executions, unnamed.sessions⟩
    | _ => exact ⟨unnamed.executions, unnamed.sessions⟩

def ServerRequest.Sessionless : ServerRequest → Prop
  | .setExecution _ execution => ∀ found ∈ execution, found.sessionId = ""
  | .work (.abortSession _) | .promptSession _ => False
  | _ => True

theorem ServerRequest.Sessionless.session?_eq_none {call : ServerRequest}
    (sessionless : call.Sessionless) : call.session? = none := by
  unfold session?
  split
  · cases sessionless
  · cases sessionless
  · rfl

def ServerRequest.reads? : (call : ServerRequest) → call.Answer → Option String
  | .getExecution _, answer => answer.map TaskExecution.sessionId
  | _, _ => none

def sessionDiscipline : Actor → Discipline serverCalls String
  | .client _ =>
      { permits known call :=
          call.Sessionless ∨ ∃ sessionId, call.session? = some sessionId ∧ known sessionId
        teaches _ call answer sessionId := call.reads? answer = some sessionId }
  | _ =>
      { permits _ call := ∀ taskId execution, call ≠ .setExecution taskId execution
        teaches _ _ _ _ := False }

theorem sessionDiscipline_sets {actor : Actor} {known : String → Prop} {call : ServerRequest}
    (permitted : (sessionDiscipline actor).permits known call) (taskId : String)
    (execution : TaskExecution) (sets : call = .setExecution taskId (some execution)) :
    execution.sessionId = "" := by
  subst sets
  cases actor with
  | client request =>
      rcases permitted with sessionless | ⟨_, named, _⟩
      · exact sessionless execution rfl
      · cases named
  | _ => exact absurd rfl (permitted taskId (some execution))

/-- The only session that is ever known is the one without a name. -/
theorem sessionDiscipline_sound :
    Pool.Sound (E := serverEnvironment) sessionDiscipline (fun _ _ sessionId => sessionId = "")
      Unnamed where
  keeps _ choice _ _ _ unnamed _ permitted :=
    unnamed.serve choice (sessionDiscipline_sets permitted)
  stays _ _ _ _ _ _ _ _ _ _ held := held
  taught server choice actor known call unnamed _ _ sessionId teaches := by
    cases actor with
    | client request =>
        cases call with
        | getExecution taskId =>
            have answered : (server.serve choice (.getExecution taskId)).1 =
                server.executions taskId := by
              unfold Server.serve
              cases choice.fault <;> rfl
            change (server.serve choice (.getExecution taskId)).1.map _ = _ at teaches
            rw [answered] at teaches
            obtain ⟨execution, isExecution, rfl⟩ := Option.map_eq_some_iff.mp teaches
            exact unnamed.executions taskId execution isExecution
        | _ => cases teaches
    | _ => exact False.elim teaches

section Routes

variable {α β : Type} {request : TaskRequest} {known : String → Prop}

abbrev NamesRead (request : TaskRequest) (known : String → Prop) (program : ServerProgram α) :
    Prop :=
  program.Follows (sessionDiscipline (.client request)) (fun _ _ => True) known

theorem NamesRead.quiet {program : ServerProgram α}
    (uses : Uses ServerRequest.Sessionless program) : NamesRead request known program :=
  .of_uses uses (fun _ _ => .inl) fun _ _ _ => trivial

/-- An execution is read, and its session is known from then on. -/
theorem NamesRead.read {taskId : String} {next : Option TaskExecution → ServerProgram β}
    (absent : ∀ later, NamesRead request later (next none))
    (found : ∀ execution later, later execution.sessionId →
      NamesRead request later (next (some execution))) :
    NamesRead request known (ServerRequest.issue (.getExecution taskId) >>= next) := by
  refine .bind (.call (.inl trivial) fun answer => ?_)
  cases answer with
  | none => exact absent _
  | some execution => exact found execution _ (.inr rfl)

/-- A session that is known is named. -/
theorem NamesRead.tell {call : ServerRequest} {sessionId : String}
    {next : call.Answer → ServerProgram β} (named : call.session? = some sessionId)
    (knows : known sessionId)
    (continues : ∀ answer later, later sessionId → NamesRead request later (next answer)) :
    NamesRead request known (call.issue >>= next) :=
  .bind (.call (.inr ⟨sessionId, named, knows⟩) fun answer =>
    continues answer _ (.inl knows))

theorem NamesRead.after {program : ServerProgram α} {next : α → ServerProgram β}
    (uses : Uses ServerRequest.Sessionless program)
    (continues : ∀ value later, NamesRead request later (next value)) :
    NamesRead request known (program >>= next) :=
  .bind (.of_uses uses (fun _ _ => .inl) fun value later _ => continues value later)

theorem NamesRead.attempt {process : ServerProgram (Except String α)}
    {next : α → ServerProgram β}
    (follows : NamesRead request known (process >>= fun result => .ofExcept result >>= next)) :
    NamesRead request known (process.attempt >>= next) := by
  rw [Process.attempt, Process.bind_assoc]
  exact follows

theorem sessionless_of_opening (call : ServerRequest) (opening : call.OpeningWork fun _ => True) :
    call.Sessionless := by
  cases call with
  | setExecution taskId execution =>
      intro found isFound
      rw [opening.2] at isFound
      cases isFound
      rfl
  | promptSession sessionId => cases opening
  | work call =>
      cases call with
      | abortSession sessionId => cases opening
      | _ => trivial
  | _ => trivial

namespace Routes

theorem updateStatus_sessionless (taskId : String) (status : TaskStatus) :
    Uses ServerRequest.Sessionless (updateStatus taskId status) :=
  updateStatus_uses trivial

theorem interrupt_namesRead (taskId : String) : NamesRead request known (interrupt taskId) := by
  refine .read (fun _ => .quiet (.pure _)) fun execution later knows => ?_
  dsimp only
  split
  · exact .quiet (.pure _)
  · refine .attempt (.tell rfl knows fun answer _ _ => .quiet (.bind (.ofExcept _) fun _ => ?_))
    exact .bind (.call trivial) fun _ => .bind (updateStatus_sessionless _ _) fun _ => .pure _

theorem promptAgain_namesRead (taskId : String) (execution : TaskExecution)
    (knows : known execution.sessionId) :
    NamesRead request known (promptAgain taskId execution) := by
  refine .attempt (.tell rfl knows fun answer _ _ => .quiet (.bind (.ofExcept _) fun _ => ?_))
  exact .bind (.call trivial) fun _ => .bind (updateStatus_sessionless _ _) fun _ => .pure _

theorem closeSession_follows {returned : (String → Prop) → Unit → Prop} (sessionId : String)
    (knows : known sessionId) (continues : ∀ later, returned later ()) :
    (closeSession sessionId).Follows (sessionDiscipline (.client request)) returned known := by
  unfold closeSession
  split
  · exact continues known
  · refine .bind (.call (.inl trivial) fun _ => .tryCatch ?_ fun _ later _ => continues later)
    refine .bind (.bind (.call (.inr ⟨sessionId, rfl, .inl knows⟩) fun answer =>
      .ofExcept fun _ _ => ?_))
    exact .of_uses (.attempt (.call trivial)) (fun _ _ => .inl) fun _ later _ => continues later

theorem cancel_namesRead (taskId : String) : NamesRead request known (cancel taskId) := by
  refine .after (cancelJob_uses sessionless_of_opening trivial fun _ => ⟨trivial, trivial⟩)
    fun cancelled later => ?_
  split
  · exact .quiet (.bind (updateStatus_sessionless _ _) fun _ => .pure _)
  · refine .read (fun _ => .quiet (.pure _)) fun execution later knows => ?_
    refine .bind (closeSession_follows _ knows fun _ => NamesRead.quiet ?_)
    exact .bind (.call nofun) fun _ => .bind (updateStatus_sessionless _ _) fun _ =>
      .bind (.call trivial) fun _ => .pure _

theorem abortExecution_follows {returned : (String → Prop) → Unit → Prop} (taskId : String)
    (continues : ∀ later, returned later ()) :
    (abortExecution taskId).Follows (sessionDiscipline (.client request)) returned known := by
  refine .bind (.call (.inl trivial) fun answer => ?_)
  cases answer with
  | none => exact continues _
  | some execution =>
      refine .bind (.call (.inl trivial) fun _ => .bind (.call (.inr ?_) fun _ => ?_))
      · exact ⟨execution.sessionId, rfl, .inl (.inr rfl)⟩
      · exact .call (.inl nofun) fun _ => continues _

theorem retryFrom_namesRead (config : ServerConfig) (taskId userId name : String)
    (options : Json) : NamesRead request known (retryFrom config taskId userId name options) := by
  refine .after (findTask_uses sessionless_of_opening trivial) fun found later => ?_
  cases found with
  | none => exact .quiet (.pure _)
  | some row =>
      dsimp only
      split
      · exact .quiet (.pure _)
      · split
        · exact .quiet (.pure _)
        · refine .tryCatch (.bind (abortExecution_follows taskId fun _ => NamesRead.quiet ?_))
            fun _ _ _ => NamesRead.quiet (.pure _)
          refine .bind (.attempt (.call trivial)) fun token =>
            .bind (projectOf_uses sessionless_of_opening row) fun project => ?_
          exact .bind (updateStatus_sessionless _ _) fun _ => .bind (.attempt (.call trivial))
            fun _ => .pure _

theorem route_namesRead (config : ServerConfig) (request : TaskRequest) :
    NamesRead request known (route config request) := by
  have planned (other : TaskRequest) : Planned ServerRequest.Sessionless config other :=
    fun _ _ _ => trivial
  cases request with
  | start taskId userId prompt =>
      exact .quiet (start_uses sessionless_of_opening trivial (fun _ _ => trivial) (planned _))
  | resume taskId userId =>
      exact .quiet (resume_uses sessionless_of_opening trivial (fun _ _ => trivial) (planned _))
  | continueWithContext originalTaskId newTaskId userId prompt =>
      exact .quiet (continueWithContext_uses sessionless_of_opening trivial trivial
        (fun _ _ _ _ => trivial) (fun _ _ => trivial) (planned _))
  | retryFrom taskId userId name options => exact retryFrom_namesRead config _ _ _ _
  | interrupt taskId => exact interrupt_namesRead taskId
  | continueTask taskId =>
      refine .read (fun _ => .quiet (.pure _)) fun execution later knows => ?_
      dsimp only
      split
      · exact promptAgain_namesRead taskId execution knows
      · exact .quiet (.pure _)
  | retry taskId =>
      exact .read (fun _ => .quiet (.pure _)) fun execution _ knows =>
        promptAgain_namesRead taskId execution knows
  | cancel taskId => exact cancel_namesRead taskId

end Routes

end Routes

/-- Every program keeps to what its actor may do with sessions. -/
theorem program_follows (config : ServerConfig) (actor : Actor) :
    (actor.program config).Follows (sessionDiscipline actor) (fun _ _ => True) fun _ => False := by
  cases actor with
  | client request =>
      refine .bind (.call (.inl trivial) fun _ => .bind ?_)
      refine (Routes.route_namesRead config request).mono fun later response _ => ?_
      exact .call (.inl trivial) fun _ => trivial
  | worker queue jobId =>
      have quiet (call : ServerRequest) (work : call.isWorkerWork = true) (taskId : String)
          (execution : Option TaskExecution) : call ≠ .setExecution taskId execution := by
        rintro rfl
        cases work
      refine .bind (.call nofun fun answer => ?_)
      cases answer with
      | none => trivial
      | some data =>
          exact .of_uses (TaskWorker.process_uses quiet fun _ => nofun) (fun _ _ => id)
            fun _ _ _ => trivial
  | _ => exact .call nofun fun _ => trivial

/-- In every interleaving from a server without executions, no client's request tells OpenCode to
abort a session that there is, or prompts in one. -/
theorem clients_miss_sessions (config : ServerConfig) (server : Server) (choices : Nat → Choice)
    (fresh : ∀ taskId, server.executions taskId = none) (named : "" ∉ server.system.sessions)
    (moves : List (Move Actor)) :
    Pool.Guarded (Actor.program config) MissesSessions moves ⟨server.start choices, []⟩ := by
  have initial : Unnamed server := by
    refine ⟨fun taskId execution found => ?_, named⟩
    rw [fresh taskId] at found
    cases found
  have step (pool : ServerPool) (move : Move Actor)
      (kept : Unnamed pool.world.state ∧
        pool.Informed sessionDiscipline fun _ _ sessionId => sessionId = "") :=
    Pool.Informed.move sessionDiscipline_sound (program_follows config) kept.2 kept.1 move
  refine Pool.Guarded.of_invariant step ?_ moves ⟨initial, fun _ none => nomatch none⟩
  rintro pool move ⟨unnamed, informed⟩ index request call rest sessionId rfl found tells
  obtain ⟨known, right, permitted, _⟩ := informed.permitted found
  rcases permitted with sessionless | ⟨other, names, knows⟩
  · rw [sessionless.session?_eq_none] at tells
    cases tells
  · rw [tells] at names
    cases names
    rw [right sessionId knows]
    exact unnamed.sessions

namespace InterruptSample

open ServerSample

def interruptsPlanning : List (Move Actor) :=
  .spawn (.client start) :: List.replicate 15 (.advance 0) ++
    .spawn (.worker .tasks "m1_a") :: List.replicate 11 (.advance 1) ++
    .spawn (.client (.interrupt "m1_a")) :: List.replicate 6 (.advance 2)

def named : Nat → Choice := fun _ => { text := "s1" }

end InterruptSample

open ServerSample InterruptSample in
theorem interrupt_misses_session :
    Pool.Guarded (Actor.program config) MissesSessions interruptsPlanning
      ⟨server.start named, []⟩ :=
  clients_miss_sessions config server named (fun _ => rfl) (by decide) interruptsPlanning

open ServerSample InterruptSample in
/-- The client is told that the task is interrupted; what was aborted is the session without a
name, and the one of the task is still registered. -/
theorem interrupted_session_goes_on :
    let world := (Pool.run (Actor.program config) ⟨server.start named, []⟩
      interruptsPlanning).world
    world.history.head?.any (fun step =>
        step.call matches .respond (.interrupt "m1_a") .interrupted) = true ∧
      world.history.filterMap (fun step => step.call.session?) = [""] ∧
      world.state.system.bridge.activeSessions.map (fun entry => (entry.1, entry.2.taskId)) =
        [("s1", "m1_a")] := by
  decide +kernel

end MultiAgents
