import Mathlib.Data.List.Infix

/-!
# Processes that call their environment

A process returns a value, raises an error, or issues a request and goes on
with the answer.  An environment serves requests from its own state; whatever
it is free to decide is handed to it as a choice, one for each request.  A
world pairs a state with the whole sequence of choices still to come and with
the record of the steps already taken, newest first, so that one execution
function covers every behaviour of the environment.
-/

namespace Effects

structure Signature where
  Request : Type
  Answer : Request → Type

/-- A finite interaction tree with errors as leaves. -/
inductive Process (S : Signature) (ε α : Type) where
  | done (value : α)
  | fail (error : ε)
  | ask (call : S.Request) (next : S.Answer call → Process S ε α)

namespace Process

variable {S : Signature} {ε α β γ : Type}

def andThen : Process S ε α → (α → Process S ε β) → Process S ε β
  | .done value, next => next value
  | .fail error, _ => .fail error
  | .ask call rest, next => .ask call fun answer => (rest answer).andThen next

/-- Run `handler` on the error of a process that raises one. -/
def rescue : Process S ε α → (ε → Process S ε α) → Process S ε α
  | .done value, _ => .done value
  | .fail error, handler => handler error
  | .ask call rest, handler => .ask call fun answer => (rest answer).rescue handler

instance : Monad (Process S ε) where
  pure := done
  bind := andThen

instance : MonadExcept ε (Process S ε) where
  throw := fail
  tryCatch := rescue

def call (request : S.Request) : Process S ε (S.Answer request) :=
  .ask request .done

/-- Turn a computed result into a process that returns or raises it. -/
def ofExcept : Except ε α → Process S ε α
  | .ok value => pure value
  | .error error => throw error

/-- Raise the error that a process has returned as a result. -/
def attempt (process : Process S ε (Except ε α)) : Process S ε α :=
  process >>= ofExcept

@[simp]
theorem pure_bind (value : α) (next : α → Process S ε β) :
    (pure value : Process S ε α) >>= next = next value := rfl

theorem bind_pure (process : Process S ε α) : process >>= pure = process := by
  induction process with
  | done value => rfl
  | fail error => rfl
  | ask call rest ih =>
      exact congrArg (Process.ask call) (funext ih)

theorem bind_assoc (process : Process S ε α) (first : α → Process S ε β)
    (second : β → Process S ε γ) :
    process >>= first >>= second = process >>= fun value => first value >>= second := by
  induction process with
  | done value => rfl
  | fail error => rfl
  | ask call rest ih =>
      exact congrArg (Process.ask call) (funext ih)

instance : LawfulMonad (Process S ε) :=
  LawfulMonad.mk' (Process S ε) bind_pure pure_bind bind_assoc

end Process

structure Environment (S : Signature) where
  State : Type
  Choice : Type
  serve : State → Choice → (call : S.Request) → S.Answer call × State

variable {S : Signature} {E : Environment S} {ε α β γ : Type}

/-- One served request, with the state it found and the choice it was served under. -/
structure Step (E : Environment S) where
  before : E.State
  choice : E.Choice
  call : S.Request
  answer : S.Answer call

/-- A state, all choices to come, and the steps taken so far with the newest first. -/
structure World (E : Environment S) where
  state : E.State
  choices : Nat → E.Choice
  history : List (Step E)

namespace World

/-- The world in which nothing has happened yet. -/
def start (state : E.State) (choices : Nat → E.Choice) : World E := ⟨state, choices, []⟩

def choice (world : World E) : E.Choice := world.choices world.history.length

def answer (world : World E) (call : S.Request) : S.Answer call :=
  (E.serve world.state world.choice call).1

/-- The step that serving a request now would record. -/
def step (world : World E) (call : S.Request) : Step E :=
  ⟨world.state, world.choice, call, world.answer call⟩

def next (world : World E) (call : S.Request) : World E where
  state := (E.serve world.state world.choice call).2
  choices := world.choices
  history := world.step call :: world.history

@[simp]
theorem step_call (world : World E) (call : S.Request) : (world.step call).call = call := rfl

/-- A step with the answer that was given. -/
theorem step_of_answer {world : World E} {call : S.Request} {answer : S.Answer call}
    (answered : world.answer call = answer) :
    world.step call = ⟨world.state, world.choice, call, answer⟩ := by
  subst answered
  rfl

@[simp]
theorem next_history (world : World E) (call : S.Request) :
    (world.next call).history = world.step call :: world.history := rfl

theorem next_state (world : World E) (call : S.Request) :
    (world.next call).state = (E.serve world.state world.choice call).2 := rfl

end World

namespace Process

/-- Execute a process to its end. -/
def exec : Process S ε α → World E → Except ε α × World E
  | .done value, world => (.ok value, world)
  | .fail error, world => (.error error, world)
  | .ask call rest, world => (rest (world.answer call)).exec (world.next call)

@[simp]
theorem exec_pure (value : α) (world : World E) :
    (pure value : Process S ε α).exec world = (.ok value, world) := rfl

@[simp]
theorem exec_call (request : S.Request) (world : World E) :
    (call request : Process S ε _).exec world =
      (.ok (world.answer request), world.next request) := rfl

theorem exec_bind (process : Process S ε α) (rest : α → Process S ε β) (world : World E) :
    (process >>= rest).exec world =
      match process.exec world with
      | (.ok value, reached) => (rest value).exec reached
      | (.error error, reached) => (.error error, reached) := by
  induction process generalizing world with
  | done value => rfl
  | fail error => rfl
  | ask call continuation ih =>
      exact ih (world.answer call) (world.next call)

theorem exec_tryCatch (process : Process S ε α) (handler : ε → Process S ε α)
    (world : World E) :
    (tryCatch process handler).exec world =
      match process.exec world with
      | (.ok value, reached) => (.ok value, reached)
      | (.error error, reached) => (handler error).exec reached := by
  induction process generalizing world with
  | done value => rfl
  | fail error => rfl
  | ask call continuation ih =>
      exact ih (world.answer call) (world.next call)

theorem exec_ofExcept (result : Except ε α) (world : World E) :
    (ofExcept result : Process S ε α).exec world = (result, world) := by
  cases result <;> rfl

/-- A sequence that returns has returned from both of its parts. -/
theorem returned_of_bind {process : Process S ε α} {rest : α → Process S ε β} {value : β}
    {world later : World E} (executed : (process >>= rest).exec world = (.ok value, later)) :
    ∃ first between, process.exec world = (.ok first, between) ∧
      (rest first).exec between = (.ok value, later) := by
  rw [exec_bind] at executed
  revert executed
  rcases process.exec world with ⟨_ | first, between⟩
  · exact nofun
  · exact fun executed => ⟨first, between, rfl, executed⟩

theorem returned_of_attempt {process : Process S ε (Except ε α)} {value : α}
    {world later : World E} (executed : process.attempt.exec world = (.ok value, later)) :
    process.exec world = (.ok (.ok value), later) := by
  obtain ⟨result, between, ran, finished⟩ := returned_of_bind executed
  rw [exec_ofExcept] at finished
  cases finished
  exact ran

theorem returned_of_isOk {result : Except ε α} (isOk : result.isOk = true) :
    ∃ value, result = .ok value := by
  cases result with
  | ok value => exact ⟨value, rfl⟩
  | error error => cases isOk

theorem returned_of_any {result : Except ε α} {property : α → Bool}
    (holds : result.toOption.any property = true) :
    ∃ value, result = .ok value ∧ property value = true := by
  cases result with
  | error err => cases holds
  | ok value => exact ⟨value, rfl, holds⟩

/-- Steps are only ever added in front of the record. -/
theorem history_suffix (process : Process S ε α) (world : World E) :
    world.history <:+ (process.exec world).2.history := by
  induction process generalizing world with
  | done value => exact List.suffix_refl _
  | fail error => exact List.suffix_refl _
  | ask call rest ih =>
      exact (List.suffix_cons _ _).trans
        (ih (world.answer call) (world.next call))

/-- How a process ends for each of the items, one after the other, whether or not it fails. -/
def attempts (body : γ → Process S ε α) : List γ → World E → List (γ × Except ε α) × World E
  | [], world => ([], world)
  | item :: rest, world =>
      let (outcome, reached) := (body item).exec world
      let (others, last) := attempts body rest reached
      ((item, outcome) :: others, last)

/-- A loop that goes on after a failure collects the outcomes of its attempts. -/
theorem exec_foldlM_attempts {step : β → γ → Process S ε β} (body : γ → Process S ε α)
    (collect : β → γ × Except ε α → β)
    (each : ∀ collected item (world : World E), (step collected item).exec world =
      (.ok (collect collected (item, ((body item).exec world).1)), ((body item).exec world).2))
    (items : List γ) (init : β) (world : World E) :
    (items.foldlM step init).exec world =
      (.ok ((attempts body items world).1.foldl collect init),
        (attempts body items world).2) := by
  induction items generalizing init world with
  | nil => rfl
  | cons item rest ih =>
      rw [List.foldlM_cons, exec_bind, each]
      exact ih _ _

theorem map_fst_attempts (body : γ → Process S ε α) (items : List γ) (world : World E) :
    (attempts body items world).1.map Prod.fst = items := by
  induction items generalizing world with
  | nil => rfl
  | cons item rest ih =>
      exact congrArg (item :: ·) (ih _)

end Process

end Effects
