import MultiAgents.Effects.Triple

/-!
# Processes that run side by side

A pool holds processes that share one world.  A move starts another process or
lets one of them issue its next request; a list of moves is one interleaving.
What every process of an actor may ask for is known before it runs, so an
invariant of the pool is shown one request at a time.
-/

namespace Effects

variable {S T : Signature} {ε α Actor : Type}

/-- The requests of one signature among those of another. -/
structure Embedding (S T : Signature) where
  request : S.Request → T.Request
  answer : (call : S.Request) → T.Answer (request call) → S.Answer call

/-- The same process, with its requests issued in the larger signature. -/
def Process.embed (embedding : Embedding S T) : Process S ε α → Process T ε α
  | .done value => .done value
  | .fail error => .fail error
  | .ask call rest =>
      .ask (embedding.request call) fun answer =>
        (rest (embedding.answer call answer)).embed embedding

theorem Uses.embed {embedding : Embedding S T} {allowed : T.Request → Prop}
    {process : Process S ε α}
    (uses : Uses (fun call => allowed (embedding.request call)) process) :
    Uses allowed (process.embed embedding) := by
  induction process with
  | done value => trivial
  | fail error => trivial
  | ask call rest ih =>
      exact ⟨uses.1, fun answer => ih _ (uses.2 _)⟩

/-- A process that has returned or failed. -/
def Process.ended : Process S ε α → Bool
  | .ask _ _ => false
  | _ => true

theorem Uses.of_ended {allowed : S.Request → Prop} {process : Process S ε α}
    (ended : process.ended = true) : Uses allowed process := by
  cases process with
  | done value => trivial
  | fail error => trivial
  | ask call rest => cases ended

/-- Processes that share a world, each with the actor it was started for. -/
structure Pool (E : Environment S) (ε Actor : Type) where
  world : World E
  threads : List (Actor × Process S ε Unit) := []

inductive Move (Actor : Type) where
  | spawn (actor : Actor)
  | advance (index : Nat)
  deriving DecidableEq

namespace Pool

variable {E : Environment S} (program : Actor → Process S ε Unit) (pool : Pool E ε Actor)

def issues? : Move Actor → Option S.Request
  | .spawn _ => none
  | .advance index =>
      match pool.threads[index]? with
      | some (_, .ask call _) => some call
      | _ => none

def move : Move Actor → Pool E ε Actor
  | .spawn actor => { pool with threads := pool.threads ++ [(actor, program actor)] }
  | .advance index =>
      match pool.threads[index]? with
      | some (actor, .ask call rest) =>
          { world := pool.world.next call
            threads := pool.threads.set index (actor, rest (pool.world.answer call)) }
      | _ => pool

/-- The pool after an interleaving. -/
def run (moves : List (Move Actor)) : Pool E ε Actor :=
  moves.foldl (fun pool => pool.move program) pool

def Guarded (condition : Pool E ε Actor → Move Actor → Prop) :
    List (Move Actor) → Pool E ε Actor → Prop
  | [], _ => True
  | move :: moves, pool =>
      condition pool move ∧ Guarded condition moves (pool.move program move)

instance Guarded.decidable (condition : Pool E ε Actor → Move Actor → Prop)
    [decide : ∀ pool move, Decidable (condition pool move)] :
    (moves : List (Move Actor)) → (pool : Pool E ε Actor) →
      Decidable (Guarded program condition moves pool)
  | [], _ => .isTrue trivial
  | move :: moves, pool =>
      have := Guarded.decidable condition moves (pool.move program move)
      inferInstanceAs (Decidable (condition pool move ∧
        Guarded program condition moves (pool.move program move)))

/-- What a move can do: start a process, issue a request of one, or nothing. -/
theorem move_cases (move : Move Actor) :
    (∃ actor, move = .spawn actor ∧
      pool.move program move = { pool with threads := pool.threads ++ [(actor, program actor)] }) ∨
    (∃ index actor call rest, move = .advance index ∧
      pool.threads[index]? = some (actor, .ask call rest) ∧
      pool.move program move =
        { world := pool.world.next call
          threads := pool.threads.set index (actor, rest (pool.world.answer call)) }) ∨
    pool.move program move = pool := by
  cases move with
  | spawn actor => exact .inl ⟨actor, rfl, rfl⟩
  | advance index =>
      rcases found : pool.threads[index]? with _ | ⟨actor, _ | _ | ⟨call, rest⟩⟩
      · exact .inr (.inr (by simp only [Pool.move, found]))
      · exact .inr (.inr (by simp only [Pool.move, found]))
      · exact .inr (.inr (by simp only [Pool.move, found]))
      · exact .inr (.inl ⟨index, actor, call, rest, rfl, found, by simp only [Pool.move, found]⟩)

variable {program pool}

theorem run_cons (move : Move Actor) (moves : List (Move Actor)) :
    pool.run program (move :: moves) = (pool.move program move).run program moves := rfl

/-- What every move keeps holds after every interleaving. -/
theorem run_invariant {invariant : Pool E ε Actor → Prop}
    {condition : Pool E ε Actor → Move Actor → Prop}
    (step : ∀ pool move, condition pool move → invariant pool →
      invariant (pool.move program move))
    {moves : List (Move Actor)} (guarded : Guarded program condition moves pool)
    (initial : invariant pool) : invariant (pool.run program moves) := by
  induction moves generalizing pool with
  | nil => exact initial
  | cons move moves ih =>
      rw [run_cons]
      exact ih guarded.2 (step pool move guarded.1 initial)

/-- What an invariant implies is met by every move. -/
theorem Guarded.of_invariant {invariant : Pool E ε Actor → Prop}
    {condition : Pool E ε Actor → Move Actor → Prop}
    (step : ∀ pool move, invariant pool → invariant (pool.move program move))
    (meets : ∀ pool move, invariant pool → condition pool move) (moves : List (Move Actor))
    (initial : invariant pool) : Guarded program condition moves pool := by
  induction moves generalizing pool with
  | nil => trivial
  | cons move moves ih =>
      exact ⟨meets pool move initial, ih (step pool move initial)⟩

end Pool

end Effects
