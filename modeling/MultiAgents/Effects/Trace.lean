import MultiAgents.Effects.Pool

/-!
# Traces of interleavings

The record of a world does not say who issued a request.  The trace of an
interleaving does: it lists the requests with the processes they come from, the
newest first.
-/

namespace Effects

variable {S : Signature} {ε Actor : Type}

structure Issued (S : Signature) where
  thread : Nat
  call : S.Request

namespace Pool

variable {E : Environment S} (program : Actor → Process S ε Unit)

/-- What a move adds to the trace. -/
def issued? (pool : Pool E ε Actor) : Move Actor → Option (Issued S)
  | .spawn _ => none
  | .advance index =>
      match pool.threads[index]? with
      | some (_, .ask call _) => some ⟨index, call⟩
      | _ => none

def trace : List (Move Actor) → Pool E ε Actor → List (Issued S) → List (Issued S)
  | [], _, past => past
  | move :: moves, pool, past =>
      trace moves (pool.move program move) ((pool.issued? move).toList ++ past)

/-- Every request of an interleaving meets a condition on the pool it is issued in and on the
trace so far. -/
def Supervised (condition : Pool E ε Actor → List (Issued S) → Issued S → Prop) :
    List (Move Actor) → Pool E ε Actor → List (Issued S) → Prop
  | [], _, _ => True
  | move :: moves, pool, past =>
      (∀ issued ∈ pool.issued? move, condition pool past issued) ∧
        Supervised condition moves (pool.move program move)
          ((pool.issued? move).toList ++ past)

instance Supervised.decidable (condition : Pool E ε Actor → List (Issued S) → Issued S → Prop)
    [decide : ∀ pool past issued, Decidable (condition pool past issued)] :
    (moves : List (Move Actor)) → (pool : Pool E ε Actor) → (past : List (Issued S)) →
      Decidable (Supervised program condition moves pool past)
  | [], _, _ => .isTrue trivial
  | move :: moves, pool, past =>
      have := Supervised.decidable condition moves (pool.move program move)
        ((pool.issued? move).toList ++ past)
      inferInstanceAs (Decidable ((∀ issued ∈ pool.issued? move, condition pool past issued) ∧
        Supervised program condition moves (pool.move program move)
          ((pool.issued? move).toList ++ past)))

variable {program} {pool : Pool E ε Actor} {past : List (Issued S)} {moves : List (Move Actor)}
  {condition condition' : Pool E ε Actor → List (Issued S) → Issued S → Prop}

theorem Supervised.mono (supervised : Supervised program condition moves pool past)
    (weaker : ∀ pool past issued, condition pool past issued → condition' pool past issued) :
    Supervised program condition' moves pool past := by
  induction moves generalizing pool past with
  | nil => trivial
  | cons move moves ih =>
      refine ⟨?_, ih supervised.2⟩
      exact fun issued issues => weaker pool past issued (supervised.1 issued issues)

/-- What starting a process and issuing a request keep holds after every interleaving. -/
theorem trace_invariant {invariant : Pool E ε Actor → List (Issued S) → Prop}
    (spawned : ∀ (pool : Pool E ε Actor) past actor, invariant pool past →
      invariant { pool with threads := pool.threads ++ [(actor, program actor)] } past)
    (advanced : ∀ (pool : Pool E ε Actor) past index actor call rest,
      pool.threads[index]? = some (actor, .ask call rest) → condition pool past ⟨index, call⟩ →
      invariant pool past →
      invariant
        { world := pool.world.next call
          threads := pool.threads.set index (actor, rest (pool.world.answer call)) }
        (⟨index, call⟩ :: past))
    (supervised : Supervised program condition moves pool past) (initial : invariant pool past) :
    invariant (pool.run program moves) (pool.trace program moves past) := by
  induction moves generalizing pool past with
  | nil => exact initial
  | cons move moves ih =>
      apply ih supervised.2
      have allowed := supervised.1
      cases move with
      | spawn actor => exact spawned pool past actor initial
      | advance index =>
          rcases found : pool.threads[index]? with _ | ⟨actor, _ | _ | ⟨call, rest⟩⟩ <;>
            simp only [Pool.move, issued?, found] at allowed ⊢
          · exact initial
          · exact initial
          · exact initial
          · exact advanced pool past index actor call rest found (allowed _ rfl) initial

end Pool

end Effects
