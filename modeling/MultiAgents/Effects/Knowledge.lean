import MultiAgents.Effects.Pool

/-!
# Processes that act on what they have learnt

Whether a process may issue a request can depend on what the answers to its earlier
requests have taught it.  Facts that were true when they were learnt have to stay
true whatever the other processes of a pool do; then every request that is issued
is one its process may issue in the state at hand.
-/

namespace Effects

variable {S : Signature} {ε α β Fact Actor : Type}

/-- What may be asked for with some knowledge, and what an answer teaches. -/
structure Discipline (S : Signature) (Fact : Type) where
  permits : (Fact → Prop) → S.Request → Prop
  teaches : (Fact → Prop) → (call : S.Request) → S.Answer call → Fact → Prop

def Discipline.learn (discipline : Discipline S Fact) (known : Fact → Prop) (call : S.Request)
    (answer : S.Answer call) : Fact → Prop :=
  fun fact => known fact ∨ discipline.teaches known call answer fact

def Process.Follows (discipline : Discipline S Fact) (returned : (Fact → Prop) → α → Prop) :
    (Fact → Prop) → Process S ε α → Prop
  | known, .done value => returned known value
  | _, .fail _ => True
  | known, .ask call rest =>
      discipline.permits known call ∧
        ∀ answer, (rest answer).Follows discipline returned (discipline.learn known call answer)

section Follows

variable {discipline : Discipline S Fact} {known : Fact → Prop}

theorem Process.Follows.bind {process : Process S ε α} {next : α → Process S ε β}
    {returned : (Fact → Prop) → β → Prop}
    (follows : process.Follows discipline
      (fun known value => (next value).Follows discipline returned known) known) :
    (process >>= next).Follows discipline returned known := by
  induction process generalizing known with
  | done value => exact follows
  | fail error => trivial
  | ask call rest ih =>
      exact ⟨follows.1, fun answer => ih answer (follows.2 answer)⟩

theorem Process.Follows.call {request : S.Request}
    {returned : (Fact → Prop) → S.Answer request → Prop}
    (permitted : discipline.permits known request)
    (continues : ∀ answer, returned (discipline.learn known request answer) answer) :
    (Process.call request : Process S ε _).Follows discipline returned known :=
  ⟨permitted, continues⟩

theorem Process.Follows.ofExcept {result : Except ε α} {returned : (Fact → Prop) → α → Prop}
    (continues : ∀ value, result = .ok value → returned known value) :
    (Process.ofExcept result : Process S ε α).Follows discipline returned known := by
  cases result with
  | error error => trivial
  | ok value => exact continues value rfl

theorem Process.Follows.mono {process : Process S ε α}
    {returned returned' : (Fact → Prop) → α → Prop}
    (follows : process.Follows discipline returned known)
    (weaker : ∀ known value, returned known value → returned' known value) :
    process.Follows discipline returned' known := by
  induction process generalizing known with
  | done value => exact weaker known value follows
  | fail error => trivial
  | ask call rest ih =>
      exact ⟨follows.1, fun answer => ih answer (follows.2 answer)⟩

/-- A process whose requests are permitted whatever is known. -/
theorem Process.Follows.of_uses {allowed : S.Request → Prop} {process : Process S ε α}
    {returned : (Fact → Prop) → α → Prop} (uses : Uses allowed process)
    (permitted : ∀ known call, allowed call → discipline.permits known call)
    (continues : ∀ value later, (∀ fact, known fact → later fact) → returned later value) :
    process.Follows discipline returned known := by
  induction process generalizing known with
  | done value => exact continues value known fun _ => id
  | fail error => trivial
  | ask call rest ih =>
      refine ⟨permitted known call uses.1, fun answer => ?_⟩
      exact ih answer (uses.2 answer) fun value later more =>
        continues value later fun fact held => more fact (.inl held)

theorem Process.Follows.tryCatch {process : Process S ε α} {handler : ε → Process S ε α}
    {returned : (Fact → Prop) → α → Prop} (body : process.Follows discipline returned known)
    (handled : ∀ error later, (∀ fact, known fact → later fact) →
      (handler error).Follows discipline returned later) :
    (tryCatch process handler).Follows discipline returned known := by
  induction process generalizing known with
  | done value => exact body
  | fail error => exact handled error known fun _ => id
  | ask call rest ih =>
      refine ⟨body.1, fun answer => ih answer (body.2 answer) ?_⟩
      exact fun error later more => handled error later fun fact held => more fact (.inl held)

end Follows

namespace Pool

variable {E : Environment S}

section Informed

variable (discipline : Actor → Discipline S Fact) (holds : E.State → Actor → Fact → Prop)

def Informed (pool : Pool E ε Actor) : Prop :=
  ∀ thread ∈ pool.threads, ∃ known, (∀ fact, known fact → holds pool.world.state thread.1 fact) ∧
    thread.2.Follows (discipline thread.1) (fun _ _ => True) known

/-- What is true stays true, and what is taught is true. -/
structure Sound (invariant : E.State → Prop) : Prop where
  keeps : ∀ state choice actor known call, invariant state →
    (∀ fact, known fact → holds state actor fact) → (discipline actor).permits known call →
      invariant (E.serve state choice call).2
  stays : ∀ state choice actor known call, invariant state →
    (∀ fact, known fact → holds state actor fact) → (discipline actor).permits known call →
      ∀ other fact, holds state other fact → holds (E.serve state choice call).2 other fact
  taught : ∀ state choice actor known call, invariant state →
    (∀ fact, known fact → holds state actor fact) → (discipline actor).permits known call →
      ∀ fact, (discipline actor).teaches known call (E.serve state choice call).1 fact →
        holds (E.serve state choice call).2 actor fact

end Informed

variable {discipline : Actor → Discipline S Fact} {holds : E.State → Actor → Fact → Prop}
  {invariant : E.State → Prop} {program : Actor → Process S ε Unit} {pool : Pool E ε Actor}

/-- The request of a move is one that its actor may issue. -/
theorem Informed.permitted (informed : pool.Informed discipline holds) {index : Nat} {actor : Actor}
    {call : S.Request} {rest : S.Answer call → Process S ε Unit}
    (found : pool.threads[index]? = some (actor, .ask call rest)) :
    ∃ known, (∀ fact, known fact → holds pool.world.state actor fact) ∧
      (discipline actor).permits known call ∧
      ∀ answer, (rest answer).Follows (discipline actor) (fun _ _ => True)
        ((discipline actor).learn known call answer) := by
  obtain ⟨known, right, permitted, continues⟩ := informed _ (List.mem_of_getElem? found)
  exact ⟨known, right, permitted, continues⟩

theorem Informed.move (sound : Sound discipline holds invariant)
    (programs : ∀ actor, (program actor).Follows (discipline actor) (fun _ _ => True)
      fun _ => False)
    (informed : pool.Informed discipline holds) (kept : invariant pool.world.state)
    (move : Move Actor) :
    invariant (pool.move program move).world.state ∧
      (pool.move program move).Informed discipline holds := by
  rcases pool.move_cases program move with ⟨actor, rfl, moved⟩ |
    ⟨index, actor, call, rest, rfl, found, moved⟩ | moved
  · rw [moved]
    refine ⟨kept, fun thread membership => ?_⟩
    rcases List.mem_append.mp membership with before | added
    · exact informed thread before
    · obtain rfl := List.mem_singleton.mp added
      exact ⟨fun _ => False, fun _ nothing => nothing.elim, programs actor⟩
  · rw [moved]
    obtain ⟨known, right, permitted, continues⟩ := informed.permitted found
    have stays := sound.stays _ pool.world.choice actor known call kept right permitted
    refine ⟨sound.keeps _ _ actor known call kept right permitted, fun thread membership => ?_⟩
    rcases List.mem_or_eq_of_mem_set membership with before | rfl
    · obtain ⟨facts, true, follows⟩ := informed thread before
      exact ⟨facts, fun fact known => stays _ fact (true fact known), follows⟩
    · refine ⟨_, fun fact learnt => ?_, continues _⟩
      rcases learnt with known | taught
      · exact stays actor fact (right fact known)
      · exact sound.taught _ _ actor _ call kept right permitted fact taught
  · rw [moved]
    exact ⟨kept, informed⟩

end Pool

end Effects
