import MultiAgents.Effects.Process
import MultiAgents.Effects.Record

/-!
# Pre- and postconditions of processes

A triple speaks about every world a process may be started in, so about every
behaviour of the environment that meets an assumption on its steps.  It has two
postconditions, one for returning and one for raising.  `Uses` is the syntactic
companion: it bounds the requests a process can issue at all, and turns facts
about single requests into facts about whole executions.
-/

namespace Effects

open Record

variable {S : Signature} {E : Environment S} {ε α β γ : Type}

/-- `returned` holds of a returned value, `raised` of a raised error. -/
def Outcome (returned : α → World E → Prop) (raised : ε → World E → Prop) :
    Except ε α × World E → Prop
  | (.ok value, world) => returned value world
  | (.error error, world) => raised error world

/-- What is assumed of a step relative to the steps before it. -/
abbrev Assumption (E : Environment S) := Step E → List (Step E) → Prop

/-- Nothing is assumed. -/
abbrev Anything : Assumption E := fun _ _ => True

def Triple (assume : Assumption E) (pre : World E → Prop) (process : Process S ε α)
    (returned : α → World E → Prop) (raised : ε → World E → Prop) : Prop :=
  ∀ world, pre world → Always assume (process.exec world).2.history →
    Outcome returned raised (process.exec world)

/-- An invariant: it holds afterwards however the process ends. -/
def Keeps (assume : Assumption E) (invariant : World E → Prop) (process : Process S ε α) :
    Prop :=
  Triple assume invariant process (fun _ => invariant) (fun _ => invariant)

/-- Nothing is assumed, and nothing is claimed about errors. -/
abbrev Leads (pre : World E → Prop) (process : Process S ε α)
    (returned : α → World E → Prop) : Prop :=
  Triple Anything pre process returned fun _ _ => True

variable {assume : Assumption E}

/-- Whatever the process is answered: what it returns fits the record that its steps leave. -/
def Ends (ended : α → List (Step E) → Prop) : Process S ε α → List (Step E) → Prop
  | .done value, record => ended value record
  | .fail _, _ => True
  | .ask call rest, record => ∀ before choice answer,
      Ends ended (rest answer) (⟨before, choice, call, answer⟩ :: record)

theorem Ends.triple {pre : List (Step E) → Prop} {ended : α → List (Step E) → Prop}
    {process : Process S ε α} (ends : ∀ record, pre record → Ends ended process record) :
    Triple assume (fun world => pre world.history) process
      (fun value world => ended value world.history) (fun _ _ => True) := by
  intro world holds assumed
  replace ends := ends world.history holds
  clear holds
  induction process generalizing world with
  | done value => exact ends
  | fail error => trivial
  | ask call rest ih => exact ih _ (world.next call) assumed (ends _ _ _)

namespace Triple

variable {pre pre' : World E → Prop} {returned : α → World E → Prop}
  {raised raised' : ε → World E → Prop}

theorem pure {value : α} (holds : ∀ world, pre world → returned value world) :
    Triple assume pre (pure value : Process S ε α) returned raised :=
  fun world before _ => holds world before

theorem throw {error : ε} (holds : ∀ world, pre world → raised error world) :
    Triple assume pre (throw error : Process S ε α) returned raised :=
  fun world before _ => holds world before

theorem call {request : S.Request} {returned : S.Answer request → World E → Prop}
    (holds : ∀ world, pre world → assume (world.step request) world.history →
      returned (world.answer request) (world.next request)) :
    Triple assume pre (Process.call request : Process S ε _) returned raised :=
  fun world before assumed => holds world before assumed.head

theorem ofExcept {result : Except ε α}
    (ok : ∀ value, result = .ok value → ∀ world, pre world → returned value world)
    (error : ∀ err, result = .error err → ∀ world, pre world → raised err world) :
    Triple assume pre (Process.ofExcept result : Process S ε α) returned raised := by
  cases result with
  | ok value => exact fun world before _ => ok value rfl world before
  | error err => exact fun world before _ => error err rfl world before

theorem bind {process : Process S ε α} {rest : α → Process S ε β}
    {between : α → World E → Prop} {returned : β → World E → Prop}
    (first : Triple assume pre process between raised)
    (second : ∀ value, Triple assume (between value) (rest value) returned raised) :
    Triple assume pre (process >>= rest) returned raised := by
  intro world holds assumed
  have reached := first world holds
  rw [Process.exec_bind] at assumed ⊢
  revert reached assumed
  rcases process.exec world with ⟨_ | value, next⟩
  · exact fun assumed reached => reached assumed
  · intro assumed reached
    have earlier : Always assume next.history :=
      assumed.suffix ((rest value).history_suffix next)
    exact second value next (reached earlier) assumed

theorem attempt {process : Process S ε (Except ε α)}
    (triple : Triple assume pre process
      (fun result world => Outcome returned raised (result, world)) raised) :
    Triple assume pre process.attempt returned raised :=
  triple.bind fun _ => .ofExcept
    (fun _ same _ holds => by subst same; exact holds)
    (fun _ same _ holds => by subst same; exact holds)

theorem tryCatch {process : Process S ε α} {recover : ε → Process S ε α}
    {between : ε → World E → Prop}
    (body : Triple assume pre process returned between)
    (handler : ∀ error, Triple assume (between error) (recover error) returned raised) :
    Triple assume pre (tryCatch process recover) returned raised := by
  intro world holds assumed
  have reached := body world holds
  rw [Process.exec_tryCatch] at assumed ⊢
  revert reached assumed
  rcases process.exec world with ⟨error | _, next⟩
  · intro assumed reached
    have earlier : Always assume next.history :=
      assumed.suffix ((recover error).history_suffix next)
    exact handler error next (reached earlier) assumed
  · exact fun assumed reached => reached assumed

/-- Nothing is asked of the result. -/
theorem nothing {process : Process S ε α} :
    Triple assume pre process (fun _ _ => True) (fun _ _ => True) := by
  intro world _ _
  rcases process.exec world with ⟨_ | _, _⟩ <;> trivial

theorem weaken {process : Process S ε α} {returned' : α → World E → Prop}
    (triple : Triple assume pre process returned raised)
    (before : ∀ world, pre' world → pre world)
    (after : ∀ value world, returned value world → returned' value world)
    (error : ∀ err world, raised err world → raised' err world) :
    Triple assume pre' process returned' raised' := by
  intro world holds assumed
  have reached := triple world (before world holds) assumed
  revert reached
  rcases process.exec world with ⟨err | value, next⟩
  · exact error err next
  · exact after value next

theorem before {process : Process S ε α}
    (triple : Triple assume pre process returned raised)
    (weaker : ∀ world, pre' world → pre world) :
    Triple assume pre' process returned raised :=
  triple.weaken weaker (fun _ _ => id) (fun _ _ => id)

theorem onRaise {process : Process S ε α}
    (triple : Triple assume pre process returned raised)
    (weaker : ∀ error world, raised error world → raised' error world) :
    Triple assume pre process returned raised' :=
  triple.weaken (fun _ => id) (fun _ _ => id) weaker

theorem and {process : Process S ε α} {returned' : α → World E → Prop}
    (left : Triple assume pre process returned raised)
    (right : Triple assume pre' process returned' raised') :
    Triple assume (fun world => pre world ∧ pre' world) process
      (fun value world => returned value world ∧ returned' value world)
      (fun error world => raised error world ∧ raised' error world) := by
  intro world holds assumed
  have reached := left world holds.1 assumed
  have reached' := right world holds.2 assumed
  revert reached reached'
  rcases process.exec world with ⟨err | value, next⟩ <;> exact And.intro

/-- Together with what holds of every run. -/
theorem also {process : Process S ε α} {returned' : α → World E → Prop}
    (triple : Triple assume pre process returned raised)
    (always : Triple assume (fun _ => True) process returned' raised') :
    Triple assume pre process
      (fun value world => returned value world ∧ returned' value world) raised :=
  (triple.and always).weaken (fun _ holds => ⟨holds, trivial⟩) (fun _ _ => id)
    fun _ _ => And.left

/-- A precondition about no particular world is a fact. -/
theorem of_fact {fact : Prop} {process : Process S ε α}
    (triple : fact → Triple assume (fun _ => True) process returned raised) :
    Triple assume (fun _ => fact) process returned raised :=
  fun world holds => triple holds world trivial

/-- A part of the precondition that is about no particular world. -/
theorem given {fact : Prop} {process : Process S ε α}
    (triple : fact → Triple assume pre process returned raised) :
    Triple assume (fun world => fact ∧ pre world) process returned raised :=
  fun world holds => triple holds.1 world holds.2

/-- A precondition that names something: it is enough to have the triple for each of them. -/
theorem exists_pre {β : Type} {pre : β → World E → Prop} {process : Process S ε α}
    (triple : ∀ witness, Triple assume (pre witness) process returned raised) :
    Triple assume (fun world => ∃ witness, pre witness world) process returned raised :=
  fun world ⟨witness, holds⟩ => triple witness world holds

theorem ite {condition : Prop} [Decidable condition] {yes no : Process S ε α}
    (positive : condition → Triple assume pre yes returned raised)
    (negative : ¬condition → Triple assume pre no returned raised) :
    Triple assume pre (if condition then yes else no) returned raised := by
  split
  · exact positive ‹_›
  · exact negative ‹_›

/-- A loop over a list, with the accumulator and the items done so far in the invariant. -/
theorem foldlM {items : List β} {body : α → β → Process S ε α} {init : α}
    (invariant : List β → α → World E → Prop)
    (step : ∀ done item rest acc, items = done ++ item :: rest →
      Triple assume (invariant done acc) (body acc item) (invariant (done ++ [item])) raised) :
    Triple assume (invariant [] init) (items.foldlM body init) (invariant items) raised := by
  suffices general : ∀ (rest done : List β) (acc : α), items = done ++ rest →
      Triple assume (invariant done acc) (rest.foldlM body acc) (invariant items) raised from
    general items [] init rfl
  intro rest
  induction rest with
  | nil =>
      intro done acc split world holds _
      have finished : items = done := by simpa using split
      subst finished
      exact holds
  | cons item rest ih =>
      intro done acc split
      rw [List.foldlM_cons]
      exact (step done item rest acc split).bind fun value =>
        ih (done ++ [item]) value (by simpa using split)

/-- A loop over a list that only has an effect. -/
theorem forM {items : List β} {body : β → Process S ε PUnit}
    {invariant : List β → World E → Prop}
    (step : ∀ done item rest, items = done ++ item :: rest →
      Triple assume (invariant done) (body item) (fun _ => invariant (done ++ [item])) raised) :
    Triple assume (invariant []) (forM items body) (fun _ => invariant items) raised := by
  suffices general : ∀ rest done : List β, items = done ++ rest →
      Triple assume (invariant done) (ForM.forM rest body) (fun _ => invariant items) raised from
    general items [] rfl
  intro rest
  induction rest with
  | nil =>
      intro done split world holds _
      have finished : items = done := by simpa using split
      subst finished
      exact holds
  | cons item rest ih =>
      intro done split
      rw [List.forM_cons]
      exact (step done item rest split).bind fun _ =>
        ih (done ++ [item]) (by simpa using split)

/-- A condition that holds however the process ends holds at the end. -/
theorem exec {process : Process S ε α} {post : World E → Prop}
    (triple : Triple assume pre process (fun _ => post) (fun _ => post)) {world : World E}
    (holds : pre world) (assumed : Always assume (process.exec world).2.history) :
    post (process.exec world).2 := by
  have reached := triple world holds assumed
  revert reached
  rcases process.exec world with ⟨_ | _, next⟩ <;> exact id

/-- A triple that assumes nothing speaks about every execution. -/
theorem outcome {process : Process S ε α}
    (triple : Triple Anything pre process returned raised) {world : World E}
    (holds : pre world) : Outcome returned raised (process.exec world) :=
  triple world holds (always_iff.mpr fun _ _ _ _ => trivial)

end Triple

/-- What holds of all choices to come holds of the choice of every step. -/
theorem Process.always_choices (process : Process S ε α) (fine : E.Choice → Prop)
    (world : World E) (choices : ∀ index, fine (world.choices index))
    (past : Always (fun step _ => fine step.choice) world.history) :
    Always (fun step _ => fine step.choice) (process.exec world).2.history := by
  induction process generalizing world with
  | done value => exact past
  | fail error => exact past
  | ask call rest ih =>
      exact ih _ _ choices (.cons (choices _) past)

namespace Keeps

variable {invariant : World E → Prop}

theorem bind {process : Process S ε α} {rest : α → Process S ε β}
    (first : Keeps assume invariant process)
    (second : ∀ value, Keeps assume invariant (rest value)) :
    Keeps assume invariant (process >>= rest) :=
  Triple.bind first second

theorem tryCatch {process : Process S ε α} {recover : ε → Process S ε α}
    (body : Keeps assume invariant process)
    (handler : ∀ error, Keeps assume invariant (recover error)) :
    Keeps assume invariant (tryCatch process recover) :=
  Triple.tryCatch body handler

theorem forM {items : List β} {body : β → Process S ε PUnit}
    (step : ∀ item ∈ items, Keeps assume invariant (body item)) :
    Keeps assume invariant (forM items body) := by
  induction items with
  | nil => exact fun _ holds _ => holds
  | cons item rest ih =>
      rw [List.forM_cons]
      exact (step item (by simp)).bind fun _ =>
        ih fun other membership => step other (by simp [membership])

end Keeps

def Uses (allowed : S.Request → Prop) : Process S ε α → Prop
  | .done _ => True
  | .fail _ => True
  | .ask call rest => allowed call ∧ ∀ answer, Uses allowed (rest answer)

namespace Uses

variable {allowed allowed' : S.Request → Prop}

theorem pure (value : α) : Uses allowed (pure value : Process S ε α) := trivial

theorem throw (error : ε) : Uses allowed (throw error : Process S ε α) := trivial

theorem call {request : S.Request} (permitted : allowed request) :
    Uses allowed (Process.call request : Process S ε _) :=
  ⟨permitted, fun _ => trivial⟩

theorem ofExcept (result : Except ε α) :
    Uses allowed (Process.ofExcept result : Process S ε α) := by
  cases result <;> trivial

theorem bind {process : Process S ε α} {rest : α → Process S ε β}
    (first : Uses allowed process) (second : ∀ value, Uses allowed (rest value)) :
    Uses allowed (process >>= rest) := by
  induction process with
  | done value => exact second value
  | fail error => trivial
  | ask call continuation ih =>
      exact ⟨first.1, fun answer => ih answer (first.2 answer)⟩

theorem attempt {process : Process S ε (Except ε α)} (uses : Uses allowed process) :
    Uses allowed process.attempt :=
  uses.bind fun _ => .ofExcept _

theorem tryCatch {process : Process S ε α} {recover : ε → Process S ε α}
    (body : Uses allowed process) (handler : ∀ error, Uses allowed (recover error)) :
    Uses allowed (tryCatch process recover) := by
  induction process with
  | done value => trivial
  | fail error => exact handler error
  | ask call continuation ih =>
      exact ⟨body.1, fun answer => ih answer (body.2 answer)⟩

theorem ite {condition : Prop} [Decidable condition] {yes no : Process S ε α}
    (positive : Uses allowed yes) (negative : Uses allowed no) :
    Uses allowed (if condition then yes else no) := by
  split <;> assumption

theorem foldlM {items : List β} {body : α → β → Process S ε α} (init : α)
    (step : ∀ acc, ∀ item ∈ items, Uses allowed (body acc item)) :
    Uses allowed (items.foldlM body init) := by
  induction items generalizing init with
  | nil => trivial
  | cons item rest ih =>
      rw [List.foldlM_cons]
      exact (step init item (by simp)).bind fun value =>
        ih value fun acc other membership =>
          step acc other (by simp [membership])

theorem forM {items : List β} {body : β → Process S ε PUnit}
    (step : ∀ item ∈ items, Uses allowed (body item)) :
    Uses allowed (forM items body) := by
  induction items with
  | nil => trivial
  | cons item rest ih =>
      rw [List.forM_cons]
      exact (step item (by simp)).bind fun _ =>
        ih fun other membership => step other (by simp [membership])

theorem mono {process : Process S ε α} (uses : Uses allowed process)
    (weaker : ∀ request, allowed request → allowed' request) : Uses allowed' process := by
  induction process with
  | done value => trivial
  | fail error => trivial
  | ask call continuation ih =>
      exact ⟨weaker call uses.1, fun answer => ih answer (uses.2 answer)⟩

/-- What every allowed request preserves, the process preserves. -/
theorem keeps {process : Process S ε α} (uses : Uses allowed process)
    {invariant : World E → Prop}
    (step : ∀ world request, allowed request → assume (world.step request) world.history →
      invariant world → invariant (world.next request)) :
    Keeps assume invariant process := by
  induction process with
  | done value => exact fun _ holds _ => holds
  | fail error => exact fun _ holds _ => holds
  | ask call continuation ih =>
      intro world holds assumed
      have earlier : Always assume (world.next call).history :=
        assumed.suffix ((continuation _).history_suffix _)
      exact ih (world.answer call) (uses.2 _) (world.next call)
        (step world call uses.1 earlier.head holds) assumed

/-- What every allowed request keeps holds after a run. -/
theorem exec_keeps {process : Process S ε α} (uses : Uses allowed process)
    (invariant : World E → Prop)
    (step : ∀ world request, allowed request → invariant world → invariant (world.next request))
    {world : World E} (initial : invariant world) : invariant (process.exec world).2 := by
  induction process generalizing world with
  | done value => exact initial
  | fail error => exact initial
  | ask call continuation ih =>
      exact ih (world.answer call) (uses.2 _) (step world call uses.1 initial)

end Uses

end Effects
