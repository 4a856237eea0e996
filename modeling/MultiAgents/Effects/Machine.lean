import Mathlib.Data.List.Basic

/-!
# Machines

A machine makes a step for each action.  What every step keeps, in a state that
the action finds in order, holds after every run whose actions all do so.
-/

namespace Effects.Machine

variable {State Action : Type} (step : State → Action → State)

def run (state : State) (actions : List Action) : State := actions.foldl step state

@[simp]
theorem run_nil (state : State) : run step state [] = state := rfl

@[simp]
theorem run_cons (state : State) (action : Action) (actions : List Action) :
    run step state (action :: actions) = run step (step state action) actions := rfl

theorem run_append (state : State) (first second : List Action) :
    run step state (first ++ second) = run step (run step state first) second :=
  List.foldl_append

def Guarded (condition : State → Action → Prop) : List Action → State → Prop
  | [], _ => True
  | action :: actions, state =>
      condition state action ∧ Guarded condition actions (step state action)

instance Guarded.decidable (condition : State → Action → Prop)
    [decide : ∀ state action, Decidable (condition state action)] :
    (actions : List Action) → (state : State) →
      Decidable (Guarded step condition actions state)
  | [], _ => .isTrue trivial
  | action :: actions, state =>
      have := Guarded.decidable condition actions (step state action)
      inferInstanceAs (Decidable (condition state action ∧
        Guarded step condition actions (step state action)))

variable {step}

theorem run_invariant {invariant : State → Prop} {condition : State → Action → Prop}
    (keeps : ∀ state action, condition state action → invariant state →
      invariant (step state action))
    {actions : List Action} {state : State} (guarded : Guarded step condition actions state)
    (initial : invariant state) : invariant (run step state actions) := by
  induction actions generalizing state with
  | nil => exact initial
  | cons action actions ih =>
      exact ih guarded.2 (keeps state action guarded.1 initial)

/-- What every step keeps holds after every run. -/
theorem run_keeps {invariant : State → Prop}
    (keeps : ∀ state action, invariant state → invariant (step state action)) {state : State}
    (initial : invariant state) (actions : List Action) : invariant (run step state actions) := by
  induction actions generalizing state with
  | nil => exact initial
  | cons action actions ih => exact ih (keeps state action initial)

/-- What a step keeps exactly under a condition holds throughout a run exactly if all its steps
meet the condition. -/
theorem always_iff_guarded {valid invariant : State → Prop} {condition : State → Action → Prop}
    (validStep : ∀ state action, valid state → valid (step state action))
    (keeps_iff : ∀ state action, valid state → invariant state →
      (invariant (step state action) ↔ condition state action))
    {actions : List Action} {state : State} (isValid : valid state) (initial : invariant state) :
    (∀ earlier, earlier <+: actions → invariant (run step state earlier)) ↔
      Guarded step condition actions state := by
  induction actions generalizing state with
  | nil =>
      constructor
      · exact fun _ => trivial
      · intro _ earlier isEarlier
        obtain rfl := List.prefix_nil.mp isEarlier
        exact initial
  | cons action actions ih =>
      constructor
      · intro always
        have after : invariant (step state action) :=
          always [action] (List.cons_prefix_cons.mpr ⟨rfl, List.nil_prefix⟩)
        refine ⟨(keeps_iff state action isValid initial).mp after, ?_⟩
        rw [← ih (validStep state action isValid) after]
        exact fun earlier isEarlier =>
          always (action :: earlier) (List.cons_prefix_cons.mpr ⟨rfl, isEarlier⟩)
      · rintro ⟨meets, rest⟩ earlier isEarlier
        cases earlier with
        | nil => exact initial
        | cons first earlier =>
            obtain ⟨rfl, shorter⟩ := List.cons_prefix_cons.mp isEarlier
            exact (ih (validStep state first isValid)
              ((keeps_iff state first isValid initial).mpr meets)).mpr rest earlier shorter

theorem run_concat (state : State) (actions : List Action) (action : Action) :
    run step state (actions ++ [action]) = step (run step state actions) action :=
  List.foldl_concat step state action actions

theorem guarded_append {condition : State → Action → Prop} {first second : List Action}
    {state : State} :
    Guarded step condition (first ++ second) state ↔
      Guarded step condition first state ∧
        Guarded step condition second (run step state first) := by
  induction first generalizing state with
  | nil => simp [Guarded]
  | cons action rest ih =>
      rw [List.cons_append, Guarded, Guarded, ih, and_assoc]
      rfl

theorem guarded_congr {condition condition' : State → Action → Prop}
    (same : ∀ state action, condition state action ↔ condition' state action)
    {actions : List Action} {state : State} :
    Guarded step condition actions state ↔ Guarded step condition' actions state := by
  induction actions generalizing state with
  | nil => exact Iff.rfl
  | cons action rest ih => exact and_congr (same state action) ih

theorem guarded_singleton {condition : State → Action → Prop} {action : Action} {state : State} :
    Guarded step condition [action] state ↔ condition state action :=
  and_iff_left trivial

end Effects.Machine
