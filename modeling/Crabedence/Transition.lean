import Mathlib.Init

/-!
# Runs of a step function

A run applies operations one after another.  A property of states is asked of every state the run
goes through, a condition of every state together with the operation about to be applied.
-/

namespace Transition

variable {State Op : Type} (step : State → Op → State)

def Always (property : State → Prop) : State → List Op → Prop
  | state, [] => property state
  | state, op :: rest => property state ∧ Always property (step state op) rest

def Meets (condition : State → Op → Prop) : State → List Op → Prop
  | _, [] => True
  | state, op :: rest => condition state op ∧ Meets condition (step state op) rest

/-- No operation is applied to a state at which it is to be avoided before a state in `ended` is
reached. -/
def AvoidsUntil (avoided : State → Op → Prop) (ended : State → Prop) : State → List Op → Prop
  | _, [] => True
  | state, op :: rest =>
    ended state ∨ ¬ avoided state op ∧ AvoidsUntil avoided ended (step state op) rest

variable {step} {property invariant : State → Prop} {condition : State → Op → Prop} {state : State}
  {ops : List Op}

/-- The invariant may depend on the operations to come. -/
theorem always_of_rest {expecting : State → List Op → Prop}
    (keeps : ∀ state op rest, expecting state (op :: rest) → expecting (step state op) rest)
    (implies : ∀ state rest, expecting state rest → property state)
    (initially : expecting state ops) : Always step property state ops := by
  induction ops generalizing state with
  | nil => exact implies state [] initially
  | cons op rest ih => exact ⟨implies state _ initially, ih (keeps state op rest initially)⟩

theorem always_iff_meets (keeps : ∀ state op, invariant state → invariant (step state op))
    (exact_ : ∀ state op, invariant state → property state →
      (property (step state op) ↔ condition state op)) (initially : invariant state)
    (holds : property state) (ops : List Op) :
    Always step property state ops ↔ Meets step condition state ops := by
  induction ops generalizing state with
  | nil => exact iff_of_true holds trivial
  | cons op rest ih =>
    have next := exact_ state op initially holds
    constructor
    · intro always
      have kept : property (step state op) := by
        cases rest with
        | nil => exact always.2
        | cons _ _ => exact always.2.1
      exact ⟨next.mp kept, (ih (keeps state op initially) kept).mp always.2⟩
    · intro meets
      have kept := next.mpr meets.1
      exact ⟨holds, (ih (keeps state op initially) kept).mpr meets.2⟩

end Transition
