import Mathlib.Tactic.SplitIfs

/-!
# Validators

A validator is a sequence of checks, each of which refuses with a reason or hands a value on.  It
accepts exactly if every check passes, so acceptance unfolds into a conjunction.
-/

namespace Checks

variable {E A B : Type}

def refuse (condition : Prop) [Decidable condition] (reason : E) : Except E Unit :=
  if condition then .error reason else .ok ()

def obtainOr (value : Option A) (reason : E) : Except E A :=
  match value with
  | some value => .ok value
  | none => .error reason

def each (items : List A) (check : A → Except E Unit) : Except E Unit :=
  match items with
  | [] => .ok ()
  | item :: items => check item >>= fun _ => each items check

variable {reason : E} {u : Unit} {first : Except E A}

theorem refuse_ok_iff {condition : Prop} [Decidable condition] :
    refuse condition reason = .ok u ↔ ¬ condition := by
  unfold refuse
  split_ifs with refused
  · exact ⟨fun passed => (by cases passed), fun passed => absurd refused passed⟩
  · exact ⟨fun _ => refused, fun _ => rfl⟩

theorem obtainOr_ok_iff {value : Option A} {result : A} :
    obtainOr value reason = .ok result ↔ value = some result := by
  cases value with
  | none => exact ⟨fun passed => (by cases passed), fun found => (by cases found)⟩
  | some value =>
    exact ⟨fun passed => congrArg some (Except.ok.inj passed),
      fun found => congrArg Except.ok (Option.some.inj found)⟩

theorem bind_ok_iff {next : A → Except E B} {result : B} :
    (first >>= next) = .ok result ↔ ∃ value, first = .ok value ∧ next value = .ok result := by
  cases first with
  | error reason => exact ⟨fun passed => (by cases passed), fun ⟨_, found, _⟩ => (by cases found)⟩
  | ok value => exact ⟨fun passed => ⟨value, rfl, passed⟩, fun ⟨_, found, passed⟩ => by
      cases found
      exact passed⟩

theorem mapError_ok_iff {F : Type} {f : E → F} {value : A} :
    first.mapError f = .ok value ↔ first = .ok value := by
  cases first with
  | error reason => exact ⟨fun passed => (by cases passed), fun passed => (by cases passed)⟩
  | ok found => exact ⟨congrArg _ ∘ Except.ok.inj, congrArg _ ∘ Except.ok.inj⟩

theorem each_ok_iff {items : List A} {check : A → Except E Unit} :
    each items check = .ok u ↔ ∀ item ∈ items, check item = .ok () := by
  induction items with
  | nil => exact ⟨fun _ _ held => (by cases held), fun _ => rfl⟩
  | cons item items ih =>
    rw [each, bind_ok_iff, List.forall_mem_cons, ← ih]
    exact ⟨fun ⟨_, first, rest⟩ => ⟨first, rest⟩, fun ⟨first, rest⟩ => ⟨(), first, rest⟩⟩

end Checks
