import Mathlib.Logic.Function.Basic

/-!
# Transactions under exclusive locks

A store is divided into parts, each with a lock.  A transaction acquires the lock of a part, works on
its own copy of it and writes the copy back when it commits; when it ends, its locks are released.
Transactions are numbered and no number is used twice.  As long as a transaction is active, nobody else
changes a part whose lock it holds.
-/

namespace Resumption.Locking

structure Store (Key Part : Type) where
  parts : Key → Part
  locks : Key → Option Nat
  active : List Nat
  fresh : Nat

namespace Store

variable {Key Part : Type} [DecidableEq Key]

/-- A new transaction, under the number that was `fresh`. -/
def begin (store : Store Key Part) : Store Key Part :=
  { store with active := store.fresh :: store.active, fresh := store.fresh + 1 }

def acquire (store : Store Key Part) (tx : Nat) (key : Key) : Store Key Part :=
  { store with locks := Function.update store.locks key (some tx) }

def finish (store : Store Key Part) (tx : Nat) : Store Key Part :=
  { store with
    active := store.active.filter fun other => decide (other ≠ tx)
    locks := fun key => if store.locks key = some tx then none else store.locks key }

def commit (store : Store Key Part) (tx : Nat) (key : Key) (part : Part) : Store Key Part :=
  { store.finish tx with parts := Function.update store.parts key part }

/-- What a transaction has to tolerate from the others. -/
structure Tolerated (before after : Store Key Part) : Prop where
  fresh : before.fresh ≤ after.fresh
  held : ∀ tx < before.fresh, tx ∈ after.active → tx ∈ before.active ∧
    ∀ key, before.locks key = some tx →
      after.locks key = some tx ∧ after.parts key = before.parts key

def Holds (store : Store Key Part) (tx : Nat) (key : Key) (part : Part) : Prop :=
  tx < store.fresh ∧ (tx ∈ store.active → store.locks key = some tx ∧ store.parts key = part)

variable {store before after : Store Key Part} {tx : Nat} {key : Key} {part : Part}

section Tolerance

omit [DecidableEq Key]

theorem Tolerated.refl (store : Store Key Part) : Tolerated store store :=
  ⟨Nat.le_refl _, fun _ _ active => ⟨active, fun _ held => ⟨held, rfl⟩⟩⟩

theorem Tolerated.trans {middle : Store Key Part} (first : Tolerated before middle)
    (second : Tolerated middle after) : Tolerated before after where
  fresh := Nat.le_trans first.fresh second.fresh
  held := by
    intro tx older active
    have stillActive := second.held tx (Nat.lt_of_lt_of_le older first.fresh) active
    have wasActive := first.held tx older stillActive.1
    refine ⟨wasActive.1, ?_⟩
    intro key held
    have kept := wasActive.2 key held
    have keptOn := stillActive.2 key kept.1
    exact ⟨keptOn.1, keptOn.2.trans kept.2⟩

theorem tolerated_begin (store : Store Key Part) : Tolerated store store.begin where
  fresh := Nat.le_succ _
  held := by
    intro tx older active
    have other : tx ≠ store.fresh := Nat.ne_of_lt older
    exact ⟨(List.mem_cons.mp active).resolve_left other, fun _ held => ⟨held, rfl⟩⟩

theorem mem_active_finish {other : Nat} :
    other ∈ (store.finish tx).active ↔ other ∈ store.active ∧ other ≠ tx := by
  simp [finish]

theorem tolerated_finish (store : Store Key Part) (tx : Nat) :
    Tolerated store (store.finish tx) where
  fresh := Nat.le_refl _
  held := by
    intro other _ active
    rw [mem_active_finish] at active
    refine ⟨active.1, ?_⟩
    intro key held
    have kept : store.locks key ≠ some tx := by
      rw [held]
      exact fun same => active.2 (Option.some.inj same)
    exact ⟨(if_neg kept).trans held, rfl⟩

end Tolerance

theorem tolerated_acquire (free : store.locks key = none) :
    Tolerated store (store.acquire tx key) where
  fresh := Nat.le_refl _
  held := by
    intro other _ active
    refine ⟨active, ?_⟩
    intro otherKey held
    have apart : otherKey ≠ key := by
      intro same
      rw [same, free] at held
      cases held
    exact ⟨(Function.update_of_ne apart _ _).trans held, rfl⟩

theorem tolerated_commit (holder : store.locks key = some tx) :
    Tolerated store (store.commit tx key part) where
  fresh := Nat.le_refl _
  held := by
    intro other older active
    have finished := (tolerated_finish store tx).held other older active
    refine ⟨finished.1, ?_⟩
    intro otherKey held
    have apart : otherKey ≠ key := by
      intro same
      rw [same, holder] at held
      exact (mem_active_finish.mp active).2 (Option.some.inj held).symm
    exact ⟨(finished.2 otherKey held).1, Function.update_of_ne apart _ _⟩

omit [DecidableEq Key] in
theorem Holds.tolerated (holds : before.Holds tx key part) (moved : Tolerated before after) :
    after.Holds tx key part := by
  refine ⟨Nat.lt_of_lt_of_le holds.1 moved.fresh, ?_⟩
  intro active
  have kept := moved.held tx holds.1 active
  have held := holds.2 kept.1
  have same := kept.2 key held.1
  exact ⟨same.1, same.2.trans held.2⟩

theorem holds_acquire (begun : tx < store.fresh) :
    (store.acquire tx key).Holds tx key (store.parts key) :=
  ⟨begun, fun _ => ⟨Function.update_self _ _ _, rfl⟩⟩

end Store

end Resumption.Locking
