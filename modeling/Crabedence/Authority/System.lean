import Crabedence.Authority.Store
import Crabedence.Resumption.Locking
import Crabedence.Resumption.Pool

/-!
# Callers of the authority stores

Any number of callers over one database.  In SQLite one transaction is active at a time; in PostgreSQL
several are, and a head row that one of them has inserted or read `FOR UPDATE` makes the others wait.
Every statement may fail, a commit may take effect and be reported as failed, and the database may end
any transaction on its own, as it does when its caller is gone.  The clock of the database may do
anything.
-/

namespace Crabedence.Authority

open Go Capability Resumption

structure World where
  store : Locking.Store Str Reference
  now : Int64

namespace World

def reference (world : World) (grantID : Str) : Reference := world.store.parts grantID

def initial (now : Int64) : World where
  store := { parts := fun _ => .empty, locks := fun _ => none, active := [], fresh := 0 }
  now := now

def Rely (before after : World) : Prop := before.store.Tolerated after.store

/-- The clock moves, or the database ends a transaction. -/
inductive Drift (world : World) : World → Prop where
  | clock (now : Int64) : Drift world { world with now }
  | abort (tx : Nat) : Drift world { world with store := world.store.finish tx }

end World

/-- A statement is answered as `did` says, or fails without effect. -/
inductive Attempts {Reply : Type} (world : World) (did : Reply → World → Prop) :
    Except Str Reply → World → Prop where
  | done {reply : Reply} {after : World} (answered : did reply after) :
      Attempts world did (.ok reply) after
  | failed (failure : Str) : Attempts world did (.error failure) world

/-- How a commit ends; a failed one may have taken effect. -/
inductive Commits (world : World) (tx : Nat) (grantID : Str) (own : Reference) :
    Except Str Unit → World → Prop where
  | committed (active : tx ∈ world.store.active) (holder : world.store.locks grantID = some tx)
      (reply : Except Str Unit) :
      Commits world tx grantID own reply { world with store := world.store.commit tx grantID own }
  | failed (failure : Str) : Commits world tx grantID own (.error failure) world

/-- `INSERT ... ON CONFLICT DO NOTHING`.  Where there is a head it does nothing; else it waits for
whoever is inserting one, and then holds the row. -/
inductive EnsuresHead (world : World) (tx : Nat) (grantID : Str) : Option Reference → World → Prop where
  | present {head : Head} (found : (world.reference grantID).head = some head) :
      EnsuresHead world tx grantID none world
  | inserted (absent : (world.reference grantID).head = none)
      (free : world.store.locks grantID = none) :
      EnsuresHead world tx grantID (some (world.reference grantID).ensureHead)
        { world with store := world.store.acquire tx grantID }

/-- `SELECT ... FOR UPDATE`.  The transaction sees the row it inserted itself; else it waits until
nobody holds the row, and reads what is committed then. -/
inductive LocksHead (world : World) (tx : Nat) (grantID : Str) :
    Option Reference → Head × Reference → World → Prop where
  | inserted {own : Reference} {head : Head} (found : own.head = some head) :
      LocksHead world tx grantID (some own) (head, own) world
  | acquired {head : Head} (found : (world.reference grantID).head = some head)
      (free : world.store.locks grantID = none) :
      LocksHead world tx grantID none (head, world.reference grantID)
        { world with store := world.store.acquire tx grantID }

/-- How an operation may be answered. -/
def Serves (engine : Engine) :
    {Reply : Type} → Operation Reply → World → Reply → World → Prop
  | _, .begin, world, reply, after =>
    Attempts world (fun tx next => (engine = .sqlite → world.store.active = []) ∧
      tx = world.store.fresh ∧ next = { world with store := world.store.begin }) reply after
  | _, .ensureHead tx grantID, world, reply, after =>
    Attempts world (fun own next => tx ∈ world.store.active ∧
      EnsuresHead world tx grantID own next) reply after
  | _, .lockHead tx grantID own, world, reply, after =>
    Attempts world (fun answer next => tx ∈ world.store.active ∧
      LocksHead world tx grantID own answer next) reply after
  | _, .execute tx statement own, world, reply, after =>
    Attempts world (fun answer next => tx ∈ world.store.active ∧
      statement.apply own = some answer ∧ next = world) reply after
  | _, .commit tx grantID own, world, reply, after => Commits world tx grantID own reply after
  | _, .rollback tx, world, _, after => after = { world with store := world.store.finish tx }
  | _, .latest grantID, world, reply, after =>
    Attempts world (fun answer next => answer = ((world.reference grantID).latest, world.now) ∧
      next = world) reply after
  | _, .now, world, _, after => after = world

/-- Whatever is served, the others can tolerate. -/
theorem Serves.relied {engine : Engine} {Reply : Type} {operation : Operation Reply}
    {before after : World} {reply : Reply} (served : Serves engine operation before reply after) :
    before.Rely after := by
  have refl := Locking.Store.Tolerated.refl before.store
  cases operation with
  | begin =>
    cases served with
    | done answered =>
      obtain ⟨-, -, rfl⟩ := answered
      exact Locking.Store.tolerated_begin before.store
    | failed failure => exact refl
  | ensureHead tx grantID =>
    cases served with
    | done answered =>
      cases answered.2 with
      | present found => exact refl
      | inserted absent free => exact Locking.Store.tolerated_acquire free
    | failed failure => exact refl
  | lockHead tx grantID own =>
    cases served with
    | done answered =>
      cases answered.2 with
      | inserted found => exact refl
      | acquired found free => exact Locking.Store.tolerated_acquire free
    | failed failure => exact refl
  | execute tx statement own =>
    cases served with
    | done answered =>
      obtain ⟨-, -, rfl⟩ := answered
      exact refl
    | failed failure => exact refl
  | commit tx grantID own =>
    cases served with
    | committed active holder reply => exact Locking.Store.tolerated_commit holder
    | failed failure => exact refl
  | rollback tx =>
    cases served
    exact Locking.Store.tolerated_finish before.store tx
  | latest grantID =>
    cases served with
    | done answered =>
      obtain ⟨-, rfl⟩ := answered
      exact refl
    | failed failure => exact refl
  | now =>
    cases served
    exact refl

theorem World.Drift.relied {before after : World} (drift : before.Drift after) :
    before.Rely after := by
  cases drift with
  | clock now => exact Locking.Store.Tolerated.refl before.store
  | abort tx => exact Locking.Store.tolerated_finish before.store tx

/-- The commits that were reported to a caller: what was stored under which `grant_id`. -/
abbrev Commit := Str × Reference

def Operation.noted : {Reply : Type} → Operation Reply → Reply → List Commit
  | _, .commit _ grantID own, .ok () => [(grantID, own)]
  | _, _, _ => []

def machine (engine : Engine) : Machine Operation World Commit where
  serve operation before reply after marks :=
    Serves engine operation before reply after ∧ marks = operation.noted reply
  rely := World.Rely
  rely_refl world := .refl world.store
  rely_trans first second := first.trans second

/-- A call of one of the methods. -/
inductive Call where
  | issueGrantWithConstraints (grantID principal : Str) (capabilities : Option (List Str))
      (constraints : Map (Option (List Str))) (expiresAt : Time)
  | revokeGeneration (grantID : Str) (generation : Int)
  | revokeGrant (grantID : Str)
  | closeAuthorityRef (grantID : Str)
  | resolve (grantID principal : Str)

inductive Outcome where
  | issued (reply : Except Str Grant)
  | changed (reply : Except Str Unit)
  | resolved (reply : Except Str (Option Grant))

def Call.program (storage : Storage) (printing : Printing) (sha256 : List UInt8 → Str) :
    Call → Program Operation Outcome
  | .issueGrantWithConstraints grantID principal capabilities constraints expiresAt =>
    (Authority.issueGrantWithConstraints storage sha256 grantID principal capabilities constraints
      expiresAt).run.bind fun reply => .done (.issued reply)
  | .revokeGeneration grantID generation =>
    (Authority.revokeGeneration grantID generation).run.bind fun reply => .done (.changed reply)
  | .revokeGrant grantID =>
    (Authority.revokeGrant grantID).run.bind fun reply => .done (.changed reply)
  | .closeAuthorityRef grantID =>
    (Authority.closeAuthorityRef grantID).run.bind fun reply => .done (.changed reply)
  | .resolve grantID principal =>
    (resolveGrant storage printing sha256 grantID principal).run.bind fun reply =>
      .done (.resolved reply)

def scheduler (storage : Storage) (printing : Printing) (sha256 : List UInt8 → Str) :
    Scheduler Operation World Call Outcome Commit where
  machine := machine storage.engine
  drift := World.Drift
  programs := Call.program storage printing sha256
  admitted _ := True
  drift_relied := World.Drift.relied
  serve_relied served := served.1.relied

abbrev SystemState := Pool Operation World Call Outcome Commit

def Reachable (storage : Storage) (printing : Printing) (sha256 : List UInt8 → Str)
    (state : SystemState) : Prop :=
  ∃ now, Pool.Reaches (scheduler storage printing sha256) ⟨World.initial now, []⟩ state

end Crabedence.Authority
