import Crabedence.Dispatch.Types
import Crabedence.Resumption.Pool
import Crabedence.Store.Evolution

/-!
# The world the store and the executor run in

Programs issue two kinds of operations: transactions against the embedded database, and requests to
the host process (random identifiers, the wall clock, the provider gate, the capability handler and
the receipt signer).  The host may answer anything, except that its generators of identifiers fail
only in runs with faults; in such runs a transaction, too, may fail with a driver error before or
after taking effect.  The database clock never runs backwards.
-/

namespace Crabedence

open Resumption

inductive Host : Type → Type where
  | generateLeaseToken : Host (Except String String)
  | generateExecutionID : Host (Except String String)
  | currentPID : Host Nat
  | deadlineExpired (deadline : String) : Host Bool
  | acquireGate (adapterID : String) : Host (Except String Unit)
  | prepareRecovery (adapterID : String) (input : RecoveryLocatorInput) :
      Host (Except String (Option RecoveryLocator))
  | executeHandler (request : Request) (descriptor : ResolvedDescriptor)
      (externalToken : String) : Host HandlerReply
  | sign (binding : Binding) : Host (Except String RawMessage)

/-- The answers of a host whose generators of tokens and identifiers work. -/
def Host.Answered : {Reply : Type} → Host Reply → Reply → Prop
  | _, .generateLeaseToken, reply | _, .generateExecutionID, reply => ∃ text, reply = .ok text
  | _, _, _ => True

inductive Operation : Type → Type 1 where
  | sql {Reply : Type} (epoch : Int) (transaction : Transaction Reply) :
      Operation (Except String Reply)
  | host {Reply : Type} (request : Host Reply) : Operation Reply

structure World where
  database : Database
  now : Int

def World.find (world : World) (executionID : String) : Option Row :=
  world.database.find executionID

def World.commit {Reply : Type} (world : World) (epoch : Int) (transaction : Transaction Reply) :
    World :=
  { world with database := (transaction.exec epoch world.now world.database).2 }

variable {Reply : Type} {epoch : Int} {transaction : Transaction Reply}
  {operation : Operation Reply}

theorem World.commit_eq {world : World}
    (same : (transaction.exec epoch world.now world.database).2 = world.database) :
    world.commit epoch transaction = world := by
  unfold World.commit
  rw [same]

/-- One atomic change of the world: the clock advances or some handle's transaction commits. -/
inductive World.Step : World → World → Prop where
  | tick {world : World} {later : Int} (forward : world.now ≤ later) :
      Step world { world with now := later }
  | commit {world : World} {Reply : Type} (epoch : Int) (transaction : Transaction Reply) :
      Step world (world.commit epoch transaction)

abbrev World.Evolves : World → World → Prop := Relation.ReflTransGen World.Step

/-- What a program's log records: its own crossings of the dispatch boundary and its own handler
invocations. -/
inductive Mark where
  | crossed (executionID : String)
  | invoked (request : Request) (descriptor : ResolvedDescriptor)

def Operation.marks : {Reply : Type} → Operation Reply → Reply → List Mark
  | _, .sql _ (.apply (.markInFlight lease _ _)), .ok true => [.crossed lease.executionID]
  | _, .host (.executeHandler request descriptor _), _ => [.invoked request descriptor]
  | _, _, _ => []

@[simp] theorem Operation.marks_error (epoch : Int) (transaction : Transaction Reply)
    (text : String) : (Operation.sql epoch transaction).marks (.error text) = [] := by
  cases transaction <;> try rfl
  rename_i mutation
  cases mutation <;> rfl

/-- Operations that neither cross the dispatch boundary, nor write a terminal state, nor call the
handler. -/
def Operation.routine : {Reply : Type} → Operation Reply → Bool
  | _, .sql _ (.apply (.markInFlight ..)) | _, .sql _ (.apply (.finalize ..))
  | _, .sql _ (.apply (.resolveRecovery ..)) | _, .host (.executeHandler ..) => false
  | _, _ => true

theorem Operation.marks_routine (reply : Reply)
    (routine : operation.routine = true) : operation.marks reply = [] := by
  cases operation with
  | sql epoch transaction =>
    cases transaction with
    | apply mutation => cases mutation <;> first | rfl | cases routine
    | _ => rfl
  | host request => cases request <;> first | rfl | cases routine

/-- How a transaction may be reported.  With `faults` it may also be reported as failed, whether
it took effect or not. -/
inductive Reports (faults : Bool) {Reply : Type} (epoch : Int) (transaction : Transaction Reply)
    (world : World) : Except String Reply → World → Prop where
  | committed :
      Reports faults epoch transaction world
        (.ok (transaction.exec epoch world.now world.database).1) (world.commit epoch transaction)
  | refused (faulty : faults = true) (error : String) :
      Reports faults epoch transaction world (.error error) world
  | unacknowledged (faulty : faults = true) (error : String) :
      Reports faults epoch transaction world (.error error) (world.commit epoch transaction)

def Serves (faults : Bool) : {Reply : Type} → Operation Reply → World → Reply → World → Prop
  | _, .sql epoch transaction, before, reply, after =>
    Reports faults epoch transaction before reply after
  | _, .host request, before, reply, after =>
    after = before ∧ (faults = false → request.Answered reply)

variable {before after : World} {faults : Bool} {reply : Reply}

theorem Serves.step
    (served : Serves faults operation before reply after) : after = before ∨ before.Step after := by
  cases operation with
  | sql epoch transaction =>
    cases served with
    | committed => exact .inr (.commit _ _)
    | refused faulty error => exact .inl rfl
    | unacknowledged faulty error => exact .inr (.commit _ _)
  | host request => exact .inl served.1

theorem Serves.evolves
    (served : Serves faults operation before reply after) : before.Evolves after := by
  rcases served.step with rfl | step
  · exact .refl
  · exact .single step

/-- What may happen to the world between two operations of a program. -/
structure Environment where
  rely : World → World → Prop
  refl : ∀ world, rely world world
  trans : ∀ {first second third}, rely first second → rely second third → rely first third
  evolves : ∀ {before after}, rely before after → World.Evolves before after

def Environment.unrestricted : Environment where
  rely := World.Evolves
  refl _ := .refl
  trans := Relation.ReflTransGen.trans
  evolves moved := moved

def systemIn (environment : Environment) (faults : Bool) : Machine Operation World Mark where
  serve operation before reply after marks :=
    Serves faults operation before reply after ∧ marks = operation.marks reply
  rely := environment.rely
  rely_refl := environment.refl
  rely_trans := environment.trans

/-- The machine of the whole system. -/
abbrev system (faults : Bool) : Machine Operation World Mark := systemIn .unrestricted faults

end Crabedence
