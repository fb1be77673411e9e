import Crabedence.Worker.Provisioning

/-!
# The lease repository

`DurableObjectLeaseRepository.transition`, for any operation on the reloaded record that keeps its id.
-/

namespace Crabedence.Worker.Provisioning

open Utf16 (Str str)

def LeaseState.text : LeaseState → Str
  | .provisioning => str "provisioning"
  | .active => str "active"
  | .failed => str "failed"
  | .released => str "released"
  | .expired => str "expired"

def legalLeaseTransitions : LeaseState → List LeaseState
  | .provisioning => [.active, .failed, .released, .expired]
  | .active => [.failed, .released, .expired]
  | .failed => [.active, .provisioning, .released]
  | .released => [.released]
  | .expired => [.released]

def isLegalLeaseTransition (source target : LeaseState) : Bool :=
  decide (source = target ∨ target ∈ legalLeaseTransitions source)

def leaseIncarnation (lease : LeaseRecord) : Str × Option Str × Option Str :=
  (lease.createdAt, lease.createAttemptID, lease.createAttemptGeneration)

def LeaseRecord.revision (lease : LeaseRecord) : ℤ := lease.storageRevision.getD 0

structure RepositoryOperation where
  apply : LeaseRecord → LeaseRecord
  keepsID : ∀ lease, (apply lease).id = lease.id

/-- The storage after the transition, or why it is refused. -/
def transition (storage : Storage) (expected : LeaseRecord) (operation : RepositoryOperation) :
    Except Str Storage :=
  let refused (reason : Str) : Except Str Storage := .error (str "lease " ++ expected.id ++ reason)
  let changed (what source target : Str) : Except Str Storage :=
    refused (what ++ source ++ str " to " ++ target)
  let number (revision : ℤ) : Str := Utf16.encode (Json.integerText revision)
  match storage.leases expected.id with
  | none => refused (str " is missing")
  | some current =>
    if leaseIncarnation current ≠ leaseIncarnation expected then
      refused (str " incarnation changed")
    else if current.state ≠ expected.state then
      changed (str " state changed from ") expected.state.text current.state.text
    else if current.revision ≠ expected.revision then
      changed (str " revision changed from ") (number expected.revision) (number current.revision)
    else
      let next := operation.apply current
      if isLegalLeaseTransition current.state next.state = false then
        changed (str " may not move from ") current.state.text next.state.text
      else
        .ok { storage with
          leases := Function.update storage.leases next.id
            (some { next with storageRevision := some (current.revision + 1) }) }

/-- A writer of leases: a transition of the repository, or a provisioning transaction. -/
inductive LeaseOp where
  | transition (expected : LeaseRecord) (operation : RepositoryOperation)
  | provisioning (op : Op)

def write (library : ProvisioningLibrary) (storage : Storage) : LeaseOp → Storage
  | .transition expected operation => (transition storage expected operation).toOption.getD storage
  | .provisioning op => perform library storage op

end Crabedence.Worker.Provisioning
