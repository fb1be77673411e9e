import Crabedence.Store.Terminal

/-!
# Reconciliation, listing and cluster epochs

The remaining methods of the embedded store, and `EffectStore`: the interface as a signature of
calls, with the embedded store as its implementation.
-/

namespace Crabedence

open Resumption

namespace SQLiteStore

variable (store : SQLiteStore) (executionID : String) (expectedVersion : Int)

def recoverExpiredPreDispatch : StoreM Unit := do
  if ← store.sql (.apply (.recoverExpiredPreDispatch executionID expectedVersion)) then return
  else
    store.checkEpoch
    throw (.lease .leaseStateConflict (execution executionID
      "recover expired pre-dispatch CAS failed (state/version/expiry mismatch)"))

def scrubStaleRecoveryLocators (olderThan : Duration) : StoreM Nat := do
  if olderThan ≤ 0 then throw (.message "locator retention must be positive")
  else
    store.checkEpoch
    store.sql (.scrubLocators (msDuration olderThan))

def claimBatch (kind : ClaimKind) (owner : String) (batchSize : Int) (claimDuration : Duration) :
    StoreM (List Record) := do
  let limit := if batchSize ≤ 0 then 100 else batchSize.toNat
  let duration := if claimDuration ≤ 0 then 5 * minute else claimDuration
  match ← store.sql (.claim kind owner (msDuration duration) limit) with
  | [] =>
    store.checkEpoch
    return []
  | records => return records

def claimUnknownBatch := store.claimBatch .unknown

def claimExpiredBatch := store.claimBatch .expired

def claimLost (metadata message : String) : StoreM Unit := do
  store.checkEpoch
  store.noteContentionEvent executionID .claimLost metadata
  throw (.lease .leaseStateConflict (execution executionID message))

def releaseReconcileClaim (backoffDuration : Duration) (lastError : String) : StoreM Unit := do
  if ← store.sql (.apply (.releaseReconcileClaim executionID expectedVersion
      (msDuration backoffDuration) lastError)) then return
  else
    store.claimLost executionID "release reconcile claim CAS failed"
      "release reconcile claim CAS failed (state/version mismatch)"

def suspendReconciliation (reason : String) :
    StoreM Unit := do
  if ← store.sql (.apply (.suspendReconciliation executionID expectedVersion reason)) then return
  else
    store.claimLost executionID "suspend reconciliation CAS failed"
      "suspend reconciliation CAS failed (state/version mismatch)"

def renewReconcileClaim (duration : Duration) :
    StoreM Unit := do
  if ← store.sql (.apply (.renewReconcileClaim executionID expectedVersion
      (msDuration duration))) then return
  else
    store.claimLost executionID "renew reconcile claim failed"
      "renew reconcile claim failed (expired or version mismatch)"

def listUnknown : StoreM (List Record) := store.sql (.listByStates [.unknown])

def listExpiredLeases : StoreM (List Record) := store.sql .listExpiredLeases

def listStuck : StoreM (List Record) := do
  let stuck ← store.listExpiredLeases
  let unknown ← store.listUnknown
  return stuck ++ unknown

def advanceClusterEpoch (expected : Int) (reason : String) : StoreM Int := do
  if ← store.sql (.advanceEpoch expected reason) then return expected + 1
  else
    let current ← store.sql .readEpoch
    throw (.lease .clusterEpochMismatch ("cluster epoch already at " ++ toString current ++
      " (expected " ++ toString expected ++ ")"))

def completeClusterRecovery (expected : Int) (resolution : String) : StoreM Unit := do
  if ← store.sql (.completeRecovery expected resolution) then return
  else
    let current ← store.sql .readEpoch
    throw (.lease .clusterEpochMismatch ("cluster epoch already at " ++ toString current ++
      " (expected " ++ toString expected ++ ") — cannot complete recovery for an older world"))

end SQLiteStore

/-- The calls of the `EffectStore` interface that reach the database. -/
inductive EffectStore : Type → Type where
  | acquireWithAuthority (key : RequestKey) (digest : String) (authority : AuthorityBinding)
      (executionClass : String) (leaseDuration : Duration) : EffectStore AcquireResult
  | beginExecution (lease : Lease) : EffectStore Unit
  | markInFlight (lease : Lease) (providerID : String) (recoveryLocator : RawMessage) :
      EffectStore Unit
  | renewLease (lease : Lease) (duration : Duration) : EffectStore Unit
  | abandonPreDispatch (lease : Lease) : EffectStore Unit
  | finalize (lease : Lease) (expectedState : State) (receipt : TerminalReceipt) :
      EffectStore Unit
  | recordProviderObservation (lease : Lease) (observation : ProviderObservation) :
      EffectStore Unit
  | enterRecovery (executionID : String) (expectedState : State) (expectedVersion : Int) :
      EffectStore Unit
  | enterRecoveryWithObservation (executionID : String) (expectedState : State)
      (expectedVersion : Int) (observation : ProviderObservation) : EffectStore Unit
  | resolveRecovery (executionID : String) (expectedVersion : Int) (result : RecoveryResult) :
      EffectStore Unit
  | recoverExpiredPreDispatch (executionID : String) (expectedVersion : Int) : EffectStore Unit
  | scrubStaleRecoveryLocators (olderThan : Duration) : EffectStore Nat
  | claimUnknownBatch (owner : String) (batchSize : Int) (claimDuration : Duration) :
      EffectStore (List Record)
  | claimExpiredBatch (owner : String) (batchSize : Int) (claimDuration : Duration) :
      EffectStore (List Record)
  | releaseReconcileClaim (executionID : String) (expectedVersion : Int)
      (backoffDuration : Duration) (lastError : String) : EffectStore Unit
  | suspendReconciliation (executionID : String) (expectedVersion : Int) (reason : String) :
      EffectStore Unit
  | renewReconcileClaim (executionID : String) (expectedVersion : Int) (duration : Duration) :
      EffectStore Unit
  | lookup (executionID : String) : EffectStore Record
  | lookupByKey (key : RequestKey) : EffectStore Record
  | listUnknown : EffectStore (List Record)
  | listExpiredLeases : EffectStore (List Record)
  | listStuck : EffectStore (List Record)
  | reconciliationBacklog : EffectStore (Nat × Option Int)
  | listEffectEvents (executionID : String) : EffectStore (List EffectEvent)
  | listProviderObservations (executionID : String) : EffectStore (List ObservationRecord)
  | advanceClusterEpoch (expected : Int) (reason : String) : EffectStore Int
  | clusterRecoveryRequired : EffectStore Bool
  | completeClusterRecovery (expected : Int) (resolution : String) : EffectStore Unit

/-- The embedded store as an implementation of the interface. -/
def SQLiteStore.serve (platform : Platform) (store : SQLiteStore) {Result : Type} :
    EffectStore Result → StoreM Result
  | .acquireWithAuthority key digest authority executionClass leaseDuration =>
    store.acquireWithAuthority key digest authority executionClass leaseDuration
  | .beginExecution lease => store.beginExecution lease
  | .markInFlight lease providerID recoveryLocator =>
    store.markInFlight platform lease providerID recoveryLocator
  | .renewLease lease duration => store.renewLease lease duration
  | .abandonPreDispatch lease => store.abandonPreDispatch lease
  | .finalize lease expectedState receipt => store.finalize platform lease expectedState receipt
  | .recordProviderObservation lease observation =>
    store.recordProviderObservation platform lease observation
  | .enterRecovery executionID expectedState expectedVersion =>
    store.enterRecovery executionID expectedState expectedVersion
  | .enterRecoveryWithObservation executionID expectedState expectedVersion observation =>
    store.enterRecoveryWithObservation platform executionID expectedState expectedVersion
      observation
  | .resolveRecovery executionID expectedVersion result =>
    store.resolveRecovery platform executionID expectedVersion result
  | .recoverExpiredPreDispatch executionID expectedVersion =>
    store.recoverExpiredPreDispatch executionID expectedVersion
  | .scrubStaleRecoveryLocators olderThan => store.scrubStaleRecoveryLocators olderThan
  | .claimUnknownBatch owner batchSize claimDuration =>
    store.claimUnknownBatch owner batchSize claimDuration
  | .claimExpiredBatch owner batchSize claimDuration =>
    store.claimExpiredBatch owner batchSize claimDuration
  | .releaseReconcileClaim executionID expectedVersion backoffDuration lastError =>
    store.releaseReconcileClaim executionID expectedVersion backoffDuration lastError
  | .suspendReconciliation executionID expectedVersion reason =>
    store.suspendReconciliation executionID expectedVersion reason
  | .renewReconcileClaim executionID expectedVersion duration =>
    store.renewReconcileClaim executionID expectedVersion duration
  | .lookup executionID => store.lookup executionID
  | .lookupByKey key => store.lookupByKey key
  | .listUnknown => store.listUnknown
  | .listExpiredLeases => store.listExpiredLeases
  | .listStuck => store.listStuck
  | .reconciliationBacklog => store.sql .reconciliationBacklog
  | .listEffectEvents executionID => store.sql (.listEffectEvents executionID)
  | .listProviderObservations executionID => store.sql (.listProviderObservations executionID)
  | .advanceClusterEpoch expected reason => store.advanceClusterEpoch expected reason
  | .clusterRecoveryRequired => store.sql .readRecoveryRequired
  | .completeClusterRecovery expected resolution =>
    store.completeClusterRecovery expected resolution

end Crabedence
