import Crabedence.Store.Schema

/-!
# The guarded UPDATE statements

Every single-row `UPDATE execution_requests` of the embedded store, as a guard (its `WHERE` clause
without the execution id and the epoch guard, which all of them share) and an assignment (its
`SET` clause), together with the ledger rows the same transaction appends when the update hit a
row.  Assignments that several statements write in the same words are one function on rows.
-/

namespace Crabedence

open Relational

/-- SQL parameters bound through `nullableString`. -/
def nullableString (value : String) : Option String := nullIf value ""

def nullableBytes (value : RawMessage) : Option RawMessage := nullIf value []

theorem nullableString_some {value : String} (supplied : value ≠ "") :
    nullableString value = some value :=
  if_neg supplied

theorem nullableBytes_some {value : RawMessage} (supplied : value ≠ []) :
    nullableBytes value = some value :=
  if_neg supplied

theorem nullableString_eq_some {value stored : String} (same : nullableString value = some stored) :
    value = stored := by
  unfold nullableString nullIf at same
  split_ifs at same
  exact Option.some.inj same

theorem nullableString_eq_none {value : String} : nullableString value = none ↔ value = "" := by
  unfold nullableString nullIf
  split_ifs with empty <;> simp [empty]

/-- What a lease holder presents with a fenced call. -/
structure Lease where
  executionID : String
  token : String
  generation : Int
  deriving DecidableEq, Repr

/-- A canonical observation with the bytes it was made from and their SHA-256. -/
structure ObservationMaterial where
  observation : ProviderObservation
  rawResult : RawMessage
  rawSHA256 : String
  deriving DecidableEq, Repr

/-- What a terminal write stores: the receipt with its identity fields already taken from the row,
the receipt's digest and the SHA-256 of the asserted result bytes. -/
structure TerminalWrite where
  receipt : TerminalReceipt
  receiptDigest : String
  resultSHA256 : String
  deriving DecidableEq, Repr

namespace Row

variable (now : Int) (row : Row)

def stamp : Row :=
  { row with version := row.version + 1, updatedAt := now }

def clearLease : Row :=
  { row with lease := { row.lease with
      owner := none, token := none, startedAt := none, expiresAt := none } }

def clearClaim : Row :=
  { row with reconcile := { row.reconcile with owner := none, leaseExpiresAt := none } }

def grantLease (duration : Int) (owner token : String) (row : Row) : Row :=
  { row with lease := {
      owner := some owner
      token := some token
      startedAt := some now
      expiresAt := some (now + duration)
      generation := row.lease.generation + 1 } }

/-- The common part of the three statements that write `UNKNOWN`. -/
def enterUnknown : Row :=
  { (row.clearLease.clearClaim.stamp now) with state := .unknown, enteredUnknownAt := some now }

/-- The `COALESCE` assignments of a provider observation. -/
def observe (now : Int) (observation : ProviderObservation) (row : Row) : Row :=
  { row with
    result := coalesce (nullableBytes observation.result) row.result
    evidenceDigest := coalesce (nullableString observation.evidenceDigest) row.evidenceDigest
    provider := {
      id := coalesce (nullableString observation.providerID) row.provider.id
      runID := coalesce (nullableString observation.providerRunID) row.provider.runID
      status := coalesce (nullableString observation.providerStatus) row.provider.status
      result := coalesce (nullableBytes observation.result) row.provider.result
      resultDigest := coalesce (nullableString observation.resultDigest) row.provider.resultDigest
      receiptVersion := (nullIf observation.receiptVersion 0).getD row.provider.receiptVersion
      observedAt := some now
      evidenceDigest :=
        coalesce (nullableString observation.evidenceDigest) row.provider.evidenceDigest }
    updatedAt := now }

def admits (observation : ProviderObservation) (row : Row) : Bool :=
  fits row.provider.id (nullableString observation.providerID) &&
  fits row.provider.runID (nullableString observation.providerRunID) &&
  fits row.provider.status (nullableString observation.providerStatus) &&
  fits row.result (nullableBytes observation.result) &&
  fits row.provider.result (nullableBytes observation.result) &&
  fits row.provider.resultDigest (nullableString observation.resultDigest) &&
  fits (nullIf row.provider.receiptVersion 0) (nullIf observation.receiptVersion 0) &&
  fits row.evidenceDigest (nullableString observation.evidenceDigest) &&
  fits row.provider.evidenceDigest (nullableString observation.evidenceDigest)

def admitsProvider (providerID providerRunID : String) (row : Row) : Bool :=
  fits row.provider.id (nullableString providerID) &&
  fits row.provider.runID (nullableString providerRunID)

/-- The assignments the two terminal writes share. -/
def terminate (write : TerminalWrite) (row : Row) : Row :=
  { row with
    state := write.receipt.terminalStatus
    provider := { row.provider with
      id := coalesce (nullableString write.receipt.providerID) row.provider.id
      runID := coalesce (nullableString write.receipt.providerRunID) row.provider.runID }
    terminal := {
      receiptVersion := write.receipt.receiptVersion
      resultDigest := nullableString write.resultSHA256
      evidenceDigest := nullableString write.receipt.evidenceDigest
      receiptDigest := some write.receiptDigest
      evidenceReceipt := nullableBytes write.receipt.evidenceReceipt }
    recoveryLocator := none }

/-- `lease_token = ? AND lease_generation = ?`. -/
def names (lease : Lease) (row : Row) : Bool :=
  decide (row.lease.token = some lease.token) && decide (row.lease.generation = lease.generation)

/-- `lease_expires_at > now`. -/
def unexpired : Bool :=
  row.lease.expiresAt.any fun expiry => decide (now < expiry)

/-- `lease_expires_at < now`. -/
def expired : Bool :=
  row.lease.expiresAt.any fun expiry => decide (expiry < now)

def claimLapsed : Bool :=
  row.reconcile.leaseExpiresAt.any fun expiry => decide (expiry < now)

end Row

/-- `effectEvent`; an absent state is the empty string of the source. -/
structure EventPayload where
  eventType : EventType
  actor : String := ""
  previousState : Option State := none
  newState : Option State := none
  resultDigest : String := ""
  evidenceDigest : String := ""
  claimGeneration : Int := 0
  metadata : String := ""

inductive LedgerEntry where
  | event (payload : EventPayload)
  | observation (kind : ObservationKind) (material : ObservationMaterial)

/-- The single-row updates, under the names of the functions that issue them.  Where the function
checks the lifecycle graph before it opens the transaction, the statement carries the outcome of
that check, so an illegal transition cannot be sent.  `leaseFencedTransition` has one caller and
appears under its name. -/
inductive Mutation where
  | acquireUnleased (executionID : String) (version duration : Int) (owner token : String)
      (generation : Int)
  | reclaimExpiredLease (executionID : String) (version duration : Int) (owner token : String)
      (previous : State) (generation : Int)
  | markInFlightExpiredAsUnknown (executionID : String) (version : Int) (actor : String)
  | beginExecution (lease : Lease)
  | markInFlight (lease : Lease) (providerID : String) (recoveryLocator : RawMessage)
  | renewLease (lease : Lease) (duration : Int)
  | abandonPreDispatch (lease : Lease)
  | finalize (lease : Lease) (expectedState : State) (version : Int) (write : TerminalWrite)
      (final : write.receipt.terminalStatus.isDurablyFinal)
      (legal : isLegalTransition expectedState write.receipt.terminalStatus)
  | enterRecovery (executionID : String) (expectedState : State) (version : Int)
      (legal : isLegalTransition expectedState .unknown)
  | enterRecoveryWithObservation (executionID : String) (expectedState : State) (version : Int)
      (material : ObservationMaterial) (legal : isLegalTransition expectedState .unknown)
  | recordProviderObservation (lease : Lease) (material : ObservationMaterial)
  | recoverExpiredPreDispatch (executionID : String) (version : Int)
  | touchUnknown (executionID : String) (version : Int)
  | resolveRecovery (executionID : String) (version : Int) (write : TerminalWrite)
      (material : ObservationMaterial)
      (legal : isLegalTransition .unknown write.receipt.terminalStatus)
  | releaseReconcileClaim (executionID : String) (version backoff : Int) (lastError : String)
  | suspendReconciliation (executionID : String) (version : Int) (reason : String)
  | renewReconcileClaim (executionID : String) (version duration : Int)

namespace Mutation

def target : Mutation → String
  | acquireUnleased executionID .. | reclaimExpiredLease executionID ..
  | markInFlightExpiredAsUnknown executionID .. | enterRecovery executionID ..
  | enterRecoveryWithObservation executionID .. | recoverExpiredPreDispatch executionID _
  | touchUnknown executionID _ | resolveRecovery executionID ..
  | releaseReconcileClaim executionID .. | suspendReconciliation executionID ..
  | renewReconcileClaim executionID .. => executionID
  | beginExecution lease | markInFlight lease .. | renewLease lease _
  | abandonPreDispatch lease | finalize lease .. | recordProviderObservation lease _ =>
    lease.executionID

def guard (now : Int) (cluster : ClusterMeta) (row : Row) : Mutation → Bool
  | acquireUnleased _ version _ _ _ _ =>
    decide (row.state = .prepared) && row.lease.token.isNone && row.lease.expiresAt.isNone &&
      decide (row.version = version)
  | reclaimExpiredLease _ version _ _ _ _ _ =>
    decide (row.version = version) && row.state.isPreDispatch && row.expired now &&
      !cluster.recoveryRequired
  | markInFlightExpiredAsUnknown _ version _ =>
    decide (row.version = version) && decide (row.state = .inFlight) && row.expired now
  | beginExecution lease =>
    decide (row.state = .prepared) && row.names lease && row.unexpired now
  | markInFlight lease _ _ =>
    decide (row.state = .executing) && row.names lease && row.unexpired now
  | renewLease lease _ =>
    row.names lease && row.unexpired now &&
      decide (row.state ∉ [.committed, .failed, .denied, .unknown])
  | abandonPreDispatch lease =>
    row.state.isPreDispatch && row.names lease && row.unexpired now
  | finalize lease expectedState version write _ _ =>
    decide (row.state = expectedState) && row.names lease && row.unexpired now &&
      decide (row.version = version) &&
      row.admitsProvider write.receipt.providerID write.receipt.providerRunID
  | enterRecovery _ expectedState version _ =>
    decide (row.state = expectedState) && decide (row.version = version)
  | enterRecoveryWithObservation _ expectedState version material _ =>
    decide (row.state = expectedState) && decide (row.version = version) &&
      row.admits material.observation
  | recordProviderObservation lease material =>
    ((decide (row.state = .inFlight) && decide (lease.token ≠ "") && row.names lease) ||
      decide (row.state = .unknown)) && row.admits material.observation
  | recoverExpiredPreDispatch _ version =>
    row.state.isPreDispatch && decide (row.version = version) && row.expired now
  | touchUnknown _ version =>
    decide (row.state = .unknown) && decide (row.version = version)
  | resolveRecovery _ version write _ _ =>
    decide (row.state = .unknown) && decide (row.version = version) &&
      row.admitsProvider write.receipt.providerID write.receipt.providerRunID
  | releaseReconcileClaim _ version _ _ => decide (row.version = version)
  | suspendReconciliation _ version _ =>
    decide (row.state = .unknown) && decide (row.version = version)
  | renewReconcileClaim _ version _ =>
    decide (row.state = .unknown) && decide (row.version = version) &&
      row.reconcile.leaseExpiresAt.any fun expiry => decide (now < expiry)

def suspensionHorizon : Int := msDuration (100 * 365 * 24 * 60 * minute)

def assign (now : Int) (row : Row) : Mutation → Row
  | acquireUnleased _ _ duration owner token _ =>
    (row.grantLease now duration owner token).stamp now
  | reclaimExpiredLease _ _ duration owner token _ _ =>
    { (row.grantLease now duration owner token).stamp now with
      attempt := row.attempt + 1, state := .prepared }
  | markInFlightExpiredAsUnknown _ _ _ | enterRecovery _ _ _ _ => row.enterUnknown now
  | beginExecution _ => { row.stamp now with state := .executing }
  | markInFlight _ providerID recoveryLocator =>
    { row.stamp now with
      state := .inFlight
      provider := { row.provider with id := nullableString providerID }
      recoveryLocator := nullableBytes recoveryLocator }
  | renewLease _ duration =>
    { row with
      lease := { row.lease with
        expiresAt := row.lease.expiresAt.map fun expiry => max expiry (now + duration) }
      updatedAt := now }
  | abandonPreDispatch _ => { row.clearLease.stamp now with state := .prepared }
  | finalize _ _ _ write _ _ =>
    { (row.clearLease.stamp now).terminate write with
      result := nullableBytes write.receipt.canonicalResult
      evidenceDigest := nullableString write.receipt.evidenceDigest }
  | enterRecoveryWithObservation _ _ _ material _ =>
    (row.enterUnknown now).observe now material.observation
  | recordProviderObservation _ material => row.observe now material.observation
  | recoverExpiredPreDispatch _ _ =>
    { row.clearLease.stamp now with
      state := .prepared
      reconcile := { row.reconcile with owner := none, leaseExpiresAt := none, nextAt := none } }
  | touchUnknown _ _ => { row with updatedAt := now }
  | resolveRecovery _ _ write _ _ =>
    { (row.stamp now).terminate write with
      result := coalesce (nullableBytes write.receipt.canonicalResult) row.result
      evidenceDigest := coalesce (nullableString write.receipt.evidenceDigest) row.evidenceDigest
      reconcile := { row.reconcile with
        owner := none, leaseExpiresAt := none, nextAt := none, lastError := none } }
  | releaseReconcileClaim _ _ backoff lastError =>
    { row.stamp now with
      reconcile := { row.reconcile with
        owner := none
        leaseExpiresAt := none
        nextAt := if row.state = .unknown ∧ 0 < backoff then some (now + backoff) else none
        lastError := nullableString lastError } }
  | suspendReconciliation _ _ reason =>
    { row.stamp now with
      reconcile := { row.reconcile with
        owner := none
        leaseExpiresAt := none
        nextAt := some (now + suspensionHorizon)
        lastError := nullableString reason } }
  | renewReconcileClaim _ _ duration =>
    { row with
      reconcile := { row.reconcile with
        leaseExpiresAt :=
          row.reconcile.leaseExpiresAt.map fun expiry => max expiry (now + duration) }
      updatedAt := now }

@[simp] theorem assign_identity (now : Int) (row : Row) (mutation : Mutation) :
    (mutation.assign now row).identity = row.identity := by
  cases mutation <;> rfl

theorem assign_keys (now : Int) (mutation : Mutation) (row : Row) :
    (mutation.assign now row).executionID = row.executionID ∧
      (mutation.assign now row).requestKey = row.requestKey := by
  simp [Row.executionID, Row.requestKey]

/-- The ledger rows a hit appends; `row` is the row after the update. -/
def ledger (row : Row) : Mutation → List LedgerEntry
  | acquireUnleased _ _ _ owner _ generation =>
    [.event { eventType := .leaseAcquired, actor := owner, previousState := some .prepared,
              newState := some .prepared, claimGeneration := generation }]
  | reclaimExpiredLease _ _ _ owner _ previous generation =>
    [.event { eventType := .leaseAcquired, actor := owner, previousState := some previous,
              newState := some .prepared, claimGeneration := generation,
              metadata := "expired lease reclaimed" }]
  | markInFlightExpiredAsUnknown _ _ actor =>
    [.event { eventType := .enteredUnknown, actor := actor, previousState := some .inFlight,
              newState := some .unknown, metadata := "lease expired in flight" }]
  | beginExecution lease =>
    [.event { eventType := .executionBegun, previousState := some .prepared,
              newState := some .executing, claimGeneration := lease.generation }]
  | markInFlight lease _ _ =>
    [.event { eventType := .dispatchStarted, previousState := some .executing,
              newState := some .inFlight, claimGeneration := lease.generation }]
  | renewLease lease _ =>
    [.event { eventType := .leaseRenewed, claimGeneration := lease.generation }]
  | abandonPreDispatch lease =>
    [.event { eventType := .abandonedPreDispatch, newState := some .prepared,
              claimGeneration := lease.generation }]
  | finalize lease expectedState _ write _ _ =>
    [.event { eventType := .terminalResolved, previousState := some expectedState,
              newState := some write.receipt.terminalStatus,
              resultDigest := write.resultSHA256,
              evidenceDigest := write.receipt.evidenceDigest,
              claimGeneration := lease.generation }]
  | enterRecovery _ expectedState _ _ =>
    [.event { eventType := .enteredUnknown, previousState := some expectedState,
              newState := some .unknown }]
  | enterRecoveryWithObservation _ expectedState _ material _ =>
    [.observation .recovery material,
     .event { eventType := .enteredUnknown, previousState := some expectedState,
              newState := some .unknown, resultDigest := material.observation.resultDigest,
              evidenceDigest := material.observation.evidenceDigest }]
  | recordProviderObservation lease material =>
    let reconciling := decide (row.state = .unknown)
    [.observation (if reconciling then .reconciliation else .dispatch) material,
     .event { eventType := if reconciling then .reconciliationObserved else .providerObserved,
              resultDigest := material.observation.resultDigest,
              evidenceDigest := material.observation.evidenceDigest,
              claimGeneration := lease.generation }]
  | recoverExpiredPreDispatch _ _ =>
    [.event { eventType := .leaseLost, newState := some .prepared,
              metadata := "expired pre-dispatch lease recovered" }]
  | touchUnknown _ _ => []
  | resolveRecovery _ _ write material _ =>
    let resolved := .event {
      eventType := .terminalResolved, previousState := some .unknown,
      newState := some write.receipt.terminalStatus, resultDigest := write.resultSHA256,
      evidenceDigest := write.receipt.evidenceDigest }
    -- the resolver's result is ledgered when it carries provider material
    if write.receipt.providerID ≠ "" ∨ write.receipt.providerRunID ≠ "" ∨
        0 < write.receipt.canonicalResult.length ∨ write.receipt.evidenceDigest ≠ "" then
      [.observation .reconciliation material, resolved]
    else [resolved]
  | releaseReconcileClaim _ _ _ lastError =>
    [.event { eventType := .claimReleased, metadata := lastError }]
  | suspendReconciliation _ _ reason =>
    [.event { eventType := .reconciliationSuspended, metadata := reason }]
  | renewReconcileClaim _ _ _ => [.event { eventType := .claimRenewed }]

end Mutation

end Crabedence
