import Crabedence.Contract
import Crabedence.Relational.Table

/-!
# The embedded database

The tables of `internal/idempotency/sqlite.go`: `execution_requests` with its primary key and its
unique `(principal_id, capability_id, idempotency_key)` index, the single `cluster_meta` row, and
the two append-only forensic ledgers.  A nullable column is an `Option`.  The columns of a request
are grouped by what writes them; `Row.scan` lists every column under the name of the `Record` field
it is scanned into.
-/

namespace Crabedence

open Relational

/-- The columns an `INSERT` fixes for good. -/
structure Identity where
  executionID : String
  idempotencyKey : String
  principalID : String
  capabilityID : String
  requestDigest : String
  grantID : Option String
  authorityGeneration : Int
  authorityDigest : Option String
  executionClass : String
  createdAt : Int
  admittedEpoch : Int

/-- `lease_owner`, `lease_token`, `lease_started_at`, `lease_expires_at`, `lease_generation`. -/
structure LeaseColumns where
  owner : Option String
  token : Option String
  startedAt : Option Int
  expiresAt : Option Int
  generation : Int

/-- The `provider_*` columns. -/
structure ProviderColumns where
  id : Option String
  runID : Option String
  status : Option String
  result : Option RawMessage
  resultDigest : Option String
  receiptVersion : Int
  observedAt : Option Int
  evidenceDigest : Option String

/-- `receipt_version`, `evidence_receipt` and the `terminal_*` columns, which only a terminal
write assigns. -/
structure TerminalColumns where
  receiptVersion : Int
  resultDigest : Option String
  evidenceDigest : Option String
  receiptDigest : Option String
  evidenceReceipt : Option RawMessage

/-- The reconciliation work-distribution columns. -/
structure ReconcileColumns where
  owner : Option String
  leaseExpiresAt : Option Int
  attempt : Int
  nextAt : Option Int
  lastError : Option String

structure Row where
  identity : Identity
  state : State
  result : Option RawMessage
  evidenceDigest : Option String
  lease : LeaseColumns
  provider : ProviderColumns
  terminal : TerminalColumns
  recoveryLocator : Option RawMessage
  reconcile : ReconcileColumns
  enteredUnknownAt : Option Int
  attempt : Int
  version : Int
  updatedAt : Int

/-- The columns of the unique index. -/
structure RequestKey where
  principal : String
  capability : String
  key : String
  deriving DecidableEq, Repr

def Row.executionID (row : Row) : String := row.identity.executionID

def Row.requestKey (row : Row) : RequestKey where
  principal := row.identity.principalID
  capability := row.identity.capabilityID
  key := row.identity.idempotencyKey

/-- `scanSQLiteRecords` on one row of `selectColumns`. -/
def Row.scan (row : Row) : Record where
  executionID := row.identity.executionID
  idempotencyKey := row.identity.idempotencyKey
  principalID := row.identity.principalID
  capabilityID := row.identity.capabilityID
  requestDigest := row.identity.requestDigest
  grantID := row.identity.grantID.getD ""
  authorityGeneration := row.identity.authorityGeneration
  authorityDigest := row.identity.authorityDigest.getD ""
  executionClass := row.identity.executionClass
  state := row.state
  result := row.result.getD []
  evidenceDigest := row.evidenceDigest.getD ""
  receiptVersion := row.terminal.receiptVersion
  leaseOwner := row.lease.owner.getD ""
  leaseToken := row.lease.token.getD ""
  leaseStartedAt := row.lease.startedAt
  leaseExpiresAt := row.lease.expiresAt
  leaseGeneration := row.lease.generation
  providerID := row.provider.id.getD ""
  providerRunID := row.provider.runID.getD ""
  providerStatus := row.provider.status.getD ""
  providerResult := row.provider.result.getD []
  providerResultDigest := row.provider.resultDigest.getD ""
  providerReceiptVersion := row.provider.receiptVersion
  providerObservedAt := row.provider.observedAt
  providerEvidenceDigest := row.provider.evidenceDigest.getD ""
  terminalResultDigest := row.terminal.resultDigest.getD ""
  terminalEvidenceDigest := row.terminal.evidenceDigest.getD ""
  terminalReceiptDigest := row.terminal.receiptDigest.getD ""
  evidenceReceipt := row.terminal.evidenceReceipt.getD []
  recoveryLocator := row.recoveryLocator.getD []
  attempt := row.attempt
  version := row.version
  createdAt := row.identity.createdAt
  updatedAt := row.updatedAt
  reconcileOwner := row.reconcile.owner.getD ""
  reconcileLeaseExpiresAt := row.reconcile.leaseExpiresAt
  reconcileAttempt := row.reconcile.attempt
  nextReconcileAt := row.reconcile.nextAt
  lastReconcileError := row.reconcile.lastError.getD ""
  enteredUnknownAt := row.enteredUnknownAt
  admittedEpoch := row.identity.admittedEpoch

inductive EventType where
  | acquired
  | leaseAcquired
  | leaseRenewed
  | executionBegun
  | dispatchStarted
  | providerObserved
  | enteredUnknown
  | reconciliationClaimed
  | reconciliationObserved
  | reconciliationSuspended
  | claimReleased
  | claimRenewed
  | terminalResolved
  | abandonedPreDispatch
  | leaseLost
  | claimLost
  deriving DecidableEq, Repr

/-- The events `noteContentionEvent` is called with. -/
def EventType.isContention : EventType → Bool
  | leaseLost | claimLost => true
  | _ => false

/-- A row of `effect_events`. -/
structure EffectEvent where
  executionID : String
  sequence : Nat
  recordVersion : Int
  eventType : EventType
  actor : Option String
  previousState : Option State
  newState : Option State
  resultDigest : Option String
  evidenceDigest : Option String
  claimGeneration : Option Int
  occurredAt : Int
  metadata : Option String
  deriving DecidableEq, Repr

inductive ObservationKind where
  | dispatch
  | recovery
  | reconciliation
  deriving DecidableEq, Repr

/-- A row of `effect_provider_observations`. -/
structure ObservationRecord where
  executionID : String
  sequence : Nat
  recordVersion : Int
  kind : ObservationKind
  providerID : Option String
  providerRunID : Option String
  providerStatus : Option String
  resultBytes : Option RawMessage
  resultSHA256 : Option String
  resultCanonicalDigest : Option String
  evidenceSHA256 : Option String
  receiptVersion : Int
  observedAt : Int
  deriving DecidableEq, Repr

structure ClusterMeta where
  epoch : Int
  recoveryRequired : Bool
  recoveryCompletedAt : Option Int
  recoveryResolution : Option String
  advancedAt : Option Int
  advanceReason : Option String
  deriving DecidableEq, Repr

abbrev Requests := Table Row String RequestKey Row.executionID Row.requestKey

structure Database where
  cluster : ClusterMeta
  requests : Requests
  events : List EffectEvent
  observations : List ObservationRecord

def Database.initial (now : Int) : Database where
  cluster := {
    epoch := 1
    recoveryRequired := false
    recoveryCompletedAt := none
    recoveryResolution := none
    advancedAt := some now
    advanceReason := some "initial epoch" }
  requests := Table.empty
  events := []
  observations := []

def Database.find (database : Database) (executionID : String) : Option Row :=
  database.requests.find executionID

def Database.findByKey (database : Database) (key : RequestKey) : Option Row :=
  database.requests.findUnique key

end Crabedence
