import Mathlib.Order.Basic

/-!
# Durable execution contract vocabulary

The types of `internal/idempotency/contract.go` and the `Record` and `ProviderObservation` types of
`store.go`: lifecycle states, lease policy, typed store errors, acquisition results, terminal
receipts and recovery decisions.  Raw JSON is a list of bytes and the empty list is Go's empty or
nil slice.  Durations are nanoseconds, database times are Unix milliseconds.
-/

namespace Crabedence

abbrev RawMessage := List UInt8

/-- Go strings are byte strings. -/
abbrev GoString := List UInt8

abbrev Duration := Int

inductive State where
  | prepared
  | executing
  | inFlight
  | unknown
  | committed
  | failed
  | denied
  deriving DecidableEq, Repr

namespace State

def text : State → String
  | prepared => "PREPARED"
  | executing => "EXECUTING"
  | inFlight => "IN_FLIGHT"
  | unknown => "UNKNOWN"
  | committed => "COMMITTED"
  | failed => "FAILED"
  | denied => "DENIED"

def isDurablyFinal : State → Bool
  | committed | failed | denied => true
  | _ => false

def isPreDispatch : State → Bool
  | prepared | executing => true
  | _ => false

end State

def legalTransitions : State → List State
  | .prepared => [.executing]
  | .executing => [.inFlight, .prepared]
  | .inFlight => [.committed, .failed, .unknown]
  | .unknown => [.committed, .failed]
  | _ => []

def isLegalTransition (source target : State) : Bool :=
  if source.isDurablyFinal then false else decide (target ∈ legalTransitions source)

structure LeaseConfig where
  defaultDuration : Duration
  maxDuration : Duration
  renewalWindow : Duration
  deriving DecidableEq, Repr

def second : Duration := 1000000000

def minute : Duration := 60 * second

def defaultLeaseConfig : LeaseConfig where
  defaultDuration := 5 * minute
  maxDuration := 30 * minute
  renewalWindow := minute

/-- The sentinel values of `LeaseError`. -/
inductive LeaseError where
  | leaseLost
  | leaseExpired
  | leaseTokenMismatch
  | leaseGenerationMismatch
  | leaseStateConflict
  | leaseRecoveryRequired
  | leaseErrorInvalidDuration
  | providerObservationConflict
  | locatorTooLarge
  | locatorContainsSecret
  | resultTooLarge
  | evidenceReceiptTooLarge
  | observationDigestMismatch
  | clusterEpochMismatch
  | clusterRecoveryRequired
  deriving DecidableEq, Repr

def LeaseError.text : LeaseError → String
  | .leaseLost => "LEASE_LOST"
  | .leaseExpired => "LEASE_EXPIRED"
  | .leaseTokenMismatch => "LEASE_TOKEN_MISMATCH"
  | .leaseGenerationMismatch => "LEASE_GENERATION_MISMATCH"
  | .leaseStateConflict => "STATE_CONFLICT"
  | .leaseRecoveryRequired => "RECOVERY_REQUIRED"
  | .leaseErrorInvalidDuration => "INVALID_DURATION"
  | .providerObservationConflict => "PROVIDER_OBSERVATION_CONFLICT"
  | .locatorTooLarge => "RECOVERY_LOCATOR_TOO_LARGE"
  | .locatorContainsSecret => "RECOVERY_LOCATOR_CONTAINS_SECRET"
  | .resultTooLarge => "RESULT_TOO_LARGE"
  | .evidenceReceiptTooLarge => "EVIDENCE_RECEIPT_TOO_LARGE"
  | .observationDigestMismatch => "OBSERVATION_DIGEST_MISMATCH"
  | .clusterEpochMismatch => "CLUSTER_EPOCH_MISMATCH"
  | .clusterRecoveryRequired => "CLUSTER_RECOVERY_REQUIRED"

/-- An error value as the callers of the store can inspect it: a sentinel, possibly with the
detail of `fmt.Errorf("%w: detail", sentinel)`, the missing-row error of `database/sql`, any other
error of the driver, a plain message, or a message wrapped around another error. -/
inductive StoreError where
  | lease (kind : LeaseError) (detail : String)
  | noRows
  | driver (text : String)
  | message (text : String)
  | wrapped (context : String) (cause : StoreError)
  deriving DecidableEq, Repr

namespace StoreError

def sentinel (kind : LeaseError) : StoreError := .lease kind ""

/-- `errors.Is` against a lease sentinel. -/
def isLease (kind : LeaseError) : StoreError → Bool
  | .lease found _ => decide (found = kind)
  | .wrapped _ cause => cause.isLease kind
  | _ => false

def text : StoreError → String
  | .lease kind detail => if detail = "" then kind.text else kind.text ++ ": " ++ detail
  | .noRows => "sql: no rows in result set"
  | .driver reported => reported
  | .message written => written
  | .wrapped context cause => context ++ ": " ++ cause.text

end StoreError

def LeaseConfig.validate (config : LeaseConfig) (requested : Duration) : Except StoreError Unit :=
  if requested ≤ 0 then .error (.sentinel .leaseErrorInvalidDuration)
  else if 0 < config.maxDuration ∧ config.maxDuration < requested then
    .error (.sentinel .leaseErrorInvalidDuration)
  else .ok ()

/-- `msDuration`: whole milliseconds, rounded up, computed in 64-bit arithmetic. -/
def msDuration (duration : Duration) : Int :=
  if duration ≤ 0 then 0 else (Int.bmod (duration + 999999) 0x10000000000000000).tdiv 1000000

def maxRecoveryLocatorBytes : Nat := 8192

def maxResultBytes : Nat := 1024 * 1024

def maxEvidenceReceiptBytes : Nat := 64 * 1024

/-- The authority snapshot bound into an execution at admission. -/
structure AuthorityBinding where
  ref : String
  generation : Int
  digest : String
  deriving DecidableEq, Repr

/-- A stored execution record as callers read it: SQL `NULL` text is the empty string. -/
structure Record where
  executionID : String
  idempotencyKey : String
  principalID : String
  capabilityID : String
  requestDigest : String
  grantID : String
  authorityGeneration : Int
  authorityDigest : String
  executionClass : String
  state : State
  result : RawMessage
  evidenceDigest : String
  receiptVersion : Int
  leaseOwner : String
  leaseToken : String
  leaseStartedAt : Option Int
  leaseExpiresAt : Option Int
  leaseGeneration : Int
  providerID : String
  providerRunID : String
  providerStatus : String
  providerResult : RawMessage
  providerResultDigest : String
  providerReceiptVersion : Int
  providerObservedAt : Option Int
  providerEvidenceDigest : String
  terminalResultDigest : String
  terminalEvidenceDigest : String
  terminalReceiptDigest : String
  evidenceReceipt : RawMessage
  recoveryLocator : RawMessage
  attempt : Int
  version : Int
  createdAt : Int
  updatedAt : Int
  reconcileOwner : String
  reconcileLeaseExpiresAt : Option Int
  reconcileAttempt : Int
  nextReconcileAt : Option Int
  lastReconcileError : String
  enteredUnknownAt : Option Int
  admittedEpoch : Int
  deriving Repr

inductive AcquireResultKind where
  | leaseAcquired
  | leaseHeldByOther
  | leaseReclaimed
  | terminalReplay
  | recoveryRequired
  | idempotencyConflict
  deriving DecidableEq, Repr

structure AcquireResult where
  kind : AcquireResultKind
  state : State
  record : Record
  leaseToken : String
  generation : Int
  deriving Repr

/-- `AcquireResult.Acquired`: the caller holds the lease and may proceed to dispatch. -/
def AcquireResult.acquired (result : AcquireResult) : Bool :=
  decide (result.kind = .leaseAcquired) || decide (result.kind = .leaseReclaimed)

/-- The terminal record of an execution, over the types of its strings and of its status: text and a
declared state for the store, byte strings where its encoding is concerned.  The store assigns the
finalisation time itself, so the caller's `FinalizedAt` is never read and has no field here. -/
structure TerminalReceipt (S : Type := String) (T : Type := State) where
  executionID : S
  capability : S
  principal : S
  requestDigest : S
  terminalStatus : T
  canonicalResult : RawMessage
  providerID : S
  providerRunID : S
  evidenceDigest : S
  receiptVersion : Int
  evidenceReceipt : RawMessage
  deriving DecidableEq, Repr

inductive RecoveryDecision where
  | committed
  | failed
  | unknown
  | retryable
  | conflict
  | other (text : String)
  deriving DecidableEq, Repr

structure RecoveryResult where
  decision : RecoveryDecision
  result : RawMessage
  evidenceDigest : String
  receiptVersion : Int
  providerID : String
  providerRunID : String
  evidenceReceipt : RawMessage
  deriving DecidableEq, Repr

/-- The provider's response snapshot.  The observation time is always the database's. -/
structure ProviderObservation where
  providerID : String
  providerRunID : String
  providerStatus : String
  result : RawMessage
  resultDigest : String
  evidenceDigest : String
  receiptVersion : Int
  deriving DecidableEq, Repr

def providerIdentityContradicts (storedID suppliedID storedRunID suppliedRunID : String) : Bool :=
  (storedID ≠ "" && suppliedID ≠ "" && storedID ≠ suppliedID) ||
    (storedRunID ≠ "" && suppliedRunID ≠ "" && storedRunID ≠ suppliedRunID)

end Crabedence
