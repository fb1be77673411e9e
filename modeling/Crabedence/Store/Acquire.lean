import Crabedence.World

/-!
# Acquisition

`AcquireWithAuthority` of the embedded store and the functions it calls, as programs over
transactions.  A program may be interrupted between any two of its transactions, which is where
every race of the acquisition path lives.  Counters that only feed metrics are left out.
-/

namespace Crabedence

open Resumption

/-- A method of the store: a program that may fail with a store error. -/
abbrev StoreM := ExceptT StoreError (Program Operation)

namespace StoreM

def ofReply {Reply : Type} : Except String Reply → Except StoreError Reply
  | .ok reply => .ok reply
  | .error text => .error (.driver text)

def sql {Reply : Type} (epoch : Int) (transaction : Transaction Reply) : StoreM Reply :=
  ExceptT.mk (.issue (.sql epoch transaction) fun reply => .done (ofReply reply))

def host {Reply : Type} (request : Host Reply) : StoreM Reply :=
  ExceptT.mk (.issue (.host request) fun reply => .done (.ok reply))

def attempt {Result : Type} (method : StoreM Result) : StoreM (Except StoreError Result) :=
  ExceptT.mk (method.run.bind fun outcome => .done (.ok outcome))

end StoreM

/-- A store handle: the epoch it was admitted under and its configuration. -/
structure SQLiteStore where
  epoch : Int
  leaseConfig : LeaseConfig
  trustedSigners : List String
  verifier : Option
    (Record → TerminalReceipt → State → Except String (Option VerifiedEvidence))
  locatorRedactor : Option (RawMessage → Except String RawMessage)

namespace SQLiteStore

variable (store : SQLiteStore)

def sql {Reply : Type} (transaction : Transaction Reply) : StoreM Reply :=
  StoreM.sql store.epoch transaction

def checkEpoch : StoreM Unit := do
  let current ← store.sql .readEpoch
  if current ≠ store.epoch then
    throw (.lease .clusterEpochMismatch ("store admitted under epoch " ++ toString store.epoch ++
      ", cluster now at " ++ toString current ++ " — stale executor must restart"))

def checkRecoveryMode : StoreM Unit := do
  if ← store.sql .readRecoveryRequired then
    throw (.lease .clusterRecoveryRequired ("cluster is in post-restore recovery mode — " ++
      "new-effect admission closed until CompleteClusterRecovery"))

def lookup (executionID : String) : StoreM Record := do
  match ← store.sql (.lookup executionID) with
  | some record => return record
  | none => throw .noRows

variable (key : RequestKey) (record : Record)

def lookupByKey : StoreM Record := do
  match ← store.sql (.lookupByKey key) with
  | some record => return record
  | none => throw .noRows

/-- `acquireUnleased`; the result is the caller's record as the method updates it. -/
def acquireUnleased (newToken newOwner : String) (duration : Duration) :
    StoreM (Option Record) := do
  if ← store.sql (.apply (.acquireUnleased record.executionID record.version (msDuration duration)
      newOwner newToken (record.leaseGeneration + 1))) then
    return some { record with
      leaseOwner := newOwner
      leaseToken := newToken
      leaseGeneration := record.leaseGeneration + 1
      version := record.version + 1 }
  else
    store.checkEpoch
    return none

def reclaimExpiredLease (newToken newOwner : String) (duration : Duration) :
    StoreM (Option Record) := do
  if ← store.sql (.apply (.reclaimExpiredLease record.executionID record.version
      (msDuration duration) newOwner newToken record.state (record.leaseGeneration + 1))) then
    return some { record with
      leaseOwner := newOwner
      leaseToken := newToken
      leaseGeneration := record.leaseGeneration + 1
      attempt := record.attempt + 1
      version := record.version + 1
      state := .prepared }
  else
    store.checkEpoch
    store.checkRecoveryMode
    return none

def markInFlightExpiredAsUnknown (actor : String) : StoreM (Option Record) := do
  if ← store.sql (.apply (.markInFlightExpiredAsUnknown record.executionID record.version
      actor)) then
    return some { record with state := .unknown, version := record.version + 1 }
  else
    store.checkEpoch
    return none

def settled : Option AcquireResult :=
  if record.state.isDurablyFinal then
    some { kind := .terminalReplay, state := record.state, record, leaseToken := "",
           generation := 0 }
  else if record.state = .unknown then
    some { kind := .recoveryRequired, state := record.state, record, leaseToken := "",
           generation := 0 }
  else none

def heldByOther : AcquireResult :=
  { kind := .leaseHeldByOther, state := record.state, record, leaseToken := "", generation := 0 }

/-- The last stage of an acquisition: an unleased `PREPARED` row. -/
def acquirePrepared (leaseToken leaseOwner : String) (leaseDuration : Duration) (record : Record) :
    StoreM AcquireResult := do
  if record.state = .prepared ∧ record.leaseExpiresAt = none then
    match ← store.acquireUnleased record leaseToken leaseOwner leaseDuration with
    | some acquired =>
      return { kind := .leaseAcquired, state := .prepared, record := acquired, leaseToken,
               generation := acquired.leaseGeneration }
    | none =>
      let current ← store.lookupByKey key
      return (settled current).getD (heldByOther current)
  else return heldByOther record

/-- The middle stage: an `IN_FLIGHT` row whose lease may have expired. -/
def acquireInFlight (leaseToken leaseOwner : String) (leaseDuration : Duration) (record : Record) :
    StoreM AcquireResult := do
  if record.state = .inFlight ∧ record.leaseExpiresAt ≠ none then
    match ← store.markInFlightExpiredAsUnknown record leaseOwner with
    | some marked =>
      return { kind := .recoveryRequired, state := .unknown, record := marked,
               leaseToken := "", generation := 0 }
    | none =>
      let current ← store.lookupByKey key
      match settled current with
      | some result => return result
      | none => store.acquirePrepared key leaseToken leaseOwner leaseDuration current
  else store.acquirePrepared key leaseToken leaseOwner leaseDuration record

/-- The first stage: a leased pre-dispatch row whose lease may have expired. -/
def acquireLeased (leaseToken leaseOwner : String) (leaseDuration : Duration) (record : Record) :
    StoreM AcquireResult := do
  if (record.state = .prepared ∨ record.state = .executing) ∧ record.leaseExpiresAt ≠ none then
    match ← store.reclaimExpiredLease record leaseToken leaseOwner leaseDuration with
    | some reclaimed =>
      return { kind := .leaseReclaimed, state := .prepared, record := reclaimed, leaseToken,
               generation := reclaimed.leaseGeneration }
    | none =>
      let current ← store.lookupByKey key
      match settled current with
      | some result => return result
      | none => store.acquireInFlight key leaseToken leaseOwner leaseDuration current
  else store.acquireInFlight key leaseToken leaseOwner leaseDuration record

/-- The record a fresh insertion reports. -/
def freshRecord (request : NewRequest) (createdAt : Int) : Record where
  executionID := request.executionID
  idempotencyKey := request.key.key
  principalID := request.key.principal
  capabilityID := request.key.capability
  requestDigest := request.digest
  grantID := request.authority.ref
  authorityGeneration := request.authority.generation
  authorityDigest := request.authority.digest
  executionClass := request.executionClass
  state := .prepared
  result := []
  evidenceDigest := ""
  receiptVersion := 0
  leaseOwner := request.leaseOwner
  leaseToken := request.leaseToken
  leaseStartedAt := none
  leaseExpiresAt := none
  leaseGeneration := 1
  providerID := ""
  providerRunID := ""
  providerStatus := ""
  providerResult := []
  providerResultDigest := ""
  providerReceiptVersion := 0
  providerObservedAt := none
  providerEvidenceDigest := ""
  terminalResultDigest := ""
  terminalEvidenceDigest := ""
  terminalReceiptDigest := ""
  evidenceReceipt := []
  recoveryLocator := []
  attempt := 0
  version := 1
  createdAt := createdAt
  updatedAt := createdAt
  reconcileOwner := ""
  reconcileLeaseExpiresAt := none
  reconcileAttempt := 0
  nextReconcileAt := none
  lastReconcileError := ""
  enteredUnknownAt := none
  admittedEpoch := store.epoch

def acquireExisting (digest leaseToken leaseOwner : String) (leaseDuration : Duration)
    (record : Record) : StoreM AcquireResult :=
  if record.requestDigest ≠ digest then
    return { kind := .idempotencyConflict, state := record.state, record, leaseToken := "",
             generation := 0 }
  else
    match settled record with
    | some result => return result
    | none => store.acquireLeased key leaseToken leaseOwner leaseDuration record

/-- The acquisition once its identifiers are generated. -/
def insertOrAcquire (request : NewRequest) (leaseDuration : Duration) : StoreM AcquireResult := do
  match ← store.sql (.insert request) with
  | .inserted createdAt =>
    return { kind := .leaseAcquired, state := .prepared, leaseToken := request.leaseToken,
             generation := 1, record := store.freshRecord request createdAt }
  | .violation =>
    throw (.driver "UNIQUE constraint failed: execution_requests.execution_id")
  | .nothing =>
    match ← store.sql (.lookupByKey request.key) with
    | none =>
      -- no row: the insertion was fenced by the epoch or by recovery mode
      store.checkEpoch
      store.checkRecoveryMode
      throw (.lease .leaseStateConflict
        "acquire raced — key vanished between insert and lookup")
    | some record =>
      store.acquireExisting request.key request.digest request.leaseToken request.leaseOwner
        leaseDuration record

def acquireWithAuthority (digest : String) (authority : AuthorityBinding) (executionClass : String)
    (leaseDuration : Duration) : StoreM AcquireResult := do
  store.leaseConfig.validate leaseDuration
  match ← StoreM.host .generateLeaseToken with
  | .error reason => throw (.wrapped "failed to generate lease token" (.message reason))
  | .ok leaseToken =>
    let leaseOwner := "pid-" ++ toString (← StoreM.host .currentPID)
    match ← StoreM.host .generateExecutionID with
    | .error reason => throw (.wrapped "failed to generate execution ID" (.message reason))
    | .ok executionID =>
      store.insertOrAcquire {
        executionID, key, digest, authority, executionClass, leaseOwner, leaseToken,
        leaseDuration := msDuration leaseDuration } leaseDuration

end SQLiteStore

end Crabedence
