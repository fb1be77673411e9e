import Crabedence.Store.Statements
import Mathlib.Data.List.Sort

/-!
# Atomic transactions of the embedded store

One `Transaction` is what the store sends to SQLite between taking and releasing the write lock, or
one read.  SQLite runs write transactions one at a time, so a transaction is a function of the
database, of the database clock and of the epoch the issuing handle was admitted under.  Every
statement of one transaction reads the same clock value.
-/

namespace Crabedence

open Relational

namespace Row

def claim (now duration : Int) (owner : String) (row : Row) : Row :=
  { row.stamp now with
    reconcile := { row.reconcile with
      owner := some owner, leaseExpiresAt := some (now + duration) } }

def scrubLocator (row : Row) : Row := { row with recoveryLocator := none }

theorem scrubLocator_keys (row : Row) : row.scrubLocator.executionID = row.executionID ∧
      row.scrubLocator.requestKey = row.requestKey :=
  ⟨rfl, rfl⟩

end Row

/-- The two work-distribution claims. -/
inductive ClaimKind where
  | unknown
  | expired
  deriving DecidableEq, Repr

namespace ClaimKind

def eligible (now : Int) (row : Row) : ClaimKind → Bool
  | unknown =>
    decide (row.state = .unknown) &&
      (row.reconcile.owner.isNone || row.claimLapsed now) &&
      row.reconcile.nextAt.all fun next => decide (next ≤ now)
  | expired =>
    decide (row.state ∈ [.prepared, .executing, .inFlight]) && row.expired now &&
      (row.reconcile.owner.isNone || row.claimLapsed now)

def assign (now duration : Int) (owner : String) (row : Row) : ClaimKind → Row
  | unknown =>
    let claimed := row.claim now duration owner
    { claimed with reconcile := { claimed.reconcile with attempt := row.reconcile.attempt + 1 } }
  | expired => row.claim now duration owner

/-- The event appended for a claimed row; `row` is the row after the claim. -/
def event (owner : String) (row : Row) : ClaimKind → EventPayload
  | unknown => {
      eventType := .reconciliationClaimed, actor := owner, previousState := some .unknown,
      claimGeneration := row.reconcile.attempt }
  | expired => {
      eventType := .leaseLost, actor := owner, previousState := some row.state,
      claimGeneration := row.lease.generation, metadata := "lease expired; claimed for recovery" }

@[simp] theorem assign_identity (now duration : Int) (owner : String) (row : Row)
    (kind : ClaimKind) : (kind.assign now duration owner row).identity = row.identity := by
  cases kind <;> rfl

theorem assign_keys (now duration : Int) (owner : String) (kind : ClaimKind) (row : Row) :
    (kind.assign now duration owner row).executionID = row.executionID ∧
      (kind.assign now duration owner row).requestKey = row.requestKey := by
  simp [Row.executionID, Row.requestKey]

end ClaimKind

/-- The parameters of the `INSERT` of `AcquireWithAuthority`. -/
structure NewRequest where
  executionID : String
  key : RequestKey
  digest : String
  authority : AuthorityBinding
  executionClass : String
  leaseOwner : String
  leaseToken : String
  leaseDuration : Int
  deriving DecidableEq, Repr

def NewRequest.row (request : NewRequest) (epoch now : Int) : Row where
  identity := {
    executionID := request.executionID
    idempotencyKey := request.key.key
    principalID := request.key.principal
    capabilityID := request.key.capability
    requestDigest := request.digest
    grantID := nullableString request.authority.ref
    authorityGeneration := request.authority.generation
    authorityDigest := nullableString request.authority.digest
    executionClass := request.executionClass
    createdAt := now
    admittedEpoch := epoch }
  state := .prepared
  result := none
  evidenceDigest := none
  lease := {
    owner := some request.leaseOwner
    token := some request.leaseToken
    startedAt := some now
    expiresAt := some (now + request.leaseDuration)
    generation := 1 }
  provider := {
    id := none, runID := none, status := none, result := none, resultDigest := none
    receiptVersion := 0, observedAt := none, evidenceDigest := none }
  terminal := {
    receiptVersion := 0, resultDigest := none, evidenceDigest := none, receiptDigest := none
    evidenceReceipt := none }
  recoveryLocator := none
  reconcile := { owner := none, leaseExpiresAt := none, attempt := 0, nextAt := none
                 lastError := none }
  enteredUnknownAt := none
  attempt := 0
  version := 1
  updatedAt := now

/-- What the guarded `INSERT ... RETURNING` reports: the new row's creation time, no row at all,
or a violated primary key. -/
inductive InsertReply where
  | inserted (createdAt : Int)
  | nothing
  | violation
  deriving DecidableEq, Repr

inductive Transaction : Type → Type where
  | lookup (executionID : String) : Transaction (Option Record)
  | lookupByKey (key : RequestKey) : Transaction (Option Record)
  | listByStates (states : List State) : Transaction (List Record)
  | listExpiredLeases : Transaction (List Record)
  | reconciliationBacklog : Transaction (Nat × Option Int)
  | listEffectEvents (executionID : String) : Transaction (List EffectEvent)
  | listProviderObservations (executionID : String) : Transaction (List ObservationRecord)
  | readEpoch : Transaction Int
  | readRecoveryRequired : Transaction Bool
  | insert (request : NewRequest) : Transaction InsertReply
  | apply (mutation : Mutation) : Transaction Bool
  | claim (kind : ClaimKind) (owner : String) (duration : Int) (limit : Nat) :
      Transaction (List Record)
  | scrubLocators (retention : Int) : Transaction Nat
  | noteContention (executionID : String) (eventType : EventType) (metadata : String) :
      Transaction Unit
  | advanceEpoch (expected : Int) (reason : String) : Transaction Bool
  | completeRecovery (expected : Int) (resolution : String) : Transaction Bool

namespace Database

variable (epoch now : Int) (executionID : String)

/-- `sqliteInsertEffectEvent`. -/
def insertEffectEvent (payload : EventPayload) (database : Database) : Database :=
  match database.find executionID with
  | none => database
  | some row =>
    let sequences :=
      (database.events.filter fun event => decide (event.executionID = executionID)).map
        EffectEvent.sequence
    { database with events := database.events ++ [{
        executionID := executionID
        sequence := sequences.foldl max 0 + 1
        recordVersion := row.version
        eventType := payload.eventType
        actor := (nullableString payload.actor).or (row.lease.owner.or row.reconcile.owner)
        previousState := payload.previousState
        newState := payload.newState.or (some row.state)
        resultDigest := nullableString payload.resultDigest
        evidenceDigest := nullableString payload.evidenceDigest
        claimGeneration := nullIf payload.claimGeneration 0
        occurredAt := now
        metadata := nullableString payload.metadata }] }

/-- `sqliteInsertObservationRow`. -/
def insertObservationRow (kind : ObservationKind) (material : ObservationMaterial)
    (database : Database) : Database :=
  match database.find executionID with
  | none => database
  | some row =>
    let sequences :=
      (database.observations.filter fun seen => decide (seen.executionID = executionID)).map
        ObservationRecord.sequence
    { database with observations := database.observations ++ [{
        executionID := executionID
        sequence := sequences.foldl max 0 + 1
        recordVersion := row.version
        kind := kind
        providerID := nullableString material.observation.providerID
        providerRunID := nullableString material.observation.providerRunID
        providerStatus := nullableString material.observation.providerStatus
        resultBytes := nullableBytes material.rawResult
        resultSHA256 := nullableString material.rawSHA256
        resultCanonicalDigest := nullableString material.observation.resultDigest
        evidenceSHA256 := nullableString material.observation.evidenceDigest
        receiptVersion := material.observation.receiptVersion
        observedAt := now }] }

def insertEntry (database : Database) :
    LedgerEntry → Database
  | .event payload => database.insertEffectEvent now executionID payload
  | .observation kind material => database.insertObservationRow now executionID kind material

def appendLedger (entries : List LedgerEntry) (database : Database) : Database :=
  entries.foldl (insertEntry now executionID) database

/-- The `WHERE` clause of a single-row update with its execution id and epoch guard. -/
def selects (mutation : Mutation) (database : Database) (row : Row) : Bool :=
  decide (row.executionID = mutation.target) && mutation.guard now database.cluster row &&
    decide (database.cluster.epoch = epoch)

def applyMutation (mutation : Mutation) (database : Database) :
    Bool × Database :=
  let selected := database.selects epoch now mutation
  if database.requests.count selected = 0 then (false, database)
  else
    let updated := { database with
      requests := database.requests.update selected (mutation.assign now)
        (mutation.assign_keys now) }
    match updated.find mutation.target with
    | none => (true, updated)
    | some row => (true, updated.appendLedger now mutation.target (mutation.ledger row))

/-- The ids a claim's subselect returns: the oldest `limit` eligible rows. -/
def claimCandidates (kind : ClaimKind) (limit : Nat) (database : Database) :
    List String :=
  let eligible := database.requests.rows.filter fun row => kind.eligible now row
  let ordered := eligible.insertionSort fun left right => left.updatedAt ≤ right.updatedAt
  (ordered.take limit).map Row.executionID

/-- The `WHERE` clause of a claim: the subselect and the epoch guard. -/
def claimSelects (kind : ClaimKind) (limit : Nat) (database : Database) (row : Row) : Bool :=
  decide (row.executionID ∈ database.claimCandidates now kind limit) &&
    decide (database.cluster.epoch = epoch)

def applyClaim (kind : ClaimKind) (owner : String) (duration : Int) (limit : Nat)
    (database : Database) : List Record × Database :=
  let selected := database.claimSelects epoch now kind limit
  if database.requests.count selected = 0 then ([], database)
  else
    let updated := { database with
      requests := database.requests.update selected (kind.assign now duration owner)
        (kind.assign_keys now duration owner) }
    let candidates := database.claimCandidates now kind limit
    let claimed := updated.requests.rows.filter fun row =>
      decide (row.executionID ∈ candidates)
    (claimed.map Row.scan,
      claimed.foldl
        (fun database row => database.insertEffectEvent now row.executionID (kind.event owner row))
        updated)

def scrubSelects (retention : Int) (database : Database) (row : Row) : Bool :=
  decide (row.state = .unknown) && row.recoveryLocator.isSome &&
    decide (row.enteredUnknownAt.getD row.identity.createdAt < now - retention) &&
    decide (database.cluster.epoch = epoch)

def scrubLocators (retention : Int) (database : Database) : Nat × Database :=
  let selected := database.scrubSelects epoch now retention
  (database.requests.count selected,
    { database with
      requests := database.requests.update selected Row.scrubLocator Row.scrubLocator_keys })

def insertRequest (request : NewRequest) (database : Database) :
    InsertReply × Database :=
  if database.cluster.epoch = epoch ∧ database.cluster.recoveryRequired = false then
    match database.requests.insert (request.row epoch now) with
    | .error .unique => (.nothing, database)
    | .error .primary => (.violation, database)
    | .ok requests =>
      (.inserted now,
        ({ database with requests := requests }).insertEffectEvent now request.executionID
          { eventType := .acquired, actor := request.leaseOwner, newState := some .prepared,
            claimGeneration := 1 })
  else (.nothing, database)

end Database

namespace Database

def recordsByAge (selected : Row → Bool) (database : Database) : List Record :=
  let rows := (database.requests.rows.filter selected).insertionSort fun left right =>
    left.updatedAt ≤ right.updatedAt
  rows.map Row.scan

/-- `SELECT COUNT(*), MIN(entered_unknown_at) ... WHERE state = 'UNKNOWN'`. -/
def backlog (database : Database) : Nat × Option Int :=
  let rows := database.requests.rows.filter fun row => decide (row.state = .unknown)
  (rows.length, (rows.filterMap Row.enteredUnknownAt).min?)

def advanceEpoch (now expected : Int) (reason : String) (database : Database) : Bool × Database :=
  if database.cluster.epoch = expected then
    (true, { database with cluster := {
      epoch := database.cluster.epoch + 1
      recoveryRequired := true
      recoveryCompletedAt := none
      recoveryResolution := none
      advancedAt := some now
      advanceReason := nullableString reason } })
  else (false, database)

def completeRecovery (now expected : Int) (resolution : String) (database : Database) :
    Bool × Database :=
  if database.cluster.epoch = expected then
    (true, { database with cluster := { database.cluster with
      recoveryRequired := false
      recoveryCompletedAt := some now
      recoveryResolution := nullableString resolution } })
  else (false, database)

end Database

/-- Runs one transaction for a handle admitted under `epoch`. -/
def Transaction.exec (epoch now : Int) {Reply : Type} (transaction : Transaction Reply)
    (database : Database) : Reply × Database :=
  match transaction with
  | .lookup executionID => ((database.find executionID).map Row.scan, database)
  | .lookupByKey key => ((database.findByKey key).map Row.scan, database)
  | .listByStates states =>
    (database.recordsByAge fun row => decide (row.state ∈ states), database)
  | .listExpiredLeases =>
    (database.recordsByAge fun row =>
      decide (row.state ∈ [.prepared, .executing, .inFlight]) && row.expired now, database)
  | .reconciliationBacklog => (database.backlog, database)
  | .listEffectEvents executionID =>
    ((database.events.filter fun event => decide (event.executionID = executionID)).insertionSort
      fun left right => left.sequence ≤ right.sequence, database)
  | .listProviderObservations executionID =>
    ((database.observations.filter fun seen =>
        decide (seen.executionID = executionID)).insertionSort
      fun left right => left.sequence ≤ right.sequence, database)
  | .readEpoch => (database.cluster.epoch, database)
  | .readRecoveryRequired => (database.cluster.recoveryRequired, database)
  | .insert request => database.insertRequest epoch now request
  | .apply mutation => database.applyMutation epoch now mutation
  | .claim kind owner duration limit => database.applyClaim epoch now kind owner duration limit
  | .scrubLocators retention => database.scrubLocators epoch now retention
  | .noteContention executionID eventType metadata =>
    ((), database.insertEffectEvent now executionID { eventType, metadata })
  | .advanceEpoch expected reason => database.advanceEpoch now expected reason
  | .completeRecovery expected resolution => database.completeRecovery now expected resolution

end Crabedence
