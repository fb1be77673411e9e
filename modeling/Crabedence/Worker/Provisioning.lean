import Mathlib.Logic.Function.Basic
import Crabedence.Script.Json

/-!
# Lease provisioning

`putProvisioningOperation`, `cancelProvisioningOperation` and the transactions of
`LeaseProvisioningController`, over one table for each kind of key; a key is kept as its parts.  A
transaction reads one clock, and one that throws has no value.  The replay material and the plan reach
only the provider, whose result is an argument here.
-/

namespace Crabedence.Worker.Provisioning

open Utf16 (Str str)

inductive Phase where
  | prepared | provisioning | readyToPublish | settling | cleanup | blocked | retained | terminal
deriving DecidableEq

/-- What a provider kept, or where the journal keeps it. -/
inductive StepState where
  | document (value : Script.Value)
  | journal (operationID : Str) (attempt : ℤ)

structure ProvisioningStep where
  phase : Phase
  attempt : ℤ
  state : StepState
  nextWake : ℚ
  delivery : Option ℤ := none
  coordinationKey : Option Str := none
  publication : Option Script.Value := none
  blockedReason : Option Str := none

structure LeaseProvisioningOperation where
  schema : ℤ
  leaseID : Str
  operationID : Str
  generation : Str
  scope : Str
  owner : Str
  org : Str
  provider : Str
  createdAt : ℚ
  deadline : ℚ
  revision : ℤ
  step : ProvisioningStep
  claim : Option (Str × ℚ) := none
  canceledAt : Option ℚ := none
  retain : Option Bool := none

structure ProvisioningAttemptJournal where
  schema : ℤ
  generation : Str
  attempt : ℤ
  revision : ℤ
  state : StepState

structure ProvisioningDueRecord where
  operationID : Str
  at_ : ℚ
deriving DecidableEq

inductive LeaseState where
  | provisioning | active | failed | released | expired
deriving DecidableEq

structure LeaseRecord where
  id : Str
  owner : Str
  org : Str
  provider : Str
  providerScope : Option Str := none
  createdAt : Str := []
  createAttemptID : Option Str := none
  createAttemptGeneration : Option Str := none
  state : LeaseState
  expiresAt : Str := []
  updatedAt : Str := []
  releasedAt : Option Str := none
  endedAt : Option Str := none
  keep : Option Bool := none
  releaseDeletesServer : Option Bool := none
  provisioningResourceMayExist : Option Bool := none
  failureError : Option Str := none
  cleanupStartedAt : Option Str := none
  cleanupClaimExpiresAt : Option Str := none
  cleanupError : Option Str := none
  cleanupFailedAt : Option Str := none
  cleanupRetryAt : Option Str := none
  cleanupAttempts : Option ℤ := none
  storageRevision : Option ℤ := none

structure CreateAttemptRecord where
  pending : Bool
  canonicalLeaseID : Option Str
  token : Str
  generation : Option Str
  owner : Str
  org : Str

structure ProvisioningLibrary where
  /-- `new Date(at).toISOString()`. -/
  iso : ℚ → Str
  /-- `Date.parse`, without a value for `NaN`. -/
  dateParse : Str → Option ℚ
  /-- The JSON text of a record is at most `maxRecordBytes` long. -/
  operationFits : LeaseProvisioningOperation → Bool
  journalFits : ProvisioningAttemptJournal → Bool

structure Storage where
  operations : Str → Option LeaseProvisioningOperation
  journals : Str × ℤ → Option ProvisioningAttemptJournal
  due : ℤ × Str → Option ProvisioningDueRecord
  quarantined : Str → Bool
  leases : Str → Option LeaseRecord
  attempts : Str → Option CreateAttemptRecord
  locks : Str → Option Str

def claimDuration : ℚ := 45000

def retryDelay : ℚ := 15000

/-- `Math.trunc`. -/
def trunc (number : ℚ) : ℤ := if number < 0 then -⌊-number⌋ else ⌊number⌋

namespace LeaseProvisioningOperation

variable (operation : LeaseProvisioningOperation)

def attemptKey : Str × ℤ := (operation.operationID, operation.step.attempt)

def dueKey : ℤ × Str := (trunc operation.step.nextWake, operation.leaseID)

def reference : StepState := .journal operation.operationID operation.step.attempt

def isReference : Bool :=
  match operation.step.state with
  | .journal operationID attempt => decide ((operationID, attempt) = operation.attemptKey)
  | .document _ => false

def valid : Bool :=
  decide (operation.schema = 1) &&
    [operation.leaseID, operation.operationID, operation.generation, operation.owner,
      operation.org, operation.provider, operation.scope].all (fun field => decide (field ≠ [])) &&
    decide (Script.IsSafe operation.revision ∧ 0 ≤ operation.revision) &&
    decide (operation.createdAt ≤ operation.deadline) &&
    decide (Script.IsSafe operation.step.attempt ∧ 0 ≤ operation.step.attempt)

/-- An operation of these phases stands on no queue. -/
def parked : Bool := operation.step.phase = .terminal || operation.step.phase = .retained

def matchesLease (lease : LeaseRecord) : Bool :=
  decide (operation.leaseID = lease.id) && decide (operation.owner = lease.owner) &&
    decide (operation.org = lease.org) && decide (operation.provider = lease.provider) &&
    decide (some operation.scope = lease.providerScope) &&
    decide (some operation.generation = lease.createAttemptGeneration)

end LeaseProvisioningOperation

def ProvisioningAttemptJournal.valid (journal : ProvisioningAttemptJournal)
    (operation : LeaseProvisioningOperation) : Bool :=
  decide (journal.schema = 1) && decide (journal.generation = operation.generation) &&
    decide (journal.attempt = operation.step.attempt) &&
    decide (journal.revision = operation.revision)

def LeaseProvisioningOperation.restored (operation : LeaseProvisioningOperation)
    (journal : ProvisioningAttemptJournal) : LeaseProvisioningOperation :=
  { operation with step := { operation.step with state := journal.state } }

def matchesAttempt (attempt : Option CreateAttemptRecord) (lease : LeaseRecord) : Bool :=
  attempt.any fun attempt =>
    attempt.pending && decide (attempt.canonicalLeaseID = some lease.id) &&
      decide (some attempt.token = lease.createAttemptID) &&
      decide (attempt.generation = lease.createAttemptGeneration) &&
      decide (attempt.owner = lease.owner) && decide (attempt.org = lease.org)

section Leases

variable (library : ProvisioningLibrary) (lease : LeaseRecord)

def clearCleanup : LeaseRecord :=
  { lease with
    cleanupStartedAt := none, cleanupClaimExpiresAt := none, cleanupError := none,
    cleanupFailedAt := none, cleanupRetryAt := none, cleanupAttempts := none }

def updateCleanupMetadata (phase : Phase) (at_ : ℚ) : LeaseRecord :=
  if phase = .terminal ∨ lease.releaseDeletesServer = some false then clearCleanup lease
  else if phase = .blocked then
    { lease with
      cleanupStartedAt := none, cleanupClaimExpiresAt := none
      cleanupError := some (str "durable provisioning cleanup requires resolution")
      cleanupFailedAt := some (library.iso at_)
      cleanupAttempts := some (lease.cleanupAttempts.getD 0 + 1) }
  else
    { clearCleanup lease with
      cleanupStartedAt := some (lease.cleanupStartedAt.getD (library.iso at_))
      cleanupClaimExpiresAt := some (library.iso (at_ + claimDuration)) }

def canceledProvisioningLease (retain : Bool) (keep : Option Bool) (at_ : ℚ) : LeaseRecord :=
  { lease with
    state := .released, releasedAt := some (library.iso at_), endedAt := some (library.iso at_)
    updatedAt := library.iso at_, releaseDeletesServer := some (!retain)
    keep := keep.or lease.keep, provisioningResourceMayExist := some true }

def canceledProvisioningClaimLease (at_ : ℚ) : LeaseRecord :=
  { lease with
    state := .released, releaseDeletesServer := some true
    provisioningResourceMayExist := some true, updatedAt := library.iso at_ }

def exhaustedProvisioningLease (canceled : Bool) (at_ : ℚ) : LeaseRecord :=
  { lease with
    state := if canceled then .released else .failed
    endedAt := some (library.iso at_), updatedAt := library.iso at_
    provisioningResourceMayExist := some false, releaseDeletesServer := some true
    failureError := if canceled then lease.failureError
      else some (str "provisioning candidates exhausted after verified cleanup") }

/-- The lease a publication completes, apart from what the provider reported of the server. -/
def publishedLease (at_ : ℚ) : LeaseRecord :=
  { lease with
    state := .active, updatedAt := library.iso at_
    provisioningResourceMayExist := lease.provisioningResourceMayExist.map fun _ => false }

end Leases

section Transactions

variable (library : ProvisioningLibrary) (storage : Storage)

/-- The journal an operation is put with: a new one, or the stored one at the new revision. -/
def journalFor (operation previous : LeaseProvisioningOperation) :
    Option ProvisioningAttemptJournal :=
  if operation.isReference then
    ((storage.journals operation.attemptKey).filter (·.valid previous)).map fun journal =>
      { journal with revision := operation.revision }
  else
    some ⟨1, operation.generation, operation.step.attempt, operation.revision, operation.step.state⟩

/-- Without a previous operation there is no entry to delete, and no journal to go on with. -/
def putProvisioningOperation (operation : LeaseProvisioningOperation)
    (previous : Option LeaseProvisioningOperation) : Option Storage := do
  guard (operation.valid && library.operationFits operation)
  guard (previous.isSome || !operation.isReference)
  let journal ← journalFor storage operation (previous.getD operation)
  guard (operation.isReference || library.journalFits journal)
  let due := previous.elim storage.due fun previous =>
    Function.update storage.due previous.dueKey none
  return { storage with
    journals := Function.update storage.journals operation.attemptKey (some journal)
    operations := Function.update storage.operations operation.leaseID
      (some { operation with step := { operation.step with state := operation.reference } })
    due :=
      if operation.parked then due
      else Function.update due operation.dueKey
        (some ⟨operation.leaseID, operation.step.nextWake⟩) }

/-- What a transaction writes besides the index and the journal. -/
structure Decision where
  operation : LeaseProvisioningOperation
  lease : Option LeaseRecord := none
  lock : Option (Str × Option Str) := none

def commit (leaseID : Str) (previous : LeaseProvisioningOperation) (decision : Decision) :
    Option Storage :=
  (putProvisioningOperation library storage decision.operation (some previous)).map fun stored =>
    { stored with
      leases := decision.lease.elim storage.leases fun lease =>
        Function.update storage.leases leaseID (some lease)
      locks := decision.lock.elim storage.locks fun lock =>
        Function.update storage.locks lock.1 lock.2 }

variable (leaseID : Str) (operation : LeaseProvisioningOperation) (lease : LeaseRecord) (now : ℚ)

def canceledOperation (deleteServer : Bool) : LeaseProvisioningOperation :=
  let retain := !deleteServer && decide (lease.releaseDeletesServer ≠ some true)
  { operation with
    retain := some retain
    canceledAt := some (operation.canceledAt.getD now)
    step := { operation.step with
      phase := if operation.step.phase = .retained ∧ retain = false then .settling
        else operation.step.phase
      nextWake := (operation.claim.map Prod.snd).getD now } }

def cancelDecision (deleteServer : Bool) (keep : Option Bool) : Decision :=
  let next := canceledOperation operation lease now deleteServer
  { operation := next
    lease := some (updateCleanupMetadata library
      (canceledProvisioningLease library lease (next.retain = some true) keep now) next.step.phase
      now) }

/-- Cancels the operation of the lease, which the caller has loaded. -/
def cancelProvisioningOperation (deleteServer : Bool) (keep : Option Bool) : Option Storage :=
  match storage.operations lease.id with
  | none => some storage
  | some operation =>
    if operation.valid = false then none
    else if operation.step.phase = .terminal ∨ operation.matchesLease lease = false then some storage
    else
      commit library storage lease.id operation
        (cancelDecision library operation lease now deleteServer keep)

/-- Whether an operation is canceled, or its lease, its deadline or its attempt cancels it now. -/
def isCanceled : Bool :=
  let attempt := if lease.createAttemptID.getD [] = [] then none else storage.attempts leaseID
  operation.canceledAt.isSome || decide (lease.state ≠ .provisioning) ||
    (library.dateParse lease.expiresAt).any (fun expiry => decide (expiry ≤ now)) ||
    decide (operation.deadline ≤ now) ||
    lease.createAttemptID.isSome && !matchesAttempt attempt lease

def markCanceled (canceled : Bool) : LeaseProvisioningOperation :=
  if canceled then { operation with canceledAt := some (operation.canceledAt.getD now) }
  else operation

def postponed : LeaseProvisioningOperation :=
  { operation with step := { operation.step with nextWake := now + retryDelay } }

def blockedOperation : LeaseProvisioningOperation :=
  { operation with
    claim := none
    step := { operation.step with
      phase := .blocked, blockedReason := some (str "lease_binding_changed")
      nextWake := now + retryDelay } }

def publishedOperation : LeaseProvisioningOperation :=
  { operation with
    revision := operation.revision + 1, step := { operation.step with phase := .terminal } }

def claimedOperation (claimID : Str) : LeaseProvisioningOperation :=
  { operation with
    revision := operation.revision + 1
    claim := some (claimID, now + claimDuration)
    step := { operation.step with
      delivery := some (operation.step.delivery.getD 0 + 1), nextWake := now + claimDuration } }

/-- The claim of an operation whose journal and lease were read. -/
def claimDecision (claimID : Str) : Decision :=
  let canceled := isCanceled library storage leaseID operation lease now
  let next := markCanceled operation now canceled
  let ended := if canceled = true ∧ lease.state = .provisioning then
      some (updateCleanupMetadata library (canceledProvisioningClaimLease library lease now)
        next.step.phase now)
    else none
  let lock := next.step.coordinationKey.filter (· ≠ [])
  let owner := (lock.bind storage.locks).filter (· ≠ [])
  if owner ≠ none ∧ owner ≠ some operation.operationID then
    { operation := postponed next now, lease := ended }
  else
    let taken := lock.map fun key => (key, some operation.operationID)
    if next.step.phase = .readyToPublish ∧ canceled = false ∧ next.step.publication.isSome then
      { operation := publishedOperation next, lease := some (publishedLease library lease now)
        lock := taken }
    else { operation := claimedOperation next now claimID, lease := ended, lock := taken }

/-- The first transaction of `advance`; a claimed operation carries the claim. -/
def advanceClaim (claimID : Str) : Option Storage :=
  match storage.operations leaseID with
  | none => some storage
  | some operation =>
    if operation.valid = false ∨ operation.parked = true ∨ now < operation.step.nextWake ∨
        operation.claim.any (fun claim => decide (now < claim.2)) = true then
      some storage
    else
      match (storage.journals operation.attemptKey).filter fun journal =>
          journal.valid operation && operation.isReference with
      | none =>
        -- the operation and its evidence stay, off the queue
        some { storage with
          quarantined := Function.update storage.quarantined leaseID true
          due := Function.update storage.due operation.dueKey none }
      | some journal =>
        let loaded := operation.restored journal
        commit library storage leaseID loaded
          (match (storage.leases leaseID).filter operation.matchesLease with
          | none => { operation := blockedOperation loaded now }
          | some lease => claimDecision library storage leaseID loaded lease now claimID)

def resultDecision (result : ProvisioningStep) : Decision :=
  let canceled := isCanceled library storage leaseID operation lease now
  let kept := decide (result.phase = .retained ∧ operation.retain ≠ some true)
  let phase := if kept = true ∨ canceled = true ∧ result.phase = .readyToPublish then .settling
    else result.phase
  let marked := if canceled then updateCleanupMetadata library lease phase now else lease
  let key := operation.step.coordinationKey.filter (· ≠ [])
  { operation := { markCanceled operation now canceled with
      revision := operation.revision + 1
      claim := none
      step := { result with phase, nextWake := if kept then now else result.nextWake } }
    lease :=
      if phase = .terminal then some (exhaustedProvisioningLease library marked canceled now)
      else if canceled then some marked
      else none
    lock := (key.filter fun key => key ∉ result.coordinationKey ∧
      storage.locks key = some operation.operationID).map fun key => (key, none) }

/-- The last transaction of `advance`, for the claimed operation and the result of the provider. -/
def advanceResult (claimID : Str) (claimed : LeaseProvisioningOperation)
    (result : ProvisioningStep) : Option Storage :=
  match storage.operations leaseID with
  | none => some storage
  | some current =>
    if current.valid = false ∨ current.generation ≠ claimed.generation ∨
        current.revision ≠ claimed.revision ∨ current.claim.map Prod.fst ≠ some claimID ∨
        current.step.attempt ≠ claimed.step.attempt then
      some storage
    else
      match (storage.leases leaseID).filter current.matchesLease with
      | none => some storage
      | some latest =>
        commit library storage leaseID current
          (resultDecision library storage leaseID current latest now result)

end Transactions

/-- The transactions that change an operation; a caller of a cancellation loads the lease in it. -/
inductive Op where
  | claim (leaseID claimID : Str) (now : ℚ)
  | result (leaseID claimID : Str) (claimed : LeaseProvisioningOperation) (step : ProvisioningStep)
      (now : ℚ)
  | cancel (leaseID : Str) (at_ : ℚ) (deleteServer : Bool) (keep : Option Bool)

def perform (library : ProvisioningLibrary) (storage : Storage) (op : Op) : Storage :=
  (match op with
    | .claim leaseID claimID now => advanceClaim library storage leaseID now claimID
    | .result leaseID claimID claimed step now =>
      advanceResult library storage leaseID now claimID claimed step
    | .cancel leaseID at_ deleteServer keep => (storage.leases leaseID).bind fun lease =>
      cancelProvisioningOperation library storage lease at_ deleteServer keep).getD storage

section Cases

variable (library : ProvisioningLibrary) (storage : Storage)

/-- The decision of a transaction for the operation of a lease as the transaction has loaded it. -/
inductive Decides : Op → Str → LeaseProvisioningOperation → Decision → Prop where
  | blocked {leaseID claimID : Str} {now : ℚ} {operation : LeaseProvisioningOperation}
      (runs : operation.parked = false) :
      Decides (.claim leaseID claimID now) leaseID operation
        { operation := blockedOperation operation now }
  | claimed {leaseID claimID : Str} {now : ℚ} {lease : LeaseRecord}
      {operation : LeaseProvisioningOperation} (runs : operation.parked = false)
      (held : storage.leases leaseID = some lease) :
      Decides (.claim leaseID claimID now) leaseID operation
        (claimDecision library storage leaseID operation lease now claimID)
  | settled {leaseID claimID : Str} {now : ℚ} {lease : LeaseRecord}
      {operation claimed : LeaseProvisioningOperation} {result : ProvisioningStep}
      (held : storage.leases leaseID = some lease) :
      Decides (.result leaseID claimID claimed result now) leaseID operation
        (resultDecision library storage leaseID operation lease now result)
  | canceled {leaseID : Str} {now : ℚ} {deleteServer : Bool} {keep : Option Bool}
      {lease : LeaseRecord} {operation : LeaseProvisioningOperation}
      (held : storage.leases leaseID = some lease) (live : operation.step.phase ≠ .terminal)
      (matched : operation.matchesLease lease = true) :
      Decides (.cancel leaseID now deleteServer keep) lease.id operation
        (cancelDecision library operation lease now deleteServer keep)

/-- What a transaction does: nothing, a quarantine, or one commit.  A claim loads the state of the
operation from its journal. -/
inductive Performed (op : Op) : Storage → Prop where
  | idle : Performed op storage
  | quarantined {leaseID : Str} {operation : LeaseProvisioningOperation}
      (found : storage.operations leaseID = some operation)
      (unread : (storage.journals operation.attemptKey).filter (fun journal =>
        journal.valid operation && operation.isReference) = none) :
      Performed op { storage with
        quarantined := Function.update storage.quarantined leaseID true
        due := Function.update storage.due operation.dueKey none }
  | committed {leaseID : Str} {operation loaded : LeaseProvisioningOperation} {decision : Decision}
      {after : Storage} (found : storage.operations leaseID = some operation)
      (load : loaded = operation ∨ ∃ journal, storage.journals operation.attemptKey = some journal ∧
        journal.valid operation = true ∧ loaded = operation.restored journal)
      (decides : Decides library storage op leaseID loaded decision)
      (done : commit library storage leaseID loaded decision = some after) : Performed op after

theorem performed (op : Op) : Performed library storage op (perform library storage op) := by
  have ends {op : Op} {outcome : Option Storage}
      (some_ : ∀ after, outcome = some after → Performed library storage op after) :
      Performed library storage op (outcome.getD storage) := by
    cases outcome with
    | none => exact .idle
    | some after => exact some_ after rfl
  cases op with
  | claim leaseID claimID now =>
    refine ends fun after (performed : advanceClaim library storage leaseID now claimID = _) => ?_
    unfold advanceClaim at performed
    split at performed
    · cases performed
      exact .idle
    · next operation found =>
      split_ifs at performed with idle
      · cases performed
        exact .idle
      · split at performed
        · next unread =>
          cases performed
          exact .quarantined found unread
        · next journal read =>
          obtain ⟨stored, valid⟩ := Option.filter_eq_some_iff.mp read
          rw [Bool.and_eq_true] at valid
          refine .committed found (.inr ⟨journal, stored, valid.1, rfl⟩) ?_ performed
          have runs : operation.parked = false := by simp_all
          split
          · exact .blocked runs
          · next lease held => exact .claimed runs (Option.filter_eq_some_iff.mp held).1
  | result leaseID claimID claimed result now =>
    refine ends fun after
      (performed : advanceResult library storage leaseID now claimID claimed result = _) => ?_
    unfold advanceResult at performed
    split at performed
    · cases performed
      exact .idle
    · next operation found =>
      split_ifs at performed
      · cases performed
        exact .idle
      · split at performed
        · cases performed
          exact .idle
        · next lease held =>
          exact .committed found (.inl rfl) (.settled (Option.filter_eq_some_iff.mp held).1) performed
  | cancel leaseID now deleteServer keep =>
    refine ends fun after performed => ?_
    obtain ⟨lease, held, performed⟩ := Option.bind_eq_some_iff.mp performed
    unfold cancelProvisioningOperation at performed
    split at performed
    · cases performed
      exact .idle
    · next operation found =>
      split_ifs at performed with invalid stopped
      · cases performed
        exact .idle
      · rw [not_or, Bool.not_eq_false] at stopped
        exact .committed found (.inl rfl) (.canceled held stopped.1 stopped.2) performed

end Cases

end Crabedence.Worker.Provisioning
