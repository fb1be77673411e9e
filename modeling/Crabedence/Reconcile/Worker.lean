import Mathlib.Algebra.Group.Int.Defs
import Crabedence.Store.Reconcile

/-!
# The reconciliation worker

`internal/reconcile/worker.go`: one cycle claims a batch of `UNKNOWN` records and asks the resolver of
each for its outcome, then recovers crashed executions and scrubs old locators.  What a cycle prints
and counts is left out, and so are the heartbeats: a renewal is a call of the store that anyone may
make at any time.
-/

namespace Crabedence

open Resumption

/-- What a resolver returns; the artifact is never stored. -/
structure Recovery extends RecoveryResult where
  evidenceArtifact : RawMessage

structure Worker where
  /-- The capabilities with a resolver of their own. -/
  resolvers : List String
  hasDefault : Bool
  workerID : String
  batchSize : Int
  claimDuration : Duration
  locatorRetention : Duration
  hasSigner : Bool
  maxAttempts : Int

inductive WorkerOp : Type → Type 1 where
  | store {Result : Type} (call : EffectStore Result) : WorkerOp (Except StoreError Result)
  | resolve (record : Record) : WorkerOp (Except String Recovery)
  | sign (binding : Binding) : WorkerOp (Except String RawMessage)

abbrev WorkerM := ExceptT String (Program WorkerOp)

/-- A call of the store whose failure is returned with `context` in front. -/
def callStoreAs {Result : Type} (context : String) (call : EffectStore Result) : WorkerM Result :=
  ExceptT.mk ((Program.perform (.store call)).bind fun reply =>
    .done (reply.mapError fun error => context ++ error.text))

def tryStore {Result : Type} (call : EffectStore Result) : Program WorkerOp Unit :=
  (Program.perform (.store call)).bind fun _ => .done ()

def reconcileBackoff (attempt : Int) : Duration :=
  let attempt := max attempt 0
  if 6 < attempt then 30 * minute else min (30 * second * 2 ^ attempt.toNat) (30 * minute)

def recoveryOutcome : RecoveryDecision → String
  | .committed => "COMPLETED"
  | _ => "NO_EFFECT"

namespace Worker

variable (sha256 : List UInt8 → String) (worker : Worker) (record : Record) (result : Recovery)

def exhausted : Bool :=
  decide (0 < worker.maxAttempts) && decide (worker.maxAttempts < record.reconcileAttempt)

def lastAttempt : Bool :=
  decide (0 < worker.maxAttempts) && decide (worker.maxAttempts ≤ record.reconcileAttempt)

def releaseClaim (resolveErr : Option String) : WorkerM Unit := do
  let original := " (original: " ++ resolveErr.getD "<nil>" ++ ")"
  let return_ : WorkerM Unit :=
    match resolveErr with
    | none => pure ()
    | some failure => throw failure
  if worker.lastAttempt record then
    let reason := "reconcile attempt ceiling reached"
    let reason :=
      match resolveErr with
      | none => reason
      | some failure => reason ++ " (last error: " ++ failure ++ ")"
    ExceptT.mk ((Program.perform (.store (.suspendReconciliation record.executionID record.version
      reason))).bind fun reply =>
        match reply with
        | .error error =>
          .done (.error ("failed to dead-letter reconcile claim: " ++ error.text ++ original))
        | .ok _ => return_.run)
  else
    let backoff := reconcileBackoff (max (record.reconcileAttempt - 1) 0)
    ExceptT.mk ((Program.perform (.store (.releaseReconcileClaim record.executionID record.version
      backoff (resolveErr.getD "")))).bind fun reply =>
        match reply with
        | .error error =>
          .done (.error ("failed to release reconcile claim: " ++ error.text ++ original))
        | .ok _ => return_.run)

/-- The resolver of the record's capability, or the default one; without either the record stays
`UNKNOWN` and nobody is asked. -/
def resolve : Program WorkerOp (Except String Recovery) :=
  if record.capabilityID ∈ worker.resolvers ∨ worker.hasDefault then
    .perform (.resolve record)
  else
    .done (.ok {
      decision := .unknown, result := [], evidenceDigest := "", receiptVersion := 0
      providerID := "", providerRunID := "", evidenceReceipt := [], evidenceArtifact := [] })

def attested : Recovery :=
  if 0 < result.evidenceArtifact.length then
    { result with
      evidenceDigest := sha256 result.evidenceArtifact
      receiptVersion := if result.receiptVersion = 0 then 3 else result.receiptVersion }
  else { result with evidenceDigest := "", evidenceReceipt := [] }

def binding : Binding where
  executionID := record.executionID
  capability := record.capabilityID
  principal := record.principalID
  requestDigest := record.requestDigest
  providerID := result.providerID
  providerRunID := result.providerRunID
  outcome := recoveryOutcome result.decision
  evidenceSHA256 := result.evidenceDigest

def commitResolution : WorkerM Unit :=
  let result :=
    if record.executionClass ≠ "CRITICAL" then { result with evidenceReceipt := [] } else result
  ExceptT.mk ((Program.perform (.store (.resolveRecovery record.executionID record.version
    result.toRecoveryResult))).bind fun reply =>
      match reply with
      | .error error =>
        (worker.releaseClaim record (some ("failed to resolve recovery: " ++ error.text))).run
      | .ok _ => .done (.ok ()))

/-- What follows a decision other than `UNKNOWN`. -/
def settleResolution : WorkerM Unit :=
  let result := attested sha256 result
  if record.executionClass = "CRITICAL" ∧
      (result.decision = .committed ∨ result.decision = .failed) then
    if worker.hasSigner = false then
      worker.releaseClaim record
        (some "no evidence signer configured — cannot attest CRITICAL recovery")
    else if result.evidenceArtifact.length = 0 then
      worker.releaseClaim record
        (some "no evidence artifact supplied — cannot attest CRITICAL recovery")
    else
      ExceptT.mk ((Program.perform (.sign (binding record result))).bind fun signed =>
        match signed with
        | .error failure =>
          (worker.releaseClaim record
            (some ("failed to sign recovery evidence receipt: " ++ failure))).run
        | .ok receipt =>
          (worker.commitResolution record { result with evidenceReceipt := receipt }).run)
  else worker.commitResolution record result

def concludeResolution : Except String Recovery → WorkerM Unit
  | .error failure => worker.releaseClaim record (some ("resolver error: " ++ failure))
  | .ok result =>
    if result.decision = .unknown then worker.releaseClaim record none
    else worker.settleResolution sha256 record result

def reconcileOne : WorkerM Unit :=
  if worker.exhausted record then
    callStoreAs "" (.suspendReconciliation record.executionID record.version
      "reconcile attempt ceiling reached")
  else do
    callStoreAs "reconcile claim lost before resolver invocation: "
      (.renewReconcileClaim record.executionID record.version worker.claimDuration)
    let resolved ← ExceptT.lift (worker.resolve record)
    worker.concludeResolution sha256 record resolved

def reconcileEach : List Record → Program WorkerOp Unit
  | [] => .done ()
  | record :: rest =>
    (worker.reconcileOne sha256 record).run.bind fun _ => reconcileEach rest

/-- `recoverCrashed` with its deferred release. -/
def recoverCrashed : Program WorkerOp Unit :=
  let release := tryStore (.releaseReconcileClaim record.executionID record.version 0 "")
  match record.state with
  | .prepared | .executing =>
    (tryStore (.recoverExpiredPreDispatch record.executionID record.version)).bind fun _ => release
  | .inFlight => tryStore (.enterRecovery record.executionID .inFlight record.version)
  | _ => release

def recoverEach : List Record → Program WorkerOp Unit
  | [] => .done ()
  | record :: rest => (recoverCrashed record).bind fun _ => recoverEach rest

def reconcileAllOnce : WorkerM Unit := do
  let claimed ← callStoreAs "failed to claim unknown records: "
    (.claimUnknownBatch worker.workerID worker.batchSize worker.claimDuration)
  ExceptT.lift (worker.reconcileEach sha256 claimed)
  let expired ← callStoreAs "failed to claim expired leases: "
    (.claimExpiredBatch worker.workerID worker.batchSize worker.claimDuration)
  ExceptT.lift (recoverEach expired)
  if 0 < worker.locatorRetention then
    ExceptT.lift (tryStore (.scrubStaleRecoveryLocators worker.locatorRetention))
  else pure ()

end Worker

end Crabedence
