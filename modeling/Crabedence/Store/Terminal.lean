import Crabedence.Store.Lifecycle

/-!
# Terminal writes

`Finalize` and `ResolveRecovery`, the two methods that make a row `COMMITTED` or `FAILED`.  Both read
the row, demand the same terminal proof of what they were given, and then write under a guard on
state, version and provider identity.
-/

namespace Crabedence

open Resumption

/-- The checks `Finalize` makes on a receipt before it reads the row. -/
def TerminalReceipt.check (platform : Platform) (receipt : TerminalReceipt) :
    Except StoreError Unit := do
  if receipt.receiptVersion < 0 then
    throw (.message ("invalid receipt_version " ++ toString receipt.receiptVersion))
  if maxResultBytes < receipt.canonicalResult.length then
    throw (.lease .resultTooLarge ("canonical result is " ++
      toString receipt.canonicalResult.length ++ " bytes (max " ++ toString maxResultBytes ++ ")"))
  if maxEvidenceReceiptBytes < receipt.evidenceReceipt.length then
    throw (.lease .evidenceReceiptTooLarge ("evidence receipt is " ++
      toString receipt.evidenceReceipt.length ++ " bytes (max " ++
      toString maxEvidenceReceiptBytes ++ ")"))
  match canonicalizeJSON platform receipt.canonicalResult with
  | .error reason =>
    throw (.wrapped "canonical result is not well-formed JSON" (.message reason))
  | .ok _ => return

def identityMismatch (field column asserted stored : String) : Except StoreError Unit :=
  if asserted ≠ "" ∧ asserted ≠ stored then
    .error (.message ("receipt identity mismatch: receipt " ++ field ++ " " ++ asserted ++
      " != row " ++ column ++ " " ++ stored))
  else .ok ()

def TerminalReceipt.checkIdentity (receipt : TerminalReceipt) (executionID : String)
    (existing : Record) : Except StoreError Unit := do
  identityMismatch "execution_id" "execution_id" receipt.executionID executionID
  identityMismatch "capability" "capability_id" receipt.capability existing.capabilityID
  identityMismatch "principal" "principal_id" receipt.principal existing.principalID
  identityMismatch "request_digest" "request_digest" receipt.requestDigest existing.requestDigest

def TerminalReceipt.bindTo (receipt : TerminalReceipt) (executionID : String)
    (existing : Record) : TerminalReceipt :=
  { receipt with
    executionID
    capability := existing.capabilityID
    principal := existing.principalID
    requestDigest := existing.requestDigest }

/-- The receipt a resolution is hashed and verified as. -/
def RecoveryResult.receipt (result : RecoveryResult) (executionID : String) (existing : Record)
    (newState : State) : TerminalReceipt where
  executionID := executionID
  capability := existing.capabilityID
  principal := existing.principalID
  requestDigest := existing.requestDigest
  terminalStatus := newState
  canonicalResult := result.result
  providerID := result.providerID
  providerRunID := result.providerRunID
  evidenceDigest := result.evidenceDigest
  receiptVersion := result.receiptVersion
  evidenceReceipt := result.evidenceReceipt

def RecoveryResult.observation (result : RecoveryResult) : ProviderObservation where
  providerID := result.providerID
  providerRunID := result.providerRunID
  providerStatus := ""
  result := result.result
  resultDigest := ""
  evidenceDigest := result.evidenceDigest
  receiptVersion := result.receiptVersion

namespace SQLiteStore

variable (platform : Platform) (store : SQLiteStore)

def evidenceVerifier (record : Record) (receipt : TerminalReceipt) (target : State) :
    Except String (Option VerifiedEvidence) :=
  match store.verifier with
  | some verify => verify record receipt target
  | none => (signedReceiptVerify platform store.trustedSigners record receipt target).map some

/-- The proof both terminal writes demand; `kind` is the word the error of a failed CRITICAL
verification uses. -/
def requireProof (kind : String) (record : Record) (receipt : TerminalReceipt) (target : State) :
    Except StoreError Unit := do
  let verified ←
    if record.executionClass = "CRITICAL" then
      match store.evidenceVerifier platform record receipt target with
      | .ok verified => pure verified
      | .error reason =>
        throw (.wrapped ("CRITICAL " ++ kind ++ " to " ++ target.text ++
          " requires a verified signed evidence receipt") (.message reason))
    else pure none
  match validateTerminalTransition record target receipt verified with
  | .ok () => return
  | .error reason => throw (.message reason)

variable (executionID : String) (expectedVersion : Int)

def finalizedAlready (receiptDigest : String) (existing : Record) :
    Except StoreError Unit :=
  if existing.terminalReceiptDigest = receiptDigest then .ok ()
  else .error (.message ("FINALIZATION_CONFLICT: " ++ execution executionID
    ("already finalized with different receipt (existing digest " ++
      existing.terminalReceiptDigest ++ ", new digest " ++ receiptDigest ++ ")")))

/-- What `Finalize` reports when its update hit no row. -/
def classifyFinalizeFailure (lease : Lease) (expectedState : State) (write : TerminalWrite) :
    StoreM Unit := do
  match ← (store.lookup lease.executionID).attempt with
  | .error _ => store.classifyTransitionFailure lease expectedState
  | .ok current =>
    if current.state.isDurablyFinal then
      finalizedAlready lease.executionID write.receiptDigest current
    else if current.state = expectedState ∧ current.leaseToken = lease.token ∧
        current.leaseGeneration = lease.generation ∧
        providerIdentityContradicts current.providerID write.receipt.providerID
          current.providerRunID write.receipt.providerRunID then
      throw (.lease .providerObservationConflict (execution lease.executionID
        "terminal receipt contradicts stored provider observation"))
    else store.classifyTransitionFailure lease expectedState

def finalizeExisting (lease : Lease) (expectedState : State) (receipt : TerminalReceipt)
    (final : receipt.terminalStatus.isDurablyFinal)
    (legal : isLegalTransition expectedState receipt.terminalStatus) (existing : Record) :
    StoreM Unit := do
  receipt.checkIdentity lease.executionID existing
  let bound := receipt.bindTo lease.executionID existing
  match terminalReceiptDigest platform bound with
  | .error reason => throw (.wrapped "failed to compute terminal receipt digest" reason)
  | .ok receiptDigest =>
    if existing.state.isDurablyFinal then
      finalizedAlready lease.executionID receiptDigest existing
    else
      store.requireProof platform "finalization" existing bound receipt.terminalStatus
      let write : TerminalWrite := {
        receipt := bound, receiptDigest
        resultSHA256 := sha256Hex platform receipt.canonicalResult }
      if ← store.sql (.apply (.finalize lease expectedState existing.version write final
          legal)) then return
      else store.classifyFinalizeFailure lease expectedState write

def finalize (lease : Lease) (expectedState : State) (receipt : TerminalReceipt) :
    StoreM Unit := do
  if final : receipt.terminalStatus.isDurablyFinal then
    receipt.check platform
    if legal : isLegalTransition expectedState receipt.terminalStatus then
      match ← (store.lookup lease.executionID).attempt with
      | .error reason => throw (.wrapped "finalize lookup failed" reason)
      | .ok existing =>
        store.finalizeExisting platform lease expectedState receipt final legal existing
    else
      throw (.lease .leaseStateConflict ("illegal finalization transition " ++
        expectedState.text ++ " → " ++ receipt.terminalStatus.text))
  else
    throw (.message ("invalid terminal status " ++ receipt.terminalStatus.text ++
      ": Finalize requires a durably-final state (COMMITTED, FAILED, or DENIED)"))

def classifyResolveFailure : StoreM Unit := do
  store.checkEpoch
  match ← (store.lookup executionID).attempt with
  | .error reason =>
    throw (.message (execution executionID ("recovery resolution failed (lookup: " ++
      reason.text ++ ")")))
  | .ok record =>
    if record.state = .unknown ∧ record.version = expectedVersion then
      throw (.lease .providerObservationConflict (execution executionID
        "recovery result contradicts stored provider observation"))
    else
      throw (.lease .leaseStateConflict (execution executionID
        "recovery resolution CAS failed (state/version mismatch)"))

/-- A definitive resolution, to `COMMITTED` or `FAILED`. -/
def resolveDefinitively (result : RecoveryResult) (newState : State)
    (legal : isLegalTransition .unknown newState) : StoreM Unit := do
  if maxEvidenceReceiptBytes < result.evidenceReceipt.length then
    throw (.lease .evidenceReceiptTooLarge ("evidence receipt is " ++
      toString result.evidenceReceipt.length ++ " bytes (max " ++
      toString maxEvidenceReceiptBytes ++ ")"))
  else
    let material ← observationMaterial platform result.observation
    match ← (store.lookup executionID).attempt with
    | .error reason => throw (.wrapped "recovery lookup failed" reason)
    | .ok existing =>
      let receipt := result.receipt executionID existing newState
      store.requireProof platform "recovery" existing receipt newState
      match terminalReceiptDigest platform receipt with
      | .error reason => throw (.wrapped "failed to compute recovery receipt digest" reason)
      | .ok receiptDigest =>
        let write : TerminalWrite := {
          receipt, receiptDigest, resultSHA256 := sha256Hex platform result.result }
        if ← store.sql (.apply (.resolveRecovery executionID expectedVersion write material
            legal)) then return
        else store.classifyResolveFailure executionID expectedVersion

def resolveRecovery (result : RecoveryResult) :
    StoreM Unit := do
  match result.decision with
  | .committed =>
    store.resolveDefinitively platform executionID expectedVersion result .committed rfl
  | .failed => store.resolveDefinitively platform executionID expectedVersion result .failed rfl
  | .unknown =>
    if ← store.sql (.apply (.touchUnknown executionID expectedVersion)) then return
    else
      store.checkEpoch
      throw (.lease .leaseStateConflict (execution executionID
        "recovery-unknown CAS failed (state/version mismatch)"))
  | .retryable =>
    throw (.lease .leaseStateConflict ("RecoveryRetryable is not permitted — post-dispatch " ++
      "uncertainty cannot become retryable without proven safety (CRAB-V1-020)"))
  | .conflict => throw (.lease .leaseStateConflict (execution executionID "recovery conflict"))
  | .other decision => throw (.message ("unknown recovery decision: " ++ decision))

end SQLiteStore

end Crabedence
