import Crabedence.Store.Reconcile

/-!
# The dispatch executor

`ExecuteWithIdempotency` of `internal/execution/dispatch.go` as a program over the `EffectStore`
interface and the host.  The lease heartbeat is another caller of the store, gate health accounting
and the test hooks have no effect on the result, and a panic of the handler takes the process down,
so a run with a panic is a run that stops at the handler call.
-/

namespace Crabedence

open Resumption

inductive DispatchOp : Type → Type 1 where
  | store {Result : Type} (call : EffectStore Result) : DispatchOp (Except StoreError Result)
  | host {Reply : Type} (request : Host Reply) : DispatchOp Reply

abbrev DispatchM := Program DispatchOp

/-- The input of `computeDigestFromRaw`; the legacy digest leaves the descriptor out. -/
structure DigestInput where
  protocolVersion : Int
  principal : String
  capability : String
  arguments : RawMessage
  grantID : String
  executionClass : String
  authorityGeneration : Int
  authorityDigest : String
  assuranceProfile : String
  executionRoute : String
  descriptorVersion : Int
  descriptorDigest : String
  deriving DecidableEq, Repr

/-- Library and encoding functions the executor calls on top of those of the store. -/
structure DispatchPlatform extends Platform where
  computeDigest : DigestInput → Except String String
  marshalLocator : RecoveryLocator → Except String RawMessage
  /-- `json.Marshal` of a string map, its keys in the order given. -/
  marshalMap : List (String × String) → RawMessage

structure ProviderCapabilities where
  supportsCompletionProof : Bool
  supportsNonexecutionProof : Bool
  deriving DecidableEq, Repr

/-- An executor: the lease policy of its store if it has one, what its handler declares for each
adapter, whether the handler routes recovery locators, whether a signer is configured, and the
provider ceiling as the messages print it. -/
structure DispatchExecutor where
  store : Option LeaseConfig
  capabilities : String → Option ProviderCapabilities
  preparesRecovery : Bool
  hasSigner : Bool
  providerExecution : String

/-- The response plus the executor's own provenance about the invocation. -/
structure DispatchOutcome where
  response : Response
  provableNoEffect : Bool := false

def callStore {Result : Type} (call : EffectStore Result) : DispatchM (Except StoreError Result) :=
  .perform (.store call)

def askHost {Reply : Type} (request : Host Reply) : DispatchM Reply :=
  .perform (.host request)

/-- `string` of a Go bool under `%v`. -/
def boolText (value : Bool) : String := if value then "true" else "false"

variable (platform : DispatchPlatform) (request : Request) (descriptor : ResolvedDescriptor)

def checkCriticalProviderCapability (executor : DispatchExecutor) (descriptor : ResolvedDescriptor) :
    Option Response :=
  if descriptor.executionClass ≠ .critical then none
  else
    let denied (reason : String) : Response := {
      status := .denied
      failureCode := failureAdmissionDenied
      error := "CRITICAL admission denied: provider " ++ platform.quote descriptor.adapterID ++
        " " ++ reason ++ " — a CRITICAL effect requires a provider able to prove both " ++
        "completion and non-effect" }
    match executor.capabilities descriptor.adapterID with
    | none => some (denied "does not declare provider capabilities")
    | some declared =>
      if declared.supportsCompletionProof && declared.supportsNonexecutionProof then none
      else some (denied ("lacks required evidence support (completion_proof=" ++
        boolText declared.supportsCompletionProof ++ " nonexecution_proof=" ++
        boolText declared.supportsNonexecutionProof ++ ")"))

/-- The digest input both digests of a request share. -/
def digestInput (descriptorVersion : Int) (descriptorDigest : String) : DigestInput where
  protocolVersion := 1
  principal := request.authority.principal
  capability := request.capability
  arguments := request.arguments
  grantID := request.authority.effectiveAuthorityRef
  executionClass := descriptor.executionClass.text
  authorityGeneration := request.authority.authorityGeneration
  authorityDigest := request.authority.authorityDigest
  assuranceProfile := descriptor.assuranceProfile
  executionRoute := descriptor.executionRoute
  descriptorVersion := descriptorVersion
  descriptorDigest := descriptorDigest

/-- `ComputeDigestFromRawWithDescriptor`. -/
def boundDigest (descriptorDigest : String) : Except String String :=
  platform.computeDigest
    (digestInput request descriptor descriptor.descriptorVersion descriptorDigest)

/-- `ComputeDigestFromRawWithAuthority`, the digest of records written before descriptors were
bound. -/
def legacyDigest : Except String String :=
  platform.computeDigest (digestInput request descriptor 0 "")

def Request.key (request : Request) : RequestKey where
  principal := request.authority.principal
  capability := request.capability
  key := request.idempotencyKey

def Request.authorityBinding : AuthorityBinding where
  ref := request.authority.effectiveAuthorityRef
  generation := request.authority.authorityGeneration
  digest := request.authority.authorityDigest

def providerRefusedResponse (reason : String) : Response where
  status := .failed
  failureCode := failureCapabilityUnavailable
  error := "provider refused before dispatch: " ++ reason
  definitiveFailure := true

def deadlinePassedResponse : Response where
  status := .failed
  failureCode := failureInvalidRequest
  error := "request deadline " ++ request.deadline ++ " already passed"
  definitiveFailure := true

def internalFailure (error : String) : Response where
  status := .failed
  failureCode := failureInternalError
  error := error

def unknownResponse (error provider runID : String) : Response where
  status := .unknown
  failureCode := failureExecutionUnknown
  error := error
  execution := some { provider, runID }

def providerCeilingResponse (executor : DispatchExecutor) (descriptor : ResolvedDescriptor)
    (cause : String) : Response :=
  if descriptor.executionClass = .pure ∨ descriptor.executionClass = .read then {
    status := .failed
    failureCode := failureExecutionFailed
    error := "provider execution exceeded the framework ceiling (" ++
      executor.providerExecution ++ "): " ++ cause }
  else {
    status := .unknown
    failureCode := failureExecutionUnknown
    error := "provider execution exceeded the framework ceiling (" ++
      executor.providerExecution ++ ", " ++ cause ++
      ") — post-dispatch ambiguity, entered recovery" }

def classifyPostDispatch (response : Response) (descriptor : ResolvedDescriptor) :
    State × Response :=
  let unknown (reason : String) : State × Response := (.unknown, {
    status := .unknown
    failureCode := failureExecutionUnknown
    error := reason
    execution := response.execution })
  if descriptor.executionClass = .critical ∧ response.status = .succeeded then
    match response.evidence with
    | none =>
      unknown ("CRITICAL capability returned SUCCEEDED without evidence digest " ++
        "(post-dispatch uncertainty)")
    | some evidence =>
      if evidence.digest = "" then
        unknown ("CRITICAL capability returned SUCCEEDED without evidence digest " ++
          "(post-dispatch uncertainty)")
      else if !isHexDigest evidence.digest then
        unknown ("CRITICAL capability returned invalid evidence digest " ++
          "(post-dispatch uncertainty)")
      else if evidence.receiptVersion ≠ 3 then
        unknown ("CRITICAL capability returned receipt_version " ++
          toString evidence.receiptVersion ++ " (must be 3, post-dispatch uncertainty)")
      else if (response.execution.map ExecutionMeta.runID).getD "" = "" then
        unknown ("CRITICAL capability returned SUCCEEDED without run_id " ++
          "(post-dispatch uncertainty)")
      else (.committed, response)
  else
    match response.status with
    | .succeeded => (.committed, response)
    | .failed => if response.definitiveFailure then (.failed, response) else (.unknown, response)
    | _ => (.unknown, response)

def buildObservation (response : Response) (descriptor : ResolvedDescriptor) :
    ProviderObservation where
  providerID :=
    match response.execution with
    | some execution =>
      if execution.provider ≠ "" then execution.provider else descriptor.adapterID
    | none => descriptor.adapterID
  providerRunID := (response.execution.map ExecutionMeta.runID).getD ""
  providerStatus := response.status.text
  result := response.result
  resultDigest := ""
  evidenceDigest := (response.evidence.map EvidenceRef.digest).getD ""
  receiptVersion := (response.evidence.map EvidenceRef.receiptVersion).getD 0

/-- The provider response as the executor persists and classifies it: a failure the executor itself
proved gets a synthesised artifact, and the evidence digest is recomputed from the artifact or
dropped. -/
def evidencedResponse (outcome : DispatchOutcome) : Response :=
  let response := outcome.response
  let artifact :=
    if response.evidenceArtifact.length = 0 ∧ response.definitiveFailure ∧
        outcome.provableNoEffect then
      platform.marshalMap [("definitive_failure", "true"), ("error", response.error),
        ("failure_code", response.failureCode)]
    else response.evidenceArtifact
  { response with
    evidenceArtifact := artifact
    evidence :=
      if 0 < artifact.length then
        some { digest := platform.sha256 artifact
               receiptVersion := (response.evidence.map EvidenceRef.receiptVersion).getD 3 }
      else none }

namespace DispatchExecutor

variable (platform : DispatchPlatform) (executor : DispatchExecutor) (request : Request)
  (descriptor : ResolvedDescriptor) (digest : String) (lease : Lease) (executionID : String)
  (response : Response) (acquired : AcquireResult)

/-- The part of `dispatch` after the provider gate was acquired. -/
def invoke (externalToken : String) :
    DispatchM DispatchOutcome := do
  if ← askHost (.deadlineExpired request.deadline) then
    return { response := deadlinePassedResponse request, provableNoEffect := true }
  else
    match ← askHost (.executeHandler request descriptor externalToken) with
    | .answered response => return { response }
    | .outlived cause =>
      return { response := providerCeilingResponse executor descriptor cause }

/-- `dispatch` without a reservation of its own. -/
def dispatchUnreserved :
    DispatchM DispatchOutcome := do
  match ← askHost (.acquireGate descriptor.adapterID) with
  | .error reason =>
    return { response := providerRefusedResponse reason, provableNoEffect := true }
  | .ok () => executor.invoke request descriptor ""

def abandonPreDispatch : DispatchM Unit := do
  let _ ← callStore (.abandonPreDispatch lease)

/-- `enterRecoveryWithObservation`, at most `attempts` more lookup-and-CAS rounds; the result is
the error text. -/
def enterRecoveryRounds (executionID : String) (observation : ProviderObservation)
    (lastError : String) : Nat → DispatchM (Except String Unit)
  | 0 =>
    return .error ("recovery entry failed after 3 CAS attempts: " ++ lastError ++
      "; provider observation may not be persisted")
  | attempts + 1 => do
      match ← callStore (.lookup executionID) with
      | .error reason =>
        return .error ("recovery entry failed (lookup error: " ++ reason.text ++
          "); provider observation may not be persisted")
      | .ok record =>
        if record.state = .inFlight then
          match ← callStore (.enterRecoveryWithObservation executionID .inFlight record.version
              observation) with
          | .ok () => return .ok ()
          | .error reason =>
            if reason.isLease .leaseStateConflict then
              enterRecoveryRounds executionID observation reason.text attempts
            else
              return .error ("recovery entry failed: " ++ reason.text ++
                "; provider observation may not be persisted")
        else if record.state = .unknown then
          match ← callStore (.recordProviderObservation ⟨executionID, "", 0⟩ observation) with
          | .ok () => return .ok ()
          | .error reason =>
            return .error ("execution already in recovery; observation update failed: " ++
              reason.text)
        else if record.state.isDurablyFinal then return .ok ()
        else return .error ("cannot enter recovery from state " ++ record.state.text)

def enterRecovery (descriptor : ResolvedDescriptor) : DispatchM (Except String Unit) :=
  enterRecoveryRounds executionID (buildObservation response descriptor) "<nil>" 3

def genericRecoveryLocator : RecoveryLocator where
  version := 1
  providerID := descriptor.adapterID
  strategy := "metadata"
  externalToken := ""
  resourceRef := ""
  requestDigest := digest
  executionID := executionID
  principalID := request.authority.principal
  capabilityID := request.capability
  idempotencyKey := request.idempotencyKey
  extensions := []

def locatorInput : RecoveryLocatorInput where
  executionID := executionID
  adapterID := descriptor.adapterID
  capabilityID := request.capability
  principal := request.authority.principal
  idempotencyKey := request.idempotencyKey
  requestDigest := digest
  arguments := request.arguments

def prepareRecoveryLocator : DispatchM (Except String RecoveryLocator) := do
  if executor.preparesRecovery then
    match ← askHost (.prepareRecovery descriptor.adapterID
        (locatorInput request descriptor digest executionID)) with
    | .error reason => return .error reason
    | .ok (some locator) => return .ok locator
    | .ok none => return .ok (genericRecoveryLocator request descriptor digest executionID)
  else return .ok (genericRecoveryLocator request descriptor digest executionID)

def receiptProvider (descriptor : ResolvedDescriptor) : String :=
  let named := (response.execution.map ExecutionMeta.provider).getD ""
  if named = "" then descriptor.adapterID else named

def terminalReceipt (state : State) (response : Response) : TerminalReceipt where
  executionID := lease.executionID
  capability := request.capability
  principal := request.authority.principal
  requestDigest := digest
  terminalStatus := state
  canonicalResult :=
    if response.result.length = 0 ∧ state = .failed then
      platform.marshalMap [("error", response.error), ("failure_code", response.failureCode)]
    else response.result
  providerID := receiptProvider response descriptor
  providerRunID := (response.execution.map ExecutionMeta.runID).getD ""
  evidenceDigest := (response.evidence.map EvidenceRef.digest).getD ""
  receiptVersion := (response.evidence.map EvidenceRef.receiptVersion).getD 0
  evidenceReceipt := []

def signedBinding (receipt : TerminalReceipt) : Binding where
  executionID := receipt.executionID
  capability := receipt.capability
  principal := receipt.principal
  requestDigest := receipt.requestDigest
  providerID := receipt.providerID
  providerRunID := receipt.providerRunID
  outcome := (requiredOutcome receipt.terminalStatus).text
  evidenceSHA256 := receipt.evidenceDigest

/-- The fenced `Finalize` and the answer it leads to. -/
def finalizeReceipt (receipt : TerminalReceipt) : DispatchM Response := do
  match ← callStore (.lookup lease.executionID) with
  | .error reason =>
    return unknownResponse ("failed to lookup execution for finalize: " ++ reason.text)
      descriptor.adapterID lease.executionID
  | .ok record =>
    match ← callStore (.finalize { lease with generation := record.leaseGeneration } .inFlight
        receipt) with
    | .ok () =>
      return { response with
        execution := some (response.execution.getD
          { provider := descriptor.adapterID, runID := lease.executionID }) }
    | .error reason =>
      let recovered ← enterRecovery lease.executionID response descriptor
      let note := match recovered with
        | .ok () => " (provider observation persisted)"
        | .error failure => " (" ++ failure ++ ")"
      return unknownResponse
        ("failed to finalize execution after dispatch: " ++ reason.text ++ note)
        receipt.providerID receipt.providerRunID

/-- The terminal stage: sign CRITICAL evidence, then finalise. -/
def terminalize (state : State) (response : Response) : DispatchM Response := do
  let receipt := terminalReceipt platform request descriptor digest lease state response
  if descriptor.executionClass = .critical ∧ executor.hasSigner ∧
      0 < response.evidenceArtifact.length then
    match ← askHost (.sign (signedBinding receipt)) with
    | .ok signed =>
      finalizeReceipt descriptor lease response { receipt with evidenceReceipt := signed }
    | .error reason =>
      let recovered ← enterRecovery lease.executionID response descriptor
      let note := match recovered with
        | .ok () => ""
        | .error failure => "; " ++ failure
      return unknownResponse
        ("failed to sign CRITICAL evidence receipt: " ++ reason ++ note)
        receipt.providerID receipt.providerRunID
  else finalizeReceipt descriptor lease response receipt

/-- Everything after the provider answered: persist the observation, decide, terminate or enter
recovery. -/
def settle (outcome : DispatchOutcome) : DispatchM Response := do
  let providerResponse := evidencedResponse platform outcome
  let observed ← callStore (.recordProviderObservation lease
    (buildObservation providerResponse descriptor))
  let decision := classifyPostDispatch providerResponse descriptor
  if decision.1 = .unknown then
    let recovered ← enterRecovery lease.executionID providerResponse descriptor
    let entered := match recovered with
      | .ok () =>
        "post-dispatch ambiguity: entered recovery (side effect may have occurred)"
      | .error failure => "post-dispatch ambiguity: " ++ failure
    let unobserved := match observed with
      | .ok () => ""
      | .error reason => "; provider observation NOT persisted: " ++ reason.text
    return unknownResponse (entered ++ unobserved) descriptor.adapterID lease.executionID
  else
    match observed with
    | .ok () =>
      executor.terminalize platform request descriptor digest lease decision.1 decision.2
    | .error reason =>
      let recovered ← enterRecovery lease.executionID providerResponse descriptor
      let note := match recovered with
        | .ok () => ""
        | .error failure => "; " ++ failure
      return unknownResponse
        ("provider observation not persisted: " ++ reason.text ++ note)
        descriptor.adapterID lease.executionID

def abandonWith : DispatchM Response := do
  abandonPreDispatch lease
  return response

/-- The dispatch boundary: `MarkInFlight`, the handler, and what follows. -/
def crossBoundary (locator : RecoveryLocator) : DispatchM Response := do
  match platform.marshalLocator locator with
  | .error reason =>
    abandonWith lease (internalFailure ("failed to marshal recovery locator: " ++ reason))
  | .ok raw =>
    if maxRecoveryLocatorBytes < raw.length then
      abandonWith lease (internalFailure ("recovery locator exceeds " ++
        toString maxRecoveryLocatorBytes ++ " bytes (got " ++ toString raw.length ++ ")"))
    else
      match ← callStore (.markInFlight lease descriptor.adapterID raw) with
      | .error reason =>
        abandonWith lease (internalFailure
          ("failed to transition to IN_FLIGHT (lease lost or state changed): " ++
            reason.text))
      | .ok () =>
        let outcome ← executor.invoke request descriptor locator.externalToken
        executor.settle platform request descriptor digest lease outcome

/-- The run of an acquired execution. -/
def runAcquired : DispatchM Response := do
  if ← askHost (.deadlineExpired request.deadline) then
    abandonWith lease (deadlinePassedResponse request)
  else
    match ← askHost (.acquireGate descriptor.adapterID) with
    | .error reason => abandonWith lease (providerRefusedResponse reason)
    | .ok () =>
      match ← callStore (.beginExecution lease) with
      | .error reason =>
        abandonWith lease (internalFailure
          ("failed to begin execution (lease lost or state changed): " ++ reason.text))
      | .ok () =>
        match ← executor.prepareRecoveryLocator request descriptor digest
            lease.executionID with
        | .error reason =>
          abandonWith lease (internalFailure
            ("failed to prepare recovery locator: " ++ reason))
        | .ok locator => executor.crossBoundary platform request descriptor digest lease locator

def parseEvidence (receiptVersion : Int) : Option EvidenceRef :=
  if digest = "" then none
  else some { digest, receiptVersion := if 0 < receiptVersion then receiptVersion else 0 }

def replayResponse : Response where
  status := stateToStatus acquired.state
  result := acquired.record.result
  evidence := parseEvidence acquired.record.evidenceDigest acquired.record.receiptVersion
  execution := some {
    provider := if acquired.record.providerID = "" then descriptor.adapterID
      else acquired.record.providerID
    runID := if acquired.record.providerRunID = "" then acquired.record.executionID
      else acquired.record.providerRunID }

/-- The answer while another caller or reconciliation owns the row. -/
def heldResponse : Response :=
  let execution : ExecutionMeta := {
    provider := if acquired.record.providerID ≠ "" then acquired.record.providerID
      else descriptor.adapterID
    runID := if acquired.record.providerRunID ≠ "" then acquired.record.providerRunID
      else acquired.record.executionID }
  if acquired.kind = .recoveryRequired then {
    status := .unknown
    failureCode := failureExecutionUnknown
    error := "prior execution outcome is unknown and under reconciliation — do not retry"
    execution := some execution }
  else {
    status := .inFlight
    failureCode := failureInFlight
    execution := some execution }

/-- The acquisition with its single retry under the legacy digest. -/
def acquire (request : Request) (descriptor : ResolvedDescriptor) (digest : String)
    (leaseDuration : Duration) : DispatchM (Except StoreError AcquireResult) := do
  match ← callStore (.acquireWithAuthority request.key digest request.authorityBinding
      descriptor.executionClass.text leaseDuration) with
  | .error reason => return .error reason
  | .ok acquired =>
    if acquired.kind = .idempotencyConflict then
      match legacyDigest platform request descriptor with
      | .error _ => return .ok acquired
      | .ok legacy =>
        if legacy ≠ digest then
          match ← callStore (.acquireWithAuthority request.key legacy
              request.authorityBinding descriptor.executionClass.text leaseDuration) with
          | .ok retried => return .ok retried
          | .error _ => return .ok acquired
        else return .ok acquired
    else return .ok acquired

/-- What follows an acquisition.  `digest` is the descriptor-bound digest on both paths: the retry
does not replace it. -/
def proceed : DispatchM Response :=
  if acquired.kind = .idempotencyConflict then
    return {
      status := .denied
      failureCode := failureIdempotencyConflict
      error := "same idempotency key used with different request" }
  else if acquired.kind = .terminalReplay then return replayResponse descriptor acquired
  else if !acquired.acquired then return heldResponse descriptor acquired
  else
    executor.runAcquired platform request descriptor digest {
      executionID := acquired.record.executionID
      token := acquired.leaseToken
      generation := acquired.generation }

def executeDurably (leaseConfig : LeaseConfig) (request : Request)
    (descriptor : ResolvedDescriptor) (digest : String) : DispatchM Response := do
  let leaseDuration :=
    if leaseConfig.defaultDuration ≤ 0 then 5 * minute else leaseConfig.defaultDuration
  match ← acquire platform request descriptor digest leaseDuration with
  | .error reason =>
    return internalFailure ("idempotency acquire failed: " ++ reason.text)
  | .ok acquired => executor.proceed platform request descriptor digest acquired

def executeWithIdempotency :
    DispatchM Response := do
  if descriptor.executionClass = .pure ∨ descriptor.executionClass = .read then
    let outcome ← executor.dispatchUnreserved request descriptor
    return outcome.response
  else
    match executor.store with
    | none =>
      return internalFailure ("durable idempotency unavailable: MUTATION/CRITICAL operations " ++
        "require a database connection")
    | some leaseConfig =>
      match checkCriticalProviderCapability platform executor descriptor with
      | some denied => return denied
      | none =>
        match descriptor.descriptorDigest with
        | .error reason =>
          return internalFailure ("failed to compute descriptor digest: " ++ reason)
        | .ok descriptorDigest =>
          match boundDigest platform request descriptor descriptorDigest with
          | .error reason =>
            return internalFailure ("failed to compute digest: " ++ reason)
          | .ok digest =>
            executor.executeDurably platform leaseConfig request descriptor digest

end DispatchExecutor

def DispatchOp.implement (platform : Platform) (store : SQLiteStore) {Reply : Type} :
    DispatchOp Reply → Program Operation Reply
  | .store call => (store.serve platform call).run
  | .host request => .issue (.host request) .done

end Crabedence
