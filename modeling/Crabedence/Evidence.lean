import Crabedence.Contract

/-!
# Signed evidence receipts and terminal proof

The receipt checks of `internal/evidence/evidence.go` and the terminal-decision policy of
`internal/idempotency/evidence_verify.go`.  Library code the checks call (SHA-256, Ed25519,
base64, JSON decoding, timestamp parsing) is a parameter, so every result holds whatever those
functions return.
-/

namespace Crabedence

structure ReceiptV3 where
  schemaVersion : Int
  receiptType : String
  executionID : String
  capability : String
  principal : String
  requestDigest : String
  providerID : String
  providerRunID : String
  outcome : String
  evidenceSHA256 : String
  issuedAt : String
  publicKey : String
  signer : String
  signature : String
  deriving DecidableEq, Repr

/-- `Binding`: the record context a receipt must match field by field. -/
structure Binding where
  executionID : String
  capability : String
  principal : String
  requestDigest : String
  providerID : String
  providerRunID : String
  outcome : String
  evidenceSHA256 : String
  deriving DecidableEq, Repr

/-- The fields `TerminalReceipt.Digest` marshals, with the result already canonical. -/
structure TerminalPayload (S : Type := String) (T : Type := State) where
  executionID : S
  capability : S
  principal : S
  requestDigest : S
  terminalStatus : T
  canonicalResult : RawMessage
  providerID : S
  providerRunID : S
  evidenceDigest : S
  receiptVersion : Int
  deriving DecidableEq, Repr

/-- The library functions the code calls. -/
structure Platform where
  /-- `hex.EncodeToString` of `sha256.Sum256`. -/
  sha256 : List UInt8 → String
  ed25519Verify : List UInt8 → List UInt8 → List UInt8 → Bool
  base64Decode : String → Option (List UInt8)
  parsesRFC3339Nano : String → Bool
  /-- `strconv.Quote`, the `%q` verb. -/
  quote : String → String
  hasDuplicateKeys : RawMessage → Except String Bool
  /-- One strictly decoded `ReceiptV3` and nothing after it. -/
  decodeReceiptV3 : RawMessage → Except String ReceiptV3
  /-- `canonicalizeJSON` on non-empty input. -/
  canonicalize : RawMessage → Except String RawMessage
  marshalTerminalPayload : TerminalPayload → List UInt8
  /-- `forbiddenLocatorField`: the offending field path, empty when there is none. -/
  forbiddenLocatorField : RawMessage → String

def utf8 (text : String) : List UInt8 := text.toUTF8.data.toList

def isSpace (character : Char) : Bool :=
  let code := character.toNat
  (9 ≤ code && code ≤ 13) || code = 32 || code = 0x85 || code = 0xA0 || code = 0x1680 ||
    (0x2000 ≤ code && code ≤ 0x200A) || code = 0x2028 || code = 0x2029 || code = 0x202F ||
    code = 0x205F || code = 0x3000

def isBlank (value : String) : Bool := value.toList.all isSpace

def isHexDigest (value : String) : Bool :=
  decide (value.utf8ByteSize = 64) &&
    value.toList.all fun digit =>
      (decide ('0' ≤ digit) && decide (digit ≤ '9')) || (decide ('a' ≤ digit) && decide (digit ≤ 'f'))

/-- Four big-endian length bytes, `uint32(len(value))`, before the value itself. -/
def lengthPrefixed (value : String) : List UInt8 :=
  let size := value.utf8ByteSize
  [UInt8.ofNat (size / 0x1000000), UInt8.ofNat (size / 0x10000), UInt8.ofNat (size / 0x100),
    UInt8.ofNat size] ++ utf8 value

def signingBytes (receipt : ReceiptV3) : List UInt8 :=
  utf8 "crabedence-effect-receipt-v3" ++ [0] ++
    [receipt.executionID, receipt.capability, receipt.principal, receipt.requestDigest,
      receipt.providerID, receipt.providerRunID, receipt.outcome, receipt.evidenceSHA256,
      receipt.issuedAt, receipt.publicKey, receipt.signer].flatMap lengthPrefixed

def receiptType : String := "crabedence-effect-receipt"

def outcomeCompleted : String := "COMPLETED"

def outcomeNoEffect : String := "NO_EFFECT"

/-- The fields `validateFields` requires to be non-blank, under their JSON names.  Go ranges over
them in an unspecified order; the first blank one in this order is reported. -/
def requiredFields (receipt : ReceiptV3) : List (String × String) :=
  [("execution_id", receipt.executionID), ("capability", receipt.capability),
    ("principal", receipt.principal), ("request_digest", receipt.requestDigest),
    ("provider_id", receipt.providerID), ("public_key", receipt.publicKey),
    ("signer", receipt.signer)]

section Checks

variable (platform : Platform)

def validateFields (receipt : ReceiptV3) : Except String Unit := do
  if receipt.receiptType ≠ receiptType then
    throw ("unsupported receipt_type " ++ platform.quote receipt.receiptType)
  if receipt.schemaVersion ≠ 3 then
    throw ("unsupported schema_version " ++ toString receipt.schemaVersion)
  if let some (name, _) := (requiredFields receipt).find? fun field => isBlank field.2 then
    throw ("invalid " ++ name)
  if receipt.outcome = outcomeCompleted then
    if isBlank receipt.providerRunID then throw "invalid provider_run_id"
  else if receipt.outcome ≠ outcomeNoEffect then
    throw ("invalid outcome " ++ platform.quote receipt.outcome)
  if !isHexDigest receipt.evidenceSHA256 then throw "invalid evidence_sha256"
  if !platform.parsesRFC3339Nano receipt.issuedAt then throw "invalid issued_at"
  match platform.base64Decode receipt.publicKey with
  | none => throw "invalid public_key"
  | some key =>
    if key.length ≠ 32 then throw "invalid public_key"
    if receipt.signer ≠ platform.sha256 key then throw "signer does not match public_key"
  if receipt.signature ≠ "" then
    match platform.base64Decode receipt.signature with
    | none => throw "invalid signature"
    | some signature => if signature.length ≠ 64 then throw "invalid signature"

def parseReceipt (data : RawMessage) : Except String ReceiptV3 := do
  if data.length = 0 then throw "missing evidence receipt"
  if 64 * 1024 < data.length then throw "evidence receipt exceeds 64KiB"
  if ← platform.hasDuplicateKeys data then throw "evidence receipt contains duplicate keys"
  platform.decodeReceiptV3 data

def verifySignature (receipt : ReceiptV3) : Except String Unit := do
  validateFields platform receipt
  if receipt.signature = "" then throw "missing signature"
  let publicKey := (platform.base64Decode receipt.publicKey).getD []
  let signature := (platform.base64Decode receipt.signature).getD []
  if !platform.ed25519Verify publicKey (signingBytes receipt) signature then
    throw "signature mismatch"

def ReceiptV3.binding (receipt : ReceiptV3) : Binding where
  executionID := receipt.executionID
  capability := receipt.capability
  principal := receipt.principal
  requestDigest := receipt.requestDigest
  providerID := receipt.providerID
  providerRunID := receipt.providerRunID
  outcome := receipt.outcome
  evidenceSHA256 := receipt.evidenceSHA256

def verifyReceipt (data : RawMessage) (binding : Binding) (trustedSigners : List String) :
    Except String Unit := do
  let receipt ← parseReceipt platform data
  verifySignature platform receipt
  if trustedSigners.length = 0 then throw "no trusted evidence signers configured"
  if receipt.signer ∉ trustedSigners then
    throw ("evidence receipt signer " ++ receipt.signer ++ " is not trusted")
  if receipt.binding ≠ binding then throw "evidence receipt binding mismatch"

inductive EvidenceOutcome where
  | completed
  | noEffect
  deriving DecidableEq, Repr

def EvidenceOutcome.text : EvidenceOutcome → String
  | .completed => outcomeCompleted
  | .noEffect => outcomeNoEffect

/-- The proof a terminal state asks for: `FAILED` needs `NO_EFFECT`, anything else `COMPLETED`. -/
def requiredOutcome (target : State) : EvidenceOutcome :=
  if target = .failed then .noEffect else .completed

structure VerifiedEvidence where
  evidenceDigest : String
  receiptVersion : Int
  providerID : String
  providerRunID : String
  outcome : EvidenceOutcome
  executionID : String
  requestDigest : String
  deriving DecidableEq, Repr

/-- The binding the default verifier demands of the receipt: identity from the record, provider
and evidence from the terminal receipt. -/
def terminalBinding (record : Record) (receipt : TerminalReceipt) (target : State) : Binding where
  executionID := record.executionID
  capability := record.capabilityID
  principal := record.principalID
  requestDigest := record.requestDigest
  providerID := receipt.providerID
  providerRunID := receipt.providerRunID
  outcome := (requiredOutcome target).text
  evidenceSHA256 := receipt.evidenceDigest

/-- `signedReceiptVerifier.Verify`. -/
def signedReceiptVerify (trustedSigners : List String) (record : Record)
    (receipt : TerminalReceipt) (target : State) : Except String VerifiedEvidence := do
  if receipt.evidenceDigest = "" ∨ !isHexDigest receipt.evidenceDigest then
    throw "invalid evidence digest (64-char lowercase hex required)"
  if receipt.receiptVersion ≠ 3 then
    throw ("unsupported receipt_version " ++ toString receipt.receiptVersion ++ " (must be 3)")
  if receipt.providerID = "" then throw "provider_id is required"
  if requiredOutcome target = .completed ∧ receipt.providerRunID = "" then
    throw "provider_run_id is required for COMPLETED proof"
  verifyReceipt platform receipt.evidenceReceipt (terminalBinding record receipt target)
    trustedSigners
  return {
    evidenceDigest := receipt.evidenceDigest
    receiptVersion := receipt.receiptVersion
    providerID := receipt.providerID
    providerRunID := receipt.providerRunID
    outcome := requiredOutcome target
    executionID := record.executionID
    requestDigest := record.requestDigest }

/-- `ValidateTerminalTransition`; the store always passes a record. -/
def validateTerminalTransition (record : Record) (target : State) (receipt : TerminalReceipt)
    (verified : Option VerifiedEvidence) : Except String Unit := do
  if target ≠ .committed ∧ target ≠ .failed then
    throw ("invalid terminal target " ++ target.text ++ ": must be COMMITTED or FAILED")
  if record.executionClass = "CRITICAL" then
    match verified with
    | none => throw ("CRITICAL transition to " ++ target.text ++ " requires authenticated evidence")
    | some evidence =>
      if evidence.outcome ≠ requiredOutcome target then
        throw ("CRITICAL transition to " ++ target.text ++ " requires " ++
          (requiredOutcome target).text ++ " proof, got " ++ evidence.outcome.text)
  else if receipt.evidenceDigest = "" ∧ receipt.canonicalResult.length = 0 then
    throw ("definitive transition to " ++ target.text ++
      " requires evidence or result — cannot terminate without proof")

def canonicalizeJSON (raw : RawMessage) : Except String RawMessage :=
  if raw.length = 0 then .ok [] else platform.canonicalize raw

/-- `sha256Hex`: the digest of empty input is the empty string, stored as `NULL`. -/
def sha256Hex (bytes : List UInt8) : String :=
  if bytes.length = 0 then "" else platform.sha256 bytes

section Digest

variable {S T : Type}

/-- What `TerminalReceipt.Digest` hashes: everything but the signed receipt. -/
def TerminalReceipt.payload (receipt : TerminalReceipt S T) (canonicalResult : RawMessage) :
    TerminalPayload S T where
  executionID := receipt.executionID
  capability := receipt.capability
  principal := receipt.principal
  requestDigest := receipt.requestDigest
  terminalStatus := receipt.terminalStatus
  canonicalResult := canonicalResult
  providerID := receipt.providerID
  providerRunID := receipt.providerRunID
  evidenceDigest := receipt.evidenceDigest
  receiptVersion := receipt.receiptVersion

/-- `TerminalReceipt.Digest`, over the encoding of the payload. -/
def TerminalReceipt.digest (marshal : TerminalPayload S T → List UInt8)
    (receipt : TerminalReceipt S T) : Except StoreError String :=
  match canonicalizeJSON platform receipt.canonicalResult with
  | .error reason => .error (.wrapped "failed to canonicalize result" (.message reason))
  | .ok canonicalResult => .ok (platform.sha256 (marshal (receipt.payload canonicalResult)))

end Digest

/-- `TerminalReceipt.Digest` of a receipt of the store. -/
def terminalReceiptDigest (receipt : TerminalReceipt) : Except StoreError String :=
  receipt.digest platform platform.marshalTerminalPayload

def canonicalizeObservation (observation : ProviderObservation) :
    Except StoreError ProviderObservation := do
  if observation.receiptVersion < 0 then
    throw (.message ("invalid observation receipt_version " ++ toString observation.receiptVersion))
  if observation.result.length = 0 then return observation
  if maxResultBytes < observation.result.length then
    throw (.lease .resultTooLarge ("provider result is " ++ toString observation.result.length ++
      " bytes (max " ++ toString maxResultBytes ++ ")"))
  match canonicalizeJSON platform observation.result with
  | .error reason =>
    throw (.wrapped "provider result is not well-formed JSON" (.message reason))
  | .ok canonical =>
    let computed := platform.sha256 canonical
    if observation.resultDigest ≠ "" ∧ observation.resultDigest ≠ computed then
      throw (.lease .observationDigestMismatch
        "supplied result digest does not match canonical result bytes")
    return { observation with result := canonical, resultDigest := computed }

/-- An accepted observation without a result is kept as it is, one with a result carries the
canonical result and its digest. -/
theorem canonicalizeObservation_ok {observation canonical : ProviderObservation}
    (accepted : canonicalizeObservation platform observation = .ok canonical) :
    observation.result = [] ∧ canonical = observation ∨
      observation.result ≠ [] ∧ ∃ bytes, canonicalizeJSON platform observation.result = .ok bytes ∧
        canonical = { observation with result := bytes, resultDigest := platform.sha256 bytes } := by
  unfold canonicalizeObservation at accepted
  by_cases negative : observation.receiptVersion < 0
  · rw [if_pos negative] at accepted
    cases accepted
  by_cases empty : observation.result.length = 0
  · simp only [if_neg negative, if_pos empty] at accepted
    cases accepted
    exact .inl ⟨List.length_eq_zero_iff.mp empty, rfl⟩
  by_cases oversized : maxResultBytes < observation.result.length
  · simp only [if_neg negative, if_neg empty, if_pos oversized] at accepted
    cases accepted
  simp only [if_neg negative, if_neg empty, if_neg oversized] at accepted
  cases canonicalized : canonicalizeJSON platform observation.result with
  | error reason =>
    rw [canonicalized] at accepted
    cases accepted
  | ok bytes =>
    simp only [canonicalized] at accepted
    split_ifs at accepted
    · cases accepted
    · cases accepted
      exact .inr ⟨fun same => empty (List.length_eq_zero_iff.mpr same), bytes, rfl, rfl⟩

end Checks

end Crabedence
