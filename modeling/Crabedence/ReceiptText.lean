import Crabedence.Digest.Receipt
import Crabedence.Json.Stream
import Crabedence.Json.Struct

/-!
# Receipts as text

How `internal/evidence/evidence.go` writes a signed receipt and reads one back: the JSON of the struct,
the scan for duplicate keys over the streaming decoder, and the strict decode.  The checks on a
receipt that was read are those of the evidence model, for whatever these functions return.
-/

namespace Crabedence

open Json

/-- The fields of the struct, in its order. -/
inductive ReceiptV3Field where
  | schemaVersion | receiptType | executionID | capability | principal | requestDigest | providerID
  | providerRunID | outcome | evidenceSHA256 | issuedAt | publicKey | signer | signature
deriving DecidableEq, Repr

namespace ReceiptV3Field

def all : List ReceiptV3Field :=
  [schemaVersion, receiptType, executionID, capability, principal, requestDigest, providerID,
    providerRunID, outcome, evidenceSHA256, issuedAt, publicKey, signer, signature]

def name : ReceiptV3Field → Text
  | schemaVersion => nameText "schema_version"
  | receiptType => nameText "receipt_type"
  | executionID => nameText "execution_id"
  | capability => nameText "capability"
  | principal => nameText "principal"
  | requestDigest => nameText "request_digest"
  | providerID => nameText "provider_id"
  | providerRunID => nameText "provider_run_id"
  | outcome => nameText "outcome"
  | evidenceSHA256 => nameText "evidence_sha256"
  | issuedAt => nameText "issued_at"
  | publicKey => nameText "public_key"
  | signer => nameText "signer"
  | signature => nameText "signature"

/-- Stores a string; the version is no string. -/
def set : ReceiptV3Field → String → ReceiptV3 → ReceiptV3
  | schemaVersion, _, r => r
  | receiptType, text, r => { r with receiptType := text }
  | executionID, text, r => { r with executionID := text }
  | capability, text, r => { r with capability := text }
  | principal, text, r => { r with principal := text }
  | requestDigest, text, r => { r with requestDigest := text }
  | providerID, text, r => { r with providerID := text }
  | providerRunID, text, r => { r with providerRunID := text }
  | outcome, text, r => { r with outcome := text }
  | evidenceSHA256, text, r => { r with evidenceSHA256 := text }
  | issuedAt, text, r => { r with issuedAt := text }
  | publicKey, text, r => { r with publicKey := text }
  | signer, text, r => { r with signer := text }
  | signature, text, r => { r with signature := text }

def assign (field : ReceiptV3Field) (value : Value Number) (target : ReceiptV3) :
    Except StructError ReceiptV3 :=
  if field = schemaVersion then assignInt (fun n r => { r with schemaVersion := n }) target value
  else assignString field.set textString target value

theorem mem_all (field : ReceiptV3Field) : field ∈ all := by
  cases field <;> decide

end ReceiptV3Field

namespace ReceiptV3

def zero : ReceiptV3 := ⟨0, "", "", "", "", "", "", "", "", "", "", "", "", ""⟩

/-- What a field holds, as the encoder writes it. -/
def member (r : ReceiptV3) : ReceiptV3Field → Value Int
  | .schemaVersion => .number r.schemaVersion
  | .receiptType => textValue r.receiptType
  | .executionID => textValue r.executionID
  | .capability => textValue r.capability
  | .principal => textValue r.principal
  | .requestDigest => textValue r.requestDigest
  | .providerID => textValue r.providerID
  | .providerRunID => textValue r.providerRunID
  | .outcome => textValue r.outcome
  | .evidenceSHA256 => textValue r.evidenceSHA256
  | .issuedAt => textValue r.issuedAt
  | .publicKey => textValue r.publicKey
  | .signer => textValue r.signer
  | .signature => textValue r.signature

def members (r : ReceiptV3) : List (Text × Value Int) :=
  ReceiptV3Field.all.map fun field => (field.name, r.member field)

/-- `json.Marshal`. -/
def marshal (r : ReceiptV3) : RawMessage :=
  Crabedence.marshal ((Value.object r.members).map integerText)

end ReceiptV3

/-- The error texts of the decoder. -/
structure ReceiptTexts where
  token : String
  decode : DecodeError → String
  struct : StructError → String

section Parse

variable (texts : ReceiptTexts)

/-- The loop of `hasDuplicateKeys`. -/
def duplicateKeysFrom (seen : List Text) (decoder : Decoder) : Except String Bool :=
  if decoder.more then
    match _token : decoder.token replacementCharacter with
    | .token (.scalar (.string key)) next =>
      if key ∈ seen then .ok true
      else
        match _value : next.decode replacementCharacter maxNestingDepth with
        | none => .error (texts.decode .malformed)
        | some (_, after) => duplicateKeysFrom (key :: seen) after
    -- inside an object the decoder hands out no other token before a value
    | _ => .error texts.token
  else .ok false
termination_by decoder.rest.length
decreasing_by exact (Decoder.decode_shrinks _value).trans (Decoder.token_shrinks _token)

def hasDuplicateKeys (data : RawMessage) : Except String Bool :=
  match (Decoder.new (Utf8.decode data)).token replacementCharacter with
  | .token (.opening .object) decoder => duplicateKeysFrom texts [] decoder
  | .token _ _ => .error "evidence receipt must be a JSON object"
  | _ => .error texts.token

variable (folding : Folding)

/-- `Decode` of a document into a receipt. -/
def decodeReceipt (document : Value Number) : Except StructError ReceiptV3 :=
  match document with
  | .object members =>
    decodeMembers folding ReceiptV3Field.name ReceiptV3Field.all ReceiptV3Field.assign members .zero
  | .null => .ok .zero
  | _ => .error .mismatch

def decodeReceiptV3 (data : RawMessage) : Except String ReceiptV3 := do
  let (document, rest) ← (decodeValue (Utf8.decode data)).mapError texts.decode
  let r ← (decodeReceipt folding document).mapError texts.struct
  match decodeValue rest with
  | .error .eof => return r
  | .error failure => throw (texts.decode failure)
  | .ok _ => throw "multiple JSON values"

def Platform.withReceiptText (platform : Platform) : Platform :=
  { platform with
    hasDuplicateKeys := Crabedence.hasDuplicateKeys texts
    decodeReceiptV3 := Crabedence.decodeReceiptV3 texts folding }

end Parse

/-- Ed25519 keys and the text form of bytes. -/
structure SigningKeys (K : Type) where
  publicKey : K → List UInt8
  sign : K → List UInt8 → List UInt8
  /-- `base64.StdEncoding.EncodeToString`. -/
  base64Encode : List UInt8 → String

section Sign

variable {K : Type} (platform : Platform) (keys : SigningKeys K) (key : K)

/-- `Fingerprint` of the signer's public key. -/
def SigningKeys.fingerprint : String := platform.sha256 (keys.publicKey key)

/-- The receipt before it is signed; `now` is the formatted time. -/
def SigningKeys.draft (now : String) (b : Binding) : ReceiptV3 where
  schemaVersion := 3
  receiptType := receiptType
  executionID := b.executionID
  capability := b.capability
  principal := b.principal
  requestDigest := b.requestDigest
  providerID := b.providerID
  providerRunID := b.providerRunID
  outcome := b.outcome
  evidenceSHA256 := b.evidenceSHA256
  issuedAt := now
  publicKey := keys.base64Encode (keys.publicKey key)
  signer := keys.fingerprint platform key
  signature := ""

/-- `Signer.Sign`. -/
def SigningKeys.signReceipt (now : String) (b : Binding) : Except String RawMessage := do
  let r := keys.draft platform key now b
  validateFields platform r
  return { r with signature := keys.base64Encode (keys.sign key (signingBytes r)) }.marshal

end Sign

end Crabedence
