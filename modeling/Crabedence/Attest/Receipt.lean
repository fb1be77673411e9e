import Crabedence.Checks
import Crabedence.Go.Json
import Crabedence.Json.Record
import Crabedence.Text.Framing

/-!
# Terminal run receipts

`terminalRunReceipt`, its JSON form, the bytes that are signed and the validation before signing.
Hashing, base64 and time parsing are the platform's.
-/

namespace Crabedence.Attest

open Checks Go Json

/-- Hashing, which both languages take from their platform. -/
structure Crypto where
  sha256 : List UInt8 → List UInt8
  sha256_length : ∀ data, (sha256 data).length = 32

/-- The functions of the Go library that receipts rest on.  Times are in the layout
`time.RFC3339Nano`. -/
structure GoLibrary where
  isSpace : Char → Bool
  parseTime : Str → Option Time
  decodeBase64 : Str → Option (List UInt8)

structure TerminalRunReceipt where
  schemaVersion : Int64
  receiptType : Str
  startedAt : Str
  endedAt : Str
  provider : Str
  leaseID : Str
  slug : Str
  runID : Str
  command : Str
  commandSHA256 : Str
  exitCode : Int64
  syncMs : Int64
  commandMs : Int64
  durationMs : Int64
  logSHA256 : Str
  retainedLogSHA256 : Str
  logTruncated : Bool
  evidenceSHA256 : Str
  publicKey : Str
  signer : Str
  signature : Str
deriving DecidableEq

inductive ReceiptField where
  | schemaVersion | receiptType | startedAt | endedAt | provider | leaseID | slug | runID | command
  | commandSHA256 | exitCode | syncMs | commandMs | durationMs | logSHA256 | retainedLogSHA256
  | logTruncated | evidenceSHA256 | publicKey | signer | signature
deriving DecidableEq

namespace ReceiptField

def all : List ReceiptField :=
  [.schemaVersion, .receiptType, .startedAt, .endedAt, .provider, .leaseID, .slug, .runID, .command,
    .commandSHA256, .exitCode, .syncMs, .commandMs, .durationMs, .logSHA256, .retainedLogSHA256,
    .logTruncated, .evidenceSHA256, .publicKey, .signer, .signature]

/-- The JSON name of the field. -/
def name : ReceiptField → String
  | .schemaVersion => "schema_version"
  | .receiptType => "receipt_type"
  | .startedAt => "started_at"
  | .endedAt => "ended_at"
  | .provider => "provider"
  | .leaseID => "lease_id"
  | .slug => "slug"
  | .runID => "run_id"
  | .command => "command"
  | .commandSHA256 => "command_sha256"
  | .exitCode => "exit_code"
  | .syncMs => "sync_ms"
  | .commandMs => "command_ms"
  | .durationMs => "duration_ms"
  | .logSHA256 => "log_sha256"
  | .retainedLogSHA256 => "retained_log_sha256"
  | .logTruncated => "log_truncated"
  | .evidenceSHA256 => "evidence_sha256"
  | .publicKey => "public_key"
  | .signer => "signer"
  | .signature => "signature"

theorem complete (field : ReceiptField) : field ∈ all := by
  cases field <;> decide

theorem name_injective : Function.Injective name := by
  intro field other same
  have names : (all.map name).Nodup := by decide
  exact List.inj_on_of_nodup_map names (complete field) (complete other) same

end ReceiptField

section Digests

def hexDigit (digit : UInt8) : UInt8 := if digit < 10 then digit + 48 else digit + 87

/-- `hex.EncodeToString`. -/
def hexEncode (data : List UInt8) : Str :=
  data.flatMap fun byte => [hexDigit (byte / 16), hexDigit (byte % 16)]

theorem hexEncode_forall {P : UInt8 → Prop}
    (digits : ∀ value < 256, ∀ digit ∈ hexEncode [UInt8.ofNat value], P digit)
    (data : List UInt8) : ∀ digit ∈ hexEncode data, P digit := by
  intro digit held
  obtain ⟨byte, -, listed⟩ := List.mem_flatMap.mp held
  apply digits byte.toNat byte.toNat_lt
  rw [UInt8.ofNat_toNat]
  exact listed

def isLowercaseHex (byte : UInt8) : Bool :=
  decide (48 ≤ byte ∧ byte ≤ 57) || decide (97 ≤ byte ∧ byte ≤ 102)

/-- A digit that `hex.DecodeString` reads. -/
def isHex (byte : UInt8) : Bool := isLowercaseHex byte || decide (65 ≤ byte ∧ byte ≤ 70)

def sha256Digest (crypto : Crypto) (data : List UInt8) : Str :=
  str "sha256:" ++ hexEncode (crypto.sha256 data)

def attestFingerprint (crypto : Crypto) (publicKey : List UInt8) : Str :=
  sha256Digest crypto publicKey

def validSHA256Digest (value : Str) : Bool :=
  decide (str "sha256:" <+: value) &&
    (value.drop 7).all isHex && decide ((value.drop 7).length = 64)

def validLowercaseHexDigest (value : Str) (bytes : Nat) : Bool :=
  decide (value.length = bytes * 2) && value.all isLowercaseHex

end Digests

section Payload

def lengthPrefixedBytes (domain : Str) (values : List Str) : List UInt8 :=
  domain ++ Framing.frames values

def commandPayload (command : List Str) : List UInt8 :=
  lengthPrefixedBytes (str "crabbox-command-v1\x00") command

/-- `strconv.FormatInt` in base ten. -/
def formatInt (value : Int64) : Str := Utf8.encode (integerText value.toInt)

/-- `strconv.FormatBool`. -/
def formatBool (value : Bool) : Str := if value then str "true" else str "false"

def terminalReceiptSchemaVersion : Int64 := 3

def terminalReceiptV2SchemaVersion : Int64 := 2

def terminalReceiptType : Str := str "terminal"

def TerminalRunReceipt.signedValues (r : TerminalRunReceipt) : List Str :=
  let values := [formatInt r.schemaVersion, r.receiptType, r.startedAt, r.endedAt, r.provider,
    r.leaseID, r.slug, r.runID, r.command, r.commandSHA256, formatInt r.exitCode,
    formatInt r.syncMs, formatInt r.commandMs, formatInt r.durationMs, r.logSHA256,
    r.retainedLogSHA256, formatBool r.logTruncated]
  -- version 3 and later sign the evidence digest
  (if terminalReceiptSchemaVersion ≤ r.schemaVersion then values ++ [r.evidenceSHA256]
    else values) ++ [r.publicKey, r.signer]

def TerminalRunReceipt.domain (r : TerminalRunReceipt) : Str :=
  if terminalReceiptSchemaVersion ≤ r.schemaVersion then str "crabbox-terminal-receipt-v3\x00"
  else str "crabbox-terminal-receipt-v2\x00"

def terminalReceiptSigningBytes (r : TerminalRunReceipt) : List UInt8 :=
  lengthPrefixedBytes r.domain r.signedValues

end Payload

section Encoding

def omitEmpty (value : Str) : Option (Node ℤ Str) :=
  if value = [] then none else some (.string value)

def TerminalRunReceipt.member (r : TerminalRunReceipt) : ReceiptField → Option (Node ℤ Str)
  | .schemaVersion => some (.number r.schemaVersion.toInt)
  | .receiptType => some (.string r.receiptType)
  | .startedAt => some (.string r.startedAt)
  | .endedAt => some (.string r.endedAt)
  | .provider => some (.string r.provider)
  | .leaseID => omitEmpty r.leaseID
  | .slug => omitEmpty r.slug
  | .runID => some (.string r.runID)
  | .command => some (.string r.command)
  | .commandSHA256 => some (.string r.commandSHA256)
  | .exitCode => some (.number r.exitCode.toInt)
  | .syncMs => some (.number r.syncMs.toInt)
  | .commandMs => some (.number r.commandMs.toInt)
  | .durationMs => some (.number r.durationMs.toInt)
  | .logSHA256 => some (.string r.logSHA256)
  | .retainedLogSHA256 => some (.string r.retainedLogSHA256)
  | .logTruncated => some (.bool r.logTruncated)
  | .evidenceSHA256 => omitEmpty r.evidenceSHA256
  | .publicKey => some (.string r.publicKey)
  | .signer => some (.string r.signer)
  | .signature => some (.string r.signature)

def TerminalRunReceipt.tree (r : TerminalRunReceipt) : Node ℤ Str :=
  .object (listed (fun field => str (ReceiptField.name field)) ReceiptField.all r.member)

end Encoding

section Validation

variable (crypto : Crypto) (go : GoLibrary)

/-- `strings.TrimSpace(value) == ""`. -/
def isBlank (value : Str) : Bool :=
  (Utf8.decode value).all fun rune => rune.elim false go.isSpace

/-- `Sub`, which saturates. -/
def timeSub (t u : Time) : ℤ := max (-2 ^ 63) (min (2 ^ 63 - 1) (t.nanoseconds - u.nanoseconds))

/-- `Duration.Milliseconds`. -/
def milliseconds (duration : ℤ) : ℤ := duration.tdiv 1000000

def maxTerminalReceiptFieldBytes : Nat := 4 * 1024

def maxTerminalReceiptIdentityBytes : Nat := 256

def checkRequired (field : String × Str) : Except String Unit := do
  refuse (isBlank go field.2 = true) ("invalid " ++ field.1)
  refuse (maxTerminalReceiptFieldBytes < field.2.length)
    (field.1 ++ " exceeds " ++ toString maxTerminalReceiptFieldBytes ++ " bytes")

def checkIdentity (field : String × Str) : Except String Unit :=
  refuse (maxTerminalReceiptIdentityBytes < field.2.length)
    (field.1 ++ " exceeds " ++ toString maxTerminalReceiptIdentityBytes ++ " bytes")

def checkDigest (field : String × Str) : Except String Unit :=
  refuse (validSHA256Digest field.2 = false) ("invalid " ++ field.1)

variable (r : TerminalRunReceipt)

def checkEvidenceDigest : Except String Unit :=
  if r.evidenceSHA256 = [] then
    refuse (terminalReceiptSchemaVersion ≤ r.schemaVersion)
      "v3 terminal receipt must bind evidence_sha256"
  else do
    refuse (r.schemaVersion < terminalReceiptSchemaVersion)
      "v2 terminal receipt must not contain evidence_sha256"
    refuse (validLowercaseHexDigest r.evidenceSHA256 32 = false) "invalid evidence_sha256"

def checkSignature : Except String Unit :=
  if r.signature = [] then .ok ()
  else do
    let signature ← obtainOr (go.decodeBase64 r.signature) "invalid signature"
    refuse (signature.length ≠ 64) "invalid signature"

/-- The maps the source ranges over are listed in one order here; it decides which of several errors
is reported. -/
def validateTerminalRunReceipt : Except String Unit := do
  refuse (r.receiptType ≠ terminalReceiptType) "unsupported terminal receipt type"
  refuse (r.schemaVersion ≠ terminalReceiptSchemaVersion ∧
      r.schemaVersion ≠ terminalReceiptV2SchemaVersion)
    ("unsupported terminal receipt schema_version " ++ toString r.schemaVersion.toInt)
  each [("started_at", r.startedAt), ("ended_at", r.endedAt), ("provider", r.provider),
    ("run_id", r.runID), ("command", r.command), ("command_sha256", r.commandSHA256),
    ("log_sha256", r.logSHA256), ("retained_log_sha256", r.retainedLogSHA256),
    ("public_key", r.publicKey), ("signer", r.signer)] (checkRequired go)
  each [("lease_id", r.leaseID), ("slug", r.slug)] checkIdentity
  let startedAt ← obtainOr (go.parseTime r.startedAt) "invalid started_at"
  let endedAt ← obtainOr (go.parseTime r.endedAt) "invalid ended_at"
  refuse (endedAt.before startedAt = true) "invalid ended_at"
  refuse (r.exitCode < 0 ∨ r.syncMs < 0 ∨ r.commandMs < 0 ∨ r.durationMs < 0)
    "invalid terminal timing or exit code"
  refuse (r.durationMs.toInt ≠ milliseconds (timeSub endedAt startedAt))
    "duration_ms does not match timestamps"
  each [("command_sha256", r.commandSHA256), ("log_sha256", r.logSHA256),
    ("retained_log_sha256", r.retainedLogSHA256), ("signer", r.signer)] checkDigest
  checkEvidenceDigest r
  let publicKey ← obtainOr (go.decodeBase64 r.publicKey) "invalid public_key"
  refuse (publicKey.length ≠ 32) "invalid public_key"
  refuse (r.signer ≠ attestFingerprint crypto publicKey) "signer does not match public_key"
  checkSignature go r

end Validation

end Crabedence.Attest
