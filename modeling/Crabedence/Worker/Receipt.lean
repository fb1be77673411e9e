import Crabedence.Attest.Receipt
import Crabedence.Script.Json

/-!
# The worker's signed bytes

The bytes the worker verifies the signature of a terminal receipt over, from the value `JSON.parse`
returned, and the bytes it hashes a command from.
-/

namespace Crabedence.Worker

open Attest Checks Script

/-- The functions of the script runtime that the bytes rest on. -/
structure ScriptLibrary where
  /-- The shortest decimal text of a number that is not a small integer. -/
  shortest : Number → List Char

section Fields

def key (field : ReceiptField) : Utf16.Str := Utf16.str field.name

/-- `receipt[field]`. -/
def field (receipt : Value) (name : ReceiptField) : Option Value := receipt.get? (key name)

def terminalReceiptFields : List ReceiptField :=
  [.schemaVersion, .receiptType, .startedAt, .endedAt, .provider, .leaseID, .slug, .runID, .command,
    .commandSHA256, .exitCode, .syncMs, .commandMs, .durationMs, .logSHA256, .retainedLogSHA256,
    .logTruncated, .evidenceSHA256, .publicKey, .signer, .signature]

def terminalReceiptSigningFields : List ReceiptField :=
  terminalReceiptFields.filter fun field => decide (field ≠ .signature)

end Fields

section Digests

def lengthPrefixedPayload (domain : Utf16.Str) (values : List Utf16.Str) : List UInt8 :=
  Utf16.bytes domain ++ Framing.frames (values.map Utf16.bytes)

def commandPayload (command : List Utf16.Str) : List UInt8 :=
  lengthPrefixedPayload (Utf16.str "crabbox-command-v1\x00") command

end Digests

section Parse

variable (library : ScriptLibrary)

def terminalReceiptSigningBytes (receipt : Value) : List UInt8 :=
  let latest := Value.atLeast (field receipt .schemaVersion) 3
  -- version 2 receipts do not include `evidence_sha256`
  let fields := if latest then terminalReceiptSigningFields
    else terminalReceiptSigningFields.filter fun name => decide (name ≠ .evidenceSHA256)
  let domain := if latest then "crabbox-terminal-receipt-v3\x00"
    else "crabbox-terminal-receipt-v2\x00"
  lengthPrefixedPayload (Utf16.str domain) (fields.map fun name =>
    Value.toText library.shortest ((field receipt name).getD .null))

end Parse

end Crabedence.Worker
