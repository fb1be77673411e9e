import Crabedence.Attest.Evidence
import Crabedence.Worker.Receipt

/-!
# The worker's canonical form

The canonical JSON of a value, and the bytes `computeEvidenceDigest` hashes of the evidence that
`JSON.parse` returned.
-/

namespace Crabedence.Worker

open Attest Checks Script
open Json (Node sortMembers)

section Canonical

def stableJSONValue : Value → Value :=
  Node.fold ⟨.null, .bool, .number, .string, .array,
    fun members => .object (Value.assemble (sortMembers members))⟩

def escapeSeparator (c : Char) : List Char :=
  if c.toNat = 0x2028 then "\\u2028".toList
  else if c.toNat = 0x2029 then "\\u2029".toList
  else [c]

def escapeJSONSeparators (text : List Char) : List Char := text.flatMap escapeSeparator

/-- `{ ...ev, digest: "" }`. -/
def withoutDigest (ev : Value) : Value :=
  match ev with
  | .object members => .object (Value.assign members (Utf16.str "digest") (.string []))
  | other => other

/-- The bytes `computeEvidenceDigest` hashes. -/
def evidenceBytes (library : ScriptLibrary) (ev : Value) : List UInt8 :=
  Utf8.encode (escapeJSONSeparators (stringify library.shortest (stableJSONValue (withoutDigest ev))))

end Canonical

end Crabedence.Worker
