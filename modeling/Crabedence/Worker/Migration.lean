import Crabedence.Worker.Evidence
import Crabedence.Worker.RunRepository

/-!
# The coordinator export

`validateCoordinatorExport` with the digest it recomputes.  The result is `none` where the hash of a
missing value throws; a document that is accepted comes back with its entries in key order.  `sha256`
is the hash of bytes, in hexadecimal.
-/

namespace Crabedence.Worker

open Script
open Utf16 (Str str)

structure CoordinatorExportEntry where
  key : Str
  value : Value
  sha256 : Str

/-- Every export has the same kind and version. -/
structure CoordinatorStateExport where
  exportedAt : Str
  entryCount : ℕ
  digest : Str
  entries : List CoordinatorExportEntry

def textOf (value : Value) (field : String) : Option Str :=
  match value.get? (str field) with
  | some (.string text) => some text
  | _ => none

def isCount (value : Option Value) (count : ℕ) : Bool :=
  match value with
  | some (.number (.finite own)) => decide (own = count)
  | _ => false

def sortEntries (entries : List CoordinatorExportEntry) : List CoordinatorExportEntry :=
  entries.insertionSort fun left right => left.key ≤ right.key

def exportLine (entry : CoordinatorExportEntry) : Str := entry.key ++ str ":" ++ entry.sha256

def exportText (entries : List CoordinatorExportEntry) : Str :=
  (str "\n").intercalate ((sortEntries entries).map exportLine)

variable (shortest : Number → List Char) (sha256 : List UInt8 → List Char)

def canonicalCoordinatorJSON (value : Value) : List Char :=
  escapeJSONSeparators (stringify shortest (stableJSONValue value))

def sha256Hex (text : Str) : Str := Utf16.encode (sha256 (Utf16.bytes text))

def valueSha256 (value : Value) : Str :=
  sha256Hex sha256 (Utf16.encode (canonicalCoordinatorJSON shortest value))

def exportDigest (entries : List CoordinatorExportEntry) : Str :=
  sha256Hex sha256 (exportText entries)

/-- One turn of the check: the keys seen after it, and the entry or its error. -/
def checkEntry (seen : List Str) (index : ℕ) (entry : Value) :
    Option (List Str × Except Str CoordinatorExportEntry) :=
  let label := str "entries[" ++ Utf16.encode (Json.integerText index) ++ str "]"
  match (textOf entry "key").filter (· ≠ []) with
  | none => some (seen, .error (label ++ str " is missing a string key"))
  | some key =>
    if key ∈ seen then some (seen, .error (label ++ str " duplicates key " ++ key))
    else
      match (textOf entry "sha256").filter (hexRun 64) with
      | none => some (seen, .error (label ++ str " has an invalid sha256"))
      | some hash =>
        (entry.get? (str "value")).map fun value =>
          (key :: seen,
            if valueSha256 shortest sha256 value = hash then .ok ⟨key, value, hash⟩
            else .error (label ++ str " value does not match its sha256"))

def checkEntries : List Str → ℕ → List Value → Option (List Str × List CoordinatorExportEntry)
  | _, _, [] => some ([], [])
  | seen, index, entry :: rest => do
    let (seen, checked) ← checkEntry shortest sha256 seen index entry
    let (errors, entries) ← checkEntries seen (index + 1) rest
    match checked with
    | .error error => some (error :: errors, entries)
    | .ok entry => some (errors, entry :: entries)

def headerErrors (document : Value) : List Str :=
  let version := document.get? (str "version")
  (if textOf document "kind" = some (str "crabbox-coordinator-export") then []
    else [str "kind must be \"crabbox-coordinator-export\""]) ++
  if isCount version 1 then []
  else [str "unsupported export version " ++
    version.elim (str "undefined") fun value => Utf16.encode (stringify shortest value)]

def validateCoordinatorExport (document : Value) :
    Option (Except (List Str) CoordinatorStateExport) :=
  match document with
  | .object _ =>
    let header := headerErrors shortest document
    match document.get? (str "entries") with
    | some (.array rawEntries) => do
      let (entryErrors, entries) ← checkEntries shortest sha256 [] 0 rawEntries
      let digest := exportDigest sha256 (sortEntries entries)
      match header ++ entryErrors ++ (if isCount (document.get? (str "entryCount")) rawEntries.length
          then [] else [str "entryCount does not match entries length"]) with
      | [] =>
        if textOf document "digest" = some digest then
          some (.ok ⟨((document.get? (str "exportedAt")).getD .null).toText shortest,
            rawEntries.length, digest, sortEntries entries⟩)
        else some (.error [str "digest does not match entries"])
      | errors => some (.error errors)
    | _ => some (.error (header ++ [str "entries must be an array"]))
  | _ => some (.error [str "export document is not an object"])

end Crabedence.Worker
