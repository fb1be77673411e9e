import Crabedence.Script.Json
import Crabedence.Text.Base64

/-!
# Organisation identity

The keys under which records name their organisation, of `org-identity.ts`.  `none` is a thrown
error; a label is checked by its code units, none of which may be a surrogate.
-/

namespace Crabedence.Worker

open Script
open Utf16 (Str str)

def currentOrgKeyPrefix : Str := str "~1."

def missingOrgLabel : Str := str "unknown"

def missingOrgKey : Str := str "~0"

def isAlphanumericUnit (unit : UInt16) : Bool :=
  decide (0x61 ≤ unit ∧ unit ≤ 0x7a) || decide (0x41 ≤ unit ∧ unit ≤ 0x5a) ||
    decide (0x30 ≤ unit ∧ unit ≤ 0x39)

/-- The class `[a-zA-Z0-9_.@-]`. -/
def isLegacyUnit (unit : UInt16) : Bool :=
  isAlphanumericUnit unit || decide (unit ∈ str "_.@-")

def isLegacyOrgKey (value : Str) : Bool :=
  decide (1 ≤ value.length ∧ value.length ≤ 63) && value.all isLegacyUnit

def legacyOrgKey (value : Str) : Str :=
  let key := (value.map fun unit => if isLegacyUnit unit then unit else 0x5f).take 63
  if key = [] then missingOrgLabel else key

def validatedOrgLabel (value : Str) : Option Str :=
  if value.length < 1 ∨ 63 < value.length ∨ value.head? = some 0x20 ∨ value.getLast? = some 0x20 ∨
      value.all (fun unit => decide (0x20 ≤ unit ∧ unit ≤ 0x7e)) = false then none
  else some value

def replaceAll (old new : UInt16) (text : Str) : Str :=
  text.map fun unit => if unit = old then new else unit

def encodeBase64URL (value : Str) : Option Str :=
  (Base64.btoa value).map fun text =>
    (replaceAll 0x2f 0x5f (replaceAll 0x2b 0x2d text)).rdropWhile (· = 0x3d)

def decodeBase64URL (value : Str) : Option Str :=
  Base64.atob (Base64.fill (replaceAll 0x5f 0x2f (replaceAll 0x2d 0x2b value)))

def orgKeyForLabel (label : Str) : Option Str := do
  let validLabel ← validatedOrgLabel label
  let encoded ← encodeBase64URL validLabel
  some (currentOrgKeyPrefix ++ encoded)

def orgLabelFromKey : Value → Option Str
  | .string key =>
    let encoded := key.drop currentOrgKeyPrefix.length
    if currentOrgKeyPrefix <+: key ∧ encoded ≠ [] ∧
        encoded.all (fun unit => isAlphanumericUnit unit || decide (unit ∈ str "_-")) = true ∧
        encoded.length % 4 ≠ 1 then
      (decodeBase64URL encoded).filter fun label => orgKeyForLabel label = some key
    else none
  | _ => none

def isCurrentOrgKey (key : Value) : Bool :=
  match key with
  | .string text => decide (text = missingOrgKey) || (orgLabelFromKey key).isSome
  | _ => false

def sameOrgIdentityKey (left right : Str) : Bool :=
  decide (left = right) && isCurrentOrgKey (.string left)

def orgMatchesForAccounting (left right : Str) : Bool :=
  if sameOrgIdentityKey left right then true
  else
    match isLegacyOrgKey left, isLegacyOrgKey right with
    | true, true => decide (left = right)
    | false, false => false
    | leftLegacy, _ =>
      let legacy := if leftLegacy then left else right
      let current := if leftLegacy then right else left
      let label :=
        if current = missingOrgKey then some missingOrgLabel else orgLabelFromKey (.string current)
      decide (label.map legacyOrgKey = some legacy)

/-- The header of a request and the default of its environment. -/
structure OrgRequest where
  header : Option Str
  defaultOrg : Option Str

def requestOrgSource (request : OrgRequest) : Option Str :=
  match request.header with
  | some header => some header
  | none => request.defaultOrg.filter (· ≠ [])

def requestOrgKey (request : OrgRequest) : Option Str :=
  match requestOrgSource request with
  | some (unit :: units) => orgKeyForLabel (unit :: units)
  | _ => some missingOrgKey

end Crabedence.Worker
