import Crabedence.Digest.Canonical
import Crabedence.Go.Values
import Crabedence.Json.Struct

/-!
# Grants

A grant permits a principal some capabilities, on the resources its constraints list.  An empty
capability list is the wildcard, and a dimension without a list is unconstrained.  The digest of a
grant is taken over the JSON text of its material.
-/

namespace Crabedence.Capability

open Go Json

structure Grant where
  id : Str
  principal : Str
  capabilities : List Str
  constraints : Map (List Str)
  expiresAt : Time
  revoked : Bool
  issuedAt : Time
  generation : Int
  digest : Str

namespace Grant

def expired (g : Grant) (now : Time) : Bool := !g.expiresAt.isZero && !now.before g.expiresAt

def hasCapability (g : Grant) (capabilityID : Str) : Bool :=
  g.capabilities.isEmpty || g.capabilities.any fun c => c == capabilityID || c == str "*"

/-- The loop of `AllowsResource` over the values of a bound dimension. -/
def admits (allowed : List Str) (value : Str) : Bool :=
  allowed.any fun v => v == value || v == str "*"

def allowsResource (g : Grant) (dimension value : Str) : Bool :=
  match g.constraints.get? dimension with
  | none => true
  | some allowed => admits allowed value

end Grant

section Encoding

variable {N : Type}

def stringValue (text : Str) : Value N := .string (Utf8.decode text)

def stringsValue : Option (List Str) → Value N
  | none => .null
  | some items => .array (items.map stringValue)

def constraintsValue (constraints : Map (Option (List Str))) : Value N :=
  .object ((sortStrings constraints.keys).map fun key =>
    (Utf8.decode key, stringsValue ((constraints.get? key).getD none)))

end Encoding

def uniqueFrom (seen : List Str) : List Str → List Str
  | [] => []
  | v :: values => if v ∈ seen then uniqueFrom seen values else v :: uniqueFrom (v :: seen) values

def normalizeValues (values : List Str) : List Str := sortStrings (uniqueFrom [] values)

/-- `normalizeConstraints`; `none` is the nil map. -/
def normalizeConstraints (constraints : Map (List Str)) : Option (Map (List Str)) :=
  if constraints.entries.length = 0 then none else some (constraints.mapValues normalizeValues)

namespace Grant

def issuedAtMs (g : Grant) : Int := if g.issuedAt.isZero then 0 else g.issuedAt.unixMilli

def expiresAtMs (g : Grant) : Int := if g.expiresAt.isZero then 0 else g.expiresAt.unixMilli

def sortedCapabilities (g : Grant) : Option (List Str) :=
  if g.capabilities.length = 0 then none else some (sortStrings g.capabilities)

/-- The struct that `ComputeGrantDigest` marshals. -/
def canonical (g : Grant) : Value Int :=
  .object ([(nameText "grant_id", stringValue g.id), (nameText "generation", .number g.generation),
      (nameText "principal", stringValue g.principal),
      (nameText "capabilities", stringsValue g.sortedCapabilities)] ++
    (match normalizeConstraints g.constraints with
      | none => []
      | some constraints =>
        [(nameText "constraints", constraintsValue (constraints.mapValues some))]) ++
    [(nameText "issued_at_ms", .number g.issuedAtMs),
      (nameText "expires_at_ms", .number g.expiresAtMs)])

def hashedBytes (g : Grant) : List UInt8 := marshal (g.canonical.map integerText)

end Grant

section Digest

-- `sha256` gives the hexadecimal text of the hash
variable (sha256 : List UInt8 → Str)

def computeGrantDigest (g : Grant) : Str := sha256 g.hashedBytes

def verifyGrantDigest (g : Grant) : Bool :=
  decide (g.digest ≠ []) && decide (computeGrantDigest sha256 g = g.digest)

end Digest

end Crabedence.Capability
