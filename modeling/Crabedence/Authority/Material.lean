import Crabedence.Capability.Admission

/-!
# Stored grant material

How a stored grant row becomes a grant again.  Both stores decode the capability list and the
constraint map strictly and then compare the digest of what they decoded with the stored digest; they
differ in how the lists and the times are stored.
-/

namespace Crabedence.Authority

open Go Json Capability

/-- `strings.TrimSpace` leaves nothing. -/
def isBlank (raw : Str) : Bool := (Utf8.decode raw).all fun rune => rune.any isSpace

section Decode

variable (printing : Printing)

def cannotUnmarshal (value : Value Number) (type : String) : String :=
  "json: cannot unmarshal " ++ unmarshalKind value ++ " into Go value of type " ++ type

/-- `json.Unmarshal` as far as the document goes. -/
def unmarshalDocument (raw : Str) : Except String (Value Number) := do
  let (document, rest) ← (decodeValue (Utf8.decode raw)).mapError printing.texts.decode
  (requireEOF rest).mapError printing.texts.decode
  return document

/-- A document decoded into a `[]string`, which null leaves nil. -/
def unmarshalStrings : Value Number → Except String (Option (List Str))
  | .null => .ok none
  | .array items => do
      let strings ← items.mapM fun item =>
        match unmarshalString item with
        | some text => .ok text
        | none => .error (cannotUnmarshal item "string")
      return some strings
  | other => .error (cannotUnmarshal other "[]string")

/-- A document decoded into a `map[string][]string`, which null leaves nil; of a repeated key the last
member stays. -/
def unmarshalConstraints : Value Number → Except String (Option (Map (Option (List Str))))
  | .null => .ok none
  | .object members => do
      let entries ← members.mapM fun member => do
        let strings ← unmarshalStrings member.2
        return (goString member.1, strings)
      return some (.ofEntries entries)
  | other => .error (cannotUnmarshal other "map[string][]string")

def decodeCanonical {A : Type} (name : String) (unmarshal : Value Number → Except String A)
    (encode : A → Value Int) (raw : Str) : Except Str A :=
  if isBlank raw then .error (str (name ++ ": empty material"))
  else
    match (unmarshalDocument printing raw).bind unmarshal with
    | .error failure => .error (str (name ++ ": " ++ failure))
    | .ok value =>
      if marshal ((encode value).map integerText) ≠ raw then
        .error (str (name ++ ": ") ++ printing.quote raw ++
          str " is not the canonical encoding of its value")
      else .ok value

def decodeCapabilitiesJSON (raw : Str) : Except Str (List Str) :=
  (decodeCanonical printing "capabilities" unmarshalStrings stringsValue raw).map fun caps =>
    caps.getD []

def optionalConstraints : Option (Map (Option (List Str))) → Value Int
  | none => .null
  | some constraints => constraintsValue constraints

/-- The decoded map as the grant holds it: no map and no entries are the same, and so are no list and an
empty list. -/
def heldConstraints (constraints : Option (Map (Option (List Str)))) : Map (List Str) :=
  (constraints.getD .empty).mapValues fun values => values.getD []

def decodeConstraintsJSON (raw : Str) : Except Str (Map (List Str)) :=
  (decodeCanonical printing "constraints" unmarshalConstraints optionalConstraints raw).map
    heldConstraints

/-- The text of a `jsonb` value has spaces, so it is not compared with its encoding. -/
def decodeJSONBConstraints (raw : Str) : Except Str (Map (List Str)) :=
  if isBlank raw then .error (str "constraints: empty material")
  else
    match (unmarshalDocument printing raw).bind unmarshalConstraints with
    | .error failure => .error (str ("constraints: " ++ failure))
    | .ok constraints => .ok (heldConstraints constraints)

/-- A `text[]` literal without quoting. -/
def parsePostgresTextArray (s : Str) : Except Str (List Str) :=
  if s = [] then .ok []
  else if s.length < 2 ∨ s.head? ≠ some 0x7b ∨ s.getLast? ≠ some 0x7d then
    .error (str "capabilities: " ++ printing.quote s ++ str " is not a text[] literal")
  else
    let inner := s.tail.dropLast
    if inner = [] then .ok []
    else if inner.any fun byte => byte = 0x22 || byte = 0x5c || byte = 0x7b then
      .error (str "capabilities: unexpected quoting in " ++ printing.quote s)
    else .ok (inner.splitOn 0x2c)

end Decode

inductive Engine where
  | sqlite
  | postgres
deriving DecidableEq, Repr

/-- A row of `authority_grants` under its `grant_id`, as far as it is read.  Times are milliseconds in
SQLite and microseconds in PostgreSQL. -/
structure GrantRow where
  generation : Int
  principal : Str
  capabilities : Str
  constraints : Str
  grantDigest : Str
  issuedAt : Option Int64
  expiresAt : Option Int64
  revoked : Bool
deriving DecidableEq

namespace Engine

variable (engine : Engine)

def millis (stored : Int64) : Int :=
  match engine with
  | sqlite => stored.toInt
  | postgres => stored.toInt / 1000

def instant (stored : Option Int64) : Time :=
  match stored with
  | none => .zero
  | some time => .ofUnixMilli (engine.millis time)

def decodeMaterial (printing : Printing) (row : GrantRow) :
    Except Str (List Str × Map (List Str)) := do
  match engine with
  | sqlite =>
    let caps ← decodeCapabilitiesJSON printing row.capabilities
    let constraints ← decodeConstraintsJSON printing row.constraints
    return (caps, constraints)
  | postgres =>
    let caps ← parsePostgresTextArray printing row.capabilities
    let constraints ← decodeJSONBConstraints printing row.constraints
    return (caps, constraints)

end Engine

section Resolve

variable (engine : Engine) (printing : Printing) (sha256 : List UInt8 → Str)

def GrantRow.grant (row : GrantRow) (grantID : Str) (caps : List Str)
    (constraints : Map (List Str)) : Grant where
  id := grantID
  principal := row.principal
  capabilities := caps
  constraints := constraints
  expiresAt := engine.instant row.expiresAt
  revoked := row.revoked
  issuedAt := engine.instant row.issuedAt
  generation := row.generation
  digest := row.grantDigest

/-- `expires_at IS NULL OR expires_at > now`, by the clock of the database. -/
def GrantRow.unexpired (row : GrantRow) (now : Int64) : Bool :=
  row.expiresAt.all fun expiresAt => decide (now < expiresAt)

def unverified (grantID : Str) (generation : Int) (reason : Str) : Str :=
  str "grant material could not be verified: grant " ++ grantID ++ str " generation " ++
    str (toString generation) ++ reason

/-- `Resolve`, given the row of the latest generation and the time at which it was read. -/
def resolve (grantID principal : Str) (latest : Option GrantRow) (now : Int64) :
    Except Str (Option Grant) :=
  if grantID = [] then .ok none
  else
    match latest with
    | none => .ok none
    | some row =>
      if row.principal ≠ principal ∨ row.revoked = true ∨ row.unexpired now = false then .ok none
      else
        match engine.decodeMaterial printing row with
        | .error reason => .error (unverified grantID row.generation (str ": " ++ reason))
        | .ok (caps, constraints) =>
          let g := row.grant engine grantID caps constraints
          if verifyGrantDigest sha256 g then .ok (some g)
          else .error (unverified grantID row.generation
            (str " stored digest does not match its material"))

/-- A grant that is resolved was scanned from a row of its principal that is neither revoked nor expired,
and its digest was compared. -/
theorem resolve_some {engine : Engine} {printing : Printing} {sha256 : List UInt8 → Str} {g : Grant}
    {grantID principal : Str} {row : GrantRow} {now : Int64}
    (resolved : resolve engine printing sha256 grantID principal (some row) now = .ok (some g)) :
    (row.principal = principal ∧ row.revoked = false) ∧ row.unexpired now = true ∧
      verifyGrantDigest sha256 g = true ∧
      ∃ caps constraints, g = row.grant engine grantID caps constraints := by
  unfold resolve at resolved
  dsimp only at resolved
  by_cases unnamed : grantID = []
  · rw [if_pos unnamed] at resolved
    cases resolved
  by_cases denied : row.principal ≠ principal ∨ row.revoked = true ∨ row.unexpired now = false
  · rw [if_neg unnamed, if_pos denied] at resolved
    cases resolved
  rw [if_neg unnamed, if_neg denied] at resolved
  rw [not_or, not_or, not_ne_iff, Bool.not_eq_true, Bool.not_eq_false] at denied
  cases decoded : engine.decodeMaterial printing row with
  | error reason =>
    rw [decoded] at resolved
    cases resolved
  | ok material =>
    rw [decoded] at resolved
    dsimp only at resolved
    split_ifs at resolved with verified
    cases resolved
    exact ⟨⟨denied.1, denied.2.1⟩, denied.2.2, verified, _, _, rfl⟩

end Resolve

end Crabedence.Authority
