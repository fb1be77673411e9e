import Crabedence.Authority.Material
import Crabedence.Relational.Table
import Crabedence.Resumption.Program

/-!
# The authority stores

The methods of the two stores as programs over statements.  They are the same but for how a row is
stored, so the storage is a parameter.  All rows of both tables that a method touches belong to one
`grant_id`; they are a `Reference`.  A transaction works on its own copy of the reference, which is
passed from statement to statement and becomes visible when it commits.
-/

namespace Crabedence.Authority

open Go Json Capability Relational Resumption

/-- A row of `authority_heads`, without its version. -/
structure Head where
  nextGeneration : Int
  closed : Bool
deriving DecidableEq

/-- The rows of `authority_grants` under one `grant_id`; the primary key is the generation. -/
abbrev GrantTable := Table GrantRow Int Int GrantRow.generation GrantRow.generation

/-- What is stored under one `grant_id`. -/
structure Reference where
  head : Option Head
  grants : GrantTable

namespace Reference

def empty : Reference := ⟨none, Table.empty⟩

variable (reference : Reference)

/-- `COALESCE(MAX(generation), 0) + 1`. -/
def seed : Int :=
  ((reference.grants.rows.map GrantRow.generation).max?).getD 0 + 1

def ensureHead : Reference :=
  match reference.head with
  | some _ => reference
  | none => { reference with head := some { nextGeneration := reference.seed, closed := false } }

/-- `ORDER BY generation DESC LIMIT 1`. -/
def latest : Option GrantRow :=
  (reference.grants.rows.insertionSort fun row other => other.generation ≤ row.generation).head?

def advanceHead : Reference :=
  { reference with
    head := reference.head.map fun head => { head with nextGeneration := head.nextGeneration + 1 } }

def closeHead : Reference :=
  { reference with head := reference.head.map fun head => { head with closed := true } }

/-- `SET revoked = 1` on the selected rows. -/
def revoke (selected : GrantRow → Bool) : Reference :=
  { reference with
    grants := reference.grants.update selected (fun row => { row with revoked := true })
      fun _ => ⟨rfl, rfl⟩ }

end Reference

/-- The statements that follow the lock, as they act on the transaction's copy; no result is a violated
constraint.  An update reports how many rows it changed. -/
inductive Statement : Type → Type where
  | insertGrant (row : GrantRow) : Statement Unit
  | advanceHead : Statement Unit
  | closeHead : Statement Unit
  | revoke (selected : GrantRow → Bool) : Statement Nat

def Statement.apply {Reply : Type} (statement : Statement Reply) (reference : Reference) :
    Option (Reply × Reference) :=
  match statement with
  | .insertGrant row =>
    match reference.grants.insert row with
    | .ok grants => some ((), { reference with grants })
    | .error _ => none
  | .advanceHead => some ((), reference.advanceHead)
  | .closeHead => some ((), reference.closeHead)
  | .revoke selected => some (reference.grants.count selected, reference.revoke selected)

/-- What a method asks of the database and of the clock of the process.  Statements of a transaction
name it by its number and carry its copy of the reference. -/
inductive Operation : Type → Type 1 where
  | begin : Operation (Except Str Nat)
  | ensureHead (tx : Nat) (grantID : Str) : Operation (Except Str (Option Reference))
  | lockHead (tx : Nat) (grantID : Str) (own : Option Reference) :
      Operation (Except Str (Head × Reference))
  | execute {Reply : Type} (tx : Nat) (statement : Statement Reply) (own : Reference) :
      Operation (Except Str (Reply × Reference))
  | commit (tx : Nat) (grantID : Str) (own : Reference) : Operation (Except Str Unit)
  | rollback (tx : Nat) : Operation Unit
  | latest (grantID : Str) : Operation (Except Str (Option GrantRow × Int64))
  | now : Operation Time

abbrev Method := ExceptT Str (Program Operation)

section Methods

variable {Result : Type}

def call (operation : Operation (Except Str Result)) : Method Result :=
  ExceptT.mk (Program.perform operation)

def wrapping (context : String) (failure : Str) : Str := str (context ++ ": ") ++ failure

def callWrapping (context : String) (operation : Operation (Except Str Result)) : Method Result :=
  ExceptT.mk ((Program.perform operation).bind fun reply =>
    .done (reply.mapError (wrapping context)))

/-- `BeginTx` with the deferred `Rollback`, which does nothing after a commit. -/
def transact (body : Nat → Method Result) : Method Result := do
  let tx ← call .begin
  ExceptT.mk ((body tx).run.bind fun reply =>
    (Program.perform (.rollback tx)).bind fun _ => .done reply)

def lockAuthorityHead (tx : Nat) (grantID : Str) : Method (Head × Reference) := do
  let own ← callWrapping "failed to ensure authority head" (.ensureHead tx grantID)
  callWrapping "failed to lock authority head" (.lockHead tx grantID own)

/-- How a row is stored: as JSON texts and milliseconds, or as `text[]`, `jsonb` and `TIMESTAMPTZ`, which
PostgreSQL prints as it does and refuses what it cannot hold. -/
inductive Storage where
  | sqlite
  | postgres (textArray : Option (List Str) → Except Str Str) (jsonb : Str → Except Str Str)

namespace Storage

def engine : Storage → Engine
  | sqlite => .sqlite
  | postgres _ _ => .postgres

/-- `nullableTime` in microseconds. -/
def timestamp (t : Time) : Except Str (Option Int64) :=
  let microseconds := t.nanoseconds / 1000
  if t.isZero then .ok none
  else if -2 ^ 63 ≤ microseconds ∧ microseconds < 2 ^ 63 then .ok (some (.ofInt microseconds))
  else .error (str "timestamp out of range")

/-- The row that `INSERT INTO authority_grants` writes. -/
def row (storage : Storage) (grant : Grant) (capabilities : Option (List Str))
    (constraints : Map (Option (List Str))) (expiresAt : Time) : Except Str GrantRow := do
  let constraintsJSON := marshal ((constraintsValue constraints).map integerText)
  match storage with
  | sqlite =>
    return {
      generation := grant.generation
      principal := grant.principal
      capabilities := marshal ((stringsValue capabilities).map integerText)
      constraints := constraintsJSON
      grantDigest := grant.digest
      issuedAt := some (.ofInt grant.issuedAt.unixMilli)
      expiresAt := if expiresAt.isZero then none else some (.ofInt grant.expiresAt.unixMilli)
      revoked := false }
  | postgres textArray jsonb =>
    return {
      generation := grant.generation
      principal := grant.principal
      capabilities := ← textArray capabilities
      constraints := ← jsonb constraintsJSON
      grantDigest := grant.digest
      issuedAt := ← timestamp grant.issuedAt
      expiresAt := ← timestamp grant.expiresAt
      revoked := false }

end Storage

/-- The grant under a generation, times at millisecond resolution. -/
def issuedGrant (sha256 : List UInt8 → Str) (grantID principal : Str)
    (capabilities : Option (List Str)) (constraints : Map (Option (List Str))) (expiresAt now : Time)
    (generation : Int) : Grant :=
  let grant : Grant := {
    id := grantID
    principal
    capabilities := capabilities.getD []
    constraints := constraints.mapValues fun values => values.getD []
    expiresAt := if expiresAt.isZero then .zero else .ofUnixMilli expiresAt.unixMilli
    revoked := false
    issuedAt := .ofUnixMilli now.unixMilli
    generation
    digest := [] }
  { grant with digest := computeGrantDigest sha256 grant }

def issueGrantWithConstraints (storage : Storage) (sha256 : List UInt8 → Str)
    (grantID principal : Str) (capabilities : Option (List Str))
    (constraints : Map (Option (List Str))) (expiresAt : Time) : Method Grant :=
  transact fun tx => do
    let (head, own) ← lockAuthorityHead tx grantID
    if head.closed then
      throw (str "authority reference is closed: " ++ grantID)
    else do
      let now ← ExceptT.lift (Program.perform .now)
      let grant := issuedGrant sha256 grantID principal capabilities constraints expiresAt now
        head.nextGeneration
      match storage.row grant capabilities constraints expiresAt with
      | .error failure => throw (wrapping "failed to issue grant" failure)
      | .ok row => do
          let (_, own) ← callWrapping "failed to issue grant" (.execute tx (.insertGrant row) own)
          let (_, own) ← callWrapping "failed to advance authority head"
            (.execute tx .advanceHead own)
          call (.commit tx grantID own)
          return grant

def revokeWhere (grantID : Str) (selected : GrantRow → Bool) (missing : Str) : Method Unit :=
  transact fun tx => do
    let (_, own) ← lockAuthorityHead tx grantID
    let (rows, own) ← call (.execute tx (.revoke selected) own)
    if rows = 0 then throw missing
    else call (.commit tx grantID own)

def revokeGeneration (grantID : Str) (generation : Int) : Method Unit :=
  revokeWhere grantID (fun row => decide (row.generation = generation))
    (str "grant generation not found: " ++ grantID ++ str ("#" ++ toString generation))

def revokeGrant (grantID : Str) : Method Unit :=
  revokeWhere grantID (fun _ => true) (str "grant not found: " ++ grantID)

def closeAuthorityRef (grantID : Str) : Method Unit :=
  transact fun tx => do
    let (_, own) ← lockAuthorityHead tx grantID
    let (_, own) ← call (.execute tx .closeHead own)
    call (.commit tx grantID own)

/-- `Resolve` reads the latest generation and the clock of the database in one statement. -/
def resolveGrant (storage : Storage) (printing : Printing) (sha256 : List UInt8 → Str)
    (grantID principal : Str) : Method (Option Grant) :=
  if grantID = [] then return none
  else do
    let (latest, now) ← callWrapping "authority lookup failed" (.latest grantID)
    ExceptT.mk (.done (resolve storage.engine printing sha256 grantID principal latest now))

end Methods

end Crabedence.Authority
