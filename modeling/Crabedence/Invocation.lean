import Crabedence.Digest.Canonical
import Crabedence.Dispatch.Types
import Crabedence.Json.Stream
import Crabedence.Json.Struct

/-!
# The invocation ABI

`parseInvocationRequest`: wire bytes are scanned token by token under structural rules, with a stack
of open containers, before they are decoded into a request.
-/

namespace Crabedence

open Json

def maxInvocationDepth : Nat := 64

inductive AbiFieldType where
  | string
  | object
  | integer
deriving DecidableEq, Repr

/-- A known-field set. -/
abbrev AbiFields := List (String × AbiFieldType)

def abiRootFields : AbiFields := [
  ("capability", .string), ("arguments", .object), ("authority", .object),
  ("execution_class", .string), ("idempotency_key", .string), ("deadline", .string)]

def abiAuthorityFields : AbiFields := [
  ("principal", .string), ("authority_ref", .string), ("grant_id", .string),
  ("authority_generation", .integer), ("authority_digest", .string)]

def AbiFields.type? (fields : AbiFields) (key : Text) : Option AbiFieldType :=
  (fields.find? fun field => decide (nameText field.1 = key)).map Prod.snd

/-- The regular expression `^-?(0|[1-9][0-9]*)$`. -/
def abiIntegerLiteral (literal : List Char) : Bool :=
  let digits := if literal.head? = some '-' then literal.tail else literal
  decide (digits = ['0']) ||
    (decide (digits ≠ []) && decide (digits.head? ≠ some '0') && digits.all Char.isDigit)

inductive AbiKind where
  | null
  | string
  | number
  | bool
  | object
  | array
deriving DecidableEq, Repr

inductive AbiFrameKind where
  | unknown
  | root
  | authority
deriving DecidableEq, Repr

/-- One open container; `fields` is the known-field set of a root or authority object. -/
structure AbiScanFrame where
  object : Bool
  kind : AbiFrameKind
  fields : Option AbiFields
  keys : List Text
  /-- an object key is awaiting its value -/
  pending : Bool
  key : Text
  path : String

/-- The texts of other packages: decoder errors, struct decoding errors and `%q`. -/
structure AbiTexts where
  decode : DecodeError → String
  struct : StructError → String
  quote : Text → String

section Scan

variable (texts : AbiTexts)

def validateABIField (frame : AbiScanFrame) (kind : AbiKind) (numberLiteral : List Char) :
    Except String Unit :=
  match frame.fields with
  | none => .ok ()
  | some fields =>
    match fields.type? frame.key with
    | none => .ok ()
    | some want =>
      let field := frame.path ++ "." ++ textString frame.key
      if kind = .null then
        .error ("null is not accepted for " ++ field ++ " (omit the field instead)")
      else
        match want with
        | .string =>
          if kind ≠ .string then .error (field ++ " must be a JSON string") else .ok ()
        | .object =>
          if kind ≠ .object then .error (field ++ " must be a JSON object") else .ok ()
        | .integer =>
          if kind ≠ .number then .error (field ++ " must be a JSON integer")
          else if abiIntegerLiteral numberLiteral = false then
            .error (field ++ " must be a JSON integer literal")
          else if parseInt numberLiteral = none then
            .error (field ++ " must fit in a signed 64-bit integer")
          else .ok ()

def rootFrame : AbiScanFrame where
  object := true
  kind := .root
  fields := some abiRootFields
  keys := []
  pending := false
  key := []
  path := "request"

def freeFrame (container : Container) (path : String) : AbiScanFrame where
  object := decide (container = .object)
  kind := .unknown
  fields := none
  keys := []
  pending := false
  key := []
  path := path

def memberFrame (top : AbiScanFrame) (container : Container) : AbiScanFrame :=
  let child := freeFrame container (top.path ++ "." ++ textString top.key)
  if top.kind = .root ∧ top.key = nameText "authority" then
    { child with kind := .authority, fields := some abiAuthorityFields }
  else child

/-- The variables of the token loop. -/
structure AbiScan where
  stack : List AbiScanFrame
  completed : Bool

def containerKind : Container → AbiKind
  | .array => .array
  | .object => .object

/-- A token that opens a container inside `top`. -/
def scanOpening (container : Container) (top : AbiScanFrame) (below : List AbiScanFrame)
    (completed : Bool) : Except String AbiScan :=
  if maxInvocationDepth ≤ (top :: below).length then
    .error ("request nesting exceeds " ++ toString maxInvocationDepth ++ " levels")
  else if top.object ∧ top.pending then
    match validateABIField top (containerKind container) [] with
    | .error failure => .error failure
    | .ok () =>
      .ok ⟨memberFrame top container :: { top with pending := false } :: below, completed⟩
  else if top.object then .error ("unexpected object in " ++ top.path)
  else .ok ⟨freeFrame container (top.path ++ "[]") :: top :: below, completed⟩

def scanClosing (container : Container) (top : AbiScanFrame) (below : List AbiScanFrame)
    (completed : Bool) : Except String AbiScan :=
  if decide (container = .object) ≠ top.object then
    .error ("mismatched JSON delimiter in " ++ top.path)
  else if top.object ∧ top.pending then
    .error ("key " ++ texts.quote top.key ++ " in " ++ top.path ++ " has no value")
  else .ok ⟨below, completed || below.isEmpty⟩

def scanScalar (kind : AbiKind) (numberLiteral : List Char) (top : AbiScanFrame)
    (below : List AbiScanFrame) (completed : Bool) : Except String AbiScan :=
  if top.object ∧ top.pending then
    match validateABIField top kind numberLiteral with
    | .error failure => .error failure
    | .ok () => .ok ⟨{ top with pending := false } :: below, completed⟩
  else .ok ⟨top :: below, completed⟩

def scanKey (key : Text) (top : AbiScanFrame) (below : List AbiScanFrame) (completed : Bool) :
    Except String AbiScan :=
  if key ∈ top.keys then
    .error ("duplicate key " ++ texts.quote key ++ " in " ++ top.path)
  else if (top.fields.any fun fields => (fields.type? key).isNone) then
    .error ("unknown field " ++ texts.quote key ++ " in " ++ top.path)
  else .ok ⟨{ top with keys := key :: top.keys, pending := true, key := key } :: below, completed⟩

/-- One turn of the loop. -/
def scanToken (scan : AbiScan) (token : Token) : Except String AbiScan :=
  match scan.stack with
  | [] =>
    if scan.completed then .error "trailing data after the request object"
    else
      match token with
      | .opening .object => .ok ⟨[rootFrame], scan.completed⟩
      | _ => .error "request must be a JSON object"
  | top :: below =>
    match token with
    | .opening container => scanOpening container top below scan.completed
    | .closing container => scanClosing texts container top below scan.completed
    | .scalar (.string text) =>
      if top.object ∧ ¬ top.pending then scanKey texts text top below scan.completed
      else scanScalar .string [] top below scan.completed
    | .scalar (.number number) => scanScalar .number number.text top below scan.completed
    | .scalar (.bool _) => scanScalar .bool [] top below scan.completed
    | .scalar .null => scanScalar .null [] top below scan.completed
    -- the decoder hands out containers as delimiters only
    | .scalar (.array _) | .scalar (.object _) => .ok scan

/-- The token loop. -/
def scanTokens (decoder : Decoder) (scan : AbiScan) : Except String Unit :=
  match _read : decoder.token replacementCharacter with
  | .eof =>
    if scan.stack ≠ [] then .error "invalid JSON: unexpected end of input"
    else if scan.completed = false then .error "request must be a JSON object"
    else .ok ()
  | .failed =>
    if scan.completed then .error "trailing data after the request object"
    else .error ("invalid JSON: " ++ texts.decode .malformed)
  | .token token next =>
    match scanToken texts scan token with
    | .error failure => .error failure
    | .ok scan => scanTokens next scan
termination_by decoder.rest.length
decreasing_by exact Decoder.token_shrinks _read

/-- `utf8.Valid`. -/
def utf8Valid (data : List UInt8) : Bool := (Utf8.decode data).all Option.isSome

def scanInvocationStructure (data : List UInt8) : Except String Unit :=
  if utf8Valid data = false then .error "request is not valid UTF-8"
  else scanTokens texts (.new (Utf8.decode data)) ⟨[], false⟩

end Scan

section Decode

/-- The request on the wire.  `arguments` is the document of the raw message, where there is one. -/
structure InvocationRequest where
  capability : String
  arguments : Option (Value Number)
  authority : RequestAuthority
  executionClass : String
  idempotencyKey : String
  deadline : String

inductive AuthorityField where
  | principal
  | authorityRef
  | grantID
  | authorityGeneration
  | authorityDigest
deriving DecidableEq

inductive RequestField where
  | capability
  | arguments
  | authority
  | executionClass
  | idempotencyKey
  | deadline
deriving DecidableEq

def AuthorityField.name : AuthorityField → Text
  | principal => nameText "principal"
  | authorityRef => nameText "authority_ref"
  | grantID => nameText "grant_id"
  | authorityGeneration => nameText "authority_generation"
  | authorityDigest => nameText "authority_digest"

def AuthorityField.all : List AuthorityField :=
  [principal, authorityRef, grantID, authorityGeneration, authorityDigest]

def RequestField.name : RequestField → Text
  | capability => nameText "capability"
  | arguments => nameText "arguments"
  | authority => nameText "authority"
  | executionClass => nameText "execution_class"
  | idempotencyKey => nameText "idempotency_key"
  | deadline => nameText "deadline"

def RequestField.all : List RequestField :=
  [capability, arguments, authority, executionClass, idempotencyKey, deadline]

def AuthorityField.assign (value : Value Number) (target : RequestAuthority) :
    AuthorityField → Except StructError RequestAuthority
  | principal => assignString (fun s t => { t with principal := s }) textString target value
  | authorityRef => assignString (fun s t => { t with authorityRef := s }) textString target value
  | grantID => assignString (fun s t => { t with grantID := s }) textString target value
  | authorityGeneration => assignInt (fun n t => { t with authorityGeneration := n }) target value
  | authorityDigest =>
    assignString (fun s t => { t with authorityDigest := s }) textString target value

variable (folding : Folding)

def assignAuthority (value : Value Number) (target : RequestAuthority) :
    Except StructError RequestAuthority :=
  match value with
  | .object members =>
    decodeMembers folding AuthorityField.name AuthorityField.all
      (fun field value target => field.assign value target) members target
  | .null => .ok target
  | _ => .error .mismatch

def RequestField.assign (value : Value Number) (target : InvocationRequest) :
    RequestField → Except StructError InvocationRequest
  | capability => assignString (fun s t => { t with capability := s }) textString target value
  | arguments => .ok { target with arguments := some value }
  | authority =>
    (assignAuthority folding value target.authority).map fun authority =>
      { target with authority := authority }
  | executionClass =>
    assignString (fun s t => { t with executionClass := s }) textString target value
  | idempotencyKey =>
    assignString (fun s t => { t with idempotencyKey := s }) textString target value
  | deadline => assignString (fun s t => { t with deadline := s }) textString target value

def InvocationRequest.zero : InvocationRequest := ⟨"", none, ⟨"", "", "", 0, ""⟩, "", "", ""⟩

/-- `Decode` of a document into a request. -/
def decodeRequest (document : Value Number) : Except StructError InvocationRequest :=
  match document with
  | .object members =>
    decodeMembers folding RequestField.name RequestField.all
      (fun field value target => field.assign folding value target) members .zero
  | .null => .ok .zero
  | _ => .error .mismatch

def parseInvocationRequest (texts : AbiTexts) (data : List UInt8) :
    Except String InvocationRequest := do
  scanInvocationStructure texts data
  let (document, rest) ← (decodeValue (Utf8.decode data)).mapError texts.decode
  let req ← (decodeRequest folding document).mapError texts.struct
  match (Decoder.new rest).token replacementCharacter with
  | .eof => return req
  | _ => throw "trailing data after the invocation object"

end Decode

end Crabedence
