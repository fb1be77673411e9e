import Crabedence.Invocation
import Crabedence.Script.Json

/-!
# The invocation scanners

`InvocationScanner` of the TypeScript contract and `Scanner` of the Rust bridge mirror each other
function by function; they differ in how their language decodes a string token and writes a key, and
in what becomes of a byte-order mark.  The source indexes code units or bytes, which differ from
characters only where no scanner looks.  The bridge leaves its string tokens to the `serde_json`
crate, which is a parameter.
-/

namespace Crabedence.Abi

open Json Utf8

/-- What a scanner takes from its language. -/
structure Dialect (K : Type) where
  /-- The string the pieces of a literal stand for, if the language accepts them. -/
  text : List Piece → Option K
  /-- A string constant. -/
  constant : String → K
  /-- A key inside a path. -/
  shown : K → String
  /-- A key as a JSON string. -/
  quoted : K → String

section Tokens

def readStringToken : List Rune → Option (List Rune × List Rune)
  | [] => none
  | rune :: rest =>
    if rune = some '\\' then
      match rest with
      | [] => none
      | next :: rest => (readStringToken rest).map fun read => (rune :: next :: read.1, read.2)
    else if rune = some '"' then some ([], rest)
    else if isControl rune then none
    else (readStringToken rest).map fun read => (rune :: read.1, read.2)

def isNumeric (rune : Rune) : Bool :=
  match rune with
  | some c => c.isDigit || c == '-' || c == '+' || c == '.' || c == 'e' || c == 'E'
  | none => false

/-- The pattern `^-?(0|[1-9][0-9]*)(\.[0-9]+)?([eE][+-]?[0-9]+)?$`. -/
def isNumberLiteral (literal : List Rune) : Bool :=
  match Number.read literal with
  | some (_, []) => true
  | _ => false

def parseNumber (input : List Rune) : Option (List Rune × List Rune) :=
  let literal := input.takeWhile isNumeric
  if isNumberLiteral literal then some (literal, input.dropWhile isNumeric) else none

def characters (token : List Rune) : List Char := token.filterMap id

end Tokens

section Scanner

variable {K : Type} [DecidableEq K] (dialect : Dialect K) (path : String)
  (expected : Option AbiFieldType)

def typeError (expected : AbiFieldType) : String :=
  match expected with
  | .string => path ++ " must be a JSON string"
  | .object => path ++ " must be a JSON object"
  | .integer => path ++ " must be a JSON integer"

def decodeToken (raw : List Rune) : Option K :=
  match lexString (raw ++ [some '"']) with
  | some (pieces, []) => dialect.text pieces
  | _ => none

def parseString (input : List Rune) : Option (K × List Rune) := do
  let (raw, rest) ← readStringToken input
  let key ← decodeToken dialect raw
  some (key, rest)

def fieldType (fields : AbiFields) (key : K) : Option AbiFieldType :=
  (fields.find? fun field => decide (dialect.constant field.1 = key)).map Prod.snd

def parseArrayItems (value : List Rune → Except String (List Rune)) :
    Nat → List Rune → Except String (List Rune)
  | 0, _ => .error "invalid JSON: expected ',' or ']'"
  | fuel + 1, input =>
    match value (skipBlank input) with
    | .error reason => .error reason
    | .ok rest =>
      match skipBlank rest with
      | [] => .error "invalid JSON: expected ',' or ']'"
      | next :: rest =>
        if next = some ',' then parseArrayItems value fuel rest
        else if next = some ']' then .ok rest
        else .error "invalid JSON: expected ',' or ']'"

/-- Scans an array after its bracket; every turn but the last takes a comma, so the length of the
input is fuel enough. -/
def parseArray (value : List Rune → Except String (List Rune)) (input : List Rune) :
    Except String (List Rune) :=
  match skipBlank input with
  | [] => parseArrayItems value 1 []
  | next :: rest =>
    if next = some ']' then .ok rest
    else parseArrayItems value (next :: rest).length (next :: rest)

/-- Scans a value of a member: its path, the type and the field set it must have, and the input. -/
abbrev ValueScanner :=
  String → Option AbiFieldType → Option AbiFields → List Rune → Except String (List Rune)

def scanMember (value : ValueScanner) (path : String) (fields : Option AbiFields) (key : K)
    (input : List Rune) : Except String (List Rune) :=
  let expected := fields.bind fun known => fieldType dialect known key
  if fields ≠ none ∧ expected = none then
    .error ("unknown field " ++ dialect.quoted key ++ " in " ++ path)
  else
    let childFields :=
      if path = "request" ∧ key = dialect.constant "authority" then some abiAuthorityFields else none
    value (path ++ "." ++ dialect.shown key) expected childFields input

def parseObjectMembers (value : ValueScanner) (path : String) (fields : Option AbiFields) :
    Nat → List K → List Rune → Except String (List Rune)
  | 0, _, _ => .error "invalid JSON: expected ',' or '\x7d'"
  | fuel + 1, keys, input =>
    match skipBlank input with
    | [] => .error "invalid JSON: expected an object key"
    | first :: rest =>
      if first = some '"' then
        match parseString dialect rest with
        | none => .error "invalid JSON: invalid string"
        | some (key, rest) =>
          if key ∈ keys then
            .error ("duplicate key " ++ dialect.quoted key ++ " in " ++ path)
          else
            match skipBlank rest with
            | [] => .error "invalid JSON: expected ':'"
            | colon :: rest =>
              if colon = some ':' then
                match scanMember dialect value path fields key (skipBlank rest) with
                | .error reason => .error reason
                | .ok rest =>
                  match skipBlank rest with
                  | [] => .error "invalid JSON: expected ',' or '\x7d'"
                  | next :: rest =>
                    if next = some ',' then
                      parseObjectMembers value path fields fuel (key :: keys) rest
                    else if next = some '\x7d' then .ok rest
                    else .error "invalid JSON: expected ',' or '\x7d'"
              else .error "invalid JSON: expected ':'"
      else .error "invalid JSON: expected an object key"

def parseObject (value : ValueScanner) (path : String) (fields : Option AbiFields)
    (input : List Rune) : Except String (List Rune) :=
  match skipBlank input with
  | [] => parseObjectMembers dialect value path fields 1 [] []
  | next :: rest =>
    if next = some '\x7d' then .ok rest
    else parseObjectMembers dialect value path fields (next :: rest).length [] (next :: rest)

def parseName (literal : String) (accepted : Except String Unit) (input : List Rune) :
    Except String (List Rune) :=
  match readName literal.toList () input with
  | none => .error "invalid JSON: invalid literal"
  | some (_, rest) =>
    match accepted with
    | .error reason => .error reason
    | .ok _ => .ok rest

def expects (kind : Option AbiFieldType) :
    Except String Unit :=
  match expected with
  | none => .ok ()
  | some type => if kind = some type then .ok () else .error (typeError path type)

def checkNumber (literal : List Char) :
    Except String Unit :=
  match expected with
  | none => .ok ()
  | some .integer =>
    if abiIntegerLiteral literal = false then .error (path ++ " must be a JSON integer literal")
    else if parseInt literal = none then
      .error (path ++ " must fit in a signed 64-bit integer")
    else .ok ()
  | some type => .error (typeError path type)

/-- Scans a value that opens no container. -/
def parseScalar (input : List Rune) :
    Except String (List Rune) :=
  match input with
  | [] => .error "invalid JSON: unexpected end of input"
  | first :: rest =>
    if first = some 'n' then
      parseName "null" (match expected with
        | none => .ok ()
        | some _ => .error ("null is not accepted for " ++ path ++ " (omit the field instead)"))
        (first :: rest)
    else if first = some '"' then
      match parseString dialect rest with
      | none => .error "invalid JSON: invalid string"
      | some (_, rest) =>
        match expects path expected (some .string) with
        | .error reason => .error reason
        | .ok _ => .ok rest
    else if first = some 't' then parseName "true" (expects path expected none) (first :: rest)
    else if first = some 'f' then parseName "false" (expects path expected none) (first :: rest)
    else if first = some '-' ∨ (first.map Char.isDigit).getD false then
      match parseNumber (first :: rest) with
      | none => .error "invalid JSON: invalid number"
      | some (literal, rest) =>
        match checkNumber path expected (characters literal) with
        | .error reason => .error reason
        | .ok _ => .ok rest
    else .error "invalid JSON: unexpected character"

/-- Scans a value; `levels` more containers may be opened. -/
def parseValue : Nat → ValueScanner
  | levels, path, expected, childFields, input =>
    if input.head? = some (some '\x7b') then
      if expected ≠ none ∧ expected ≠ some .object then
        .error (typeError path (expected.getD .object))
      else
        match levels with
        | 0 => .error ("request nesting exceeds " ++ toString maxInvocationDepth ++ " levels")
        | levels + 1 => parseObject dialect (parseValue levels) path childFields input.tail
    else if input.head? = some (some '[') then
      if expected ≠ none then .error (typeError path (expected.getD .object))
      else
        match levels with
        | 0 => .error ("request nesting exceeds " ++ toString maxInvocationDepth ++ " levels")
        | levels + 1 => parseArray (parseValue levels (path ++ "[]") none none) input.tail
    else parseScalar dialect path expected input

def scan (input : List Rune) : Except String Unit :=
  match skipBlank input with
  | [] => .error "request must be a JSON object"
  | first :: rest =>
    if first = some '\x7b' then
      match parseObject dialect (parseValue dialect (maxInvocationDepth - 1)) "request"
          (some abiRootFields) rest with
      | .error reason => .error reason
      | .ok rest =>
        if skipBlank rest = [] then .ok ()
        else .error "trailing data after the request object"
    else .error "request must be a JSON object"

end Scanner

section TypeScript

/-- The strings of the language are code units, and `JSON.parse` keeps unpaired surrogates. -/
def scriptDialect : Dialect Utf16.Str where
  text := fun pieces => some (pieces.flatMap Script.units)
  constant := Utf16.str
  shown := fun key => String.ofList ((Utf16.decode key).map Utf16.Point.scalar)
  quoted := fun key => "\"" ++ String.ofList (Script.spellString key) ++ "\""

def byteOrderMark : List UInt8 := [0xef, 0xbb, 0xbf]

/-- The bytes after a byte-order mark at the start, which a `TextDecoder` leaves out. -/
def stripMark (bytes : List UInt8) : List UInt8 :=
  if byteOrderMark <+: bytes then bytes.drop 3 else bytes

/-- `validateInvocationRequest` of the TypeScript contract. -/
def validateInvocationRequest (bytes : List UInt8) : Except String Unit :=
  if utf8Valid bytes then scan scriptDialect (Utf8.decode (stripMark bytes))
  else .error "request is not valid UTF-8"

end TypeScript

section Rust

/-- The characters a string literal stands for, if no surrogate escape is unpaired. -/
def paired : List Piece → Option (List Char)
  | [] => some []
  | .rune none :: _ => none
  | .rune (some c) :: rest => (paired rest).map (c :: ·)
  | .unit code :: rest =>
    if 0xd800 ≤ code ∧ code < 0xe000 then
      match rest with
      | .unit low :: after =>
        match surrogatePair code low with
        | some c => (paired after).map (c :: ·)
        | none => none
      | _ => none
    else (paired rest).map (Char.ofNat code :: ·)

/-- What the bridge calls of the `serde_json` crate. -/
structure SerdeJson where
  /-- `from_slice::<String>` of a string token, given by the pieces of the literal. -/
  from_slice : List Piece → Option (List Char)
  /-- `to_string` of a string. -/
  to_string : List Char → String

/-- The crate reads a literal as its characters, and refuses one with an unpaired surrogate escape. -/
structure SerdeJson.Lawful (serde : SerdeJson) : Prop where
  reads : ∀ pieces chars, paired pieces = some chars → serde.from_slice pieces = some chars
  refuses : ∀ pieces, paired pieces = none → serde.from_slice pieces = none

/-- The strings of the language are characters. -/
def rustDialect (serde : SerdeJson) : Dialect (List Char) where
  text := serde.from_slice
  constant := String.toList
  shown := String.ofList
  quoted := serde.to_string

/-- `validate_invocation_request` of the Rust bridge. -/
def validate_invocation_request (serde : SerdeJson) (bytes : List UInt8) : Except String Unit :=
  if utf8Valid bytes then scan (rustDialect serde) (Utf8.decode bytes)
  else .error "request is not valid UTF-8"

end Rust

end Crabedence.Abi
