import Crabedence.Json.Number
import Crabedence.Json.Value

/-!
# JSON text

The standard encoder and decoder of the Go library on runes.  The encoder writes no space, escapes
the HTML characters and the two line separators, and writes the escape of U+FFFD for a byte that is
no character.  The decoder keeps numbers as literals, limits the nesting, and takes a replacement for
what denotes no character: an unpaired surrogate, a bad byte, and the replacement character when it
is written as an escape.
-/

namespace Json

open Utf8

section Encoder

/-- The characters the encoder writes as `\u00XX` or `\u202X`. -/
def escapedByCode (c : Char) : Bool :=
  decide (c.toNat < 0x20) || c == '<' || c == '>' || c == '&' ||
    decide (c.toNat = 0x2028) || decide (c.toNat = 0x2029)

def hexDigits (code : Nat) : List Char :=
  [Nat.digitChar (code / 4096 % 16), Nat.digitChar (code / 256 % 16),
    Nat.digitChar (code / 16 % 16), Nat.digitChar (code % 16)]

def shortEscape (c : Char) : Option Char :=
  if c = '"' then some '"'
  else if c = '\\' then some '\\'
  else if c = '\x08' then some 'b'
  else if c = '\x0c' then some 'f'
  else if c = '\n' then some 'n'
  else if c = '\r' then some 'r'
  else if c = '\t' then some 't'
  else none

def escape : Rune → List Char
  | none => '\\' :: 'u' :: hexDigits 0xfffd
  | some c =>
    match shortEscape c with
    | some letter => ['\\', letter]
    | none => if escapedByCode c then '\\' :: 'u' :: hexDigits c.toNat else [c]

def quote (text : Text) : List Char := '"' :: (text.flatMap escape ++ ['"'])

def separated : List (List Char) → List Char
  | [] => []
  | [part] => part
  | part :: parts => part ++ ',' :: separated parts

def memberText (member : Text × List Char) : List Char := quote member.1 ++ ':' :: member.2

def Value.print : Value (List Char) → List Char :=
  fold {
    null := "null".toList
    bool := fun value => if value then "true".toList else "false".toList
    number := id
    string := quote
    array := fun parts => '[' :: (separated parts ++ [']'])
    object := fun members => '{' :: (separated (members.map memberText) ++ ['\x7d'])
  }

theorem Value.print_object (members : List (Text × Value (List Char))) :
    (Value.object members).print =
      '\x7b' :: (separated (members.map fun member => memberText (member.1, member.2.print)) ++
        ['\x7d']) := by
  rw [print, fold_object]
  dsimp only
  rw [List.map_map]
  rfl

end Encoder

section Strings

/-- A piece of a string literal: a rune, or the code unit of a `\u` escape. -/
inductive Piece where
  | rune (rune : Rune)
  | unit (code : Nat)
deriving DecidableEq

def hexValue : Rune → Option Nat
  | none => none
  | some c =>
    let code := c.toNat
    if 48 ≤ code ∧ code ≤ 57 then some (code - 48)
    else if 97 ≤ code ∧ code ≤ 102 then some (code - 87)
    else if 65 ≤ code ∧ code ≤ 70 then some (code - 55)
    else none

def hexCode (a b c d : Rune) : Option Nat := do
  let a ← hexValue a
  let b ← hexValue b
  let c ← hexValue c
  let d ← hexValue d
  some (((a * 16 + b) * 16 + c) * 16 + d)

def unescape (letter : Rune) : Option Char :=
  if letter = some '"' then some '"'
  else if letter = some '\\' then some '\\'
  else if letter = some '/' then some '/'
  else if letter = some 'b' then some '\x08'
  else if letter = some 'f' then some '\x0c'
  else if letter = some 'n' then some '\n'
  else if letter = some 'r' then some '\r'
  else if letter = some 't' then some '\t'
  else none

def isControl : Rune → Bool
  | none => false
  | some c => decide (c.toNat < 0x20)

/-- The pieces up to the closing quote, and what follows it. -/
def lexString : List Rune → Option (List Piece × List Rune)
  | [] => none
  | rune :: rest =>
    if rune = some '"' then some ([], rest)
    else if rune = some '\\' then
      match rest with
      | [] => none
      | letter :: rest =>
        if letter = some 'u' then
          match rest with
          | a :: b :: c :: d :: rest => do
              let code ← hexCode a b c d
              let (pieces, rest) ← lexString rest
              some (.unit code :: pieces, rest)
          | _ => none
        else do
          let c ← unescape letter
          let (pieces, rest) ← lexString rest
          some (.rune (some c) :: pieces, rest)
    else if isControl rune then none
    else do
      let (pieces, rest) ← lexString rest
      some (.rune rune :: pieces, rest)

def surrogatePair (high low : Nat) : Option Char :=
  if 0xd800 ≤ high ∧ high < 0xdc00 ∧ 0xdc00 ≤ low ∧ low < 0xe000 then
    some (Char.ofNat ((high - 0xd800) * 0x400 + (low - 0xdc00) + 0x10000))
  else none

variable (replacement : Rune)

def unitRune (code : Nat) : Rune :=
  if 0xd800 ≤ code ∧ code < 0xe000 ∨ code = 0xfffd then replacement else some (Char.ofNat code)

def assemble : List Piece → Text
  | [] => []
  | .rune none :: rest => replacement :: assemble rest
  | .rune (some c) :: rest => some c :: assemble rest
  | .unit code :: rest =>
    match rest with
    | .unit low :: after =>
      match surrogatePair code low with
      | some c => some c :: assemble after
      | none => unitRune replacement code :: assemble (.unit low :: after)
    | rest => unitRune replacement code :: assemble rest

def readString (input : List Rune) : Option (Text × List Rune) := do
  let (pieces, rest) ← lexString input
  some (assemble replacement pieces, rest)

end Strings

section Numbers

def spanDigits : List Rune → List Char × List Rune
  | some c :: rest =>
    if c.isDigit then
      let (digits, rest) := spanDigits rest
      (c :: digits, rest)
    else ([], some c :: rest)
  | rest => ([], rest)

variable (input : List Rune)

theorem spanDigits_digits : Digits (spanDigits input).1 := by
  fun_induction spanDigits input with
  | case1 c rest digit digits after span ih =>
    intro other member
    rcases List.mem_cons.mp member with here | there
    · rw [here]
      exact digit
    · rw [span] at ih
      exact ih other there
  | case2 => exact fun _ member => by cases member
  | case3 => exact fun _ member => by cases member

def readInteger :
    Option ({ digits : List Char //
      Digits digits ∧ digits ≠ [] ∧ (digits.head? = some '0' → digits = ['0']) } × List Rune) :=
  match input with
  | [] => none
  | first :: rest =>
    if first = some '0' then some (⟨['0'], by decide⟩, rest)
    else
      let span := spanDigits (first :: rest)
      if accepted : span.1 ≠ [] ∧ span.1.head? ≠ some '0' then
        some (⟨span.1, spanDigits_digits _, accepted.1, fun zero => (accepted.2 zero).elim⟩, span.2)
      else none

def readFraction :
    Option ({ digits : List Char // Digits digits } × List Rune) :=
  match input with
  | [] => some (⟨[], digits_nil⟩, [])
  | first :: rest =>
    if first = some '.' then
      let span := spanDigits rest
      if span.1 = [] then none else some (⟨span.1, spanDigits_digits _⟩, span.2)
    else some (⟨[], digits_nil⟩, first :: rest)

def readSign : Option Bool × List Rune :=
  match input with
  | [] => (none, [])
  | first :: rest =>
    if first = some '-' then (some true, rest)
    else if first = some '+' then (some false, rest)
    else (none, first :: rest)

def readExponent : Option (Option Exponent × List Rune) :=
  match input with
  | [] => some (none, [])
  | first :: rest =>
    if first = some 'e' ∨ first = some 'E' then
      let sign := readSign rest
      let span := spanDigits sign.2
      if nonempty : span.1 ≠ [] then
        some (some ⟨first = some 'E', sign.1, span.1, spanDigits_digits _, nonempty⟩, span.2)
      else none
    else some (none, first :: rest)

def Number.read : Option (Number × List Rune) := do
  let negative := decide (input.head? = some (some '-'))
  let (integer, rest) ← readInteger (if negative then input.tail else input)
  let (fraction, rest) ← readFraction rest
  let (exponent, rest) ← readExponent rest
  some (⟨negative, integer.1, integer.2.1, integer.2.2.1, integer.2.2.2, fraction.1, fraction.2,
    exponent⟩, rest)

end Numbers

section Decoder

def isBlank (rune : Rune) : Bool :=
  rune == some ' ' || rune == some '\t' || rune == some '\n' || rune == some '\r'

def skipBlank (input : List Rune) : List Rune := input.dropWhile isBlank

def readName {T : Type} (name : List Char) (value : T) (input : List Rune) : Option (T × List Rune) :=
  if name.map some <+: input then some (value, input.drop name.length) else none

/-- Reads items separated by commas up to the closing rune; every turn but the last one takes a
comma, so the length of the input is fuel enough. -/
def readItems {T : Type} (close : Char) (item : List Rune → Option (T × List Rune)) :
    Nat → List Rune → Option (List T × List Rune)
  | 0, _ => none
  | fuel + 1, input => do
      let (value, rest) ← item input
      match skipBlank rest with
      | [] => none
      | next :: rest =>
        if next = some ',' then do
          let (values, rest) ← readItems close item fuel rest
          some (value :: values, rest)
        else if next = some close then some ([value], rest)
        else none

def readSequence {T : Type} (close : Char) (item : List Rune → Option (T × List Rune))
    (input : List Rune) : Option (List T × List Rune) :=
  match skipBlank input with
  | [] => none
  | next :: rest =>
    if next = some close then some ([], rest)
    else readItems close item (next :: rest).length (next :: rest)

variable (replacement : Rune)

def readMember {T : Type} (value : List Rune → Option (T × List Rune)) (input : List Rune) :
    Option ((Text × T) × List Rune) :=
  match skipBlank input with
  | [] => none
  | first :: rest =>
    if first = some '"' then do
      let (key, rest) ← readString replacement rest
      match skipBlank rest with
      | [] => none
      | next :: rest =>
        if next = some ':' then do
          let (value, rest) ← value rest
          some ((key, value), rest)
        else none
    else none

/-- Reads a value that is not an array or an object. -/
def readScalar (input : List Rune) : Option (Value Number × List Rune) :=
  match input with
  | [] => none
  | first :: rest =>
    if first = some '"' then do
      let (text, rest) ← readString replacement rest
      some (.string text, rest)
    else if first = some 'n' then readName "null".toList .null (first :: rest)
    else if first = some 't' then readName "true".toList (.bool true) (first :: rest)
    else if first = some 'f' then readName "false".toList (.bool false) (first :: rest)
    else do
      let (number, rest) ← Number.read (first :: rest)
      some (.number number, rest)

/-- Reads one value, nested at most as deep as given, and leaves what follows it. -/
def parse : Nat → List Rune → Option (Value Number × List Rune)
  | 0, input => readScalar replacement (skipBlank input)
  | depth + 1, input =>
    match skipBlank input with
    | [] => none
    | first :: rest =>
      if first = some '[' then do
        let (items, rest) ← readSequence ']' (parse depth) rest
        some (.array items, rest)
      else if first = some '\x7b' then do
        let (members, rest) ←
          readSequence '\x7d' (readMember replacement (parse depth)) rest
        some (.object members, rest)
      else readScalar replacement (first :: rest)

end Decoder

end Json
