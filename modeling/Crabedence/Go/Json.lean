import Crabedence.Go.Values
import Crabedence.Json.Spelling

/-!
# Encoding Go values

What package `encoding/json` writes for integers and strings.  A string is written by its characters,
with the replacement character for a byte that is part of none.
-/

namespace Go

open Json

def jsonSpelling (escapes : Escapes) : Spelling ℤ Str := escapes.spelling Number.ofInt Utf8.decode

/-- `json.Marshal`. -/
def marshal (tree : Node ℤ Str) : List Char := (jsonSpelling .html).print tree

/-- An encoder after `SetEscapeHTML(false)`. -/
def marshalNoEscape (tree : Node ℤ Str) : List Char := (jsonSpelling .plain).print tree

theorem valid_str (text : String) : Utf8.Valid (str text) := Utf8.valid_encode text.toList

theorem str_injective : Function.Injective str := fun _ _ same =>
  String.toList_injective (Utf8.encode_injective same)

end Go
