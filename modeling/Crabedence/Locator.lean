import Mathlib.Data.List.Infix
import Crabedence.Digest.Canonical
import Crabedence.Store.Lifecycle

/-!
# The scan of recovery locators

`forbiddenLocatorField`: the check `MarkInFlight` makes on the bytes it is about to persist.  The
bytes are decoded into a tree of Go maps and the keys of that tree are scanned.  Decoding is where
text and tree part: a map keeps the last occurrence of a repeated key only, and a number outside
the range of float64 ends the decode with an error.
-/

namespace Crabedence

open Json Utf8

/-- The tables of package `unicode` that the scan consults. -/
structure Unicode where
  isLetter : Char → Bool
  isDigit : Char → Bool
  toLower : Char → Char
  isLetter_ascii : ∀ c : Char, c.toNat < 128 → isLetter c = c.isAlpha
  isDigit_ascii : ∀ c : Char, c.toNat < 128 → isDigit c = c.isDigit
  toLower_ascii : ∀ c : Char, c.toNat < 128 → toLower c = c.toLower

def Unicode.ascii : Unicode where
  isLetter := Char.isAlpha
  isDigit := Char.isDigit
  toLower := Char.toLower
  isLetter_ascii _ _ := rfl
  isDigit_ascii _ _ := rfl
  toLower_ascii _ _ := rfl

def forbiddenLocatorKeyPatterns : List String := [
  "secret", "password", "passwd", "passphrase",
  "privatekey", "apikey", "accesskey", "secretkey",
  "signingkey", "encryptionkey",
  "accesstoken", "refreshtoken", "bearertoken", "authtoken",
  "idtoken", "sessiontoken", "csrftoken",
  "authorization", "credential", "sessioncookie", "bearer",
  "token", "key", "pgpass", "cookie"]

def allowedLocatorKeys : List String := ["externaltoken", "idempotencykey"]

/-- `strconv.ParseFloat` reports a range error: half a unit beyond the largest float64, and on. -/
def ParseFloatOverflows (number : Number) : Prop := 2 ^ 1024 - 2 ^ 970 ≤ |number.value|

instance (number : Number) : Decidable (ParseFloatOverflows number) :=
  inferInstanceAs (Decidable (_ ≤ _))

/-- `json.Unmarshal` into an `any`, as far as the keys of the tree go: numbers stay literals. -/
def unmarshalAny (raw : RawMessage) : Option (Value Number) :=
  match decodeValue (Utf8.decode raw) with
  | .error _ => none
  | .ok (document, rest) =>
    match requireEOF rest with
    | .error _ => none
    | .ok () =>
      -- every literal is converted, also below an occurrence that is replaced later
      if ∃ number ∈ document.numbers, ParseFloatOverflows number then none
      else some document.collect

section Scan

variable (unicode : Unicode)

def normalizeLocatorKey (k : Text) : List Char :=
  k.filterMap fun rune => rune.bind fun r =>
    if unicode.isLetter r || unicode.isDigit r then some (unicode.toLower r) else none

def isForbiddenKey (k : Text) : Bool :=
  let norm := normalizeLocatorKey unicode k
  !(allowedLocatorKeys.any fun allowed => norm == allowed.toList) &&
    forbiddenLocatorKeyPatterns.any fun pat => decide (pat.toList <:+: norm)

def firstFound : List Text → Text
  | [] => []
  | found :: rest => if found = [] then firstFound rest else found

def findForbiddenKey : Value Number → Text :=
  Value.fold {
    null := []
    bool := fun _ => []
    number := fun _ => []
    string := fun _ => []
    array := firstFound
    object := fun members => firstFound (members.map fun member =>
      if isForbiddenKey unicode member.1 then member.1 else member.2)
  }

def forbiddenLocatorField (raw : RawMessage) : String :=
  if raw.length = 0 then ""
  else
    match unmarshalAny raw with
    | none => ""
    | some v => textString (findForbiddenKey unicode v)

def Platform.withLocatorScan (platform : Platform) : Platform :=
  { platform with forbiddenLocatorField := Crabedence.forbiddenLocatorField unicode }

end Scan

variable {raw : RawMessage} {document : Value Number}

theorem Holds.nonempty (holds : Holds raw document) : raw ≠ [] := by
  obtain ⟨rest, decoded, ended⟩ := holds
  have decodes : Decodes raw document.collect := ⟨document, rest, decoded, ended, rfl⟩
  exact List.ne_nil_of_length_pos (Nat.pos_of_ne_zero decodes.nonempty)

theorem unmarshalAny_of_holds (holds : Holds raw document) : unmarshalAny raw =
      if ∃ number ∈ document.numbers, ParseFloatOverflows number then none
      else some document.collect := by
  obtain ⟨rest, decoded, ended⟩ := holds
  simp only [unmarshalAny, decoded, ended]

theorem firstFound_eq_nil {texts : List Text} :
    firstFound texts = [] ↔ ∀ text ∈ texts, text = [] := by
  induction texts with
  | nil => simp [firstFound]
  | cons text rest ih =>
    rw [firstFound]
    by_cases empty : text = []
    · simp [empty, ih]
    · simp [empty]

theorem isForbiddenKey_nil (unicode : Unicode) : isForbiddenKey unicode [] = false := by
  have empty : normalizeLocatorKey unicode [] = [] := rfl
  simp only [isForbiddenKey, empty]
  decide

/-- The scan comes back empty exactly if no name of the tree is forbidden. -/
theorem findForbiddenKey_eq_nil (unicode : Unicode) (v : Value Number) :
    findForbiddenKey unicode v = [] ↔ ∀ name ∈ v.names, isForbiddenKey unicode name = false := by
  induction v using Value.induct with
  | null | bool value | number value | string text =>
    simp [findForbiddenKey, Value.fold, Value.names]
  | array items ih =>
    have scanned : findForbiddenKey unicode (.array items) =
        firstFound (items.map (findForbiddenKey unicode)) := Value.fold_array _ items
    rw [scanned, firstFound_eq_nil, List.forall_mem_map]
    constructor
    · intro clean name occurs
      obtain ⟨item, held, inside⟩ := Value.mem_names_array.mp occurs
      exact (ih item held).mp (clean item held) name inside
    · intro clean item held
      exact (ih item held).mpr fun name inside =>
        clean name (Value.mem_names_array.mpr ⟨item, held, inside⟩)
  | object members ih =>
    have scanned : findForbiddenKey unicode (.object members) =
        firstFound (members.map fun member =>
          if isForbiddenKey unicode member.1 then member.1
          else findForbiddenKey unicode member.2) := by
      rw [findForbiddenKey, Value.fold_object]
      dsimp only
      rw [List.map_map]
      rfl
    rw [scanned, firstFound_eq_nil, List.forall_mem_map]
    constructor
    · intro clean name occurs
      obtain ⟨member, held, inside⟩ := Value.mem_names_object.mp occurs
      have found := clean member held
      -- a forbidden key is never the empty one, so the scan cannot return it as "nothing found"
      have admitted : isForbiddenKey unicode member.1 = false := by
        by_contra forbidden
        rw [Bool.not_eq_false] at forbidden
        rw [if_pos forbidden] at found
        rw [found, isForbiddenKey_nil] at forbidden
        cases forbidden
      rw [admitted, if_neg Bool.false_ne_true] at found
      rcases inside with here | below
      · rw [here]
        exact admitted
      · exact (ih member held).mp found name below
    · intro clean member held
      have admitted := clean member.1 (Value.mem_names_object.mpr ⟨member, held, .inl rfl⟩)
      rw [admitted, if_neg Bool.false_ne_true]
      exact (ih member held).mpr fun name inside =>
        clean name (Value.mem_names_object.mpr ⟨member, held, .inr inside⟩)

theorem forbiddenLocatorField_eq_empty (unicode : Unicode) (holds : Holds raw document) :
    forbiddenLocatorField unicode raw = "" ↔
      (∃ number ∈ document.numbers, ParseFloatOverflows number) ∨
        ∀ name ∈ document.collect.names, isForbiddenKey unicode name = false := by
  have nonempty : raw.length ≠ 0 := fun empty => holds.nonempty (List.length_eq_zero_iff.mp empty)
  rw [forbiddenLocatorField, if_neg nonempty, unmarshalAny_of_holds holds]
  by_cases overflow : ∃ number ∈ document.numbers, ParseFloatOverflows number
  · rw [if_pos overflow]
    simp only [overflow, true_or]
  · rw [if_neg overflow, or_iff_right overflow, ← findForbiddenKey_eq_nil, ← String.toList_inj]
    simp [textString]

end Crabedence
