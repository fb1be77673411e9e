import Crabedence.Digest.Canonical

/-!
# Argument schemas

`ValidateArguments`: the subset of JSON Schema that capability arguments are checked against.  Schema
and arguments are decoded with their numbers as literals; a decoded object is a Go map, so its members
have distinct keys.  Numbers are compared as rationals where `big.Rat` accepts the literal.
-/

namespace Crabedence.Capability

open Json

/-- A decoded schema. -/
abbrev Schema := List (Text × Value Number)

def textOf (name : String) : Text := name.toList.map some

/-- `decodeUseNumber`: the first value of the data. -/
def decodeUseNumber (data : RawMessage) : Except DecodeError (Value Number) := do
  let (v, _) ← decodeValue (Utf8.decode data)
  return v.collect

section Numbers

/-- The largest power of five `big.Rat.SetString` computes. -/
def maxRatExponent : Int := 1000000

/-- `big.Rat.SetString` accepts the literal: its exponent is an int64 and, unless the mantissa is
zero, the power of ten that is left when the point is removed is not excessive. -/
def RatAccepts (number : Number) : Prop :=
  (-2 ^ 63 ≤ number.exponentValue ∧ number.exponentValue < 2 ^ 63) ∧
    (natural (number.integer ++ number.fraction) = 0 ∨
      |number.exponentValue - number.fraction.length| ≤ maxRatExponent)

instance (number : Number) : Decidable (RatAccepts number) :=
  inferInstanceAs (Decidable (_ ∧ _))

def ratSetString (number : Number) : Option ℚ :=
  if RatAccepts number then some number.value else none

def ratValue : Value Number → Option ℚ
  | .number num => ratSetString num
  | _ => none

end Numbers

/-- `fmt.Sprintf("%v", v)`. -/
def sprint : Value Number → List Char :=
  Value.fold {
    null := "<nil>".toList
    bool := fun value => if value then "true".toList else "false".toList
    number := Number.text
    string := fun text => (textString text).toList
    array := fun items => '[' :: (" ".toList.intercalate items ++ [']'])
    object := fun members =>
      "map[".toList ++ (" ".toList.intercalate
        (members.map fun member => (textString member.1).toList ++ ':' :: member.2) ++ [']'])
  }

def printed (v : Value Number) : String := String.ofList (sprint v)

def inOrder : List (Except String Unit) → Except String Unit
  | [] => .ok ()
  | .ok () :: rest => inOrder rest
  | .error text :: _ => .error text

/-- The check of one value, given the schema it meets and its path. -/
abbrev Check := Schema → String → Except String Unit

section Keywords

variable (schema : Schema) (path : String)

/-- The JSON type of a value as `checkType` names it. -/
def actualType : Value Number → String
  | .null => "null"
  | .bool _ => "boolean"
  | .number _ => "number"
  | .string _ => "string"
  | .array _ => "array"
  | .object _ => "object"

def checkType (expected : Text) (val : Value Number) : Except String Unit :=
  let actual := actualType val
  if expected = textOf "number" ∧ actual = "number" then .ok ()
  else if expected = textOf "integer" ∧ actual = "number" then
    if (ratValue val).any fun r => r.isInt then .ok ()
    else .error (path ++ ": expected integer, got non-integer number " ++ printed val)
  else if expected ≠ textOf actual then
    .error (path ++ ": expected " ++ textString expected ++ ", got " ++ actual)
  else .ok ()

def enumMatches (e val : Value Number) : Bool :=
  match ratValue e, ratValue val with
  | some eRat, some valRat => decide (eRat = valRat)
  | _, _ => decide (sprint e = sprint val)

def checkEnum (val : Value Number) : Except String Unit :=
  match schema.lookup (textOf "enum") with
  | some (.array enum) =>
    if enum.any fun e => enumMatches e val then .ok ()
    else .error (path ++ ": value " ++ printed val ++ " not in enum " ++ printed (.array enum))
  | _ => .ok ()

def keywordText (keyword : String) : String :=
  printed ((schema.lookup (textOf keyword)).getD .null)

def checkBound (keyword : String) (num : Option ℚ) (violates : ℚ → ℚ → Bool) (message : String) :
    Except String Unit :=
  match num, (schema.lookup (textOf keyword)).bind ratValue with
  | some num, some bound => if violates num bound then .error message else .ok ()
  | _, _ => .ok ()

def checkNumber (val : Value Number) : Except String Unit :=
  inOrder [
    checkBound schema "minimum" (ratValue val) (fun num min => decide (num < min))
      (path ++ ": value " ++ printed val ++ " is less than minimum " ++ keywordText schema "minimum"),
    checkBound schema "maximum" (ratValue val) (fun num max => decide (max < num))
      (path ++ ": value " ++ printed val ++ " is greater than maximum " ++
        keywordText schema "maximum"),
    checkBound schema "multipleOf" (ratValue val) (fun num mult =>
        decide (mult ≠ 0) && !(num / mult).isInt)
      (path ++ ": value " ++ printed val ++ " is not a multiple of " ++
        keywordText schema "multipleOf")]

def checkString : Value Number → Except String Unit
  | .string s =>
    let runeCount : ℚ := s.length
    inOrder [
      checkBound schema "minLength" (some runeCount) (fun count min => decide (count < min))
        (path ++ ": string length " ++ toString s.length ++ " is less than minLength " ++
          keywordText schema "minLength"),
      checkBound schema "maxLength" (some runeCount) (fun count max => decide (max < count))
        (path ++ ": string length " ++ toString s.length ++ " is greater than maxLength " ++
          keywordText schema "maxLength")]
  | _ => .ok ()

/-- What `validateValue` checks before it descends. -/
def checkSelf (val : Value Number) : Except String Unit :=
  inOrder [
    match schema.lookup (textOf "type") with
    | some (.string t) => checkType path t val
    | _ => .ok (),
    checkEnum schema path val,
    checkNumber schema path val,
    checkString schema path val]

def checkItems (arr : List Check) : Except String Unit :=
  match schema.lookup (textOf "items") with
  | some (.object items) =>
    inOrder (arr.zipIdx.map fun item => item.1 items (path ++ "[" ++ toString item.2 ++ "]"))
  | _ => .ok ()

/-- The text before a message about a field of the object at `path`. -/
def located (message : String) : String := if path = "" then message else path ++ ": " ++ message

def checkRequired (fields : List Text) : Except String Unit :=
  match schema.lookup (textOf "required") with
  | some (.array required) =>
    inOrder (required.map fun r =>
      match r with
      | .string name =>
        if name ∈ fields then .ok ()
        else .error (located path ("missing required field: " ++ textString name))
      | _ => .ok ())
  | _ => .ok ()

def checkProperties (props : Schema) (obj : List (Text × Check)) : Except String Unit :=
  inOrder (props.map fun property =>
    match property.2, obj.lookup property.1 with
    | .object propMap, some check =>
      let name := textString property.1
      check propMap (if path = "" then name else path ++ "." ++ name)
    | _, _ => .ok ())

def checkAdditional (props : Schema) (fields : List Text) : Except String Unit :=
  match schema.lookup (textOf "additionalProperties") with
  | some (.bool false) =>
    inOrder (fields.map fun name =>
      if name ∈ props.map Prod.fst then .ok ()
      else .error (located path ("unknown field: " ++ textString name ++
        " (additionalProperties is false)")))
  | _ => .ok ()

/-- `validateObject`; the object is given by the checks of its members. -/
def validateObject (obj : List (Text × Check)) : Except String Unit :=
  inOrder [
    match schema.lookup (textOf "type") with
    | some (.string t) =>
      if t = textOf "object" then .ok ()
      else .error (path ++ ": expected object, got schema type " ++ textString t)
    | _ => .ok (),
    checkRequired schema path (obj.map Prod.fst),
    match schema.lookup (textOf "properties") with
    | some (.object props) =>
      inOrder [checkProperties path props obj, checkAdditional schema path props (obj.map Prod.fst)]
    -- without properties the function returns here, before additionalProperties
    | _ => .ok ()]

end Keywords

mutual

def validateValue : Value Number → Check
  | .null => fun schema path => checkSelf schema path .null
  | .bool value => fun schema path => checkSelf schema path (.bool value)
  | .number value => fun schema path => checkSelf schema path (.number value)
  | .string text => fun schema path => checkSelf schema path (.string text)
  | .array items => fun schema path =>
    inOrder [checkSelf schema path (.array items), checkItems schema path (itemChecks items)]
  | .object members => fun schema path =>
    inOrder [checkSelf schema path (.object members),
      validateObject schema path (memberChecks members)]

def itemChecks : List (Value Number) → List Check
  | [] => []
  | item :: items => validateValue item :: itemChecks items

def memberChecks : List (Text × Value Number) → List (Text × Check)
  | [] => []
  | (name, val) :: members => (name, validateValue val) :: memberChecks members

end

section Arguments

variable (texts : ErrorTexts)

def validateArguments (schema args : RawMessage) : Except String Unit :=
  if schema.length = 0 then .ok ()
  else
    match decodeUseNumber schema with
    | .error failure =>
      .error ("invalid capability schema (registration error): " ++ texts.decode failure)
    | .ok (.object schemaMap) =>
      match decodeUseNumber (if args.length = 0 then [123, 125] else args) with
      | .error failure => .error ("arguments must be a JSON object: " ++ texts.decode failure)
      | .ok (.object argsMap) => validateObject schemaMap "" (memberChecks argsMap)
      | .ok _ => .error "arguments must be a JSON object"
    | .ok _ =>
      .error "invalid capability schema (registration error): schema must be a JSON object"

end Arguments

section Lemmas

theorem decodeUseNumber_text {document : Value Number}
    (within : document.Within (Readable replacementCharacter) maxNestingDepth) :
    decodeUseNumber (Utf8.encode document.text) = .ok document.collect := by
  obtain ⟨rest, read, -⟩ := holds_text within
  unfold decodeUseNumber
  rw [read]
  rfl

theorem inOrder_ok {checks : List (Except String Unit)} :
    inOrder checks = .ok () ↔ ∀ check ∈ checks, check = .ok () := by
  induction checks with
  | nil => simp [inOrder]
  | cons check rest ih =>
    cases check with
    | error text => simp [inOrder]
    | ok done => simp [inOrder, ih]

theorem itemChecks_eq (items : List (Value Number)) :
    itemChecks items = items.map validateValue := by
  induction items with
  | nil => rfl
  | cons item items ih => rw [itemChecks, ih, List.map_cons]

variable (members : List (Text × Value Number))

theorem memberChecks_eq :
    memberChecks members = members.map fun member => (member.1, validateValue member.2) := by
  induction members with
  | nil => rfl
  | cons member members ih => rw [memberChecks, ih, List.map_cons]

theorem memberChecks_fields : (memberChecks members).map Prod.fst = members.map Prod.fst := by
  rw [memberChecks_eq, List.map_map]
  rfl

theorem lookup_memberChecks (name : Text) :
    (memberChecks members).lookup name = (members.lookup name).map validateValue := by
  induction members with
  | nil => rfl
  | cons member members ih =>
    rw [memberChecks, lookup_cons_eq, lookup_cons_eq, ih]
    split_ifs
    · rfl
    · rfl

theorem validateValue_array (items : List (Value Number)) (schema : Schema) (path : String) :
    validateValue (.array items) schema path =
      inOrder [checkSelf schema path (.array items),
        checkItems schema path (items.map validateValue)] := by
  rw [validateValue, itemChecks_eq]

theorem validateValue_object (schema : Schema) (path : String) :
    validateValue (.object members) schema path =
      inOrder [checkSelf schema path (.object members),
        validateObject schema path (memberChecks members)] := by
  rw [validateValue]

theorem checkSelf_of_validateValue {val : Value Number} {schema : Schema} {path : String}
    (accepted : validateValue val schema path = .ok ()) : checkSelf schema path val = .ok () := by
  cases val with
  | array items =>
    rw [validateValue_array, inOrder_ok] at accepted
    exact accepted _ List.mem_cons_self
  | object members =>
    rw [validateValue_object, inOrder_ok] at accepted
    exact accepted _ List.mem_cons_self
  | _ => exact accepted

end Lemmas

end Crabedence.Capability
