import Crabedence.Capability.Schema
import Mathlib.Tactic.FieldSimp

/-!
# What schema keywords mean

The keywords of an argument schema as JSON Schema defines them, apart from any validator: `Means` is
what a keyword says about a value where the value meets the schema, and `Meets` lists those places at
every depth.  Numbers are the rationals their literals denote.  For each keyword a lemma says on
which values a passed check of `validateValue` amounts to its meaning.
-/

namespace Crabedence.Capability

open Json

def SameValue (v w : Value Number) : Prop := v.map Number.value = w.map Number.value

def HasType (name : Text) (val : Value Number) : Prop :=
  name = textOf (actualType val) ∨
    (name = textOf "integer" ∧ ∃ (x : Number) (n : ℤ), val = .number x ∧ x.value = n)

/-- The value of `type`: one name, or a list of them. -/
def TypeAdmits : Value Number → Value Number → Prop
  | .string name, val => HasType name val
  | .array names, val => ∃ name, .string name ∈ names ∧ HasType name val
  | _, _ => False

/-- The keywords that limit a quantity. -/
inductive Limit where
  | minimum
  | maximum
  | multipleOf
  | minLength
  | maxLength
deriving DecidableEq, Repr

namespace Limit

def text : Limit → String
  | minimum => "minimum"
  | maximum => "maximum"
  | multipleOf => "multipleOf"
  | minLength => "minLength"
  | maxLength => "maxLength"

def quantity : Limit → Value Number → Option ℚ
  | minimum, .number x | maximum, .number x | multipleOf, .number x => some x.value
  | minLength, .string s | maxLength, .string s => some s.length
  | _, _ => none

def Holds : Limit → ℚ → ℚ → Prop
  | minimum, quantity, bound | minLength, quantity, bound => bound ≤ quantity
  | maximum, quantity, bound | maxLength, quantity, bound => quantity ≤ bound
  | multipleOf, quantity, bound => ∃ n : ℤ, quantity = n * bound

/-- The validator can compare the value with the bound. -/
structure Comparable (limit : Limit) (val : Value Number) (bound : Number) : Prop where
  accepts : RatAccepts bound
  converts : ∀ x, val = .number x → RatAccepts x
  divides : limit = .multipleOf → bound.value ≠ 0

end Limit

inductive Keyword where
  | type
  | enum
  | limit (limit : Limit)
  | required
  | items
  | properties
  | additionalProperties
deriving DecidableEq, Repr

def Keyword.text : Keyword → String
  | type => "type"
  | enum => "enum"
  | limit which => which.text
  | required => "required"
  | items => "items"
  | properties => "properties"
  | additionalProperties => "additionalProperties"

def Declares (schema : Schema) (name : Text) : Prop :=
  ∃ props, schema.lookup (textOf "properties") = some (.object props) ∧ name ∈ props.map Prod.fst

/-- What a keyword with this value says about a value that meets its schema.  What a subschema says is
said where its own values meet it. -/
def Keyword.Says (schema : Schema) (val setting : Value Number) : Keyword → Prop
  | type => TypeAdmits setting val
  | enum => ∃ members, setting = .array members ∧ ∃ e ∈ members, SameValue e val
  | limit which => ∀ quantity, which.quantity val = some quantity →
      ∃ bound, setting = .number bound ∧ which.Holds quantity bound.value
  | required => ∀ members, val = .object members → ∃ names, setting = .array names ∧
      ∀ r ∈ names, ∃ name, r = .string name ∧ name ∈ members.map Prod.fst
  | items => ∃ sub, setting = .object sub
  | properties => ∃ props, setting = .object props ∧ ∀ property ∈ props, ∃ sub, property.2 = .object sub
  | additionalProperties => ∀ members, val = .object members →
      setting = .bool true ∨ (∃ sub, setting = .object sub) ∨
        (setting = .bool false ∧ ∀ name ∈ members.map Prod.fst, Declares schema name)

def Keyword.Means (keyword : Keyword) (schema : Schema) (val : Value Number) : Prop :=
  ∀ setting, schema.lookup (textOf keyword.text) = some setting → keyword.Says schema val setting

/-- The places where a value inside `val` meets a schema inside `schema`. -/
inductive Meets : Schema → Value Number → Schema → Value Number → Prop
  | here (schema : Schema) (val : Value Number) : Meets schema val schema val
  | item {schema sub inner : Schema} {items : List (Value Number)} {item val : Value Number}
      (declared : schema.lookup (textOf "items") = some (.object sub)) (member : item ∈ items)
      (below : Meets sub item inner val) : Meets schema (.array items) inner val
  | property {schema props sub inner : Schema} {members : List (Text × Value Number)} {name : Text}
      {value val : Value Number}
      (declared : schema.lookup (textOf "properties") = some (.object props))
      (listed : (name, .object sub) ∈ props) (present : members.lookup name = some value)
      (below : Meets sub value inner val) : Meets schema (.object members) inner val
  | additional {schema sub inner : Schema} {members : List (Text × Value Number)} {name : Text}
      {value val : Value Number}
      (declared : schema.lookup (textOf "additionalProperties") = some (.object sub))
      (undeclared : ¬ Declares schema name) (present : members.lookup name = some value)
      (below : Meets sub value inner val) : Meets schema (.object members) inner val

section Checks

variable {schema : Schema} {path : String} {val : Value Number}

theorem ratValue_number (x : Number) :
    ratValue (.number x) = if RatAccepts x then some x.value else none := rfl

variable {v : Value Number} {r quantity : ℚ} {num : Option ℚ} {violates : ℚ → ℚ → Bool}
  {message : String} {limit : Limit} {bound : Number}

theorem ratValue_eq_some :
    ratValue v = some r ↔ ∃ x, v = .number x ∧ RatAccepts x ∧ x.value = r := by
  cases v with
  | number x =>
    rw [ratValue_number]
    split_ifs with accepts
    · simp [accepts]
    · simp [accepts]
  | _ => simp [ratValue]

theorem isInt_iff : r.isInt = true ↔ ∃ n : ℤ, r = n := by
  rw [Rat.isInt, beq_iff_eq]
  constructor
  · intro whole
    exact ⟨r.num, (Rat.den_eq_one_iff r).mp whole ▸ rfl⟩
  · rintro ⟨n, rfl⟩
    exact Rat.den_intCast n

theorem checkType_ok {expected : Text} (passed : checkType path expected val = .ok ()) :
    HasType expected val := by
  unfold checkType at passed
  dsimp only at passed
  split_ifs at passed with number integer whole mismatch
  · left
    rw [number.1, number.2]
  · cases converted : ratValue val with
    | none =>
      rw [converted] at whole
      cases whole
    | some r =>
      rw [converted, Option.any_some] at whole
      obtain ⟨x, rfl, -, rfl⟩ := ratValue_eq_some.mp converted
      obtain ⟨n, value⟩ := isInt_iff.mp whole
      exact .inr ⟨integer.1, x, n, rfl, value⟩
  · exact .inl (not_not.mp mismatch)

theorem enumMatches_iff {e : Value Number} : enumMatches e val = true ↔
      (∃ r, ratValue e = some r ∧ ratValue val = some r) ∨
        ((ratValue e = none ∨ ratValue val = none) ∧ sprint e = sprint val) := by
  unfold enumMatches
  cases first : ratValue e with
  | none => simp
  | some r =>
    cases second : ratValue val with
    | none => simp
    | some s => simp [eq_comm]

theorem sameValue_of_ratValue {w : Value Number} (first : ratValue v = some r)
    (second : ratValue w = some r) : SameValue v w := by
  obtain ⟨x, rfl, -, left⟩ := ratValue_eq_some.mp first
  obtain ⟨y, rfl, -, right⟩ := ratValue_eq_some.mp second
  unfold SameValue
  rw [Value.map_number, Value.map_number, left, right]

theorem checkEnum_ok {members : List (Value Number)}
    (declared : schema.lookup (textOf "enum") = some (.array members)) :
    checkEnum schema path val = .ok () ↔ ∃ e ∈ members, enumMatches e val = true := by
  unfold checkEnum
  rw [declared]
  dsimp only
  rw [← List.any_eq_true]
  split_ifs with found
  · simp [found]
  · simp [found]

theorem checkBound_ok {keyword : String} : checkBound schema keyword num violates message = .ok () ↔
      ∀ n b, num = some n → (schema.lookup (textOf keyword)).bind ratValue = some b →
        violates n b = false := by
  unfold checkBound
  cases num with
  | none => simp
  | some n =>
    cases bound : (schema.lookup (textOf keyword)).bind ratValue with
    | none => simp
    | some b =>
      dsimp only
      split_ifs with violated
      · simp [violated]
      · simpa using violated

theorem passed_bound (declared : schema.lookup (textOf limit.text) = some (.number bound))
    (comparable : limit.Comparable val bound) (converted : num = some quantity)
    (passed : checkBound schema limit.text num violates message = .ok ()) :
    violates quantity bound.value = false := by
  apply checkBound_ok.mp passed quantity bound.value converted
  rw [declared, Option.bind_some, ratValue_number, if_pos comparable.accepts]

/-- Where the validator can compare, a passed value is within the limit. -/
theorem holds_of_checkSelf (passed : checkSelf schema path val = .ok ())
    (declared : schema.lookup (textOf limit.text) = some (.number bound))
    (limited : limit.quantity val = some quantity) (comparable : limit.Comparable val bound) :
    limit.Holds quantity bound.value := by
  unfold checkSelf at passed
  rw [inOrder_ok] at passed
  have numbers : checkNumber schema path val = .ok () := passed _ (by simp)
  have strings : checkString schema path val = .ok () := passed _ (by simp)
  unfold checkNumber at numbers
  rw [inOrder_ok] at numbers
  cases val with
  | number x =>
    have converted : ratValue (.number x) = some x.value := if_pos (comparable.converts x rfl)
    cases limit with
    | minimum =>
      cases limited
      have within := passed_bound declared comparable converted
        (numbers _ List.mem_cons_self)
      simpa [Limit.Holds] using within
    | maximum =>
      cases limited
      have within := passed_bound declared comparable converted
        (numbers _ (List.mem_cons_of_mem _ List.mem_cons_self))
      simpa [Limit.Holds] using within
    | multipleOf =>
      cases limited
      have within := passed_bound declared comparable converted
        (numbers _ (List.mem_cons_of_mem _ (List.mem_cons_of_mem _ List.mem_cons_self)))
      have nonzero := comparable.divides rfl
      rw [decide_eq_true nonzero, Bool.true_and, Bool.not_eq_false'] at within
      obtain ⟨n, quotient⟩ := isInt_iff.mp within
      exact ⟨n, (div_eq_iff nonzero).mp quotient⟩
    | minLength | maxLength => cases limited
  | string s =>
    unfold checkString at strings
    rw [inOrder_ok] at strings
    cases limit with
    | minLength =>
      cases limited
      have within := passed_bound declared comparable rfl (strings _ List.mem_cons_self)
      simpa [Limit.Holds] using within
    | maxLength =>
      cases limited
      have within := passed_bound declared comparable rfl
        (strings _ (List.mem_cons_of_mem _ List.mem_cons_self))
      simpa [Limit.Holds] using within
    | minimum | maximum | multipleOf => cases limited
  | _ => cases limit <;> cases limited

end Checks

end Crabedence.Capability
