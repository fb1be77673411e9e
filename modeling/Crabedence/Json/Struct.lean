import Crabedence.Json.Value
import Crabedence.Json.Number

/-!
# Decoding into a struct

How the Go library decodes an object into a struct that allows no unknown fields: member by member, a
key is matched with the name of a field exactly, or else up to case.
-/

namespace Json

open Utf8

def nameText (name : String) : Text := name.toList.map some

/-- The folding of runes that `foldName` uses. -/
structure Folding where
  fold : Char → Char
  fold_ascii : ∀ c : Char, c.toNat < 128 → fold c = c.toUpper

def Folding.ascii : Folding := ⟨Char.toUpper, fun _ _ => rfl⟩

def Folding.text (folding : Folding) (text : Text) : Text := text.map (Option.map folding.fold)

inductive StructError where
  | unknownField (key : Text)
  | mismatch
deriving DecidableEq

section Fields

variable {F S : Type} (folding : Folding) (name : F → Text) (fields : List F)

def matchField (key : Text) : Option F :=
  match fields.find? fun field => decide (name field = key) with
  | some field => some field
  | none => fields.find? fun field => decide (folding.text (name field) = folding.text key)

def decodeMembers (assign : F → Value Number → S → Except StructError S) :
    List (Text × Value Number) → S → Except StructError S
  | [], target => .ok target
  | (key, value) :: members, target =>
    match matchField folding name fields key with
    | none => .error (.unknownField key)
    | some field =>
      match assign field value target with
      | .error failure => .error failure
      | .ok target => decodeMembers assign members target

variable {folding name fields} {members : List (Text × Value Number)}

theorem decodeMembers_ok {assign : F → Value Number → S → Except StructError S}
    (each : ∀ member ∈ members, ∃ field, matchField folding name fields member.1 = some field ∧
      ∀ target, ∃ result, assign field member.2 target = .ok result) (target : S) :
    ∃ result, decodeMembers folding name fields assign members target = .ok result := by
  induction members generalizing target with
  | nil => exact ⟨target, rfl⟩
  | cons member members ih =>
    obtain ⟨field, matched, assigned⟩ := each member List.mem_cons_self
    obtain ⟨next, stored⟩ := assigned target
    rw [decodeMembers, matched]
    dsimp only
    rw [stored]
    exact ih (fun other held => each other (List.mem_cons_of_mem member held)) next

/-- Storing a value changes the field it is for, and no other. -/
structure Assigns {V : Type} (get : F → S → V) (stores : F → Value Number → V → V → Prop)
    (assign : F → Value Number → S → Except StructError S) : Prop where
  own : ∀ {field value target result}, assign field value target = .ok result →
    stores field value (get field target) (get field result)
  others : ∀ {field value target result}, assign field value target = .ok result →
    ∀ other, other ≠ field → get other result = get other target

variable {V : Type} {get : F → S → V} {stores : F → Value Number → V → V → Prop}
  {assign : F → Value Number → S → Except StructError S} {target result : S}
  {member : Text × Value Number} {field : F}

theorem decodeMembers_cons
    (decoded : decodeMembers folding name fields assign (member :: members) target = .ok result) :
    ∃ field next, matchField folding name fields member.1 = some field ∧
      assign field member.2 target = .ok next ∧
      decodeMembers folding name fields assign members next = .ok result := by
  rw [decodeMembers] at decoded
  cases matched : matchField folding name fields member.1 with
  | none =>
    rw [matched] at decoded
    cases decoded
  | some field =>
    rw [matched] at decoded
    cases stored : assign field member.2 target with
    | error failure =>
      simp only [stored] at decoded
      cases decoded
    | ok next =>
      simp only [stored] at decoded
      exact ⟨field, next, rfl, stored, decoded⟩

theorem decodeMembers_append {more : List (Text × Value Number)} {next : S}
    (first : decodeMembers folding name fields assign members target = .ok next) :
    decodeMembers folding name fields assign (members ++ more) target =
      decodeMembers folding name fields assign more next := by
  induction members generalizing target with
  | nil =>
    cases first
    rfl
  | cons member members ih =>
    obtain ⟨field, after, matched, stored, further⟩ := decodeMembers_cons first
    rw [List.cons_append, decodeMembers, matched]
    dsimp only
    rw [stored]
    exact ih further

theorem decodeMembers_matched
    (decoded : decodeMembers folding name fields assign members target = .ok result)
    (held : member ∈ members) : ∃ field, matchField folding name fields member.1 = some field := by
  induction members generalizing target with
  | nil => cases held
  | cons first members ih =>
    obtain ⟨field, next, matched, -, further⟩ := decodeMembers_cons decoded
    rcases List.mem_cons.mp held with rfl | later
    · exact ⟨field, matched⟩
    · exact ih further later

section

variable (laws : Assigns get stores assign)
  (decoded : decodeMembers folding name fields assign members target = .ok result)
include laws decoded

theorem decodeMembers_unnamed
    (unnamed : ∀ member ∈ members, matchField folding name fields member.1 ≠ some field) :
    get field result = get field target := by
  induction members generalizing target with
  | nil =>
    cases decoded
    rfl
  | cons first members ih =>
    obtain ⟨other, next, matched, stored, further⟩ := decodeMembers_cons decoded
    rw [ih further fun member held => unnamed member (List.mem_cons_of_mem first held)]
    apply laws.others stored
    rintro rfl
    exact unnamed first List.mem_cons_self matched

theorem decodeMembers_named
    (once : (members.map fun member => matchField folding name fields member.1).Nodup)
    (held : member ∈ members) (named : matchField folding name fields member.1 = some field) :
    stores field member.2 (get field target) (get field result) := by
  induction members generalizing target with
  | nil => cases held
  | cons first members ih =>
    obtain ⟨other, next, matched, stored, further⟩ := decodeMembers_cons decoded
    obtain ⟨fresh, once⟩ := List.nodup_cons.mp once
    rcases List.mem_cons.mp held with rfl | later
    · cases matched.symm.trans named
      rw [decodeMembers_unnamed laws further]
      · exact laws.own stored
      · intro later held again
        exact fresh (List.mem_map.mpr ⟨later, held, again.trans named.symm⟩)
    · have distinct : field ≠ other := by
        rintro rfl
        exact fresh (List.mem_map.mpr ⟨member, later, named.trans matched.symm⟩)
      rw [← laws.others stored field distinct]
      exact ih further once later

end

end Fields

section Scalars

def assignString {S : Type} (set : String → S → S) (toString : Text → String) (target : S) :
    Value Number → Except StructError S
  | .string text => .ok (set (toString text) target)
  | .null => .ok target
  | _ => .error .mismatch

/-- `strconv.ParseInt` with base 10 and 64 bits. -/
def parseInt (text : List Char) : Option Int :=
  let negative := decide (text.head? = some '-')
  let digits := if negative ∨ text.head? = some '+' then text.tail else text
  if digits ≠ [] ∧ Digits digits then
    let value : Int := if negative then -(natural digits) else natural digits
    if -2 ^ 63 ≤ value ∧ value < 2 ^ 63 then some value else none
  else none

def assignInt {S : Type} (set : Int → S → S) (target : S) : Value Number → Except StructError S
  | .number number =>
    match parseInt number.text with
    | some value => .ok (set value target)
    | none => .error .mismatch
  | .null => .ok target
  | _ => .error .mismatch

variable {S : Type} {target result : S} {value : Value Number}

theorem assignString_stores {set : String → S → S} {toString : Text → String}
    (stored : assignString set toString target value = .ok result) :
    value = .null ∧ result = target ∨
      ∃ text, value = .string text ∧ result = set (toString text) target := by
  cases value with
  | null =>
    cases stored
    exact .inl ⟨rfl, rfl⟩
  | string text =>
    cases stored
    exact .inr ⟨text, rfl, rfl⟩
  | _ => cases stored

theorem assignInt_stores {set : Int → S → S} (stored : assignInt set target value = .ok result) :
    value = .null ∧ result = target ∨
      ∃ number n, value = .number number ∧ parseInt number.text = some n ∧ result = set n target := by
  cases value with
  | null =>
    cases stored
    exact .inl ⟨rfl, rfl⟩
  | number number =>
    rw [assignInt] at stored
    cases parsed : parseInt number.text with
    | none =>
      rw [parsed] at stored
      cases stored
    | some n =>
      rw [parsed] at stored
      cases stored
      exact .inr ⟨number, n, rfl, parsed, rfl⟩
  | _ => cases stored

end Scalars

end Json
