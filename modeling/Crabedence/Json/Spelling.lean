import Mathlib.Data.List.Nodup
import Crabedence.Json.Written

/-!
# Spelling strings

Encoders agree on the one-letter escapes and differ in which other characters they write by code.
Whatever the choice, the reader finds the same characters.
-/

namespace Json

open Utf8

/-- The characters an encoder writes by their code: all control characters, and none that has no
single code unit. -/
structure Escapes where
  byCode : Char → Bool
  control : ∀ c : Char, c.toNat < 0x20 → byCode c = true
  basic : ∀ c : Char, byCode c = true → c.toNat < 0x10000

namespace Escapes

/-- `json.Marshal`, which also escapes the HTML characters and the line separators. -/
def html : Escapes where
  byCode := escapedByCode
  control := fun c small => by simp [escapedByCode, small]
  basic := fun _ escaped => escapedByCode_small escaped

def isSeparator (c : Char) : Bool := decide (c.toNat = 0x2028) || decide (c.toNat = 0x2029)

/-- An encoder of the Go library after `SetEscapeHTML(false)`. -/
def plain : Escapes where
  byCode := fun c => decide (c.toNat < 0x20) || isSeparator c
  control := fun c small => by simp [small]
  basic := fun c escaped => by
    simp only [isSeparator, Bool.or_eq_true, decide_eq_true_eq] at escaped
    omega

/-- `JSON.stringify`. -/
def minimal : Escapes where
  byCode := fun c => decide (c.toNat < 0x20)
  control := fun c small => by simp [small]
  basic := fun c escaped => by
    simp only [decide_eq_true_eq] at escaped
    omega

variable (escapes : Escapes)

def spellChar (c : Char) : List Char :=
  match shortEscape c with
  | some letter => ['\\', letter]
  | none => if escapes.byCode c then '\\' :: 'u' :: hexDigits c.toNat else [c]

def spell : Rune → List Char
  | none => '\\' :: 'u' :: hexDigits 0xfffd
  | some c => escapes.spellChar c

def piece : Rune → Piece
  | none => .unit 0xfffd
  | some c => if shortEscape c = none ∧ escapes.byCode c then .unit c.toNat else .rune (some c)

theorem lexString_spell (rune : Rune) (rest : List Rune) :
    lexString ((escapes.spell rune).map some ++ rest) =
      (lexString rest).map fun result => (escapes.piece rune :: result.1, result.2) := by
  cases rune with
  | none => exact lexString_unit (by decide) rest
  | some c =>
    cases short : shortEscape c with
    | some letter =>
      simp only [spell, spellChar, piece, short, reduceCtorEq, false_and, ↓reduceIte]
      exact lexString_letter (unescape_shortEscape short) rest
    | none =>
      cases escaped : escapes.byCode c with
      | true =>
        simp only [spell, spellChar, piece, short, escaped, and_self, ↓reduceIte]
        exact lexString_unit (escapes.basic c escaped) rest
      | false =>
        have visible : ¬ c.toNat < 0x20 := fun small => by
          rw [escapes.control c small] at escaped
          cases escaped
        have unquoted : c ≠ '"' := fun same => by
          rw [same] at short
          cases short
        have unescaped : c ≠ '\\' := fun same => by
          rw [same] at short
          cases short
        simp only [spell, spellChar, piece, short, escaped, Bool.false_eq_true, and_false,
          ↓reduceIte]
        exact lexString_plain visible unquoted unescaped rest

end Escapes

theorem lexString_flatMap {A : Type} {spell : A → List Char} {piece : A → Piece}
    (each : ∀ item rest, lexString ((spell item).map some ++ rest) =
      (lexString rest).map fun result => (piece item :: result.1, result.2))
    (items : List A) (rest : List Rune) :
    lexString ((items.flatMap spell).map some ++ some '"' :: rest) =
      some (items.map piece, rest) := by
  induction items with
  | nil =>
    rw [List.flatMap_nil, List.map_nil, List.nil_append, lexString.eq_def]
    rfl
  | cons item items ih =>
    rw [List.flatMap_cons, List.map_append, List.append_assoc, each, ih]
    rfl

def Escapes.spelling {N S : Type} (escapes : Escapes) (number : N → Number) (runes : S → List Rune) :
    Spelling N S where
  number := number
  body := fun text => (runes text).flatMap escapes.spell
  pieces := fun text => (runes text).map escapes.piece
  lexes := fun text rest => lexString_flatMap escapes.lexString_spell (runes text) rest

namespace Node

variable {N M S T : Type}

/-- The keys of every object, in their order, are as required. -/
inductive Keyed (required : List S → Prop) : Node N S → Prop
  | null : Keyed required .null
  | bool (value : Bool) : Keyed required (.bool value)
  | number (value : N) : Keyed required (.number value)
  | string (text : S) : Keyed required (.string text)
  | array {items : List (Node N S)} : (∀ item ∈ items, Keyed required item) →
      Keyed required (.array items)
  | object {members : List (S × Node N S)} : required (members.map Prod.fst) →
      (∀ member ∈ members, Keyed required member.2) → Keyed required (.object members)

/-- No object repeats a key. -/
abbrev Distinct : Node N S → Prop := Keyed List.Nodup

/-- Every number and every string, keys included, is as required. -/
inductive Holds (number : N → Prop) (string : S → Prop) : Node N S → Prop
  | null : Holds number string .null
  | bool (value : Bool) : Holds number string (.bool value)
  | number {value : N} : number value → Holds number string (.number value)
  | string {text : S} : string text → Holds number string (.string text)
  | array {items : List (Node N S)} : (∀ item ∈ items, Holds number string item) →
      Holds number string (.array items)
  | object {members : List (S × Node N S)} : (∀ member ∈ members, string member.1) →
      (∀ member ∈ members, Holds number string member.2) → Holds number string (.object members)

variable {number : N → Prop} {string : S → Prop} {tree : Node N S} {f : N → M} {g : S → T}

theorem Holds.mono {wanted : S → Prop} (holds : tree.Holds number string)
    (weaker : ∀ text, string text → wanted text) : tree.Holds number wanted := by
  induction holds with
  | null => exact .null
  | bool value => exact .bool value
  | number held => exact .number held
  | string held => exact .string (weaker _ held)
  | array _ ih => exact .array ih
  | object keys _ ih => exact .object (fun member held => weaker _ (keys member held)) ih

theorem Holds.and {other : S → Prop} (holds : tree.Holds number string)
    (also : tree.Holds number other) : tree.Holds number fun text => string text ∧ other text := by
  induction holds with
  | null => exact .null
  | bool value => exact .bool value
  | number held => exact .number held
  | string held =>
    cases also with
    | string further => exact .string ⟨held, further⟩
  | array _ ih =>
    cases also with
    | array each => exact .array fun item listed => ih item listed (each item listed)
  | object keys _ ih =>
    cases also with
    | object named each =>
      exact .object (fun member listed => ⟨keys member listed, named member listed⟩)
        fun member listed => ih member listed (each member listed)

theorem Holds.map_congr {f' : N → M} {g' : S → T} (holds : tree.Holds number string)
    (numbers : ∀ value, number value → f value = f' value)
    (strings : ∀ text, string text → g text = g' text) : tree.map f g = tree.map f' g' := by
  induction holds with
  | null | bool value => rfl
  | number held => exact congrArg Node.number (numbers _ held)
  | string held => exact congrArg Node.string (strings _ held)
  | array _ ih =>
    rw [map_array, map_array]
    exact congrArg Node.array (List.map_congr_left ih)
  | object keys _ ih =>
    rw [map_object, map_object]
    apply congrArg Node.object
    apply List.map_congr_left
    intro member held
    rw [strings _ (keys member held), ih member held]

theorem map_id (tree : Node N S) : tree.map id id = tree := by
  induction tree using induct with
  | null | bool value | number value | string text => rfl
  | array items ih =>
    rw [map_array]
    conv_rhs => rw [← List.map_id items]
    exact congrArg Node.array (List.map_congr_left ih)
  | object members ih =>
    rw [map_object]
    conv_rhs => rw [← List.map_id members]
    apply congrArg Node.object
    apply List.map_congr_left
    intro member held
    rw [ih member held]
    rfl

theorem Holds.map_inverse {f' : M → N} {g' : T → S} (holds : tree.Holds number string)
    (numbers : ∀ value, number value → f' (f value) = value)
    (strings : ∀ text, string text → g' (g text) = text) : (tree.map f g).map f' g' = tree := by
  rw [map_map]
  exact (holds.map_congr numbers strings).trans (map_id tree)

theorem Distinct.transfer {O U : Type} {f' : N → O} {g' : S → U}
    (distinct : (tree.map f g).Distinct) (holds : tree.Holds number string)
    (finer : ∀ text other, string text → string other → g' text = g' other → g text = g other) :
    (tree.map f' g').Distinct := by
  induction holds with
  | null => exact .null
  | bool value => exact .bool value
  | number _ => exact .number _
  | string _ => exact .string _
  | @array items _ ih =>
    rw [map_array] at distinct ⊢
    cases distinct with
    | array each =>
      refine .array fun image held => ?_
      obtain ⟨item, listed, rfl⟩ := List.mem_map.mp held
      exact ih item listed (each _ (List.mem_map_of_mem listed))
  | @object members named _ ih =>
    have images {O U : Type} (f : N → O) (g : S → U) :
        (members.map fun member => (g member.1, member.2.map f g)).map Prod.fst =
          (members.map Prod.fst).map g := by
      rw [List.map_map, List.map_map]
      rfl
    rw [map_object] at distinct ⊢
    cases distinct with
    | object keys each =>
      rw [images] at keys
      refine .object ?_ fun image held => ?_
      · rw [images]
        refine (List.nodup_map_iff_inj_on (List.Nodup.of_map g keys)).mpr ?_
        intro text first other second same
        refine List.inj_on_of_nodup_map keys first second (finer _ _ ?_ ?_ same)
        · obtain ⟨member, listed, rfl⟩ := List.mem_map.mp first
          exact named member listed
        · obtain ⟨member, listed, rfl⟩ := List.mem_map.mp second
          exact named member listed
      · obtain ⟨member, listed, rfl⟩ := List.mem_map.mp held
        exact ih member listed (each _ (List.mem_map.mpr ⟨member, listed, rfl⟩))

theorem Keyed.map {required : List T → Prop}
    (keyed : tree.Keyed fun keys => required (keys.map g)) : (tree.map f g).Keyed required := by
  induction keyed with
  | null => exact .null
  | bool value => exact .bool value
  | number _ => exact .number _
  | string _ => exact .string _
  | array _ ih =>
    rw [map_array]
    exact .array (List.forall_mem_map.mpr ih)
  | object keys _ ih =>
    rw [map_object]
    refine .object ?_ (List.forall_mem_map.mpr ih)
    rw [List.map_map] at keys ⊢
    exact keys

section Printing

variable {printed spelled : N → List Char} {body shown : S → List Char}

theorem Holds.print_congr
    (holds : tree.Holds number string) (numbers : ∀ value, number value → printed value = spelled value)
    (strings : ∀ text, string text → body text = shown text) :
    tree.print printed body = tree.print spelled shown := by
  have first := @print_map _ _ _ _ id id printed body tree
  have second := @print_map _ _ _ _ id id spelled shown tree
  rw [holds.map_congr numbers strings] at first
  exact first.symm.trans second

variable {substitute : Char → List Char}

theorem flatMap_ascii {text : List Char} (ascii : ∀ c : Char, c.toNat < 128 → substitute c = [c])
    (plain : ∀ c ∈ text, c.toNat < 128) : text.flatMap substitute = text := by
  rw [List.flatMap_congr fun c held => ascii c (plain c held)]
  exact List.flatMap_singleton' text

/-- A substitution that leaves ASCII alone only reaches numbers and strings. -/
theorem print_flatMap (ascii : ∀ c : Char, c.toNat < 128 → substitute c = [c]) (tree : Node N S) :
    (tree.print printed body).flatMap substitute =
      tree.print (fun value => (printed value).flatMap substitute)
        fun text => (body text).flatMap substitute := by
  have parts (items : List (List Char)) :
      (separated items).flatMap substitute =
        separated (items.map fun item => item.flatMap substitute) := by
    induction items with
    | nil => rfl
    | cons item items ih =>
      cases items with
      | nil => rfl
      | cons next items =>
        simp only [separated, List.flatMap_append, List.flatMap_cons, ascii ',' (by decide), ih,
          List.map_cons, List.cons_append, List.nil_append]
  induction tree using induct with
  | null => exact @flatMap_ascii _ "null".toList ascii (List.all_iff_forall_prop.mp (by decide))
  | bool value =>
    cases value with
    | true => exact @flatMap_ascii _ "true".toList ascii (List.all_iff_forall_prop.mp (by decide))
    | false => exact @flatMap_ascii _ "false".toList ascii (List.all_iff_forall_prop.mp (by decide))
  | number value => rfl
  | string text =>
    change ('"' :: (body text ++ ['"'])).flatMap substitute = '"' :: (_ ++ ['"'])
    simp only [List.flatMap_cons, List.flatMap_append, List.flatMap_nil, ascii '"' (by decide),
      List.cons_append, List.nil_append, List.append_nil]
  | array items ih =>
    rw [print_array, print_array]
    have each : (items.map (print printed body)).map (fun item => item.flatMap substitute) =
        items.map (print (fun value => (printed value).flatMap substitute)
          fun text => (body text).flatMap substitute) := by
      rw [List.map_map]
      exact List.map_congr_left ih
    simp only [List.flatMap_cons, List.flatMap_append, List.flatMap_nil, ascii '[' (by decide),
      ascii ']' (by decide), parts, each, List.cons_append, List.nil_append]
  | object members ih =>
    rw [print_object, print_object]
    have each : (members.map fun member =>
          printMember body (member.1, member.2.print printed body)).map
            (fun item => item.flatMap substitute) =
        members.map fun member => printMember (fun text => (body text).flatMap substitute)
          (member.1, member.2.print (fun value => (printed value).flatMap substitute)
            fun text => (body text).flatMap substitute) := by
      rw [List.map_map]
      apply List.map_congr_left
      intro member held
      rw [Function.comp_apply, ← ih member held]
      simp only [printMember, List.flatMap_cons, List.flatMap_append, List.flatMap_nil,
        ascii '"' (by decide), ascii ':' (by decide), List.cons_append, List.nil_append,
        List.append_nil]
    simp only [List.flatMap_cons, List.flatMap_append, List.flatMap_nil,
      ascii '\x7b' (by decide), ascii '\x7d' (by decide), parts, each, List.cons_append,
      List.nil_append]
end Printing

end Node

theorem Spelling.written_inj {N S : Type} (spelling : Spelling N S) {tree other : Node N S}
    (same : spelling.print tree = spelling.print other) :
    spelling.written tree = spelling.written other := by
  have first := spelling.read_print (Nat.le_max_left tree.depth other.depth) stopsNumber_nil
  have second := spelling.read_print (Nat.le_max_right tree.depth other.depth) stopsNumber_nil
  rw [same, second] at first
  exact (Prod.mk.inj (Option.some.inj first)).1.symm

section Literals

variable {literal : List Piece → Prop} {input rest : List Rune} {tree : Written}

theorem readWrittenScalar_holds
    (lexed : ∀ input pieces rest, lexString input = some (pieces, rest) → literal pieces)
    (read : readWrittenScalar input = some (tree, rest)) : tree.Holds (fun _ => True) literal := by
  cases scalar_of_read read with
  | string _ token => exact .string (lexed _ _ _ token)
  | null _ => exact .null
  | bool value _ => exact .bool value
  | number _ => exact .number trivial

theorem readWritten_holds
    (lexed : ∀ input pieces rest, lexString input = some (pieces, rest) → literal pieces)
    {depth : Nat} (read : readWritten depth input = some (tree, rest)) :
    tree.Holds (fun _ => True) literal := by
  induction depth generalizing input rest tree with
  | zero => exact readWrittenScalar_holds lexed read
  | succ depth ih =>
    cases readWritten_eq_some_iff.mp read with
    | scalar scalar => exact readWrittenScalar_holds lexed scalar
    | array deep blank found =>
      cases deep
      exact .array (readSequence_forall (fun _ _ _ read => ih read) found)
    | @object less after rest members deep blank found =>
      cases deep
      have each : ∀ member ∈ members,
          literal member.1 ∧ member.2.Holds (fun _ => True) literal := by
        refine readSequence_forall (fun _ _ _ read => ?_) found
        obtain ⟨_, _, _, _, token, _, stored⟩ := readMemberWith_eq_some_iff.mp read
        exact ⟨lexed _ _ _ token, ih stored⟩
      exact .object (fun member held => (each member held).1) fun member held =>
        (each member held).2

end Literals

end Json
