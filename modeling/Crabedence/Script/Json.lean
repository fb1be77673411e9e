import Mathlib.Data.List.Sort
import Crabedence.Json.Spelling
import Crabedence.Script.Number
import Crabedence.Text.Utf16

/-!
# Script values and JSON

What `JSON.parse` returns and what `JSON.stringify` writes.  An object lists the keys that are array
indices first, in ascending order, and the others in the order they were first set; setting a key
again keeps its place.  A string escape stands for one code unit, so a surrogate that belongs to no
pair stays in the string.
-/

namespace Script

open Json

abbrev Value := Node Number Utf16.Str

namespace Value

/-- The number of a key that is an array index. -/
def arrayIndex (key : Utf16.Str) : Option ℕ :=
  let index := key.foldl (fun index unit => 10 * index + (unit.toNat - 48)) 0
  if index < 2 ^ 32 - 1 ∧ Utf16.encode (Nat.toDigits 10 index) = key then some index else none

/-- An object lists a key that is new to it before the other. -/
def precedes (key other : Utf16.Str) : Bool :=
  match arrayIndex key, arrayIndex other with
  | some index, some index' => decide (index < index')
  | some _, none => true
  | none, _ => false

def assign (members : List (Utf16.Str × Value)) (key : Utf16.Str) (value : Value) :
    List (Utf16.Str × Value) :=
  if key ∈ members.map Prod.fst then
    members.map fun member => if member.1 = key then (key, value) else member
  else members.orderedInsert (fun member other => precedes member.1 other.1) (key, value)

def assemble (members : List (Utf16.Str × Value)) : List (Utf16.Str × Value) :=
  members.foldl (fun object member => assign object member.1 member.2) []

def get? (value : Value) (key : Utf16.Str) : Option Value :=
  match value with
  | .object members => members.lookup key
  | _ => none

/-- Keys as an object lists them when they are set in this order. -/
def Settled (keys : List Utf16.Str) : Prop :=
  keys.Pairwise fun earlier later => earlier ≠ later ∧ ¬ precedes later earlier

theorem settled_of_named {keys : List Utf16.Str} (distinct : keys.Nodup)
    (named : ∀ key ∈ keys, arrayIndex key = none) : Settled keys := by
  refine List.Pairwise.imp_of_mem (fun {earlier later} _ held different => ⟨different, ?_⟩) distinct
  rw [precedes, named later held]
  simp

theorem assign_last {members : List (Utf16.Str × Value)} {key : Utf16.Str}
    (last : ∀ member ∈ members, member.1 ≠ key ∧ ¬ precedes key member.1) (value : Value) :
    assign members key value = members ++ [(key, value)] := by
  have fresh : key ∉ members.map Prod.fst := fun held => by
    obtain ⟨member, listed, same⟩ := List.mem_map.mp held
    exact (last member listed).1 same
  rw [assign, if_neg fresh]
  clear fresh
  induction members with
  | nil => rfl
  | cons member members ih =>
    obtain ⟨first, others⟩ := List.forall_mem_cons.mp last
    rw [List.orderedInsert, if_neg first.2, ih others, List.cons_append]

theorem assemble_settled {members : List (Utf16.Str × Value)}
    (settled : Settled (members.map Prod.fst)) : assemble members = members := by
  have grow : ∀ (later earlier : List (Utf16.Str × Value)),
      Settled ((earlier ++ later).map Prod.fst) →
      later.foldl (fun object member => assign object member.1 member.2) earlier =
        earlier ++ later := by
    intro later
    induction later with
    | nil => exact fun earlier _ => (List.append_nil earlier).symm
    | cons member later ih =>
      intro earlier settled
      have last : ∀ held ∈ earlier, held.1 ≠ member.1 ∧ ¬ precedes member.1 held.1 := by
        rw [Settled, List.map_append, List.map_cons, List.pairwise_append] at settled
        exact fun held listed => settled.2.2 _ (List.mem_map_of_mem listed) _ List.mem_cons_self
      rw [List.foldl_cons, assign_last last, ih _ (by simpa using settled)]
      simp
  exact grow members [] settled

end Value

section Operators

/-- `value >= bound` of a number. -/
def Value.atLeast : Option Value → ℤ → Bool
  | some (.number (.finite value)), bound => decide ((bound : ℚ) ≤ value)
  | some (.number (.infinite negative)), _ => !negative
  | _, _ => false

def booleanText (value : Bool) : Utf16.Str := Utf16.str (if value then "true" else "false")

/-- `String(value ?? "")`; an array is its items with commas between them. -/
def Value.toText (shortest : Number → List Char) : Value → Utf16.Str :=
  Node.fold {
    null := []
    bool := booleanText
    number := fun value => Utf16.encode (value.text shortest)
    string := id
    array := fun parts => (parts.intersperse (Utf16.str ",")).flatten
    object := fun _ => Utf16.str "[object Object]"
  }

end Operators

section Parse

def units : Piece → Utf16.Str
  | .rune none => Utf16.encodeChar '�'
  | .rune (some c) => Utf16.encodeChar c
  | .unit code => [UInt16.ofNat code]

def ofWritten : Written → Value :=
  Node.fold {
    null := .null
    bool := .bool
    number := fun literal => .number (ofRat literal.value)
    string := fun pieces => .string (pieces.flatMap units)
    array := .array
    object := fun members =>
      .object (Value.assemble (members.map fun member => (member.1.flatMap units, member.2)))
  }

/-- `JSON.parse`. -/
def parse (source : List Char) : Option Value := do
  let (tree, rest) ← readWritten source.length (source.map some)
  if skipBlank rest = [] then some (ofWritten tree) else none

end Parse

section Stringify

def spellPoint : Utf16.Point → List Char
  | .char c => Escapes.minimal.spellChar c
  | .lone unit => '\\' :: 'u' :: hexDigits unit.toNat

def spellString (text : Utf16.Str) : List Char := (Utf16.decode text).flatMap spellPoint

/-- A number, or `null` where there is no literal for it. -/
def spellNumber (shortest : Number → List Char) : Number → List Char
  | .finite value => Number.text shortest (.finite value)
  | .infinite _ => "null".toList

/-- `JSON.stringify`. -/
def stringify (shortest : Number → List Char) : Value → List Char :=
  Node.print (spellNumber shortest) spellString

end Stringify

section RoundTrip

variable {N S : Type} {tree : Node N S}

theorem ofWritten_map (number : N → Json.Number) (pieces : S → List Piece)
    (settled : (tree.map (fun value => ofRat (number value).value)
      (fun text => (pieces text).flatMap units)).Keyed Value.Settled) :
    ofWritten (tree.map number pieces) =
      tree.map (fun value => ofRat (number value).value) fun text => (pieces text).flatMap units := by
  induction tree using Node.induct with
  | null | bool value | number value | string text => rfl
  | array items ih =>
    rw [Node.map_array] at settled ⊢
    rw [Node.map_array, ofWritten, Node.fold_array, List.map_map]
    cases settled with
    | array each =>
      apply congrArg Node.array
      apply List.map_congr_left
      intro item held
      exact ih item held (each _ (List.mem_map_of_mem held))
  | object members ih =>
    rw [Node.map_object] at settled ⊢
    rw [Node.map_object, ofWritten, Node.fold_object, List.map_map]
    cases settled with
    | object keys each =>
      have same : (members.map ((fun member : List Piece × Written => (member.1,
          ofWritten member.2)) ∘ fun member => (pieces member.1, member.2.map number pieces))).map
            (fun member => (member.1.flatMap units, member.2)) =
          members.map fun member => ((pieces member.1).flatMap units,
            member.2.map (fun value => ofRat (number value).value)
              fun text => (pieces text).flatMap units) := by
        rw [List.map_map]
        apply List.map_congr_left
        intro member held
        exact congrArg (Prod.mk _) (ih member held (each _ (List.mem_map_of_mem held)))
      exact congrArg Node.object ((congrArg Value.assemble same).trans
        (Value.assemble_settled keys))

theorem parse_print (spelling : Spelling N S)
    (settled : (tree.map (fun value => ofRat (spelling.number value).value)
      (fun text => (spelling.pieces text).flatMap units)).Keyed Value.Settled) :
    parse (spelling.print tree) =
      some (tree.map (fun value => ofRat (spelling.number value).value)
        fun text => (spelling.pieces text).flatMap units) := by
  have read := spelling.read_print (spelling.depth_le_length tree) stopsNumber_nil
  rw [List.append_nil] at read
  rw [parse, read]
  exact congrArg some (ofWritten_map spelling.number spelling.pieces settled)

theorem units_piece (escapes : Escapes) (rune : Utf8.Rune) :
    units (escapes.piece rune) = Utf16.encodeChar (rune.getD '�') := by
  cases rune with
  | none => rfl
  | some c =>
    rw [Escapes.piece]
    split_ifs with coded
    · rw [units, Option.getD_some, Utf16.encodeChar, if_pos (escapes.basic c coded.2)]
    · rfl

end RoundTrip

end Script
