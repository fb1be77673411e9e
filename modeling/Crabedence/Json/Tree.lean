import Crabedence.Json.RoundTrip

/-!
# JSON trees over any strings

The shape of a JSON document whatever its numbers and strings are: byte strings, code units, or the
literal as it was written.  `Written` is a document as written, with its number literals and the
pieces of its string literals, and `readWritten` reads one from the grammar.  What a decoder makes of
a document is a map over the written tree.
-/

namespace Json

open Utf8

inductive Node (N S : Type) where
  | null
  | bool (value : Bool)
  | number (value : N)
  | string (text : S)
  | array (items : List (Node N S))
  | object (members : List (S × Node N S))

/-- What a traversal does at each kind of node. -/
structure NodeAlgebra (N S R : Type) where
  null : R
  bool : Bool → R
  number : N → R
  string : S → R
  array : List R → R
  object : List (S × R) → R

namespace Node

variable {N M S T R : Type}

mutual

def fold (algebra : NodeAlgebra N S R) : Node N S → R
  | .null => algebra.null
  | .bool value => algebra.bool value
  | .number value => algebra.number value
  | .string text => algebra.string text
  | .array items => algebra.array (foldItems algebra items)
  | .object members => algebra.object (foldMembers algebra members)

def foldItems (algebra : NodeAlgebra N S R) : List (Node N S) → List R
  | [] => []
  | item :: items => fold algebra item :: foldItems algebra items

def foldMembers (algebra : NodeAlgebra N S R) : List (S × Node N S) → List (S × R)
  | [] => []
  | (key, value) :: members => (key, fold algebra value) :: foldMembers algebra members

end

theorem fold_array (algebra : NodeAlgebra N S R) (items : List (Node N S)) :
    fold algebra (.array items) = algebra.array (items.map (fold algebra)) := by
  have each : foldItems algebra items = items.map (fold algebra) := by
    induction items with
    | nil => rfl
    | cons item items ih => rw [foldItems, ih, List.map_cons]
  rw [fold, each]

theorem fold_object (algebra : NodeAlgebra N S R) (members : List (S × Node N S)) :
    fold algebra (.object members) =
      algebra.object (members.map fun member => (member.1, fold algebra member.2)) := by
  have each : foldMembers algebra members =
      members.map fun member => (member.1, fold algebra member.2) := by
    induction members with
    | nil => rfl
    | cons member members ih => rw [foldMembers, ih, List.map_cons]
  rw [fold, each]

theorem induct {motive : Node N S → Prop} (null : motive .null)
    (bool : ∀ value, motive (.bool value)) (number : ∀ value, motive (.number value))
    (string : ∀ text, motive (.string text))
    (array : ∀ items, (∀ item ∈ items, motive item) → motive (.array items))
    (object : ∀ members, (∀ member ∈ members, motive member.2) → motive (.object members))
    (tree : Node N S) : motive tree :=
  @Node.rec N S motive (fun items => ∀ item ∈ items, motive item)
    (fun members => ∀ member ∈ members, motive member.2) (fun member => motive member.2)
    null bool number string (fun items held => array items held)
    (fun members held => object members held)
    (fun _ member => by cases member)
    (fun _ _ first rest => List.forall_mem_cons.mpr ⟨first, rest⟩)
    (fun _ member => by cases member)
    (fun _ _ first rest => List.forall_mem_cons.mpr ⟨first, rest⟩)
    (fun _ _ held => held) tree

def map (f : N → M) (g : S → T) : Node N S → Node M T :=
  fold ⟨.null, .bool, fun value => .number (f value), fun text => .string (g text), .array,
    fun members => .object (members.map fun member => (g member.1, member.2))⟩

theorem map_array (f : N → M) (g : S → T) (items : List (Node N S)) :
    (Node.array items).map f g = .array (items.map (map f g)) :=
  fold_array _ items

theorem map_object (f : N → M) (g : S → T) (members : List (S × Node N S)) :
    (Node.object members).map f g =
      .object (members.map fun member => (g member.1, member.2.map f g)) := by
  rw [map, fold_object]
  exact congrArg object (List.map_map ..)

theorem map_map {O U : Type} (f : N → M) (f' : M → O) (g : S → T) (g' : T → U) (tree : Node N S) :
    (tree.map f g).map f' g' = tree.map (f' ∘ f) (g' ∘ g) := by
  induction tree using induct with
  | null | bool value | number value | string text => rfl
  | array items ih =>
    rw [map_array, map_array, map_array, List.map_map]
    exact congrArg array (List.map_congr_left ih)
  | object members ih =>
    rw [map_object, map_object, map_object, List.map_map]
    apply congrArg object
    apply List.map_congr_left
    intro member held
    exact congrArg (Prod.mk _) (ih member held)

def depth : Node N S → Nat :=
  fold ⟨0, fun _ => 0, fun _ => 0, fun _ => 0, fun depths => depths.foldr max 0 + 1,
    fun members => (members.map Prod.snd).foldr max 0 + 1⟩

theorem foldr_max_le {depths : List Nat} {bound : Nat} :
    depths.foldr max 0 ≤ bound ↔ ∀ depth ∈ depths, depth ≤ bound := by
  induction depths with
  | nil => simp
  | cons depth depths ih => rw [List.foldr_cons, max_le_iff, ih, List.forall_mem_cons]

theorem depth_array (items : List (Node N S)) (bound : Nat) :
    (Node.array items).depth ≤ bound + 1 ↔ ∀ item ∈ items, item.depth ≤ bound := by
  rw [depth, fold_array]
  rw [Nat.add_le_add_iff_right, foldr_max_le, List.forall_mem_map]

theorem depth_object (members : List (S × Node N S)) (bound : Nat) :
    (Node.object members).depth ≤ bound + 1 ↔ ∀ member ∈ members, member.2.depth ≤ bound := by
  rw [depth, fold_object]
  rw [Nat.add_le_add_iff_right, foldr_max_le, List.map_map, List.forall_mem_map]
  rfl

theorem depth_array_pos (items : List (Node N S)) : 0 < (Node.array items).depth := by
  rw [depth, fold_array]
  exact Nat.succ_pos _

theorem depth_object_pos (members : List (S × Node N S)) : 0 < (Node.object members).depth := by
  rw [depth, fold_object]
  exact Nat.succ_pos _

end Node

/-- A document as it is written. -/
abbrev Written := Node Number (List Piece)

section Reader

def readWrittenScalar (input : List Rune) : Option (Written × List Rune) :=
  match input with
  | [] => none
  | first :: rest =>
    if first = some '"' then do
      let (pieces, rest) ← lexString rest
      some (.string pieces, rest)
    else if first = some 'n' then readName "null".toList .null (first :: rest)
    else if first = some 't' then readName "true".toList (.bool true) (first :: rest)
    else if first = some 'f' then readName "false".toList (.bool false) (first :: rest)
    else do
      let (number, rest) ← Number.read (first :: rest)
      some (.number number, rest)

/-- Reads one value, nested at most as deep as given, and leaves what follows it. -/
def readWritten : Nat → List Rune → Option (Written × List Rune)
  | 0, input => readWrittenScalar (skipBlank input)
  | depth + 1, input =>
    match skipBlank input with
    | [] => none
    | first :: rest =>
      if first = some '[' then do
        let (items, rest) ← readSequence ']' (readWritten depth) rest
        some (.array items, rest)
      else if first = some '\x7b' then do
        let (members, rest) ←
          readSequence '\x7d' (readMemberWith lexString (readWritten depth)) rest
        some (.object members, rest)
      else readWrittenScalar (first :: rest)

end Reader

end Json
