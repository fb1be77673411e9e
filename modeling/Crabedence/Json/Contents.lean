import Crabedence.Json.RoundTrip

/-!
# What occurs in a tree

The member names, the texts and the numbers that occur anywhere in a tree, its nesting depth, and how
the names relate to those of the value the tree denotes: gathering an object drops every occurrence of
a key but the last one.
-/

namespace Json

def textString (text : Text) : String := String.ofList (text.map fun rune => rune.getD '\uFFFD')

namespace Value

variable {N : Type}

def names : Value N → List Text :=
  fold {
    null := []
    bool := fun _ => []
    number := fun _ => []
    string := fun _ => []
    array := List.flatten
    object := fun members => members.flatMap fun member => member.1 :: member.2
  }

def numbers : Value N → List N :=
  fold {
    null := []
    bool := fun _ => []
    number := fun value => [value]
    string := fun _ => []
    array := List.flatten
    object := fun members => members.flatMap Prod.snd
  }

variable {name text : Text} {items : List (Value N)} {members : List (Text × Value N)}
  {tree : Value N} {bound : Nat}

theorem mem_names_array : name ∈ (Value.array items).names ↔ ∃ item ∈ items, name ∈ item.names := by
  rw [names, fold_array]
  dsimp only
  rw [← List.flatMap_def]
  exact List.mem_flatMap

theorem mem_names_object : name ∈ (Value.object members).names ↔
      ∃ member ∈ members, name = member.1 ∨ name ∈ member.2.names := by
  rw [names, fold_object]
  dsimp only
  rw [List.flatMap_map]
  simp only [List.mem_flatMap, List.mem_cons]

def texts : Value N → List Text :=
  fold {
    null := []
    bool := fun _ => []
    number := fun _ => []
    string := fun text => [text]
    array := List.flatten
    object := fun members => members.flatMap fun member => member.1 :: member.2
  }

def depth : Value N → Nat :=
  fold {
    null := 0
    bool := fun _ => 0
    number := fun _ => 0
    string := fun _ => 0
    array := fun items => items.foldr max 0 + 1
    object := fun members => (members.map Prod.snd).foldr max 0 + 1
  }

theorem foldr_max_le {items : List Nat} :
    items.foldr max 0 ≤ bound ↔ ∀ item ∈ items, item ≤ bound := by
  induction items with
  | nil => simp
  | cons item rest ih => simp [ih]

theorem depth_array_le :
    (Value.array items).depth ≤ bound + 1 ↔ ∀ item ∈ items, item.depth ≤ bound := by
  rw [depth, fold_array]
  rw [Nat.add_le_add_iff_right, foldr_max_le, List.forall_mem_map]

theorem depth_object_le :
    (Value.object members).depth ≤ bound + 1 ↔ ∀ member ∈ members, member.2.depth ≤ bound := by
  rw [depth, fold_object]
  rw [Nat.add_le_add_iff_right, foldr_max_le, List.map_map, List.forall_mem_map]
  rfl

theorem depth_array_pos (items : List (Value N)) : 0 < (Value.array items).depth := by
  rw [depth, fold_array]
  exact Nat.succ_pos _

theorem depth_object_pos (members : List (Text × Value N)) : 0 < (Value.object members).depth := by
  rw [depth, fold_object]
  exact Nat.succ_pos _

def NoRepeats : Value N → Prop :=
  fold {
    null := True
    bool := fun _ => True
    number := fun _ => True
    string := fun _ => True
    array := fun items => ∀ item ∈ items, item
    object := fun members => (members.map Prod.fst).Nodup ∧ ∀ member ∈ members, member.2
  }

theorem noRepeats_array : (Value.array items).NoRepeats ↔ ∀ item ∈ items, item.NoRepeats := by
  rw [NoRepeats, fold_array]
  exact List.forall_mem_map

theorem noRepeats_object : (Value.object members).NoRepeats ↔
      (members.map Prod.fst).Nodup ∧ ∀ member ∈ members, member.2.NoRepeats := by
  rw [NoRepeats, fold_object]
  dsimp only
  rw [List.map_map, List.forall_mem_map]
  rfl

theorem mem_texts_array : text ∈ (Value.array items).texts ↔ ∃ item ∈ items, text ∈ item.texts := by
  rw [texts, fold_array]
  dsimp only
  rw [← List.flatMap_def]
  exact List.mem_flatMap

theorem mem_texts_object : text ∈ (Value.object members).texts ↔
      ∃ member ∈ members, text = member.1 ∨ text ∈ member.2.texts := by
  rw [texts, fold_object]
  dsimp only
  rw [List.flatMap_map]
  simp only [List.mem_flatMap, List.mem_cons]

theorem within_iff {readable : Text → Prop} :
    tree.Within readable bound ↔ tree.depth ≤ bound ∧ ∀ text ∈ tree.texts, readable text := by
  constructor
  · intro within
    induction within with
    | null | bool | number => exact ⟨Nat.zero_le _, fun _ member => by cases member⟩
    | string _ clean =>
      refine ⟨Nat.zero_le _, fun text member => ?_⟩
      rw [List.mem_singleton.mp member]
      exact clean
    | array _ ih =>
      refine ⟨depth_array_le.mpr fun item held => (ih item held).1, fun text member => ?_⟩
      obtain ⟨item, held, inside⟩ := mem_texts_array.mp member
      exact (ih item held).2 text inside
    | object clean _ ih =>
      refine ⟨depth_object_le.mpr fun member held => (ih member held).1, fun text occurs => ?_⟩
      obtain ⟨member, held, rfl | inside⟩ := mem_texts_object.mp occurs
      · exact clean member held
      · exact (ih member held).2 text inside
  · rintro ⟨nested, clean⟩
    induction tree using induct generalizing bound with
    | null => exact .null _
    | bool value => exact .bool _ value
    | number value => exact .number _ value
    | string text => exact .string _ (clean text List.mem_cons_self)
    | array items ih =>
      obtain ⟨bound, rfl⟩ := Nat.exists_eq_add_one_of_ne_zero
        (Nat.lt_of_lt_of_le (depth_array_pos items) nested).ne'
      exact .array fun item held => ih item held (depth_array_le.mp nested item held)
        fun text inside => clean text (mem_texts_array.mpr ⟨item, held, inside⟩)
    | object members ih =>
      obtain ⟨bound, rfl⟩ := Nat.exists_eq_add_one_of_ne_zero
        (Nat.lt_of_lt_of_le (depth_object_pos members) nested).ne'
      refine .object (fun member held => ?_) fun member held => ?_
      · exact clean member.1 (mem_texts_object.mpr ⟨member, held, .inl rfl⟩)
      · exact ih member held (depth_object_le.mp nested member held)
          fun text inside => clean text (mem_texts_object.mpr ⟨member, held, .inr inside⟩)

end Value

instance (replacement : Utf8.Rune) (text : Text) : Decidable (Readable replacement text) :=
  inferInstanceAs (Decidable (_ ∨ _))

end Json
