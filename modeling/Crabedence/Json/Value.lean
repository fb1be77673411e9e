import Mathlib.Data.List.Induction
import Mathlib.Data.Char
import Mathlib.Data.List.Lex
import Crabedence.Text.Utf8

/-!
# JSON trees

The syntax tree of a JSON document over any type of numbers.  Members of an object are kept in
document order, duplicates included; `collect` is the value of the document, where a later
duplicate replaces an earlier one and members are in key order.  Every traversal is an `Algebra`
applied by `fold`.
-/

namespace Json

open Utf8

/-- The text of a string or a key. -/
abbrev Text := List Rune

inductive Value (N : Type) where
  | null
  | bool (value : Bool)
  | number (value : N)
  | string (text : Text)
  | array (items : List (Value N))
  | object (members : List (Text × Value N))

/-- What a traversal does at each kind of node. -/
structure Algebra (N R : Type) where
  null : R
  bool : Bool → R
  number : N → R
  string : Text → R
  array : List R → R
  object : List (Text × R) → R

namespace Value

variable {N M R : Type}

mutual

def fold (algebra : Algebra N R) : Value N → R
  | .null => algebra.null
  | .bool value => algebra.bool value
  | .number value => algebra.number value
  | .string text => algebra.string text
  | .array items => algebra.array (foldItems algebra items)
  | .object members => algebra.object (foldMembers algebra members)

def foldItems (algebra : Algebra N R) : List (Value N) → List R
  | [] => []
  | item :: items => fold algebra item :: foldItems algebra items

def foldMembers (algebra : Algebra N R) : List (Text × Value N) → List (Text × R)
  | [] => []
  | (key, value) :: members => (key, fold algebra value) :: foldMembers algebra members

end

variable (algebra : Algebra N R) (f : N → M) (members : List (Text × Value N))
  (items : List (Value N))

theorem foldItems_eq : foldItems algebra items = items.map (fold algebra) := by
  induction items with
  | nil => rfl
  | cons item items ih => rw [foldItems, ih, List.map_cons]

theorem foldMembers_eq : foldMembers algebra members =
      members.map fun member => (member.1, fold algebra member.2) := by
  induction members with
  | nil => rfl
  | cons member members ih => rw [foldMembers, ih, List.map_cons]

theorem fold_array : fold algebra (.array items) = algebra.array (items.map (fold algebra)) := by
  rw [fold, foldItems_eq]

theorem fold_object : fold algebra (.object members) =
      algebra.object (members.map fun member => (member.1, fold algebra member.2)) := by
  rw [fold, foldMembers_eq]

theorem induct {motive : Value N → Prop} (null : motive .null)
    (bool : ∀ value, motive (.bool value)) (number : ∀ value, motive (.number value))
    (string : ∀ text, motive (.string text))
    (array : ∀ items, (∀ item ∈ items, motive item) → motive (.array items))
    (object : ∀ members, (∀ member ∈ members, motive member.2) → motive (.object members))
    (tree : Value N) : motive tree :=
  @Value.rec N motive (fun items => ∀ item ∈ items, motive item)
    (fun members => ∀ member ∈ members, motive member.2) (fun member => motive member.2)
    null bool number string (fun items held => array items held)
    (fun members held => object members held)
    (fun _ member => by cases member)
    (fun _ _ first rest => List.forall_mem_cons.mpr ⟨first, rest⟩)
    (fun _ member => by cases member)
    (fun _ _ first rest => List.forall_mem_cons.mpr ⟨first, rest⟩)
    (fun _ _ held => held) tree

def map : Value N → Value M :=
  fold ⟨.null, .bool, fun value => .number (f value), .string, .array, .object⟩

@[simp] theorem map_number (value : N) : (Value.number value).map f = .number (f value) := rfl

@[simp] theorem map_string (text : Text) : (Value.string text).map f = .string text := rfl

theorem map_array : (Value.array items).map f = .array (items.map (map f)) :=
  fold_array _ items

theorem map_object : (Value.object members).map f =
      .object (members.map fun member => (member.1, member.2.map f)) :=
  fold_object _ members

theorem fold_map (algebra : Algebra M R) (f : N → M) (tree : Value N) : (tree.map f).fold algebra =
      tree.fold { algebra with number := fun value => algebra.number (f value) } := by
  induction tree using induct with
  | null | bool value | number value | string text => rfl
  | array items ih =>
    rw [map_array, fold_array, fold_array, List.map_map]
    exact congrArg algebra.array (List.map_congr_left ih)
  | object members ih =>
    rw [map_object, fold_object, fold_object, List.map_map]
    apply congrArg algebra.object
    apply List.map_congr_left
    intro member held
    exact congrArg (Prod.mk member.1) (ih member held)

theorem map_map (g : M → R) (tree : Value N) : (tree.map f).map g = tree.map (g ∘ f) :=
  fold_map _ f tree

theorem map_id (tree : Value N) : tree.map id = tree := by
  induction tree using induct with
  | null | bool value | number value | string text => rfl
  | array items ih =>
    rw [map_array]
    exact congrArg array ((List.map_congr_left ih).trans (List.map_id' items))
  | object members ih =>
    rw [map_object]
    refine congrArg object (Eq.trans (List.map_congr_left ?_) (List.map_id' members))
    intro member held
    exact congrArg (Prod.mk member.1) (ih member held)

end Value

theorem map_eq_map_iff_of_mem {A B C : Type} {f : A → B} {g : A → C} {left right : List A}
    (agree : ∀ item ∈ left, ∀ other, f item = f other ↔ g item = g other) :
    left.map f = right.map f ↔ left.map g = right.map g := by
  induction left generalizing right with
  | nil => cases right <;> simp
  | cons item left ih =>
    cases right with
    | nil => simp
    | cons other right =>
      simp only [List.map_cons, List.cons.injEq]
      rw [agree item (by simp) other, ih fun item held => agree item (by simp [held])]

theorem Value.map_eq_map_iff {N M R : Type} {f : N → M} {g : N → R}
    (agree : ∀ value other, f value = f other ↔ g value = g other) (tree other : Value N) :
    tree.map f = other.map f ↔ tree.map g = other.map g := by
  induction tree using induct generalizing other with
  | null | bool value => cases other <;> simp [map, fold]
  | number value => cases other <;> simp [map, fold, agree]
  | string text => cases other <;> simp [map, fold]
  | array items ih =>
    cases other with
    | array others =>
      simp only [map_array, array.injEq]
      exact map_eq_map_iff_of_mem ih
    | _ => simp [map, fold]
  | object members ih =>
    cases other with
    | object others =>
      simp only [map_object, object.injEq]
      apply map_eq_map_iff_of_mem
      intro member held other
      rw [Prod.mk.injEq, Prod.mk.injEq, ih member held other.2]
    | _ => simp [map, fold]

theorem Value.map_injective {N M : Type} {f : N → M} (distinct : Function.Injective f) :
    Function.Injective (Value.map f) := by
  intro tree other same
  have agree : ∀ value other, f value = f other ↔ id value = id other :=
    fun value other => distinct.eq_iff
  rw [Value.map_eq_map_iff agree, Value.map_id, Value.map_id] at same
  exact same

def runeCode : Rune → Nat
  | none => 0
  | some c => c.toNat + 1

def textCode (text : Text) : List Nat := text.map runeCode

theorem runeCode_injective : Function.Injective runeCode := by
  intro rune other same
  cases rune with
  | none => cases other <;> simp_all [runeCode]
  | some c =>
    cases other with
    | none => simp [runeCode] at same
    | some d =>
      have codes : c.toNat = d.toNat := by simpa [runeCode] using same
      exact congrArg some (Char.ext (UInt32.toNat_inj.mp codes))

theorem textCode_injective : Function.Injective textCode :=
  List.map_injective_iff.mpr runeCode_injective

def Before (text other : Text) : Prop := textCode text < textCode other

instance (text other : Text) : Decidable (Before text other) :=
  inferInstanceAs (Decidable (textCode text < textCode other))

section Members

variable {V W : Type}

def Ascending (members : List (Text × V)) : Prop :=
  members.Pairwise fun member other => Before member.1 other.1

def insertMember (key : Text) (value : V) : List (Text × V) → List (Text × V)
  | [] => [(key, value)]
  | (present, stored) :: rest =>
    if key = present then (key, value) :: rest
    else if Before key present then (key, value) :: (present, stored) :: rest
    else (present, stored) :: insertMember key value rest

def gather (members : List (Text × V)) : List (Text × V) :=
  members.foldl (fun gathered member => insertMember member.1 member.2 gathered) []

variable {key : Text} {value : V} {members : List (Text × V)} {member : Text × V}

theorem mem_insertMember (held : member ∈ insertMember key value members) :
    member = (key, value) ∨ member ∈ members := by
  induction members with
  | nil => simpa [insertMember] using held
  | cons first rest ih =>
    rw [insertMember] at held
    split_ifs at held with same before
    · simp only [List.mem_cons] at held ⊢
      tauto
    · simpa only [List.mem_cons] using held
    · simp only [List.mem_cons] at held ⊢
      rcases held with here | there
      · exact .inr (.inl here)
      · rcases ih there with new | old
        · exact .inl new
        · exact .inr (.inr old)

theorem ascending_insertMember (ascending : Ascending members) :
    Ascending (insertMember key value members) := by
  induction members with
  | nil => exact List.pairwise_singleton _ _
  | cons first rest ih =>
    obtain ⟨firstBefore, restAscending⟩ := List.pairwise_cons.mp ascending
    rw [insertMember]
    split_ifs with same before
    · rw [same]
      exact List.pairwise_cons.mpr ⟨firstBefore, restAscending⟩
    · refine List.pairwise_cons.mpr ⟨?_, ascending⟩
      intro member held
      rcases List.mem_cons.mp held with here | there
      · rw [here]
        exact before
      · exact lt_trans before (firstBefore member there)
    · refine List.pairwise_cons.mpr ⟨?_, ih restAscending⟩
      intro member held
      rcases mem_insertMember held with new | old
      · rw [new]
        have distinct : textCode first.1 ≠ textCode key :=
          fun codes => same (textCode_injective codes).symm
        exact lt_of_le_of_ne (not_lt.mp before) distinct
      · exact firstBefore member old

theorem insertMember_last (last : ∀ member ∈ members, Before member.1 key) :
    insertMember key value members = members ++ [(key, value)] := by
  induction members with
  | nil => rfl
  | cons first rest ih =>
    have before : Before first.1 key := last first (by simp)
    have distinct : key ≠ first.1 := fun same => lt_irrefl _ (same ▸ before)
    have after : ¬ Before key first.1 := lt_asymm before
    rw [insertMember, if_neg distinct, if_neg after,
      ih fun member held => last member (by simp [held]), List.cons_append]

theorem gather_append (members : List (Text × V)) (key : Text) (value : V) :
    gather (members ++ [(key, value)]) = insertMember key value (gather members) := by
  simp [gather, List.foldl_append]

theorem ascending_gather (members : List (Text × V)) : Ascending (gather members) := by
  induction members using List.reverseRecOn with
  | nil => exact List.Pairwise.nil
  | append_singleton members member ih =>
    rw [gather_append]
    exact ascending_insertMember ih

theorem mem_gather (held : member ∈ gather members) : member ∈ members := by
  induction members using List.reverseRecOn with
  | nil => exact held
  | append_singleton members last ih =>
    rw [gather_append] at held
    rcases mem_insertMember held with new | old
    · rw [new]
      exact List.mem_append_right _ (List.mem_singleton_self _)
    · exact List.mem_append_left _ (ih old)

theorem gather_of_ascending (ascending : Ascending members) : gather members = members := by
  induction members using List.reverseRecOn with
  | nil => rfl
  | append_singleton members last ih =>
    obtain ⟨earlier, -, before⟩ := List.pairwise_append.mp ascending
    rw [gather_append, ih earlier,
      insertMember_last fun member held => before member held last (by simp)]

theorem insertMember_map (f : V → W) (key : Text) (value : V) (members : List (Text × V)) :
    insertMember key (f value) (members.map fun member => (member.1, f member.2)) =
      (insertMember key value members).map fun member => (member.1, f member.2) := by
  induction members with
  | nil => rfl
  | cons first rest ih =>
    simp only [List.map_cons, insertMember]
    split_ifs
    · rfl
    · rfl
    · rw [ih, List.map_cons]

theorem gather_map (f : V → W) (members : List (Text × V)) :
    gather (members.map fun member => (member.1, f member.2)) =
      (gather members).map fun member => (member.1, f member.2) := by
  induction members using List.reverseRecOn with
  | nil => rfl
  | append_singleton members last ih =>
    rw [List.map_append, List.map_singleton, gather_append, ih, insertMember_map, gather_append]

theorem lookup_cons_eq (key present : Text) (value : V) (members : List (Text × V)) :
    ((present, value) :: members).lookup key =
      if key = present then some value else members.lookup key := by
  rw [List.lookup_cons]
  by_cases same : key = present
  · simp [same]
  · rw [beq_false_of_ne same, if_neg same]

theorem lookup_insertMember (key present : Text) (value : V) (members : List (Text × V)) :
    (insertMember present value members).lookup key =
      if key = present then some value else members.lookup key := by
  induction members with
  | nil => exact lookup_cons_eq key present value []
  | cons first rest ih =>
    obtain ⟨other, stored⟩ := first
    rw [insertMember]
    by_cases replaced : present = other
    · rw [if_pos replaced, lookup_cons_eq, lookup_cons_eq, replaced]
      split_ifs <;> rfl
    · rw [if_neg replaced]
      by_cases before : Before present other
      · rw [if_pos before, lookup_cons_eq]
      · rw [if_neg before, lookup_cons_eq, lookup_cons_eq, ih]
        by_cases same : key = present
        · have distinct : ¬ key = other := fun equal => replaced (same.symm.trans equal)
          rw [if_neg distinct, if_pos same, if_pos same]
        · rw [if_neg same, if_neg same]

def presentMembers {F : Type} (key : F → Text) (all : List F) (value : F → Option V) :
    List (Text × V) :=
  all.filterMap fun field => (value field).map fun present => (key field, present)

theorem lookup_presentMembers {F : Type} [DecidableEq F] {key : F → Text}
    (distinct : Function.Injective key) (all : List F) (value : F → Option V) (field : F) :
    (gather (presentMembers key all value)).lookup (key field) =
      if field ∈ all then value field else none := by
  induction all using List.reverseRecOn with
  | nil => rfl
  | append_singleton all last ih =>
    have split : presentMembers key (all ++ [last]) value =
        presentMembers key all value ++ presentMembers key [last] value := by
      simp [presentMembers]
    rw [split]
    cases stored : value last with
    | none =>
      have absent : presentMembers key [last] value = [] := by simp [presentMembers, stored]
      rw [absent, List.append_nil, ih]
      by_cases same : field = last
      · simp [same, stored]
      · simp [same]
    | some present =>
      have added : presentMembers key [last] value = [(key last, present)] := by
        simp [presentMembers, stored]
      rw [added, gather_append, lookup_insertMember, ih]
      by_cases same : field = last
      · simp [same, stored]
      · simp [same, distinct.eq_iff]

end Members

namespace Value

variable {N M : Type} {F : Type} {key : F → Text} {all : List F}

theorem object_present_eq_iff [DecidableEq F] (distinct : Function.Injective key)
    (complete : ∀ field, field ∈ all) (value other : F → Option (Value N)) :
    Value.object (gather (presentMembers key all value)) =
        .object (gather (presentMembers key all other)) ↔
      ∀ field, value field = other field := by
  constructor
  · intro same field
    have found := congrArg (fun members => List.lookup (key field) members) (object.inj same)
    simpa only [lookup_presentMembers distinct, complete, if_true] using found
  · intro same
    rw [funext same]

theorem object_listed_eq_iff [DecidableEq F] (distinct : Function.Injective key)
    (complete : ∀ field, field ∈ all) (value other : F → Option (Value N)) :
    Value.object (presentMembers key all value) = .object (presentMembers key all other) ↔
      ∀ field, value field = other field := by
  constructor
  · intro same
    rw [← object_present_eq_iff distinct complete, object.inj same]
  · intro same
    rw [funext same]

theorem map_object_listed {value : F → Option (Value N)} (f : N → M) :
    (Value.object (presentMembers key all value)).map f =
      .object (presentMembers key all fun field => (value field).map (Value.map f)) := by
  rw [map_object, presentMembers, presentMembers, List.map_filterMap]
  congr 2
  funext field
  cases value field <;> rfl

def collect : Value N → Value N :=
  fold ⟨.null, .bool, .number, .string, .array, fun members => .object (gather members)⟩

theorem collect_array (items : List (Value N)) :
    (Value.array items).collect = .array (items.map collect) :=
  fold_array _ items

theorem collect_object (members : List (Text × Value N)) : (Value.object members).collect =
      .object (gather (members.map fun member => (member.1, member.2.collect))) :=
  fold_object _ members

theorem collect_map (f : N → M) (tree : Value N) : (tree.map f).collect = tree.collect.map f := by
  induction tree using induct with
  | null | bool value | number value | string text => rfl
  | array items ih =>
    simp only [map_array, collect_array, List.map_map, array.injEq]
    exact List.map_congr_left ih
  | object members ih =>
    simp only [map_object, collect_object, object.injEq, ← gather_map, List.map_map]
    apply congrArg gather
    apply List.map_congr_left
    intro member held
    exact congrArg (Prod.mk member.1) (ih member held)

theorem collect_collect (tree : Value N) : tree.collect.collect = tree.collect := by
  induction tree using induct with
  | null | bool value | number value | string text => rfl
  | array items ih =>
    simp only [collect_array, List.map_map, array.injEq]
    exact List.map_congr_left ih
  | object members ih =>
    simp only [collect_object, object.injEq]
    -- the members are values already, and in order, so gathering them again changes nothing
    have settled : (gather (members.map fun member => (member.1, member.2.collect))).map
        (fun member => (member.1, member.2.collect)) =
          gather (members.map fun member => (member.1, member.2.collect)) := by
      rw [← gather_map, List.map_map]
      apply congrArg gather
      apply List.map_congr_left
      intro member held
      exact congrArg (Prod.mk member.1) (ih member held)
    rw [settled, gather_of_ascending (ascending_gather _)]

end Value

end Json
