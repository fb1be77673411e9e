import Mathlib.Data.List.Nodup
import Mathlib.Data.List.Sort
import Crabedence.Json.Tree

/-!
# Objects with a fixed set of fields

A record is written as an object that lists its fields in a fixed order and leaves some of them out.
Looking a field up, and sorting the members by key, only depend on which fields are present.
-/

namespace Json

variable {F K L V W : Type}

def listed (name : F → K) (fields : List F) (value : F → Option V) : List (K × V) :=
  fields.filterMap fun field => (value field).map (Prod.mk (name field))

variable {name : F → K} {fields : List F} {value : F → Option V} {key : K} {field : F}

theorem mem_listed {member : K × V} : member ∈ listed name fields value ↔
      ∃ field ∈ fields, value field = some member.2 ∧ name field = member.1 := by
  rw [listed, List.mem_filterMap]
  constructor
  · rintro ⟨field, held, found⟩
    obtain ⟨present, stored, rfl⟩ := Option.map_eq_some_iff.mp found
    exact ⟨field, held, stored, rfl⟩
  · rintro ⟨field, held, stored, same⟩
    exact ⟨field, held, by rw [stored, Option.map_some, same]⟩

theorem keys_listed (name : F → K) (fields : List F) (value : F → Option V) :
    (listed name fields value).map Prod.fst =
      (fields.filter fun field => (value field).isSome).map name := by
  induction fields with
  | nil => rfl
  | cons field fields ih =>
    unfold listed at ih ⊢
    cases stored : value field with
    | none =>
      rw [List.filterMap_cons_none (by rw [stored]; rfl),
        List.filter_cons_of_neg (by rw [stored]; exact Bool.false_ne_true), ih]
    | some present =>
      rw [List.filterMap_cons_some (by rw [stored]; rfl),
        List.filter_cons_of_pos (by rw [stored]; rfl), List.map_cons, List.map_cons, ih]

theorem nodup_listed (injective : Function.Injective name) (distinct : fields.Nodup)
    (value : F → Option V) : ((listed name fields value).map Prod.fst).Nodup := by
  rw [keys_listed]
  exact (distinct.sublist List.filter_sublist).map injective

theorem lookup_of_mem [BEq K] [LawfulBEq K] {members : List (K × V)}
    (distinct : (members.map Prod.fst).Nodup) {value : V} (held : (key, value) ∈ members) :
    members.lookup key = some value := by
  induction members with
  | nil => cases held
  | cons member members ih =>
    rw [List.map_cons, List.nodup_cons] at distinct
    rcases List.mem_cons.mp held with rfl | later
    · exact List.lookup_cons_self
    · have other : (key == member.1) = false :=
        beq_false_of_ne fun same => distinct.1 (same ▸ List.mem_map_of_mem (f := Prod.fst) later)
      rw [List.lookup_cons, other]
      exact ih distinct.2 later

theorem lookup_listed [BEq K] [LawfulBEq K] (injective : Function.Injective name)
    (distinct : fields.Nodup) (value : F → Option V) (held : field ∈ fields) :
    (listed name fields value).lookup (name field) = value field := by
  cases stored : value field with
  | none =>
    rw [List.lookup_eq_none_iff]
    intro member listed
    obtain ⟨other, -, found, same⟩ := mem_listed.mp listed
    refine bne_iff_ne.mpr fun equal => ?_
    have fields := injective (equal.trans same.symm)
    rw [← fields, stored] at found
    cases found
  | some present =>
    exact lookup_of_mem (nodup_listed injective distinct value)
      (mem_listed.mpr ⟨field, held, stored, rfl⟩)

theorem map_listed (name : F → K) (rename : K → L) (f : V → W) (fields : List F)
    (value : F → Option V) :
    (listed name fields value).map (fun member => (rename member.1, f member.2)) =
      listed (fun field => rename (name field)) fields fun field => (value field).map f := by
  unfold listed
  rw [List.map_filterMap]
  congr 1
  funext field
  dsimp only
  cases value field <;> rfl

section Sorting

variable [LE K] [DecidableLE K]

def sortMembers (members : List (K × V)) : List (K × V) :=
  members.insertionSort fun left right => left.1 ≤ right.1

theorem sortMembers_eq [IsTrans K (· ≤ ·)] [Std.Total (α := K) (· ≤ ·)]
    [Std.Antisymm (α := K) (· ≤ ·)] {members sorted : List (K × V)} (perm : members.Perm sorted)
    (distinct : (members.map Prod.fst).Nodup)
    (ordered : (sorted.map Prod.fst).Pairwise (· ≤ ·)) : sortMembers members = sorted := by
  have trans : IsTrans (K × V) fun left right => left.1 ≤ right.1 :=
    ⟨fun _ _ _ first second => IsTrans.trans _ _ _ first second⟩
  have total : Std.Total (α := K × V) fun left right => left.1 ≤ right.1 :=
    ⟨fun left right => Std.Total.total left.1 right.1⟩
  have arranged := List.perm_insertionSort (fun left right : K × V => left.1 ≤ right.1) members
  refine List.Perm.eq_of_pairwise ?_ (List.pairwise_insertionSort _ members)
    (List.pairwise_map.mp ordered) (arranged.trans perm)
  intro left right first second below above
  have keys : left.1 = right.1 := Std.Antisymm.antisymm _ _ below above
  have here := arranged.mem_iff.mp first
  have there := perm.mem_iff.mpr second
  exact List.inj_on_of_nodup_map distinct here there keys

theorem sortMembers_listed [IsTrans K (· ≤ ·)] [Std.Total (α := K) (· ≤ ·)]
    [Std.Antisymm (α := K) (· ≤ ·)] (injective : Function.Injective name)
    {sorted : List F} (perm : fields.Perm sorted) (distinct : fields.Nodup)
    (ordered : (sorted.map name).Pairwise (· ≤ ·)) (value : F → Option V) :
    sortMembers (listed name fields value) = listed name sorted value := by
  refine sortMembers_eq (perm.filterMap _) (nodup_listed injective distinct value) ?_
  rw [keys_listed]
  exact ordered.sublist (List.filter_sublist.map name)

end Sorting

end Json
