import Crabedence.Json.Record
import Crabedence.Script.Interchange

/-!
# Records that both languages write

The fields of a record under their JSON keys.  Go sorts keys by bytes and a script by code units; for
a fixed set of keys both orders are checked once.
-/

namespace Script

open Json

section Listed

variable {F V : Type} (key : F → String) (all : List F) (member : F → Option V)

theorem ofGo_listed :
    ((listed (fun field => Go.str (key field)) all member).map Prod.fst).map ofGo =
      (listed (fun field => Utf16.str (key field)) all member).map Prod.fst := by
  rw [List.map_map]
  unfold listed
  rw [List.map_filterMap, List.map_filterMap]
  apply List.filterMap_congr
  intro field _
  cases member field with
  | none => rfl
  | some value => exact congrArg some (ofGo_str (key field))

variable {key all}

theorem settled_listed (injective : Function.Injective key) (distinct : all.Nodup)
    (named : ∀ field ∈ all, Value.arrayIndex (Utf16.str (key field)) = none) :
    Value.Settled ((listed (fun field => Utf16.str (key field)) all member).map Prod.fst) := by
  have scriptKey : Function.Injective fun field => Utf16.str (key field) := fun _ _ same =>
    injective (String.toList_injective (Utf16.encode_injective same))
  refine Value.settled_of_named (nodup_listed scriptKey distinct member) ?_
  refine List.forall_mem_map.mpr fun entry held => ?_
  obtain ⟨field, listed, -, written⟩ := mem_listed.mp held
  rw [← written]
  exact named field listed

end Listed

structure Fields (F : Type) where
  key : F → String
  /-- The fields in the order of their declaration. -/
  all : List F
  /-- The fields in the order of their keys. -/
  sorted : List F
  complete : ∀ field, field ∈ all
  distinct : all.Nodup
  perm : all.Perm sorted
  keys : (all.map key).Nodup
  goOrder : (sorted.map fun field => Go.str (key field)).Pairwise (· ≤ ·)
  scriptOrder : (sorted.map fun field => Utf16.str (key field)).Pairwise (· ≤ ·)
  named : ∀ field ∈ all, Value.arrayIndex (Utf16.str (key field)) = none

namespace Fields

variable {F V : Type} (fields : Fields F)

def goKey (field : F) : Go.Str := Go.str (fields.key field)

def scriptKey (field : F) : Utf16.Str := Utf16.str (fields.key field)

theorem key_injective : Function.Injective fields.key := fun field other same =>
  List.inj_on_of_nodup_map fields.keys (fields.complete field) (fields.complete other) same

theorem goKey_injective : Function.Injective fields.goKey :=
  Go.str_injective.comp fields.key_injective

theorem scriptKey_injective : Function.Injective fields.scriptKey := fun _ _ same =>
  fields.key_injective (String.toList_injective (Utf16.encode_injective same))

theorem sorted_distinct : fields.sorted.Nodup := fields.perm.nodup_iff.mp fields.distinct

theorem mem_sorted (field : F) : field ∈ fields.sorted :=
  fields.perm.mem_iff.mp (fields.complete field)

theorem sortMembers_goKey (member : F → Option V) :
    sortMembers (listed fields.goKey fields.all member) =
      listed fields.goKey fields.sorted member := by
  have trans : IsTrans Go.Str (· ≤ ·) := ⟨fun _ _ _ first second => List.le_trans first second⟩
  have total : Std.Total (α := Go.Str) (· ≤ ·) := ⟨List.le_total⟩
  have antisymm : Std.Antisymm (α := Go.Str) (· ≤ ·) := ⟨fun _ _ => List.le_antisymm⟩
  exact sortMembers_listed fields.goKey_injective fields.perm fields.distinct fields.goOrder member

theorem sortMembers_scriptKey (member : F → Option V) :
    sortMembers (listed fields.scriptKey fields.sorted member) =
      listed fields.scriptKey fields.sorted member := by
  have trans : IsTrans Utf16.Str (· ≤ ·) :=
    ⟨fun _ _ _ first second => List.le_trans first second⟩
  have total : Std.Total (α := Utf16.Str) (· ≤ ·) := ⟨List.le_total⟩
  have antisymm : Std.Antisymm (α := Utf16.Str) (· ≤ ·) := ⟨fun _ _ => List.le_antisymm⟩
  exact sortMembers_listed fields.scriptKey_injective (List.Perm.refl _) fields.sorted_distinct
    fields.scriptOrder member

theorem assign_listed [DecidableEq F] {member : F → Option Value} {field : F}
    (present : (member field).isSome) (value : Value) :
    Value.assign (listed fields.scriptKey fields.sorted member) (fields.scriptKey field) value =
      listed fields.scriptKey fields.sorted
        fun other => if other = field then some value else member other := by
  obtain ⟨stored, found⟩ := Option.isSome_iff_exists.mp present
  have listedKey : fields.scriptKey field ∈
      (listed fields.scriptKey fields.sorted member).map Prod.fst :=
    List.mem_map.mpr ⟨(fields.scriptKey field, stored),
      mem_listed.mpr ⟨field, fields.mem_sorted field, found, rfl⟩, rfl⟩
  rw [Value.assign, if_pos listedKey]
  unfold listed
  rw [List.map_filterMap]
  apply List.filterMap_congr
  intro other _
  by_cases same : other = field
  · rw [same, found]
    simp
  · have keys : fields.scriptKey other ≠ fields.scriptKey field := fun equal =>
      same (fields.scriptKey_injective equal)
    dsimp only
    rw [if_neg same]
    cases member other with
    | none => rfl
    | some value => simp [keys]

theorem settled (member : F → Option V) :
    Value.Settled ((listed fields.scriptKey fields.sorted member).map Prod.fst) :=
  settled_listed member fields.key_injective fields.sorted_distinct
    fun field _ => fields.named field (fields.complete field)

end Fields

end Script
