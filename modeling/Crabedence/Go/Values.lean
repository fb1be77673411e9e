import Mathlib.Algebra.Group.Int.Defs
import Mathlib.Algebra.Group.Nat.Defs
import Mathlib.Data.List.Sort
import Crabedence.Text.Utf8

/-!
# Go strings, maps and times

A Go string is any sequence of bytes, and strings are compared and sorted by their bytes.  A map is
given by its entries; which order they are listed in means nothing, since every function of a map
either looks a key up or sorts the keys first.  A `time.Time` is an instant.
-/

namespace Go

abbrev Str := List UInt8

def str (text : String) : Str := Utf8.encode text.toList

/-- `sort.Strings`. -/
def sortStrings (items : List Str) : List Str := items.insertionSort (· ≤ ·)

theorem sortStrings_perm (items : List Str) : (sortStrings items).Perm items :=
  List.perm_insertionSort (· ≤ ·) items

theorem mem_sortStrings {item : Str} {items : List Str} : item ∈ sortStrings items ↔ item ∈ items :=
  (sortStrings_perm items).mem_iff

theorem sortStrings_sorted (items : List Str) : (sortStrings items).Pairwise (· ≤ ·) := by
  have trans : IsTrans Str (· ≤ ·) := ⟨fun _ _ _ first second => List.le_trans first second⟩
  exact List.pairwise_insertionSort (· ≤ ·) items

theorem sortStrings_eq_iff {items other : List Str} :
    sortStrings items = sortStrings other ↔ items.Perm other := by
  constructor
  · intro same
    have sorted := (sortStrings_perm items).symm
    rw [same] at sorted
    exact sorted.trans (sortStrings_perm other)
  · intro perm
    apply List.Perm.eq_of_pairwise
    · intro left right _ _ below above
      exact List.le_antisymm below above
    · exact sortStrings_sorted items
    · exact sortStrings_sorted other
    · exact ((sortStrings_perm items).trans perm).trans (sortStrings_perm other).symm

theorem mem_of_lookup {K V : Type} [BEq K] [LawfulBEq K] {entries : List (K × V)} {key : K}
    {value : V} (found : entries.lookup key = some value) : (key, value) ∈ entries := by
  obtain ⟨before, after, rfl, -⟩ := List.lookup_eq_some_iff.mp found
  exact List.mem_append_right _ List.mem_cons_self

/-- A map with string keys. -/
structure Map (V : Type) where
  entries : List (Str × V)
  distinct : (entries.map Prod.fst).Nodup

namespace Map

variable {V : Type}

def empty : Map V := ⟨[], List.nodup_nil⟩

def keys (map : Map V) : List Str := map.entries.map Prod.fst

def get? (map : Map V) (key : Str) : Option V := map.entries.lookup key

def mapValues {W : Type} (f : V → W) (map : Map V) : Map W where
  entries := map.entries.map fun entry => (entry.1, f entry.2)
  distinct := by
    rw [List.map_map]
    exact map.distinct

/-- `map[key] = value`. -/
def insert (map : Map V) (key : Str) (value : V) : Map V where
  entries := (key, value) :: map.entries.filter fun entry => decide (entry.1 ≠ key)
  distinct := by
    rw [List.map_cons, List.nodup_cons]
    constructor
    · intro listed
      obtain ⟨entry, kept, same⟩ := List.mem_map.mp listed
      exact of_decide_eq_true (List.mem_filter.mp kept).2 same
    · exact map.distinct.sublist (List.filter_sublist.map Prod.fst)

def ofEntries (entries : List (Str × V)) : Map V :=
  entries.foldl (fun map entry => map.insert entry.1 entry.2) empty

variable {W : Type} {map : Map V} {key : Str}

theorem mem_keys_iff : key ∈ map.keys ↔ ∃ value, map.get? key = some value := by
  rw [← Option.isSome_iff_exists, get?, List.lookup_isSome_iff]
  simp [keys]

theorem get?_of_mem {value : V} (held : (key, value) ∈ map.entries) : map.get? key = some value := by
  obtain ⟨found, present⟩ := mem_keys_iff.mp (List.mem_map.mpr ⟨_, held, rfl⟩)
  have listed : (key, found) ∈ map.entries := mem_of_lookup present
  have same := List.inj_on_of_nodup_map map.distinct listed held rfl
  cases same
  exact present

@[simp] theorem keys_mapValues (f : V → W) : (map.mapValues f).keys = map.keys := by
  simp [keys, mapValues, Function.comp_def]

theorem get?_mapValues (f : V → W) : (map.mapValues f).get? key = (map.get? key).map f := by
  cases found : map.get? key with
  | none =>
    rw [Option.map_none, Option.eq_none_iff_forall_ne_some]
    intro value present
    have listed := mem_keys_iff.mpr ⟨value, present⟩
    rw [keys_mapValues, mem_keys_iff, found] at listed
    obtain ⟨other, impossible⟩ := listed
    cases impossible
  | some value =>
    have held : (key, value) ∈ map.entries := mem_of_lookup found
    exact get?_of_mem (List.mem_map.mpr ⟨_, held, rfl⟩)

theorem sorted_keys_eq {other : Map W} (same : ∀ key, key ∈ map.keys ↔ key ∈ other.keys) :
    sortStrings map.keys = sortStrings other.keys :=
  sortStrings_eq_iff.mpr ((List.perm_ext_iff_of_nodup map.distinct other.distinct).mpr same)

/-- What is written for two maps, key by key in sorted order, is the same exactly if they have the same
keys and the same is written for each. -/
theorem sorted_entries_eq_iff {R : Type} {other : Map W} {write : Option V → R}
    {writeOther : Option W → R} (valid : ∀ key ∈ map.keys, Utf8.Valid key) :
    ((sortStrings map.keys).map fun key => (Utf8.decode key, write (map.get? key))) =
        ((sortStrings other.keys).map fun key => (Utf8.decode key, writeOther (other.get? key))) ↔
      (∀ key, key ∈ map.keys ↔ key ∈ other.keys) ∧
        ∀ key ∈ map.keys, write (map.get? key) = writeOther (other.get? key) := by
  constructor
  · intro same
    have keys : sortStrings map.keys = sortStrings other.keys := by
      apply Utf8.map_decode_inj
      · exact fun key listed => valid key (mem_sortStrings.mp listed)
      · have firsts := congrArg (List.map Prod.fst) same
        simpa only [List.map_map, Function.comp_def] using firsts
    rw [← keys] at same
    refine ⟨fun key => ?_, fun key listed => ?_⟩
    · rw [← mem_sortStrings, keys, mem_sortStrings]
    · have member := List.map_inj_left.mp same key (mem_sortStrings.mpr listed)
      exact (Prod.mk.inj member).2
  · rintro ⟨keys, written⟩
    rw [sorted_keys_eq keys]
    apply List.map_congr_left
    intro key listed
    rw [written key ((keys key).mpr (mem_sortStrings.mp listed))]

end Map

/-- An instant, in nanoseconds since the Unix epoch. -/
structure Time where
  nanoseconds : Int
deriving DecidableEq, Repr

namespace Time

def zero : Time := ⟨-62135596800000000000⟩

def isZero (t : Time) : Bool := decide (t = zero)

def before (t u : Time) : Bool := decide (t.nanoseconds < u.nanoseconds)

/-- `UnixMilli`, computed in int64. -/
def unixMilli (t : Time) : Int := (t.nanoseconds / 1000000).bmod (2 ^ 64)

/-- `time.UnixMilli`. -/
def ofUnixMilli (milliseconds : Int) : Time := ⟨milliseconds * 1000000⟩

def millisecond (t : Time) : Int := t.nanoseconds / 1000000

def Fits (t : Time) : Prop := -2 ^ 63 ≤ t.millisecond ∧ t.millisecond < 2 ^ 63

instance (t : Time) : Decidable t.Fits := inferInstanceAs (Decidable (_ ∧ _))

theorem unixMilli_of_fits {t : Time} (fits : t.Fits) : t.unixMilli = t.millisecond := by
  obtain ⟨lower, upper⟩ := fits
  rw [unixMilli, ← millisecond]
  apply Int.bmod_eq_of_le
  · change -(18446744073709551616 / 2) ≤ t.millisecond
    omega
  · change t.millisecond < (18446744073709551616 + 1) / 2
    omega

theorem millisecond_ofUnixMilli (milliseconds : Int) :
    (ofUnixMilli milliseconds).millisecond = milliseconds := by
  change milliseconds * 1000000 / 1000000 = milliseconds
  omega

end Time

end Go
