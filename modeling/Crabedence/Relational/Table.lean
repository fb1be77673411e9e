import Mathlib.Data.List.Nodup

/-!
# Tables with a primary key and one unique index

A table is a list of rows in which both keys are unique; the two constraints are fields, so a
table that violates them cannot be built.  An `UPDATE ... SET ... WHERE ...` statement maps a row
function over the rows selected by a guard, an `INSERT` appends one row or reports the violated
constraint.  The lemmas say what each statement does to the row found under a key.  Nullable columns
merge with `COALESCE` and are guarded by the matching comparison, so a guarded merge only fills gaps.
Rows numbered by `MAX + 1` carry the numbers one to `n` without gaps.
-/

namespace Relational

/-- What holds of a row found in a slot holds of whatever is found there. -/
theorem holds_of_found {A : Type} {slot : Option A} {held : A} {fact : A → Prop}
    (known : ∃ a, slot = some a ∧ fact a) (found : slot = some held) : fact held := by
  obtain ⟨a, same, holds⟩ := known
  cases found.symm.trans same
  exact holds

section Nullable

variable {Value : Type} [DecidableEq Value]

/-- `column IS NULL OR ? IS NULL OR column = ?`. -/
def fits (stored supplied : Option Value) : Bool :=
  stored.isNone || supplied.isNone || decide (stored = supplied)

/-- `COALESCE(?, column)`. -/
def coalesce (supplied stored : Option Value) : Option Value :=
  supplied.or stored

/-- `NULLIF(value, absent)`. -/
def nullIf (value absent : Value) : Option Value :=
  if value = absent then none else some value

/-- `later` has the value of `earlier` wherever that is not `NULL`. -/
def Fills (earlier later : Option Value) : Prop :=
  ∀ value, earlier = some value → later = some value

omit [DecidableEq Value] in
theorem Fills.refl (stored : Option Value) : Fills stored stored :=
  fun _ present => present

omit [DecidableEq Value] in
theorem Fills.trans {first second third : Option Value} (earlier : Fills first second)
    (later : Fills second third) : Fills first third :=
  fun value present => later value (earlier value present)

variable {stored supplied : Option Value}

theorem fills_coalesce (agrees : fits stored supplied = true) :
    Fills stored (coalesce supplied stored) := by
  intro value present
  subst present
  cases supplied with
  | none => rfl
  | some other =>
    have same : value = other := by simpa [fits] using agrees
    rw [coalesce, same, Option.some_or]

omit [DecidableEq Value] in
theorem coalesce_fills : Fills supplied (coalesce supplied stored) := by
  intro value present
  rw [coalesce, present, Option.some_or]

omit [DecidableEq Value] in
theorem coalesce_of_fills (present : Fills supplied stored) :
    coalesce supplied stored = stored := by
  cases supplied with
  | none => rfl
  | some value => rw [present value rfl, coalesce, Option.some_or]

theorem fits_of_fills (present : Fills supplied stored) : fits stored supplied = true := by
  cases supplied with
  | none => simp [fits]
  | some value => simp [fits, present value rfl]

theorem nullIf_getD {value stored absent : Value} :
    nullIf ((nullIf value absent).getD stored) absent =
      coalesce (nullIf value absent) (nullIf stored absent) := by
  by_cases blank : value = absent
  · simp [nullIf, coalesce, blank]
  · simp [nullIf, coalesce, blank]

theorem not_fits_of_fills {later : Option Value} (fills : Fills stored later)
    (contradicted : fits stored supplied = false) : fits later supplied = false := by
  cases stored with
  | none => simp [fits] at contradicted
  | some value =>
    rw [fills value rfl]
    exact contradicted

end Nullable

section Lookup

variable {Row Key : Type} [DecidableEq Key] {key : Row → Key} {rows : List Row} {value : Key}
  {row : Row}

/-- The first row whose key is `value`. -/
def lookupBy (key : Row → Key) (rows : List Row) (value : Key) : Option Row :=
  rows.find? fun row => decide (key row = value)

theorem lookupBy_some_iff (distinct : (rows.map key).Nodup) :
    lookupBy key rows value = some row ↔ row ∈ rows ∧ key row = value := by
  constructor
  · intro found
    exact ⟨List.mem_of_find?_eq_some found, by simpa using List.find?_some found⟩
  · rintro ⟨member, rfl⟩
    obtain ⟨other, found⟩ : ∃ other, lookupBy key rows (key row) = some other :=
      Option.isSome_iff_exists.mp (List.find?_isSome.mpr ⟨row, member, by simp⟩)
    have same : key other = key row := by simpa using List.find?_some found
    have equal : other = row :=
      List.inj_on_of_nodup_map distinct (List.mem_of_find?_eq_some found) member same
    rw [found, equal]

theorem lookupBy_none_iff : lookupBy key rows value = none ↔ value ∉ rows.map key := by
  simp [lookupBy, List.find?_eq_none]

theorem lookupBy_append_singleton (absent : key row ∉ rows.map key) :
    lookupBy key (rows ++ [row]) value =
      if key row = value then some row else lookupBy key rows value := by
  unfold lookupBy
  rw [List.find?_append, List.find?_singleton]
  by_cases same : key row = value
  · subst same
    have missing : rows.find? (fun other => decide (key other = key row)) = none :=
      lookupBy_none_iff.mpr absent
    simp [missing]
  · simp [same]

end Lookup

structure Table (Row Primary Unique : Type) (primary : Row → Primary) (unique : Row → Unique) where
  rows : List Row
  primary_nodup : (rows.map primary).Nodup
  unique_nodup : (rows.map unique).Nodup

/-- The constraint an insertion would violate. -/
inductive Conflict where
  | primary
  | unique
  deriving DecidableEq, Repr

namespace Table

variable {Row Primary Unique : Type} [DecidableEq Primary] [DecidableEq Unique]
  {primary : Row → Primary} {unique : Row → Unique}
  (table : Table Row Primary Unique primary unique)

def empty : Table Row Primary Unique primary unique :=
  ⟨[], List.nodup_nil, List.nodup_nil⟩

def find (key : Primary) : Option Row :=
  lookupBy primary table.rows key

def findUnique (key : Unique) : Option Row :=
  lookupBy unique table.rows key

/-- The number of rows a `WHERE` clause selects. -/
def count (guard : Row → Bool) : Nat :=
  table.rows.countP guard

/-- `UPDATE ... SET ... WHERE ...` for an assignment that leaves both keys alone. -/
def update (guard : Row → Bool) (set : Row → Row)
    (keeps : ∀ row, primary (set row) = primary row ∧ unique (set row) = unique row) :
    Table Row Primary Unique primary unique where
  rows := table.rows.map fun row => if guard row then set row else row
  primary_nodup := by
    have same : (primary ∘ fun row => if guard row then set row else row) = primary := by
      funext row
      by_cases selected : guard row <;> simp [selected, (keeps row).1]
    rw [List.map_map, same]
    exact table.primary_nodup
  unique_nodup := by
    have same : (unique ∘ fun row => if guard row then set row else row) = unique := by
      funext row
      by_cases selected : guard row <;> simp [selected, (keeps row).2]
    rw [List.map_map, same]
    exact table.unique_nodup

/-- `INSERT`; the unique index is consulted before the primary key. -/
def insert (row : Row) : Except Conflict (Table Row Primary Unique primary unique) :=
  if takenUnique : unique row ∈ table.rows.map unique then .error .unique
  else if takenPrimary : primary row ∈ table.rows.map primary then .error .primary
  else .ok {
    rows := table.rows ++ [row]
    primary_nodup := by
      rw [List.map_append, List.map_singleton]
      exact table.primary_nodup.append (List.nodup_singleton _)
        (List.disjoint_singleton.mpr takenPrimary)
    unique_nodup := by
      rw [List.map_append, List.map_singleton]
      exact table.unique_nodup.append (List.nodup_singleton _)
        (List.disjoint_singleton.mpr takenUnique) }

variable {table} {key : Primary} {row : Row}

omit [DecidableEq Unique] in
theorem find_some_iff : table.find key = some row ↔ row ∈ table.rows ∧ primary row = key :=
  lookupBy_some_iff table.primary_nodup

omit [DecidableEq Primary] in
theorem findUnique_some_iff {key : Unique} :
    table.findUnique key = some row ↔ row ∈ table.rows ∧ unique row = key :=
  lookupBy_some_iff table.unique_nodup

variable {guard : Row → Bool}

section Update

variable {set : Row → Row}
  (keeps : ∀ row, primary (set row) = primary row ∧ unique (set row) = unique row)

omit [DecidableEq Primary] [DecidableEq Unique] in
theorem count_eq_zero_iff : table.count guard = 0 ↔ ∀ row ∈ table.rows, ¬ guard row :=
  List.countP_eq_zero

omit [DecidableEq Unique] in
theorem find_of_count_eq_zero (missed : table.count guard = 0) :
    table.find key = (table.find key).map fun row => if guard row then set row else row := by
  have unselected := count_eq_zero_iff.mp missed
  cases found : table.find key with
  | none => rfl
  | some row => simp [unselected row (find_some_iff.mp found).1]

omit [DecidableEq Primary] [DecidableEq Unique] in
theorem update_eq_self (unselected : ∀ row ∈ table.rows, guard row = false) :
    table.update guard set keeps = table := by
  have same : (table.update guard set keeps).rows = table.rows := by
    have identity : ∀ row ∈ table.rows, (if guard row then set row else row) = row := by
      intro row member
      rw [unselected row member]
      rfl
    exact (List.map_congr_left identity).trans (List.map_id' table.rows)
  cases table
  simpa [update] using same

omit [DecidableEq Unique] in
theorem find_update : (table.update guard set keeps).find key =
      (table.find key).map fun row => if guard row then set row else row := by
  have kept (row : Row) : primary (if guard row then set row else row) = primary row := by
    by_cases selected : guard row <;> simp [selected, (keeps row).1]
  unfold find lookupBy update
  rw [List.find?_map]
  simp only [Function.comp_def, kept]

end Update

section Insert

variable {after : Table Row Primary Unique primary unique}

theorem insert_ok_rows (inserted : table.insert row = .ok after) :
    unique row ∉ table.rows.map unique ∧ primary row ∉ table.rows.map primary ∧
      after.rows = table.rows ++ [row] := by
  unfold insert at inserted
  split_ifs at inserted with takenUnique takenPrimary
  cases inserted
  exact ⟨takenUnique, takenPrimary, rfl⟩

theorem find_insert (inserted : table.insert row = .ok after) :
    after.find key = if primary row = key then some row else table.find key := by
  obtain ⟨_, absent, appended⟩ := insert_ok_rows inserted
  unfold find
  rw [appended]
  exact lookupBy_append_singleton absent

end Insert

end Table

section Numbers

/-- `COALESCE(MAX(number), 0) + 1`. -/
def nextNumber (numbers : List Nat) : Nat := numbers.foldl max 0 + 1

theorem nextNumber_range (count : Nat) : nextNumber (List.range' 1 count) = count + 1 := by
  unfold nextNumber
  induction count with
  | zero => rfl
  | succ count ih =>
    rw [List.range'_1_concat, List.foldl_append]
    simp only [List.foldl_cons, List.foldl_nil]
    omega

end Numbers

end Relational
