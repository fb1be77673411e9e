import Mathlib.Data.Finset.Dedup
import Crabedence.Authority.Decoding

/-!
# What a grant digest binds

The hashed bytes of two grants are equal exactly if the grants have the same material, issuance and
expiry taken in milliseconds, capabilities without their order and the values of a dimension as a set.
A resolved grant therefore has the authority of the grant whose digest was stored, whatever the bytes
of the row are.  The bytes do not say whether a grant that expires in the first millisecond of 1970
expires at all, and they do not tell ill-formed strings apart.
-/

namespace Crabedence.Authority

open Go Json Capability

section Values

variable {values other : List Str} {v : Str}

theorem mem_uniqueFrom {seen : List Str} : v ∈ uniqueFrom seen values ↔ v ∈ values ∧ v ∉ seen := by
  induction values generalizing seen with
  | nil => simp [uniqueFrom]
  | cons first values ih =>
    rw [uniqueFrom]
    split_ifs with known
    · rw [ih, List.mem_cons]
      constructor
      · exact fun ⟨later, fresh⟩ => ⟨.inr later, fresh⟩
      · rintro ⟨rfl | later, fresh⟩
        · exact absurd known fresh
        · exact ⟨later, fresh⟩
    · rw [List.mem_cons, ih, List.mem_cons, List.mem_cons]
      by_cases same : v = first
      · subst same
        simp [known]
      · simp [same]

theorem nodup_uniqueFrom (seen values : List Str) : (uniqueFrom seen values).Nodup := by
  induction values generalizing seen with
  | nil => exact List.nodup_nil
  | cons first values ih =>
    rw [uniqueFrom]
    split_ifs with known
    · exact ih seen
    · rw [List.nodup_cons, mem_uniqueFrom]
      exact ⟨fun ⟨_, fresh⟩ => fresh List.mem_cons_self, ih _⟩

theorem normalizeValues_eq_iff :
    normalizeValues values = normalizeValues other ↔ values.toFinset = other.toFinset := by
  rw [normalizeValues, normalizeValues, sortStrings_eq_iff,
    List.perm_ext_iff_of_nodup (nodup_uniqueFrom _ _) (nodup_uniqueFrom _ _), Finset.ext_iff]
  simp only [mem_uniqueFrom, List.not_mem_nil, not_false_eq_true, and_true, List.mem_toFinset]

theorem stringsValue_inj {items : List Str} (valid : ∀ item ∈ items, Utf8.Valid item)
    (same : (stringsValue (some items) : Value Int) = stringsValue (some other)) :
    items = other := by
  have texts : (items.map stringValue : List (Value Int)) = other.map stringValue :=
    Value.array.inj same
  apply Utf8.map_decode_inj valid
  apply List.map_injective_iff.mpr fun _ _ => Value.string.inj
  rw [List.map_map, List.map_map]
  exact texts

end Values

section Constraints

variable {constraints other : Map (List Str)}

def hashedConstraints (constraints : Map (List Str)) : Value Int :=
  constraintsValue ((constraints.mapValues normalizeValues).mapValues some)

def ValidConstraints (constraints : Map (List Str)) : Prop :=
  ∀ dimension values, constraints.get? dimension = some values →
    Utf8.Valid dimension ∧ ∀ v ∈ values, Utf8.Valid v

def SameConstraints (constraints other : Map (List Str)) : Prop :=
  ∀ dimension, (constraints.get? dimension).map List.toFinset =
    (other.get? dimension).map List.toFinset

theorem SameConstraints.keys (same : SameConstraints constraints other) (dimension : Str) :
    dimension ∈ constraints.keys ↔ dimension ∈ other.keys := by
  rw [Map.mem_keys_iff, Map.mem_keys_iff, ← Option.isSome_iff_exists, ← Option.isSome_iff_exists]
  have sets := congrArg Option.isSome (same dimension)
  rw [Option.isSome_map, Option.isSome_map] at sets
  rw [sets]

theorem hashed_member (constraints : Map (List Str)) (dimension : Str) :
    (((constraints.mapValues normalizeValues).mapValues some).get? dimension).getD none =
      (constraints.get? dimension).map normalizeValues := by
  rw [Map.get?_mapValues, Map.get?_mapValues]
  cases constraints.get? dimension <;> rfl

theorem hashedConstraints_eq_iff (valid : ValidConstraints constraints) :
    hashedConstraints constraints = hashedConstraints other ↔
      SameConstraints constraints other := by
  unfold hashedConstraints constraintsValue
  simp only [Value.object.injEq, Map.keys_mapValues, hashed_member]
  have wellFormed : ∀ key ∈ constraints.keys, Utf8.Valid key := by
    intro key listed
    obtain ⟨values, held⟩ := Map.mem_keys_iff.mp listed
    exact (valid key values held).1
  have written := @Map.sorted_entries_eq_iff _ _ constraints (Value Int) other
    (fun values => stringsValue (values.map normalizeValues))
    (fun values => stringsValue (values.map normalizeValues)) wellFormed
  rw [written]
  constructor
  · rintro ⟨keys, values⟩ dimension
    have listed := keys dimension
    rw [Map.mem_keys_iff, Map.mem_keys_iff] at listed
    cases held : constraints.get? dimension with
    | none =>
      cases held' : other.get? dimension with
      | none => rfl
      | some values =>
        obtain ⟨_, present⟩ := listed.mpr ⟨values, held'⟩
        rw [held] at present
        cases present
    | some values' =>
      obtain ⟨others, held'⟩ := listed.mp ⟨values', held⟩
      have member := values dimension (Map.mem_keys_iff.mpr ⟨values', held⟩)
      rw [held, held'] at member
      have lists := stringsValue_inj (fun v listed =>
        (valid dimension values' held).2 v (by
          simpa [normalizeValues, mem_sortStrings, mem_uniqueFrom] using listed)) member
      rw [held', Option.map_some, Option.map_some, normalizeValues_eq_iff.mp lists]
  · intro same
    refine ⟨same.keys, fun dimension _ => ?_⟩
    have sets := same dimension
    cases first : constraints.get? dimension <;> cases second : other.get? dimension <;>
      simp_all [← normalizeValues_eq_iff]

end Constraints

section Material

/-- The strings of the grant are well-formed text. -/
structure ValidText (g : Grant) : Prop where
  id : Utf8.Valid g.id
  principal : Utf8.Valid g.principal
  capabilities : ∀ c ∈ g.capabilities, Utf8.Valid c
  constraints : ValidConstraints g.constraints

/-- The times of the grant are hashed without wrapping around, and it does not expire in the first
millisecond of 1970. -/
structure TimesFit (g : Grant) : Prop where
  issued : g.issuedAt.Fits
  expires : g.expiresAt.Fits
  expiry : g.expiresAt.millisecond ≠ 0

def issuance (g : Grant) : Int := if g.issuedAt.isZero then 0 else g.issuedAt.millisecond

def expiry (g : Grant) : Option Int :=
  if g.expiresAt.isZero then none else some g.expiresAt.millisecond

/-- Two grants have the same material. -/
structure SameMaterial (g h : Grant) : Prop where
  id : g.id = h.id
  generation : g.generation = h.generation
  principal : g.principal = h.principal
  capabilities : g.capabilities.Perm h.capabilities
  constraints : SameConstraints g.constraints h.constraints
  issued : issuance g = issuance h
  expires : expiry g = expiry h

variable {g h : Grant}

def constraintsMember (g : Grant) : Option (Value Int) :=
  (normalizeConstraints g.constraints).map fun constraints =>
    constraintsValue (constraints.mapValues some)

theorem canonical_eq_iff : g.canonical = h.canonical ↔
    Utf8.decode g.id = Utf8.decode h.id ∧ g.generation = h.generation ∧
      Utf8.decode g.principal = Utf8.decode h.principal ∧
      (stringsValue g.sortedCapabilities : Value Int) = stringsValue h.sortedCapabilities ∧
      constraintsMember g = constraintsMember h ∧ g.issuedAtMs = h.issuedAtMs ∧
      g.expiresAtMs = h.expiresAtMs := by
  have names : nameText "issued_at_ms" ≠ nameText "constraints" := by decide
  unfold Grant.canonical constraintsMember
  cases normalizeConstraints g.constraints with
  | none =>
    cases normalizeConstraints h.constraints with
    | none => simp [stringValue]
    | some others => simp [names]
  | some constraints =>
    cases normalizeConstraints h.constraints with
    | none => simp [names.symm]
    | some others => simp [stringValue]

theorem sortedCapabilities_eq_iff (valid : ∀ c ∈ g.capabilities, Utf8.Valid c) :
    (stringsValue g.sortedCapabilities : Value Int) = stringsValue h.sortedCapabilities ↔
      g.capabilities.Perm h.capabilities := by
  unfold Grant.sortedCapabilities
  split_ifs with none none' none'
  · rw [List.length_eq_zero_iff.mp none, List.length_eq_zero_iff.mp none']
    simp
  · refine ⟨nofun, fun perm => absurd (perm.length_eq.symm.trans none) none'⟩
  · refine ⟨nofun, fun perm => absurd (perm.length_eq.trans none') none⟩
  · rw [← sortStrings_eq_iff]
    constructor
    · exact stringsValue_inj fun c listed => valid c (mem_sortStrings.mp listed)
    · exact fun same => by rw [same]

theorem no_constraints_iff {constraints : Map (List Str)} :
    constraints.entries.length = 0 ↔ ∀ dimension, constraints.get? dimension = none := by
  rw [List.length_eq_zero_iff]
  constructor
  · intro empty dimension
    rw [Map.get?, empty]
    rfl
  · intro absent
    apply List.eq_nil_iff_forall_not_mem.mpr
    intro entry held
    have present := Map.get?_of_mem held
    rw [absent entry.1] at present
    cases present

theorem constraintsMember_eq_iff (valid : ValidConstraints g.constraints) :
    constraintsMember g = constraintsMember h ↔ SameConstraints g.constraints h.constraints := by
  have absent_iff (same : SameConstraints g.constraints h.constraints) :
      g.constraints.entries.length = 0 ↔ h.constraints.entries.length = 0 := by
    rw [no_constraints_iff, no_constraints_iff]
    apply forall_congr'
    intro dimension
    have sets := same dimension
    rw [← Option.map_eq_none_iff, sets, Option.map_eq_none_iff]
  unfold constraintsMember normalizeConstraints
  split_ifs with empty empty' empty'
  · refine ⟨fun _ dimension => ?_, fun _ => rfl⟩
    rw [no_constraints_iff.mp empty, no_constraints_iff.mp empty']
  · exact ⟨nofun, fun same => absurd ((absent_iff same).mp empty) empty'⟩
  · exact ⟨nofun, fun same => absurd ((absent_iff same).mpr empty') empty⟩
  · rw [Option.map_some, Option.map_some, Option.some.injEq]
    exact hashedConstraints_eq_iff valid

theorem issuedAtMs_eq (fits : TimesFit g) : g.issuedAtMs = issuance g := by
  rw [Grant.issuedAtMs, issuance, Time.unixMilli_of_fits fits.issued]

theorem expiresAtMs_eq_iff (fits : TimesFit g) (fits' : TimesFit h) :
    g.expiresAtMs = h.expiresAtMs ↔ expiry g = expiry h := by
  have nonzero := fits.expiry
  have nonzero' := fits'.expiry
  rw [Grant.expiresAtMs, Grant.expiresAtMs, expiry, expiry, Time.unixMilli_of_fits fits.expires,
    Time.unixMilli_of_fits fits'.expires]
  split_ifs with never never' never'
  · simp
  · simp [Ne.symm nonzero']
  · simp [nonzero]
  · simp

theorem hashedBytes_eq_iff (valid : ValidText g) (fits : TimesFit g) (fits' : TimesFit h) :
    g.hashedBytes = h.hashedBytes ↔ SameMaterial g h := by
  have bytes : g.hashedBytes = h.hashedBytes ↔ g.canonical = h.canonical := by
    refine ⟨fun same => ?_, fun same => by rw [Grant.hashedBytes, same]; rfl⟩
    rw [Grant.hashedBytes, Grant.hashedBytes, marshal_integers, marshal_integers] at same
    exact Value.map_injective (fun _ _ => Number.ofInt_injective)
      (Value.text_injective (Utf8.encode_injective same))
  rw [bytes, canonical_eq_iff, sortedCapabilities_eq_iff valid.capabilities,
    constraintsMember_eq_iff valid.constraints, issuedAtMs_eq fits, issuedAtMs_eq fits',
    expiresAtMs_eq_iff fits fits']
  constructor
  · rintro ⟨id, generation, principal, capabilities, constraints, issued, expires⟩
    exact ⟨Utf8.decode_inj valid.id id, generation, Utf8.decode_inj valid.principal principal,
      capabilities, constraints, issued, expires⟩
  · intro same
    exact ⟨by rw [same.id], same.generation, by rw [same.principal], same.capabilities,
      same.constraints, same.issued, same.expires⟩

theorem SameMaterial.hasCapability (same : SameMaterial g h) (capabilityID : Str) :
    g.hasCapability capabilityID = h.hasCapability capabilityID := by
  unfold Grant.hasCapability
  rw [same.capabilities.any_eq, same.capabilities.isEmpty_eq]

theorem SameMaterial.allowsResource (same : SameMaterial g h) (dimension value : Str) :
    g.allowsResource dimension value = h.allowsResource dimension value := by
  have sets := same.constraints dimension
  unfold Grant.allowsResource
  cases held : g.constraints.get? dimension with
  | none =>
    rw [held, Option.map_none, eq_comm, Option.map_eq_none_iff] at sets
    rw [sets]
  | some values =>
    rw [held, Option.map_some, eq_comm, Option.map_eq_some_iff] at sets
    obtain ⟨values', held', sets⟩ := sets
    rw [held', Bool.eq_iff_iff]
    dsimp only
    rw [Grant.admits, Grant.admits, List.any_eq_true, List.any_eq_true]
    apply exists_congr
    intro v
    rw [← List.mem_toFinset, ← List.mem_toFinset, sets]

end Material

section Resolved

variable {engine : Engine} {printing : Printing} {sha256 : List UInt8 → Str} {g : Grant}
  {grantID principal : Str} {row : GrantRow} {now : Int64}

theorem millis_fits (engine : Engine) (stored : Int64) :
    -2 ^ 63 ≤ engine.millis stored ∧ engine.millis stored < 2 ^ 63 := by
  have lower := stored.le_toInt
  have upper := stored.toInt_lt
  cases engine with
  | sqlite => exact ⟨lower, upper⟩
  | postgres =>
    unfold Engine.millis
    dsimp only
    omega

theorem millis_mono (engine : Engine) {earlier later : Int64} (before : earlier < later) :
    engine.millis earlier ≤ engine.millis later := by
  have order := Int64.lt_iff_toInt_lt.mp before
  cases engine with
  | sqlite => exact order.le
  | postgres => exact Int.ediv_le_ediv (by decide) order.le

theorem instant_fits (engine : Engine) (stored : Option Int64) : (engine.instant stored).Fits := by
  cases stored with
  | none =>
    change Time.zero.Fits
    decide
  | some time =>
    unfold Engine.instant Time.Fits
    rw [Time.millisecond_ofUnixMilli]
    exact millis_fits engine time

/-- A resolved grant is hashed without wrapping around, and it does not expire at the epoch, once the
clock of the database has passed it. -/
theorem resolved_times (caps : List Str) (constraints : Map (List Str))
    (unexpired : row.unexpired now = true) (past : 0 < engine.millis now) :
    TimesFit (row.grant engine grantID caps constraints) where
  issued := instant_fits engine row.issuedAt
  expires := instant_fits engine row.expiresAt
  expiry := by
    change (engine.instant row.expiresAt).millisecond ≠ 0
    unfold GrantRow.unexpired at unexpired
    cases stored : row.expiresAt with
    | none =>
      change Time.zero.millisecond ≠ 0
      decide
    | some time =>
      rw [stored] at unexpired
      have later : now < time := by simpa using unexpired
      have order := millis_mono engine later
      unfold Engine.instant
      rw [Time.millisecond_ofUnixMilli]
      omega

/-- The digest of a grant binds its material, and a resolved grant has the authority of the grant whose
digest is stored in the row. -/
theorem grant_digest_binds (collisionFree : Function.Injective sha256) :
    (∀ g h : Grant, ValidText g → TimesFit g → TimesFit h →
      (g.hashedBytes = h.hashedBytes ↔ SameMaterial g h)) ∧
    ∀ (engine : Engine) (printing : Printing) (grantID principal : Str) (row : GrantRow)
      (now : Int64) (issued g : Grant), ValidText issued → TimesFit issued →
      0 < engine.millis now → row.grantDigest = computeGrantDigest sha256 issued →
      resolve engine printing sha256 grantID principal (some row) now = .ok (some g) →
      SameMaterial issued g ∧
        (∀ capabilityID, g.hasCapability capabilityID = issued.hasCapability capabilityID) ∧
        ∀ dimension value, g.allowsResource dimension value =
          issued.allowsResource dimension value := by
  refine ⟨fun g h => hashedBytes_eq_iff, ?_⟩
  intro engine printing grantID principal row now issued g valid fits past stored resolved
  obtain ⟨-, unexpired, verified, caps, constraints, rfl⟩ := resolve_some resolved
  have digest : computeGrantDigest sha256 (row.grant engine grantID caps constraints) =
      computeGrantDigest sha256 issued := by
    unfold verifyGrantDigest at verified
    rw [Bool.and_eq_true, decide_eq_true_iff, decide_eq_true_iff] at verified
    exact verified.2.trans stored
  have same : SameMaterial issued (row.grant engine grantID caps constraints) :=
    (hashedBytes_eq_iff valid fits (resolved_times caps constraints unexpired past)).mp
      (collisionFree digest.symm)
  exact ⟨same, fun capabilityID => (same.hasCapability capabilityID).symm,
    fun dimension value => (same.allowsResource dimension value).symm⟩

end Resolved

section Samples

def sampleIssued (expiresAt : Time) : Grant where
  id := str "grant"
  principal := str "alice"
  capabilities := [str "deploy"]
  constraints := .empty
  expiresAt := expiresAt
  revoked := false
  issuedAt := .ofUnixMilli 1000
  generation := 1
  digest := []

def sampleRow (expiresAt : Option Int64) (digest : Str) : GrantRow where
  generation := 1
  principal := str "alice"
  capabilities := marshal ((stringsValue (some [str "deploy"])).map integerText)
  constraints := marshal ((constraintsValue .empty).map integerText)
  grantDigest := digest
  issuedAt := some 1000
  expiresAt := expiresAt
  revoked := false

theorem sampleIssued_valid (expiresAt : Time) : ValidText (sampleIssued expiresAt) where
  id := show Utf8.Valid (str "grant") by decide
  principal := show Utf8.Valid (str "alice") by decide
  capabilities := show ∀ c ∈ [str "deploy"], Utf8.Valid c by decide
  constraints := nofun

theorem sampleRow_resolves {printing : Printing} {stored : Option Int64} {expiresAt : Time}
    (unexpired : (sampleRow stored []).unexpired 1500 = true)
    (same : (sampleIssued (Engine.sqlite.instant stored)).expiresAtMs =
      (sampleIssued expiresAt).expiresAtMs) :
    ∃ g, resolve .sqlite printing id (str "grant") (str "alice")
      (some (sampleRow stored (computeGrantDigest id (sampleIssued expiresAt)))) 1500 =
        .ok (some g) ∧ g.expiresAt = Engine.sqlite.instant stored := by
  have validCaps : ValidStrings (some [str "deploy"]) := by
    intro list same
    cases same
    decide
  have resolves := @resolve_written printing id (str "grant")
    (sampleRow stored (computeGrantDigest id (sampleIssued expiresAt))) 1500 _ (by decide) rfl
    unexpired validCaps rfl rfl
  refine ⟨_, resolves ?_, rfl⟩
  unfold verifyGrantDigest
  rw [Bool.and_eq_true, decide_eq_true_iff, decide_eq_true_iff]
  refine ⟨hashedBytes_ne_nil (sampleIssued expiresAt), ?_⟩
  have constraints : constraintsMember ((sampleRow stored []).grant .sqlite (str "grant")
      [str "deploy"] .empty) = constraintsMember (sampleIssued expiresAt) := rfl
  exact congrArg (fun document => marshal (Value.map integerText document))
    (canonical_eq_iff.mpr ⟨rfl, rfl, rfl, rfl, constraints, rfl, same⟩)

/-- The stored digest of a grant that expires after two seconds, resolved before. -/
theorem grant_digest_binds_sample :
    ∃ g, resolve .sqlite ⟨⟨id, fun _ => "malformed"⟩, id⟩ id (str "grant") (str "alice")
      (some (sampleRow (some 2000) (computeGrantDigest id (sampleIssued (.ofUnixMilli 2000))))) 1500 =
        .ok (some g) ∧ SameMaterial (sampleIssued (.ofUnixMilli 2000)) g := by
  obtain ⟨g, resolved, -⟩ := @sampleRow_resolves ⟨⟨id, fun _ => "malformed"⟩, id⟩ (some 2000)
    (.ofUnixMilli 2000) (by decide) rfl
  have fits : TimesFit (sampleIssued (.ofUnixMilli 2000)) := ⟨by decide, by decide, by decide⟩
  have law := (@grant_digest_binds id Function.injective_id).2 .sqlite _ (str "grant")
    (str "alice") _ 1500 _ g (sampleIssued_valid _) fits (by decide) rfl resolved
  exact ⟨g, resolved, law.1⟩

/-- The issuance time is hashed.  A grant that expires at the epoch is hashed as one that never does,
so the row that lost its expiry resolves under the digest of the expiring grant; and ill-formed
principals are not told apart. -/
theorem grant_digest_unbound :
    (sampleIssued .zero).hashedBytes ≠
      { sampleIssued .zero with issuedAt := .ofUnixMilli 2000 }.hashedBytes ∧
    (sampleIssued (.ofUnixMilli 0)).hashedBytes = (sampleIssued .zero).hashedBytes ∧
    (∀ printing : Printing, ∃ g, resolve .sqlite printing id (str "grant") (str "alice")
      (some (sampleRow none (computeGrantDigest id (sampleIssued (.ofUnixMilli 0))))) 1500 =
        .ok (some g) ∧ g.expiresAt.isZero = true) ∧
    { sampleIssued .zero with principal := [0xff] }.hashedBytes =
      { sampleIssued .zero with principal := [0xfe] }.hashedBytes := by
  have same (g h : Grant) (canonical : g.canonical = h.canonical) : g.hashedBytes = h.hashedBytes := by
    rw [Grant.hashedBytes, canonical, Grant.hashedBytes]
  have fits : TimesFit (sampleIssued .zero) := ⟨by decide, by decide, by decide⟩
  refine ⟨?_, same _ _ rfl, ?_, same _ _ rfl⟩
  · intro bytes
    have later : TimesFit { sampleIssued .zero with issuedAt := .ofUnixMilli 2000 } :=
      ⟨by decide, by decide, by decide⟩
    have issued := ((hashedBytes_eq_iff (sampleIssued_valid _) fits later).mp bytes).issued
    exact absurd issued (by decide)
  · intro printing
    obtain ⟨g, resolved, never⟩ := @sampleRow_resolves printing none (.ofUnixMilli 0) rfl rfl
    refine ⟨g, resolved, ?_⟩
    rw [never]
    rfl

end Samples

end Crabedence.Authority
