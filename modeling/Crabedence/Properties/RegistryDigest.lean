import Crabedence.Capability.Digest
import Crabedence.Text.Base64

/-!
# What a descriptor digest and a registry export bind

The hashed bytes of two descriptors are equal exactly if the descriptors declare the same policy: every
member of the projection after its defaults, the schema as a JSON value.  The exported bytes of two
registries are equal exactly if they hold the same policies under the same ids.
-/

namespace Crabedence.Capability

open Json Go

variable {N : Type}

section Projection

variable {M : Type}

def CanonicalDescriptor.map (f : N → M) (descriptor : CanonicalDescriptor N) :
    CanonicalDescriptor M where
  id := descriptor.id
  descriptorVersion := f descriptor.descriptorVersion
  policyRevision := descriptor.policyRevision
  executionClass := descriptor.executionClass
  assuranceProfile := descriptor.assuranceProfile
  executionRoute := descriptor.executionRoute
  schema := descriptor.schema.map f
  authorityPolicy := descriptor.authorityPolicy
  adapterID := descriptor.adapterID

theorem omitEmptyString_map (f : N → M) (text : Str) :
    (omitEmptyString text : Option (Value N)).map (Value.map f) = omitEmptyString text := by
  unfold omitEmptyString
  split_ifs <;> rfl

theorem AuthorityPolicy.value_map (f : N → M) (policy : AuthorityPolicy) :
    (policy.value : Value N).map f = policy.value := by
  rw [AuthorityPolicy.value, Value.map_object_listed, AuthorityPolicy.value]
  congr 2
  funext field
  cases field with
  | id | grantRequired => rfl
  | resourceArguments =>
    simp only [AuthorityPolicy.member]
    split_ifs
    · rfl
    · rw [Option.map_some, argumentsValue, Value.map_object, List.map_map]
      rfl

theorem CanonicalDescriptor.value_map (f : N → M) (descriptor : CanonicalDescriptor N) :
    descriptor.value.map f = (descriptor.map f).value := by
  rw [CanonicalDescriptor.value, Value.map_object_listed, CanonicalDescriptor.value]
  congr 2
  funext field
  cases field with
  | policyRevision => exact omitEmptyString_map f descriptor.policyRevision
  | schema =>
    simp only [CanonicalDescriptor.member, CanonicalDescriptor.map]
    cases descriptor.schema <;> rfl
  | authorityPolicy =>
    simp only [CanonicalDescriptor.member, CanonicalDescriptor.map, Option.map_some,
      AuthorityPolicy.value_map]
  | _ => rfl

end Projection

/-- The JSON value of a schema as the repository's decoder reads it: the first value of the bytes.
No schema and `null` declare the same. -/
def schemaOf (d : Descriptor) : Option (Value Number) :=
  if d.schema.length = 0 then none
  else
    match decodeUseNumber d.schema with
    | .error _ => none
    | .ok .null => none
    | .ok value => some value

def versionOf (d : Descriptor) : Int := if d.descriptorVersion = 0 then 1 else d.descriptorVersion

def normalForm (d : Descriptor) : CanonicalDescriptor Number where
  id := d.id
  descriptorVersion := Number.ofInt (versionOf d)
  policyRevision := d.policyRevision
  executionClass := d.executionClass.text ExecutionClass.text
  assuranceProfile := d.assuranceProfile.text AssuranceProfile.text
  executionRoute := d.executionRoute.text ExecutionRoute.text
  schema := ((schemaOf d).getD .null).map Number.normalize
  authorityPolicy := d.authorityPolicy
  adapterID := d.adapterID

variable {d e : Descriptor} {texts : ErrorTexts}

section Forms

theorem canonicalSchema_ok {schema : Value (List Char)} (accepted : canonicalSchema texts d = .ok schema) :
    schema = (((schemaOf d).getD .null).map Number.normalize).map Number.text := by
  unfold canonicalSchema at accepted
  by_cases empty : d.schema.length = 0
  · rw [if_neg (by omega)] at accepted
    cases accepted
    rw [schemaOf, if_pos empty]
    rfl
  · rw [if_pos (by omega)] at accepted
    rw [schemaOf, if_neg empty]
    cases decoded : decodeUseNumber d.schema with
    | error failure =>
      rw [decoded] at accepted
      cases accepted
    | ok parsed =>
      rw [decoded] at accepted
      dsimp only at accepted
      rw [normalizeNumbers, normalizeWith_map] at accepted
      have normalized := normalizeWith_decoded texts parsed
      unfold normalizeLeaf at accepted
      rw [normalized] at accepted
      cases accepted
      cases parsed <;> rfl

theorem canonicalDescriptorOf_ok {projection : CanonicalDescriptor (List Char)}
    (accepted : canonicalDescriptorOf texts d = .ok projection) :
    projection = (normalForm d).map Number.text := by
  obtain ⟨value, schema, projected⟩ := Checks.bind_ok_iff.mp accepted
  cases projected
  rw [canonicalSchema_ok schema]
  unfold normalForm CanonicalDescriptor.map
  rw [Number.text_ofInt]
  rfl

theorem schema_member :
    (normalForm d).member .schema = (schemaOf d).map (Value.map Number.normalize) := by
  have notNull : schemaOf d ≠ some .null := by
    unfold schemaOf
    split_ifs
    · exact nofun
    · split
      · exact nofun
      · exact nofun
      · next value other _ => exact fun same => other (Option.some.inj same)
  simp only [CanonicalDescriptor.member, normalForm]
  cases found : schemaOf d with
  | none => rfl
  | some value =>
    cases value with
    | null => exact absurd found notNull
    | _ => rfl

end Forms

/-- The policy of two descriptors is the same: every member after its default, strings as bytes, the
schema as a JSON value with its numbers as rationals. -/
structure SamePolicy (d e : Descriptor) : Prop where
  id : d.id = e.id
  version : versionOf d = versionOf e
  revision : d.policyRevision = e.policyRevision
  executionClass : d.executionClass.text ExecutionClass.text =
    e.executionClass.text ExecutionClass.text
  assurance : d.assuranceProfile.text AssuranceProfile.text =
    e.assuranceProfile.text AssuranceProfile.text
  route : d.executionRoute.text ExecutionRoute.text = e.executionRoute.text ExecutionRoute.text
  schema : (schemaOf d).map (Value.map Number.value) = (schemaOf e).map (Value.map Number.value)
  policy : d.authorityPolicy.id = e.authorityPolicy.id
  grantRequired : d.authorityPolicy.grantRequired = e.authorityPolicy.grantRequired
  arguments : ∀ dimension, d.authorityPolicy.resourceArguments.get? dimension =
    e.authorityPolicy.resourceArguments.get? dimension
  adapter : d.adapterID = e.adapterID

/-- The strings of the descriptor are well-formed text. -/
structure ValidDescriptor (d : Descriptor) : Prop where
  id : Utf8.Valid d.id
  revision : Utf8.Valid d.policyRevision
  executionClass : Utf8.Valid (d.executionClass.text ExecutionClass.text)
  assurance : Utf8.Valid (d.assuranceProfile.text AssuranceProfile.text)
  route : Utf8.Valid (d.executionRoute.text ExecutionRoute.text)
  policy : Utf8.Valid d.authorityPolicy.id
  arguments : ∀ dimension argument,
    d.authorityPolicy.resourceArguments.get? dimension = some argument →
      Utf8.Valid dimension ∧ Utf8.Valid argument
  adapter : Utf8.Valid d.adapterID

section Policy

variable {text other : Str}

theorem stringValue_inj (valid : Utf8.Valid text)
    (same : (stringValue text : Value N) = stringValue other) : text = other :=
  Utf8.decode_inj valid (Value.string.inj same)

theorem omitEmptyString_inj (valid : Utf8.Valid text)
    (same : (omitEmptyString text : Option (Value N)) = omitEmptyString other) : text = other := by
  unfold omitEmptyString at same
  split_ifs at same with empty empty'
  · rw [empty, empty']
  · exact stringValue_inj valid (Option.some.inj same)

theorem no_entries_iff {V : Type} {entries : Map V} :
    entries.entries.length = 0 ↔ ∀ key, key ∉ entries.keys := by
  rw [List.length_eq_zero_iff, Map.keys, ← List.eq_nil_iff_forall_not_mem, List.map_eq_nil_iff]

theorem argumentsValue_eq_iff {arguments other : Map Str}
    (valid : ∀ dimension argument, arguments.get? dimension = some argument →
      Utf8.Valid dimension ∧ Utf8.Valid argument) :
    (argumentsValue arguments : Value N) = argumentsValue other ↔
      ∀ dimension, arguments.get? dimension = other.get? dimension := by
  have wellFormed : ∀ key ∈ arguments.keys, Utf8.Valid key := by
    intro key listed
    obtain ⟨argument, held⟩ := Map.mem_keys_iff.mp listed
    exact (valid key argument held).1
  have written := @Map.sorted_entries_eq_iff _ _ arguments (Value N) other
    (fun argument => stringValue (argument.getD [])) (fun argument => stringValue (argument.getD []))
    wellFormed
  unfold argumentsValue
  rw [Value.object.injEq, written]
  constructor
  · rintro ⟨keys, values⟩ dimension
    have listed := keys dimension
    rw [Map.mem_keys_iff, Map.mem_keys_iff] at listed
    cases held : arguments.get? dimension with
    | none =>
      cases held' : other.get? dimension with
      | none => rfl
      | some argument =>
        obtain ⟨_, present⟩ := listed.mpr ⟨argument, held'⟩
        rw [held] at present
        cases present
    | some argument =>
      obtain ⟨argument', held'⟩ := listed.mp ⟨argument, held⟩
      have member := values dimension (Map.mem_keys_iff.mpr ⟨argument, held⟩)
      rw [held, held', Option.getD_some, Option.getD_some] at member
      rw [held', stringValue_inj (valid dimension argument held).2 member]
  · intro same
    refine ⟨fun key => ?_, fun key _ => by rw [same key]⟩
    rw [Map.mem_keys_iff, Map.mem_keys_iff, same key]

theorem arguments_member_iff {policy other : AuthorityPolicy}
    (valid : ∀ dimension argument, policy.resourceArguments.get? dimension = some argument →
      Utf8.Valid dimension ∧ Utf8.Valid argument) :
    (policy.member .resourceArguments : Option (Value N)) = other.member .resourceArguments ↔
      ∀ dimension, policy.resourceArguments.get? dimension =
        other.resourceArguments.get? dimension := by
  have keys_iff (same : ∀ dimension, policy.resourceArguments.get? dimension =
      other.resourceArguments.get? dimension) (key : Str) :
      key ∈ policy.resourceArguments.keys ↔ key ∈ other.resourceArguments.keys := by
    rw [Map.mem_keys_iff, Map.mem_keys_iff, same key]
  have absent {entries : Map Str} (none : entries.entries.length = 0) (key : Str) :
      entries.get? key = Option.none := by
    have unlisted := no_entries_iff.mp none key
    rw [Map.mem_keys_iff] at unlisted
    exact Option.eq_none_iff_forall_ne_some.mpr fun value found => unlisted ⟨value, found⟩
  simp only [AuthorityPolicy.member]
  split_ifs with empty empty' empty'
  · refine ⟨fun _ dimension => ?_, fun _ => rfl⟩
    rw [absent empty, absent empty']
  · refine ⟨nofun, fun same => absurd (no_entries_iff.mpr fun key listed => ?_) empty'⟩
    exact no_entries_iff.mp empty key ((keys_iff same key).mpr listed)
  · refine ⟨nofun, fun same => absurd (no_entries_iff.mpr fun key listed => ?_) empty⟩
    exact no_entries_iff.mp empty' key ((keys_iff same key).mp listed)
  · rw [Option.some.injEq]
    exact argumentsValue_eq_iff valid

theorem PolicyField.name_injective : Function.Injective PolicyField.name := by
  intro field other same
  cases field <;> cases other <;> first | rfl | exact absurd same (by decide)

theorem PolicyField.mem_all (field : PolicyField) : field ∈ PolicyField.all := by
  cases field <;> decide

theorem DescriptorField.name_injective : Function.Injective DescriptorField.name := by
  intro field other same
  cases field <;> cases other <;> first | rfl | exact absurd same (by decide)

theorem DescriptorField.mem_all (field : DescriptorField) : field ∈ DescriptorField.all := by
  cases field <;> decide

theorem schema_eq_iff {schema other : Option (Value Number)} :
    schema.map (Value.map Number.normalize) = other.map (Value.map Number.normalize) ↔
      schema.map (Value.map Number.value) = other.map (Value.map Number.value) := by
  cases schema with
  | none => cases other <;> simp
  | some value =>
    cases other with
    | none => simp
    | some second =>
      simp only [Option.map_some, Option.some.injEq]
      exact Value.map_eq_map_iff Number.normalize_eq_iff value second

/-- The projections are equal exactly if the policies are the same. -/
theorem normalForm_eq_iff (valid : ValidDescriptor d) :
    (normalForm d).value = (normalForm e).value ↔ SamePolicy d e := by
  unfold CanonicalDescriptor.value
  rw [Value.object_listed_eq_iff DescriptorField.name_injective DescriptorField.mem_all]
  constructor
  · intro same
    have policy := Option.some.inj (same .authorityPolicy)
    unfold AuthorityPolicy.value at policy
    rw [Value.object_listed_eq_iff PolicyField.name_injective PolicyField.mem_all] at policy
    have schema := same .schema
    rw [schema_member, schema_member] at schema
    exact {
      id := stringValue_inj valid.id (Option.some.inj (same .id))
      version := Number.ofInt_injective (Value.number.inj (Option.some.inj (same .descriptorVersion)))
      revision := omitEmptyString_inj valid.revision (same .policyRevision)
      executionClass := stringValue_inj valid.executionClass (Option.some.inj (same .executionClass))
      assurance := stringValue_inj valid.assurance (Option.some.inj (same .assuranceProfile))
      route := stringValue_inj valid.route (Option.some.inj (same .executionRoute))
      schema := schema_eq_iff.mp schema
      policy := stringValue_inj valid.policy (Option.some.inj (policy .id))
      grantRequired := Value.bool.inj (Option.some.inj (policy .grantRequired))
      arguments := (arguments_member_iff valid.arguments).mp (policy .resourceArguments)
      adapter := stringValue_inj valid.adapter (Option.some.inj (same .adapterID)) }
  · intro same field
    cases field with
    | id => simp only [CanonicalDescriptor.member, normalForm, same.id]
    | descriptorVersion => simp only [CanonicalDescriptor.member, normalForm, same.version]
    | policyRevision => simp only [CanonicalDescriptor.member, normalForm, same.revision]
    | executionClass => simp only [CanonicalDescriptor.member, normalForm, same.executionClass]
    | assuranceProfile => simp only [CanonicalDescriptor.member, normalForm, same.assurance]
    | executionRoute => simp only [CanonicalDescriptor.member, normalForm, same.route]
    | adapterID => simp only [CanonicalDescriptor.member, normalForm, same.adapter]
    | schema =>
      rw [schema_member, schema_member]
      exact schema_eq_iff.mpr same.schema
    | authorityPolicy =>
      apply congrArg some
      show d.authorityPolicy.value = e.authorityPolicy.value
      unfold AuthorityPolicy.value
      rw [Value.object_listed_eq_iff PolicyField.name_injective PolicyField.mem_all]
      intro policy
      cases policy with
      | id => simp only [AuthorityPolicy.member, same.policy]
      | grantRequired => simp only [AuthorityPolicy.member, same.grantRequired]
      | resourceArguments => exact (arguments_member_iff valid.arguments).mpr same.arguments

theorem canonicalBytes_eq_iff {texts : ErrorTexts} {bytes other : List UInt8}
    (valid : ValidDescriptor d) (written : canonicalBytes texts d = .ok bytes)
    (written' : canonicalBytes texts e = .ok other) : bytes = other ↔ SamePolicy d e := by
  have spelled {descriptor : Descriptor} {bytes : List UInt8}
      (written : canonicalBytes texts descriptor = .ok bytes) :
      bytes = Utf8.encode (normalForm descriptor).value.text := by
    obtain ⟨projection, projected, marshalled⟩ := Checks.bind_ok_iff.mp written
    cases marshalled
    rw [canonicalDescriptorOf_ok projected, ← CanonicalDescriptor.value_map]
    rfl
  rw [spelled written, spelled written', ← normalForm_eq_iff valid]
  constructor
  · exact fun same => Value.text_injective (Utf8.encode_injective same)
  · exact fun same => by rw [same]

end Policy

section Registries

def SameRegistry (r s : Registry) : Prop :=
  ∀ id, Option.Rel SamePolicy (r.lookup id) (s.lookup id)

variable {r s : Registry}

def sortedEntries (r : Registry) : List Descriptor :=
  r.entries.insertionSort fun left right => left.id ≤ right.id

theorem sortedEntries_perm (r : Registry) : (sortedEntries r).Perm r.entries :=
  List.perm_insertionSort _ r.entries

theorem sortedEntries_ids (r : Registry) :
    (sortedEntries r).map Descriptor.id = sortStrings (r.entries.map Descriptor.id) := by
  have total : Std.Total fun left right : Descriptor => left.id ≤ right.id :=
    ⟨fun left right => List.le_total left.id right.id⟩
  have trans : IsTrans Descriptor fun left right => left.id ≤ right.id :=
    ⟨fun _ _ _ first second => List.le_trans first second⟩
  have sorted : ((sortedEntries r).map Descriptor.id).Pairwise (· ≤ ·) :=
    List.pairwise_map.mpr (List.pairwise_insertionSort _ r.entries)
  apply List.Perm.eq_of_pairwise
  · intro left right _ _ below above
    exact List.le_antisymm below above
  · exact sorted
  · exact sortStrings_sorted _
  · exact ((sortedEntries_perm r).map Descriptor.id).trans (sortStrings_perm _).symm

variable {A B C : Type} {bytes : List UInt8}

theorem lookup_of_mem (listed : d ∈ r.entries) : r.lookup d.id = some d := by
  unfold Registry.lookup
  rw [List.find?_eq_some_iff_append]
  obtain ⟨before, after, split⟩ := List.append_of_mem listed
  refine ⟨decide_eq_true rfl, before, after, split, fun other member => ?_⟩
  have distinct := r.distinct
  rw [split, List.map_append, List.map_cons, List.nodup_append] at distinct
  have apart := distinct.2.2 other.id (List.mem_map_of_mem member) d.id List.mem_cons_self
  rw [Bool.not_eq_true', decide_eq_false_iff_not]
  exact apart

theorem lookup_id {id : Str} (found : r.lookup id = some d) : d ∈ r.entries ∧ d.id = id := by
  obtain ⟨same, _⟩ := List.find?_eq_some_iff_append.mp found
  exact ⟨List.mem_of_find?_eq_some found, of_decide_eq_true same⟩

theorem listed_iff {id : Str} : id ∈ r.entries.map Descriptor.id ↔ (r.lookup id).isSome = true := by
  constructor
  · intro listed
    obtain ⟨d, member, rfl⟩ := List.mem_map.mp listed
    rw [lookup_of_mem member]
    rfl
  · intro present
    obtain ⟨d, found⟩ := Option.isSome_iff_exists.mp present
    exact List.mem_map.mpr ⟨d, lookup_id found⟩

theorem sortedEntries_eq (r : Registry) :
    sortedEntries r = (sortStrings (r.entries.map Descriptor.id)).filterMap r.lookup := by
  rw [← sortedEntries_ids, List.filterMap_map]
  have own : ∀ d ∈ sortedEntries r, (r.lookup ∘ Descriptor.id) d = some d := fun d listed =>
    lookup_of_mem ((sortedEntries_perm r).mem_iff.mp listed)
  rw [List.filterMap_congr own, List.filterMap_some]

theorem exists_related {relates : A → B → Prop} {left : List A} {right : List B}
    (related : List.Forall₂ relates left right) {item : A} (member : item ∈ left) :
    ∃ other ∈ right, relates item other := by
  induction related with
  | nil => cases member
  | @cons first second _ _ holds _ ih =>
    rcases List.mem_cons.mp member with rfl | later
    · exact ⟨second, List.mem_cons_self, holds⟩
    · obtain ⟨other, listed, holds⟩ := ih later
      exact ⟨other, List.mem_cons_of_mem _ listed, holds⟩

/-- Registries have the same policies exactly if their sorted entries have, one by one. -/
theorem sameRegistry_iff :
    SameRegistry r s ↔ List.Forall₂ SamePolicy (sortedEntries r) (sortedEntries s) := by
  constructor
  · intro same
    have ids (id : Str) : id ∈ r.entries.map Descriptor.id ↔ id ∈ s.entries.map Descriptor.id := by
      rw [listed_iff, listed_iff]
      have related := same id
      generalize r.lookup id = left, s.lookup id = right at related
      cases related <;> simp
    have sorted : sortStrings (r.entries.map Descriptor.id) =
        sortStrings (s.entries.map Descriptor.id) :=
      sortStrings_eq_iff.mpr ((List.perm_ext_iff_of_nodup r.distinct s.distinct).mpr ids)
    rw [sortedEntries_eq r, sortedEntries_eq s, sorted]
    refine List.rel_filterMap (R := Eq) ?_ (List.forall₂_refl _)
    rintro id _ rfl
    exact same id
  · intro same id
    cases found : r.lookup id with
    | some d =>
      obtain ⟨member, rfl⟩ := lookup_id found
      obtain ⟨e, other, policy⟩ := exists_related same ((sortedEntries_perm r).mem_iff.mpr member)
      have here := lookup_of_mem ((sortedEntries_perm s).mem_iff.mp other)
      rw [policy.id, here]
      exact .some policy
    | none =>
      cases other : s.lookup id with
      | none => exact .none
      | some e =>
        obtain ⟨member, rfl⟩ := lookup_id other
        obtain ⟨d, listed, policy⟩ :=
          exists_related same.flip ((sortedEntries_perm s).mem_iff.mpr member)
        have here := lookup_of_mem ((sortedEntries_perm r).mem_iff.mp listed)
        rw [policy.id, found] at here
        cases here

theorem mapM_ok_eq {f : A → Except C B} {g : A → B}
    (only : ∀ item result, f item = .ok result → result = g item) (items : List A)
    {results : List B} (accepted : items.mapM f = .ok results) : results = items.map g := by
  induction items generalizing results with
  | nil =>
    cases accepted
    rfl
  | cons item rest ih =>
    rw [List.mapM_cons] at accepted
    obtain ⟨result, first, accepted⟩ := Checks.bind_ok_iff.mp accepted
    obtain ⟨further, others, accepted⟩ := Checks.bind_ok_iff.mp accepted
    cases accepted
    rw [List.map_cons, only item result first, ih others]

theorem canonicalDescriptorBytes_ok (written : r.canonicalDescriptorBytes texts = .ok bytes) :
    bytes = Utf8.encode (Value.array ((sortedEntries r).map fun d => (normalForm d).value)).text := by
  obtain ⟨projections, projected, marshalled⟩ := Checks.bind_ok_iff.mp written
  cases marshalled
  have forms := mapM_ok_eq (fun _ _ => canonicalDescriptorOf_ok) _ projected
  rw [forms, marshal, Value.text, Value.map_array, List.map_map, List.map_map]
  congr 3
  apply List.map_congr_left
  intro d _
  exact ((normalForm d).value_map Number.text).symm

theorem canonicalDescriptorBytes_eq_iff {other : List UInt8}
    (valid : ∀ d ∈ r.entries, ValidDescriptor d)
    (written : r.canonicalDescriptorBytes texts = .ok bytes)
    (written' : s.canonicalDescriptorBytes texts = .ok other) :
    bytes = other ↔ SameRegistry r s := by
  have entries : ∀ d ∈ sortedEntries r, ValidDescriptor d := fun d listed =>
    valid d ((sortedEntries_perm r).mem_iff.mp listed)
  have bytes_iff : bytes = other ↔ (sortedEntries r).map (fun d => (normalForm d).value) =
      (sortedEntries s).map fun d => (normalForm d).value := by
    rw [canonicalDescriptorBytes_ok written, canonicalDescriptorBytes_ok written']
    constructor
    · exact fun same => Value.array.inj (Value.text_injective (Utf8.encode_injective same))
    · exact fun same => by rw [same]
  rw [bytes_iff, sameRegistry_iff, ← List.forall₂_eq_eq_eq, List.forall₂_map_left_iff,
    List.forall₂_map_right_iff]
  generalize sortedEntries r = left at entries
  generalize sortedEntries s = right
  induction left generalizing right with
  | nil => cases right <;> simp
  | cons d rest ih =>
    cases right with
    | nil => simp
    | cons e others =>
      rw [List.forall₂_cons, List.forall₂_cons]
      exact and_congr (normalForm_eq_iff (entries d List.mem_cons_self))
        (ih (fun other member => entries other (List.mem_cons_of_mem _ member)) others)

/-- Both identities: of a registry export and of a descriptor. -/
theorem registry_digest_binds (texts : ErrorTexts) (sha256 encodeBase64 : List UInt8 → Str)
    (faithful : Function.Injective encodeBase64) :
    (∀ (r s : Registry) (export_ other : SnapshotEnvelope), (∀ d ∈ r.entries, ValidDescriptor d) →
      r.envelope texts sha256 encodeBase64 = .ok export_ →
      s.envelope texts sha256 encodeBase64 = .ok other →
      (export_.canonicalPayload = other.canonicalPayload ↔ SameRegistry r s)) ∧
    ∀ (d e : Descriptor) (bytes other : List UInt8), ValidDescriptor d →
      canonicalBytes texts d = .ok bytes → canonicalBytes texts e = .ok other →
      (bytes = other ↔ SamePolicy d e) := by
  refine ⟨fun r s export_ other valid exported exported' => ?_,
    fun d e bytes other valid written written' => canonicalBytes_eq_iff valid written written'⟩
  obtain ⟨canonical, written, enveloped⟩ := Checks.bind_ok_iff.mp exported
  obtain ⟨canonical', written', enveloped'⟩ := Checks.bind_ok_iff.mp exported'
  cases enveloped
  cases enveloped'
  rw [← canonicalDescriptorBytes_eq_iff valid written written']
  exact faithful.eq_iff

end Registries

section Samples

def plainTexts : ErrorTexts := ⟨fun text => text, fun _ => "malformed"⟩

def localDescriptor (id revision schema : Str) : Descriptor where
  id := id
  descriptorVersion := 0
  policyRevision := revision
  executionClass := .known .pure
  assuranceProfile := .known .none
  executionRoute := .known .local
  schema := schema
  authorityPolicy := ⟨str "open", false, .empty⟩
  adapterID := str "adapter"

theorem localDescriptor_valid {id schema : Str} (valid : Utf8.Valid id) :
    ValidDescriptor (localDescriptor id [] schema) where
  id := valid
  revision := show Utf8.Valid [] by decide
  executionClass := show Utf8.Valid (str (ExecutionClass.text .pure)) by decide
  assurance := show Utf8.Valid (str (AssuranceProfile.text .none)) by decide
  route := show Utf8.Valid (str (ExecutionRoute.text .local)) by decide
  policy := show Utf8.Valid (str "open") by decide
  arguments _ _ := nofun
  adapter := show Utf8.Valid (str "adapter") by decide

theorem canonicalSchema_decoded {parsed : Value Number} (written : 0 < d.schema.length)
    (decoded : decodeUseNumber d.schema = .ok parsed) :
    canonicalSchema texts d = .ok ((parsed.map Number.normalize).map Number.text) := by
  have normalized := normalizeWith_decoded texts parsed
  rw [canonicalSchema, if_pos written, decoded]
  dsimp only
  rw [normalizeNumbers, normalizeWith_map]
  unfold normalizeLeaf
  rw [normalized]

/-- `10` -/
def ten : Number := Number.ofInt 10

/-- `10.0` -/
def tenPointZero : Number :=
  { ten with fraction := Nat.toDigits 10 0, fractionDigits := digits_toDigits 0 }

/-- A schema with the number as its maximum. -/
def maximumSchema (number : Number) : Value Number := .object [(textOf "maximum", .number number)]

def limited (id : Str) (number : Number) : Descriptor :=
  localDescriptor id [] (Utf8.encode (maximumSchema number).text)

theorem limited_decoded (id : Str) (number : Number) :
    decodeUseNumber (limited id number).schema = .ok (maximumSchema number) :=
  decodeUseNumber_text (Value.within_iff.mpr ⟨show 1 ≤ maxNestingDepth by decide,
    show ∀ text ∈ [textOf "maximum"], Readable replacementCharacter text by decide⟩)

theorem limited_written (id : Str) (number : Number) : 0 < (limited id number).schema.length :=
  List.length_pos_of_ne_nil (Utf8.encode_ne_nil (List.cons_ne_nil _ _))

theorem limited_same_iff (id : Str) {number other : Number} :
    SamePolicy (limited id number) (limited id other) ↔ number.value = other.value := by
  have schema (number : Number) : (schemaOf (limited id number)).map (Value.map Number.value) =
      some (.object [(textOf "maximum", .number number.value)]) := by
    rw [schemaOf, if_neg (limited_written id number).ne', limited_decoded]
    rfl
  constructor
  · intro policy
    have equal := policy.schema
    rw [schema, schema] at equal
    simpa using Value.object.inj (Option.some.inj equal)
  · intro same
    refine ⟨rfl, rfl, rfl, rfl, rfl, rfl, ?_, rfl, rfl, fun _ => rfl, rfl⟩
    rw [schema, schema, same]

theorem limited_projected (number : Number) : ∃ projection,
    canonicalDescriptorOf plainTexts (limited (str "a") number) = .ok projection := by
  unfold canonicalDescriptorOf
  rw [canonicalSchema_decoded (limited_written _ number) (limited_decoded _ number)]
  exact ⟨_, rfl⟩

theorem limited_bytes (number : Number) :
    ∃ bytes, canonicalBytes plainTexts (limited (str "a") number) = .ok bytes := by
  obtain ⟨projection, made⟩ := limited_projected number
  rw [canonicalBytes, made]
  exact ⟨_, rfl⟩

theorem limited_envelope {r : Registry} (number : Number) (listed : sortedEntries r =
    [limited (str "a") number, localDescriptor (str "b") [] []]) :
    ∃ export_, r.envelope plainTexts id Base64.encodeBytes = .ok export_ := by
  obtain ⟨projection, made⟩ := limited_projected number
  unfold sortedEntries at listed
  unfold Registry.envelope Registry.canonicalDescriptorBytes
  rw [listed, List.mapM_cons, made]
  exact ⟨_, rfl⟩

def twoCapabilities : Registry :=
  ⟨[limited (str "a") ten, localDescriptor (str "b") [] []], by decide⟩

/-- Registered in the other order, with the maximum written in another way. -/
def twoReversed : Registry :=
  ⟨[localDescriptor (str "b") [] [], limited (str "a") tenPointZero], by decide⟩

theorem twoReversed_same : SameRegistry twoCapabilities twoReversed := by
  rw [sameRegistry_iff]
  have left : sortedEntries twoCapabilities =
      [limited (str "a") ten, localDescriptor (str "b") [] []] := rfl
  have right : sortedEntries twoReversed =
      [limited (str "a") tenPointZero, localDescriptor (str "b") [] []] := rfl
  rw [left, right]
  exact .cons ((limited_same_iff _).mpr (by decide +kernel)) (.cons
    ⟨rfl, rfl, rfl, rfl, rfl, rfl, rfl, rfl, rfl, fun _ => rfl, rfl⟩ .nil)

/-- The order of registration and the spelling of a number show neither in the export nor in the
bytes of a descriptor; another maximum does. -/
theorem registry_digest_binds_reversed :
    (∃ export_ other, twoCapabilities.envelope plainTexts id Base64.encodeBytes = .ok export_ ∧
      twoReversed.envelope plainTexts id Base64.encodeBytes = .ok other ∧
      export_.canonicalPayload = other.canonicalPayload) ∧
    ∃ bytes other further, canonicalBytes plainTexts (limited (str "a") ten) = .ok bytes ∧
      canonicalBytes plainTexts (limited (str "a") tenPointZero) = .ok other ∧
      canonicalBytes plainTexts (limited (str "a") (Number.ofInt 11)) = .ok further ∧
      bytes = other ∧ bytes ≠ further := by
  obtain ⟨exported, hashed⟩ := registry_digest_binds plainTexts id Base64.encodeBytes
    Base64.encodeBytes_injective
  have valid (schema : Str) : ValidDescriptor (localDescriptor (str "a") [] schema) :=
    localDescriptor_valid (by decide)
  constructor
  · have entries : ∀ d ∈ twoCapabilities.entries, ValidDescriptor d := by
      intro d listed
      rcases List.mem_pair.mp listed with rfl | rfl
      · exact valid _
      · exact localDescriptor_valid (by decide)
    obtain ⟨export_, made⟩ := @limited_envelope twoCapabilities ten rfl
    obtain ⟨other, made'⟩ := @limited_envelope twoReversed tenPointZero rfl
    exact ⟨_, _, made, made', (exported _ _ _ _ entries made made').mpr twoReversed_same⟩
  · obtain ⟨bytes, made⟩ := limited_bytes ten
    obtain ⟨other, made'⟩ := limited_bytes tenPointZero
    obtain ⟨further, made''⟩ := limited_bytes (Number.ofInt 11)
    refine ⟨_, _, _, made, made', made'', ?_, fun same => ?_⟩
    · exact (hashed _ _ _ _ (valid _) made made').mpr ((limited_same_iff _).mpr (by decide +kernel))
    · exact absurd ((limited_same_iff _).mp ((hashed _ _ _ _ (valid _) made made'').mp same))
        (by decide +kernel)

/-- Descriptors that differ in the policy revision only are hashed as different bytes; descriptors with
different ill-formed ids, and one without a schema and one with the schema `null`, as the same. -/
theorem registry_digest_unbound :
    (∃ bytes other, canonicalBytes plainTexts (localDescriptor (str "a") [] []) = .ok bytes ∧
      canonicalBytes plainTexts (localDescriptor (str "a") (str "r2") []) = .ok other ∧
      bytes ≠ other) ∧
    (∃ bytes, canonicalBytes plainTexts (localDescriptor [0xff] [] []) = .ok bytes ∧
      canonicalBytes plainTexts (localDescriptor [0xfe] [] []) = .ok bytes) ∧
    ∃ bytes, canonicalBytes plainTexts (localDescriptor (str "a") [] []) = .ok bytes ∧
      canonicalBytes plainTexts (localDescriptor (str "a") [] (str "null")) = .ok bytes := by
  refine ⟨⟨_, _, rfl, rfl, fun same => ?_⟩, ⟨_, rfl, rfl⟩, _, rfl, ?_⟩
  · have policy : SamePolicy (localDescriptor (str "a") [] [])
        (localDescriptor (str "a") (str "r2") []) :=
      (@canonicalBytes_eq_iff _ _ plainTexts _ _ (localDescriptor_valid (by decide)) rfl
        rfl).mp same
    exact absurd policy.revision (by decide)
  · have decoded : decodeUseNumber (str "null") = .ok .null :=
      @decodeUseNumber_text .null (Value.within_iff.mpr ⟨by decide, by decide⟩)
    unfold canonicalBytes canonicalDescriptorOf
    rw [canonicalSchema_decoded (show 0 < (localDescriptor (str "a") [] (str "null")).schema.length
      by decide) decoded]
    rfl

end Samples

end Crabedence.Capability
