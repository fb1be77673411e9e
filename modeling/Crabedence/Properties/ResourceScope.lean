import Crabedence.Capability.Admission

/-!
# Resource scope

A verified request is within its grant's constraints: every argument that the capability binds to a
constrained dimension is one of the admitted strings.  The exception is an argument that is `null`,
which decodes to the empty string and is compared as such.
-/

namespace Crabedence.Capability

open Json Go

def Argument (raw : RawMessage) (argName : Str) (value : Value Number) : Prop :=
  ∃ members, Decodes raw (.object members) ∧
    (members.map fun member => (goString member.1, member.2)).lookup argName = some value

variable {raw : RawMessage} {argName : Str} {value : Value Number} {printing : Printing}
  {now : Time} {req : AdmissionRequest} {desc : Descriptor} {grant : Grant}

theorem Argument.unique {other : Value Number} (first : Argument raw argName value)
    (second : Argument raw argName other) : value = other := by
  obtain ⟨members, decodes, found⟩ := first
  obtain ⟨others, again, seen⟩ := second
  cases decodes.unique again
  exact Option.some.inj (found.symm.trans seen)

def StringAdmitted (raw : RawMessage) (argName : Str) (allowed : List Str) : Prop :=
  ∃ text, Argument raw argName (.string text) ∧ (goString text ∈ allowed ∨ str "*" ∈ allowed)

/-- Only an object has arguments; `null` is read as an object without any. -/
theorem argument_of_unmarshalMembers {texts : ErrorTexts} {args : List (Str × Value Number)}
    {field : Value Number} (decoded : unmarshalMembers texts raw = .ok args)
    (found : args.lookup argName = some field) : Argument raw argName field := by
  obtain ⟨result, read, decoded⟩ := Checks.bind_ok_iff.mp decoded
  obtain ⟨_, ended, decoded⟩ := Checks.bind_ok_iff.mp decoded
  rw [Checks.mapError_ok_iff] at read ended
  cases value : result.1.collect with
  | object members =>
    rw [value] at decoded
    cases decoded
    exact ⟨members, ⟨result.1, result.2, read, ended, value⟩, found⟩
  | null =>
    rw [value] at decoded
    cases decoded
    cases found
  | _ =>
    rw [value] at decoded
    cases decoded

theorem admits_iff {allowed : List Str} {value : Str} :
    Grant.admits allowed value = true ↔ value ∈ allowed ∨ str "*" ∈ allowed := by
  unfold Grant.admits
  rw [List.any_eq_true]
  constructor
  · rintro ⟨v, member, same⟩
    rw [Bool.or_eq_true, beq_iff_eq, beq_iff_eq] at same
    rcases same with rfl | rfl
    · exact .inl member
    · exact .inr member
  · rintro (member | wildcard)
    · exact ⟨value, member, by simp⟩
    · exact ⟨str "*", wildcard, by simp⟩

section Checks

variable {policy : AuthorityPolicy} {dimension : Str}

theorem checkDimension_eq_none {args : List (Str × Value Number)}
    (mapped : policy.resourceArguments.get? dimension = some argName)
    (passed : checkDimension printing policy args grant dimension = none) :
    ∃ field value, args.lookup argName = some field ∧ unmarshalString field = some value ∧
      grant.allowsResource dimension value = true := by
  unfold checkDimension at passed
  dsimp only at passed
  rw [mapped, Option.getD_some] at passed
  cases found : args.lookup argName with
  | none =>
    rw [found] at passed
    cases passed
  | some field =>
    rw [found] at passed
    dsimp only at passed
    cases decoded : unmarshalString field with
    | none =>
      rw [decoded] at passed
      cases passed
    | some value =>
      rw [decoded] at passed
      dsimp only at passed
      split_ifs at passed with allowed
      exact ⟨field, value, rfl, decoded, allowed⟩

theorem bound_argument (passed : checkResourceConstraints printing policy raw grant = none)
    {allowed : List Str} (mapped : policy.resourceArguments.get? dimension = some argName)
    (bound : grant.constraints.get? dimension = some allowed) :
    StringAdmitted raw argName allowed ∨ Argument raw argName .null := by
  unfold checkResourceConstraints at passed
  cases decoded : unmarshalMembers printing.texts raw with
  | error failure =>
    rw [decoded] at passed
    cases passed
  | ok args =>
    rw [decoded] at passed
    rw [List.findSome?_eq_none_iff] at passed
    have checked := passed dimension (mem_sortStrings.mpr (List.mem_map_of_mem (mem_of_lookup mapped)))
    obtain ⟨field, value, found, asString, admitted⟩ := checkDimension_eq_none mapped checked
    have argument := argument_of_unmarshalMembers decoded found
    unfold Grant.allowsResource at admitted
    rw [bound] at admitted
    cases field with
    | string text =>
      cases asString
      exact .inl ⟨text, argument, admits_iff.mp admitted⟩
    | null => exact .inr argument
    | _ => cases asString

end Checks

theorem checked_of_verifyGrant {dbOwnedExpiry : Bool} {found : Grant}
    (verified : verifyGrant printing now req desc dbOwnedExpiry found = .ok (some grant)) :
    desc.authorityPolicy.resourceArguments.entries = [] ∨
      checkResourceConstraints printing desc.authorityPolicy req.arguments grant = none := by
  unfold verifyGrant at verified
  split_ifs at verified with refused unbound
  · cases verified
  · exact .inl unbound
  · cases checked : checkResourceConstraints printing desc.authorityPolicy req.arguments found with
    | some denial =>
      rw [checked] at verified
      cases verified
    | none =>
      rw [checked] at verified
      cases verified
      exact .inr checked

theorem verifyGrant_of_verified {registry : Registry} {resolver : Option GrantResolver}
    (registered : registry.lookup req.capability = some desc)
    (verified : registry.verifyAuthority printing now req resolver = .ok (some grant)) :
    ∃ dbOwnedExpiry found,
      verifyGrant printing now req desc dbOwnedExpiry found = .ok (some grant) := by
  unfold Registry.verifyAuthority at verified
  rw [registered] at verified
  dsimp only at verified
  split_ifs at verified
  · cases verified
  · cases verified
  · cases verified
  · cases resolver with
    | none => cases verified
    | some resolver =>
      dsimp only at verified
      cases resolved : resolver.resolve req.grantID req.principal with
      | error failure =>
        rw [resolved] at verified
        cases verified
      | ok answer =>
        rw [resolved] at verified
        cases answer with
        | none => cases verified
        | some found => exact ⟨_, found, verified⟩

/-- Verified with a grant, every argument bound to a dimension the grant constrains is a string the
grant admits, exactly if none of them is null. -/
theorem resource_arguments_admitted_iff (printing : Printing) (registry : Registry) (now : Time)
    (req : AdmissionRequest) (resolver : Option GrantResolver) (grant : Grant) (desc : Descriptor)
    (registered : registry.lookup req.capability = some desc)
    (verified : registry.verifyAuthority printing now req resolver = .ok (some grant)) :
    (∀ dimension allowed argName, grant.constraints.get? dimension = some allowed →
      desc.authorityPolicy.resourceArguments.get? dimension = some argName →
        StringAdmitted req.arguments argName allowed) ↔
    (∀ dimension allowed argName, grant.constraints.get? dimension = some allowed →
      desc.authorityPolicy.resourceArguments.get? dimension = some argName →
        ¬ Argument req.arguments argName .null) := by
  constructor
  · intro admitted dimension allowed argName bound mapped null
    obtain ⟨text, argument, -⟩ := admitted dimension allowed argName bound mapped
    cases argument.unique null
  · intro nonnull dimension allowed argName bound mapped
    obtain ⟨_, _, granted⟩ := verifyGrant_of_verified registered verified
    rcases checked_of_verifyGrant granted with unbound | checked
    · unfold Map.get? at mapped
      rw [unbound] at mapped
      cases mapped
    · rcases bound_argument checked mapped bound with admitted | null
      · exact admitted
      · exact absurd null (nonnull dimension allowed argName bound mapped)

/-- A capability whose argument `repo` is bound to the dimension of that name. -/
def sampleScoped : Descriptor where
  id := str "sample.write"
  descriptorVersion := 1
  policyRevision := []
  executionClass := .known .mutation
  assuranceProfile := .known .durable
  executionRoute := .known .crabedence
  schema := []
  authorityPolicy := ⟨[], true, [(str "repo", str "repo")], by decide⟩
  adapterID := str "sample"

def sampleGrant : Grant where
  id := str "grant"
  principal := str "alice"
  capabilities := []
  constraints := ⟨[(str "repo", [str "*"])], by decide⟩
  expiresAt := .zero
  revoked := false
  issuedAt := .zero
  generation := 1
  digest := []

/-- The arguments `{"repo":...}`. -/
def sampleRepo (value : Value Number) : Value Number := .object [("repo".toList.map some, value)]

def sampleRequest (value : Value Number) : AdmissionRequest where
  capability := str "sample.write"
  arguments := Utf8.encode (sampleRepo value).text
  principal := str "alice"
  grantID := str "grant"

def sampleScope : Registry := ⟨[sampleScoped], List.nodup_singleton _⟩

def sampleResolver : GrantResolver := ⟨fun _ _ => .ok (some sampleGrant), none⟩

def samplePrinting : Printing := ⟨⟨id, fun _ => "malformed"⟩, id⟩

theorem sampleRequest_verified
    (decodes : Decodes (sampleRequest value).arguments (sampleRepo value)) {decoded : Str}
    (asString : unmarshalString value = some decoded) :
    sampleScope.verifyAuthority samplePrinting .zero (sampleRequest value) (some sampleResolver) =
      .ok (some sampleGrant) := by
  have permitted : checkDimension samplePrinting sampleScoped.authorityPolicy
      [(str "repo", value)] sampleGrant (str "repo") = none := by
    have named : (sampleScoped.authorityPolicy.resourceArguments.get? (str "repo")).getD [] =
        str "repo" := rfl
    simp only [checkDimension, named, List.lookup_cons_self, asString]
    exact if_pos (admits_iff.mpr (.inr List.mem_cons_self))
  have passed : checkResourceConstraints samplePrinting sampleScoped.authorityPolicy
      (sampleRequest value).arguments sampleGrant = none := by
    obtain ⟨document, rest, read, ended, decoded⟩ := decodes
    unfold checkResourceConstraints unmarshalMembers
    rw [read]
    dsimp only [Except.mapError, bind, Except.bind]
    rw [ended]
    rw [decoded]
    show List.findSome? _ [str "repo"] = none
    rw [List.findSome?_singleton]
    exact permitted
  show verifyGrant samplePrinting .zero _ sampleScoped false sampleGrant = _
  unfold verifyGrant
  rw [if_neg (by simp [sampleGrant, Grant.hasCapability, Grant.expired, Time.isZero]),
    if_neg (by decide), passed]

/-- A request that names a repository is verified, and what it names is admitted. -/
theorem resource_arguments_admitted_run :
    sampleScope.verifyAuthority samplePrinting .zero (sampleRequest (.string [some 'a']))
        (some sampleResolver) = .ok (some sampleGrant) ∧
      StringAdmitted (sampleRequest (.string [some 'a'])).arguments (str "repo") [str "*"] := by
  have decodes : Decodes (sampleRequest (.string [some 'a'])).arguments
      (sampleRepo (.string [some 'a'])) :=
    decodes_text (Value.within_iff.mpr ⟨by decide, by decide⟩) rfl
  have verified := sampleRequest_verified decodes rfl
  refine ⟨verified, ?_⟩
  have law := (resource_arguments_admitted_iff samplePrinting sampleScope .zero _ _ sampleGrant
    sampleScoped rfl verified).mpr
  refine law ?_ (str "repo") [str "*"] (str "repo") rfl rfl
  intro dimension allowed argName bound mapped null
  -- no argument is null: the only one is a string
  obtain ⟨members, again, found⟩ := null
  cases decodes.unique again
  cases List.mem_singleton.mp (mem_of_lookup found)

/-- A request whose repository is null is verified. -/
theorem null_argument_verified :
    sampleScope.verifyAuthority samplePrinting .zero (sampleRequest .null) (some sampleResolver) =
        .ok (some sampleGrant) ∧
      Argument (sampleRequest .null).arguments (str "repo") .null ∧
      ¬ StringAdmitted (sampleRequest .null).arguments (str "repo") [str "*"] := by
  have decodes : Decodes (sampleRequest .null).arguments (sampleRepo .null) :=
    decodes_text (Value.within_iff.mpr ⟨by decide, by decide⟩) rfl
  have null : Argument (sampleRequest .null).arguments (str "repo") .null := ⟨_, decodes, rfl⟩
  refine ⟨sampleRequest_verified decodes rfl, null, ?_⟩
  rintro ⟨text, argument, -⟩
  cases argument.unique null

end Crabedence.Capability
