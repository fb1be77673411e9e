import Crabedence.Capability.Grant
import Crabedence.Capability.Registry

/-!
# Registry and descriptor digests

`internal/capability/registry_digest.go`: a resolved descriptor is projected to a struct, its schema as
the normalized parsed value, and the struct is marshalled.  The registry is the array of the projections
in the order of their ids.
-/

namespace Crabedence.Capability

open Json Go

/-- The members of `canonicalDescriptor`, in the order in which they are written. -/
inductive DescriptorField where
  | id
  | descriptorVersion
  | policyRevision
  | executionClass
  | assuranceProfile
  | executionRoute
  | schema
  | authorityPolicy
  | adapterID
deriving DecidableEq

namespace DescriptorField

def all : List DescriptorField :=
  [id, descriptorVersion, policyRevision, executionClass, assuranceProfile, executionRoute, schema,
    authorityPolicy, adapterID]

def name : DescriptorField → Text
  | id => nameText "id"
  | descriptorVersion => nameText "descriptor_version"
  | policyRevision => nameText "policy_revision"
  | executionClass => nameText "execution_class"
  | assuranceProfile => nameText "assurance_profile"
  | executionRoute => nameText "execution_route"
  | schema => nameText "schema"
  | authorityPolicy => nameText "authority_policy"
  | adapterID => nameText "adapter_id"

end DescriptorField

inductive PolicyField where
  | id
  | grantRequired
  | resourceArguments
deriving DecidableEq

namespace PolicyField

def all : List PolicyField := [id, grantRequired, resourceArguments]

def name : PolicyField → Text
  | id => nameText "id"
  | grantRequired => nameText "grant_required"
  | resourceArguments => nameText "resource_arguments"

end PolicyField

section Projection

variable {N : Type}

/-- A string under `omitempty`. -/
def omitEmptyString (text : Str) : Option (Value N) :=
  if text = [] then none else some (stringValue text)

def argumentsValue (arguments : Map Str) : Value N :=
  .object ((sortStrings arguments.keys).map fun key =>
    (Utf8.decode key, stringValue ((arguments.get? key).getD [])))

def AuthorityPolicy.member (policy : AuthorityPolicy) : PolicyField → Option (Value N)
  | .id => some (stringValue policy.id)
  | .grantRequired => some (.bool policy.grantRequired)
  | .resourceArguments =>
    if policy.resourceArguments.entries.length = 0 then none
    else some (argumentsValue policy.resourceArguments)

def AuthorityPolicy.value (policy : AuthorityPolicy) : Value N :=
  .object (presentMembers PolicyField.name PolicyField.all policy.member)

end Projection

/-- The digest projection of a descriptor; the nil schema is `null`. -/
structure CanonicalDescriptor (N : Type) where
  id : Str
  descriptorVersion : N
  policyRevision : Str
  executionClass : Str
  assuranceProfile : Str
  executionRoute : Str
  schema : Value N
  authorityPolicy : AuthorityPolicy
  adapterID : Str

namespace CanonicalDescriptor

variable {N : Type} (descriptor : CanonicalDescriptor N)

/-- A member of the struct; the empty revision and the nil schema are left out. -/
def member : DescriptorField → Option (Value N)
  | .id => some (stringValue descriptor.id)
  | .descriptorVersion => some (.number descriptor.descriptorVersion)
  | .policyRevision => omitEmptyString descriptor.policyRevision
  | .executionClass => some (stringValue descriptor.executionClass)
  | .assuranceProfile => some (stringValue descriptor.assuranceProfile)
  | .executionRoute => some (stringValue descriptor.executionRoute)
  | .schema =>
    match descriptor.schema with
    | .null => none
    | schema => some schema
  | .authorityPolicy => some descriptor.authorityPolicy.value
  | .adapterID => some (stringValue descriptor.adapterID)

def value : Value N :=
  .object (presentMembers DescriptorField.name DescriptorField.all descriptor.member)

end CanonicalDescriptor

section Digest

variable (texts : ErrorTexts)

/-- The schema of a descriptor, parsed and normalized; an empty one is nil. -/
def canonicalSchema (d : Descriptor) : Except Str (Value (List Char)) :=
  if 0 < d.schema.length then
    match decodeUseNumber d.schema with
    | .error failure =>
      .error (aboutCapability d.id (str ("argument schema is not valid JSON: " ++
        texts.decode failure)))
    | .ok parsed =>
      match normalizeNumbers texts (parsed.map fun number => .number (Number.text number)) with
      | .error failure =>
        .error (aboutCapability d.id (str ("argument schema numeric normalization failed: " ++
          failure)))
      | .ok normalized => .ok normalized
  else .ok .null

def canonicalDescriptorOf (d : Descriptor) : Except Str (CanonicalDescriptor (List Char)) := do
  let version := if d.descriptorVersion = 0 then 1 else d.descriptorVersion
  let schema ← canonicalSchema texts d
  return {
    id := d.id
    descriptorVersion := integerText version
    policyRevision := d.policyRevision
    executionClass := d.executionClass.text ExecutionClass.text
    assuranceProfile := d.assuranceProfile.text AssuranceProfile.text
    executionRoute := d.executionRoute.text ExecutionRoute.text
    schema := schema
    authorityPolicy := d.authorityPolicy
    adapterID := d.adapterID }

/-- The bytes `DescriptorDigest` hashes. -/
def canonicalBytes (d : Descriptor) : Except Str (List UInt8) := do
  let projection ← canonicalDescriptorOf texts d
  return marshal projection.value

def descriptorDigest (sha256 : List UInt8 → Str) (d : Descriptor) : Except Str Str := do
  let canonical ← canonicalBytes texts d
  return sha256 canonical

namespace Registry

def canonicalDescriptorBytes (r : Registry) : Except Str (List UInt8) := do
  let projection ← (r.entries.insertionSort fun left right => left.id ≤ right.id).mapM
    (canonicalDescriptorOf texts)
  return marshal (.array (projection.map CanonicalDescriptor.value))

end Registry

structure SnapshotEnvelope where
  registrySHA256 : Str
  canonicalPayload : Str

/-- `Envelope`, over the hash and the base64 encoding. -/
def Registry.envelope (sha256 encodeBase64 : List UInt8 → Str) (r : Registry) :
    Except Str SnapshotEnvelope := do
  let canonical ← r.canonicalDescriptorBytes texts
  return { registrySHA256 := sha256 canonical, canonicalPayload := encodeBase64 canonical }

end Digest

end Crabedence.Capability
