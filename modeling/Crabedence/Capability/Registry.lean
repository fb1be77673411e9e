import Crabedence.Capability.Schema
import Crabedence.Dispatch.Types
import Crabedence.Go.Values

/-!
# The capability registry

Descriptors are resolved when they are registered, or taken as they are by `RegisterResolved`;
`Validate` scans the whole registry at startup.  The scan of an argument schema looks at keywords and
at the shape of subschemas, and collects findings instead of stopping at the first one.
-/

namespace Crabedence.Capability

open Json Go

/-- A Go string type with a few known values. -/
inductive Declared (Known : Type) where
  | known (value : Known)
  | other (text : Str)
deriving DecidableEq

def Declared.valid {Known : Type} : Declared Known → Bool
  | .known _ => true
  | .other _ => false

inductive AssuranceProfile where
  | none
  | standard
  | durable
  | highAssurance
deriving DecidableEq, Repr

inductive ExecutionRoute where
  | local
  | direct
  | crabedence
deriving DecidableEq, Repr

def AssuranceProfile.text : AssuranceProfile → String
  | none => "NONE"
  | standard => "STANDARD"
  | durable => "DURABLE"
  | highAssurance => "HIGH_ASSURANCE"

def ExecutionRoute.text : ExecutionRoute → String
  | .local => "LOCAL"
  | direct => "DIRECT"
  | crabedence => "CRABEDENCE"

def Declared.text {Known : Type} (name : Known → String) : Declared Known → Str
  | .known value => str (name value)
  | .other text => text

def Declared.orDefault {Known : Type} (declared : Declared Known) (default_ : Known) :
    Declared Known :=
  if declared.valid = false ∧ declared.text (fun _ => "") = [] then .known default_ else declared

structure AuthorityPolicy where
  id : Str
  grantRequired : Bool
  resourceArguments : Map Str

/-- `CapabilityDescriptor`, and `ResolvedDescriptor`, which has the same fields. -/
structure Descriptor where
  id : Str
  descriptorVersion : Int
  policyRevision : Str
  executionClass : Declared ExecutionClass
  assuranceProfile : Declared AssuranceProfile
  executionRoute : Declared ExecutionRoute
  schema : RawMessage
  authorityPolicy : AuthorityPolicy
  adapterID : Str

def defaultAssuranceProfile : Declared ExecutionClass → AssuranceProfile
  | .known .pure => .none
  | .known .read => .standard
  | .known .mutation => .durable
  | .known .critical => .highAssurance
  | .other _ => .standard

def defaultExecutionRoute : Declared AssuranceProfile → ExecutionRoute
  | .known .none => .local
  | .known .standard => .direct
  | .known .durable | .known .highAssurance => .crabedence
  | .other _ => .crabedence

def validateDescriptorCompatibility (effect : Declared ExecutionClass)
    (assurance : Declared AssuranceProfile) (route : Declared ExecutionRoute) : Except Str Unit :=
  let effectText := effect.text ExecutionClass.text
  let assuranceText := assurance.text AssuranceProfile.text
  match route with
  | .known .local =>
    if effect ≠ .known .pure then
      .error (str "route LOCAL requires effect PURE, got " ++ effectText)
    else if assurance ≠ .known .none then
      .error (str "route LOCAL cannot satisfy assurance " ++ assuranceText ++
        str " (requires NONE)")
    else .ok ()
  | .known .direct =>
    if effect = .known .mutation ∨ effect = .known .critical then
      .error (str "route DIRECT cannot handle effect " ++ effectText ++
        str " (requires CRABEDENCE)")
    else if assurance = .known .durable ∨ assurance = .known .highAssurance then
      .error (str "route DIRECT cannot satisfy assurance " ++ assuranceText ++
        str " (requires CRABEDENCE)")
    else .ok ()
  | .known .crabedence =>
    if effect = .known .critical ∧ assurance ≠ .known .highAssurance then
      .error (str "CRITICAL effect requires assurance HIGH_ASSURANCE, got " ++ assuranceText)
    else if effect = .known .mutation ∧ assurance ≠ .known .durable ∧
        assurance ≠ .known .highAssurance then
      .error (str "MUTATION effect requires durable assurance (DURABLE or HIGH_ASSURANCE), got " ++
        assuranceText)
    else .ok ()
  | .other text => .error (str "unknown execution route: " ++ text)

def aboutCapability (id message : Str) : Str := str "capability " ++ id ++ str ": " ++ message

def localGrantMessage : Str :=
  str ("LOCAL route cannot require a grant — LOCAL execution never reaches the authority " ++
    "resolver")

/-- `Resolve`. -/
def resolve (d : Descriptor) : Except Str Descriptor := do
  if d.id = [] then throw (str "capability ID is required")
  if d.executionClass.valid = false then
    throw (str "invalid execution class: " ++ d.executionClass.text ExecutionClass.text)
  let descriptorVersion := if d.descriptorVersion = 0 then 1 else d.descriptorVersion
  if descriptorVersion < 1 then
    throw (aboutCapability d.id (str "descriptor version must be >= 1, got " ++
      str (toString descriptorVersion)))
  let assurance := d.assuranceProfile.orDefault (defaultAssuranceProfile d.executionClass)
  if assurance.valid = false then
    throw (str "invalid assurance profile: " ++ assurance.text AssuranceProfile.text)
  let route := d.executionRoute.orDefault (defaultExecutionRoute assurance)
  if route.valid = false then
    throw (str "invalid execution route: " ++ route.text ExecutionRoute.text)
  match validateDescriptorCompatibility d.executionClass assurance route with
  | .error failure => throw (aboutCapability d.id failure)
  | .ok () =>
    if route = .known .local ∧ d.authorityPolicy.grantRequired then
      throw (aboutCapability d.id localGrantMessage)
    else
      return { d with
        descriptorVersion := descriptorVersion
        assuranceProfile := assurance
        executionRoute := route }

/-- The entries by id. -/
structure Registry where
  entries : List Descriptor
  distinct : (entries.map Descriptor.id).Nodup

namespace Registry

def empty : Registry := ⟨[], List.nodup_nil⟩

def lookup (r : Registry) (id : Str) : Option Descriptor :=
  r.entries.find? fun descriptor => decide (descriptor.id = id)

def add (r : Registry) (d : Descriptor) : Except Str Registry :=
  if taken : d.id ∈ r.entries.map Descriptor.id then
    .error (str "capability already registered: " ++ d.id)
  else .ok ⟨d :: r.entries, List.nodup_cons.mpr ⟨taken, r.distinct⟩⟩

def register (r : Registry) (d : Descriptor) : Except Str Registry := do
  let resolved ← resolve d
  r.add resolved

/-- The registry after calls of `Register`; a refused one leaves it as it is. -/
def registerAll (calls : List Descriptor) : Registry :=
  calls.foldl (fun r d => (r.register d).toOption.getD r) empty

theorem resolve_compatible {d e : Descriptor} (resolved : resolve d = .ok e) :
    validateDescriptorCompatibility e.executionClass e.assuranceProfile e.executionRoute = .ok () ∧
      ¬(e.executionRoute = .known .local ∧ e.authorityPolicy.grantRequired = true) := by
  simp only [resolve, pure, Except.pure, bind, Except.bind, throw, throwThe,
    MonadExceptOf.throw] at resolved
  generalize (if d.descriptorVersion = 0 then 1 else d.descriptorVersion) = version at resolved
  generalize d.assuranceProfile.orDefault _ = assurance at resolved
  generalize d.executionRoute.orDefault _ = route at resolved
  cases compatible : validateDescriptorCompatibility d.executionClass assurance route with
  | error reason =>
    rw [compatible] at resolved
    split_ifs at resolved
  | ok =>
    rw [compatible] at resolved
    split_ifs at resolved
    cases resolved
    exact ⟨compatible, by assumption⟩

theorem mem_registerAll (calls : List Descriptor) :
    ∀ e ∈ (registerAll calls).entries, ∃ d, resolve d = .ok e := by
  refine List.foldlRecOn (motive := fun r : Registry => ∀ e ∈ r.entries, ∃ d, resolve d = .ok e)
    calls _ nofun fun r known d _ => ?_
  cases resolved : resolve d with
  | error reason => rwa [register, resolved]
  | ok e =>
    simp only [register, resolved, bind, Except.bind, add]
    split_ifs with taken
    · exact known
    · exact List.forall_mem_cons.mpr ⟨⟨d, resolved⟩, known⟩

/-- No calls of `Register` route an effect around the kernel: a `MUTATION` or `CRITICAL` capability is
registered for `CRABEDENCE`, a `CRITICAL` one with `HIGH_ASSURANCE`, and one that needs a grant is
never `LOCAL`. -/
theorem effects_reach_kernel (calls : List Descriptor) (id : Str) {d : Descriptor}
    (found : (registerAll calls).lookup id = some d) :
    (d.executionClass = .known .mutation ∨ d.executionClass = .known .critical →
      d.executionRoute = .known .crabedence) ∧
    (d.executionClass = .known .critical → d.assuranceProfile = .known .highAssurance) ∧
    (d.authorityPolicy.grantRequired = true → d.executionRoute ≠ .known .local) := by
  obtain ⟨_, resolved⟩ := mem_registerAll calls d (List.mem_of_find?_eq_some found)
  obtain ⟨compatible, adjudicated⟩ := resolve_compatible resolved
  unfold validateDescriptorCompatibility at compatible
  refine ⟨?_, ?_, fun needed route => adjudicated ⟨route, needed⟩⟩ <;> grind

def sampleMutation : Descriptor :=
  ⟨str "c", 0, [], .known .mutation, .other [], .other [], [], ⟨[], true, .empty⟩, []⟩

theorem effects_reach_kernel_default : ∃ d, (registerAll [sampleMutation]).lookup (str "c") = some d ∧
    d.executionRoute = .known .crabedence :=
  ⟨_, rfl, (effects_reach_kernel [sampleMutation] (str "c") rfl).1 (.inl rfl)⟩

end Registry

section SchemaScan

variable (texts : ErrorTexts)

def supportedSchemaKeywords : List String := [
  "type", "required", "properties", "additionalProperties", "enum", "minimum", "maximum",
  "multipleOf", "minLength", "maxLength", "items",
  "description", "title", "$schema", "$id", "$comment", "examples", "default", "deprecated",
  "readOnly", "writeOnly"]

def isSupportedKeyword (keyword : Text) : Bool :=
  supportedSchemaKeywords.any fun supported => decide (keyword = textOf supported)

/-- What the scan can do with a value: read it as a schema, or as the properties of one. -/
structure Scan where
  asSchema : Option (String → List String)
  asProperties : Option (List (Text × Option (String → List String)))

def scanKeyword (path : String) (keyword : Text) (value : Scan) : List String :=
  if isSupportedKeyword keyword = false then
    ["argument schema uses unsupported keyword " ++ texts.quote (textString keyword) ++ path]
  else if keyword = textOf "properties" then
    match value.asProperties with
    | none => ["argument schema properties must be an object" ++ path]
    | some properties => properties.flatMap fun property =>
      match property.2 with
      | none => ["argument schema property " ++ texts.quote (textString property.1) ++
          " must be a schema object" ++ path]
      | some propertySchema => propertySchema (path ++ "." ++ textString property.1)
  else if keyword = textOf "items" then
    match value.asSchema with
    | none => ["argument schema items must be a schema object" ++ path]
    | some items => items (path ++ "[]")
  else if keyword = textOf "additionalProperties" then
    match value.asSchema with
    | none => []
    | some additional => additional path
  else []

def scan : Value Number → Scan :=
  Value.fold {
    null := ⟨none, none⟩
    bool := fun _ => ⟨none, none⟩
    number := fun _ => ⟨none, none⟩
    string := fun _ => ⟨none, none⟩
    array := fun _ => ⟨none, none⟩
    object := fun members => {
      asSchema := some fun path =>
        members.flatMap fun member => scanKeyword texts path member.1 member.2
      asProperties := some (members.map fun member => (member.1, member.2.asSchema)) }
  }

/-- `validateSchemaKeywords`: its findings. -/
def validateSchemaKeywords (schema : Schema) (path : String) : List String :=
  schema.flatMap fun member => scanKeyword texts path member.1 (scan texts member.2)

def validateSchemaDocument (schema : RawMessage) : List String :=
  match decodeUseNumber schema with
  | .error failure => ["argument schema is not valid JSON: " ++ texts.decode failure]
  | .ok (.object document) => validateSchemaKeywords texts document ""
  | .ok _ => ["argument schema must be a JSON object"]

end SchemaScan

namespace Registry

variable (texts : ErrorTexts) (quote : Str → Str)

/-- The findings about one descriptor; `quote` is the verb `%q`. -/
def findings (d : Descriptor) : List Str :=
  (if d.descriptorVersion < 0 then
    [str "descriptor version must be >= 1, got " ++ str (toString d.descriptorVersion)] else []) ++
  (if d.executionClass.valid = false then
    [str "invalid execution class " ++ quote (d.executionClass.text ExecutionClass.text)]
    else []) ++
  (if d.assuranceProfile.valid = false then
    [str "invalid assurance profile " ++ quote (d.assuranceProfile.text AssuranceProfile.text)]
    else []) ++
  (if d.executionRoute.valid = false then
    [str "invalid execution route " ++ quote (d.executionRoute.text ExecutionRoute.text)]
    else []) ++
  (match validateDescriptorCompatibility d.executionClass d.assuranceProfile d.executionRoute with
    | .error failure => [failure]
    | .ok () => []) ++
  (if d.executionRoute = .known .local ∧ d.authorityPolicy.grantRequired then
    [localGrantMessage] else []) ++
  (if d.authorityPolicy.resourceArguments.entries ≠ [] ∧ d.authorityPolicy.grantRequired = false then
    [str ("resource arguments require GrantRequired — constraints cannot be evaluated without " ++
      "a resolved grant")] else []) ++
  (if d.adapterID = [] then [str "no adapter binding — the service cannot dispatch it"] else []) ++
  (if 0 < d.schema.length then (validateSchemaDocument texts d.schema).map str else [])

/-- `Validate`: the findings over all descriptors in the order of their ids. -/
def validate (r : Registry) : List Str :=
  (r.entries.insertionSort fun left right => left.id ≤ right.id).flatMap fun d =>
    (findings texts quote d).map (aboutCapability d.id)

end Registry

end Crabedence.Capability
