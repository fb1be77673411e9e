import Crabedence.Capability.Registry
import Crabedence.Properties.SchemaValues

/-!
# Which keywords are enforced

Registration scans the keywords of a schema and the shape of its subschemas; validation walks the
arguments along items and declared properties.  Wherever the walk comes by, a keyword is enforced if
the validator can use the value the schema gives it.  Accepted arguments satisfy their schema at every
depth exactly if they satisfy the keywords that were not enforced.
-/

namespace Crabedence.Capability

open Json Go

/-- The places the validator comes by. -/
inductive Visits : Schema → Value Number → Schema → Value Number → Prop
  | here (schema : Schema) (val : Value Number) : Visits schema val schema val
  | item {schema sub inner : Schema} {items : List (Value Number)} {item val : Value Number}
      (declared : schema.lookup (textOf "items") = some (.object sub)) (member : item ∈ items)
      (below : Visits sub item inner val) : Visits schema (.array items) inner val
  | property {schema props sub inner : Schema} {members : List (Text × Value Number)} {name : Text}
      {value val : Value Number}
      (declared : schema.lookup (textOf "properties") = some (.object props))
      (listed : (name, .object sub) ∈ props) (present : members.lookup name = some value)
      (below : Visits sub value inner val) : Visits schema (.object members) inner val

def Keyword.Usable (schema : Schema) (val setting : Value Number) : Keyword → Prop
  | type => ∃ name, setting = .string name
  | enum => ∃ members, setting = .array members ∧ ∀ e ∈ members, PrintsAlike e val → SameValue e val
  | limit which => ∀ quantity, which.quantity val = some quantity →
      ∃ bound, setting = .number bound ∧ which.Comparable val bound
  | required => ∃ names, setting = .array names ∧ ∀ r ∈ names, ∃ name, r = .string name
  | items | properties => True
  | additionalProperties => setting = .bool true ∨ (∃ sub, setting = .object sub) ∨
      (setting = .bool false ∧ ∃ props, schema.lookup (textOf "properties") = some (.object props))

/-- The keyword is enforced where this value meets this schema. -/
structure Enforced (root : Schema) (arguments : List (Text × Value Number)) (keyword : Keyword)
    (schema : Schema) (val : Value Number) : Prop where
  visited : Visits root (.object arguments) schema val
  /-- the arguments as a whole are not compared with an enumeration -/
  below : keyword = .enum → val ≠ .object arguments
  usable : ∀ setting, schema.lookup (textOf keyword.text) = some setting →
    keyword.Usable schema val setting

variable {path : String}

section Scan

variable {texts : ErrorTexts}

theorem scan_object (members : List (Text × Value Number)) :
    (scan texts (.object members)).asSchema = some (validateSchemaKeywords texts members) ∧
      (scan texts (.object members)).asProperties =
        some (members.map fun member => (member.1, (scan texts member.2).asSchema)) := by
  rw [scan, Value.fold_object]
  dsimp only
  rw [List.map_map]
  refine ⟨congrArg some (funext fun path => ?_), rfl⟩
  rw [List.flatMap_map]
  rfl

theorem scan_asSchema {value : Value Number} {check : String → List String}
    (scanned : (scan texts value).asSchema = some check) :
    ∃ sub, value = .object sub ∧ check = validateSchemaKeywords texts sub := by
  cases value with
  | object sub =>
    rw [(scan_object sub).1] at scanned
    exact ⟨sub, rfl, (Option.some.inj scanned).symm⟩
  | array items =>
    rw [scan, Value.fold_array] at scanned
    cases scanned
  | _ => cases scanned

variable {schema : Schema} {setting : Value Number}

section

variable (clean : validateSchemaKeywords texts schema path = [])
include clean

theorem scanKeyword_of_clean {keyword : Text} (found : schema.lookup keyword = some setting) :
    scanKeyword texts path keyword (scan texts setting) = [] :=
  List.flatMap_eq_nil_iff.mp clean _ (mem_of_lookup found)

theorem supported_of_clean {name : Text}
    (member : name ∈ schema.map Prod.fst) : isSupportedKeyword name = true := by
  obtain ⟨⟨keyword, setting⟩, held, rfl⟩ := List.mem_map.mp member
  have scanned := List.flatMap_eq_nil_iff.mp clean _ held
  unfold scanKeyword at scanned
  split_ifs at scanned with unsupported
  all_goals exact Bool.eq_true_of_not_eq_false unsupported

theorem items_of_clean (found : schema.lookup (textOf "items") = some setting) :
    ∃ sub, setting = .object sub ∧ validateSchemaKeywords texts sub (path ++ "[]") = [] := by
  have scanned := scanKeyword_of_clean clean found
  unfold scanKeyword at scanned
  rw [if_neg (by decide), if_neg (by decide), if_pos rfl] at scanned
  cases shape : (scan texts setting).asSchema with
  | none =>
    rw [shape] at scanned
    cases scanned
  | some check =>
    rw [shape] at scanned
    obtain ⟨sub, rfl, rfl⟩ := scan_asSchema shape
    exact ⟨sub, rfl, scanned⟩

theorem properties_of_clean (found : schema.lookup (textOf "properties") = some setting) :
    ∃ props, setting = .object props ∧ ∀ property ∈ props, ∃ sub, property.2 = .object sub ∧
      validateSchemaKeywords texts sub (path ++ "." ++ textString property.1) = [] := by
  have scanned := scanKeyword_of_clean clean found
  unfold scanKeyword at scanned
  rw [if_neg (by decide), if_pos rfl] at scanned
  cases setting with
  | object props =>
    rw [(scan_object props).2] at scanned
    refine ⟨props, rfl, fun property listed => ?_⟩
    have each := List.flatMap_eq_nil_iff.mp scanned _ (List.mem_map_of_mem listed)
    cases shape : (scan texts property.2).asSchema with
    | none =>
      rw [shape] at each
      cases each
    | some check =>
      rw [shape] at each
      obtain ⟨sub, same, rfl⟩ := scan_asSchema shape
      exact ⟨sub, same, each⟩
  | array items =>
    rw [scan, Value.fold_array] at scanned
    cases scanned
  | _ => cases scanned

theorem additional_of_clean {sub : Schema}
    (found : schema.lookup (textOf "additionalProperties") = some (.object sub)) :
    validateSchemaKeywords texts sub path = [] := by
  have scanned := scanKeyword_of_clean clean found
  unfold scanKeyword at scanned
  rw [if_neg (by decide), if_neg (by decide), if_neg (by decide), if_pos rfl,
    (scan_object sub).1] at scanned
  exact scanned

end

theorem Meets.clean {inner : Schema} {val v : Value Number} (meets : Meets schema val inner v)
    (clean : validateSchemaKeywords texts schema path = []) :
    ∃ path, validateSchemaKeywords texts inner path = [] := by
  induction meets generalizing path with
  | here schema val => exact ⟨path, clean⟩
  | item declared member below ih =>
    obtain ⟨sub, same, subClean⟩ := items_of_clean clean declared
    cases same
    exact ih subClean
  | property declared listed present below ih =>
    obtain ⟨props, same, each⟩ := properties_of_clean clean declared
    cases same
    obtain ⟨sub, shape, subClean⟩ := each _ listed
    cases shape
    exact ih subClean
  | additional declared undeclared present below ih => exact ih (additional_of_clean clean declared)

end Scan

variable {schema : Schema} {texts : ErrorTexts} {quote : Str → Str}

section Walk

/-- The parts of `validateObject`, each of which passed. -/
structure ObjectPassed (schema : Schema) (path : String) (members : List (Text × Value Number)) :
    Prop where
  type : ∀ name, schema.lookup (textOf "type") = some (.string name) → name = textOf "object"
  required : checkRequired schema path (members.map Prod.fst) = .ok ()
  properties : ∀ props, schema.lookup (textOf "properties") = some (.object props) →
    checkProperties path props (memberChecks members) = .ok ()
  additional : ∀ props, schema.lookup (textOf "properties") = some (.object props) →
    checkAdditional schema path props (members.map Prod.fst) = .ok ()

variable {members : List (Text × Value Number)}

theorem objectPassed_of_ok (accepted : validateObject schema path (memberChecks members) = .ok ()) :
    ObjectPassed schema path members := by
  unfold validateObject at accepted
  rw [inOrder_ok, memberChecks_fields] at accepted
  simp only [List.forall_mem_cons, List.not_mem_nil, false_imp_iff, forall_const, and_true] at accepted
  obtain ⟨typed, required, rest⟩ := accepted
  refine ⟨?_, required, ?_, ?_⟩
  · intro name declared
    rw [declared] at typed
    dsimp only at typed
    split_ifs at typed with same
    exact same
  · intro props declared
    rw [declared] at rest
    exact inOrder_ok.mp rest _ List.mem_cons_self
  · intro props declared
    rw [declared] at rest
    exact inOrder_ok.mp rest _ (List.mem_cons_of_mem _ List.mem_cons_self)

theorem ObjectPassed.property {props sub : Schema} {name : Text} {value : Value Number}
    (passed : ObjectPassed schema path members)
    (declared : schema.lookup (textOf "properties") = some (.object props))
    (listed : (name, .object sub) ∈ props) (present : members.lookup name = some value) :
    ∃ path, validateValue value sub path = .ok () := by
  have checked := passed.properties props declared
  unfold checkProperties at checked
  rw [inOrder_ok, List.forall_mem_map] at checked
  have one := checked _ listed
  rw [lookup_memberChecks, present] at one
  exact ⟨_, one⟩

theorem object_of_validateValue (accepted : validateValue (.object members) schema path = .ok ()) :
    ObjectPassed schema path members := by
  rw [validateValue_object, inOrder_ok] at accepted
  exact objectPassed_of_ok (accepted _ (List.mem_cons_of_mem _ List.mem_cons_self))

theorem Visits.accepted {inner : Schema} {val v : Value Number} (visits : Visits schema val inner v)
    (accepted : validateValue val schema path = .ok ()) :
    ∃ path, validateValue v inner path = .ok () := by
  induction visits generalizing path with
  | here schema val => exact ⟨path, accepted⟩
  | item declared member below ih =>
    rw [validateValue_array, inOrder_ok] at accepted
    have checked := accepted _ (List.mem_cons_of_mem _ List.mem_cons_self)
    unfold checkItems at checked
    rw [declared] at checked
    rw [inOrder_ok, List.forall_mem_map] at checked
    obtain ⟨index, bound, rfl⟩ := List.getElem_of_mem member
    have listed : (validateValue _, index) ∈ (List.map validateValue _).zipIdx :=
      List.mem_zipIdx_iff_getElem?.mpr (by
        rw [List.getElem?_map, List.getElem?_eq_getElem bound, Option.map_some])
    exact ih (checked _ listed)
  | property declared listed present below ih =>
    obtain ⟨path, one⟩ := (object_of_validateValue accepted).property declared listed present
    exact ih one

end Walk

section Enforcement

variable {keyword : Keyword} {scanned : String} {val : Value Number}

/-- An object that passed satisfies every usable keyword but an enumeration. -/
theorem ObjectPassed.means {members : List (Text × Value Number)}
    (passed : ObjectPassed schema path members)
    (clean : validateSchemaKeywords texts schema scanned = []) (other : keyword ≠ .enum)
    (usable : ∀ setting, schema.lookup (textOf keyword.text) = some setting →
      keyword.Usable schema (.object members) setting) :
    keyword.Means schema (.object members) := by
  intro setting declared
  have use := usable setting declared
  cases keyword with
  | type =>
    obtain ⟨name, rfl⟩ := use
    exact .inl (passed.type name declared)
  | enum => exact absurd rfl other
  | limit which =>
    intro quantity limited
    cases which <;> cases limited
  | required =>
    obtain ⟨names, rfl, strings⟩ := use
    intro members' same
    cases same
    refine ⟨names, rfl, fun r listed => ?_⟩
    obtain ⟨name, rfl⟩ := strings r listed
    have checked := passed.required
    unfold checkRequired at checked
    rw [show schema.lookup (textOf "required") = _ from declared] at checked
    rw [inOrder_ok, List.forall_mem_map] at checked
    have one := checked _ listed
    dsimp only at one
    split_ifs at one with present
    exact ⟨name, rfl, present⟩
  | items =>
    obtain ⟨sub, same, -⟩ := items_of_clean clean declared
    exact ⟨sub, same⟩
  | properties =>
    obtain ⟨props, same, each⟩ := properties_of_clean clean declared
    refine ⟨props, same, fun property listed => ?_⟩
    obtain ⟨sub, shape, -⟩ := each property listed
    exact ⟨sub, shape⟩
  | additionalProperties =>
    intro members' same
    cases same
    rcases use with always | schemaValued | ⟨never, props, listed⟩
    · exact .inl always
    · exact .inr (.inl schemaValued)
    · refine .inr (.inr ⟨never, fun name present => ⟨props, listed, ?_⟩⟩)
      have checked := passed.additional props listed
      unfold checkAdditional at checked
      rw [show schema.lookup (textOf "additionalProperties") = _ from declared, never] at checked
      rw [inOrder_ok, List.forall_mem_map] at checked
      have one := checked name present
      split_ifs at one with declaredName
      exact declaredName

theorem enum_means (accepted : validateValue val schema path = .ok ())
    (usable : ∀ setting, schema.lookup (textOf "enum") = some setting →
      Keyword.enum.Usable schema val setting) : Keyword.enum.Means schema val := by
  intro setting declared
  obtain ⟨members, rfl, exact_⟩ := usable setting declared
  obtain ⟨e, member, same | alike⟩ := enum_match declared accepted
  · exact ⟨members, rfl, e, member, same⟩
  · exact ⟨members, rfl, e, member, exact_ e member alike⟩

theorem validated_means (accepted : validateValue val schema path = .ok ())
    (clean : validateSchemaKeywords texts schema scanned = [])
    (usable : ∀ setting, schema.lookup (textOf keyword.text) = some setting →
      keyword.Usable schema val setting) : keyword.Means schema val := by
  by_cases isEnum : keyword = .enum
  · subst isEnum
    exact enum_means accepted usable
  · by_cases isObject : ∃ members, val = .object members
    · obtain ⟨members, rfl⟩ := isObject
      exact (object_of_validateValue accepted).means clean isEnum usable
    · intro setting declared
      have use := usable setting declared
      have self := checkSelf_of_validateValue accepted
      cases keyword with
      | type =>
        obtain ⟨name, rfl⟩ := use
        unfold checkSelf at self
        rw [inOrder_ok, show schema.lookup (textOf "type") = _ from declared] at self
        exact checkType_ok (self _ List.mem_cons_self)
      | enum => exact absurd rfl isEnum
      | limit which =>
        intro quantity limited
        obtain ⟨bound, rfl, comparable⟩ := use quantity limited
        exact ⟨bound, rfl, holds_of_checkSelf self declared limited comparable⟩
      | items =>
        obtain ⟨sub, same, -⟩ := items_of_clean clean declared
        exact ⟨sub, same⟩
      | properties =>
        obtain ⟨props, same, each⟩ := properties_of_clean clean declared
        refine ⟨props, same, fun property listed => ?_⟩
        obtain ⟨sub, shape, -⟩ := each property listed
        exact ⟨sub, shape⟩
      | required | additionalProperties =>
        intro members same
        exact absurd ⟨members, same⟩ isObject

theorem Enforced.means {root : Schema} {arguments : List (Text × Value Number)}
    (enforced : Enforced root arguments keyword schema val)
    (accepted : validateObject root path (memberChecks arguments) = .ok ())
    (clean : validateSchemaKeywords texts schema scanned = []) : keyword.Means schema val := by
  have passed := objectPassed_of_ok accepted
  -- the first step of the walk is taken by `validateObject` itself
  cases enforced.visited with
  | here =>
    have other : keyword ≠ .enum := fun isEnum => enforced.below isEnum rfl
    exact passed.means clean other enforced.usable
  | property declared listed present below =>
    obtain ⟨start, one⟩ := passed.property declared listed present
    obtain ⟨reached, validated⟩ := below.accepted one
    exact validated_means validated clean enforced.usable

end Enforcement

theorem schema_clean {registry : Registry} (valid : registry.validate texts quote = [])
    {descriptor : Descriptor} (registered : descriptor ∈ registry.entries) {root : Schema}
    (document : decodeUseNumber descriptor.schema = .ok (.object root)) :
    validateSchemaKeywords texts root "" = [] := by
  have member : descriptor ∈ registry.entries.insertionSort fun left right => left.id ≤ right.id :=
    (List.perm_insertionSort _ _).mem_iff.mpr registered
  have none_ := List.map_eq_nil_iff.mp (List.flatMap_eq_nil_iff.mp valid _ member)
  have supplied : 0 < descriptor.schema.length := by
    by_contra empty
    rw [List.length_eq_zero_iff.mp (Nat.eq_zero_of_not_pos empty)] at document
    cases document
  have last := (List.append_eq_nil_iff.mp none_).2
  rw [if_pos supplied, List.map_eq_nil_iff, validateSchemaDocument, document] at last
  exact last

/-- For a registry that `Validate` accepts, one of its schemas and arguments accepted for it: every
schema a value meets uses supported keywords only, and all of them are satisfied at every depth exactly
if those that are not enforced are. -/
theorem arguments_satisfy_schema_iff (texts : ErrorTexts) (quote : Str → Str) (registry : Registry)
    (valid : registry.validate texts quote = []) (descriptor : Descriptor)
    (registered : descriptor ∈ registry.entries) (args : RawMessage) (root : Schema)
    (arguments : List (Text × Value Number))
    (document : decodeUseNumber descriptor.schema = .ok (.object root))
    (decoded : decodeUseNumber (if args.length = 0 then [123, 125] else args) =
      .ok (.object arguments))
    (accepted : validateArguments texts descriptor.schema args = .ok ()) :
    (∀ schema val, Meets root (.object arguments) schema val →
      ∀ name ∈ schema.map Prod.fst, isSupportedKeyword name = true) ∧
    ((∀ schema val, Meets root (.object arguments) schema val → ∀ keyword : Keyword,
        keyword.Means schema val) ↔
      ∀ schema val, Meets root (.object arguments) schema val → ∀ keyword : Keyword,
        ¬ Enforced root arguments keyword schema val → keyword.Means schema val) := by
  have clean := schema_clean valid registered document
  have validated : validateObject root "" (memberChecks arguments) = .ok () := by
    unfold validateArguments at accepted
    rw [document, decoded] at accepted
    split_ifs at accepted with empty
    · rw [List.length_eq_zero_iff.mp empty] at document
      cases document
    · exact accepted
  refine ⟨?_, ?_, ?_⟩
  · intro schema val meets name member
    obtain ⟨_, innerClean⟩ := meets.clean clean
    exact supported_of_clean innerClean member
  · intro satisfied schema val meets keyword _
    exact satisfied schema val meets keyword
  · intro unenforced schema val meets keyword
    by_cases enforced : Enforced root arguments keyword schema val
    · obtain ⟨_, innerClean⟩ := meets.clean clean
      exact enforced.means validated innerClean
    · exact unenforced schema val meets keyword enforced

def sampleDescriptor (schema : Schema) : Descriptor where
  id := str "sample.read"
  descriptorVersion := 1
  policyRevision := []
  executionClass := .known .read
  assuranceProfile := .known .standard
  executionRoute := .known .direct
  schema := Utf8.encode (Value.object schema).text
  authorityPolicy := ⟨[], false, .empty⟩
  adapterID := str "sample"

def sampleMessages : ErrorTexts := ⟨id, fun _ => "malformed"⟩

def sampleRegistry (schema : Schema) : Registry :=
  ⟨[sampleDescriptor schema], List.nodup_singleton _⟩

theorem sampleRegistry_valid
    (document : decodeUseNumber (sampleDescriptor schema).schema = .ok (.object schema))
    (clean : validateSchemaKeywords texts schema "" = []) :
    (sampleRegistry schema).validate texts quote = [] := by
  have scanned : validateSchemaDocument texts (sampleDescriptor schema).schema = [] := by
    rw [validateSchemaDocument, document]
    exact clean
  have none_ : Registry.findings texts quote (sampleDescriptor schema) = [] := by
    unfold Registry.findings
    rw [scanned]
    rw [List.map_nil, ite_self, List.append_nil]
    rfl
  show List.flatMap _ [sampleDescriptor schema] = []
  rw [List.flatMap_singleton, none_, List.map_nil]

/-- `{"required":["x"]}` -/
def sampleRequired : Schema := [(textOf "required", .array [.string (textOf "x")])]

/-- `{"additionalProperties":false}` -/
def sampleClosed : Schema := [(textOf "additionalProperties", .bool false)]

/-- `{"x":null}` -/
def sampleMember : List (Text × Value Number) := [(textOf "x", .null)]

/-- The bytes of `sampleMember`. -/
def sampleArguments : RawMessage := Utf8.encode (Value.object sampleMember).text

theorem sampleArguments_decoded :
    decodeUseNumber (if sampleArguments.length = 0 then [123, 125] else sampleArguments) =
      .ok (.object sampleMember) := by
  rw [if_neg (by decide)]
  exact decodeUseNumber_text (Value.within_iff.mpr ⟨by decide, by decide⟩)

theorem sampleArguments_accepted {schema : Schema}
    (document : decodeUseNumber (sampleDescriptor schema).schema = .ok (.object schema))
    (passed : validateObject schema "" (memberChecks sampleMember) = .ok ()) :
    validateArguments texts (sampleDescriptor schema).schema sampleArguments = .ok () := by
  have supplied : (sampleDescriptor schema).schema.length ≠ 0 := by
    intro empty
    rw [List.length_eq_zero_iff.mp empty] at document
    cases document
  unfold validateArguments
  rw [if_neg supplied, document]
  rw [sampleArguments_decoded]
  exact passed

/-- A required member is enforced: accepted arguments have it. -/
theorem arguments_satisfy_schema_run :
    validateArguments sampleMessages (sampleDescriptor sampleRequired).schema sampleArguments =
        .ok () ∧
      ∀ schema val, Meets sampleRequired (.object sampleMember) schema val →
        ∀ keyword : Keyword, keyword.Means schema val := by
  have document : decodeUseNumber (sampleDescriptor sampleRequired).schema =
    .ok (.object sampleRequired) :=
      decodeUseNumber_text (Value.within_iff.mpr ⟨by decide, by decide⟩)
  have accepted := @sampleArguments_accepted sampleMessages _ document rfl
  refine ⟨accepted, ?_⟩
  have law := arguments_satisfy_schema_iff sampleMessages id (sampleRegistry sampleRequired)
    (sampleRegistry_valid document rfl) _ List.mem_cons_self _ _ _ document sampleArguments_decoded
    accepted
  apply law.2.mpr
  intro schema val meets keyword unenforced
  -- the document is the only place, and `required` its only keyword
  cases meets with
  | here =>
    by_cases other : keyword = .required
    · subst other
      refine absurd ⟨.here _ _, nofun, ?_⟩ unenforced
      rintro setting declared
      cases declared
      exact ⟨_, rfl, fun r listed => ⟨_, List.mem_singleton.mp listed⟩⟩
    · intro setting declared
      cases keyword with
      | required => exact absurd rfl other
      | limit which => cases which <;> cases declared
      | _ => cases declared
  | property declared | additional declared => cases declared

/-- `additionalProperties` is false and no property is declared: any member is accepted. -/
theorem closed_schema_accepts_member :
    (sampleRegistry sampleClosed).validate sampleMessages id = [] ∧
      decodeUseNumber (sampleDescriptor sampleClosed).schema = .ok (.object sampleClosed) ∧
      validateArguments sampleMessages (sampleDescriptor sampleClosed).schema sampleArguments =
        .ok () ∧
      Meets sampleClosed (.object sampleMember) sampleClosed (.object sampleMember) ∧
      ¬ Keyword.additionalProperties.Means sampleClosed (.object sampleMember) := by
  have document : decodeUseNumber (sampleDescriptor sampleClosed).schema =
    .ok (.object sampleClosed) :=
      decodeUseNumber_text (Value.within_iff.mpr ⟨by decide, by decide⟩)
  refine ⟨sampleRegistry_valid document rfl, document, sampleArguments_accepted document rfl,
    .here _ _, ?_⟩
  intro satisfied
  rcases satisfied _ rfl _ rfl with always | ⟨sub, object⟩ | ⟨-, declares⟩
  · cases always
  · cases object
  · obtain ⟨props, declared, -⟩ := declares (textOf "x") List.mem_cons_self
    cases declared

end Crabedence.Capability
