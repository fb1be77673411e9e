import Crabedence.Digest.Canonical

/-!
# Request digests

`ComputeDigest` and its from-raw variants hash the canonical JSON of a request.  The hash is a
parameter, so the bytes that are hashed are the digest under the identity.  Go strings are byte
strings here: the encoder writes a byte that is no UTF-8 as the replacement character, so requests
are told apart by the runes of their fields.
-/

namespace Crabedence

open Json Utf8

/-- The fields of `DigestInput`, over the type of its strings and the form of its arguments: raw
JSON for the from-raw variants, a Go map for `ComputeDigest`. -/
structure BoundRequest (S A : Type) where
  protocolVersion : Int
  principal : S
  capability : S
  arguments : A
  grantID : S
  executionClass : S
  authorityGeneration : Int
  authorityDigest : S
  assuranceProfile : S
  executionRoute : S
  descriptorVersion : Int
  descriptorDigest : S

/-- The members of the canonical input, in the order they are set. -/
inductive BoundField where
  | protocolVersion | principal | capability | arguments | grantID | executionClass
  | authorityGeneration | authorityDigest | assuranceProfile | executionRoute
  | descriptorVersion | descriptorDigest
deriving DecidableEq

namespace BoundField

def all : List BoundField :=
  [protocolVersion, principal, capability, arguments, grantID, executionClass, authorityGeneration,
    authorityDigest, assuranceProfile, executionRoute, descriptorVersion, descriptorDigest]

def name : BoundField → String
  | protocolVersion => "protocol_version"
  | principal => "principal"
  | capability => "capability"
  | arguments => "arguments"
  | grantID => "grant_id"
  | executionClass => "execution_class"
  | authorityGeneration => "authority_generation"
  | authorityDigest => "authority_digest"
  | assuranceProfile => "assurance_profile"
  | executionRoute => "execution_route"
  | descriptorVersion => "descriptor_version"
  | descriptorDigest => "descriptor_digest"

def key (field : BoundField) : Text := field.name.toList.map some

theorem mem_all (field : BoundField) : field ∈ all := by
  cases field <;> decide

theorem key_injective : Function.Injective key := by
  intro field other same
  cases field <;> cases other <;> first | rfl | exact absurd same (by decide)

end BoundField

/-- A Go `map[string]any`, nil or not. -/
abbrev GoMap := Option (List (Text × Value Leaf))

def GoMap.value : GoMap → Value Leaf
  | none => .null
  | some members => .object members

def GoMap.ofValue {N : Type} (leaf : N → Leaf) (value : Value N) : GoMap :=
  match value.map leaf with
  | .object members => some members
  | _ => none

namespace BoundRequest

variable {A N : Type}

def optionalNumber (number : Int → N) (value : Int) : Option (Value N) :=
  if value ≠ 0 then some (.number (number value)) else none

def optionalString (value : GoString) : Option (Value N) :=
  if value ≠ [] then some (.string (Utf8.decode value)) else none

/-- The members of the canonical input. -/
def member (number : Int → N) (request : BoundRequest GoString A) (arguments : Value N) :
    BoundField → Option (Value N)
  | .protocolVersion => some (.number (number request.protocolVersion))
  | .principal => some (.string (Utf8.decode request.principal))
  | .capability => some (.string (Utf8.decode request.capability))
  | .arguments => some arguments
  | .grantID => some (.string (Utf8.decode request.grantID))
  | .executionClass => some (.string (Utf8.decode request.executionClass))
  | .authorityGeneration => optionalNumber number request.authorityGeneration
  | .authorityDigest => optionalString request.authorityDigest
  | .assuranceProfile => optionalString request.assuranceProfile
  | .executionRoute => optionalString request.executionRoute
  | .descriptorVersion => optionalNumber number request.descriptorVersion
  | .descriptorDigest => optionalString request.descriptorDigest

def canonicalInput (number : Int → N) (request : BoundRequest GoString A) (arguments : Value N) :
    Value N :=
  .object (gather (presentMembers BoundField.key BoundField.all (request.member number arguments)))

end BoundRequest

section Digests

variable {D : Type} (hash : List UInt8 → D) (texts : ErrorTexts)

def computeDigest (input : BoundRequest GoString GoMap) : Except String D := do
  let args ← (normalizeNumbers texts input.arguments.value).mapError fun failure =>
    "failed to canonicalize digest input: " ++ failure
  return hash (marshal (input.canonicalInput integerText args))

/-- Decoding into `map[string]any`: null gives the nil map, any other value but an object fails. -/
def decodeMap (input : List Rune) : Except DecodeError (Value Number × List Rune) := do
  let (document, rest) ← decodeValue input
  match document.collect with
  | .null => return (.null, rest)
  | .object members => return (.object members, rest)
  | _ => throw .mismatch

variable (input : BoundRequest GoString RawMessage)

def computeDigestFromRaw : Except String D := do
  let (argsMap, rest) ← (decodeMap (Utf8.decode input.arguments)).mapError fun failure =>
    "failed to parse arguments: " ++ texts.describe failure
  (requireEOF rest).mapError fun failure => "failed to parse arguments: " ++ texts.describe failure
  let normalized ← (normalizeNumbers texts
    (argsMap.map fun number => Leaf.number number.text)).mapError fun failure =>
      "failed to canonicalize arguments: " ++ failure
  computeDigest hash texts { input with arguments := GoMap.ofValue Leaf.number normalized }

def computeDigestFromRawWithDescriptor :
    Except String D :=
  computeDigestFromRaw hash texts input

def computeDigestFromRawWithAuthority :
    Except String D :=
  computeDigestFromRaw hash texts { input with descriptorVersion := 0, descriptorDigest := [] }

/-- `ComputeDigestFromRaw`, which binds none of the optional fields. -/
def computeDigestFromRawUnbound : Except String D :=
  computeDigestFromRawWithAuthority hash texts { input with
    authorityGeneration := 0, authorityDigest := [], assuranceProfile := [], executionRoute := [] }

end Digests

def DecodesArguments (raw : RawMessage) (arguments : Value Number) : Prop :=
  Decodes raw arguments ∧ (arguments = .null ∨ ∃ members, arguments = .object members)

namespace BoundRequest

variable {A : Type}

/-- The request with every string replaced. -/
def map {S T : Type} (f : S → T) (request : BoundRequest S A) : BoundRequest T A where
  protocolVersion := request.protocolVersion
  principal := f request.principal
  capability := f request.capability
  arguments := request.arguments
  grantID := f request.grantID
  executionClass := f request.executionClass
  authorityGeneration := request.authorityGeneration
  authorityDigest := f request.authorityDigest
  assuranceProfile := f request.assuranceProfile
  executionRoute := f request.executionRoute
  descriptorVersion := request.descriptorVersion
  descriptorDigest := f request.descriptorDigest

def fields {S : Type} (request : BoundRequest S A) : BoundRequest S Unit :=
  { request with arguments := () }

def runes (request : BoundRequest GoString A) : BoundRequest Text Unit :=
  (request.map Utf8.decode).fields

theorem optionalNumber_eq_iff (value other : Int) :
    optionalNumber Number.ofInt value = optionalNumber Number.ofInt other ↔ value = other := by
  constructor
  · intro same
    unfold optionalNumber at same
    split_ifs at same with present second second
    · exact Number.ofInt_injective (Value.number.inj (Option.some.inj same))
    · omega
  · rintro rfl
    rfl

theorem decode_eq_nil_iff (text : GoString) : Utf8.decode text = [] ↔ text = [] := by
  cases text with
  | nil => exact ⟨fun _ => rfl, fun _ => rfl⟩
  | cons byte rest =>
    constructor
    · intro empty
      unfold Utf8.decode decodeFrom at empty
      split at empty <;> cases empty
    · intro empty
      cases empty

theorem optionalString_eq_iff (value other : GoString) :
    (optionalString value : Option (Value Number)) = optionalString other ↔
      Utf8.decode value = Utf8.decode other := by
  unfold optionalString
  by_cases first : value = []
  · by_cases second : other = []
    · simp [first, second]
    · have decoded : Utf8.decode other ≠ [] := fun empty => second ((decode_eq_nil_iff other).mp empty)
      simp only [first, second, ne_eq, not_true_eq_false, not_false_eq_true, ↓reduceIte, reduceCtorEq,
        false_iff]
      exact fun same => decoded same.symm
  · by_cases second : other = []
    · have decoded : Utf8.decode value ≠ [] := fun empty => first ((decode_eq_nil_iff value).mp empty)
      simp only [first, second, ne_eq, not_true_eq_false, not_false_eq_true, ↓reduceIte, reduceCtorEq,
        false_iff]
      exact decoded
    · simp [first, second]

theorem canonicalInput_eq_iff (first second : BoundRequest GoString A)
    (arguments others : Value Number) :
    first.canonicalInput Number.ofInt arguments = second.canonicalInput Number.ofInt others ↔
      first.runes = second.runes ∧ arguments = others := by
  unfold canonicalInput
  rw [Value.object_present_eq_iff BoundField.key_injective BoundField.mem_all]
  simp only [runes, map, fields, mk.injEq]
  constructor
  · intro same
    have number := fun value other => (optionalNumber_eq_iff value other).mp
    have string := fun value other => (optionalString_eq_iff value other).mp
    refine ⟨⟨?_, ?_, ?_, trivial, ?_, ?_, number _ _ (same .authorityGeneration),
      string _ _ (same .authorityDigest), string _ _ (same .assuranceProfile),
      string _ _ (same .executionRoute), number _ _ (same .descriptorVersion),
      string _ _ (same .descriptorDigest)⟩, Option.some.inj (same .arguments)⟩
    · exact Number.ofInt_injective (Value.number.inj (Option.some.inj (same .protocolVersion)))
    · exact Value.string.inj (Option.some.inj (same .principal))
    · exact Value.string.inj (Option.some.inj (same .capability))
    · exact Value.string.inj (Option.some.inj (same .grantID))
    · exact Value.string.inj (Option.some.inj (same .executionClass))
  · rintro ⟨⟨protocol, principal, capability, -, grant, execution, generation, authority, profile,
      route, version, descriptor⟩, rfl⟩ field
    cases field with
    | protocolVersion => exact congrArg (fun value => some (Value.number (Number.ofInt value))) protocol
    | principal => exact congrArg (fun text => some (Value.string text)) principal
    | capability => exact congrArg (fun text => some (Value.string text)) capability
    | arguments => rfl
    | grantID => exact congrArg (fun text => some (Value.string text)) grant
    | executionClass => exact congrArg (fun text => some (Value.string text)) execution
    | authorityGeneration => exact (optionalNumber_eq_iff _ _).mpr generation
    | authorityDigest => exact (optionalString_eq_iff _ _).mpr authority
    | assuranceProfile => exact (optionalString_eq_iff _ _).mpr profile
    | executionRoute => exact (optionalString_eq_iff _ _).mpr route
    | descriptorVersion => exact (optionalNumber_eq_iff _ _).mpr version
    | descriptorDigest => exact (optionalString_eq_iff _ _).mpr descriptor

theorem canonicalInput_map (request : BoundRequest GoString A) (arguments : Value Number) :
    request.canonicalInput integerText (arguments.map Number.text) =
      (request.canonicalInput Number.ofInt arguments).map Number.text := by
  have members : presentMembers BoundField.key BoundField.all
      (request.member integerText (arguments.map Number.text)) =
        (presentMembers BoundField.key BoundField.all (request.member Number.ofInt arguments)).map
          fun member => (member.1, member.2.map Number.text) := by
    unfold presentMembers
    rw [List.map_filterMap]
    apply List.filterMap_congr
    intro field _
    have number : ∀ value, (optionalNumber Number.ofInt value).map (Value.map Number.text) =
        optionalNumber integerText value := by
      intro value
      unfold optionalNumber
      split_ifs <;> simp [Number.text_ofInt]
    have string : ∀ value, ((optionalString value : Option (Value Number)).map
        (Value.map Number.text)) = optionalString value := by
      intro value
      unfold optionalString
      split_ifs <;> rfl
    have moved : request.member integerText (arguments.map Number.text) field =
        (request.member Number.ofInt arguments field).map (Value.map Number.text) := by
      cases field <;> simp [member, number, string, Number.text_ofInt]
    rw [moved]
    simp [Function.comp_def]
  rw [canonicalInput, members, gather_map, canonicalInput, Value.map_object]

end BoundRequest

theorem normalizeNumbers_decoded (texts : ErrorTexts) (value : Value Number) :
    normalizeNumbers texts (value.map fun number => Leaf.number number.text) =
      .ok ((value.map Number.normalize).map Number.text) := by
  rw [normalizeNumbers, normalizeWith_map, ← normalizeWith_decoded texts]
  rfl

variable {D N : Type} {arguments : Value Number} {value : Value N}

theorem computeDigest_decoded (hash : List UInt8 → D) (texts : ErrorTexts)
    (input : BoundRequest GoString GoMap)
    (holds : input.arguments.value = arguments.map fun number => Leaf.number number.text) :
    computeDigest hash texts input =
      .ok (hash (Utf8.encode
        (input.canonicalInput Number.ofInt (arguments.map Number.normalize)).text)) := by
  rw [computeDigest, holds, normalizeNumbers_decoded]
  show Except.ok (hash (marshal (input.canonicalInput integerText
    ((arguments.map Number.normalize).map Number.text)))) = _
  rw [BoundRequest.canonicalInput_map]
  rfl

def goArguments (arguments : Value Number) : GoMap :=
  GoMap.ofValue (fun number : Number => Leaf.number number.text) arguments

theorem GoMap.value_ofValue (leaf : N → Leaf)
    (map : value = .null ∨ ∃ members, value = .object members) :
    (GoMap.ofValue leaf value).value = value.map leaf := by
  rcases map with rfl | ⟨members, rfl⟩
  · rfl
  · rw [GoMap.ofValue, Value.map_object]
    rfl

theorem map_isMap {M : Type} (f : N → M) (map : value = .null ∨ ∃ members, value = .object members) :
    value.map f = .null ∨ ∃ members, value.map f = .object members := by
  rcases map with rfl | ⟨members, rfl⟩
  · exact .inl rfl
  · exact .inr ⟨_, Value.map_object f members⟩

theorem decodeMap_ok {input rest : List Rune} {document : Value Number}
    (read : decodeValue input = .ok (document, rest))
    (map : document.collect = .null ∨ ∃ members, document.collect = .object members) :
    decodeMap input = .ok (document.collect, rest) := by
  rw [decodeMap, read]
  dsimp only [bind, Except.bind]
  rcases map with null | ⟨members, object⟩
  · rw [null]
    rfl
  · rw [object]
    rfl

theorem computeDigestFromRaw_decoded (hash : List UInt8 → D) (texts : ErrorTexts)
    (input : BoundRequest GoString RawMessage)
    (decodes : DecodesArguments input.arguments arguments) : computeDigestFromRaw hash texts input =
      .ok (hash (Utf8.encode
        (input.canonicalInput Number.ofInt (arguments.map Number.normalize)).text)) := by
  obtain ⟨⟨document, rest, read, ended, rfl⟩, map⟩ := decodes
  have again : ((document.collect.map Number.normalize).map Number.normalize) =
      document.collect.map Number.normalize := by
    rw [Value.map_map]
    exact congrArg (fun f => document.collect.map f) (funext normalize_normalize)
  -- the arguments are normalised a second time, which changes nothing
  have holds : (GoMap.ofValue Leaf.number
      ((document.collect.map Number.normalize).map Number.text)).value =
        (document.collect.map Number.normalize).map fun number => Leaf.number number.text := by
    rw [GoMap.value_ofValue _ (map_isMap _ (map_isMap _ map)), Value.map_map]
    rfl
  have digest := computeDigest_decoded hash texts { input with arguments := _ } holds
  rw [again] at digest
  rw [computeDigestFromRaw, decodeMap_ok read map]
  dsimp only [Except.mapError, bind, Except.bind]
  rw [ended]
  rw [normalizeNumbers_decoded]
  exact digest

theorem decodesArguments_of_digest {hash : List UInt8 → D} {texts : ErrorTexts}
    {input : BoundRequest GoString RawMessage} {digest : D}
    (accepted : computeDigestFromRaw hash texts input = .ok digest) :
    ∃ arguments, DecodesArguments input.arguments arguments := by
  obtain ⟨result, mapped, accepted⟩ := Checks.bind_ok_iff.mp accepted
  obtain ⟨_, ended, _⟩ := Checks.bind_ok_iff.mp accepted
  obtain ⟨⟨document, rest⟩, read, mapped⟩ :=
    Checks.bind_ok_iff.mp (Checks.mapError_ok_iff.mp mapped)
  dsimp only at mapped
  have map : result.2 = rest ∧
      (document.collect = .null ∨ ∃ members, document.collect = .object members) := by
    cases shape : document.collect with
    | null =>
      rw [shape] at mapped
      cases mapped
      exact ⟨rfl, .inl rfl⟩
    | object members =>
      rw [shape] at mapped
      cases mapped
      exact ⟨rfl, .inr ⟨members, rfl⟩⟩
    | bool value | number value | string text | array items =>
      rw [shape] at mapped
      cases mapped
  exact ⟨document.collect, ⟨document, rest, read, map.1 ▸ Checks.mapError_ok_iff.mp ended, rfl⟩,
    map.2⟩

theorem runes_text_eq_iff (first second : BoundRequest (List Char) RawMessage) :
    (first.map Utf8.encode).runes = (second.map Utf8.encode).runes ↔
      first.fields = second.fields := by
  have some_inj : Function.Injective (List.map (some : Char → Rune)) :=
    List.map_injective_iff.mpr fun _ _ => Option.some.inj
  simp only [BoundRequest.runes, BoundRequest.map, BoundRequest.fields, Utf8.decode_encode,
    BoundRequest.mk.injEq, some_inj.eq_iff]

theorem computeDigestFromRaw_eq_iff (texts : ErrorTexts)
    {first second : BoundRequest GoString RawMessage} {others : Value Number}
    (decodes : DecodesArguments first.arguments arguments)
    (again : DecodesArguments second.arguments others) :
    computeDigestFromRaw id texts first = computeDigestFromRaw id texts second ↔
      first.runes = second.runes ∧ arguments.map Number.value = others.map Number.value := by
  rw [computeDigestFromRaw_decoded id texts first decodes,
    computeDigestFromRaw_decoded id texts second again, Except.ok.injEq,
    ← Value.map_eq_map_iff Number.normalize_eq_iff, ← BoundRequest.canonicalInput_eq_iff]
  exact ⟨fun same => Value.text_injective (Utf8.encode_injective same), fun same => by rw [same]⟩

def BoundRequest.Unbound {A : Type} (request : BoundRequest GoString A) : Prop :=
  request.authorityGeneration = 0 ∧ request.authorityDigest = [] ∧ request.assuranceProfile = [] ∧
    request.executionRoute = [] ∧ request.descriptorVersion = 0 ∧ request.descriptorDigest = []

/-- The bytes the digests hash exist exactly for arguments that decode into a map; they are equal
exactly if the bound fields agree rune by rune and the arguments denote the same value, and so for
fields that are text exactly if the fields are equal; `ComputeDigest` on the decoded arguments
hashes the same bytes; and all variants do when the optional fields are zero. -/
theorem request_bytes_eq_iff (texts : ErrorTexts) :
    (∀ request : BoundRequest GoString RawMessage,
      (∃ bytes, computeDigestFromRaw id texts request = .ok bytes) ↔
        ∃ arguments, DecodesArguments request.arguments arguments) ∧
    (∀ (first second : BoundRequest GoString RawMessage) (arguments others : Value Number),
      DecodesArguments first.arguments arguments → DecodesArguments second.arguments others →
      (computeDigestFromRaw id texts first = computeDigestFromRaw id texts second ↔
        first.runes = second.runes ∧ arguments.map Number.value = others.map Number.value)) ∧
    (∀ (first second : BoundRequest (List Char) RawMessage) (arguments others : Value Number),
      DecodesArguments first.arguments arguments → DecodesArguments second.arguments others →
      (computeDigestFromRaw id texts (first.map Utf8.encode) =
          computeDigestFromRaw id texts (second.map Utf8.encode) ↔
        first.fields = second.fields ∧
          arguments.map Number.value = others.map Number.value)) ∧
    (∀ (request : BoundRequest GoString RawMessage) (arguments : Value Number),
      DecodesArguments request.arguments arguments →
      computeDigest id texts { request with arguments := goArguments arguments } =
        computeDigestFromRaw id texts request) ∧
    ∀ request : BoundRequest GoString RawMessage, request.Unbound →
      computeDigestFromRawUnbound id texts request = computeDigestFromRaw id texts request ∧
      computeDigestFromRawWithAuthority id texts request = computeDigestFromRaw id texts request ∧
      computeDigestFromRawWithDescriptor id texts request =
        computeDigestFromRaw id texts request := by
  refine ⟨fun request => ⟨?_, ?_⟩, ?_, ?_, ?_, ?_⟩
  · rintro ⟨bytes, accepted⟩
    exact decodesArguments_of_digest accepted
  · rintro ⟨arguments, decodes⟩
    exact ⟨_, computeDigestFromRaw_decoded id texts request decodes⟩
  · intro first second arguments others decodes again
    exact computeDigestFromRaw_eq_iff texts decodes again
  · intro first second arguments others decodes again
    rw [← runes_text_eq_iff]
    exact computeDigestFromRaw_eq_iff texts decodes again
  · intro request arguments decodes
    rw [computeDigestFromRaw_decoded id texts request decodes]
    exact computeDigest_decoded id texts _ (GoMap.value_ofValue _ decodes.2)
  · rintro ⟨_, _, _, _, _, _, _, _, _, _, _, _⟩ ⟨rfl, rfl, rfl, rfl, rfl, rfl⟩
    exact ⟨rfl, rfl, rfl⟩

def sampleBound {S : Type} (empty principal : S) (arguments : RawMessage) :
    BoundRequest S RawMessage :=
  ⟨1, principal, empty, arguments, empty, empty, 0, empty, empty, empty, 0, empty⟩

def sampleTexts : ErrorTexts := ⟨id, fun _ => "invalid"⟩

/-- Two principals that are no UTF-8 give the same bytes. -/
theorem principals_collide :
    computeDigestFromRaw id sampleTexts (sampleBound [] [0xff] [123, 125]) =
        computeDigestFromRaw id sampleTexts (sampleBound [] [0xfe] [123, 125]) ∧
      (∃ bytes, computeDigestFromRaw id sampleTexts (sampleBound [] [0xff] [123, 125]) = .ok bytes) ∧
      (sampleBound [] [0xff] [123, 125]).fields ≠ (sampleBound [] [0xfe] [123, 125]).fields := by
  refine ⟨rfl, ⟨_, rfl⟩, ?_⟩
  intro same
  exact absurd (congrArg BoundRequest.principal same) (by decide)

/-- The literals `10` and `1E1`. -/
def sampleTen : Number := ⟨false, "10".toList, by decide, by decide, by decide, [], digits_nil, none⟩

def sampleTenE : Number :=
  ⟨false, ['1'], by decide, by decide, by decide, [], digits_nil,
    some ⟨true, none, ['1'], by decide, by decide⟩⟩

def sampleArguments (number : Number) : Value Number := .object [([some 'a'], .number number)]

theorem sampleArguments_decode (number : Number) :
    DecodesArguments (Utf8.encode (sampleArguments number).text) (sampleArguments number) := by
  refine ⟨decodes_text (Value.Within.object ?_ ?_) rfl, .inr ⟨_, rfl⟩⟩
  · intro member held
    rw [List.mem_singleton.mp held]
    exact .inr (by simp)
  · intro member held
    rw [List.mem_singleton.mp held]
    exact .number _ number

def sampleCall (principal : Char) (number : Number) : BoundRequest (List Char) RawMessage :=
  sampleBound [] [principal] (Utf8.encode (sampleArguments number).text)

/-- Two spellings of one number give the same bytes, and two principals do not. -/
theorem request_bytes_eq_iff_sample :
    computeDigestFromRaw id sampleTexts ((sampleCall 'p' sampleTen).map Utf8.encode) =
        computeDigestFromRaw id sampleTexts ((sampleCall 'p' sampleTenE).map Utf8.encode) ∧
      computeDigestFromRaw id sampleTexts ((sampleCall 'p' sampleTen).map Utf8.encode) ≠
        computeDigestFromRaw id sampleTexts ((sampleCall 'q' sampleTen).map Utf8.encode) := by
  have law := fun first second number other => (request_bytes_eq_iff sampleTexts).2.2.1
    (sampleCall first number) (sampleCall second other) _ _ (sampleArguments_decode number)
    (sampleArguments_decode other)
  have equal : sampleTen.value = sampleTenE.value := by decide +kernel
  constructor
  · refine (law 'p' 'p' sampleTen sampleTenE).mpr ⟨rfl, ?_⟩
    rw [sampleArguments, sampleArguments, Value.map_object, Value.map_object]
    simp [equal]
  · intro same
    have fields := ((law 'p' 'q' sampleTen sampleTen).mp same).1
    exact absurd (congrArg BoundRequest.principal fields) (by decide)

end Crabedence
