import Mathlib.Data.List.Find
import Crabedence.Properties.AbiScanners
import Crabedence.Script.Interchange

/-!
# Agreement of the three invocation validators

Each validator accepts a byte string exactly if it holds one document that is a request; they differ
in which strings they can decode, in which keys they tell apart and in what becomes of a byte-order
mark.
-/

namespace Crabedence.Abi

open Json Utf8

section Strings

def Paired (tree : Written) : Prop :=
  tree.Holds (fun _ => True) fun pieces => (paired pieces).isSome

/-- Where every surrogate is paired the three languages read the same characters. -/
theorem paired_spec {pieces : List Piece} {text : List Char} (coded : Coded pieces)
    (read : paired pieces = some text) : pieces.flatMap Script.units = Utf16.encode text ∧
      assemble replacementCharacter pieces = text.map some := by
  have points : Utf16.decode (pieces.flatMap Script.units) = text.map .char := by
    have tail {piece : Piece} {pieces : List Piece} (coded : Coded (piece :: pieces)) :
        Coded pieces := fun code held => coded code (List.mem_cons_of_mem _ held)
    obtain ⟨bound, short⟩ : ∃ bound, pieces.length ≤ bound := ⟨_, le_rfl⟩
    induction bound generalizing pieces text with
    | zero =>
      rw [List.length_eq_zero_iff.mp (Nat.le_zero.mp short)] at read ⊢
      cases read
      rfl
    | succ bound ih =>
      rw [paired.eq_def] at read
      split at read
      · cases read
        rfl
      · cases read
      · obtain ⟨others, further, rfl⟩ := Option.map_eq_some_iff.mp read
        rw [List.flatMap_cons, Script.units, Utf16.decode_encodeChar,
          ih (tail coded) further (Nat.le_of_succ_le_succ short)]
        rfl
      · split_ifs at read with surrogate
        · split at read
          · split at read
            · rename_i joined
              obtain ⟨others, further, rfl⟩ := Option.map_eq_some_iff.mp read
              simp only [List.length_cons] at short
              rw [Script.flatMap_unit, Script.flatMap_unit, Script.decode_pair joined,
                ih (tail (tail coded)) further (by omega)]
              rfl
            · cases read
          · cases read
        · obtain ⟨others, further, rfl⟩ := Option.map_eq_some_iff.mp read
          rw [Script.flatMap_unit, Script.decode_basic (coded _ List.mem_cons_self) surrogate,
            ih (tail coded) further (Nat.le_of_succ_le_succ short)]
          rfl
  refine ⟨Utf16.eq_encode points, ?_⟩
  rw [show replacementCharacter = some '\uFFFD' from rfl, Script.assemble_units coded, points,
    List.map_map]
  rfl

end Strings

variable {tree : Written} {members : List (List Piece × Written)}

section Go

theorem noRepeats_toValue (tree : Written) : (tree.toValue replacementCharacter).NoRepeats ↔
      (tree.map id (assemble replacementCharacter)).Distinct := by
  induction tree using Node.induct with
  | null => exact ⟨fun _ => .null, fun _ => trivial⟩
  | bool value => exact ⟨fun _ => .bool value, fun _ => trivial⟩
  | number value => exact ⟨fun _ => .number value, fun _ => trivial⟩
  | string text => exact ⟨fun _ => .string _, fun _ => trivial⟩
  | array items ih =>
    rw [Node.toValue_array, Value.noRepeats_array, Node.map_array, List.forall_mem_map]
    constructor
    · intro each
      refine .array (List.forall_mem_map.mpr fun item held => (ih item held).mp (each item held))
    · rintro (_ | _ | _ | _ | each | _) item held
      exact (ih item held).mpr (each _ (List.mem_map_of_mem held))
  | object members ih =>
    have keys : (members.map fun member => (assemble replacementCharacter member.1,
        member.2.toValue replacementCharacter)).map Prod.fst =
        (members.map fun member => (assemble replacementCharacter member.1,
          member.2.map id (assemble replacementCharacter))).map Prod.fst := by
      rw [List.map_map, List.map_map]
      rfl
    rw [Node.toValue_object, Value.noRepeats_object, Node.map_object, List.forall_mem_map, keys]
    constructor
    · rintro ⟨nodup, each⟩
      exact .object nodup (List.forall_mem_map.mpr fun member held =>
        (ih member held).mp (each member held))
    · rintro (_ | _ | _ | _ | _ | ⟨nodup, each⟩)
      exact ⟨nodup, fun member held =>
        (ih member held).mpr (each _ (List.mem_map.mpr ⟨member, held, rfl⟩))⟩

theorem fits_iff_admits {type : AbiFieldType} :
    Fits type tree ↔ type.Admits (tree.toValue replacementCharacter) := by
  cases tree with
  | array items =>
    rw [Node.toValue_array]
    cases type <;> simp [Fits, AbiFieldType.Admits]
  | object members =>
    rw [Node.toValue_object]
    cases type <;> simp [Fits, AbiFieldType.Admits]
  | _ => cases type <;> simp [Fits, AbiFieldType.Admits, Node.toValue, Node.fold]

def goMembers (members : List (List Piece × Written)) : List (Text × Value Number) :=
  members.map fun member =>
    (assemble replacementCharacter member.1, member.2.toValue replacementCharacter)

def goDialect : Dialect Text where
  text := fun pieces => some (assemble replacementCharacter pieces)
  constant := nameText
  shown := textString
  quoted := textString

theorem describes_go {fields : AbiFields} :
    fields.Describe (goMembers members) ↔ Describes goDialect fields members := by
  refine List.forall_mem_map.trans (forall₂_congr fun member _ => ?_)
  constructor
  · rintro ⟨type, declared, admits⟩
    exact ⟨_, type, rfl, declared, fits_iff_admits.mpr admits⟩
  · rintro ⟨_, type, ⟨⟩, declared, fits⟩
    exact ⟨type, declared, fits_iff_admits.mp fits⟩

theorem object_of_toValue {values : List (Text × Value Number)}
    (value : tree.toValue replacementCharacter = .object values) :
    ∃ members, tree = .object members ∧ goMembers members = values := by
  cases tree with
  | object members =>
    rw [Node.toValue_object] at value
    exact ⟨members, rfl, Value.object.inj value⟩
  | array items =>
    rw [Node.toValue_array] at value
    cases value
  | _ => cases value

theorem document_iff (coded : (Node.object members).Holds (fun _ => True) Coded)
    (shallow : (Node.object members).depth ≤ maxInvocationDepth) :
    InvocationDocument (goMembers members) ↔ IsRequest goDialect members := by
  have value : Value.object (goMembers members) =
      (Node.object members).toValue replacementCharacter := (Node.toValue_object _ members).symm
  have injective : ∀ text other : List Piece, goDialect.text text = goDialect.text other ↔
      assemble replacementCharacter text = assemble replacementCharacter other :=
    fun _ _ => Option.some_inj
  constructor
  · rintro ⟨unrepeated, -, fields, authority⟩
    rw [value, noRepeats_toValue] at unrepeated
    refine ⟨⟨coded.mono fun _ _ => rfl, unrepeated.transfer coded fun _ _ _ _ =>
      (injective _ _).mp⟩, describes_go.mp fields, ?_⟩
    rintro ⟨pieces, _⟩ held named inner rfl
    refine describes_go.mp (authority _ (List.mem_map.mpr ⟨_, held, ?_⟩))
    exact Prod.ext (Option.some.inj named) (Node.toValue_object _ inner)
  · rintro ⟨sound, fields, authority⟩
    refine ⟨?_, ?_, describes_go.mpr fields, fun inner held => ?_⟩
    · rw [value, noRepeats_toValue]
      exact sound.distinct.transfer coded fun _ _ _ _ => (injective _ _).mpr
    · rw [value, Node.depth_toValue]
      exact shallow
    · obtain ⟨member, listed, same⟩ := List.mem_map.mp held
      obtain ⟨name, nested⟩ := Prod.mk.inj same
      obtain ⟨others, shape, rfl⟩ := object_of_toValue nested
      exact describes_go.mpr (authority member listed (congrArg some name) others shape)

end Go

section Names

variable {pieces : List Piece} {name : String} {text : List Char}

theorem units_of_name (coded : Coded pieces) (plain : '\uFFFD' ∉ name.toList)
    (named : assemble replacementCharacter pieces = nameText name) :
    pieces.flatMap Script.units = Utf16.str name := by
  rw [show replacementCharacter = some '\uFFFD' from rfl, Script.assemble_units coded,
    nameText] at named
  apply Utf16.eq_encode
  have scalars : (Utf16.decode (pieces.flatMap Script.units)).map Utf16.Point.scalar = name.toList := by
    rw [← List.map_map] at named
    exact List.map_injective_iff.mpr (fun _ _ => Option.some.inj) named
  rw [← scalars, List.map_map]
  conv_lhs => rw [← List.map_id (Utf16.decode (pieces.flatMap Script.units))]
  refine List.map_congr_left fun point held => ?_
  cases point with
  | char c => rfl
  | lone unit => exact absurd (scalars ▸ List.mem_map_of_mem held) plain

theorem name_of_units (coded : Coded pieces) (named : pieces.flatMap Script.units = Utf16.str name) :
    assemble replacementCharacter pieces = nameText name := by
  rw [show replacementCharacter = some '\uFFFD' from rfl, Script.assemble_units coded, named,
    Utf16.str, Utf16.decode_encode, List.map_map]
  rfl

end Names

section Dialects

variable {K L : Type} [DecidableEq K] [DecidableEq L] {first : Dialect K} {second : Dialect L}
  {literal : List Piece → Prop} {fields : AbiFields}

def CodedTree (tree : Written) : Prop := tree.Holds (fun _ => True) Coded

theorem members_holds {string : List Piece → Prop}
    (holds : (Node.object members).Holds (fun _ : Number => True) string) :
    ∀ member ∈ members, string member.1 ∧ member.2.Holds (fun _ => True) string := by
  cases holds with
  | object keys values => exact fun member held => ⟨keys member held, values member held⟩

/-- The second language decodes what the first one does, finds the same names and tells at least as
many keys apart. -/
structure Refines (literal : List Piece → Prop) (first : Dialect K) (second : Dialect L) : Prop where
  decodes : ∀ pieces, literal pieces → (first.text pieces).isSome → (second.text pieces).isSome
  names : ∀ pieces name, literal pieces → '\uFFFD' ∉ name.toList →
    (first.text pieces = some (first.constant name) ↔
      second.text pieces = some (second.constant name))
  finer : ∀ pieces other, literal pieces → literal other →
    second.text pieces = second.text other → first.text pieces = first.text other

omit [DecidableEq K] [DecidableEq L] in
theorem Refines.sound (refines : Refines literal first second)
    (holds : tree.Holds (fun _ => True) literal) (sound : Sound first tree) : Sound second tree where
  decodes := (holds.and sound.decodes).mono fun _ both => refines.decodes _ both.1 both.2
  distinct := sound.distinct.transfer holds refines.finer

theorem Refines.describes (refines : Refines literal first second)
    (plain : ∀ field ∈ fields, '\uFFFD' ∉ field.1.toList)
    (holds : (Node.object members).Holds (fun _ => True) literal)
    (described : Describes first fields members) : Describes second fields members := by
  intro member held
  obtain ⟨key, type, read, declared, fits⟩ := described member held
  have spelled := (members_holds holds member held).1
  obtain ⟨other, found⟩ := Option.isSome_iff_exists.mp
    (refines.decodes _ spelled (Option.isSome_iff_exists.mpr ⟨key, read⟩))
  refine ⟨other, type, found, ?_, fits⟩
  rw [← declared, fieldType, fieldType]
  congr 1
  refine List.find?_congr fun field listed => decide_eq_decide.mpr ?_
  have same := refines.names member.1 field.1 spelled (plain field listed)
  rw [read, found, Option.some.injEq, Option.some.injEq] at same
  rw [eq_comm, ← same, eq_comm]

theorem Refines.request (refines : Refines literal first second)
    (holds : (Node.object members).Holds (fun _ => True) literal)
    (request : IsRequest first members) : IsRequest second members where
  sound := refines.sound holds request.sound
  fields := refines.describes (by decide) holds request.fields
  authority := by
    rintro ⟨pieces, _⟩ held named inner rfl
    obtain ⟨spelled, nested⟩ := members_holds holds _ held
    exact refines.describes (by decide) nested (request.authority _ held
      ((refines.names pieces "authority" spelled (by decide)).mpr named) inner rfl)

/-- A language that reads paired literals as an image of their characters. -/
structure SpellsPaired (dialect : Dialect K) (image : List Char → K) : Prop where
  text : ∀ pieces chars, Coded pieces → paired pieces = some chars →
    dialect.text pieces = some (image chars)
  constant : ∀ name, dialect.constant name = image name.toList
  injective : Function.Injective image

omit [DecidableEq K] [DecidableEq L] in
theorem refines_paired {image : List Char → K} {other : List Char → L}
    (spells : SpellsPaired first image) (spells' : SpellsPaired second other) :
    Refines (fun pieces => Coded pieces ∧ (paired pieces).isSome) first second where
  decodes := by
    rintro pieces ⟨coded, pairs⟩ -
    obtain ⟨chars, read⟩ := Option.isSome_iff_exists.mp pairs
    rw [spells'.text pieces chars coded read]
    rfl
  names := by
    rintro pieces name ⟨coded, pairs⟩ -
    obtain ⟨chars, read⟩ := Option.isSome_iff_exists.mp pairs
    rw [spells.text pieces chars coded read, spells'.text pieces chars coded read, spells.constant,
      spells'.constant, Option.some.injEq, Option.some.injEq, spells.injective.eq_iff,
      spells'.injective.eq_iff]
  finer := by
    rintro pieces more ⟨coded, pairs⟩ ⟨coded', pairs'⟩ same
    obtain ⟨chars, read⟩ := Option.isSome_iff_exists.mp pairs
    obtain ⟨others, found⟩ := Option.isSome_iff_exists.mp pairs'
    rw [spells'.text pieces chars coded read, spells'.text more others coded' found] at same
    rw [spells.text pieces chars coded read, spells.text more others coded' found,
      spells'.injective (Option.some.inj same)]

theorem spells_rust {serde : SerdeJson} (lawful : serde.Lawful) :
    SpellsPaired (rustDialect serde) id where
  text := fun pieces chars _ read => lawful.reads pieces chars read
  constant := fun _ => rfl
  injective := Function.injective_id

theorem spells_script : SpellsPaired scriptDialect Utf16.encode where
  text := fun _ _ coded read => congrArg some (paired_spec coded read).1
  constant := fun _ => rfl
  injective := fun _ _ => Utf16.encode_injective

theorem spells_go : SpellsPaired goDialect (List.map some) where
  text := fun _ _ coded read => congrArg some (paired_spec coded read).2
  constant := fun _ => rfl
  injective := List.map_injective_iff.mpr (Option.some_injective _)

theorem refines_script : Refines Coded goDialect scriptDialect where
  decodes := fun _ _ _ => rfl
  names := fun _ _ coded plain =>
    ⟨fun named => congrArg some (units_of_name coded plain (Option.some.inj named)),
      fun named => congrArg some (name_of_units coded (Option.some.inj named))⟩
  finer := by
    intro pieces other coded coded' same
    have units := Option.some.inj same
    change some (assemble (some '\uFFFD') pieces) = some (assemble (some '\uFFFD') other)
    rw [Script.assemble_units coded, Script.assemble_units coded', units]

theorem paired_of_decodes {serde : SerdeJson} (lawful : serde.Lawful)
    (decodes : tree.Holds (fun _ => True) fun pieces => ((rustDialect serde).text pieces).isSome) :
    Paired tree := by
  refine decodes.mono fun pieces read => ?_
  rw [← Option.ne_none_iff_isSome] at read ⊢
  exact fun unpaired => read (lawful.refuses pieces unpaired)

theorem rust_request_iff {serde : SerdeJson} (lawful : serde.Lawful)
    (coded : CodedTree (.object members)) : IsRequest (rustDialect serde) members ↔
      IsRequest scriptDialect members ∧ Paired (.object members) := by
  constructor
  · intro request
    have pairs := paired_of_decodes lawful request.sound.decodes
    have refines := refines_paired (spells_rust lawful) spells_script
    exact ⟨refines.request (coded.and pairs) request, pairs⟩
  · rintro ⟨request, pairs⟩
    exact (refines_paired spells_script (spells_rust lawful)).request (coded.and pairs) request

end Dialects

section Agreement

variable {data : List UInt8} {input : List Rune}

theorem Reads.coded (reads : Reads input tree) : CodedTree tree := by
  obtain ⟨rest, read, -⟩ := reads
  exact readWritten_holds (fun _ _ _ lexed => (lexString_eq_some_iff.mp lexed).coded) read

theorem Reads.unique {others : List (List Piece × Written)}
    (reads : Reads input (.object members)) (again : Reads input (.object others)) :
    members = others := by
  obtain ⟨_, read, -⟩ := reads
  obtain ⟨_, found, -⟩ := again
  cases read.symm.trans found
  rfl

theorem Reads.shallow (reads : Reads input tree) : tree.depth ≤ maxInvocationDepth := by
  obtain ⟨rest, read, -⟩ := reads
  exact readWritten_depth read

theorem parseInvocationRequest_iff (folding : Folding) (texts : AbiTexts) (data : List UInt8) :
    (∃ req, parseInvocationRequest folding texts data = .ok req) ↔
      utf8Valid data = true ∧ ∃ members, Reads (Utf8.decode data) (.object members) ∧
        InvocationDocument (goMembers members) := by
  rw [parseInvocationRequest_accepts_iff]
  refine and_congr_right fun _ => ?_
  constructor
  · rintro ⟨document, ⟨rest, decoded, ended⟩, request⟩
    have parsed := parse_of_decodeValue decoded
    rw [parse_eq_readWritten] at parsed
    obtain ⟨⟨tree, after⟩, read, same⟩ := Option.map_eq_some_iff.mp parsed
    obtain ⟨value, rfl⟩ := Prod.mk.inj same
    obtain ⟨members, rfl, rfl⟩ := object_of_toValue value
    have shallow := request.nested
    rw [goMembers, ← Node.toValue_object, Node.depth_toValue] at shallow
    exact ⟨members, ⟨after, readWritten_of_depth read shallow, requireEOF_ok_iff.mp ended⟩, request⟩
  · rintro ⟨members, reads, request⟩
    have shallow := reads.shallow
    obtain ⟨rest, read, ended⟩ := reads
    have parsed : parse replacementCharacter maxNestingDepth (Utf8.decode data) =
        some (.object (goMembers members), rest) := by
      rw [parse_eq_readWritten, readWritten_of_depth read (shallow.trans (by decide)),
        Option.map_some, Node.toValue_object]
      rfl
    exact ⟨goMembers members, ⟨rest, decodeValue_of_parse parsed, requireEOF_ok_iff.mpr ended⟩, request⟩

theorem validateInvocationRequest_iff (data : List UInt8) :
    validateInvocationRequest data = .ok () ↔
      utf8Valid data = true ∧ ∃ members, Reads (Utf8.decode (stripMark data)) (.object members) ∧
        IsRequest scriptDialect members := by
  unfold validateInvocationRequest
  split_ifs with valid
  · simp [valid, scan_ok_iff]
  · simp [valid]

theorem validate_invocation_request_iff (serde : SerdeJson) (data : List UInt8) :
    validate_invocation_request serde data = .ok () ↔
      utf8Valid data = true ∧ ∃ members, Reads (Utf8.decode data) (.object members) ∧
        IsRequest (rustDialect serde) members := by
  unfold validate_invocation_request
  split_ifs with valid
  · simp [valid, scan_ok_iff]
  · simp [valid]

theorem marked_unread (marked : byteOrderMark <+: data) (tree : Written) :
    ¬ Reads (Utf8.decode data) tree := by
  obtain ⟨rest, rfl⟩ := marked
  have first : Utf8.decode (byteOrderMark ++ rest) = some '\uFEFF' :: Utf8.decode rest :=
    decodeFrom_encode_cons '\uFEFF' rest
  have visible := skipBlank_cons (show Json.isBlank (some '\uFEFF') = false by decide)
    (Utf8.decode rest)
  rw [first]
  rintro ⟨after, read, -⟩
  cases readWritten_eq_some_iff.mp read with
  | scalar scalar =>
    rw [visible, readWrittenScalar, if_neg (by decide), if_neg (by decide), if_neg (by decide),
      if_neg (by decide)] at scalar
    obtain ⟨⟨number, _⟩, found, -⟩ := Option.bind_eq_some_iff.mp scalar
    exact absurd (read_first found) (by decide)
  | array _ blank _ | object _ blank _ =>
    rw [visible] at blank
    exact absurd (List.cons.inj blank).1 (by decide)

def ValidatorsAgree (folding : Folding) (texts : AbiTexts) (serde : SerdeJson) (data : List UInt8) :
    Prop :=
  ((∃ req, parseInvocationRequest folding texts data = .ok req) ↔
      validateInvocationRequest data = .ok ()) ∧
    (validateInvocationRequest data = .ok () ↔ validate_invocation_request serde data = .ok ())

/-- The validators agree on a byte string exactly if it does not hold a request, behind a byte-order
mark or with a surrogate escape that lacks its other half. -/
theorem validators_agree_iff (folding : Folding) (texts : AbiTexts) (serde : SerdeJson)
    (lawful : serde.Lawful) (data : List UInt8) : ValidatorsAgree folding texts serde data ↔
      ∀ members, utf8Valid data = true → Reads (Utf8.decode (stripMark data)) (.object members) →
        IsRequest scriptDialect members →
          ¬ byteOrderMark <+: data ∧ Paired (.object members) := by
  unfold ValidatorsAgree
  rw [parseInvocationRequest_iff, validateInvocationRequest_iff, validate_invocation_request_iff]
  constructor
  · rintro ⟨-, same⟩ members valid reads request
    obtain ⟨-, others, found, accepted⟩ := same.mp ⟨valid, members, reads, request⟩
    have unmarked : ¬ byteOrderMark <+: data := fun marked => marked_unread marked _ found
    rw [stripMark, if_neg unmarked] at reads
    obtain rfl := reads.unique found
    exact ⟨unmarked, ((rust_request_iff lawful reads.coded).mp accepted).2⟩
  · intro fine
    by_cases marked : byteOrderMark <+: data
    · have refused : ¬ (utf8Valid data = true ∧ ∃ members,
          Reads (Utf8.decode (stripMark data)) (.object members) ∧ IsRequest scriptDialect members) := by
        rintro ⟨valid, members, reads, request⟩
        exact (fine members valid reads request).1 marked
      have unread (good : List (List Piece × Written) → Prop) : ¬ (utf8Valid data = true ∧
          ∃ members, Reads (Utf8.decode data) (.object members) ∧ good members) := by
        rintro ⟨-, members, reads, -⟩
        exact marked_unread marked _ reads
      simp only [refused, unread, and_self]
    · rw [stripMark, if_neg marked] at fine ⊢
      have rust (valid : utf8Valid data = true) (members : List (List Piece × Written))
          (reads : Reads (Utf8.decode data) (.object members)) (request : IsRequest scriptDialect members) :
          IsRequest (rustDialect serde) members :=
        (rust_request_iff lawful reads.coded).mpr ⟨request, (fine members valid reads request).2⟩
      refine ⟨⟨?_, ?_⟩, ?_, ?_⟩
      · rintro ⟨valid, members, reads, document⟩
        exact ⟨valid, members, reads, refines_script.request reads.coded
          ((document_iff reads.coded reads.shallow).mp document)⟩
      · rintro ⟨valid, members, reads, request⟩
        have paired := (fine members valid reads request).2
        exact ⟨valid, members, reads, (document_iff reads.coded reads.shallow).mpr
          ((refines_paired spells_script spells_go).request (reads.coded.and paired) request)⟩
      · rintro ⟨valid, members, reads, request⟩
        exact ⟨valid, members, reads, rust valid members reads request⟩
      · rintro ⟨valid, members, reads, request⟩
        exact ⟨valid, members, reads, ((rust_request_iff lawful reads.coded).mp request).1⟩

def sampleSerde : SerdeJson where
  from_slice := paired
  to_string := fun key => "\"" ++ String.ofList key ++ "\""

theorem sampleSerde_lawful : sampleSerde.Lawful :=
  ⟨fun _ _ read => read, fun _ unpaired => unpaired⟩

/-- A request that names its capability by one character, escaped as a surrogate pair. -/
def sampleEscaped : List UInt8 :=
  Utf8.encode "\x7b\"capability\":\"\\ud83d\\ude00\"\x7d".toList

/-- The three validators agree on the escaped pair, and accept it. -/
theorem validators_agree_iff_escaped :
    sampleSerde.Lawful ∧ validateInvocationRequest sampleEscaped = .ok () ∧
    ∀ folding texts, ValidatorsAgree folding texts sampleSerde sampleEscaped := by
  refine ⟨sampleSerde_lawful, by decide +kernel, fun folding texts => ?_⟩
  apply (validators_agree_iff folding texts sampleSerde sampleSerde_lawful sampleEscaped).mpr
  intro members _ reads _
  have unmarked : ¬ byteOrderMark <+: sampleEscaped := by decide +kernel
  have accepted : validate_invocation_request sampleSerde sampleEscaped = .ok () := by
    decide +kernel
  obtain ⟨-, others, found, request⟩ := (validate_invocation_request_iff _ _).mp accepted
  rw [stripMark, if_neg unmarked] at reads
  obtain rfl := reads.unique found
  exact ⟨unmarked, paired_of_decodes sampleSerde_lawful request.sound.decodes⟩

/-- Crates that read strings as they should accept the same requests. -/
theorem lawful_accepts {serde other : SerdeJson} (lawful : serde.Lawful) (also : other.Lawful)
    (accepted : validate_invocation_request serde data = .ok ()) :
    validate_invocation_request other data = .ok () := by
  rw [validate_invocation_request_iff] at accepted ⊢
  obtain ⟨valid, members, reads, request⟩ := accepted
  exact ⟨valid, members, reads, (rust_request_iff also reads.coded).mpr
    ((rust_request_iff lawful reads.coded).mp request)⟩

/-- An empty request behind a byte-order mark, and one with half of a surrogate pair: the script
accepts both and the Rust bridge neither. -/
theorem validators_differ :
    (validateInvocationRequest (byteOrderMark ++ Utf8.encode "\x7b\x7d".toList) = .ok () ∧
      (∀ serde, validate_invocation_request serde
        (byteOrderMark ++ Utf8.encode "\x7b\x7d".toList) ≠ .ok ()) ∧
      ∀ folding texts, ¬ ∃ req, parseInvocationRequest folding texts
        (byteOrderMark ++ Utf8.encode "\x7b\x7d".toList) = .ok req) ∧
    validateInvocationRequest (Utf8.encode "\x7b\"capability\":\"\\ud800\"\x7d".toList) = .ok () ∧
    ∀ serde : SerdeJson, serde.Lawful → validate_invocation_request serde
      (Utf8.encode "\x7b\"capability\":\"\\ud800\"\x7d".toList) ≠ .ok () := by
  refine ⟨⟨by decide +kernel, fun serde accepted => ?_, fun folding texts accepted => ?_⟩,
    by decide +kernel, fun serde lawful accepted => ?_⟩
  · obtain ⟨-, members, reads, -⟩ := (validate_invocation_request_iff serde _).mp accepted
    exact marked_unread (List.prefix_append ..) _ reads
  · obtain ⟨-, members, reads, -⟩ := (parseInvocationRequest_iff folding texts _).mp accepted
    exact marked_unread (List.prefix_append ..) _ reads
  · exact absurd (lawful_accepts lawful sampleSerde_lawful accepted) (by decide +kernel)

end Agreement

end Crabedence.Abi
