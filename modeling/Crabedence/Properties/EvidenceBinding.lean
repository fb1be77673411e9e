import Crabedence.ReceiptText
import Crabedence.Properties.TerminalProof
import Crabedence.Text.Framing

/-!
# What a signed receipt binds

A receipt that `Sign` made verifies against its own binding and no other, the signed bytes determine
the signed fields, and a text that is accepted for a binding was signed for it.  The text states the
fields of the receipt it is read as, except that a field may be stated twice: keys are compared
exactly when duplicates are searched, and up to case when the receipt is decoded.
-/

namespace Crabedence

open Json

section Refusals

variable {A B : Type} {reason : String} {condition : Prop} {further : A → Except String B}
  {result : B}

theorem refuse_ok_iff [Decidable condition] {rest : Except String B} :
    (if condition then (throw reason >>= further) else rest) = .ok result ↔
      ¬ condition ∧ rest = .ok result := by
  split_ifs with refused
  · constructor
    · intro ended
      cases ended
    · exact fun passed => absurd refused passed.1
  · simp [refused]

theorem throw_bind_ok_iff : (throw reason >>= further) = .ok result ↔ False :=
  iff_false_intro nofun

theorem refuse_last_iff [Decidable condition] :
    (if condition then (throw reason : Except String Unit) else pure ()) = .ok () ↔
      ¬ condition := by
  split_ifs with refused
  · exact ⟨nofun, fun passed => absurd refused passed⟩
  · exact ⟨fun _ => refused, fun _ => rfl⟩

end Refusals

section Duplicates

variable {texts : ReceiptTexts} {seen : List Text} {decoder : Decoder} {state : TokenState}
  {stack : List TokenState} {depth fuel : Nat} {input rest : List Utf8.Rune} {key : Text}
  {value : Value Number} {members : List (Text × Value Number)}

theorem duplicateKeysFrom_closed (closed : decoder.more = false) :
    duplicateKeysFrom texts seen decoder = .ok false := by
  rw [duplicateKeysFrom, closed]
  rfl

theorem readMember_parts (allowed : state.keyAllowed) (shallow : depth + 1 = maxNestingDepth)
    (read : readMember replacementCharacter (parse replacementCharacter depth) input =
      some ((key, value), rest)) : ∃ after, tokenFrom replacementCharacter state stack input =
        .token (.scalar (.string key)) ⟨.objectColon, stack, after⟩ ∧
      Decoder.decode replacementCharacter maxNestingDepth ⟨.objectColon, stack, after⟩ =
        some (value, ⟨.comma .object, stack, rest⟩) := by
  rw [readMember_eq_readMemberWith] at read
  obtain ⟨opened, named, after, start, keyed, next, valued⟩ := readMemberWith_eq_some_iff.mp read
  have deep := shallow ▸ parse_succ valued
  exact ⟨named, tokenFrom_key start allowed keyed, Decoder.decode_member next deep stack⟩

theorem items_quoted {T : Type} {value : List Utf8.Rune → Option (T × List Utf8.Rune)}
    {rune : Utf8.Rune} {members : List (Text × T)} (visible : Json.isBlank rune = false)
    (items : Items '\x7d' (readMember replacementCharacter value) fuel (rune :: input) members
      rest) : rune = some '"' := by
  obtain ⟨member, after, first⟩ : ∃ member after,
      readMember replacementCharacter value (rune :: input) = some (member, after) := by
    cases items with
    | last first _ _ | more first _ _ => exact ⟨_, _, first⟩
  rw [readMember_eq_readMemberWith] at first
  obtain ⟨opened, named, after, start, -⟩ := readMemberWith_eq_some_iff.mp first
  rw [skipBlank_cons visible] at start
  exact (List.cons.inj start).1

theorem duplicateKeysFrom_member (more : decoder.more = true)
    (token : decoder.token replacementCharacter =
      tokenFrom replacementCharacter state stack input) (allowed : state.keyAllowed)
    (shallow : depth + 1 = maxNestingDepth)
    (read : readMember replacementCharacter (parse replacementCharacter depth) input =
      some ((key, value), rest)) : duplicateKeysFrom texts seen decoder =
      if key ∈ seen then .ok true
      else duplicateKeysFrom texts (key :: seen) ⟨.comma .object, stack, rest⟩ := by
  obtain ⟨after, keyed, valued⟩ := readMember_parts allowed shallow read
  rw [← token] at keyed
  rw [duplicateKeysFrom, if_pos more]
  split
  · rename_i again next handed
    cases keyed.symm.trans handed
    split
    · rfl
    · split
      · rename_i missing
        rw [valued] at missing
        cases missing
      · rename_i found
        rw [valued] at found
        cases found
        rfl
  · rename_i other
    exact absurd keyed (other key _)

theorem duplicateKeysFrom_items (shallow : depth + 1 = maxNestingDepth)
    (items : Items '\x7d' (readMember replacementCharacter (parse replacementCharacter depth)) fuel
      input members rest) (more : decoder.more = true) (token : decoder.token replacementCharacter =
      tokenFrom replacementCharacter state stack input) (allowed : state.keyAllowed) :
    duplicateKeysFrom texts seen decoder =
      .ok (decide ¬ ((members.map Prod.fst).Nodup ∧ ∀ member ∈ members, member.1 ∉ seen)) := by
  induction items generalizing seen decoder state with
  | last first _ next =>
    rw [duplicateKeysFrom_member more token allowed shallow first,
      duplicateKeysFrom_closed (by simp [Decoder.more, next])]
    split_ifs with again <;> simp [again]
  | @more fuel input after further rest member members first next _ ih =>
    rw [duplicateKeysFrom_member more token allowed shallow first,
      @ih (member.1 :: seen) ⟨.comma .object, stack, after⟩ (.item .object)
        (by simp [Decoder.more, next]) (tokenFrom_comma next) rfl]
    split_ifs with again
    · simp [again]
    · congr 1
      apply decide_eq_decide.mpr
      apply not_congr
      simp only [List.map_cons, List.nodup_cons, List.mem_cons, forall_eq_or_imp, not_or,
        List.mem_map, not_exists, not_and]
      constructor
      · rintro ⟨distinct, fresh⟩
        exact ⟨⟨fun member held => (fresh member held).1, distinct⟩, again,
          fun member held => (fresh member held).2⟩
      · rintro ⟨⟨other, distinct⟩, -, fresh⟩
        exact ⟨distinct, fun member held => ⟨other member held, fresh member held⟩⟩

/-- `hasDuplicateKeys` reports whether two members of the object have the same key. -/
theorem hasDuplicateKeys_object {data : RawMessage}
    (read : decodeValue (Utf8.decode data) = .ok (.object members, rest)) :
    hasDuplicateKeys texts data = .ok (decide ¬ (members.map Prod.fst).Nodup) := by
  obtain ⟨input, start, sequence⟩ := @parse_object _ 9999 _ _ _ (parse_of_decodeValue read)
  have opened : (Decoder.new (Utf8.decode data)).token replacementCharacter =
      .token (.opening .object) ⟨.start .object, [.topValue], input⟩ :=
    @tokenFrom_open _ _ _ _ _ .object start rfl
  unfold hasDuplicateKeys
  rw [opened]
  dsimp only
  rcases readSequence_eq_some_iff.mp sequence with ⟨next, rfl⟩ | ⟨rune, further, next, -, items⟩
  · rw [duplicateKeysFrom_closed (by simp [Decoder.more, next])]
    rfl
  · have quoted := items_quoted (skipBlank_visible next) items
    have more : Decoder.more ⟨.start .object, [.topValue], input⟩ = true := by
      simp [Decoder.more, next, quoted]
    have token : Decoder.token replacementCharacter ⟨.start .object, [.topValue], input⟩ =
        tokenFrom replacementCharacter (.start .object) [.topValue] (rune :: further) := by
      rw [← next]
      exact tokenFrom_skipBlank
    rw [duplicateKeysFrom_items rfl items more token rfl]
    simp

end Duplicates

section Framing

theorem utf8_injective : Function.Injective utf8 := by
  intro text other same
  have arrays : text.toUTF8.data = other.toUTF8.data := Array.toList_inj.mp same
  exact String.toByteArray_inj.mp (congrArg ByteArray.mk arrays)

theorem lengthPrefixed_append_inj {text other : String} {rest further : List UInt8}
    (short : text.utf8ByteSize < 2 ^ 32) (short' : other.utf8ByteSize < 2 ^ 32)
    (same : lengthPrefixed text ++ rest = lengthPrefixed other ++ further) :
    text = other ∧ rest = further := by
  have framed (text : String) : lengthPrefixed text = Framing.frame (utf8 text) := rfl
  rw [framed, framed] at same
  obtain ⟨payload, follows⟩ := Framing.frame_append_inj short short' same
  exact ⟨utf8_injective payload, follows⟩

theorem framed_inj {texts others more further : List String} (aligned : texts.length = others.length)
    (short : ∀ text ∈ texts, text.utf8ByteSize < 2 ^ 32)
    (short' : ∀ text ∈ others, text.utf8ByteSize < 2 ^ 32)
    (same : (texts ++ more).flatMap lengthPrefixed = (others ++ further).flatMap lengthPrefixed) :
    texts = others := by
  induction texts generalizing others with
  | nil => exact (List.length_eq_zero_iff.mp aligned.symm).symm
  | cons text texts ih =>
    cases others with
    | nil => cases aligned
    | cons other others =>
      rw [List.cons_append, List.cons_append, List.flatMap_cons, List.flatMap_cons] at same
      obtain ⟨rfl, rest⟩ := lengthPrefixed_append_inj (short text List.mem_cons_self)
        (short' other List.mem_cons_self) same
      rw [ih (Nat.succ.inj aligned) (fun text held => short text (List.mem_cons_of_mem _ held))
        (fun text held => short' text (List.mem_cons_of_mem _ held)) rest]

def Binding.fields (b : Binding) : List String :=
  [b.executionID, b.capability, b.principal, b.requestDigest, b.providerID, b.providerRunID,
    b.outcome, b.evidenceSHA256]

theorem Binding.fields_injective : Function.Injective Binding.fields := by
  rintro ⟨⟩ ⟨⟩ same
  simpa [Binding.fields] using same

def Binding.Short (b : Binding) : Prop := ∀ text ∈ b.fields, text.utf8ByteSize < 2 ^ 32

def ReceiptV3.signedFields (r : ReceiptV3) : List String :=
  r.binding.fields ++ [r.issuedAt, r.publicKey, r.signer]

variable {r other : ReceiptV3}

theorem signingBytes_fields (same : signingBytes r = signingBytes other) :
    r.signedFields.flatMap lengthPrefixed = other.signedFields.flatMap lengthPrefixed :=
  List.append_cancel_left same

theorem signingBytes_inj (short : ∀ text ∈ r.signedFields, text.utf8ByteSize < 2 ^ 32)
    (short' : ∀ text ∈ other.signedFields, text.utf8ByteSize < 2 ^ 32)
    (same : signingBytes r = signingBytes other) : r.signedFields = other.signedFields := by
  have fields := signingBytes_fields same
  rw [← List.append_nil r.signedFields, ← List.append_nil other.signedFields] at fields
  exact framed_inj rfl short short' fields

end Framing

variable {data : RawMessage}

section Statements

/-- What a JSON value says about a field. -/
inductive Spells : Value Number → Value Int → Prop
  | text (text : Text) : Spells (.string text) (textValue (textString text))
  | number {number : Number} {n : Int} (spelled : parseInt number.text = some n) :
      Spells (.number number) (.number n)

def Stores (value : Value Number) (before after : Value Int) : Prop :=
  value = .null ∧ after = before ∨ Spells value after

theorem member_set (field : ReceiptV3Field) (text : String) (r : ReceiptV3)
    (spelled : field ≠ .schemaVersion) : (field.set text r).member field = textValue text := by
  cases field with
  | schemaVersion => exact absurd rfl spelled
  | _ => rfl

theorem member_set_other {field other : ReceiptV3Field} (text : String) (r : ReceiptV3)
    (distinct : other ≠ field) : (field.set text r).member other = r.member other := by
  cases field <;> cases other <;> first | rfl | exact absurd rfl distinct

theorem member_version_other {other : ReceiptV3Field} (n : Int) (r : ReceiptV3)
    (distinct : other ≠ .schemaVersion) :
    { r with schemaVersion := n }.member other = r.member other := by
  cases other with
  | schemaVersion => exact absurd rfl distinct
  | _ => rfl

theorem receipt_assigns :
    Assigns (fun field r => ReceiptV3.member r field) (fun _ => Stores) ReceiptV3Field.assign where
  own := by
    intro field value target result stored
    unfold ReceiptV3Field.assign at stored
    split_ifs at stored with version
    · rw [version]
      rcases assignInt_stores stored with ⟨null, rfl⟩ | ⟨number, n, rfl, parsed, rfl⟩
      · exact .inl ⟨null, rfl⟩
      · exact .inr (.number parsed)
    · rcases assignString_stores stored with ⟨null, rfl⟩ | ⟨text, rfl, rfl⟩
      · exact .inl ⟨null, rfl⟩
      · rw [member_set _ _ _ version]
        exact .inr (.text text)
  others := by
    intro field value target result stored other distinct
    unfold ReceiptV3Field.assign at stored
    split_ifs at stored with version
    · rw [version] at distinct
      rcases assignInt_stores stored with ⟨null, rfl⟩ | ⟨number, n, rfl, parsed, rfl⟩
      · rfl
      · exact member_version_other n target distinct
    · rcases assignString_stores stored with ⟨null, rfl⟩ | ⟨text, rfl, rfl⟩
      · rfl
      · exact member_set_other _ target distinct

variable (folding : Folding)

def fieldOf (key : Text) : Option ReceiptV3Field :=
  matchField folding ReceiptV3Field.name ReceiptV3Field.all key

/-- The members of an object state a receipt: each names a field, none names one again, and the fields
of the receipt are as stated, or empty where nothing is said. -/
structure StatesReceipt (members : List (Text × Value Number)) (r : ReceiptV3) : Prop where
  once : (members.map fun member => fieldOf folding member.1).Nodup
  stated : ∀ member ∈ members, ∃ field, fieldOf folding member.1 = some field ∧
    Stores member.2 (ReceiptV3.zero.member field) (r.member field)
  silent : ∀ field, (∀ member ∈ members, fieldOf folding member.1 ≠ some field) →
    r.member field = ReceiptV3.zero.member field

def Encodes (data : RawMessage) (r : ReceiptV3) : Prop :=
  ∃ members, Holds data (.object members) ∧ StatesReceipt folding members r

def StatedOnce (data : RawMessage) : Prop :=
  ∀ members, Holds data (.object members) →
    (members.map fun member => fieldOf folding member.1).Nodup

variable {folding} {texts : ReceiptTexts} {r : ReceiptV3}

theorem requireEOF_eof_iff {rest : List Utf8.Rune} :
    requireEOF rest = .ok () ↔ decodeValue rest = .error .eof := by
  unfold requireEOF
  split
  · rename_i ended
    simp [ended]
  · rename_i failure other read
    simpa [read] using other
  · rename_i read
    simp [read]

theorem decodeReceiptV3_ok_iff : decodeReceiptV3 texts folding data = .ok r ↔
    ∃ document, Holds data document ∧ decodeReceipt folding document = .ok r := by
  unfold decodeReceiptV3
  constructor
  · intro decoded
    obtain ⟨result, read, decoded⟩ := Checks.bind_ok_iff.mp decoded
    obtain ⟨found, stored, decoded⟩ := Checks.bind_ok_iff.mp decoded
    rw [Checks.mapError_ok_iff] at read stored
    split at decoded
    · rename_i ended
      cases decoded
      exact ⟨result.1, ⟨result.2, read, requireEOF_eof_iff.mpr ended⟩, stored⟩
    · cases decoded
    · cases decoded
  · rintro ⟨document, ⟨rest, read, ended⟩, stored⟩
    rw [read]
    simp only [bind, Except.bind, Except.mapError, stored, requireEOF_eof_iff.mp ended]
    rfl

theorem statesReceipt_of_decoded {members : List (Text × Value Number)}
    (decoded : decodeReceipt folding (.object members) = .ok r)
    (once : (members.map fun member => fieldOf folding member.1).Nodup) :
    StatesReceipt folding members r where
  once := once
  stated := by
    intro member held
    obtain ⟨field, named⟩ := decodeMembers_matched decoded held
    exact ⟨field, named, decodeMembers_named receipt_assigns decoded once held named⟩
  silent := by
    intro field unnamed
    exact decodeMembers_unnamed receipt_assigns decoded unnamed

theorem decodeReceipt_object {document : Value Number}
    (decoded : decodeReceipt folding document = .ok r) (typed : r.receiptType ≠ "") :
    ∃ members, document = .object members := by
  cases document with
  | object members => exact ⟨members, rfl⟩
  | null =>
    cases decoded
    exact absurd rfl typed
  | _ => cases decoded

theorem encodes_iff_statedOnce (decoded : decodeReceiptV3 texts folding data = .ok r)
    (typed : r.receiptType ≠ "") : Encodes folding data r ↔ StatedOnce folding data := by
  obtain ⟨document, holds, stored⟩ := decodeReceiptV3_ok_iff.mp decoded
  obtain ⟨members, rfl⟩ := decodeReceipt_object stored typed
  constructor
  · rintro ⟨others, held, states⟩ more again
    cases held.unique again
    exact states.once
  · intro once
    exact ⟨members, holds, statesReceipt_of_decoded stored (once members holds)⟩

end Statements

section RoundTrip

variable {folding : Folding} {texts : ReceiptTexts} {r : ReceiptV3}

theorem textString_toList (text : String) : textString (text.toList.map some) = text := by
  simp [textString, Function.comp_def]

theorem fieldOf_name (field : ReceiptV3Field) : fieldOf folding field.name = some field := by
  cases field <;> rfl

def ReceiptV3.document (r : ReceiptV3) : List (Text × Value Number) :=
  ReceiptV3Field.all.map fun field => (field.name, (r.member field).map Number.ofInt)

theorem marshal_text : r.marshal = Utf8.encode (Value.object r.document).text := by
  have document : Value.object r.document = (Value.object r.members).map Number.ofInt := by
    rw [Value.map_object, ReceiptV3.members, List.map_map]
    rfl
  rw [ReceiptV3.marshal, marshal_integers, document]

theorem readable_text (text : List Char) : Readable replacementCharacter (text.map some) :=
  .inr (by simp)

theorem holds_marshal : Holds r.marshal (.object r.document) := by
  rw [marshal_text]
  apply holds_text
  refine @Value.Within.object _ _ 9999 _ ?_ ?_
  · intro member held
    obtain ⟨field, -, rfl⟩ := List.mem_map.mp held
    cases field <;> exact readable_text _
  · intro member held
    obtain ⟨field, -, rfl⟩ := List.mem_map.mp held
    cases field with
    | schemaVersion => exact .number _ _
    | _ => exact .string _ (readable_text _)

theorem ReceiptV3.ext_member {other : ReceiptV3}
    (same : ∀ field, r.member field = other.member field) : r = other := by
  obtain ⟨_, _, _, _, _, _, _, _, _, _, _, _, _, _⟩ := r
  obtain ⟨_, _, _, _, _, _, _, _, _, _, _, _, _, _⟩ := other
  have version := Value.number.inj (same .schemaVersion)
  simp only [ReceiptV3.mk.injEq]
  exact ⟨version, textValue_injective (same .receiptType), textValue_injective (same .executionID),
    textValue_injective (same .capability), textValue_injective (same .principal),
    textValue_injective (same .requestDigest), textValue_injective (same .providerID),
    textValue_injective (same .providerRunID), textValue_injective (same .outcome),
    textValue_injective (same .evidenceSHA256), textValue_injective (same .issuedAt),
    textValue_injective (same .publicKey), textValue_injective (same .signer),
    textValue_injective (same .signature)⟩

theorem member_spelled (version : r.schemaVersion = 3) (field : ReceiptV3Field) {held : Value Int}
    (spells : Spells ((r.member field).map Number.ofInt) held) : held = r.member field := by
  have three : parseInt (Number.ofInt 3).text = some 3 := by decide
  cases field with
  | schemaVersion =>
    change Spells (.number (Number.ofInt r.schemaVersion)) held at spells
    rw [version] at spells
    cases spells with
    | number spelled =>
      rw [three] at spelled
      cases spelled
      exact congrArg Value.number version.symm
  | _ =>
    cases spells
    exact congrArg textValue (textString_toList _)

theorem document_named : r.document.map (fun member => fieldOf folding member.1) =
    ReceiptV3Field.all.map some := by
  rw [ReceiptV3.document, List.map_map]
  exact List.map_congr_left fun field _ => fieldOf_name field

theorem decodeReceipt_document (version : r.schemaVersion = 3) :
    decodeReceipt folding (.object r.document) = .ok r := by
  have each : ∀ member ∈ r.document, ∃ field,
      matchField folding ReceiptV3Field.name ReceiptV3Field.all member.1 = some field ∧
        ∀ target, ∃ result, ReceiptV3Field.assign field member.2 target = .ok result := by
    intro member held
    obtain ⟨field, -, rfl⟩ := List.mem_map.mp held
    refine ⟨field, fieldOf_name field, fun target => ?_⟩
    cases field with
    | schemaVersion =>
      have written : (r.member .schemaVersion).map Number.ofInt = .number (Number.ofInt 3) := by
        rw [← version]
        rfl
      rw [written]
      exact ⟨{ target with schemaVersion := 3 }, rfl⟩
    | _ => exact ⟨_, rfl⟩
  obtain ⟨found, decoded⟩ : ∃ found, decodeReceipt folding (.object r.document) = .ok found :=
    decodeMembers_ok each ReceiptV3.zero
  have once : (r.document.map fun member => fieldOf folding member.1).Nodup := by
    rw [document_named]
    decide
  have states := statesReceipt_of_decoded decoded once
  suffices same : found = r from decoded.trans (congrArg Except.ok same)
  apply ReceiptV3.ext_member
  intro field
  have written : (field.name, (r.member field).map Number.ofInt) ∈ r.document :=
    List.mem_map.mpr ⟨field, field.mem_all, rfl⟩
  obtain ⟨other, named, stored⟩ := states.stated _ written
  cases (fieldOf_name field).symm.trans named
  rcases stored with ⟨null, -⟩ | spells
  · cases field <;> cases null
  · exact member_spelled version field spells

theorem decodeReceipt_restated (version : r.schemaVersion = 3) {key : Text} {field : ReceiptV3Field}
    (named : fieldOf folding key = some field) (spelled : field ≠ .schemaVersion) (text : String) :
    decodeReceipt folding (.object (r.document ++ [(key, textValue text)])) =
      .ok (field.set text r) := by
  have first : decodeMembers folding ReceiptV3Field.name ReceiptV3Field.all ReceiptV3Field.assign
      r.document .zero = .ok r := decodeReceipt_document version
  unfold fieldOf at named
  rw [decodeReceipt, decodeMembers_append first, decodeMembers, named]
  dsimp only
  rw [ReceiptV3Field.assign, if_neg spelled, textValue, textRunes, assignString, textString_toList]
  rfl

theorem document_keys : (r.document.map Prod.fst).Nodup := by
  rw [ReceiptV3.document, List.map_map]
  exact (by decide : (ReceiptV3Field.all.map ReceiptV3Field.name).Nodup)

theorem holds_nonempty {document : Value Number} (holds : Holds data document) :
    data.length ≠ 0 := by
  intro empty
  rw [List.length_eq_zero_iff.mp empty] at holds
  obtain ⟨rest, read, -⟩ := holds
  cases read

theorem parseReceipt_object (platform : Platform) {members : List (Text × Value Number)}
    (holds : Holds data (.object members)) (distinct : (members.map Prod.fst).Nodup)
    (decoded : decodeReceipt folding (.object members) = .ok r) (fits : data.length ≤ 64 * 1024) :
    parseReceipt (platform.withReceiptText texts folding) data = .ok r := by
  have unrepeated : (platform.withReceiptText texts folding).hasDuplicateKeys data = .ok false := by
    obtain ⟨rest, read, -⟩ := holds
    refine (hasDuplicateKeys_object read).trans ?_
    simp [distinct]
  unfold parseReceipt
  rw [if_neg (holds_nonempty holds), if_neg (Nat.not_lt.mpr fits), unrepeated]
  exact decodeReceiptV3_ok_iff.mpr ⟨_, holds, decoded⟩

theorem parseReceipt_marshal (platform : Platform) (version : r.schemaVersion = 3)
    (fits : r.marshal.length ≤ 64 * 1024) :
    parseReceipt (platform.withReceiptText texts folding) r.marshal = .ok r :=
  parseReceipt_object platform holds_marshal document_keys (decodeReceipt_document version) fits

theorem parseReceipt_decoded {platform : Platform}
    (parsed : parseReceipt (platform.withReceiptText texts folding) data = .ok r) :
    decodeReceiptV3 texts folding data = .ok r := by
  unfold parseReceipt at parsed
  simp only [↓refuse_ok_iff] at parsed
  obtain ⟨-, -, parsed⟩ := parsed
  cases searched : hasDuplicateKeys texts data with
  | error reason =>
    have refused : (platform.withReceiptText texts folding).hasDuplicateKeys data =
      .error reason := searched
    rw [refused] at parsed
    cases parsed
  | ok duplicate =>
    have found : (platform.withReceiptText texts folding).hasDuplicateKeys data =
      .ok duplicate := searched
    rw [found] at parsed
    cases duplicate with
    | false => exact parsed
    | true => cases parsed

end RoundTrip

section Checks

/-- What `validateFields` asks of a receipt. -/
@[mk_iff] structure ReceiptV3.Valid (platform : Platform) (r : ReceiptV3) : Prop where
  type : r.receiptType = Crabedence.receiptType
  version : r.schemaVersion = 3
  required : ((requiredFields r).find? fun field => isBlank field.2) = none
  outcome : r.outcome = outcomeCompleted ∧ isBlank r.providerRunID = false ∨
    r.outcome = outcomeNoEffect
  evidence : isHexDigest r.evidenceSHA256 = true
  issued : platform.parsesRFC3339Nano r.issuedAt = true
  key : ∃ key, platform.base64Decode r.publicKey = some key ∧ key.length = 32 ∧
    r.signer = platform.sha256 key
  signature : r.signature = "" ∨
    ∃ signature, platform.base64Decode r.signature = some signature ∧ signature.length = 64

theorem outcome_ok_iff {outcome run reason other : String} {A B : Type}
    {further : A → Except String Unit} {next : B → Except String Unit} {rest : Except String Unit} :
    (if outcome = outcomeCompleted then
        if isBlank run = true then (throw reason >>= further) else rest
      else if outcome ≠ outcomeNoEffect then (throw other >>= next) else rest) = .ok () ↔
      (outcome = outcomeCompleted ∧ isBlank run = false ∨ outcome = outcomeNoEffect) ∧
        rest = .ok () := by
  by_cases completed : outcome = outcomeCompleted
  · rw [if_pos completed, refuse_ok_iff]
    simp [completed, show outcomeCompleted ≠ outcomeNoEffect by decide]
  · rw [if_neg completed, refuse_ok_iff]
    simp [completed]

variable {platform : Platform} {r : ReceiptV3}

theorem validateFields_ok_iff : validateFields platform r = .ok () ↔ r.Valid platform := by
  rw [ReceiptV3.valid_iff]
  unfold validateFields
  simp only [↓refuse_ok_iff]
  cases blank : (requiredFields r).find? fun field => isBlank field.2 with
  | some field => simp [↓throw_bind_ok_iff]
  | none =>
    cases decoded : platform.base64Decode r.publicKey with
    | none =>
      simp only [↓outcome_ok_iff, ↓refuse_ok_iff, ↓throw_bind_ok_iff]
      simp
    | some key =>
      simp only [↓outcome_ok_iff, ↓refuse_ok_iff]
      by_cases unsigned : r.signature = ""
      · rw [if_neg (not_not.mpr unsigned)]
        simp [unsigned, pure, Except.pure]
      · rw [if_pos unsigned]
        cases signed : platform.base64Decode r.signature with
        | none => simp [unsigned, throw, throwThe, MonadExceptOf.throw]
        | some signature =>
          simp only [refuse_last_iff]
          simp [unsigned, and_assoc]

theorem verifySignature_ok_iff : verifySignature platform r = .ok () ↔
      r.Valid platform ∧ r.signature ≠ "" ∧
        platform.ed25519Verify ((platform.base64Decode r.publicKey).getD []) (signingBytes r)
          ((platform.base64Decode r.signature).getD []) = true := by
  rw [← validateFields_ok_iff]
  unfold verifySignature
  cases validateFields platform r with
  | error reason =>
    constructor
    · intro refused
      cases refused
    · rintro ⟨refused, -⟩
      cases refused
  | ok =>
    simp only [bind, Except.bind, true_and]
    by_cases unsigned : r.signature = ""
    · rw [if_pos unsigned]
      simp [unsigned]
    · rw [if_neg unsigned, refuse_last_iff]
      simp [unsigned]

end Checks

section Scheme

variable {K : Type}

/-- What the code relies on of base64 and Ed25519. -/
structure SigningKeys.Lawful (keys : SigningKeys K) (platform : Platform) : Prop where
  base64 : ∀ bytes, platform.base64Decode (keys.base64Encode bytes) = some bytes
  empty : platform.base64Decode "" = some []
  keySize : ∀ key, (keys.publicKey key).length = 32
  signatureSize : ∀ key message, (keys.sign key message).length = 64
  verifies : ∀ key message,
    platform.ed25519Verify (keys.publicKey key) message (keys.sign key message) = true

/-- An ideal scheme: of the signatures that are known to others, each verifies only for what the holder
of the key signed in one of the calls of `Sign`. -/
structure SigningKeys.Ideal (keys : SigningKeys K) (platform : Platform)
    (known : List UInt8 → Prop) (calls : K → String → Binding → Prop) : Prop
    extends keys.Lawful platform where
  unforgeable : ∀ publicKey message signature, known signature →
    platform.ed25519Verify publicKey message signature = true →
    ∃ key now b, keys.publicKey key = publicKey ∧ calls key now b ∧
      message = signingBytes (keys.draft platform key now b)
  short : ∀ key now b, calls key now b → b.Short

variable {keys : SigningKeys K} {platform : Platform} {texts : ReceiptTexts} {folding : Folding}
  {known : List UInt8 → Prop} {calls : K → String → Binding → Prop}

/-- The receipt that `Sign` writes. -/
def SigningKeys.signed (keys : SigningKeys K) (platform : Platform) (key : K) (now : String)
    (b : Binding) : ReceiptV3 :=
  let r := keys.draft platform key now b
  { r with signature := keys.base64Encode (keys.sign key (signingBytes r)) }

variable {key : K} {now : String} {b : Binding} {trusted : List String}

theorem signReceipt_ok (written : keys.signReceipt platform key now b = .ok data) :
    (keys.draft platform key now b).Valid platform ∧
      data = (keys.signed platform key now b).marshal := by
  unfold SigningKeys.signReceipt at written
  rw [← validateFields_ok_iff]
  cases valid : validateFields platform (keys.draft platform key now b) with
  | error reason =>
    simp only [valid] at written
    cases written
  | ok =>
    simp only [valid] at written
    cases written
    exact ⟨rfl, rfl⟩

theorem signReceipt_valid (valid : (keys.draft platform key now b).Valid platform) :
    keys.signReceipt platform key now b = .ok (keys.signed platform key now b).marshal := by
  unfold SigningKeys.signReceipt
  dsimp only
  rw [validateFields_ok_iff.mpr valid]
  rfl

/-- A receipt that `Sign` wrote has a valid signature. -/
theorem verifySignature_signed (lawful : keys.Lawful platform)
    (valid : (keys.draft platform key now b).Valid platform) :
    verifySignature platform (keys.signed platform key now b) = .ok () := by
  have decoded := lawful.base64 (keys.sign key (signingBytes (keys.draft platform key now b)))
  have size := lawful.signatureSize key (signingBytes (keys.draft platform key now b))
  refine verifySignature_ok_iff.mpr ⟨?_, ?_, ?_⟩
  · exact { valid with signature := .inr ⟨_, decoded, size⟩ }
  · intro unsigned
    have empty := lawful.empty
    rw [← unsigned] at empty
    rw [Option.some.inj (decoded.symm.trans empty)] at size
    cases size
  · change platform.ed25519Verify ((platform.base64Decode (keys.base64Encode _)).getD []) _
      ((platform.base64Decode (keys.base64Encode _)).getD []) = true
    rw [lawful.base64, lawful.base64]
    exact lawful.verifies key _

/-- A receipt that `Sign` wrote verifies against its own binding and no other, for those who trust the
key. -/
theorem signed_verifies_iff (lawful : keys.Lawful platform) {other : Binding}
    (written : keys.signReceipt (platform.withReceiptText texts folding) key now b = .ok data)
    (fits : data.length ≤ 64 * 1024) :
    verifyReceipt (platform.withReceiptText texts folding) data other trusted = .ok () ↔
      other = b ∧ keys.fingerprint platform key ∈ trusted := by
  obtain ⟨valid, rfl⟩ := signReceipt_ok written
  have parsed := @parseReceipt_marshal folding texts _ platform rfl fits
  have lawful : keys.Lawful (platform.withReceiptText texts folding) :=
    ⟨lawful.base64, lawful.empty, lawful.keySize, lawful.signatureSize, lawful.verifies⟩
  have verified := verifySignature_signed lawful valid
  rw [verifyReceipt_ok_iff]
  constructor
  · rintro ⟨r, again, -, trusts, binds⟩
    cases parsed.symm.trans again
    exact ⟨binds.symm, trusts⟩
  · rintro ⟨rfl, trusts⟩
    exact ⟨_, parsed, verified, trusts, rfl⟩

theorem accepted_signed (ideal : keys.Ideal platform known calls) (short : b.Short) {r : ReceiptV3}
    (carries : known ((platform.base64Decode r.signature).getD []))
    (verified : verifySignature (platform.withReceiptText texts folding) r = .ok ())
    (trusts : r.signer ∈ trusted) (binds : r.binding = b) :
    ∃ key now, calls key now b ∧ keys.fingerprint platform key ∈ trusted := by
  obtain ⟨valid, -, verifies⟩ := verifySignature_ok_iff.mp verified
  obtain ⟨key, now, called, held, made, message⟩ := ideal.unforgeable _ _ _ carries verifies
  have other : (keys.draft platform key now called).binding.Short := ideal.short key now called made
  have same : r.binding = called :=
    Binding.fields_injective (framed_inj rfl (binds ▸ short) other (signingBytes_fields message))
  have signer : r.signer = keys.fingerprint platform key := by
    obtain ⟨publicKey, decoded, -, signer⟩ := valid.key
    rw [decoded, Option.getD_some] at held
    rw [signer, SigningKeys.fingerprint, held]
    rfl
  exact ⟨key, now, binds ▸ same ▸ made, signer ▸ trusts⟩

/-- Three facts about receipts. -/
theorem receipts_bind_iff (ideal : keys.Ideal platform known calls) :
    (∀ key now b other trusted data,
      keys.signReceipt (platform.withReceiptText texts folding) key now b = .ok data →
      data.length ≤ 64 * 1024 →
      (verifyReceipt (platform.withReceiptText texts folding) data other trusted = .ok () ↔
        other = b ∧ keys.fingerprint platform key ∈ trusted)) ∧
    (∀ r other : ReceiptV3, (∀ text ∈ r.signedFields, text.utf8ByteSize < 2 ^ 32) →
      (∀ text ∈ other.signedFields, text.utf8ByteSize < 2 ^ 32) →
      signingBytes r = signingBytes other → r.signedFields = other.signedFields) ∧
    ∀ data b trusted, b.Short →
      (∀ r, parseReceipt (platform.withReceiptText texts folding) data = .ok r →
        known ((platform.base64Decode r.signature).getD [])) →
      verifyReceipt (platform.withReceiptText texts folding) data b trusted = .ok () →
      ((∃ r, Encodes folding data r ∧ r.binding = b ∧
          ∃ key now, calls key now b ∧ keys.fingerprint platform key ∈ trusted) ↔
        StatedOnce folding data) := by
  refine ⟨fun _ _ _ _ _ _ => signed_verifies_iff ideal.toLawful, fun _ _ => signingBytes_inj, ?_⟩
  intro data b trusted short carries accepted
  obtain ⟨r, parsed, verified, trusts, binds⟩ := verifyReceipt_ok_iff.mp accepted
  obtain ⟨key, now, made, trusted⟩ := accepted_signed ideal short (carries r parsed) verified trusts
    binds
  have typed : r.receiptType ≠ "" := by
    rw [(verifySignature_ok_iff.mp verified).1.type]
    decide
  have decoded := parseReceipt_decoded parsed
  constructor
  · rintro ⟨other, ⟨members, holds, states⟩, -⟩ others held
    cases holds.unique held
    exact states.once
  · intro once
    exact ⟨r, (encodes_iff_statedOnce decoded typed).mpr once, binds, key, now, made, trusted⟩

end Scheme

section Samples

def bytesText (bytes : List UInt8) : String :=
  String.ofList (bytes.map fun byte => Char.ofNat (byte.toNat + 65))

def textBytes (text : String) : Option (List UInt8) :=
  some (text.toList.map fun c => UInt8.ofNat (c.toNat - 65))

theorem textBytes_bytesText (bytes : List UInt8) : textBytes (bytesText bytes) = some bytes := by
  have byte (n : UInt8) : UInt8.ofNat ((Char.ofNat (n.toNat + 65)).toNat - 65) = n := by
    have valid : (n.toNat + 65).isValidChar := by
      have small := n.toNat_lt
      exact .inl (by omega)
    have same : (Char.ofNat (n.toNat + 65)).toNat = n.toNat + 65 := by
      rw [Char.ofNat, dif_pos valid]
      rfl
    rw [same, Nat.add_sub_cancel, UInt8.ofNat_toNat]
  simp [textBytes, bytesText, Function.comp_def, byte]

def sampleAttested : Binding :=
  ⟨"execution", "capability", "principal", "digest", "provider", "run", outcomeCompleted,
    sampleEvidenceDigest⟩

def sampleNow : String := "2026-01-01T00:00:00Z"

/-- The sample receipt before it is signed. -/
def sampleDraft : ReceiptV3 where
  schemaVersion := 3
  receiptType := receiptType
  executionID := "execution"
  capability := "capability"
  principal := "principal"
  requestDigest := "digest"
  providerID := "provider"
  providerRunID := "run"
  outcome := outcomeCompleted
  evidenceSHA256 := sampleEvidenceDigest
  issuedAt := sampleNow
  publicKey := bytesText (List.replicate 32 0)
  signer := samplePlatform.sha256 (List.replicate 32 0)
  signature := ""

def sampleKeys : SigningKeys Unit where
  publicKey := fun _ => List.replicate 32 0
  sign := fun _ message => List.replicate 64 (if message = signingBytes sampleDraft then 0 else 1)
  base64Encode := bytesText

def receiptPlatform : Platform :=
  { samplePlatform.toPlatform with
    base64Decode := textBytes
    parsesRFC3339Nano := fun _ => true
    ed25519Verify := fun key message signature =>
      decide (key = List.replicate 32 0 ∧ signature = sampleKeys.sign () message) }

theorem sampleKeys_ideal : sampleKeys.Ideal receiptPlatform
    (fun signature => signature = List.replicate 64 0)
    (fun _ now b => now = sampleNow ∧ b = sampleAttested) where
  base64 := textBytes_bytesText
  empty := rfl
  keySize := fun _ => rfl
  signatureSize := fun _ _ => List.length_replicate
  verifies := fun _ _ => decide_eq_true ⟨rfl, rfl⟩
  unforgeable := by
    rintro publicKey message signature rfl verified
    obtain ⟨held, signed⟩ := of_decide_eq_true verified
    refine ⟨(), sampleNow, sampleAttested, held.symm, ⟨rfl, rfl⟩, ?_⟩
    have drafted : sampleKeys.draft receiptPlatform () sampleNow sampleAttested = sampleDraft := rfl
    rw [drafted]
    by_contra other
    change List.replicate 64 0 = List.replicate 64 (if message = signingBytes sampleDraft then 0 else 1)
      at signed
    rw [if_neg other] at signed
    exact absurd signed (by decide)
  short := by
    rintro - - - ⟨-, rfl⟩
    unfold Binding.Short
    decide

def sampleReceiptTexts : ReceiptTexts := ⟨"invalid", fun _ => "invalid", fun _ => "invalid"⟩

def textPlatform : Platform := receiptPlatform.withReceiptText sampleReceiptTexts .ascii

def sampleWritten : ReceiptV3 := { sampleDraft with signature := bytesText (List.replicate 64 0) }

theorem sample_valid : sampleDraft.Valid textPlatform where
  type := rfl
  version := rfl
  required := by decide
  outcome := .inl ⟨rfl, by decide⟩
  evidence := by decide
  issued := rfl
  key := ⟨_, textBytes_bytesText _, rfl, rfl⟩
  signature := .inl rfl

theorem sample_signed :
    sampleKeys.signed textPlatform () sampleNow sampleAttested = sampleWritten := by
  have drafted : sampleKeys.draft textPlatform () sampleNow sampleAttested = sampleDraft := rfl
  have zeros : sampleKeys.sign () (signingBytes sampleDraft) = List.replicate 64 0 := by
    unfold sampleKeys
    dsimp only
    rw [if_pos rfl]
  unfold SigningKeys.signed
  rw [drafted]
  dsimp only
  rw [zeros]
  rfl

theorem sample_signs :
    sampleKeys.signReceipt textPlatform () sampleNow sampleAttested = .ok sampleWritten.marshal := by
  rw [← sample_signed]
  exact signReceipt_valid sample_valid

theorem sample_fits : sampleWritten.marshal.length ≤ 64 * 1024 := by
  decide +kernel

/-- The written sample receipt is accepted for its binding, and is an encoding of it. -/
theorem receipts_bind_sample :
    verifyReceipt textPlatform sampleWritten.marshal sampleAttested [sampleDraft.signer] = .ok () ∧
    ∃ r, Encodes .ascii sampleWritten.marshal r ∧ r.binding = sampleAttested := by
  obtain ⟨verifies, -, encodes⟩ := @receipts_bind_iff _ _ _ sampleReceiptTexts .ascii _ _
    sampleKeys_ideal
  have accepted := (verifies () _ _ sampleAttested [sampleDraft.signer] _ sample_signs
    sample_fits).mpr ⟨rfl, List.mem_cons_self⟩
  have once : StatedOnce .ascii sampleWritten.marshal := by
    intro members holds
    cases holds_marshal.unique holds
    rw [document_named]
    decide
  obtain ⟨r, states, binds, -⟩ := (encodes _ _ _ (by unfold Binding.Short; decide) (by
    intro r parsed
    cases (parseReceipt_marshal receiptPlatform rfl sample_fits).symm.trans parsed
    rfl) accepted).mpr once
  exact ⟨accepted, r, states, binds⟩

def restated : List (Text × Value Number) :=
  { sampleWritten with outcome := outcomeNoEffect }.document ++
    [(nameText "Outcome", textValue outcomeCompleted)]

/-- A text whose `outcome` is `NO_EFFECT` is accepted as proof of a completed effect: the key that
states the outcome again differs in case, so it is no duplicate, and it is decoded last. -/
theorem restated_outcome_accepted :
    ∃ data members, Holds data (.object members) ∧
      (nameText "outcome", textValue outcomeNoEffect) ∈ members ∧
      verifyReceipt textPlatform data sampleAttested [sampleDraft.signer] = .ok () ∧
      sampleAttested.outcome = outcomeCompleted ∧ ¬ ∃ r, Encodes .ascii data r := by
  have holds : Holds (Utf8.encode (Value.object restated).text) (.object restated) :=
    holds_text (Value.within_iff.mpr ⟨by decide, by decide⟩)
  have decoded : decodeReceipt .ascii (.object restated) = .ok sampleWritten :=
    decodeReceipt_restated rfl (by decide : fieldOf .ascii (nameText "Outcome") = some .outcome)
      (by decide) outcomeCompleted
  have fits : (Utf8.encode (Value.object restated).text).length ≤ 64 * 1024 := by decide +kernel
  have lawful : sampleKeys.Lawful textPlatform :=
    ⟨sampleKeys_ideal.base64, sampleKeys_ideal.empty, sampleKeys_ideal.keySize,
      sampleKeys_ideal.signatureSize, sampleKeys_ideal.verifies⟩
  have verified : verifySignature textPlatform sampleWritten = .ok () := by
    rw [← sample_signed]
    exact verifySignature_signed lawful sample_valid
  have twice : ¬ (restated.map fun member => fieldOf .ascii member.1).Nodup := by decide
  have stated : (nameText "outcome", textValue outcomeNoEffect) ∈ restated :=
    List.mem_append_left _ (List.mem_map.mpr ⟨.outcome, ReceiptV3Field.mem_all _, rfl⟩)
  refine ⟨_, restated, holds, stated, verifyReceipt_ok_iff.mpr ⟨sampleWritten,
    parseReceipt_object receiptPlatform holds (by decide) decoded fits, verified,
    List.mem_cons_self, rfl⟩, rfl, ?_⟩
  rintro ⟨r, members, held, states⟩
  rw [Value.object.inj (holds.unique held)] at twice
  exact twice states.once

end Samples

end Crabedence
