import Crabedence.Checks
import Crabedence.Contract
import Crabedence.Digest.Number
import Crabedence.Json.Decoded

/-!
# Canonical JSON

`normalizeNumbers` and `canonicalizeJSON`: a document is decoded, its numbers are rewritten to
canonical form, and it is encoded again.  Two documents have the same canonical bytes exactly if
they denote the same JSON value, and canonical bytes are their own canonical form.
-/

namespace Crabedence

open Json Utf8

/-- The ways a decode can fail; `malformed` stands for every error of the decoder's own. -/
inductive DecodeError where
  | eof
  | malformed
  | mismatch
  | trailing
deriving DecidableEq, Repr

/-- The texts the library contributes to error messages: `%q`, and the decoder's errors. -/
structure ErrorTexts where
  quote : String → String
  decode : DecodeError → String

def errTrailingJSON : String := "trailing data after first JSON value"

def ErrorTexts.describe (texts : ErrorTexts) : DecodeError → String
  | .trailing => errTrailingJSON
  | failure => texts.decode failure

def ErrorTexts.number (texts : ErrorTexts) (failure : NumberError) : String :=
  "invalid JSON number " ++ texts.quote (String.ofList failure.literal) ++ ": " ++ failure.reason

def maxNestingDepth : Nat := 10000

def replacementCharacter : Rune := some '\uFFFD'

/-- `Decoder.Decode` with `UseNumber`: the next value, and what follows it. -/
def decodeValue (input : List Rune) : Except DecodeError (Value Number × List Rune) :=
  if skipBlank input = [] then .error .eof
  else
    match parse replacementCharacter maxNestingDepth input with
    | some result => .ok result
    | none => .error .malformed

/-- The second `Decode`, which must find nothing. -/
def requireEOF (rest : List Rune) : Except DecodeError Unit :=
  match decodeValue rest with
  | .error .eof => .ok ()
  | .error failure => .error failure
  | .ok _ => .error .trailing

/-- `json.Marshal` of a value whose numbers are literals. -/
def marshal (value : Value (List Char)) : List UInt8 := Utf8.encode value.print

section Normalize

variable (texts : ErrorTexts)

def canonicalNumberLiteral (lit : List Char) : Except String (Value (List Char)) :=
  match canonicalJSONNumber lit with
  | .ok canonical => .ok (.number canonical)
  | .error failure => .error (texts.number failure)

/-- The recursion of `normalizeNumbers`: containers are rebuilt, the first error ends it. -/
def normalizeWith {N : Type} (leaf : N → Except String (Value (List Char))) :
    Value N → Except String (Value (List Char)) :=
  Value.fold {
    null := .ok .null
    bool := fun value => .ok (.bool value)
    number := leaf
    string := fun text => .ok (.string text)
    array := fun items => do
      let items ← items.mapM id
      return .array items
    object := fun members => do
      let members ← members.mapM fun member => do
        let value ← member.2
        return (member.1, value)
      return .object members
  }

/-- The text `canonicalizeJSON` marshals, on input that is not empty. -/
def canonicalText (raw : RawMessage) : Except String (List Char) := do
  let (v, rest) ← (decodeValue (Utf8.decode raw)).mapError texts.decode
  (requireEOF rest).mapError fun failure => "invalid JSON: " ++ texts.describe failure
  let normalized ← (normalizeWith (fun number => canonicalNumberLiteral texts (Number.text number))
    v.collect).mapError fun failure => "invalid JSON: " ++ failure
  return normalized.print

/-- `canonicalizeJSON` past its check for empty input. -/
def canonicalizeMessage (raw : RawMessage) : Except String RawMessage := do
  let text ← canonicalText texts raw
  return Utf8.encode text

/-- The numeric values of a Go tree: `json.Number`, the integer types, the float types by their
shortest decimal text, and raw JSON. -/
inductive Leaf where
  | number (literal : List Char)
  | integer (value : Int)
  | float (shortest : List Char)
  | raw (message : RawMessage)

def normalizeLeaf : Leaf → Except String (Value (List Char))
  | .number literal => canonicalNumberLiteral texts literal
  | .integer value => canonicalNumberLiteral texts (integerText value)
  | .float shortest => canonicalNumberLiteral texts shortest
  | .raw message =>
    -- a nil message is written as null, any other one as the text it holds
    if message.length = 0 then .ok .null
    else do
      let text ← canonicalText texts message
      return .number text

def normalizeNumbers : Value Leaf → Except String (Value (List Char)) :=
  normalizeWith (normalizeLeaf texts)

end Normalize

def Holds (raw : RawMessage) (document : Value Number) : Prop :=
  ∃ rest, decodeValue (Utf8.decode raw) = .ok (document, rest) ∧ requireEOF rest = .ok ()

variable {document other : Value Number}

theorem Holds.unique {raw : RawMessage} (holds : Holds raw document) (also : Holds raw other) :
    document = other := by
  obtain ⟨rest, decoded, -⟩ := holds
  obtain ⟨further, again, -⟩ := also
  rw [decoded] at again
  exact congrArg Prod.fst (Except.ok.inj again)

def Decodes (raw : RawMessage) (value : Value Number) : Prop :=
  ∃ document rest, decodeValue (Utf8.decode raw) = .ok (document, rest) ∧
    requireEOF rest = .ok () ∧ document.collect = value

theorem mapM_ok {A B C : Type} {f : A → Except C B} {g : A → B} {items : List A}
    (each : ∀ item ∈ items, f item = .ok (g item)) : items.mapM f = .ok (items.map g) := by
  induction items with
  | nil => rfl
  | cons item items ih =>
    rw [List.mapM_cons, each item (by simp), ih fun item held => each item (by simp [held])]
    rfl

variable {N : Type} {raw out : RawMessage} {value : Value Number} {texts : ErrorTexts}
  {input : List Rune} {result : Value Number × List Rune}

theorem normalizeWith_ok {leaf : N → Except String (Value (List Char))} {f : N → List Char}
    (total : ∀ value, leaf value = .ok (.number (f value))) (tree : Value N) :
    normalizeWith leaf tree = .ok (tree.map f) := by
  induction tree using Value.induct with
  | null | bool value => rfl
  | number value => exact total value
  | string text => rfl
  | array items ih =>
    rw [normalizeWith, Value.fold_array, Value.map_array]
    dsimp only
    rw [List.mapM_map]
    exact congrArg (· >>= fun items => pure (Value.array items)) (mapM_ok ih)
  | object members ih =>
    have each : ∀ member ∈ members, (do
        let value ← normalizeWith leaf member.2
        return (member.1, value) : Except String (Text × Value (List Char))) =
          .ok (member.1, member.2.map f) := by
      intro member held
      rw [ih member held]
      rfl
    rw [normalizeWith, Value.fold_object, Value.map_object]
    dsimp only
    rw [List.mapM_map]
    exact congrArg (· >>= fun members => pure (Value.object members)) (mapM_ok each)

theorem normalizeWith_map {M : Type} (leaf : M → Except String (Value (List Char))) (f : N → M)
    (tree : Value N) :
    normalizeWith leaf (tree.map f) = normalizeWith (fun value => leaf (f value)) tree :=
  Value.fold_map _ f tree

theorem normalizeWith_decoded (texts : ErrorTexts) (value : Value Number) :
    normalizeWith (fun number => canonicalNumberLiteral texts (Number.text number)) value =
      .ok ((value.map Number.normalize).map Number.text) := by
  rw [Value.map_map]
  apply normalizeWith_ok
  intro number
  rw [canonicalNumberLiteral, canonicalJSONNumber_text]
  rfl

theorem Decodes.nonempty (decodes : Decodes raw value) : raw.length ≠ 0 := by
  intro empty
  obtain ⟨document, rest, read, -, -⟩ := decodes
  rw [List.length_eq_zero_iff.mp empty] at read
  cases read

theorem Decodes.unique (first : Decodes raw value) (second : Decodes raw other) :
    value = other := by
  obtain ⟨document, rest, read, -, rfl⟩ := first
  obtain ⟨same, after, again, -, rfl⟩ := second
  rw [read] at again
  cases again
  rfl

theorem decodes_of_canonicalText {text : List Char} (accepted : canonicalText texts raw = .ok text) :
    ∃ value, Decodes raw value := by
  obtain ⟨result, read, accepted⟩ := Checks.bind_ok_iff.mp accepted
  obtain ⟨_, ended, _⟩ := Checks.bind_ok_iff.mp accepted
  exact ⟨result.1.collect, result.1, result.2, Checks.mapError_ok_iff.mp read,
    Checks.mapError_ok_iff.mp ended, rfl⟩

theorem canonicalizeMessage_of_decodes (texts : ErrorTexts) (decodes : Decodes raw value) :
    canonicalizeMessage texts raw = .ok (Utf8.encode (value.map Number.normalize).text) := by
  obtain ⟨document, rest, read, ended, rfl⟩ := decodes
  unfold canonicalizeMessage canonicalText
  rw [read]
  dsimp only [Except.mapError, bind, Except.bind]
  rw [ended]
  rw [normalizeWith_decoded]
  rfl

theorem decodes_of_canonicalizeMessage (accepted : canonicalizeMessage texts raw = .ok out) :
    ∃ value, Decodes raw value ∧ out = Utf8.encode (value.map Number.normalize).text := by
  obtain ⟨_, written, _⟩ := Checks.bind_ok_iff.mp accepted
  obtain ⟨value, decodes⟩ := decodes_of_canonicalText written
  rw [canonicalizeMessage_of_decodes texts decodes] at accepted
  exact ⟨value, decodes, (Except.ok.inj accepted).symm⟩

theorem parse_of_decodeValue (read : decodeValue input = .ok result) :
    parse replacementCharacter maxNestingDepth input = some result := by
  unfold decodeValue at read
  split_ifs at read
  split at read
  · cases read
    assumption
  · cases read

theorem decodeValue_of_parse
    (parsed : parse replacementCharacter maxNestingDepth input = some result) :
    decodeValue input = .ok result := by
  have visible : skipBlank input ≠ [] := by
    intro blank
    rw [show maxNestingDepth = maxNestingDepth - 1 + 1 from rfl, parse, blank] at parsed
    cases parsed
  rw [decodeValue, if_neg visible, parsed]

theorem requireEOF_nil : requireEOF [] = .ok () := rfl

theorem requireEOF_ok_iff {rest : List Rune} : requireEOF rest = .ok () ↔ skipBlank rest = [] := by
  unfold requireEOF decodeValue
  split_ifs with blank
  · exact ⟨fun _ => blank, fun _ => rfl⟩
  · refine ⟨fun ended => ?_, fun blank' => absurd blank' blank⟩
    cases read : parse replacementCharacter maxNestingDepth rest with
    | none | some result =>
      rw [read] at ended
      cases ended

theorem Decodes.within (decodes : Decodes raw value) :
    value.Within (Readable replacementCharacter) maxNestingDepth := by
  obtain ⟨document, rest, read, -, rfl⟩ := decodes
  exact (parse_within (by simp [replacementCharacter]) (parse_of_decodeValue read)).collect

theorem Decodes.collected (decodes : Decodes raw value) : value.collect = value := by
  obtain ⟨document, -, -, -, rfl⟩ := decodes
  exact document.collect_collect

theorem holds_text (within : document.Within (Readable replacementCharacter) maxNestingDepth) :
    Holds (Utf8.encode document.text) document := by
  have read := parse_text within stopsNumber_nil
  rw [List.append_nil] at read
  have visible : skipBlank (document.text.map some) ≠ [] := by
    obtain ⟨c, tail, shape, blank, -, -⟩ := document.text_opens
    rw [shape, List.map_cons, skipBlank_cons blank]
    exact List.cons_ne_nil _ _
  refine ⟨[], ?_, requireEOF_nil⟩
  rw [Utf8.decode_encode, decodeValue, if_neg visible, read]

theorem decodes_text (within : value.Within (Readable replacementCharacter) maxNestingDepth)
    (collected : value.collect = value) : Decodes (Utf8.encode value.text) value := by
  obtain ⟨rest, read, ended⟩ := holds_text within
  exact ⟨value, rest, read, ended, collected⟩

theorem marshal_integers (value : Value Int) :
    marshal (value.map integerText) = Utf8.encode (value.map Number.ofInt).text := by
  have spelled : integerText = Number.text ∘ Number.ofInt :=
    funext fun n => (Number.text_ofInt n).symm
  rw [marshal, Value.text, Value.map_map, spelled]

theorem Decodes.normalized (decodes : Decodes raw value) :
    Decodes (Utf8.encode (value.map Number.normalize).text) (value.map Number.normalize) := by
  apply decodes_text (decodes.within.map Number.normalize)
  rw [Value.collect_map, decodes.collected]

theorem normalize_normalize (number : Number) : number.normalize.normalize = number.normalize :=
  (Number.normalize_eq_iff number.normalize number).mpr number.value_normalize

theorem canonicalizeMessage_idempotent (accepted : canonicalizeMessage texts raw = .ok out) :
    canonicalizeMessage texts out = .ok out := by
  obtain ⟨value, decodes, rfl⟩ := decodes_of_canonicalizeMessage accepted
  have same : (value.map Number.normalize).map Number.normalize = value.map Number.normalize := by
    rw [Value.map_map]
    exact congrArg (fun f => value.map f) (funext normalize_normalize)
  rw [canonicalizeMessage_of_decodes texts decodes.normalized, same]

end Crabedence
