import Crabedence.Authority.Material

/-!
# Decoding what was issued

The SQLite store writes the capability list and the constraint map as `json.Marshal` encodes them.  If
its strings are valid UTF-8 the strict decode reads the list back as it was.
-/

namespace Crabedence.Authority

open Go Json Capability

variable {printing : Printing}

theorem goString_decode {text : Str} (valid : Utf8.Valid text) : goString (Utf8.decode text) = text := by
  apply Utf8.encode_of_decode
  have characters : ∀ rune ∈ Utf8.decode text, some (rune.getD '\uFFFD') = rune := by
    intro rune held
    cases rune with
    | none => exact absurd held valid
    | some c => rfl
  rw [textString, String.toList_ofList, List.map_map]
  exact ((List.map_congr_left characters).trans (List.map_id' _)).symm

theorem unmarshalDocument_text {document : Value Number}
    (within : document.Within (Readable replacementCharacter) maxNestingDepth) :
    unmarshalDocument printing (Utf8.encode document.text) = .ok document := by
  obtain ⟨rest, read, ended⟩ := holds_text within
  unfold unmarshalDocument
  rw [read]
  change (do
    (requireEOF rest).mapError printing.texts.decode
    return document) = Except.ok document
  rw [ended]
  rfl

variable {c : Char} {text : List Char}

theorem isBlank_encode (visible : isSpace c = false) :
    isBlank (Utf8.encode (c :: text)) = false := by
  rw [isBlank, Utf8.decode_encode]
  simp [visible]

theorem decodeCanonical_marshal {A : Type} {name : String}
    {unmarshal : Value Number → Except String A} {encode : A → Value Int} {value result : A}
    (within : ((encode value).map Number.ofInt).Within (Readable replacementCharacter) maxNestingDepth)
    (opens : ((encode value).map Number.ofInt).text = c :: text) (visible : isSpace c = false)
    (decoded : unmarshal ((encode value).map Number.ofInt) = .ok result)
    (same : encode result = encode value) :
    decodeCanonical printing name unmarshal encode (marshal ((encode value).map integerText)) =
      .ok result := by
  unfold decodeCanonical
  rw [marshal_integers, opens, isBlank_encode visible, if_neg Bool.false_ne_true, ← opens,
    unmarshalDocument_text within]
  simp only [Except.bind, decoded]
  rw [if_neg (not_not.mpr (by rw [same, marshal_integers]))]

def ValidStrings (items : Option (List Str)) : Prop :=
  ∀ list, items = some list → ∀ item ∈ list, Utf8.Valid item

section Strings

variable {N M : Type} {items : Option (List Str)}

theorem stringsValue_map (f : N → M) : (stringsValue items : Value N).map f = stringsValue items := by
  cases items with
  | none => rfl
  | some items =>
    rw [stringsValue, Value.map_array, List.map_map]
    rfl

theorem stringsValue_within {depth : Nat} (valid : ValidStrings items) :
    (stringsValue items : Value N).Within (Readable replacementCharacter) (depth + 1) := by
  cases items with
  | none => exact .null _
  | some list =>
    refine .array ?_
    intro item held
    obtain ⟨text, listed, rfl⟩ := List.mem_map.mp held
    exact .string _ (.inr (valid list rfl text listed))

theorem unmarshalStrings_value (valid : ValidStrings items) :
    unmarshalStrings (stringsValue items) = .ok items := by
  cases items with
  | none => rfl
  | some list =>
    have each : ∀ item ∈ list, unmarshalString (stringValue item) = some item := by
      intro item held
      exact congrArg some (goString_decode (valid list rfl item held))
    unfold unmarshalStrings stringsValue
    dsimp only
    rw [List.mapM_map, @mapM_ok _ _ _ _ id _ fun item held => by
      rw [Function.comp_apply, each item held]
      rfl]
    exact congrArg (fun list => Except.ok (some list)) (List.map_id list)

end Strings

theorem decodeCapabilitiesJSON_marshal {caps : Option (List Str)} (valid : ValidStrings caps) :
    decodeCapabilitiesJSON printing (marshal ((stringsValue caps).map integerText)) =
      .ok (caps.getD []) := by
  unfold decodeCapabilitiesJSON
  have read : unmarshalStrings ((stringsValue caps).map Number.ofInt) = .ok caps := by
    rw [stringsValue_map, unmarshalStrings_value valid]
  have within : ((stringsValue caps).map Number.ofInt).Within (Readable replacementCharacter)
      maxNestingDepth := by
    rw [stringsValue_map]
    exact stringsValue_within valid
  have decoded : decodeCanonical printing "capabilities" unmarshalStrings stringsValue
      (marshal ((stringsValue caps).map integerText)) = .ok caps := by
    cases caps with
    | none | some list => exact decodeCanonical_marshal within rfl (by decide) read rfl
  rw [decoded]
  rfl

/-- A grant without constraints is written with an empty map. -/
theorem decodeConstraintsJSON_empty :
    decodeConstraintsJSON printing (marshal ((constraintsValue .empty).map integerText)) =
      .ok .empty := by
  have decoded : decodeCanonical printing "constraints" unmarshalConstraints optionalConstraints
      (marshal ((optionalConstraints (some .empty)).map integerText)) = .ok (some .empty) :=
    decodeCanonical_marshal (.object nofun nofun) rfl (by decide) rfl rfl
  exact congrArg (Except.map heldConstraints) decoded

theorem hashedBytes_ne_nil (g : Grant) : g.hashedBytes ≠ [] := by
  rw [Grant.hashedBytes, marshal_integers]
  exact Utf8.encode_ne_nil (Value.text_ne_nil _)

/-- A current row without constraints whose list was written by the issuer resolves if its digest is
that of the grant it holds. -/
theorem resolve_written {sha256 : List UInt8 → Str} {grantID : Str} {row : GrantRow} {now : Int64}
    {caps : Option (List Str)} (named : grantID ≠ []) (current : row.revoked = false)
    (unexpired : row.unexpired now = true) (valid : ValidStrings caps)
    (capsWritten : row.capabilities = marshal ((stringsValue caps).map integerText))
    (constraintsWritten : row.constraints = marshal ((constraintsValue .empty).map integerText))
    (verified : verifyGrantDigest sha256 (row.grant .sqlite grantID (caps.getD []) .empty) = true) :
    resolve .sqlite printing sha256 grantID row.principal (some row) now =
      .ok (some (row.grant .sqlite grantID (caps.getD []) .empty)) := by
  have material : Engine.sqlite.decodeMaterial printing row = .ok (caps.getD [], .empty) := by
    unfold Engine.decodeMaterial
    rw [capsWritten, constraintsWritten, decodeCapabilitiesJSON_marshal valid,
      decodeConstraintsJSON_empty]
    rfl
  unfold resolve
  dsimp only
  rw [if_neg named, if_neg (by simp [current, unexpired]), material]
  dsimp only
  rw [if_pos verified]

end Crabedence.Authority
