import Mathlib.Data.List.Basic

/-!
# UTF-8 with replacement

Byte strings read as runes: a well-formed sequence is its character, and a byte that starts no
well-formed sequence is a rune of its own without a character.
-/

namespace Utf8

/-- A character, or a byte that is not part of one. -/
abbrev Rune := Option Char

instance lawfulRunes : LawfulBEq (List Rune) := inferInstance

instance lawfulBytes : LawfulBEq (List UInt8) := inferInstance

def encode (text : List Char) : List UInt8 := text.flatMap String.utf8EncodeChar

def decodeFrom : Nat → List UInt8 → List Rune
  | _, [] => []
  | skip + 1, _ :: rest => decodeFrom skip rest
  | 0, byte :: rest =>
    match ((byte :: rest).take 4).toByteArray.utf8DecodeChar? 0 with
    | some c => some c :: decodeFrom (c.utf8Size - 1) rest
    | none => none :: decodeFrom 0 rest

def decode (bytes : List UInt8) : List Rune := decodeFrom 0 bytes

theorem encode_cons (c : Char) (text : List Char) :
    encode (c :: text) = String.utf8EncodeChar c ++ encode text := rfl

theorem length_encode_le (text : List Char) : (encode text).length ≤ 4 * text.length := by
  induction text with
  | nil => exact Nat.zero_le _
  | cons c text ih =>
    have size := c.utf8Size_le_four
    rw [encode_cons, List.length_append, String.length_utf8EncodeChar, List.length_cons]
    omega

theorem decodeFrom_append (skipped rest : List UInt8) :
    decodeFrom skipped.length (skipped ++ rest) = decodeFrom 0 rest := by
  induction skipped with
  | nil => rfl
  | cons byte skipped ih => exact ih

theorem decodeFrom_encode_cons (c : Char) (rest : List UInt8) :
    decodeFrom 0 (String.utf8EncodeChar c ++ rest) = some c :: decodeFrom 0 rest := by
  have size := String.length_utf8EncodeChar c
  have positive := c.utf8Size_pos
  have bound := c.utf8Size_le_four
  have window : (String.utf8EncodeChar c ++ rest).take 4 =
      String.utf8EncodeChar c ++ rest.take (4 - c.utf8Size) := by
    rw [List.take_append, size, List.take_of_length_le (by omega)]
  have read : ((String.utf8EncodeChar c ++ rest).take 4).toByteArray.utf8DecodeChar? 0 = some c := by
    rw [window, List.toByteArray_append]
    exact ByteArray.utf8DecodeChar?_utf8EncodeChar_append
  cases shape : String.utf8EncodeChar c with
  | nil =>
    rw [shape] at size
    exact absurd size.symm (Nat.ne_of_gt positive)
  | cons byte tail =>
    rw [shape, List.length_cons] at size
    rw [shape, List.cons_append] at read
    have skip : c.utf8Size - 1 = tail.length := by omega
    rw [List.cons_append, decodeFrom, read]
    dsimp only
    rw [skip, decodeFrom_append]

theorem decode_encode (text : List Char) : decode (encode text) = text.map some := by
  unfold decode
  induction text with
  | nil => rfl
  | cons c text ih => rw [encode_cons, decodeFrom_encode_cons, ih, List.map_cons]

variable {text : List Char} {bytes : List UInt8}

theorem encode_injective {other : List Char} (same : encode text = encode other) :
    text = other := by
  have runes := congrArg decode same
  rw [decode_encode, decode_encode] at runes
  exact List.map_injective_iff.mpr (fun _ _ => Option.some.inj) runes

theorem encode_ne_nil (written : text ≠ []) : encode text ≠ [] := by
  intro empty
  exact written (encode_injective empty)

theorem encode_of_decode (read : decode bytes = text.map some) : encode text = bytes := by
  unfold decode at read
  induction text generalizing bytes with
  | nil =>
    cases bytes with
    | nil => rfl
    | cons byte rest =>
      rw [decodeFrom] at read
      split at read <;> cases read
  | cons c text ih =>
    cases bytes with
    | nil => cases read
    | cons byte rest =>
      cases first : ((byte :: rest).take 4).toByteArray.utf8DecodeChar? 0 with
      | none =>
        rw [decodeFrom, first] at read
        cases read
      | some found =>
        -- the bytes of the first character are there, whatever comes after them
        obtain ⟨after, split⟩ : ∃ after, byte :: rest = String.utf8EncodeChar found ++ after := by
          have window := congrArg (fun array => array.data.toList)
            (ByteArray.eq_of_utf8DecodeChar?_eq_some first)
          simp only [ByteArray.data_append, Array.toList_append, List.toList_data_toByteArray]
            at window
          have whole := List.take_append_drop 4 (byte :: rest)
          rw [window, List.append_assoc] at whole
          exact ⟨_, whole.symm⟩
        rw [split, decodeFrom_encode_cons, List.map_cons, List.cons.injEq] at read
        obtain ⟨same, further⟩ := read
        cases same
        rw [encode_cons, ih further, split]

def Valid (bytes : List UInt8) : Prop := none ∉ decode bytes

instance (bytes : List UInt8) : Decidable (Valid bytes) := inferInstanceAs (Decidable (¬ _))

def chars (bytes : List UInt8) : List Char := (decode bytes).map fun rune => rune.getD '�'

theorem decode_eq_chars (valid : Valid bytes) : decode bytes = (chars bytes).map some := by
  conv_lhs => rw [← List.map_id (decode bytes)]
  rw [chars, List.map_map]
  apply List.map_congr_left
  intro rune held
  cases rune with
  | none => exact absurd held valid
  | some c => rfl

theorem encode_chars (valid : Valid bytes) : encode (chars bytes) = bytes :=
  encode_of_decode (decode_eq_chars valid)

theorem chars_encode (text : List Char) : chars (encode text) = text := by
  rw [chars, decode_encode, List.map_map]
  exact List.map_id text

theorem valid_encode (text : List Char) : Valid (encode text) := by
  rw [Valid, decode_encode]
  simp

theorem valid_ascii (ascii : ∀ byte ∈ bytes, byte.toNat < 128) : Valid bytes := by
  have single : ∀ code < 128, String.utf8EncodeChar (Char.ofNat code) = [UInt8.ofNat code] := by
    decide
  have spelled : bytes = encode (bytes.map fun byte => Char.ofNat byte.toNat) := by
    rw [encode, List.flatMap_map]
    conv_lhs => rw [← List.flatMap_singleton' bytes]
    refine List.flatMap_congr fun byte held => ?_
    rw [single _ (ascii byte held), UInt8.ofNat_toNat]
  rw [spelled]
  exact valid_encode _

theorem decode_inj {other : List UInt8} (valid : Valid bytes) (same : decode bytes = decode other) :
    bytes = other := by
  have text := decode_eq_chars valid
  exact (encode_of_decode text).symm.trans (encode_of_decode (same.symm.trans text))

theorem map_decode_inj {items others : List (List UInt8)} (valid : ∀ item ∈ items, Valid item)
    (same : items.map decode = others.map decode) : items = others := by
  induction items generalizing others with
  | nil => exact (List.map_eq_nil_iff.mp same.symm).symm
  | cons item items ih =>
    cases others with
    | nil => cases same
    | cons other others =>
      rw [List.map_cons, List.map_cons, List.cons.injEq] at same
      rw [decode_inj (valid item List.mem_cons_self) same.1,
        ih (fun further held => valid further (List.mem_cons_of_mem item held)) same.2]

end Utf8
