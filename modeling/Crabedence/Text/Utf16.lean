import Mathlib.Data.Char
import Mathlib.Data.List.Lex
import Crabedence.Text.Utf8

/-!
# UTF-16 strings

The strings of a scripting language: any sequence of 16-bit code units.  Two surrogates that belong
together are one character; a surrogate on its own is none, and is replaced where the string is
encoded as bytes.
-/

namespace Utf16

abbrev Str := List UInt16

instance lawfulUnits : LawfulBEq Str := inferInstance

def encodeChar (c : Char) : List UInt16 :=
  if c.toNat < 0x10000 then [UInt16.ofNat c.toNat]
  else
    [UInt16.ofNat (0xd800 + (c.toNat - 0x10000) / 0x400),
      UInt16.ofNat (0xdc00 + (c.toNat - 0x10000) % 0x400)]

def encode (text : List Char) : Str := text.flatMap encodeChar

def str (text : String) : Str := encode text.toList

def isHigh (unit : UInt16) : Bool := decide (0xd800 ≤ unit.toNat ∧ unit.toNat < 0xdc00)

def isLow (unit : UInt16) : Bool := decide (0xdc00 ≤ unit.toNat ∧ unit.toNat < 0xe000)

/-- A character, or a surrogate that is part of none. -/
inductive Point where
  | char (c : Char)
  | lone (unit : UInt16)
deriving DecidableEq

def join (high low : UInt16) : Char :=
  Char.ofNat ((high.toNat - 0xd800) * 0x400 + (low.toNat - 0xdc00) + 0x10000)

def decode : Str → List Point
  | [] => []
  | unit :: rest =>
    if isHigh unit then
      match rest with
      | [] => [.lone unit]
      | low :: after =>
        if isLow low then .char (join unit low) :: decode after
        else .lone unit :: decode (low :: after)
    else if isLow unit then .lone unit :: decode rest
    else .char (Char.ofNat unit.toNat) :: decode rest

def Point.scalar : Point → Char
  | .char c => c
  | .lone _ => '�'

/-- `TextEncoder.encode`. -/
def bytes (text : Str) : List UInt8 := Utf8.encode ((decode text).map Point.scalar)

theorem encode_cons (c : Char) (text : List Char) : encode (c :: text) = encodeChar c ++ encode text :=
  rfl

theorem toNat_range (c : Char) : c.toNat < 0xd800 ∨ 0xe000 ≤ c.toNat ∧ c.toNat < 0x110000 := by
  rcases c.valid with low | ⟨above, below⟩
  · exact .inl low
  · exact .inr ⟨by have := above; change 0xdfff < c.toNat at this; omega, below⟩

theorem decode_encodeChar (c : Char) (rest : Str) :
    decode (encodeChar c ++ rest) = .char c :: decode rest := by
  have range := toNat_range c
  unfold encodeChar
  by_cases basic : c.toNat < 0x10000
  · have value : (UInt16.ofNat c.toNat).toNat = c.toNat := by
      rw [UInt16.toNat_ofNat']
      exact Nat.mod_eq_of_lt basic
    have high : isHigh (UInt16.ofNat c.toNat) = false := by
      rw [isHigh, value]
      exact decide_eq_false (by omega)
    have low : isLow (UInt16.ofNat c.toNat) = false := by
      rw [isLow, value]
      exact decide_eq_false (by omega)
    rw [if_pos basic, List.cons_append, List.nil_append, decode.eq_def]
    simp only [high, low, value, Bool.false_eq_true, ↓reduceIte, Char.ofNat_toNat]
  · have first : (UInt16.ofNat (0xd800 + (c.toNat - 0x10000) / 0x400)).toNat =
        0xd800 + (c.toNat - 0x10000) / 0x400 := by
      rw [UInt16.toNat_ofNat']
      exact Nat.mod_eq_of_lt (by omega)
    have second : (UInt16.ofNat (0xdc00 + (c.toNat - 0x10000) % 0x400)).toNat =
        0xdc00 + (c.toNat - 0x10000) % 0x400 := by
      rw [UInt16.toNat_ofNat']
      exact Nat.mod_eq_of_lt (by omega)
    have high : isHigh (UInt16.ofNat (0xd800 + (c.toNat - 0x10000) / 0x400)) = true := by
      rw [isHigh, first]
      exact decide_eq_true (by omega)
    have low : isLow (UInt16.ofNat (0xdc00 + (c.toNat - 0x10000) % 0x400)) = true := by
      rw [isLow, second]
      exact decide_eq_true (by omega)
    have joined : join (UInt16.ofNat (0xd800 + (c.toNat - 0x10000) / 0x400))
        (UInt16.ofNat (0xdc00 + (c.toNat - 0x10000) % 0x400)) = c := by
      rw [join, first, second]
      have code : (0xd800 + (c.toNat - 0x10000) / 0x400 - 0xd800) * 0x400 +
          (0xdc00 + (c.toNat - 0x10000) % 0x400 - 0xdc00) + 0x10000 = c.toNat := by omega
      rw [code, Char.ofNat_toNat]
    rw [if_neg basic, List.cons_append, List.cons_append, List.nil_append, decode.eq_def]
    simp only [high, low, joined, ↓reduceIte]

theorem decode_encode_append (text : List Char) (rest : Str) :
    decode (encode text ++ rest) = text.map .char ++ decode rest := by
  induction text with
  | nil => rfl
  | cons c text ih =>
    rw [encode_cons, List.append_assoc, decode_encodeChar, ih, List.map_cons, List.cons_append]

theorem decode_encode (text : List Char) : decode (encode text) = text.map .char := by
  have read := decode_encode_append text []
  rw [List.append_nil] at read
  rw [read]
  exact List.append_nil _

/-- Texts are decoded one after the other unless the second starts inside a pair. -/
theorem decode_append (text : Str) {rest : Str}
    (apart : ∀ unit, rest.head? = some unit → isLow unit = false) :
    decode (text ++ rest) = decode text ++ decode rest := by
  fun_induction decode text with
  | case1 => rfl
  | case2 unit high =>
    cases rest with
    | nil => simp [decode, high]
    | cons low after =>
      rw [List.singleton_append, decode.eq_def]
      simp [high, apart low rfl]
  | case3 unit high low after isLow ih =>
    rw [List.cons_append, List.cons_append, decode.eq_def]
    simp [high, isLow, ih]
  | case4 unit high low after isLow ih =>
    rw [List.cons_append, List.cons_append, decode.eq_def]
    simpa [high, isLow] using ih
  | case5 unit rest high low ih =>
    rw [List.cons_append, decode.eq_def]
    simp [high, low, ih]
  | case6 unit rest high low ih =>
    rw [List.cons_append, decode.eq_def]
    simp [high, low, ih]

theorem encode_injective {text other : List Char} (same : encode text = encode other) :
    text = other := by
  have points := congrArg decode same
  rw [decode_encode, decode_encode] at points
  exact List.map_injective_iff.mpr (fun _ _ => Point.char.inj) points

def Point.units : Point → Str
  | .char c => encodeChar c
  | .lone unit => [unit]

theorem toNat_ofNat {code : Nat} (valid : code < 0xd800 ∨ 0xe000 ≤ code ∧ code < 0x110000) :
    (Char.ofNat code).toNat = code := by
  have isValid : code.isValidChar := by
    rcases valid with low | ⟨above, below⟩
    · exact .inl low
    · exact .inr ⟨by omega, below⟩
  rw [Char.ofNat, dif_pos isValid]
  rfl

theorem encodeChar_basic {unit : UInt16} (high : isHigh unit = false) (low : isLow unit = false) :
    encodeChar (Char.ofNat unit.toNat) = [unit] := by
  have small := unit.toNat_lt
  simp only [isHigh, isLow, decide_eq_false_iff_not] at high low
  rw [encodeChar, toNat_ofNat (by omega), if_pos small, UInt16.ofNat_toNat]

theorem encodeChar_join {high low : UInt16} (first : isHigh high = true) (second : isLow low = true) :
    encodeChar (join high low) = [high, low] := by
  simp only [isHigh, isLow, decide_eq_true_eq] at first second
  have upper : 0xd800 + ((high.toNat - 0xd800) * 0x400 + (low.toNat - 0xdc00) + 0x10000 - 0x10000) /
      0x400 = high.toNat := by omega
  have lower : 0xdc00 + ((high.toNat - 0xd800) * 0x400 + (low.toNat - 0xdc00) + 0x10000 - 0x10000) %
      0x400 = low.toNat := by omega
  rw [encodeChar, join, toNat_ofNat (by omega), if_neg (by omega), upper, lower,
    UInt16.ofNat_toNat, UInt16.ofNat_toNat]

theorem units_decode (text : Str) : (decode text).flatMap Point.units = text := by
  fun_induction decode text with
  | case1 => rfl
  | case2 => rfl
  | case3 unit high low after isLow ih =>
    rw [List.flatMap_cons, ih, Point.units, encodeChar_join high isLow]
    rfl
  | case4 unit high low after isLow ih =>
    rw [List.flatMap_cons, ih, Point.units]
    rfl
  | case5 unit rest high low ih =>
    rw [List.flatMap_cons, ih, Point.units]
    rfl
  | case6 unit rest high low ih =>
    rw [List.flatMap_cons, ih, Point.units, encodeChar_basic (by simpa using high) (by simpa using low)]
    rfl

theorem eq_encode {text : Str} {chars : List Char} (points : decode text = chars.map .char) :
    text = encode chars := by
  rw [← units_decode text, points, List.flatMap_map]
  rfl

@[simp] theorem bytes_encode (text : List Char) : bytes (encode text) = Utf8.encode text := by
  rw [bytes, decode_encode, List.map_map]
  exact congrArg Utf8.encode (List.map_id text)

end Utf16
