import Mathlib.Data.List.DropRight
import Crabedence.Text.Utf16

/-!
# Base64

Three bytes are four values of six bits; the last group may be shorter, and `=` fills the text up to
a multiple of four.  A decoder ignores blanks and the fill, and drops bits that are left over.
-/

namespace Base64

open Utf16 (Str str)

def sextets : List ℕ → List ℕ
  | a :: b :: c :: rest =>
    a / 4 :: (a % 4 * 16 + b / 16) :: (b % 16 * 4 + c / 64) :: c % 64 :: sextets rest
  | [a, b] => [a / 4, a % 4 * 16 + b / 16, b % 16 * 4]
  | [a] => [a / 4, a % 4 * 16]
  | [] => []

def octets : List ℕ → List ℕ
  | a :: b :: c :: d :: rest =>
    (a * 4 + b / 16) :: (b % 16 * 16 + c / 4) :: (c % 4 * 64 + d) :: octets rest
  | [a, b, c] => [a * 4 + b / 16, b % 16 * 16 + c / 4]
  | [a, b] => [a * 4 + b / 16]
  | _ => []

def alphabet : Str := str "ABCDEFGHIJKLMNOPQRSTUVWXYZabcdefghijklmnopqrstuvwxyz0123456789+/"

def symbol (value : ℕ) : UInt16 := alphabet.getD value 0

def fill (text : Str) : Str :=
  text ++ List.replicate ((text.length + 3) / 4 * 4 - text.length) 0x3d

/-- `btoa` throws unless every code unit is a byte. -/
def btoa (text : Str) : Option Str :=
  if text.all (· < 256) then some (fill ((sextets (text.map UInt16.toNat)).map symbol)) else none

def isBlank (unit : UInt16) : Bool := unit ∈ [9, 10, 12, 13, 32]

/-- The text without the one or two `=` at its end. -/
def dropFill (text : Str) : Str :=
  text.take (text.length - min 2 (text.length - (text.rdropWhile (· = 0x3d)).length))

/-- `atob` throws at a length or a code unit that no encoded text has. -/
def atob (text : Str) : Option Str :=
  let kept := text.filter (!isBlank ·)
  let body := if kept.length % 4 = 0 then dropFill kept else kept
  if body.length % 4 = 1 then none
  else (body.mapM fun unit => alphabet.idxOf? unit).map fun values =>
    (octets values).map UInt16.ofNat

/-- The text of bytes, as bytes. -/
def encodeBytes (data : List UInt8) : List UInt8 :=
  (fill ((sextets (data.map UInt8.toNat)).map symbol)).map UInt16.toUInt8

def decodeBytes (text : List UInt8) : Option (List UInt8) :=
  (atob (text.map UInt8.toUInt16)).map fun units => units.map UInt16.toUInt8

variable {bytes values : List ℕ}

theorem octets_sextets (small : ∀ byte ∈ bytes, byte < 256) : octets (sextets bytes) = bytes := by
  induction bytes using sextets.induct with
  | case1 a b c rest ih =>
    simp only [List.forall_mem_cons] at small
    simp only [sextets, octets, ih small.2.2.2, List.cons.injEq, and_true]
    omega
  | case2 a b =>
    simp only [List.forall_mem_cons] at small
    simp only [sextets, octets, List.cons.injEq, and_true]
    omega
  | case3 a =>
    simp only [sextets, octets, List.cons.injEq, and_true]
    omega
  | case4 => rfl

theorem sextets_lt (small : ∀ byte ∈ bytes, byte < 256) : ∀ value ∈ sextets bytes, value < 64 := by
  induction bytes using sextets.induct with
  | case1 a b c rest ih =>
    simp only [List.forall_mem_cons] at small
    simp only [sextets, List.forall_mem_cons]
    refine ⟨?_, ?_, ?_, ?_, ih small.2.2.2⟩ <;> omega
  | case2 a b | case3 a =>
    simp only [List.forall_mem_cons] at small
    simp only [sextets, List.forall_mem_cons, List.not_mem_nil, false_implies, implies_true, and_true]
    omega
  | case4 => exact nofun

theorem length_sextets (bytes : List ℕ) :
    (sextets bytes).length % 4 ≠ 1 ∧ bytes.length ≤ (sextets bytes).length := by
  induction bytes using sextets.induct with
  | case1 a b c rest ih =>
    simp only [sextets, List.length_cons]
    omega
  | case2 | case3 | case4 => simp [sextets]

theorem symbol_plain : ∀ value < 64, alphabet.idxOf? (symbol value) = some value ∧
    symbol value ≠ 0x3d ∧ isBlank (symbol value) = false := by
  decide

variable {text : Str}

theorem rdropWhile_fill (plain : ∀ unit ∈ text, unit ≠ 0x3d) :
    (fill text).rdropWhile (· = 0x3d) = text := by
  unfold fill List.rdropWhile
  rw [List.reverse_append, List.reverse_replicate, List.dropWhile_append_of_pos (by simp)]
  rw [List.dropWhile_eq_self_iff.mpr, List.reverse_reverse]
  intro nonempty
  simpa using plain _ (List.mem_reverse.mp (List.getElem_mem nonempty))

theorem dropFill_fill (plain : ∀ unit ∈ text, unit ≠ 0x3d) (whole : text.length % 4 ≠ 1) :
    dropFill (fill text) = text := by
  unfold dropFill
  rw [rdropWhile_fill plain]
  have length : (fill text).length - min 2 ((fill text).length - text.length) = text.length := by
    simp only [fill, List.length_append, List.length_replicate]
    omega
  rw [length]
  exact List.take_left

theorem read_symbols (small : ∀ value ∈ values, value < 64) :
    (values.map symbol).mapM (fun unit => alphabet.idxOf? unit) = some values := by
  induction values with
  | nil => rfl
  | cons value values ih =>
    rw [List.forall_mem_cons] at small
    simp [(symbol_plain value small.1).1, ih small.2]

theorem atob_fill (small : ∀ value ∈ values, value < 64) (whole : values.length % 4 ≠ 1) :
    atob (fill (values.map symbol)) = some ((octets values).map UInt16.ofNat) := by
  have plain : ∀ unit ∈ values.map symbol, unit ≠ 0x3d := by
    intro unit held
    obtain ⟨value, listed, rfl⟩ := List.mem_map.mp held
    exact (symbol_plain value (small value listed)).2.1
  have visible : (fill (values.map symbol)).filter (!isBlank ·) = fill (values.map symbol) := by
    rw [List.filter_eq_self]
    intro unit held
    rcases List.mem_append.mp held with symbols | filled
    · obtain ⟨value, listed, rfl⟩ := List.mem_map.mp symbols
      rw [(symbol_plain value (small value listed)).2.2]
      rfl
    · rw [List.eq_of_mem_replicate filled]
      rfl
  have full : (fill (values.map symbol)).length % 4 = 0 := by
    simp only [fill, List.length_append, List.length_replicate, List.length_map]
    omega
  unfold atob
  simp only [visible, full, if_true, dropFill_fill plain (by simpa using whole), List.length_map,
    if_neg whole, read_symbols small, Option.map_some]

theorem toNat_lt (small : ∀ unit ∈ text, unit < 256) : ∀ byte ∈ text.map UInt16.toNat, byte < 256 :=
  List.forall_mem_map.mpr fun unit held => UInt16.lt_iff_toNat_lt.mp (small unit held)

theorem sextets_units (small : ∀ unit ∈ text, unit < 256) :
    ∀ value ∈ sextets (text.map UInt16.toNat), value < 64 :=
  sextets_lt (toNat_lt small)

/-- The values `btoa` writes for a string decode to the string. -/
theorem octets_units (small : ∀ unit ∈ text, unit < 256) :
    (octets (sextets (text.map UInt16.toNat))).map UInt16.ofNat = text := by
  rw [octets_sextets (toNat_lt small), List.map_map]
  exact (List.map_congr_left fun unit _ => UInt16.ofNat_toNat).trans (List.map_id text)

theorem decodeBytes_encodeBytes (data : List UInt8) : decodeBytes (encodeBytes data) = some data := by
  have small : ∀ byte ∈ data.map UInt8.toNat, byte < 256 :=
    List.forall_mem_map.mpr fun byte _ => byte.toNat_lt
  have ascii : ∀ value < 64, (symbol value).toUInt8.toUInt16 = symbol value := by
    decide +kernel
  have kept : (encodeBytes data).map UInt8.toUInt16 =
      fill ((sextets (data.map UInt8.toNat)).map symbol) := by
    rw [encodeBytes, List.map_map]
    refine (List.map_congr_left fun unit held => ?_).trans (List.map_id _)
    rcases List.mem_append.mp held with symbols | filled
    · obtain ⟨value, listed, rfl⟩ := List.mem_map.mp symbols
      exact ascii value (sextets_lt small value listed)
    · rw [List.eq_of_mem_replicate filled]
      rfl
  rw [decodeBytes, kept, atob_fill (sextets_lt small) (length_sextets _).1, octets_sextets small,
    Option.map_some, List.map_map, List.map_map]
  refine congrArg some ((List.map_congr_left fun byte _ => ?_).trans (List.map_id data))
  simp

theorem encodeBytes_injective : Function.Injective encodeBytes := fun data other same => by
  have read := decodeBytes_encodeBytes data
  rw [same, decodeBytes_encodeBytes] at read
  exact (Option.some.inj read).symm

end Base64
