import Crabedence.Go.Json
import Crabedence.Json.Decoded
import Crabedence.Json.Lexing
import Crabedence.Script.Json

/-!
# From Go to script

What `JSON.parse` makes of the text of a Go encoder: the same tree, with each string as code units
and each integer as a number.  Valid strings keep their bytes.
-/

namespace Script

open Json

def ofGo (text : Go.Str) : Utf16.Str := Utf16.encode (Utf8.chars text)

@[simp] theorem ofGo_str (text : String) : ofGo (Go.str text) = Utf16.str text :=
  congrArg Utf16.encode (Utf8.chars_encode text.toList)

theorem bytes_ofGo {text : Go.Str} (valid : Utf8.Valid text) : Utf16.bytes (ofGo text) = text := by
  rw [ofGo, Utf16.bytes_encode, Utf8.encode_chars valid]

section Surrogates

theorem units_unit {code : Nat} (small : code < 65536) : (UInt16.ofNat code).toNat = code := by
  rw [UInt16.toNat_ofNat']
  exact Nat.mod_eq_of_lt small

variable {code : Nat} {rest : Utf16.Str}

theorem decode_basic (small : code < 65536) (basic : ¬ (0xd800 ≤ code ∧ code < 0xe000))
    (rest : Utf16.Str) :
    Utf16.decode (UInt16.ofNat code :: rest) = .char (Char.ofNat code) :: Utf16.decode rest := by
  have value := units_unit small
  have high : Utf16.isHigh (UInt16.ofNat code) = false := by
    rw [Utf16.isHigh, value]
    exact decide_eq_false (by omega)
  have low : Utf16.isLow (UInt16.ofNat code) = false := by
    rw [Utf16.isLow, value]
    exact decide_eq_false (by omega)
  rw [Utf16.decode.eq_def]
  simp only [high, low, value, Bool.false_eq_true, ↓reduceIte]

theorem decode_unit (small : code < 65536)
    (alone : ∀ low, rest.head? = some low → surrogatePair code low.toNat = none) :
    (Utf16.decode (UInt16.ofNat code :: rest)).map (some ∘ Utf16.Point.scalar) =
      unitRune (some '\uFFFD') code :: (Utf16.decode rest).map (some ∘ Utf16.Point.scalar) := by
  have value := units_unit small
  by_cases basic : ¬ (0xd800 ≤ code ∧ code < 0xe000)
  · rw [decode_basic small basic, List.map_cons]
    congr 1
    unfold unitRune
    split_ifs with replaced
    · obtain rfl : code = 0xfffd := by omega
      rfl
    · rfl
  rw [Utf16.decode.eq_def]
  dsimp only
  by_cases high : 0xd800 ≤ code ∧ code < 0xdc00
  · have replaced : unitRune (some '\uFFFD') code = some '\uFFFD' := if_pos (.inl (by omega))
    rw [if_pos (by simpa [Utf16.isHigh, value] using high), replaced]
    cases rest with
    | nil => rfl
    | cons low after =>
      have single : ¬ Utf16.isLow low = true := by
        have unpaired := alone low rfl
        unfold surrogatePair at unpaired
        split_ifs at unpaired with paired
        simp only [Utf16.isLow, decide_eq_true_eq]
        omega
      dsimp only
      rw [if_neg single]
      rfl
  · rw [if_neg (by simpa [Utf16.isHigh, value] using high)]
    have low : 0xdc00 ≤ code ∧ code < 0xe000 := by omega
    have replaced : unitRune (some '\uFFFD') code = some '\uFFFD' := if_pos (.inl (by omega))
    rw [if_pos (by simpa [Utf16.isLow, value] using low), replaced]
    rfl

theorem decode_pair {high low : Nat} {c : Char} (joined : surrogatePair high low = some c)
    (rest : Utf16.Str) :
    Utf16.decode (UInt16.ofNat high :: UInt16.ofNat low :: rest) = .char c :: Utf16.decode rest := by
  unfold surrogatePair at joined
  split_ifs at joined with range
  rw [← Option.some.inj joined]
  have first := @units_unit high (by omega)
  have second := @units_unit low (by omega)
  have isHigh : Utf16.isHigh (UInt16.ofNat high) = true := by
    rw [Utf16.isHigh, first]
    exact decide_eq_true (by omega)
  have isLow : Utf16.isLow (UInt16.ofNat low) = true := by
    rw [Utf16.isLow, second]
    exact decide_eq_true (by omega)
  rw [Utf16.decode.eq_def]
  simp only [isHigh, isLow, ↓reduceIte, Utf16.join, first, second]

theorem flatMap_unit (code : Nat) (rest : List Piece) :
    (Piece.unit code :: rest).flatMap units = UInt16.ofNat code :: rest.flatMap units := rfl

theorem encodeChar_head (c : Char) {unit : UInt16}
    (head : (Utf16.encodeChar c ++ rest).head? = some unit) (code : Nat) :
    surrogatePair code unit.toNat = none := by
  have range := Utf16.toNat_range c
  unfold Utf16.encodeChar at head
  unfold surrogatePair
  split_ifs at head with basic
  · cases head
    rw [units_unit basic, if_neg (by omega)]
  · cases head
    rw [units_unit (by omega), if_neg (by omega)]

/-- The Go decoder keeps of a literal what its code units say, with U+FFFD for each surrogate that
is part of no pair. -/
theorem assemble_units {pieces : List Piece} (coded : Coded pieces) :
    assemble (some '\uFFFD') pieces =
      (Utf16.decode (pieces.flatMap units)).map (some ∘ Utf16.Point.scalar) := by
  have tail {piece : Piece} {pieces : List Piece} (coded : Coded (piece :: pieces)) : Coded pieces :=
    fun code held => coded code (List.mem_cons_of_mem _ held)
  fun_induction assemble (some '\uFFFD') pieces with
  | case1 => rfl
  | case2 rest ih =>
    rw [ih (tail coded), List.flatMap_cons, units, Utf16.decode_encodeChar]
    rfl
  | case3 c rest ih =>
    rw [ih (tail coded), List.flatMap_cons, units, Utf16.decode_encodeChar]
    rfl
  | case4 code low after c joined ih =>
    rw [ih (tail (tail coded)), flatMap_unit, flatMap_unit, decode_pair joined]
    rfl
  | case5 code low after unpaired ih =>
    rw [ih (tail coded), flatMap_unit code, decode_unit (coded code List.mem_cons_self)]
    rintro _ ⟨⟩
    rw [units_unit (coded low (by simp))]
    exact unpaired
  | case6 code rest single ih =>
    rw [ih (tail coded), flatMap_unit, decode_unit (coded code List.mem_cons_self)]
    intro unit head
    cases rest with
    | nil => cases head
    | cons piece rest =>
      cases piece with
      | unit low => exact (single low rest rfl).elim
      | rune rune => cases rune <;> exact encodeChar_head _ head code

end Surrogates

theorem units_jsonSpelling (escapes : Escapes) (text : Go.Str) :
    ((Go.jsonSpelling escapes).pieces text).flatMap units = ofGo text := by
  show ((Utf8.decode text).map escapes.piece).flatMap units = Utf16.encode (Utf8.chars text)
  rw [List.flatMap_map, Utf16.encode, Utf8.chars, List.flatMap_map]
  exact List.flatMap_congr fun rune _ => units_piece escapes rune

theorem parse_jsonSpelling (escapes : Escapes) {tree : Node ℤ Go.Str}
    (settled : tree.Keyed fun keys => Value.Settled (keys.map ofGo))
    (holds : tree.Holds IsSafe Utf8.Valid) :
    parse ((Go.jsonSpelling escapes).print tree) = some (tree.map Number.integer ofGo) := by
  have images : tree.map (fun value => ofRat ((Go.jsonSpelling escapes).number value).value)
      (fun text => ((Go.jsonSpelling escapes).pieces text).flatMap units) =
      tree.map Number.integer ofGo := by
    refine holds.map_congr (fun value safe => ?_) fun text _ => units_jsonSpelling escapes text
    change ofRat (Json.Number.ofInt value).value = _
    rw [Json.Number.value_ofInt, ofRat_integer safe]
  have keys : (tree.map Number.integer ofGo).Keyed Value.Settled := settled.map
  rw [← images] at keys ⊢
  exact parse_print (Go.jsonSpelling escapes) keys

end Script
