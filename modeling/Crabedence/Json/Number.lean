import Mathlib.Data.List.DropRight
import Mathlib.Data.Rat.Defs
import Mathlib.Algebra.Order.Field.Rat
import Mathlib.Algebra.Order.Field.Power
import Mathlib.Tactic.Linarith
import Mathlib.Tactic.NormNum
import Mathlib.Tactic.Ring

/-!
# Decimal digit strings and JSON numbers

Digit strings and the naturals they spell, the grammar of JSON number literals as a structure that
only well-formed literals inhabit, and the rational a literal denotes.  `significant_unique` is the
fact normal forms rest on: a digit string without outer zeros and a power of ten are determined by
their product.
-/

namespace Json

def Digits (text : List Char) : Prop := ∀ c ∈ text, c.isDigit = true

instance (text : List Char) : Decidable (Digits text) := List.decidableBAll _ _

theorem digits_nil : Digits [] := fun _ member => by cases member

def natural (text : List Char) : Nat := Nat.ofDigitChars 10 text 0

theorem Digits.append {left right : List Char} (first : Digits left) (second : Digits right) :
    Digits (left ++ right) := by
  intro c member
  rcases List.mem_append.mp member with here | there
  · exact first c here
  · exact second c there

theorem Digits.sublist {text other : List Char} (digits : Digits text) (sub : other.Sublist text) :
    Digits other :=
  fun c member => digits c (sub.subset member)

variable {c : Char}

theorem digit_range (digit : c.isDigit = true) : 48 ≤ c.toNat ∧ c.toNat ≤ 57 := by
  simp only [Char.isDigit, Bool.and_eq_true, decide_eq_true_eq, ge_iff_le,
    UInt32.le_iff_toNat_le] at digit
  exact digit

theorem digit_lt (digit : c.isDigit = true) : c.toNat - 48 < 10 := by
  have range := digit_range digit
  omega

theorem digitChar_digit (digit : c.isDigit = true) : Nat.digitChar (c.toNat - 48) = c := by
  have range := digit_range digit
  have value := Nat.toNat_digitChar_sub_48_of_lt_ten (digit_lt digit)
  have written := digit_range (Nat.isDigit_digitChar.trans (decide_eq_true (digit_lt digit)))
  apply Char.ext
  apply UInt32.toNat_inj.mp
  show (Nat.digitChar (c.toNat - 48)).toNat = c.toNat
  omega

theorem natural_append (left right : List Char) :
    natural (left ++ right) = natural left * 10 ^ right.length + natural right := by
  unfold natural
  rw [Nat.ofDigitChars_append, Nat.ofDigitChars_eq_ofDigitChars_zero, Nat.mul_comm]

theorem natural_snoc (text : List Char) (c : Char) :
    natural (text ++ [c]) = natural text * 10 + (c.toNat - 48) := by
  rw [natural_append]
  simp [natural, Nat.ofDigitChars_cons]

theorem natural_zeros {text : List Char} (zeros : ∀ c ∈ text, c = '0') : natural text = 0 := by
  rw [List.eq_replicate_of_mem zeros]
  simp [natural]

theorem natural_lt {text : List Char} (digits : Digits text) : natural text < 10 ^ text.length := by
  induction text using List.reverseRecOn with
  | nil => simp [natural]
  | append_singleton text c ih =>
    have earlier := ih fun other member => digits other (List.mem_append_left _ member)
    have last := digit_lt (digits c (by simp))
    rw [natural_snoc, List.length_append, List.length_singleton, Nat.pow_succ]
    omega

theorem toDigits_natural {text : List Char} (digits : Digits text) (nonempty : text ≠ [])
    (unpadded : text.head? ≠ some '0') : Nat.toDigits 10 (natural text) = text := by
  induction text using List.reverseRecOn with
  | nil => exact (nonempty rfl).elim
  | append_singleton text c ih =>
    have last := digits c (by simp)
    rw [natural_snoc]
    by_cases single : text = []
    · rw [single]
      have small : natural [] * 10 + (c.toNat - 48) = c.toNat - 48 := by simp [natural]
      rw [small, Nat.toDigits_of_lt_base (digit_lt last), digitChar_digit last, List.nil_append]
    · have earlierDigits : Digits text :=
        fun other member => digits other (List.mem_append_left _ member)
      have earlierHead : text.head? ≠ some '0' := by
        rw [List.head?_append_of_ne_nil _ single] at unpadded
        exact unpadded
      have earlier := ih earlierDigits single earlierHead
      have positive : 0 < natural text := by
        apply Nat.pos_of_ne_zero
        intro zero
        rw [zero, Nat.toDigits_zero] at earlier
        exact earlierHead (by rw [← earlier]; rfl)
      rw [Nat.mul_comm, ← Nat.toDigits_append_toDigits (by omega) positive (digit_lt last), earlier,
        Nat.toDigits_of_lt_base (digit_lt last), digitChar_digit last]

/-- A nonempty digit string whose first and last digit are not zero. -/
structure Significant (text : List Char) : Prop where
  digits : Digits text
  nonempty : text ≠ []
  unpadded : text.head? ≠ some '0'
  trimmed : text.getLast? ≠ some '0'

theorem Significant.natural_mod {text : List Char} (significant : Significant text) :
    natural text % 10 ≠ 0 := by
  have split := List.dropLast_append_getLast significant.nonempty
  have last := List.getLast_mem significant.nonempty
  have nonzero := significant.trimmed
  rw [List.getLast?_eq_some_getLast significant.nonempty] at nonzero
  generalize text.getLast significant.nonempty = c at split last nonzero
  have range := digit_range (significant.digits c last)
  have distinct : c.toNat ≠ 48 := by
    intro same
    exact nonzero (congrArg some (Char.ext (UInt32.toNat_inj.mp same)))
  rw [← split, natural_snoc]
  omega

theorem Significant.natural_pos {text : List Char} (significant : Significant text) :
    0 < natural text := by
  apply Nat.pos_of_ne_zero
  intro zero
  exact significant.natural_mod (by rw [zero])

def trimRight (text : List Char) : List Char := text.rdropWhile (· == '0')

def trimLeft (text : List Char) : List Char := text.dropWhile (· == '0')

theorem natural_trimRight (text : List Char) :
    natural text = natural (trimRight text) * 10 ^ (text.length - (trimRight text).length) := by
  have split : text.rdropWhile (· == '0') ++ text.rtakeWhile (· == '0') = text :=
    List.rdropWhile_append_rtakeWhile
  have zeros : natural (text.rtakeWhile (· == '0')) = 0 :=
    natural_zeros fun c member => by simpa using List.mem_rtakeWhile_imp member
  have count : text.length - (trimRight text).length = (text.rtakeWhile (· == '0')).length := by
    have total := congrArg List.length split
    rw [List.length_append] at total
    unfold trimRight
    omega
  have spelled := natural_append (text.rdropWhile (· == '0')) (text.rtakeWhile (· == '0'))
  rw [split, zeros, Nat.add_zero] at spelled
  rw [count]
  exact spelled

theorem natural_trimLeft (text : List Char) : natural (trimLeft text) = natural text := by
  have zeros : natural (text.takeWhile (· == '0')) = 0 :=
    natural_zeros fun c member => by simpa using List.mem_takeWhile_imp member
  have spelled := natural_append (text.takeWhile (· == '0')) (text.dropWhile (· == '0'))
  rw [List.takeWhile_append_dropWhile, zeros, Nat.zero_mul, Nat.zero_add] at spelled
  exact spelled.symm

theorem significant_trim {text : List Char} (digits : Digits text)
    (nonempty : trimLeft (trimRight text) ≠ []) : Significant (trimLeft (trimRight text)) where
  digits := digits.sublist ((List.dropWhile_sublist _).trans (List.rdropWhile_prefix _ _).sublist)
  nonempty := nonempty
  unpadded := by
    intro zero
    have head := List.head?_dropWhile_not (· == '0') (trimRight text)
    rw [show (trimRight text).dropWhile (· == '0') = trimLeft (trimRight text) from rfl, zero] at head
    simp at head
  trimmed := by
    intro zero
    have kept : trimRight text ≠ [] := fun empty => nonempty (by rw [empty]; rfl)
    have last := List.rdropWhile_last_not (· == '0') text kept
    have same : (trimLeft (trimRight text)).getLast? = (trimRight text).getLast? := by
      have split := List.takeWhile_append_dropWhile (p := (· == '0')) (l := trimRight text)
      rw [← congrArg List.getLast? split]
      exact (List.getLast?_append_of_ne_nil _ nonempty).symm
    rw [same, List.getLast?_eq_some_getLast kept] at zero
    exact last (beq_iff_eq.mpr (Option.some.inj zero))

variable {scale power : Int}

theorem Significant.scale_le {text other : List Char} (significant : Significant text)
    (same : (natural text : ℚ) * 10 ^ scale = natural other * 10 ^ power) : power ≤ scale := by
  by_contra above
  obtain ⟨gap, opened⟩ : ∃ gap : Nat, power = scale + (gap + 1 : Nat) :=
    ⟨(power - scale - 1).toNat, by omega⟩
  have nonzero : (10 : ℚ) ^ scale ≠ 0 := zpow_ne_zero _ (by norm_num)
  rw [opened, zpow_add₀ (by norm_num), zpow_natCast, mul_comm ((10 : ℚ) ^ scale), ← mul_assoc] at same
  have naturals : natural text = natural other * 10 ^ (gap + 1) := by
    exact_mod_cast mul_right_cancel₀ nonzero same
  apply significant.natural_mod
  rw [naturals, Nat.pow_succ, ← Nat.mul_assoc, Nat.mul_mod_left]

theorem significant_unique {text other : List Char}
    (first : Significant text) (second : Significant other)
    (same : (natural text : ℚ) * 10 ^ scale = natural other * 10 ^ power) :
    text = other ∧ scale = power := by
  have equal : scale = power :=
    Int.le_antisymm (second.scale_le same.symm) (first.scale_le same)
  rw [equal] at same
  have naturals := mul_right_cancel₀ (zpow_ne_zero power (by norm_num : (10 : ℚ) ≠ 0)) same
  refine ⟨?_, equal⟩
  rw [← toDigits_natural first.digits first.nonempty first.unpadded, Nat.cast_inj.mp naturals,
    toDigits_natural second.digits second.nonempty second.unpadded]

theorem takeWhile_digits {digits rest : List Char} (spelled : Digits digits)
    (stops : rest.head?.all (fun c => !c.isDigit) = true) :
    (digits ++ rest).takeWhile Char.isDigit = digits ∧
      (digits ++ rest).dropWhile Char.isDigit = rest := by
  have rests : rest.takeWhile Char.isDigit = [] ∧ rest.dropWhile Char.isDigit = rest := by
    cases rest with
    | nil => exact ⟨rfl, rfl⟩
    | cons c rest =>
      have other : ¬ c.isDigit = true := by simpa using stops
      exact ⟨List.takeWhile_cons_of_neg other, List.dropWhile_cons_of_neg other⟩
  constructor
  · rw [List.takeWhile_append_of_pos spelled, rests.1, List.append_nil]
  · rw [List.dropWhile_append_of_pos spelled, rests.2]

theorem digits_takeWhile (text : List Char) : Digits (text.takeWhile Char.isDigit) :=
  fun _ member => List.mem_takeWhile_imp member

theorem natural_cons_zero (text : List Char) : natural ('0' :: text) = natural text := by
  have spelled := natural_append ['0'] text
  have zero : natural ['0'] = 0 := by decide
  rwa [zero, Nat.zero_mul, Nat.zero_add] at spelled

theorem digits_toDigits (value : Nat) : Digits (Nat.toDigits 10 value) :=
  fun _ member => Nat.isDigit_of_mem_toDigits (by omega) (by omega) member

theorem toDigits_unpadded {value : Nat} (zero : (Nat.toDigits 10 value).head? = some '0') :
    Nat.toDigits 10 value = ['0'] := by
  have digits := digits_toDigits value
  have spelled : natural (Nat.toDigits 10 value) = value := Nat.ofDigitChars_ten_toDigits
  have short := @Nat.length_toDigits_le_iff 10 value (Nat.toDigits 10 value).tail.length (by decide)
  cases shape : Nat.toDigits 10 value with
  | nil => rw [shape] at zero; cases zero
  | cons first rest =>
    rw [shape] at zero digits spelled short
    obtain rfl : first = '0' := Option.some.inj zero
    cases rest with
    | nil => rfl
    | cons next rest =>
      -- the remaining digits spell the same number, so it would need no more than those
      have small := natural_lt (digits.sublist (List.sublist_cons_self _ _))
      rw [natural_cons_zero] at spelled
      rw [spelled] at small
      have bound := (short (by simp)).mpr small
      simp at bound

def integerText (value : Int) : List Char :=
  (if value < 0 then ['-'] else []) ++ Nat.toDigits 10 value.natAbs

/-- The exponent part of a number literal. -/
structure Exponent where
  upper : Bool
  sign : Option Bool
  digits : List Char
  spelled : Digits digits
  nonempty : digits ≠ []

namespace Exponent

def signText (exponent : Exponent) : List Char :=
  match exponent.sign with
  | none => []
  | some true => ['-']
  | some false => ['+']

def text (exponent : Exponent) : List Char :=
  (if exponent.upper then 'E' else 'e') :: (exponent.signText ++ exponent.digits)

def value (exponent : Exponent) : Int :=
  if exponent.sign = some true then -(natural exponent.digits : Int) else natural exponent.digits

def ofInt (value : Int) : Exponent where
  upper := false
  sign := if value < 0 then some true else none
  digits := Nat.toDigits 10 value.natAbs
  spelled := digits_toDigits value.natAbs
  nonempty := Nat.toDigits_ne_nil

@[simp] theorem text_ofInt (value : Int) : (ofInt value).text = 'e' :: integerText value := by
  unfold text signText ofInt integerText
  by_cases negative : value < 0 <;> simp [negative]

@[simp] theorem value_ofInt (value : Int) : (ofInt value).value = value := by
  have spelled : natural (Nat.toDigits 10 value.natAbs) = value.natAbs :=
    Nat.ofDigitChars_ten_toDigits
  unfold Exponent.value ofInt
  by_cases negative : value < 0
  · simp only [negative, ↓reduceIte, spelled]
    omega
  · simp only [negative, ↓reduceIte, reduceCtorEq, spelled]
    omega

end Exponent

/-- A JSON number literal: an optional minus, integer digits without a leading zero, an optional
fraction and an optional exponent.  An empty `fraction` stands for a literal without one. -/
structure Number where
  negative : Bool
  integer : List Char
  integerDigits : Digits integer
  integerNonempty : integer ≠ []
  unpadded : integer.head? = some '0' → integer = ['0']
  fraction : List Char
  fractionDigits : Digits fraction
  exponent : Option Exponent

namespace Number

def fractionText (number : Number) : List Char :=
  if number.fraction = [] then [] else '.' :: number.fraction

def exponentText (number : Number) : List Char :=
  number.exponent.elim [] Exponent.text

def text (number : Number) : List Char :=
  (if number.negative then ['-'] else []) ++
    (number.integer ++ (number.fractionText ++ number.exponentText))

def exponentValue (number : Number) : Int := number.exponent.elim 0 Exponent.value

def value (number : Number) : ℚ :=
  (if number.negative then -1 else 1) *
    (natural (number.integer ++ number.fraction) *
      10 ^ (number.exponentValue - number.fraction.length))

def ofInt (value : Int) : Number where
  negative := decide (value < 0)
  integer := Nat.toDigits 10 value.natAbs
  integerDigits := digits_toDigits value.natAbs
  integerNonempty := Nat.toDigits_ne_nil
  unpadded := toDigits_unpadded
  fraction := []
  fractionDigits := digits_nil
  exponent := none

theorem text_ofInt (value : Int) : (ofInt value).text = integerText value := by
  simp [text, ofInt, fractionText, exponentText, integerText]

theorem value_ofInt (value : Int) : (ofInt value).value = value := by
  have spelled : natural (Nat.toDigits 10 value.natAbs ++ []) = value.natAbs := by
    rw [List.append_nil]
    exact Nat.ofDigitChars_ten_toDigits
  unfold Number.value ofInt exponentValue
  simp only [spelled, Option.elim_none, List.length_nil, decide_eq_true_eq]
  have whole : (10 : ℚ) ^ ((0 : ℤ) - (0 : ℕ)) = 1 := by simp
  rw [whole, mul_one]
  by_cases negative : value < 0
  · rw [if_pos negative]
    have magnitude : (value.natAbs : ℤ) = -value := by omega
    have cast : (value.natAbs : ℚ) = ((value.natAbs : ℤ) : ℚ) := rfl
    rw [cast, magnitude, Int.cast_neg, neg_one_mul, neg_neg]
  · rw [if_neg negative, one_mul]
    have magnitude : (value.natAbs : ℤ) = value := by omega
    have cast : (value.natAbs : ℚ) = ((value.natAbs : ℤ) : ℚ) := rfl
    rw [cast, magnitude]

theorem ofInt_injective {value other : Int} (same : ofInt value = ofInt other) : value = other := by
  have signs : decide (value < 0) = decide (other < 0) := congrArg negative same
  have digits : Nat.toDigits 10 value.natAbs = Nat.toDigits 10 other.natAbs := congrArg integer same
  have magnitudes : value.natAbs = other.natAbs := by
    have values := congrArg natural digits
    unfold natural at values
    rwa [Nat.ofDigitChars_ten_toDigits, Nat.ofDigitChars_ten_toDigits] at values
  have sides : value < 0 ↔ other < 0 := by simpa using signs
  omega

def zero : Number where
  negative := false
  integer := ['0']
  integerDigits := by decide
  integerNonempty := by decide
  unpadded := fun _ => rfl
  fraction := []
  fractionDigits := digits_nil
  exponent := none

theorem value_zero : zero.value = 0 := by
  have spelled : natural ['0'] = 0 := by decide
  simp [value, zero, spelled]

/-- The literal with one digit before the point that denotes a significand times a power of ten. -/
def scientific (negative : Bool) (digits : List Char) (significant : Significant digits)
    (scale : Int) : Number where
  negative := negative
  integer := [digits.head significant.nonempty]
  integerDigits := by
    intro c member
    rw [List.mem_singleton.mp member]
    exact significant.digits _ (List.head_mem significant.nonempty)
  integerNonempty := by simp
  unpadded := by simp
  fraction := digits.tail
  fractionDigits := significant.digits.sublist (List.tail_sublist digits)
  exponent := some (Exponent.ofInt (scale + digits.tail.length))

theorem value_scientific (negative : Bool) {digits : List Char} (significant : Significant digits)
    (scale : Int) : (scientific negative digits significant scale).value =
      (if negative then -1 else 1) * (natural digits * 10 ^ scale) := by
  have whole : [digits.head significant.nonempty] ++ digits.tail = digits :=
    List.cons_head_tail significant.nonempty
  unfold value scientific exponentValue
  simp only [Option.elim_some, Exponent.value_ofInt, add_sub_cancel_right, whole]

def normalize (number : Number) : Number :=
  let digits := number.integer ++ number.fraction
  if zeros : trimLeft (trimRight digits) = [] then zero
  else
    scientific number.negative (trimLeft (trimRight digits))
      (significant_trim (number.integerDigits.append number.fractionDigits) zeros)
      (number.exponentValue - number.fraction.length +
        (digits.length - (trimRight digits).length : Nat))

theorem value_normalize (number : Number) : number.normalize.value = number.value := by
  have whole := natural_trimRight (number.integer ++ number.fraction)
  have kept := natural_trimLeft (trimRight (number.integer ++ number.fraction))
  unfold normalize
  by_cases zeros : trimLeft (trimRight (number.integer ++ number.fraction)) = []
  · have nothing : natural (number.integer ++ number.fraction) = 0 := by
      rw [whole, ← kept, zeros]
      exact Nat.zero_mul _
    simp only [zeros, ↓reduceDIte, value_zero]
    rw [value, nothing, Nat.cast_zero, zero_mul, mul_zero]
  · simp only [zeros, ↓reduceDIte, value_scientific]
    rw [value, kept, zpow_add₀ (by norm_num), zpow_natCast, whole]
    push_cast
    ring

end Number

theorem signed_significant_unique {negative other : Bool} {text spelling : List Char}
    (first : Significant text) (second : Significant spelling)
    (same : (if negative then -1 else 1 : ℚ) * (natural text * 10 ^ scale) =
      (if other then -1 else 1) * (natural spelling * 10 ^ power)) :
    negative = other ∧ text = spelling ∧ scale = power := by
  have left : (0 : ℚ) < natural text * 10 ^ scale :=
    mul_pos (by exact_mod_cast first.natural_pos) (zpow_pos (by norm_num) scale)
  have right : (0 : ℚ) < natural spelling * 10 ^ power :=
    mul_pos (by exact_mod_cast second.natural_pos) (zpow_pos (by norm_num) power)
  have signs : negative = other := by
    cases negative <;> cases other <;> simp at same ⊢ <;> linarith
  rw [signs] at same
  have magnitudes := mul_left_cancel₀ (by cases other <;> norm_num) same
  exact ⟨signs, significant_unique first second magnitudes⟩

/-- The literals in normal form: zero, and one nonzero digit before the point with no zero at the
end of the fraction. -/
inductive Number.Normal : Number → Prop
  | zero : Normal .zero
  | scientific (negative : Bool) {digits : List Char} (significant : Significant digits)
      (scale : Int) : Normal (.scientific negative digits significant scale)

theorem Number.normalize_normal (number : Number) : number.normalize.Normal := by
  unfold normalize
  dsimp only
  split
  · exact .zero
  · exact .scientific ..

theorem Number.value_scientific_ne_zero (negative : Bool) {digits : List Char}
    (significant : Significant digits) (scale : Int) :
    (Number.scientific negative digits significant scale).value ≠ 0 := by
  have nonzero : (natural digits : ℚ) ≠ 0 :=
    Nat.cast_ne_zero.mpr (Nat.ne_of_gt significant.natural_pos)
  have power : (10 : ℚ) ^ scale ≠ 0 := zpow_ne_zero scale (by norm_num)
  rw [value_scientific]
  exact mul_ne_zero (by cases negative <;> norm_num) (mul_ne_zero nonzero power)

theorem Number.Normal.unique {number other : Number} (first : number.Normal)
    (second : other.Normal) (same : number.value = other.value) : number = other := by
  cases first with
  | zero =>
    cases second with
    | zero => rfl
    | scientific _ significant =>
      rw [value_zero] at same
      exact (value_scientific_ne_zero _ significant _ same.symm).elim
  | scientific negative significant scale =>
    cases second with
    | zero =>
      rw [value_zero] at same
      exact (value_scientific_ne_zero _ significant _ same).elim
    | scientific _ spelled =>
      rw [value_scientific, value_scientific] at same
      obtain ⟨signs, digits, scales⟩ := signed_significant_unique significant spelled same
      cases digits
      rw [signs, scales]

theorem Number.normalize_eq_iff (number other : Number) :
    number.normalize = other.normalize ↔ number.value = other.value := by
  constructor
  · intro same
    rw [← value_normalize number, same, value_normalize]
  · intro same
    apply number.normalize_normal.unique other.normalize_normal
    rw [value_normalize, value_normalize, same]

end Json
