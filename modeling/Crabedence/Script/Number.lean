import Mathlib.Data.Int.Log
import Mathlib.Data.Rat.Floor
import Mathlib.Tactic.Positivity
import Crabedence.Json.Number

/-!
# Script numbers

Numbers are IEEE-754 doubles.  `ofRat` rounds to the nearest double, ties to even, and overflows to an
infinity; negative zero is zero.  Integers up to `2 ^ 53 - 1` in magnitude, the safe ones, are exact,
and no larger integer is read as a safe one.
-/

namespace Script

inductive Number where
  | finite (value : ℚ)
  | infinite (negative : Bool)
deriving DecidableEq

def roundEven (q : ℚ) : ℤ :=
  if q - ⌊q⌋ < 1 / 2 then ⌊q⌋
  else if 1 / 2 < q - ⌊q⌋ then ⌊q⌋ + 1
  else if ⌊q⌋ % 2 = 0 then ⌊q⌋
  else ⌊q⌋ + 1

def lastPlace (q : ℚ) : ℤ := max (Int.log 2 |q| - 52) (-1074)

def round (q : ℚ) : ℚ := roundEven (q / 2 ^ lastPlace q) * 2 ^ lastPlace q

def ofRat (q : ℚ) : Number :=
  if 2 ^ 1024 - 2 ^ 970 ≤ |q| then .infinite (decide (q < 0)) else .finite (round q)

/-- `Number.MAX_SAFE_INTEGER`. -/
def maxSafeInteger : ℤ := 9007199254740991

def IsSafe (n : ℤ) : Prop := |n| ≤ maxSafeInteger

instance (n : ℤ) : Decidable (IsSafe n) := inferInstanceAs (Decidable (_ ≤ _))

namespace Number

def integer (n : ℤ) : Number := .finite n

/-- `String(number)`: an integer below `10 ^ 21` is written in decimal digits, any other number in
the shortest form that denotes it. -/
def text (shortest : Number → List Char) : Number → List Char
  | .finite value =>
    if value.den = 1 ∧ |value.num| < 10 ^ 21 then Json.integerText value.num
    else shortest (.finite value)
  | .infinite negative => shortest (.infinite negative)

end Number

theorem roundEven_intCast (n : ℤ) : roundEven n = n := by
  simp [roundEven]

variable {q : ℚ} {n : ℤ}

theorem round_integer (safe : IsSafe n) : round n = n := by
  have small : |(n : ℚ)| < 2 ^ (53 : ℤ) := by
    have bound : |(n : ℚ)| ≤ (maxSafeInteger : ℚ) := by exact_mod_cast safe
    refine bound.trans_lt ?_
    norm_num [maxSafeInteger]
  have place : lastPlace n ≤ 0 := by
    refine max_le ?_ (by decide)
    by_cases zero : n = 0
    · simp [zero]
    · have positive : 0 < |(n : ℚ)| := abs_pos.mpr (by exact_mod_cast zero)
      have log : Int.log 2 |(n : ℚ)| < 53 :=
        (Int.lt_zpow_iff_log_lt (b := 2) (by decide) positive).mp (by exact_mod_cast small)
      omega
  obtain ⟨k, depth⟩ : ∃ k : ℕ, lastPlace n = -k := ⟨(-lastPlace n).toNat, by omega⟩
  have scaled : (n : ℚ) / 2 ^ lastPlace n = ((n * 2 ^ k : ℤ) : ℚ) := by
    rw [depth, zpow_neg, div_inv_eq_mul, zpow_natCast]
    push_cast
    rfl
  rw [round, scaled, roundEven_intCast, depth, zpow_neg, zpow_natCast]
  push_cast
  rw [mul_assoc, mul_inv_cancel₀ (by positivity), mul_one]

theorem safe_below_overflow : (maxSafeInteger : ℚ) < 2 ^ 1024 - 2 ^ 970 := by
  have small : (maxSafeInteger : ℚ) < 2 ^ 53 := by norm_num [maxSafeInteger]
  have power : (2 : ℚ) ^ 53 ≤ 2 ^ 970 := pow_le_pow_right₀ (by norm_num) (by decide)
  have double : (2 : ℚ) * 2 ^ 970 ≤ 2 ^ 1024 := by
    rw [← pow_succ']
    exact pow_le_pow_right₀ (by norm_num) (by decide)
  have rest : (2 : ℚ) ^ 970 ≤ 2 ^ 1024 - 2 ^ 970 := by
    rw [le_sub_iff_add_le, ← two_mul]
    exact double
  exact small.trans_le (power.trans rest)

theorem ofRat_integer (safe : IsSafe n) : ofRat n = .integer n := by
  have finite : ¬ (2 : ℚ) ^ 1024 - 2 ^ 970 ≤ |(n : ℚ)| := by
    have bound : |(n : ℚ)| ≤ (maxSafeInteger : ℚ) := by exact_mod_cast safe
    exact not_le.mpr (bound.trans_lt safe_below_overflow)
  rw [ofRat, if_neg finite, round_integer safe]
  rfl

namespace Number

theorem text_integer (shortest : Number → List Char) (safe : IsSafe n) :
    (integer n).text shortest = Json.integerText n := by
  have small : |n| < 10 ^ 21 := lt_of_le_of_lt safe (by decide)
  rw [integer, text, if_pos ⟨Rat.den_intCast n, by rwa [Rat.num_intCast]⟩, Rat.num_intCast]

end Number

end Script
