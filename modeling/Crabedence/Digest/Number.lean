import Crabedence.Json.RoundTrip

/-!
# Canonical number spelling

`canonicalJSONNumber` rewrites a number literal to normalised scientific notation: digits are moved,
zeros stripped, and the exponent adjusted with unbounded integers.  Go strings are read here as
lists of characters; a byte that is no character can only make the literal malformed.
-/

namespace Crabedence

open Json

/-- The error `invalid JSON number %q: …`, with the literal it quotes. -/
structure NumberError where
  literal : List Char
  reason : String
deriving Repr, DecidableEq

def scanFraction (s rest : List Char) : Except NumberError (List Char × List Char) :=
  match rest with
  | '.' :: rest =>
    let fracPart := rest.takeWhile Char.isDigit
    if fracPart = [] then .error ⟨s, "missing fraction digits"⟩
    else .ok (fracPart, rest.dropWhile Char.isDigit)
  | rest => .ok ([], rest)

def scanSign : List Char → Bool × List Char
  | '+' :: rest => (false, rest)
  | '-' :: rest => (true, rest)
  | rest => (false, rest)

def scanExponent (s rest : List Char) : Except NumberError (Int × List Char) :=
  match rest with
  | [] => .ok (0, [])
  | marker :: rest =>
    if marker = 'e' ∨ marker = 'E' then
      let (expNeg, rest) := scanSign rest
      let digits := rest.takeWhile Char.isDigit
      if digits = [] then .error ⟨s, "missing exponent digits"⟩
      else .ok (if expNeg then -(natural digits : Int) else natural digits,
        rest.dropWhile Char.isDigit)
    else .ok (0, marker :: rest)

/-- The first half of `canonicalJSONNumber`, the grammar: sign, integer digits, fraction digits and
exponent of a literal, or the first thing wrong with it. -/
def scanNumber (s : List Char) : Except NumberError (Bool × List Char × List Char × Int) := do
  let (neg, rest) := match s with
    | '-' :: rest => (true, rest)
    | rest => (false, rest)
  let intPart := rest.takeWhile Char.isDigit
  if intPart = [] then throw ⟨s, "missing integer digits"⟩
  if intPart.length > 1 ∧ intPart.head? = some '0' then throw ⟨s, "leading zero"⟩
  let (fracPart, rest) ← scanFraction s (rest.dropWhile Char.isDigit)
  let (exp, rest) ← scanExponent s rest
  if rest ≠ [] then throw ⟨s, "trailing characters"⟩
  return (neg, intPart, fracPart, exp)

/-- The second half of `canonicalJSONNumber`: the value `digits × 10^decimalExp` with the point
after the first significant digit. -/
def normalizedForm (neg : Bool) (digits : List Char) (decimalExp : Int) : List Char :=
  let trimmed := trimRight digits
  let decimalExp := decimalExp + (digits.length - trimmed.length : Nat)
  match trimLeft trimmed with
  | [] => ['0']
  | first :: rest =>
    let e := decimalExp + ((first :: rest).length - 1 : Int)
    (if neg then ['-'] else []) ++
      ([first] ++ ((if rest = [] then [] else '.' :: rest) ++ 'e' :: integerText e))

def canonicalJSONNumber (s : List Char) : Except NumberError (List Char) := do
  let (neg, intPart, fracPart, exp) ← scanNumber s
  return normalizedForm neg (intPart ++ fracPart) (exp - fracPart.length)

variable (number : Number)

theorem scanFraction_text (s rest : List Char)
    (stops : rest.head?.all (fun c => !c.isDigit && c != '.') = true) :
    scanFraction s (number.fractionText ++ rest) = .ok (number.fraction, rest) := by
  have stopsDigit : rest.head?.all (fun c => !c.isDigit) = true := by
    cases rest <;> simp_all
  unfold Number.fractionText
  by_cases bare : number.fraction = []
  · rw [if_pos bare, bare, List.nil_append]
    cases rest with
    | nil => rfl
    | cons c rest =>
      have other : c ≠ '.' := by simp_all
      unfold scanFraction
      split
      · simp_all
      · rfl
  · have read := takeWhile_digits number.fractionDigits stopsDigit
    rw [if_neg bare]
    simp only [scanFraction, List.cons_append, read.1, read.2, bare, ↓reduceIte]

theorem scanSign_text (exponent : Exponent) : scanSign (exponent.signText ++ exponent.digits) =
      (decide (exponent.sign = some true), exponent.digits) := by
  unfold Exponent.signText
  rcases exponent.sign with _ | negative
  · obtain ⟨c, rest, shape⟩ := List.exists_cons_of_ne_nil exponent.nonempty
    have digit := exponent.spelled c (by simp [shape])
    rw [shape]
    unfold scanSign
    split
    · simp_all
    · simp_all
    · rfl
  · cases negative <;> rfl

theorem scanExponent_text (s : List Char) :
    scanExponent s number.exponentText = .ok (number.exponentValue, []) := by
  unfold Number.exponentText Number.exponentValue
  cases number.exponent with
  | none => rfl
  | some exponent =>
    have read : exponent.digits.takeWhile Char.isDigit = exponent.digits ∧
        exponent.digits.dropWhile Char.isDigit = [] := by
      have whole := @takeWhile_digits exponent.digits [] exponent.spelled rfl
      rwa [List.append_nil] at whole
    have marker : (if exponent.upper then 'E' else 'e') = 'e' ∨
        (if exponent.upper then 'E' else 'e') = 'E' := by
      cases exponent.upper <;> simp
    simp only [Option.elim_some, Exponent.text, scanExponent, marker, ↓reduceIte, scanSign_text,
      read.1, read.2, exponent.nonempty, Exponent.value, decide_eq_true_eq]

theorem exponentText_stops :
    number.exponentText.head?.all (fun c => !c.isDigit && c != '.') = true := by
  unfold Number.exponentText
  cases number.exponent with
  | none => rfl
  | some exponent => cases upper : exponent.upper <;> simp [Exponent.text, upper]

theorem afterInteger_stops :
    (number.fractionText ++ number.exponentText).head?.all (fun c => !c.isDigit) = true := by
  unfold Number.fractionText
  by_cases bare : number.fraction = []
  · have stops := exponentText_stops number
    rw [if_pos bare, List.nil_append]
    generalize number.exponentText = rest at stops
    cases rest with
    | nil => rfl
    | cons c rest => simp_all
  · rw [if_neg bare]
    rfl

theorem text_sign : (match number.text with
      | '-' :: rest => (true, rest)
      | rest => (false, rest)) =
      (number.negative,
        number.integer ++ (number.fractionText ++ number.exponentText)) := by
  unfold Number.text
  cases number.negative with
  | true => rfl
  | false =>
    obtain ⟨c, rest, shape⟩ := List.exists_cons_of_ne_nil number.integerNonempty
    have digit := number.integerDigits c (by simp [shape])
    rw [shape]
    simp only [Bool.false_eq_true, ↓reduceIte, List.nil_append, List.cons_append]
    split
    · simp_all
    · rfl

theorem unpadded_length : ¬ (number.integer.length > 1 ∧ number.integer.head? = some '0') := by
  intro ⟨long, zero⟩
  rw [number.unpadded zero] at long
  exact absurd long (by decide)

theorem scanNumber_text : scanNumber number.text =
      .ok (number.negative, number.integer, number.fraction, number.exponentValue) := by
  have read := takeWhile_digits number.integerDigits (afterInteger_stops number)
  have sign := text_sign number
  unfold scanNumber
  simp only [sign, read.1, read.2, number.integerNonempty, unpadded_length, ↓reduceIte,
    scanFraction_text number _ _ (exponentText_stops number), bind, Except.bind,
    scanExponent_text]
  rfl

variable {s rest further out : List Char} {width : Nat}

theorem scanFraction_ok {fracPart : List Char}
    (scanned : scanFraction s rest = .ok (fracPart, further)) :
    Digits fracPart ∧ rest = (if fracPart = [] then [] else '.' :: fracPart) ++ further := by
  unfold scanFraction at scanned
  split at scanned
  · rename_i rest
    dsimp only at scanned
    split_ifs at scanned with empty
    cases scanned
    refine ⟨digits_takeWhile rest, ?_⟩
    rw [if_neg empty, List.cons_append, List.takeWhile_append_dropWhile]
  · cases scanned
    exact ⟨fun _ member => by simp at member, rfl⟩

theorem scanSign_ok (rest : List Char) :
    ∃ sign : Option Bool, (scanSign rest).1 = decide (sign = some true) ∧
      rest = (match sign with
        | none => []
        | some true => ['-']
        | some false => ['+']) ++ (scanSign rest).2 := by
  unfold scanSign
  split
  · exact ⟨some false, rfl, rfl⟩
  · exact ⟨some true, rfl, rfl⟩
  · exact ⟨none, rfl, rfl⟩

theorem scanExponent_ok {exp : Int} (scanned : scanExponent s rest = .ok (exp, further)) :
    ∃ exponent : Option Exponent, rest = exponent.elim [] Exponent.text ++ further := by
  unfold scanExponent at scanned
  cases rest with
  | nil =>
    cases scanned
    exact ⟨none, rfl⟩
  | cons marker rest =>
    dsimp only at scanned
    by_cases marked : marker = 'e' ∨ marker = 'E'
    · obtain ⟨sign, -, signed⟩ := scanSign_ok rest
      rw [if_pos marked] at scanned
      by_cases empty : (scanSign rest).2.takeWhile Char.isDigit = []
      · rw [if_pos empty] at scanned
        cases scanned
      · rw [if_neg empty] at scanned
        cases scanned
        refine ⟨some ⟨marker = 'E', sign, _, digits_takeWhile (scanSign rest).2, empty⟩, ?_⟩
        have upper : (if marker = 'E' then 'E' else 'e') = marker := by
          rcases marked with lower | upper
          · rw [lower]; rfl
          · rw [upper]; rfl
        simp only [Option.elim_some, Exponent.text, Exponent.signText, decide_eq_true_eq, upper,
          List.cons_append, List.append_assoc, List.takeWhile_append_dropWhile]
        exact congrArg (marker :: ·) signed
    · rw [if_neg marked] at scanned
      cases scanned
      exact ⟨none, rfl⟩

theorem scanNumber_ok {scan : Bool × List Char × List Char × Int}
    (scanned : scanNumber s = .ok scan) : ∃ number : Number, number.text = s := by
  obtain ⟨negative, rest, signed, matched⟩ : ∃ negative rest,
      s = (if negative then ['-'] else []) ++ rest ∧
        (match s with
          | '-' :: rest => (true, rest)
          | rest => (false, rest)) = (negative, rest) := by
    split
    · exact ⟨true, _, rfl, rfl⟩
    · exact ⟨false, _, rfl, rfl⟩
  unfold scanNumber at scanned
  simp only [matched] at scanned
  by_cases empty : rest.takeWhile Char.isDigit = []
  · rw [if_pos empty] at scanned
    cases scanned
  rw [if_neg empty] at scanned
  by_cases padded : (rest.takeWhile Char.isDigit).length > 1 ∧
      (rest.takeWhile Char.isDigit).head? = some '0'
  · rw [if_pos padded] at scanned
    cases scanned
  rw [if_neg padded] at scanned
  rcases fraction : scanFraction s (rest.dropWhile Char.isDigit) with _ | ⟨fracPart, afterFraction⟩
  · rw [fraction] at scanned
    cases scanned
  rw [fraction] at scanned
  rcases exponent : scanExponent s afterFraction with _ | ⟨exp, trailing⟩
  · simp only [bind, Except.bind, exponent] at scanned
    cases scanned
  simp only [bind, Except.bind, exponent] at scanned
  by_cases ended : trailing = []
  · obtain ⟨digits, split⟩ := scanFraction_ok fraction
    obtain ⟨written, tail⟩ := scanExponent_ok exponent
    have unpadded : (rest.takeWhile Char.isDigit).head? = some '0' →
        rest.takeWhile Char.isDigit = ['0'] := by
      intro zero
      generalize rest.takeWhile Char.isDigit = text at zero padded
      cases text with
      | nil => cases zero
      | cons c text =>
        cases text with
        | nil => simpa using zero
        | cons d text => exact absurd ⟨by simp, zero⟩ padded
    refine ⟨⟨negative, _, digits_takeWhile rest, empty, unpadded, fracPart, digits, written⟩, ?_⟩
    rw [ended, List.append_nil] at tail
    rw [Number.text, Number.fractionText, Number.exponentText]
    rw [← tail, ← split, List.takeWhile_append_dropWhile, ← signed]
  · rw [if_pos ended] at scanned
    cases scanned

theorem normalizedForm_eq : normalizedForm number.negative (number.integer ++ number.fraction)
      (number.exponentValue - number.fraction.length) = number.normalize.text := by
  unfold normalizedForm Number.normalize
  cases shape : trimLeft (trimRight (number.integer ++ number.fraction)) with
  | nil =>
    simp only [shape]
    rfl
  | cons first rest =>
    have exponent : ∀ scale : Int, scale + ((first :: rest).length - 1 : Int) =
        scale + rest.length := by
      intro scale
      rw [List.length_cons]
      omega
    simp only [shape, exponent, reduceCtorEq, ↓reduceDIte, Number.text, Number.scientific,
      Number.fractionText, Number.exponentText, Option.elim_some, Exponent.text_ofInt,
      List.head_cons, List.tail_cons]

theorem canonicalJSONNumber_text : canonicalJSONNumber number.text = .ok number.normalize.text := by
  rw [canonicalJSONNumber, scanNumber_text, ← normalizedForm_eq]
  rfl

theorem canonicalJSONNumber_ok (accepted : canonicalJSONNumber s = .ok out) :
    ∃ number : Number, number.text = s := by
  unfold canonicalJSONNumber at accepted
  cases scanned : scanNumber s with
  | error failure =>
    rw [scanned] at accepted
    cases accepted
  | ok scan => exact scanNumber_ok scanned

theorem canonicalJSONNumber_eq_iff (other : Number) :
    canonicalJSONNumber number.text = canonicalJSONNumber other.text ↔
      number.value = other.value := by
  rw [canonicalJSONNumber_text, canonicalJSONNumber_text, Except.ok.injEq,
    ← Number.normalize_eq_iff]
  constructor
  · exact fun same => Number.text_injective same
  · exact fun same => congrArg Number.text same

theorem exponentValue_lt : number.exponentValue.natAbs < 10 ^ number.exponentText.length := by
  unfold Number.exponentValue Number.exponentText
  cases number.exponent with
  | none => decide
  | some exponent =>
    have magnitude : exponent.value.natAbs = natural exponent.digits := by
      unfold Exponent.value
      split <;> omega
    have written : exponent.digits.length ≤ exponent.text.length := by
      simp [Exponent.text]
      omega
    calc exponent.value.natAbs = natural exponent.digits := magnitude
      _ < 10 ^ exponent.digits.length := natural_lt exponent.spelled
      _ ≤ 10 ^ exponent.text.length := Nat.pow_le_pow_right (by decide) written

theorem integerText_length {value : Int} (fits : value.natAbs < 10 ^ (width + 1)) :
    (integerText value).length ≤ width + 2 := by
  have digits := (Nat.length_toDigits_le_iff (by decide) (Nat.succ_pos width)).mpr fits
  unfold integerText
  rw [List.length_append]
  split <;> simp <;> omega

theorem normalizedForm_length (neg : Bool) (digits : List Char) (decimalExp : Int)
    (fits : decimalExp.natAbs + digits.length < 10 ^ (width + 1)) :
    (normalizedForm neg digits decimalExp).length ≤ digits.length + width + 5 := by
  have shorter := (List.rdropWhile_prefix (· == '0') digits).length_le
  have shortest := (List.dropWhile_sublist (l := trimRight digits) (· == '0')).length_le
  change (trimRight digits).length ≤ digits.length at shorter
  change (trimLeft (trimRight digits)).length ≤ (trimRight digits).length at shortest
  unfold normalizedForm
  cases shape : trimLeft (trimRight digits) with
  | nil =>
    simp only [shape]
    simp
  | cons first rest =>
    rw [shape, List.length_cons] at shortest
    have exponent : (integerText (decimalExp + (digits.length - (trimRight digits).length : Nat) +
        ((first :: rest).length - 1 : Int))).length ≤ width + 2 := by
      apply integerText_length
      rw [List.length_cons]
      omega
    have sign : (if neg then ['-'] else []).length ≤ 1 := by cases neg <;> simp
    have fraction : (if rest = [] then [] else '.' :: rest).length ≤ rest.length + 1 := by
      split <;> simp
    simp only [shape, List.length_append, List.length_cons, List.length_nil]
    simp only [List.length_cons] at exponent
    omega

theorem canonicalJSONNumber_length (accepted : canonicalJSONNumber s = .ok out) :
    out.length ≤ 2 * s.length + 5 := by
  obtain ⟨number, rfl⟩ := canonicalJSONNumber_ok accepted
  unfold canonicalJSONNumber at accepted
  rw [scanNumber_text] at accepted
  cases accepted
  have total : number.integer.length + number.fraction.length + number.exponentText.length ≤
      number.text.length := by
    have fraction : number.fraction.length ≤ number.fractionText.length := by
      unfold Number.fractionText
      split <;> simp_all
    simp only [Number.text, List.length_append]
    omega
  have small := exponentValue_lt number
  have short : (number.integer ++ number.fraction).length < 10 ^ number.text.length :=
    calc (number.integer ++ number.fraction).length ≤ number.text.length := by
          rw [List.length_append]
          omega
      _ < 10 ^ number.text.length := Nat.lt_pow_self (by decide)
  have power : 10 ^ number.exponentText.length ≤ 10 ^ number.text.length :=
    Nat.pow_le_pow_right (by decide) (by omega)
  have fits : (number.exponentValue - number.fraction.length).natAbs +
      (number.integer ++ number.fraction).length < 10 ^ (number.text.length + 1) := by
    rw [List.length_append] at short ⊢
    rw [Nat.pow_succ]
    omega
  have bound := normalizedForm_length number.negative _ _ fits
  rw [List.length_append] at bound
  omega

/-- `canonicalJSONNumber` accepts exactly the number literals, writes a literal of the same value
that it leaves unchanged, identifies two literals exactly when they denote the same rational, and
at most about doubles the length. -/
theorem canonicalJSONNumber_normalizes (s : List Char) :
    ((∃ out, canonicalJSONNumber s = .ok out) ↔ ∃ number : Number, number.text = s) ∧
      (∀ number : Number, number.text = s →
        ∃ out : Number, canonicalJSONNumber s = .ok out.text ∧ out.value = number.value ∧
          canonicalJSONNumber out.text = .ok out.text ∧
          out.text.length ≤ 2 * s.length + 5) ∧
      ∀ (t : List Char) (first second : Number), first.text = s → second.text = t →
        (canonicalJSONNumber s = canonicalJSONNumber t ↔ first.value = second.value) := by
  refine ⟨⟨?_, ?_⟩, ?_, ?_⟩
  · rintro ⟨out, accepted⟩
    exact canonicalJSONNumber_ok accepted
  · rintro ⟨number, rfl⟩
    exact ⟨number.normalize.text, canonicalJSONNumber_text number⟩
  · rintro number rfl
    have written := canonicalJSONNumber_text number
    have value := number.value_normalize
    have again := (canonicalJSONNumber_eq_iff number.normalize number).mpr value
    exact ⟨number.normalize, written, value, again.trans written,
      canonicalJSONNumber_length written⟩
  · rintro t first second rfl rfl
    exact canonicalJSONNumber_eq_iff first second

/-- The literals `100` and `1.0E2`. -/
def sampleHundred : Number :=
  ⟨false, "100".toList, by decide, by decide, by decide, [], digits_nil, none⟩

def sampleScientific : Number :=
  ⟨false, "1".toList, by decide, by decide, by decide, "0".toList, by decide,
    some ⟨true, none, "2".toList, by decide, by decide⟩⟩

theorem canonicalJSONNumber_normalizes_hundred :
    sampleHundred.text = "100".toList ∧ sampleScientific.text = "1.0E2".toList ∧
      canonicalJSONNumber "100".toList = canonicalJSONNumber "1.0E2".toList :=
  ⟨rfl, rfl, ((canonicalJSONNumber_normalizes "100".toList).2.2 "1.0E2".toList sampleHundred
    sampleScientific rfl rfl).mpr (by decide +kernel)⟩

example : canonicalJSONNumber "-0.0100E+3".toList = .ok "-1e1".toList := by decide +kernel

end Crabedence
