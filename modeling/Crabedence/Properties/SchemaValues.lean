import Crabedence.Capability.Meaning

/-!
# Enumerations and numeric limits

`validateValue` compares numbers as exact rationals, and everything else by the text `fmt` prints for
it.  An enumeration therefore admits its members only, exactly if whatever prints like a member is one.
A numeric limit is compared only where `big.Rat` accepts both literals, so an accepted number is within
all limits exactly if it is within those that were not compared.
-/

namespace Crabedence.Capability

open Json

def Decoded (v : Value Number) : Prop := ∃ data, decodeUseNumber data = .ok v

/-- The two are not compared as rationals, and `fmt` prints the same text for them. -/
def PrintsAlike (e v : Value Number) : Prop :=
  (ratValue e = none ∨ ratValue v = none) ∧ sprint e = sprint v

variable {v : Value Number} {path : String} {members : List (Value Number)}

theorem enum_match {schema : Schema}
    (declared : schema.lookup (textOf "enum") = some (.array members))
    (accepted : validateValue v schema path = .ok ()) :
    ∃ e ∈ members, SameValue e v ∨ PrintsAlike e v := by
  have passed := checkSelf_of_validateValue accepted
  unfold checkSelf at passed
  rw [inOrder_ok] at passed
  have compared : checkEnum schema path v = .ok () :=
    passed _ (List.mem_cons_of_mem _ List.mem_cons_self)
  obtain ⟨e, member, matched⟩ := (checkEnum_ok declared).mp compared
  refine ⟨e, member, ?_⟩
  rcases enumMatches_iff.mp matched with ⟨r, first, second⟩ | alike
  · exact .inl (sameValue_of_ratValue first second)
  · exact .inr alike

def enumOnly (members : List (Value Number)) : Schema := [(textOf "enum", .array members)]

theorem checkBound_enumOnly {limit : Limit} {num : Option ℚ}
    {violates : ℚ → ℚ → Bool} {message : String} :
    checkBound (enumOnly members) limit.text num violates message = .ok () := by
  apply checkBound_ok.mpr
  intro n b _ declared
  cases limit <;> cases declared

theorem validateValue_enumOnly {e : Value Number} (member : e ∈ members) (alike : PrintsAlike e v) :
    validateValue v (enumOnly members) path = .ok () := by
  have self : checkSelf (enumOnly members) path v = .ok () := by
    unfold checkSelf
    rw [inOrder_ok]
    simp only [List.forall_mem_cons, List.not_mem_nil, false_imp_iff, forall_const, and_true]
    refine ⟨rfl, ?_, ?_, ?_⟩
    · exact (checkEnum_ok rfl).mpr ⟨e, member, enumMatches_iff.mpr (.inr alike)⟩
    · unfold checkNumber
      rw [inOrder_ok]
      simp only [List.forall_mem_cons, List.not_mem_nil, false_imp_iff, forall_const, and_true]
      exact ⟨@checkBound_enumOnly _ .minimum _ _ _, @checkBound_enumOnly _ .maximum _ _ _,
        @checkBound_enumOnly _ .multipleOf _ _ _⟩
    · cases v with
      | string s =>
        show inOrder _ = _
        rw [inOrder_ok]
        simp only [List.forall_mem_cons, List.not_mem_nil, false_imp_iff, forall_const, and_true]
        exact ⟨@checkBound_enumOnly _ .minLength _ _ _, @checkBound_enumOnly _ .maxLength _ _ _⟩
      | _ => rfl
  cases v with
  | array items =>
    rw [validateValue_array, self]
    rfl
  | object members =>
    rw [validateValue_object, self]
    rfl
  | _ => exact self

/-- An enumeration admits only its members, under any schema that has it, exactly if every value that
prints like one of them is one of them. -/
theorem enum_admits_members_iff (members : List (Value Number)) :
    (∀ schema v path, schema.lookup (textOf "enum") = some (.array members) → Decoded v →
      validateValue v schema path = .ok () → ∃ e ∈ members, SameValue e v) ↔
    (∀ e ∈ members, ∀ v, Decoded v → PrintsAlike e v → ∃ other ∈ members, SameValue other v) := by
  constructor
  · intro admits e member v decoded alike
    exact admits (enumOnly members) v "" rfl decoded (validateValue_enumOnly member alike)
  · intro closed schema v path declared decoded accepted
    obtain ⟨e, member, same | alike⟩ := enum_match declared accepted
    · exact ⟨e, member, same⟩
    · exact closed e member v decoded alike

def sampleDigit (c : Char) (digit : c.isDigit = true) : Number where
  negative := false
  integer := [c]
  integerDigits := by simpa [Digits] using digit
  integerNonempty := List.cons_ne_nil _ _
  unpadded := fun zero => by simpa using zero
  fraction := []
  fractionDigits := by simp [Digits]
  exponent := none

/-- The string `"1"` is accepted where the enumeration lists the number `1`. -/
theorem enum_accepts_printed_number :
    validateValue (.string [some '1'])
        (enumOnly [.number (sampleDigit '1' rfl)]) "argument" = .ok () ∧
      decodeUseNumber [34, 49, 34] = .ok (.string [some '1']) ∧
      ¬ ∃ e ∈ [Value.number (sampleDigit '1' rfl)], SameValue e (.string [some '1']) := by
  refine ⟨validateValue_enumOnly List.mem_cons_self ⟨.inr rfl, rfl⟩, rfl, ?_⟩
  rintro ⟨e, member, same⟩
  rw [List.mem_singleton.mp member] at same
  cases same

/-- An accepted number is within every limit of its schema exactly if it is within those that the
validator could not compare. -/
theorem number_limits_hold_iff (schema : Schema) (x : Number) (path : String)
    (accepted : validateValue (.number x) schema path = .ok ()) :
    (∀ limit ∈ [Limit.minimum, .maximum, .multipleOf], ∀ bound,
      schema.lookup (textOf limit.text) = some (.number bound) →
        limit.Holds x.value bound.value) ↔
    (∀ limit ∈ [Limit.minimum, .maximum, .multipleOf], ∀ bound,
      schema.lookup (textOf limit.text) = some (.number bound) →
        ¬ limit.Comparable (.number x) bound → limit.Holds x.value bound.value) := by
  constructor
  · intro holds limit numeric bound declared _
    exact holds limit numeric bound declared
  · intro uncompared limit numeric bound declared
    by_cases comparable : limit.Comparable (.number x) bound
    · have limited : limit.quantity (.number x) = some x.value := by
        simp only [List.mem_cons, List.not_mem_nil, or_false] at numeric
        rcases numeric with rfl | rfl | rfl <;> rfl
      exact holds_of_checkSelf (checkSelf_of_validateValue accepted) declared limited comparable
    · exact uncompared limit numeric bound declared comparable

/-- The schema `{"maximum":9}`. -/
def sampleMaximum : Schema := [(textOf "maximum", .number (sampleDigit '9' rfl))]

/-- The literal `1e1000001`. -/
def sampleHuge : Number :=
  { sampleDigit '1' rfl with
    exponent := some ⟨false, none, "1000001".toList, by decide, by decide⟩ }

/-- Where all literals are small, the accepted number is within its limit. -/
theorem number_limits_hold_compared :
    validateValue (.number (sampleDigit '5' rfl)) sampleMaximum "argument" = .ok () ∧
      (sampleDigit '5' rfl).value ≤ (sampleDigit '9' rfl).value := by
  have accepted : validateValue (.number (sampleDigit '5' rfl)) sampleMaximum "argument" =
    .ok () := by decide +kernel
  have law := (number_limits_hold_iff sampleMaximum (sampleDigit '5' rfl) "argument" accepted).mpr
  refine ⟨accepted, law ?_ .maximum (by simp) _ rfl⟩
  intro limit numeric bound declared uncompared
  simp only [List.mem_cons, List.not_mem_nil, or_false] at numeric
  rcases numeric with rfl | rfl | rfl
  · cases declared
  · cases declared
    exact absurd ⟨by decide, fun x same => by cases same; decide, fun other => by cases other⟩
      uncompared
  · cases declared

theorem sampleHuge_value : sampleHuge.value = 10 ^ (1000001 : ℤ) := by
  have exponent : sampleHuge.exponentValue = 1000001 := by decide +kernel
  have digits : natural (sampleHuge.integer ++ sampleHuge.fraction) = 1 := by decide
  unfold Number.value
  rw [exponent, digits]
  simp [sampleHuge, sampleDigit]

/-- A number beyond the exponents `big.Rat` accepts passes a maximum it exceeds. -/
theorem huge_number_exceeds_maximum :
    validateValue (.number sampleHuge) sampleMaximum "argument" = .ok () ∧
      ¬ sampleHuge.value ≤ (sampleDigit '9' rfl).value := by
  have refused : ¬ RatAccepts sampleHuge := by decide +kernel
  have nine : (sampleDigit '9' rfl).value = 9 := by decide +kernel
  constructor
  · show checkSelf sampleMaximum "argument" (.number sampleHuge) = .ok ()
    unfold checkSelf
    rw [inOrder_ok]
    simp only [List.forall_mem_cons, List.not_mem_nil, false_imp_iff, forall_const, and_true]
    refine ⟨rfl, rfl, ?_, rfl⟩
    unfold checkNumber
    rw [ratValue_number, if_neg refused]
    rfl
  · rw [sampleHuge_value, nine, not_le]
    calc (9 : ℚ) < 10 ^ (1 : ℤ) := by norm_num
      _ ≤ 10 ^ (1000001 : ℤ) := zpow_le_zpow_right₀ (by norm_num) (by norm_num)

end Crabedence.Capability
