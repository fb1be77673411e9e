import Crabedence.Json.RoundTrip

/-!
# What a token was read from

The input of a number or a string is the text of the token and what follows it, so a scanner that
cuts a token out first and reads it afterwards reads the same.
-/

namespace Json

open Utf8

variable {input rest : List Rune}

section Numbers

theorem spanDigits_split (input : List Rune) :
    input = (spanDigits input).1.map some ++ (spanDigits input).2 := by
  fun_induction spanDigits input with
  | case1 c rest digit digits after span ih =>
    rw [span] at ih
    rw [List.map_cons, List.cons_append, ← ih]
  | case2 => rfl
  | case3 => rfl

theorem readInteger_split {digits : { digits : List Char //
      Digits digits ∧ digits ≠ [] ∧ (digits.head? = some '0' → digits = ['0']) }}
    (read : readInteger input = some (digits, rest)) : input = digits.1.map some ++ rest := by
  unfold readInteger at read
  cases input with
  | nil => cases read
  | cons first others =>
    dsimp only at read
    split_ifs at read with zero accepted
    · cases read
      rw [zero]
      rfl
    · cases read
      exact spanDigits_split _

theorem readFraction_split {digits : { digits : List Char // Digits digits }}
    (read : readFraction input = some (digits, rest)) :
    input = (if digits.1 = [] then [] else '.' :: digits.1).map some ++ rest := by
  unfold readFraction at read
  cases input with
  | nil =>
    cases read
    rfl
  | cons first others =>
    dsimp only at read
    split_ifs at read with point empty
    · cases read
      rw [if_neg empty, point, List.map_cons, List.cons_append, ← spanDigits_split]
    · cases read
      rfl

theorem readExponent_split {exponent : Option Exponent}
    (read : readExponent input = some (exponent, rest)) :
    input = (exponent.elim [] Exponent.text).map some ++ rest := by
  unfold readExponent at read
  cases input with
  | nil =>
    cases read
    rfl
  | cons first others =>
    dsimp only at read
    split_ifs at read with marker nonempty
    · cases read
      have digits := spanDigits_split (readSign others).2
      have letter : first = some (if first = some 'E' then 'E' else 'e') := by
        rcases marker with rfl | rfl <;> rfl
      have sign (exponent : Exponent) (written : exponent.sign = (readSign others).1) :
          others = exponent.signText.map some ++ (readSign others).2 := by
        rw [Exponent.signText, written]
        unfold readSign
        cases others with
        | nil => rfl
        | cons next others =>
          dsimp only
          split_ifs with minus plus
          · rw [minus]
            rfl
          · rw [plus]
            rfl
          · rfl
      rw [Option.elim_some, Exponent.text, List.map_cons, List.map_append, List.cons_append,
        List.append_assoc]
      rw [← digits, ← sign _ rfl]
      simp only [decide_eq_true_eq]
      rw [← letter]
    · cases read
      rfl

theorem Number.read_split {number : Number} (read : Number.read input = some (number, rest)) :
    input = number.text.map some ++ rest := by
  obtain ⟨⟨integer, first⟩, whole, read⟩ := Option.bind_eq_some_iff.mp read
  obtain ⟨⟨fraction, second⟩, part, read⟩ := Option.bind_eq_some_iff.mp read
  obtain ⟨⟨exponent, third⟩, power, result⟩ := Option.bind_eq_some_iff.mp read
  cases result
  have one := readInteger_split whole
  have two := readFraction_split part
  have three := readExponent_split power
  simp only [Number.text, Number.fractionText, Number.exponentText, List.map_append,
    List.append_assoc]
  rw [← three, ← two, ← one]
  by_cases minus : input.head? = some (some '-')
  · simp only [minus, decide_true, ↓reduceIte, List.map_cons, List.map_nil, List.cons_append,
      List.nil_append]
    exact (List.cons_head?_tail minus).symm
  · simp [minus]

end Numbers

section Strings

/-- A string literal after its opening quote, the pieces it spells, and what follows it. -/
inductive Lexed : List Rune → List Piece → List Rune → Prop
  | close (rest : List Rune) : Lexed (some '"' :: rest) [] rest
  | unit {a b c d : Rune} {code : Nat} {input rest : List Rune} {pieces : List Piece} :
      hexCode a b c d = some code → Lexed input pieces rest →
      Lexed (some '\\' :: some 'u' :: a :: b :: c :: d :: input) (.unit code :: pieces) rest
  | letter {letter : Rune} {c : Char} {input rest : List Rune} {pieces : List Piece} :
      unescape letter = some c → Lexed input pieces rest →
      Lexed (some '\\' :: letter :: input) (.rune (some c) :: pieces) rest
  | plain {rune : Rune} {input rest : List Rune} {pieces : List Piece} :
      rune ≠ some '"' → rune ≠ some '\\' → isControl rune = false → Lexed input pieces rest →
      Lexed (rune :: input) (.rune rune :: pieces) rest

variable {pieces : List Piece} {rune : Rune} {value : Nat}

theorem lexString_eq_some_iff :
    lexString input = some (pieces, rest) ↔ Lexed input pieces rest := by
  constructor
  · intro lexed
    fun_induction lexString input generalizing pieces rest with
    | case1 | case3 | case5 | case7 => cases lexed
    | case2 =>
      cases lexed
      exact .close _
    | case4 =>
      rename_i ih
      obtain ⟨code, hexadecimal, lexed⟩ := Option.bind_eq_some_iff.mp lexed
      obtain ⟨⟨others, after⟩, further, result⟩ := Option.bind_eq_some_iff.mp lexed
      cases result
      exact .unit hexadecimal (ih further)
    | case6 =>
      rename_i ih
      obtain ⟨c, escaped, lexed⟩ := Option.bind_eq_some_iff.mp lexed
      obtain ⟨⟨others, after⟩, further, result⟩ := Option.bind_eq_some_iff.mp lexed
      cases result
      exact .letter escaped (ih further)
    | case8 =>
      rename_i unquoted unescaped visible ih
      obtain ⟨⟨others, after⟩, further, result⟩ := Option.bind_eq_some_iff.mp lexed
      cases result
      exact .plain unquoted unescaped (Bool.not_eq_true _ ▸ visible) (ih further)
  · intro lexed
    induction lexed with
    | close rest =>
      rw [lexString.eq_def]
      rfl
    | unit hexadecimal _ ih =>
      rw [lexString.eq_def]
      simp only [Option.some.injEq, Char.reduceEq, ↓reduceIte, hexadecimal, ih,
        Option.bind_eq_bind, Option.bind_some]
    | @letter letter c input rest pieces escaped _ ih =>
      have other : letter ≠ some 'u' := by
        rintro rfl
        cases escaped
      rw [lexString.eq_def]
      simp only [Option.some.injEq, Char.reduceEq, ↓reduceIte, other, escaped, ih,
        Option.bind_eq_bind, Option.bind_some]
    | plain unquoted unescaped visible _ ih =>
      rw [lexString.eq_def]
      simp only [unquoted, unescaped, visible, Bool.false_eq_true, ↓reduceIte, ih,
        Option.bind_eq_bind, Option.bind_some]

theorem Lexed.append (lexed : Lexed input pieces rest) (more : List Rune) :
    Lexed (input ++ more) pieces (rest ++ more) := by
  induction lexed with
  | close rest => exact .close _
  | unit hexadecimal _ ih => exact .unit hexadecimal ih
  | letter escaped _ ih => exact .letter escaped ih
  | plain unquoted unescaped visible _ ih => exact .plain unquoted unescaped visible ih

theorem Lexed.shrinks (lexed : Lexed input pieces rest) : rest.length < input.length := by
  induction lexed with
  | close rest => exact Nat.lt_succ_self _
  | unit _ _ ih | letter _ _ ih | plain _ _ _ _ ih =>
    simp only [List.length_cons]
    omega

theorem hexValue_lt (digit : hexValue rune = some value) : value < 16 := by
  unfold hexValue at digit
  cases rune with
  | none => cases digit
  | some c =>
    dsimp only at digit
    split_ifs at digit <;> cases digit <;> omega

theorem hexCode_eq_some {a b c d : Rune} {code : Nat} (read : hexCode a b c d = some code) :
    code < 65536 ∧ ∀ rune ∈ [a, b, c, d], ∃ value, hexValue rune = some value := by
  obtain ⟨first, one, read⟩ := Option.bind_eq_some_iff.mp read
  obtain ⟨second, two, read⟩ := Option.bind_eq_some_iff.mp read
  obtain ⟨third, three, read⟩ := Option.bind_eq_some_iff.mp read
  obtain ⟨fourth, four, read⟩ := Option.bind_eq_some_iff.mp read
  cases read
  have := hexValue_lt one
  have := hexValue_lt two
  have := hexValue_lt three
  have := hexValue_lt four
  refine ⟨by omega, ?_⟩
  simp [one, two, three, four]

theorem hexValue_plain (digit : hexValue rune = some value) :
    rune ≠ some '"' ∧ rune ≠ some '\\' ∧ isControl rune = false := by
  cases rune with
  | none => cases digit
  | some c =>
    refine ⟨?_, ?_, ?_⟩
    · rintro same
      cases same
      cases digit
    · rintro same
      cases same
      cases digit
    · rw [isControl, decide_eq_false_iff_not]
      intro small
      simp only [hexValue] at digit
      split_ifs at digit <;> omega

def Coded (pieces : List Piece) : Prop := ∀ code, Piece.unit code ∈ pieces → code < 65536

theorem Lexed.coded (lexed : Lexed input pieces rest) : Coded pieces := by
  induction lexed with
  | close rest => simp [Coded]
  | unit hexadecimal _ ih =>
    rintro code held
    rcases List.mem_cons.mp held with here | there
    · cases here
      exact (hexCode_eq_some hexadecimal).1
    · exact ih code there
  | letter _ _ ih | plain _ _ _ _ ih => exact fun code held => ih code (by simpa using held)

end Strings

end Json
