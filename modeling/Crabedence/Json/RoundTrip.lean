import Mathlib.Data.Bool.AllAny
import Crabedence.Json.Sequence

/-!
# Reading back what was written

Number literals, escapes and sequences are read back as they were written, whatever follows them.
-/

namespace Json

open Utf8

section Strings

theorem hexValue_digitChar {digit : Nat} (small : digit < 16) :
    hexValue (some (Nat.digitChar digit)) = some digit := by
  revert digit
  decide

variable {code : Nat} {letter c : Char} {replacement : Rune} {text : Text}

theorem hexCode_hexDigits (small : code < 65536) : (match (hexDigits code).map some with
      | [a, b, c, d] => hexCode a b c d
      | _ => none) = some code := by
  simp only [hexDigits, List.map_cons, List.map_nil, hexCode,
    hexValue_digitChar (Nat.mod_lt _ (by decide : 16 > 0)), Option.bind_eq_bind, Option.bind_some,
    Option.some.injEq]
  omega

theorem lexString_unit (small : code < 65536) (rest : List Rune) :
    lexString (('\\' :: 'u' :: hexDigits code).map some ++ rest) =
      (lexString rest).map fun result => (.unit code :: result.1, result.2) := by
  have read := hexCode_hexDigits small
  simp only [hexDigits, List.map_cons, List.map_nil] at read
  simp only [hexDigits, List.map_cons, List.map_nil, List.cons_append, List.nil_append, lexString,
    Option.some.injEq, Char.reduceEq, ↓reduceIte, read, Option.bind_eq_bind, Option.bind_some]
  cases lexString rest <;> rfl

theorem lexString_letter (known : unescape (some letter) = some c) (rest : List Rune) :
    lexString (some '\\' :: some letter :: rest) =
      (lexString rest).map fun result => (.rune (some c) :: result.1, result.2) := by
  have other : ¬ letter = 'u' := by
    intro same
    rw [same] at known
    cases known
  rw [lexString.eq_def]
  simp only [Option.some.injEq, Char.reduceEq, ↓reduceIte, other, known, Option.bind_eq_bind,
    Option.bind_some]
  cases lexString rest <;> rfl

theorem lexString_plain (visible : ¬ c.toNat < 0x20) (unquoted : c ≠ '"') (unescaped : c ≠ '\\')
    (rest : List Rune) : lexString (some c :: rest) =
      (lexString rest).map fun result => (.rune (some c) :: result.1, result.2) := by
  rw [lexString.eq_def]
  simp only [Option.some.injEq, unquoted, unescaped, ↓reduceIte, isControl, visible, decide_false,
    Bool.false_eq_true, Option.bind_eq_bind]
  cases lexString rest <;> rfl

theorem escapedByCode_small (escaped : escapedByCode c = true) : c.toNat < 65536 := by
  simp only [escapedByCode, Bool.or_eq_true, decide_eq_true_eq, beq_iff_eq] at escaped
  rcases escaped with ((((control | rfl) | rfl) | rfl) | line) | paragraph
  · omega
  · decide
  · decide
  · decide
  · omega
  · omega

theorem unescape_shortEscape (short : shortEscape c = some letter) :
    unescape (some letter) = some c := by
  unfold shortEscape at short
  split_ifs at short with quoted backslash backspace feed line carriage tab <;> cases short <;>
    simp_all [unescape]

def Readable (replacement : Rune) (text : Text) : Prop := replacement = none ∨ none ∉ text

theorem assemble_unit (low : ¬ (0xd800 ≤ code ∧ code < 0xdc00)) (pieces : List Piece) :
    assemble replacement (.unit code :: pieces) =
      unitRune replacement code :: assemble replacement pieces := by
  have single : ∀ other, surrogatePair code other = none := by
    intro other
    exact if_neg fun pair => low ⟨pair.1, pair.2.1⟩
  rw [assemble.eq_def]
  cases pieces with
  | nil => rfl
  | cons piece pieces =>
    cases piece with
    | rune rune => rfl
    | unit other => simp only [single]

end Strings

section Numbers

def StopsDigits (input : List Rune) : Prop := ∀ c, input.head? = some (some c) → c.isDigit = false

def StopsNumber (input : List Rune) : Prop :=
  ∀ c, input.head? = some (some c) → c.isDigit = false ∧ c ≠ '.' ∧ c ≠ 'e' ∧ c ≠ 'E'

theorem StopsNumber.digits {input : List Rune} (stops : StopsNumber input) : StopsDigits input :=
  fun c head => (stops c head).1

variable {rest : List Rune}

theorem spanDigits_append {digits : List Char} (spelled : Digits digits) (stops : StopsDigits rest) :
    spanDigits (digits.map some ++ rest) = (digits, rest) := by
  induction digits with
  | nil =>
    rw [List.map_nil, List.nil_append]
    cases rest with
    | nil => rfl
    | cons rune rest =>
      cases rune with
      | none => rfl
      | some c => simp [spanDigits, stops c rfl]
  | cons c digits ih =>
    have digit := spelled c (by simp)
    simp only [List.map_cons, List.cons_append, spanDigits, digit, ↓reduceIte,
      ih fun other member => spelled other (by simp [member])]

variable (number : Number)

theorem readInteger_text (stops : StopsDigits rest) :
    readInteger (number.integer.map some ++ rest) =
      some (⟨number.integer, number.integerDigits, number.integerNonempty, number.unpadded⟩,
        rest) := by
  have read := spanDigits_append number.integerDigits stops
  obtain ⟨first, others, shape⟩ := List.exists_cons_of_ne_nil number.integerNonempty
  by_cases zero : first = '0'
  · have alone : number.integer = ['0'] := number.unpadded (by rw [shape, zero]; rfl)
    simp only [alone, List.map_cons, List.map_nil, List.cons_append, List.nil_append, readInteger,
      ↓reduceIte]
  · have head : number.integer.head? ≠ some '0' := by
      rw [shape]
      exact fun same => zero (Option.some.inj same)
    have cons : number.integer.map some ++ rest = some first :: (others.map some ++ rest) := by
      rw [shape]
      rfl
    rw [cons] at read ⊢
    simp only [readInteger, Option.some.injEq, zero, ↓reduceIte, read]
    rw [dif_pos ⟨number.integerNonempty, head⟩]

theorem readFraction_text (stops : ∀ c, rest.head? = some (some c) → c.isDigit = false ∧ c ≠ '.') :
    readFraction (number.fractionText.map some ++ rest) =
      some (⟨number.fraction, number.fractionDigits⟩, rest) := by
  have read := spanDigits_append number.fractionDigits fun c head => (stops c head).1
  unfold Number.fractionText
  by_cases bare : number.fraction = []
  · rw [if_pos bare, List.map_nil, List.nil_append]
    cases rest with
    | nil => simp [readFraction, bare]
    | cons rune rest =>
      have other : rune ≠ some '.' := fun same => (stops '.' (by rw [same]; rfl)).2 rfl
      simp [readFraction, other, bare]
  · rw [if_neg bare, List.map_cons, List.cons_append]
    simp only [readFraction, ↓reduceIte, read, bare]

theorem readSign_text (exponent : Exponent) (rest : List Rune) :
    readSign ((exponent.signText ++ exponent.digits).map some ++ rest) =
      (exponent.sign, exponent.digits.map some ++ rest) := by
  unfold Exponent.signText
  rcases exponent.sign with _ | negative
  · obtain ⟨c, digits, shape⟩ := List.exists_cons_of_ne_nil exponent.nonempty
    have digit := exponent.spelled c (by simp [shape])
    have minus : c ≠ '-' := by
      rintro rfl
      cases digit
    have plus : c ≠ '+' := by
      rintro rfl
      cases digit
    rw [shape]
    simp [readSign, minus, plus]
  · cases negative <;> rfl

theorem readExponent_text (stops : StopsNumber rest) :
    readExponent (number.exponentText.map some ++ rest) = some (number.exponent, rest) := by
  unfold Number.exponentText
  cases number.exponent with
  | none =>
    simp only [Option.elim_none, List.map_nil, List.nil_append]
    cases rest with
    | nil => rfl
    | cons rune rest =>
      have other : ¬ (rune = some 'e' ∨ rune = some 'E') := by
        rintro (rfl | rfl)
        · exact (stops 'e' rfl).2.2.1 rfl
        · exact (stops 'E' rfl).2.2.2 rfl
      simp only [readExponent, other, ↓reduceIte]
  | some exponent =>
    have sign := readSign_text exponent rest
    have read := spanDigits_append exponent.spelled stops.digits
    have marked : (some (if exponent.upper then 'E' else 'e') : Rune) = some 'e' ∨
        (some (if exponent.upper then 'E' else 'e') : Rune) = some 'E' := by
      cases exponent.upper <;> simp
    have upper : decide ((some (if exponent.upper then 'E' else 'e') : Rune) = some 'E') =
        exponent.upper := by
      cases exponent.upper <;> simp
    simp only [Option.elim_some, Exponent.text, List.map_cons, List.cons_append, readExponent,
      marked, ↓reduceIte, sign, read, upper]
    rw [dif_pos exponent.nonempty]

theorem exponentText_head (stops : StopsNumber rest) (c : Char)
    (head : (number.exponentText.map some ++ rest).head? = some (some c)) :
    c.isDigit = false ∧ c ≠ '.' := by
  unfold Number.exponentText at head
  cases written : number.exponent with
  | none =>
    rw [written] at head
    exact ⟨(stops c head).1, (stops c head).2.1⟩
  | some exponent =>
    rw [written] at head
    simp only [Option.elim_some, Exponent.text, List.map_cons, List.cons_append,
      List.head?_cons, Option.some.injEq] at head
    rw [← head]
    cases exponent.upper <;> decide

theorem fractionText_head (stops : StopsNumber rest) :
    StopsDigits (number.fractionText.map some ++ (number.exponentText.map some ++ rest)) := by
  intro c head
  unfold Number.fractionText at head
  by_cases bare : number.fraction = []
  · rw [if_pos bare] at head
    exact (exponentText_head number stops c head).1
  · rw [if_neg bare] at head
    simp only [List.map_cons, List.cons_append, List.head?_cons, Option.some.injEq] at head
    rw [← head]
    rfl

theorem integerText_head (rest : List Rune) :
    (number.integer.map some ++ rest).head? ≠ some (some '-') := by
  obtain ⟨c, digits, shape⟩ := List.exists_cons_of_ne_nil number.integerNonempty
  have digit := number.integerDigits c (by simp [shape])
  rw [shape]
  intro minus
  simp only [List.map_cons, List.cons_append, List.head?_cons, Option.some.injEq] at minus
  rw [minus] at digit
  cases digit

theorem Number.read_text (stops : StopsNumber rest) :
    Number.read (number.text.map some ++ rest) = some (number, rest) := by
  have integer := readInteger_text number (fractionText_head number stops)
  have fraction := readFraction_text number (exponentText_head number stops)
  have exponent := readExponent_text number stops
  have plain := integerText_head number
    (number.fractionText.map some ++ (number.exponentText.map some ++ rest))
  cases negative : number.negative with
  | true =>
    simp only [Number.read, Number.text, negative, ↓reduceIte, List.map_append, List.map_cons,
      List.cons_append, List.nil_append, List.append_assoc, List.head?_cons,
      List.tail_cons, decide_true, integer, fraction, exponent, Option.bind_eq_bind,
      Option.bind_some]
    rw [← negative]
  | false =>
    simp only [Number.read, Number.text, negative, Bool.false_eq_true, ↓reduceIte,
      List.nil_append, List.map_append, List.append_assoc, plain, decide_false, integer, fraction,
      exponent, Option.bind_eq_bind, Option.bind_some]
    rw [← negative]

theorem stopsNumber_nil : StopsNumber [] := fun c head => by cases head

theorem Number.text_injective {number other : Number} (same : number.text = other.text) :
    number = other := by
  have read := number.read_text stopsNumber_nil
  rw [same, other.read_text stopsNumber_nil] at read
  exact (congrArg Prod.fst (Option.some.inj read)).symm

end Numbers

section Values

def Value.text (tree : Value Number) : List Char := (tree.map Number.text).print

theorem Value.text_array (items : List (Value Number)) :
    (Value.array items).text = '[' :: (separated (items.map Value.text) ++ [']']) := by
  rw [Value.text, map_array, print, fold_array, List.map_map]
  rfl

theorem Value.text_object (members : List (Text × Value Number)) : (Value.object members).text =
      '\x7b' :: (separated (members.map fun member => memberText (member.1, member.2.text)) ++
        ['\x7d']) := by
  rw [Value.text, map_object, print_object, List.map_map]
  rfl

/-- Trees nested at most as deep as given, with readable strings and keys. -/
inductive Value.Within {N : Type} (readable : Text → Prop) : Nat → Value N → Prop
  | null (depth : Nat) : Within readable depth .null
  | bool (depth : Nat) (value : Bool) : Within readable depth (.bool value)
  | number (depth : Nat) (value : N) : Within readable depth (.number value)
  | string (depth : Nat) {text : Text} : readable text → Within readable depth (.string text)
  | array {depth : Nat} {items : List (Value N)} :
      (∀ item ∈ items, Within readable depth item) → Within readable (depth + 1) (.array items)
  | object {depth : Nat} {members : List (Text × Value N)} :
      (∀ member ∈ members, readable member.1) →
      (∀ member ∈ members, Within readable depth member.2) →
      Within readable (depth + 1) (.object members)

theorem Number.text_head (number : Number) :
    ∃ c rest, number.text = c :: rest ∧ (c = '-' ∨ c.isDigit = true) := by
  obtain ⟨c, digits, shape⟩ := List.exists_cons_of_ne_nil number.integerNonempty
  have digit := number.integerDigits c (by simp [shape])
  unfold Number.text
  cases number.negative with
  | true => exact ⟨'-', _, rfl, .inl rfl⟩
  | false =>
    rw [shape]
    exact ⟨c, _, rfl, .inr digit⟩

theorem Number.text_first (number : Number) : ∃ c rest, number.text = c :: rest ∧
    isBlank (some c) = false ∧
    ∀ other ∈ ['"', '[', ']', '\x7b', '\x7d', 'n', 't', 'f'], c ≠ other := by
  obtain ⟨c, rest, shape, first⟩ := number.text_head
  have plain := List.all_iff_forall_prop.mp (show ([' ', '\t', '\n', '\r', '"', '[', ']', '\x7b',
    '\x7d', 'n', 't', 'f'].all fun c => ¬ (c = '-' ∨ c.isDigit = true)) by decide)
  refine ⟨c, rest, shape, ?_, ?_⟩
  · simp only [isBlank, Bool.or_eq_false_iff, beq_eq_false_iff_ne, ne_eq, Option.some.injEq]
    refine ⟨⟨⟨?_, ?_⟩, ?_⟩, ?_⟩ <;> rintro rfl <;> exact plain _ (by decide) first
  · rintro other held rfl
    exact plain c (by simp_all) first

def Opens (text : List Char) : Prop :=
  ∃ c rest, text = c :: rest ∧ isBlank (some c) = false ∧ c ≠ ']' ∧ c ≠ '\x7d'

theorem Value.text_opens (tree : Value Number) : Opens tree.text := by
  cases tree with
  | null => exact ⟨'n', _, rfl, by decide⟩
  | bool value => cases value <;> exact ⟨_, _, rfl, by decide⟩
  | number number =>
    obtain ⟨c, rest, shape, visible, other⟩ := number.text_first
    exact ⟨c, rest, shape, visible, other _ (by decide), other _ (by decide)⟩
  | string text => exact ⟨'"', _, rfl, by decide⟩
  | array items => exact ⟨'[', _, Value.text_array items, by decide⟩
  | object members => exact ⟨'\x7b', _, Value.text_object members, by decide⟩

theorem Value.text_ne_nil (tree : Value Number) : tree.text ≠ [] := by
  obtain ⟨c, rest, shape, -⟩ := tree.text_opens
  rw [shape]
  exact List.cons_ne_nil c rest

theorem skipBlank_cons {rune : Rune} (visible : isBlank rune = false) (rest : List Rune) :
    skipBlank (rune :: rest) = rune :: rest := by
  simp [skipBlank, visible]

theorem stopsNumber_cons {c : Char} (rest : List Rune)
    (delimits : c.isDigit = false ∧ c ≠ '.' ∧ c ≠ 'e' ∧ c ≠ 'E') : StopsNumber (some c :: rest) := by
  intro other head
  simp only [List.head?_cons, Option.some.injEq] at head
  rw [← head]
  exact delimits

theorem length_separated (parts : List (List Char)) : parts.length ≤ (separated parts).length + 1 := by
  induction parts with
  | nil => simp
  | cons part parts ih =>
    cases parts with
    | nil => simp
    | cons next parts =>
      simp only [separated, List.length_append, List.length_cons] at ih ⊢
      omega

section Sequences

variable {A T : Type} {close : Char} {item : List Rune → Option (T × List Rune)}
  {write : A → List Char} {value : A → T}

theorem readItems_separated (closes : close = ']' ∨ close = '\x7d') {sources : List A}
    (nonempty : sources ≠ []) (reads : ∀ source ∈ sources, ∀ rest, StopsNumber rest →
      item ((write source).map some ++ rest) = some (value source, rest))
    {fuel : Nat} (enough : sources.length ≤ fuel) (rest : List Rune) :
    readItems close item fuel ((separated (sources.map write)).map some ++ some close :: rest) =
      some (sources.map value, rest) := by
  have closing : isBlank (some close) = false ∧ close ≠ ',' ∧
      (close.isDigit = false ∧ close ≠ '.' ∧ close ≠ 'e' ∧ close ≠ 'E') := by
    rcases closes with rfl | rfl <;> decide
  induction sources generalizing fuel with
  | nil => exact (nonempty rfl).elim
  | cons source sources ih =>
    obtain ⟨fuel, rfl⟩ : ∃ less, fuel = less + 1 := ⟨fuel - 1, by simp at enough; omega⟩
    have first := reads source (by simp)
    cases sources with
    | nil =>
      have read := first (some close :: rest) (stopsNumber_cons rest closing.2.2)
      simp only [List.map_cons, List.map_nil, separated, readItems, read, Option.bind_eq_bind,
        Option.bind_some, skipBlank_cons closing.1, Option.some.injEq, closing.2.1, ↓reduceIte]
    | cons next sources =>
      have others := ih (by simp) (fun source held => reads source (by simp [held]))
        (by simpa using enough)
      have read := first (some ',' :: ((separated ((next :: sources).map write)).map some ++
        some close :: rest)) (stopsNumber_cons _ (by decide))
      have text : (separated ((source :: next :: sources).map write)).map some ++
          some close :: rest = (write source).map some ++
            (some ',' :: ((separated ((next :: sources).map write)).map some ++
              some close :: rest)) := by
        simp [separated]
      rw [text]
      simp only [readItems, read, Option.bind_eq_bind, Option.bind_some,
        skipBlank_cons (show isBlank (some ',') = false by decide), ↓reduceIte, others]
      rfl

theorem readSequence_separated (closes : close = ']' ∨ close = '\x7d') {sources : List A}
    (opens : ∀ source ∈ sources, Opens (write source))
    (reads : ∀ source ∈ sources, ∀ rest, StopsNumber rest →
      item ((write source).map some ++ rest) = some (value source, rest)) (rest : List Rune) :
    readSequence close item ((separated (sources.map write)).map some ++ some close :: rest) =
      some (sources.map value, rest) := by
  cases sources with
  | nil =>
    have visible : isBlank (some close) = false := by rcases closes with rfl | rfl <;> decide
    simp only [List.map_nil, separated, List.nil_append, readSequence, skipBlank_cons visible,
      ↓reduceIte]
  | cons source sources =>
    obtain ⟨c, tail, shape, visible, bracket, brace⟩ := opens source (by simp)
    have count : (source :: sources).length ≤ ((separated ((source :: sources).map write)).map some ++
        some close :: rest).length := by
      have bound := length_separated ((source :: sources).map write)
      simp only [List.length_append, List.length_map, List.length_cons] at bound ⊢
      omega
    have items := readItems_separated closes (List.cons_ne_nil source sources) reads count rest
    obtain ⟨text, start⟩ : ∃ text, (separated ((source :: sources).map write)).map some ++
        some close :: rest = some c :: text := by
      cases sources with
      | nil | cons next sources => simp [separated, shape]
    have distinct : c ≠ close := by rcases closes with rfl | rfl <;> assumption
    rw [start] at items ⊢
    simp only [readSequence, skipBlank_cons visible, Option.some.injEq, distinct, ↓reduceIte, items]

end Sequences

theorem readName_text {T : Type} (name : List Char) (value : T) (rest : List Rune) :
    readName name value (name.map some ++ rest) = some (value, rest) := by
  rw [readName, if_pos (List.prefix_append _ _)]
  simp

theorem readName_split {T : Type} {name : List Char} {value result : T} {input rest : List Rune}
    (read : readName name value input = some (result, rest)) :
    result = value ∧ input = name.map some ++ rest := by
  unfold readName at read
  split_ifs at read with starts
  cases read
  refine ⟨rfl, ?_⟩
  obtain ⟨rest, rfl⟩ := starts
  simp

end Values

section Bounds

variable {N M : Type} {readable : Text → Prop} {depth : Nat} {tree : Value N}

theorem Value.Within.map (f : N → M) (within : tree.Within readable depth) :
    (tree.map f).Within readable depth := by
  induction within with
  | null depth => exact .null depth
  | bool depth value => exact .bool depth value
  | number depth value => exact .number depth (f value)
  | string depth held => exact .string depth held
  | array _ ih =>
    rw [map_array]
    exact .array (List.forall_mem_map.mpr ih)
  | object keys _ ih =>
    rw [map_object]
    exact .object (List.forall_mem_map.mpr keys) (List.forall_mem_map.mpr ih)

theorem Value.Within.collect (within : tree.Within readable depth) :
    tree.collect.Within readable depth := by
  induction within with
  | null depth => exact .null depth
  | bool depth value => exact .bool depth value
  | number depth value => exact .number depth value
  | string depth held => exact .string depth held
  | array _ ih =>
    rw [collect_array]
    exact .array (List.forall_mem_map.mpr ih)
  | object keys _ ih =>
    rw [collect_object]
    refine .object (fun member held => ?_) (fun member held => ?_)
    · obtain ⟨source, present, rfl⟩ := List.mem_map.mp (mem_gather held)
      exact keys source present
    · obtain ⟨source, present, rfl⟩ := List.mem_map.mp (mem_gather held)
      exact ih source present

end Bounds

end Json
