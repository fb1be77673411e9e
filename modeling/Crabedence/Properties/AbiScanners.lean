import Crabedence.Abi.Scanner
import Crabedence.Properties.InvocationABI

/-!
# What the invocation scanners accept

A scanner walks the text without building a document.  It accepts exactly the texts the grammar
reads, whose strings its language decodes and whose document keeps the rules of the contract.
-/

namespace Crabedence.Abi

open Json Utf8

variable {pieces : List Piece}

section Tokens

variable {input raw rest : List Rune}

theorem readStringToken_plain {rune : Rune} (unquoted : rune ≠ some '"')
    (unescaped : rune ≠ some '\\') (visible : isControl rune = false)
    (read : readStringToken input = some (raw, rest)) :
    readStringToken (rune :: input) = some (rune :: raw, rest) := by
  rw [readStringToken.eq_def]
  simp only [unescaped, unquoted, visible, Bool.false_eq_true, ↓reduceIte, read, Option.map_some]

theorem readStringToken_escaped {next : Rune} (read : readStringToken input = some (raw, rest)) :
    readStringToken (some '\\' :: next :: input) = some (some '\\' :: next :: raw, rest) := by
  rw [readStringToken.eq_def]
  simp only [↓reduceIte, read, Option.map_some]

theorem readStringToken_of_lexed (lexed : Lexed input pieces rest) :
    ∃ raw, readStringToken input = some (raw, rest) ∧ Lexed (raw ++ [some '"']) pieces [] := by
  induction lexed with
  | close rest =>
    refine ⟨[], ?_, .close []⟩
    rw [readStringToken.eq_def]
    rfl
  | @unit a b c d code input rest pieces hexadecimal _ ih =>
    obtain ⟨raw, read, spelled⟩ := ih
    refine ⟨some '\\' :: some 'u' :: a :: b :: c :: d :: raw, ?_, .unit hexadecimal spelled⟩
    have digit {rune : Rune} (held : rune ∈ [a, b, c, d]) :
        rune ≠ some '"' ∧ rune ≠ some '\\' ∧ isControl rune = false := by
      obtain ⟨value, known⟩ := (hexCode_eq_some hexadecimal).2 rune held
      exact hexValue_plain known
    have plain {rune : Rune} {input raw : List Rune} (held : rune ∈ [a, b, c, d])
        (read : readStringToken input = some (raw, rest)) :=
      readStringToken_plain (digit held).1 (digit held).2.1 (digit held).2.2 read
    exact readStringToken_escaped (plain (by simp) (plain (by simp) (plain (by simp)
      (plain (by simp) read))))
  | letter escaped _ ih =>
    obtain ⟨raw, read, spelled⟩ := ih
    exact ⟨_, readStringToken_escaped read, .letter escaped spelled⟩
  | plain unquoted unescaped visible _ ih =>
    obtain ⟨raw, read, spelled⟩ := ih
    exact ⟨_, readStringToken_plain unquoted unescaped visible read,
      .plain unquoted unescaped visible spelled⟩

theorem readStringToken_split
    (read : readStringToken input = some (raw, rest)) : input = raw ++ some '"' :: rest := by
  fun_induction readStringToken input generalizing raw rest with
  | case1 | case2 | case5 => cases read
  | case4 =>
    cases read
    rfl
  | case3 | case6 =>
    rename_i ih
    obtain ⟨⟨others, after⟩, further, result⟩ := Option.map_eq_some_iff.mp read
    cases result
    rw [ih further]
    rfl

theorem parseString_eq_some_iff {K : Type} {dialect : Dialect K} {key : K} :
    parseString dialect input = some (key, rest) ↔
      ∃ pieces, lexString input = some (pieces, rest) ∧ dialect.text pieces = some key := by
  unfold parseString
  constructor
  · intro parsed
    obtain ⟨⟨raw, after⟩, token, parsed⟩ := Option.bind_eq_some_iff.mp parsed
    obtain ⟨decoded, checked, result⟩ := Option.bind_eq_some_iff.mp parsed
    cases result
    unfold decodeToken at checked
    split at checked
    · rename_i pieces lexed
      refine ⟨pieces, ?_, checked⟩
      rw [lexString_eq_some_iff] at lexed
      rw [lexString_eq_some_iff, readStringToken_split token]
      simpa using lexed.append rest
    · cases checked
  · rintro ⟨pieces, lexed, decoded⟩
    obtain ⟨raw, token, spelled⟩ := readStringToken_of_lexed (lexString_eq_some_iff.mp lexed)
    rw [← lexString_eq_some_iff] at spelled
    simp only [decodeToken, token, spelled, decoded, Option.bind_eq_bind, Option.bind_some]

theorem isNumeric_digits {digits : List Char} (spelled : Digits digits) :
    ∀ c ∈ digits, isNumeric (some c) = true := by
  intro c held
  simp [isNumeric, spelled c held]

theorem isNumeric_text (number : Number) : ∀ c ∈ number.text, isNumeric (some c) = true := by
  have sign : ∀ c ∈ (if number.negative then ['-'] else []), isNumeric (some c) = true := by
    split_ifs <;> simp [isNumeric]
  have fraction : ∀ c ∈ number.fractionText, isNumeric (some c) = true := by
    unfold Number.fractionText
    split_ifs
    · simp
    · exact List.forall_mem_cons.mpr ⟨rfl, isNumeric_digits number.fractionDigits⟩
  have exponent : ∀ c ∈ number.exponentText, isNumeric (some c) = true := by
    unfold Number.exponentText
    cases number.exponent with
    | none => simp
    | some exponent =>
      have signed : ∀ c ∈ exponent.signText, isNumeric (some c) = true := by
        unfold Exponent.signText
        split <;> simp [isNumeric]
      refine List.forall_mem_cons.mpr ⟨by split_ifs <;> rfl, ?_⟩
      exact List.forall_mem_append.mpr ⟨signed, isNumeric_digits exponent.spelled⟩
  exact List.forall_mem_append.mpr ⟨sign, List.forall_mem_append.mpr
    ⟨isNumeric_digits number.integerDigits, List.forall_mem_append.mpr ⟨fraction, exponent⟩⟩⟩

def Ends (rest : List Rune) : Prop := ∀ rune, rest.head? = some rune → isNumeric rune = false

theorem ends_iff : Ends rest ↔ rest.takeWhile isNumeric = [] := by
  cases rest with
  | nil | cons rune rest => simp [Ends]

theorem Ends.stops (ends : Ends rest) : StopsNumber rest := by
  intro c head
  have plain := ends _ head
  simp only [isNumeric, Bool.or_eq_false_iff, beq_eq_false_iff_ne] at plain
  tauto

theorem parseNumber_eq_some_iff {literal : List Rune} : parseNumber input = some (literal, rest) ↔
      ∃ number, literal = number.text.map some ∧ Number.read input = some (number, rest) ∧
        Ends rest := by
  unfold parseNumber isNumberLiteral
  constructor
  · intro parsed
    dsimp only at parsed
    split_ifs at parsed with spelled
    cases parsed
    split at spelled
    · rename_i number read
      have whole := Number.read_split read
      rw [List.append_nil] at whole
      have ends : Ends (input.dropWhile isNumeric) := by
        intro rune head
        have := List.head?_dropWhile_not isNumeric input
        rw [head] at this
        exact this
      refine ⟨number, whole, ?_, ends⟩
      conv_lhs => rw [← List.takeWhile_append_dropWhile (p := isNumeric) (l := input), whole]
      exact number.read_text ends.stops
    · cases spelled
  · rintro ⟨number, rfl, read, ends⟩
    have split := Number.read_split read
    have numeric : ∀ rune ∈ number.text.map some, isNumeric rune = true :=
      List.forall_mem_map.mpr (isNumeric_text number)
    have front : input.takeWhile isNumeric = number.text.map some := by
      rw [split, List.takeWhile_append_of_pos numeric, ends_iff.mp ends, List.append_nil]
    have back : input.dropWhile isNumeric = rest := by
      rw [split, List.dropWhile_append_of_pos numeric]
      cases rest with
      | nil => rfl
      | cons rune rest => rw [List.dropWhile_cons_of_neg (by simp [ends rune rfl])]
    have alone := number.read_text stopsNumber_nil
    rw [List.append_nil] at alone
    simp only [front, back, alone, ↓reduceIte]

end Tokens

variable {path : String} {K : Type}

section Loops

def Accepts {T : Type} (scanned : Except String (List Rune)) (read : Option (T × List Rune))
    (good : T → List Rune → Prop) : Prop :=
  ∀ rest, scanned = .ok rest ↔ ∃ value, read = some (value, rest) ∧ good value rest

def Stops (tree : Written) (rest : List Rune) : Prop := ∀ number, tree = .number number → Ends rest

variable {input rest : List Rune}

theorem ends_of_delimiter {c : Char}
    (delimited : skipBlank input = some c :: rest) (plain : isNumeric (some c) = false) :
    Ends input := by
  cases input with
  | nil => cases delimited
  | cons first input =>
    rintro _ ⟨⟩
    cases blank : Json.isBlank first with
    | true =>
      simp only [Json.isBlank, Bool.or_eq_true, beq_iff_eq] at blank
      rcases blank with ((rfl | rfl) | rfl) | rfl <;> rfl
    | false =>
      rw [skipBlank_cons blank] at delimited
      rw [List.cons.inj delimited |>.1]
      exact plain

variable {value : List Rune → Except String (List Rune)} {fuel : Nat}

theorem parseArrayItems_ok_iff : parseArrayItems value (fuel + 1) input = .ok rest ↔
      ∃ after, value (skipBlank input) = .ok after ∧
        ((∃ more, skipBlank after = some ',' :: more ∧ parseArrayItems value fuel more = .ok rest) ∨
          skipBlank after = some ']' :: rest) := by
  rw [parseArrayItems]
  cases value (skipBlank input) with
  | error reason => simp
  | ok after =>
    simp only [Except.ok.injEq, exists_eq_left']
    cases skipBlank after with
    | nil => simp
    | cons next more =>
      dsimp only
      split_ifs with comma closing
      · simp [comma]
      · simp [closing]
      · simp [comma, closing]

variable {read : List Rune → Option (Written × List Rune)} {good : Written → Prop}

section

variable (each : ∀ input, Accepts (value (skipBlank input)) (read input) fun tree rest => Stops
    tree rest ∧ good tree)
include each

theorem parseArrayItems_accepts (fuel : Nat) (input : List Rune) :
    Accepts (parseArrayItems value fuel input) (readItems ']' read fuel input)
      fun items _ => ∀ item ∈ items, good item := by
  intro rest
  simp only [readItems_eq_some_iff]
  constructor
  · intro scanned
    induction fuel generalizing input with
    | zero => cases scanned
    | succ fuel ih =>
      obtain ⟨after, first, next⟩ := parseArrayItems_ok_iff.mp scanned
      obtain ⟨tree, found, -, fine⟩ := (each input after).mp first
      rcases next with ⟨more, comma, further⟩ | closing
      · obtain ⟨others, items, all⟩ := ih more further
        exact ⟨tree :: others, .more found comma items, List.forall_mem_cons.mpr ⟨fine, all⟩⟩
      · exact ⟨[tree], .last found (by decide) closing, List.forall_mem_singleton.mpr fine⟩
  · rintro ⟨trees, items, fine⟩
    induction items with
    | @last fuel input after rest tree first _ closing =>
      have stops : Stops tree after := fun _ _ => ends_of_delimiter closing rfl
      have scanned := (each input after).mpr ⟨tree, first, stops, fine tree List.mem_cons_self⟩
      exact parseArrayItems_ok_iff.mpr ⟨after, scanned, .inr closing⟩
    | @more fuel input after next rest tree others first comma _ ih =>
      obtain ⟨here, there⟩ := List.forall_mem_cons.mp fine
      have stops : Stops tree after := fun _ _ => ends_of_delimiter comma rfl
      have scanned := (each input after).mpr ⟨tree, first, stops, here⟩
      exact parseArrayItems_ok_iff.mpr ⟨after, scanned, .inl ⟨next, comma, ih there⟩⟩

theorem parseArray_accepts (empty : read [] = none) (input : List Rune) :
    Accepts (parseArray value input) (readSequence ']' read input)
      fun items _ => ∀ item ∈ items, good item := by
  unfold parseArray readSequence
  cases skipBlank input with
  | nil =>
    have items := parseArrayItems_accepts each 1 []
    rw [readItems, empty] at items
    exact items
  | cons next more =>
    dsimp only
    split_ifs with closing
    · intro rest
      simp
    · exact parseArrayItems_accepts each _ _

end

variable [DecidableEq K] {dialect : Dialect K} {fields : Option AbiFields} {value : ValueScanner}
  {keys : List K}

theorem parseObjectMembers_ok_iff :
    parseObjectMembers dialect value path fields (fuel + 1) keys input = .ok rest ↔
      ∃ opened key named content after, skipBlank input = some '"' :: opened ∧
        parseString dialect opened = some (key, named) ∧ key ∉ keys ∧
        skipBlank named = some ':' :: content ∧
        scanMember dialect value path fields key (skipBlank content) = .ok after ∧
        ((∃ more, skipBlank after = some ',' :: more ∧
            parseObjectMembers dialect value path fields fuel (key :: keys) more = .ok rest) ∨
          skipBlank after = some '\x7d' :: rest) := by
  constructor
  · intro scanned
    rw [parseObjectMembers] at scanned
    split at scanned
    · cases scanned
    · rename_i first opened quoted
      split_ifs at scanned with quote
      split at scanned
      · cases scanned
      · rename_i key named parsed
        split_ifs at scanned with repeated
        split at scanned
        · cases scanned
        · rename_i sign content coloned
          split_ifs at scanned with colon
          split at scanned
          · cases scanned
          · rename_i after member
            refine ⟨opened, key, named, content, after, quote ▸ quoted, parsed, repeated,
              colon ▸ coloned, member, ?_⟩
            split at scanned
            · cases scanned
            · rename_i next more delimited
              split_ifs at scanned with comma closing
              · exact .inl ⟨more, comma ▸ delimited, scanned⟩
              · cases scanned
                exact .inr (closing ▸ delimited)
  · rintro ⟨opened, key, named, content, after, quoted, parsed, fresh, coloned, member, next⟩
    rw [parseObjectMembers]
    simp only [quoted, parsed, fresh, coloned, member, ↓reduceIte]
    rcases next with ⟨more, comma, further⟩ | closing
    · simp only [comma, ↓reduceIte, further]
    · simp only [closing, Option.some.injEq, Char.reduceEq, ↓reduceIte]

def Named (dialect : Dialect K) (good : K → Written → Prop) :
    List K → List (List Piece × Written) → Prop
  | _, [] => True
  | keys, member :: members => ∃ key, dialect.text member.1 = some key ∧ key ∉ keys ∧
      good key member.2 ∧ Named dialect good (key :: keys) members

variable {good : K → Written → Prop}

section

variable (each : ∀ key input, Accepts (scanMember dialect value path fields key (skipBlank input))
    (read input) fun tree rest => Stops tree rest ∧ good key tree)
include each

/-- The members of an object are those the grammar reads. -/
theorem parseObjectMembers_accepts (fuel : Nat) (keys : List K) (input : List Rune) :
    Accepts (parseObjectMembers dialect value path fields fuel keys input)
      (readItems '\x7d' (readMemberWith lexString read) fuel input)
      fun members _ => Named dialect good keys members := by
  intro rest
  simp only [readItems_eq_some_iff]
  constructor
  · intro scanned
    induction fuel generalizing keys input with
    | zero => cases scanned
    | succ fuel ih =>
      obtain ⟨opened, key, named, content, after, quoted, parsed, fresh, coloned, member, next⟩ :=
        parseObjectMembers_ok_iff.mp scanned
      obtain ⟨pieces, lexed, decoded⟩ := parseString_eq_some_iff.mp parsed
      obtain ⟨tree, found, -, fine⟩ := (each key content after).mp member
      have first : readMemberWith lexString read input = some ((pieces, tree), after) :=
        readMemberWith_eq_some_iff.mpr ⟨opened, named, content, quoted, lexed, coloned, found⟩
      rcases next with ⟨more, comma, further⟩ | closing
      · obtain ⟨others, items, all⟩ := ih (key :: keys) more further
        exact ⟨(pieces, tree) :: others, .more first comma items, key, decoded, fresh, fine, all⟩
      · exact ⟨[(pieces, tree)], .last first (by decide) closing, key, decoded, fresh, fine, trivial⟩
  · rintro ⟨members, items, all⟩
    have step {keys : List K} {input after : List Rune} {member : List Piece × Written} {key : K}
        {c : Char} {left : List Rune} (first : readMemberWith lexString read input =
          some (member, after)) (decoded : dialect.text member.1 = some key)
        (fine : good key member.2) (next : skipBlank after = some c :: left)
        (plain : isNumeric (some c) = false) : ∃ opened named content,
          skipBlank input = some '"' :: opened ∧ parseString dialect opened = some (key, named) ∧
          skipBlank named = some ':' :: content ∧
          scanMember dialect value path fields key (skipBlank content) = .ok after := by
      obtain ⟨opened, named, content, quoted, lexed, coloned, found⟩ :=
        readMemberWith_eq_some_iff.mp first
      have stops : Stops member.2 after := fun _ _ => ends_of_delimiter next plain
      exact ⟨opened, named, content, quoted, parseString_eq_some_iff.mpr ⟨_, lexed, decoded⟩,
        coloned, (each key content after).mpr ⟨member.2, found, stops, fine⟩⟩
    induction items generalizing keys with
    | last first _ closing =>
      obtain ⟨key, decoded, fresh, fine, -⟩ := all
      obtain ⟨opened, named, content, quoted, parsed, coloned, scanned⟩ :=
        @step keys _ _ _ _ _ _ first decoded fine closing rfl
      exact parseObjectMembers_ok_iff.mpr ⟨opened, key, named, content, _, quoted, parsed, fresh,
        coloned, scanned, .inr closing⟩
    | more first comma _ ih =>
      obtain ⟨key, decoded, fresh, fine, all⟩ := all
      obtain ⟨opened, named, content, quoted, parsed, coloned, scanned⟩ :=
        @step keys _ _ _ _ _ _ first decoded fine comma rfl
      exact parseObjectMembers_ok_iff.mpr ⟨opened, key, named, content, _, quoted, parsed, fresh,
        coloned, scanned, .inl ⟨_, comma, ih (key :: keys) all⟩⟩

theorem parseObject_accepts (input : List Rune) :
    Accepts (parseObject dialect value path fields input)
      (readSequence '\x7d' (readMemberWith lexString read) input)
      fun members _ => Named dialect good [] members := by
  unfold parseObject readSequence
  cases skipBlank input with
  | nil => exact parseObjectMembers_accepts each 1 [] []
  | cons next more =>
    dsimp only
    split_ifs with closing
    · intro rest
      simp [Named]
    · exact parseObjectMembers_accepts each _ _ _

end

omit [DecidableEq K] in
theorem named_iff {members : List (List Piece × Written)} : Named dialect good keys members ↔
      (members.map fun member => dialect.text member.1).Nodup ∧
        ∀ member ∈ members, ∃ key, dialect.text member.1 = some key ∧ key ∉ keys ∧
          good key member.2 := by
  induction members generalizing keys with
  | nil => simp [Named]
  | cons member members ih =>
    rw [List.forall_mem_cons]
    simp only [Named, ih, List.map_cons, List.nodup_cons, List.mem_cons, not_or]
    constructor
    · rintro ⟨key, decoded, fresh, fine, distinct, others⟩
      refine ⟨⟨?_, distinct⟩, ⟨key, decoded, fresh, fine⟩, fun other held => ?_⟩
      · rw [decoded]
        intro again
        obtain ⟨other, held, same⟩ := List.mem_map.mp again
        obtain ⟨name, named, ⟨different, -⟩, -⟩ := others other held
        exact different (Option.some.inj (named.symm.trans same))
      · obtain ⟨name, named, ⟨-, absent⟩, good⟩ := others other held
        exact ⟨name, named, absent, good⟩
    · rintro ⟨⟨new, distinct⟩, ⟨key, decoded, fresh, fine⟩, others⟩
      refine ⟨key, decoded, fresh, fine, distinct, fun other held => ?_⟩
      obtain ⟨name, named, absent, good⟩ := others other held
      refine ⟨name, named, ⟨?_, absent⟩, good⟩
      rintro rfl
      exact new (List.mem_map.mpr ⟨other, held, named.trans decoded.symm⟩)

end Loops

section Documents

def Fits {S : Type} : AbiFieldType → Node Number S → Prop
  | .string, tree => ∃ text, tree = .string text
  | .object, tree => ∃ members, tree = .object members
  | .integer, tree => ∃ number, tree = .number number ∧ IsIntegerLiteral number ∧
      ∃ n : ℤ, number.value = n ∧ -2 ^ 63 ≤ n ∧ n < 2 ^ 63

variable [DecidableEq K] (dialect : Dialect K)

/-- The language decodes every string of the document, and no object repeats a key. -/
structure Sound (tree : Written) : Prop where
  decodes : tree.Holds (fun _ => True) fun pieces => (dialect.text pieces).isSome
  distinct : (tree.map id dialect.text).Distinct

def Describes (fields : AbiFields) (members : List (List Piece × Written)) : Prop :=
  ∀ member ∈ members, ∃ key type, dialect.text member.1 = some key ∧
    fieldType dialect fields key = some type ∧ Fits type member.2

/-- A value where a type and a field set may be asked for. -/
structure Meets (expected : Option AbiFieldType) (child : Option AbiFields) (tree : Written) :
    Prop where
  sound : Sound dialect tree
  fits : ∀ type, expected = some type → Fits type tree
  described : ∀ fields, child = some fields → ∀ members, tree = .object members →
    Describes dialect fields members

variable {dialect} {items : List Written} {expected : Option AbiFieldType}
  {child : Option AbiFields}

omit [DecidableEq K] in
theorem sound_array : Sound dialect (.array items) ↔ ∀ item ∈ items, Sound dialect item := by
  constructor
  · rintro ⟨decodes, distinct⟩ item held
    rw [Node.map_array] at distinct
    cases decodes with
    | array decodes =>
      cases distinct with
      | array distinct => exact ⟨decodes item held, distinct _ (List.mem_map_of_mem held)⟩
  · intro each
    refine ⟨.array fun item held => (each item held).decodes, ?_⟩
    rw [Node.map_array]
    refine .array fun image held => ?_
    obtain ⟨item, listed, rfl⟩ := List.mem_map.mp held
    exact (each item listed).distinct

variable {members : List (List Piece × Written)}

omit [DecidableEq K] in
theorem sound_object : Sound dialect (.object members) ↔
      (members.map fun member => dialect.text member.1).Nodup ∧
        ∀ member ∈ members, (∃ key, dialect.text member.1 = some key) ∧ Sound dialect member.2 := by
  have keys : (members.map fun member => (dialect.text member.1, member.2.map id dialect.text)).map
      Prod.fst = members.map fun member => dialect.text member.1 := by
    rw [List.map_map]
    rfl
  constructor
  · rintro ⟨decodes, distinct⟩
    rw [Node.map_object] at distinct
    cases decodes with
    | object named decodes =>
      cases distinct with
      | object nodup distinct =>
        refine ⟨keys ▸ nodup, fun member held => ⟨Option.isSome_iff_exists.mp (named member held),
          decodes member held, ?_⟩⟩
        exact distinct _ (List.mem_map.mpr ⟨member, held, rfl⟩)
  · rintro ⟨nodup, each⟩
    refine ⟨.object (fun member held => Option.isSome_iff_exists.mpr (each member held).1)
      fun member held => (each member held).2.decodes, ?_⟩
    rw [Node.map_object]
    refine .object (keys ▸ nodup) fun image held => ?_
    obtain ⟨member, listed, rfl⟩ := List.mem_map.mp held
    exact (each member listed).2.distinct

omit [DecidableEq K] in
theorem sound_string : Sound dialect (.string pieces) ↔ ∃ key, dialect.text pieces = some key := by
  constructor
  · rintro ⟨decodes, -⟩
    cases decodes with
    | string decodes => exact Option.isSome_iff_exists.mp decodes
  · intro decodes
    exact ⟨.string (Option.isSome_iff_exists.mpr decodes), .string _⟩

theorem expects_ok_iff {kind : Option AbiFieldType} :
    expects path expected kind = .ok () ↔ ∀ type, expected = some type → kind = some type := by
  unfold expects
  cases expected with
  | none => simp
  | some type =>
    dsimp only
    split_ifs with same
    · simp [same]
    · simp [same]

variable {number : Number}

theorem checkNumber_ok_iff : checkNumber path expected number.text = .ok () ↔
      ∀ type, expected = some type → @Fits (List Piece) type (.number number) := by
  cases expected with
  | none => simp [checkNumber]
  | some type =>
    simp only [Option.some.injEq, forall_eq']
    cases type with
    | string | object => simp [checkNumber, Fits]
    | integer =>
      have admits := @integer_ok path number
      simp only [AbiFieldType.Admits, Value.number.injEq] at admits
      simp only [checkNumber, Fits, Node.number.injEq]
      exact admits

variable {tree : Written}

theorem parseName_accepts {literal : String} {accepted : Except String Unit}
    {good : Written → Prop} (plain : ∀ number, tree ≠ .number number)
    (checked : accepted = .ok () ↔ good tree) (input : List Rune) :
    Accepts (parseName literal accepted input) (readName literal.toList tree input) fun tree rest =>
      Stops tree rest ∧ good tree := by
  intro rest
  unfold parseName readName
  split_ifs with found
  · cases accepted with
    | error reason =>
      have bad : ¬ good tree := fun held => nomatch checked.mpr held
      simp [bad]
    | ok =>
      have stops (rest : List Rune) : Stops tree rest := fun number same => absurd same (plain number)
      have held : good tree := checked.mp rfl
      simp [held, stops]
  · simp

theorem read_first {first : Rune} {input rest : List Rune}
    (read : Number.read (first :: input) = some (number, rest)) :
    first = some '-' ∨ (first.map Char.isDigit).getD false = true := by
  have split := Number.read_split read
  obtain ⟨digit, others, shape⟩ := List.exists_cons_of_ne_nil number.integerNonempty
  have isDigit := number.integerDigits digit (by rw [shape]; exact List.mem_cons_self)
  unfold Number.text at split
  split_ifs at split
  · exact .inl (List.cons.inj split).1
  · rw [shape] at split
    rw [(List.cons.inj split).1]
    exact .inr isDigit

theorem characters_map (text : List Char) : characters (text.map some) = text := by
  simp [characters]

omit [DecidableEq K] in
theorem sound_scalar (flat : tree = .null ∨ (∃ value, tree = .bool value) ∨
    ∃ number, tree = .number number) : Sound dialect tree := by
  rcases flat with rfl | ⟨value, rfl⟩ | ⟨number, rfl⟩
  · exact ⟨.null, .null⟩
  · exact ⟨.bool value, .bool value⟩
  · exact ⟨.number trivial, .number number⟩

theorem meets_scalar (flat : ∀ members, tree ≠ .object members) :
    Meets dialect expected child tree ↔
      Sound dialect tree ∧ ∀ type, expected = some type → Fits type tree :=
  ⟨fun meets => ⟨meets.sound, meets.fits⟩,
    fun held => ⟨held.1, held.2, fun _ _ members same => absurd same (flat members)⟩⟩

theorem meets_name (name : tree = .null ∨ ∃ value, tree = .bool value) :
    Meets dialect expected child tree ↔ expected = none := by
  have unfit : ∀ type, ¬ Fits type tree := by
    intro type
    rcases name with rfl | ⟨value, rfl⟩ <;> cases type <;> simp [Fits]
  rw [meets_scalar (by rcases name with rfl | ⟨value, rfl⟩ <;> simp)]
  constructor
  · rintro ⟨-, fits⟩
    cases expected with
    | none => rfl
    | some type => exact absurd (fits type rfl) (unfit type)
  · rintro rfl
    exact ⟨sound_scalar (name.imp_right .inl), nofun⟩

theorem expects_name : expects path expected none = .ok () ↔ expected = none := by
  rw [expects_ok_iff]
  cases expected <;> simp

variable (path expected child) (input : List Rune)

theorem string_accepts : Accepts
      (match parseString dialect input with
        | none => .error "invalid JSON: invalid string"
        | some (_, rest) =>
          match expects path expected (some .string) with
          | .error reason => .error reason
          | .ok _ => .ok rest)
      ((lexString input).bind fun read => some (Node.string read.1, read.2))
      fun tree rest => Stops tree rest ∧ Meets dialect expected child tree := by
  have typed (pieces : List Piece) : expects path expected (some .string) = .ok () ↔
      ∀ type, expected = some type → @Fits (List Piece) type (.string pieces) := by
    rw [expects_ok_iff]
    refine forall₂_congr fun type _ => ?_
    cases type <;> simp [Fits]
  intro rest
  refine Iff.trans (b := ∃ key, parseString dialect input = some (key, rest) ∧
    expects path expected (some .string) = .ok ()) ?_ ?_
  · cases parseString dialect input with
    | none => simp
    | some token =>
      cases expects path expected (some .string) <;> simp [Prod.ext_iff]
  simp only [parseString_eq_some_iff, Option.bind_eq_some_iff, Prod.exists, Option.some.injEq,
    Prod.mk.injEq]
  constructor
  · rintro ⟨key, ⟨pieces, lexed, decoded⟩, checked⟩
    refine ⟨.string pieces, ⟨pieces, rest, lexed, rfl, rfl⟩, fun _ same => (by cases same), ?_⟩
    rw [meets_scalar (by simp), sound_string]
    exact ⟨⟨key, decoded⟩, (typed pieces).mp checked⟩
  · rintro ⟨_, ⟨pieces, _, lexed, rfl, rfl⟩, -, meets⟩
    rw [meets_scalar (by simp), sound_string] at meets
    obtain ⟨⟨key, decoded⟩, fits⟩ := meets
    exact ⟨key, ⟨pieces, lexed, decoded⟩, (typed pieces).mpr fits⟩

theorem number_accepts : Accepts
      (match parseNumber input with
        | none => .error "invalid JSON: invalid number"
        | some (literal, rest) =>
          match checkNumber path expected (characters literal) with
          | .error reason => .error reason
          | .ok _ => .ok rest)
      ((Number.read input).bind fun read => some (Node.number read.1, read.2))
      fun tree rest => Stops tree rest ∧ Meets dialect expected child tree := by
  intro rest
  refine Iff.trans (b := ∃ literal, parseNumber input = some (literal, rest) ∧
    checkNumber path expected (characters literal) = .ok ()) ?_ ?_
  · cases parseNumber input with
    | none => simp
    | some token =>
      cases checked : checkNumber path expected (characters token.1) <;>
        simp [checked, Prod.ext_iff, and_assoc]
  simp only [parseNumber_eq_some_iff, Option.bind_eq_some_iff, Prod.exists, Option.some.injEq,
    Prod.mk.injEq]
  constructor
  · rintro ⟨_, ⟨number, rfl, read, ends⟩, checked⟩
    rw [characters_map] at checked
    refine ⟨.number number, ⟨number, rest, read, rfl, rfl⟩, fun _ _ => ends, ?_⟩
    rw [meets_scalar (by simp)]
    exact ⟨sound_scalar (.inr (.inr ⟨number, rfl⟩)), checkNumber_ok_iff.mp checked⟩
  · rintro ⟨_, ⟨number, _, read, rfl, rfl⟩, stops, meets⟩
    refine ⟨_, ⟨number, rfl, read, stops number rfl⟩, ?_⟩
    rw [characters_map, checkNumber_ok_iff.mpr meets.fits]

theorem parseScalar_accepts :
    Accepts (parseScalar dialect path expected input) (readWrittenScalar input) fun tree rest =>
      Stops tree rest ∧ Meets dialect expected child tree := by
  cases input with
  | nil =>
    intro rest
    simp [parseScalar, readWrittenScalar]
  | cons first input =>
    unfold parseScalar readWrittenScalar
    by_cases null : first = some 'n'
    · subst null
      refine parseName_accepts (by simp) ?_ _
      rw [meets_name (.inl rfl)]
      cases expected <;> simp
    by_cases quote : first = some '"'
    · subst quote
      exact string_accepts path expected child input
    by_cases truth : first = some 't'
    · subst truth
      refine parseName_accepts (by simp) ?_ _
      rw [expects_name, meets_name (.inr ⟨true, rfl⟩)]
    by_cases falsity : first = some 'f'
    · subst falsity
      refine parseName_accepts (by simp) ?_ _
      rw [expects_name, meets_name (.inr ⟨false, rfl⟩)]
    simp only [null, quote, truth, falsity, ↓reduceIte]
    split_ifs with starts
    · exact number_accepts path expected child (first :: input)
    · have unread : Number.read (first :: input) = none := by
        by_contra read
        obtain ⟨⟨number, rest⟩, read⟩ := Option.ne_none_iff_exists'.mp read
        exact starts (read_first read)
      intro rest
      simp [unread]

theorem path_member (key : String) : path ++ "." ++ key ≠ "request" := by
  intro same
  have point : '.' ∈ "request".toList := by
    rw [← same]
    simp
  exact absurd point (by decide)

theorem path_item : path ++ "[]" ≠ "request" := by
  intro same
  have point : '[' ∈ "request".toList := by
    rw [← same]
    simp
  exact absurd point (by decide)

def MeetsMember (dialect : Dialect K) (path : String) (fields : Option AbiFields) (key : K)
    (tree : Written) : Prop :=
  (∀ known, fields = some known → ∃ type, fieldType dialect known key = some type) ∧
    Meets dialect (fields.bind fun known => fieldType dialect known key)
      (if path = "request" ∧ key = dialect.constant "authority" then some abiAuthorityFields
        else none) tree

theorem scanMember_accepts {value : ValueScanner} {read : List Rune → Option (Written × List Rune)}
    (each : ∀ path expected child input, path ≠ "request" →
      Accepts (value path expected child (skipBlank input)) (read input) fun tree rest =>
        Stops tree rest ∧ Meets dialect expected child tree)
    (path : String) (fields : Option AbiFields) (key : K) (input : List Rune) :
    Accepts (scanMember dialect value path fields key (skipBlank input)) (read input)
      fun tree rest => Stops tree rest ∧ MeetsMember dialect path fields key tree := by
  have inner := each (path ++ "." ++ dialect.shown key)
    (fields.bind fun known => fieldType dialect known key)
    (if path = "request" ∧ key = dialect.constant "authority" then some abiAuthorityFields
      else none) input (path_member path _)
  unfold scanMember
  by_cases unknown : fields ≠ none ∧ (fields.bind fun known => fieldType dialect known key) = none
  · rw [if_pos unknown]
    have unmet : ¬ ∀ known, fields = some known → ∃ type, fieldType dialect known key = some type := by
      intro all
      obtain ⟨known, rfl⟩ := Option.ne_none_iff_exists'.mp unknown.1
      obtain ⟨type, found⟩ := all known rfl
      exact absurd (found.symm.trans unknown.2) nofun
    intro rest
    simp [MeetsMember, unmet]
  · rw [if_neg unknown]
    have met : ∀ known, fields = some known → ∃ type, fieldType dialect known key = some type := by
      rintro known rfl
      exact Option.ne_none_iff_exists'.mp fun absent => unknown ⟨nofun, absent⟩
    intro rest
    rw [inner rest]
    refine exists_congr fun tree => and_congr_right fun _ => and_congr_right fun _ => ?_
    exact (and_iff_right met).symm

omit [DecidableEq K] in
theorem Accepts.map {T U : Type} {scanned : Except String (List Rune)}
    {read : Option (T × List Rune)} {good : T → List Rune → Prop} {wanted : U → List Rune → Prop}
    (accepts : Accepts scanned read good) {f : T → U}
    (same : ∀ value rest, good value rest ↔ wanted (f value) rest) :
    Accepts scanned (read.bind fun result => some (f result.1, result.2)) wanted := by
  intro rest
  rw [accepts rest]
  simp only [Option.bind_eq_some_iff, Prod.exists, Option.some.injEq, Prod.mk.injEq]
  constructor
  · rintro ⟨value, found, held⟩
    exact ⟨f value, ⟨value, rest, found, rfl, rfl⟩, (same value rest).mp held⟩
  · rintro ⟨_, ⟨value, _, found, rfl, rfl⟩, held⟩
    exact ⟨value, found, (same value _).mpr held⟩

variable {path expected child}

/-- Members that are as wanted make an object that is sound and described, and the authority of a
request is described as well. -/
theorem named_members {fields : Option AbiFields} :
    Named dialect (MeetsMember dialect path fields) [] members ↔
      Sound dialect (.object members) ∧
        (∀ known, fields = some known → Describes dialect known members) ∧
        ∀ member ∈ members, path = "request" →
          dialect.text member.1 = some (dialect.constant "authority") →
          ∀ inner, member.2 = .object inner → Describes dialect abiAuthorityFields inner := by
  rw [named_iff]
  simp only [MeetsMember, List.not_mem_nil, not_false_eq_true, true_and]
  constructor
  · rintro ⟨nodup, each⟩
    refine ⟨sound_object.mpr ⟨nodup, fun member held => ?_⟩, ?_, fun member held root named inner same => ?_⟩
    · obtain ⟨key, decoded, -, meets⟩ := each member held
      exact ⟨⟨key, decoded⟩, meets.sound⟩
    · rintro known rfl member held
      obtain ⟨key, decoded, all, meets⟩ := each member held
      obtain ⟨type, found⟩ := all known rfl
      exact ⟨key, type, decoded, found, meets.fits type found⟩
    · obtain ⟨key, decoded, -, meets⟩ := each member held
      obtain rfl : key = dialect.constant "authority" := Option.some.inj (decoded.symm.trans named)
      exact meets.described abiAuthorityFields (if_pos ⟨root, rfl⟩) inner same
  · rintro ⟨sound, described, authority⟩
    obtain ⟨nodup, each⟩ := sound_object.mp sound
    refine ⟨nodup, fun member held => ?_⟩
    obtain ⟨⟨key, decoded⟩, sound⟩ := each member held
    have typed (known : AbiFields) (given : fields = some known) :
        ∃ type, fieldType dialect known key = some type ∧ Fits type member.2 := by
      obtain ⟨name, type, spelled, found, fits⟩ := described known given member held
      obtain rfl : name = key := Option.some.inj (spelled.symm.trans decoded)
      exact ⟨type, found, fits⟩
    refine ⟨key, decoded, fun known given => ?_, sound, fun type found => ?_, fun child given inner same => ?_⟩
    · obtain ⟨type, found, -⟩ := typed known given
      exact ⟨type, found⟩
    · obtain ⟨known, given, declared⟩ := Option.bind_eq_some_iff.mp found
      obtain ⟨other, again, fits⟩ := typed known given
      obtain rfl : other = type := Option.some.inj (again.symm.trans declared)
      exact fits
    · split_ifs at given with named
      cases given
      exact authority member held named.1 (named.2 ▸ decoded) inner same

theorem named_meets (nested : path ≠ "request") (object : expected = none ∨ expected = some .object) :
    Named dialect (MeetsMember dialect path child) [] members ↔
      Meets dialect expected child (.object members) := by
  rw [named_members]
  constructor
  · rintro ⟨sound, described, -⟩
    refine ⟨sound, ?_, ?_⟩
    · rintro type rfl
      obtain rfl : type = .object := by simpa using object
      exact ⟨members, rfl⟩
    · rintro fields given _ ⟨⟩
      exact described fields given
  · intro meets
    exact ⟨meets.sound, fun known given => meets.described known given members rfl,
      fun _ _ root => absurd root nested⟩

theorem meets_array :
    Meets dialect none child (.array items) ↔ ∀ item ∈ items, Meets dialect none none item := by
  rw [meets_scalar (by simp), sound_array]
  exact ⟨fun held item listed => ⟨held.1 item listed, nofun, nofun⟩,
    fun each => ⟨fun item listed => (each item listed).sound, nofun⟩⟩

variable {reason : String} {T : Type}

theorem accepts_error {read : Option (T × List Rune)} {good : T → List Rune → Prop}
    (bad : ∀ value rest, read = some (value, rest) → ¬ good value rest) :
    Accepts (.error reason) read good := by
  intro rest
  constructor
  · nofun
  · rintro ⟨value, found, held⟩
    exact absurd held (bad value rest found)

theorem accepts_none {good : T → List Rune → Prop} : Accepts (.error reason) none good :=
  accepts_error fun _ _ read => by cases read

/-- A value that is not the request is scanned as the grammar reads it: by induction on the levels
that may still be opened. -/
theorem parseValue_accepts (levels : Nat) (path : String) (expected : Option AbiFieldType)
    (child : Option AbiFields) (input : List Rune) (nested : path ≠ "request") :
    Accepts (parseValue dialect levels path expected child (skipBlank input))
      (readWritten levels input) fun tree rest =>
        Stops tree rest ∧ Meets dialect expected child tree := by
  induction levels generalizing path expected child input with
  | zero =>
    rw [parseValue.eq_def, readWritten]
    cases skipBlank input with
    | nil => exact accepts_none
    | cons first after =>
      simp only [List.head?_cons, Option.some.injEq]
      by_cases brace : first = some '\x7b'
      · subst brace
        rw [if_pos rfl]
        split_ifs <;> exact accepts_none
      rw [if_neg brace]
      by_cases bracket : first = some '['
      · subst bracket
        rw [if_pos rfl]
        split_ifs <;> exact accepts_none
      rw [if_neg bracket]
      exact parseScalar_accepts path expected child _
  | succ levels ih =>
    have members (path : String) (fields : Option AbiFields) (key : K) (input : List Rune) :=
      scanMember_accepts ih path fields key input
    rw [parseValue.eq_def, readWritten]
    cases skipBlank input with
    | nil => exact accepts_none
    | cons first after =>
      simp only [List.head?_cons, List.tail_cons, Option.some.injEq]
      by_cases brace : first = some '\x7b'
      · subst brace
        simp only [Option.some.injEq, Char.reduceEq, ↓reduceIte]
        have objects := parseObject_accepts (members path child) after
        by_cases object : expected = none ∨ expected = some .object
        · rw [if_neg (by tauto)]
          refine objects.map fun content rest => ?_
          rw [named_meets nested object]
          simp [Stops]
        · rw [if_pos (by tauto)]
          refine accepts_error fun tree rest read held => object ?_
          obtain ⟨⟨content, _⟩, -, same⟩ := Option.bind_eq_some_iff.mp read
          cases same
          have fits := held.2.fits
          cases expected with
          | none => exact .inl rfl
          | some type =>
            cases type with
            | object => exact .inr rfl
            | _ => simp [Fits] at fits
      rw [if_neg brace]
      by_cases bracket : first = some '['
      · subst bracket
        simp only [↓reduceIte]
        by_cases free : expected = none
        · subst free
          rw [if_neg (by simp)]
          have items := parseArray_accepts (fun input => ih (path ++ "[]") none none input
            (path_item path)) (by cases levels <;> rfl) after
          refine items.map fun content rest => ?_
          rw [meets_array]
          simp [Stops]
        · rw [if_pos free]
          refine accepts_error fun tree rest read held => free ?_
          obtain ⟨⟨content, _⟩, -, same⟩ := Option.bind_eq_some_iff.mp read
          cases same
          have fits := held.2.fits
          cases expected with
          | none => rfl
          | some type => cases type <;> simp [Fits] at fits
      rw [if_neg bracket, if_neg bracket, if_neg brace]
      exact parseScalar_accepts path expected child _

/-- What a request is, apart from its text: its strings can be decoded, no object repeats a key, and
the fields of the request and of its authority are known and have their declared types. -/
structure IsRequest (dialect : Dialect K) (members : List (List Piece × Written)) : Prop where
  sound : Sound dialect (.object members)
  fields : Describes dialect abiRootFields members
  authority : ∀ member ∈ members, dialect.text member.1 = some (dialect.constant "authority") →
    ∀ authority, member.2 = .object authority → Describes dialect abiAuthorityFields authority

theorem named_request :
    Named dialect (MeetsMember dialect "request" (some abiRootFields)) [] members ↔
      IsRequest dialect members := by
  rw [named_members]
  constructor
  · rintro ⟨sound, fields, authority⟩
    exact ⟨sound, fields _ rfl, fun member held => authority member held rfl⟩
  · rintro ⟨sound, fields, authority⟩
    refine ⟨sound, ?_, fun member held _ => authority member held⟩
    rintro _ ⟨⟩
    exact fields

def Reads (tree : Written) : Prop :=
  ∃ rest, readWritten maxInvocationDepth input = some (tree, rest) ∧ skipBlank rest = []

theorem scan_ok_iff {input : List Rune} : scan dialect input = .ok () ↔
      ∃ members, Reads input (.object members) ∧ IsRequest dialect members := by
  have member (key : K) (input : List Rune) :
      Accepts (scanMember dialect (parseValue dialect (maxInvocationDepth - 1)) "request"
        (some abiRootFields) key (skipBlank input)) (readWritten (maxInvocationDepth - 1) input)
        fun tree rest => Stops tree rest ∧ MeetsMember dialect "request" (some abiRootFields) key tree :=
    scanMember_accepts (parseValue_accepts _) "request" _ key input
  have objects := parseObject_accepts member
  unfold scan Reads
  simp only [readWritten_eq_some_iff]
  constructor
  · intro scanned
    split at scanned
    · cases scanned
    · rename_i first after blank
      split_ifs at scanned with brace
      split at scanned
      · cases scanned
      · rename_i rest parsed
        split_ifs at scanned with ended
        obtain ⟨members, found, named⟩ := (objects after rest).mp parsed
        exact ⟨members, ⟨rest, .object rfl (brace ▸ blank) found, ended⟩, named_request.mp named⟩
  · rintro ⟨members, ⟨rest, seen, ended⟩, request⟩
    cases seen with
    | scalar scalar =>
      exact absurd (readWrittenScalar_depth scalar) (Node.depth_object_pos members).ne'
    | @object less after _ _ deep blank found =>
      obtain rfl : maxInvocationDepth - 1 = less := Nat.pred_eq_of_eq_succ deep
      have parsed := (objects after rest).mpr ⟨members, found, named_request.mpr request⟩
      simp only [blank, ↓reduceIte, parsed, ended]

end Documents

end Crabedence.Abi
