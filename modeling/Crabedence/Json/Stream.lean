import Crabedence.Json.Decoded
import Crabedence.Json.Lexing

/-!
# The streaming decoder

`Decoder.Token` of the Go library on runes: a machine that remembers where in the grammar it stands,
hands out one delimiter or scalar at a time and checks commas and colons on the way.  What the
recursive reader accepts as a value, the machine hands out as the tokens of that value.
-/

namespace Json

open Utf8

inductive Container where
  | array
  | object
deriving DecidableEq, Repr

namespace Container

def openRune : Container → Char
  | array => '['
  | object => '\x7b'

def closeRune : Container → Char
  | array => ']'
  | object => '\x7d'

end Container

/-- Where the decoder stands.  In an object an `item` is a key. -/
inductive TokenState where
  | topValue
  | start (container : Container)
  | item (container : Container)
  | comma (container : Container)
  | objectColon
  | objectValue
deriving DecidableEq, Repr

namespace TokenState

def valueAllowed : TokenState → Bool
  | topValue | start .array | item .array | objectValue => true
  | _ => false

def valueEnd : TokenState → TokenState
  | start .array | item .array => comma .array
  | objectValue => comma .object
  | other => other

def afterComma : TokenState → Option TokenState
  | comma container => some (item container)
  | _ => none

def keyAllowed (state : TokenState) : Bool :=
  decide (state = start .object) || decide (state = item .object)

end TokenState

/-- A delimiter, or a value that is neither array nor object; keys come as strings. -/
inductive Token where
  | opening (container : Container)
  | closing (container : Container)
  | scalar (value : Value Number)

structure Decoder where
  tokenState : TokenState
  tokenStack : List TokenState
  rest : List Rune

/-- What a call of `Token` returns. -/
inductive Read where
  | eof
  | failed
  | token (token : Token) (decoder : Decoder)

section Machine

variable (replacement : Rune)

def openToken (container : Container) (state : TokenState) (stack : List TokenState)
    (rest : List Rune) : Read :=
  if state.valueAllowed then .token (.opening container) ⟨.start container, state :: stack, rest⟩
  else .failed

def closeToken (container : Container) (state : TokenState) (stack : List TokenState)
    (rest : List Rune) : Read :=
  if state = .start container ∨ state = .comma container then
    match stack with
    | [] => .failed
    | outer :: stack => .token (.closing container) ⟨outer.valueEnd, stack, rest⟩
  else .failed

def tokenFrom : TokenState → List TokenState → List Rune → Read
  | _, _, [] => .eof
  | state, stack, rune :: rest =>
    if isBlank rune then tokenFrom state stack rest
    else if rune = some '[' then openToken .array state stack rest
    else if rune = some '\x7b' then openToken .object state stack rest
    else if rune = some ']' then closeToken .array state stack rest
    else if rune = some '\x7d' then closeToken .object state stack rest
    else if rune = some ':' then
      if state = .objectColon then tokenFrom .objectValue stack rest else .failed
    else if rune = some ',' then
      match state.afterComma with
      | some next => tokenFrom next stack rest
      | none => .failed
    else if rune = some '"' ∧ state.keyAllowed then
      match readString replacement rest with
      | some (key, rest) => .token (.scalar (.string key)) ⟨.objectColon, stack, rest⟩
      | none => .failed
    else if state.valueAllowed then
      match readScalar replacement (rune :: rest) with
      | some (value, rest) => .token (.scalar value) ⟨state.valueEnd, stack, rest⟩
      | none => .failed
    else .failed

def Decoder.token (decoder : Decoder) : Read :=
  tokenFrom replacement decoder.tokenState decoder.tokenStack decoder.rest

end Machine

def Decoder.new (input : List Rune) : Decoder := ⟨.topValue, [], input⟩

variable {value : Value Number} {state : TokenState} {input rest : List Rune}
  {stack : List TokenState} {next : Decoder}

section Progress

variable {replacement : Rune} {container : Container} {token : Token}

theorem readString_shrinks {text : Text} (read : readString replacement input = some (text, rest)) :
    rest.length < input.length := by
  obtain ⟨⟨pieces, after⟩, lexed, result⟩ := Option.bind_eq_some_iff.mp read
  cases result
  exact (lexString_eq_some_iff.mp lexed).shrinks

theorem readScalar_shrinks
    (read : readScalar replacement input = some (value, rest)) : rest.length < input.length := by
  rw [readScalar_eq] at read
  obtain ⟨⟨tree, after⟩, scalar, result⟩ := Option.map_eq_some_iff.mp read
  cases result
  cases scalar_of_read scalar with
  | string start token =>
    rw [start]
    exact (lexString_eq_some_iff.mp token).shrinks.trans (Nat.lt_succ_self _)
  | null split =>
    rw [split, List.length_append]
    simp
  | bool value split =>
    rw [split, List.length_append]
    cases value <;> simp
  | number token =>
    obtain ⟨c, tail, shape, -⟩ := Number.text_head _
    rw [Number.read_split token, shape, List.length_append]
    simp

theorem openToken_rest (read : openToken container state stack rest = .token token next) :
    next.rest = rest := by
  unfold openToken at read
  split_ifs at read
  cases read
  rfl

theorem closeToken_rest (read : closeToken container state stack rest = .token token next) :
    next.rest = rest := by
  unfold closeToken at read
  split_ifs at read
  cases stack with
  | nil => cases read
  | cons outer stack =>
    cases read
    rfl

/-- Every token takes something from the input. -/
theorem Decoder.token_shrinks {decoder : Decoder}
    (read : decoder.token replacement = .token token next) :
    next.rest.length < decoder.rest.length := by
  obtain ⟨state, stack, input⟩ := decoder
  unfold Decoder.token at read
  induction input generalizing state with
  | nil => cases read
  | cons rune rest ih =>
    have one := Nat.lt_succ_self rest.length
    rw [List.length_cons]
    rw [tokenFrom] at read
    split_ifs at read with blank bracket brace closed ended colon colonAllowed comma key allowed
    · exact (ih _ read).trans one
    · rw [openToken_rest read]
      exact one
    · rw [openToken_rest read]
      exact one
    · rw [closeToken_rest read]
      exact one
    · rw [closeToken_rest read]
      exact one
    · exact (ih _ read).trans one
    · cases after : state.afterComma with
      | none =>
        rw [after] at read
        cases read
      | some next =>
        rw [after] at read
        exact (ih _ read).trans one
    · cases spelled : readString replacement rest with
      | none =>
        rw [spelled] at read
        cases read
      | some result =>
        rw [spelled] at read
        cases read
        exact (readString_shrinks spelled).trans one
    · cases spelled : readScalar replacement (rune :: rest) with
      | none =>
        rw [spelled] at read
        cases read
      | some result =>
        rw [spelled] at read
        cases read
        exact readScalar_shrinks spelled

end Progress

def Value.tokens : Value Number → List Token :=
  fold {
    null := [.scalar .null]
    bool := fun value => [.scalar (.bool value)]
    number := fun value => [.scalar (.number value)]
    string := fun text => [.scalar (.string text)]
    array := fun parts => .opening .array :: (parts.flatten ++ [.closing .array])
    object := fun members => .opening .object ::
      (members.flatMap (fun member => .scalar (.string member.1) :: member.2) ++ [.closing .object])
  }

def memberTokens (member : Text × Value Number) : List Token :=
  .scalar (.string member.1) :: member.2.tokens

theorem Value.tokens_array (items : List (Value Number)) : (Value.array items).tokens =
      .opening .array :: (items.flatMap tokens ++ [.closing .array]) := by
  rw [tokens, fold_array]
  rfl

theorem Value.tokens_object (members : List (Text × Value Number)) : (Value.object members).tokens =
      .opening .object :: (members.flatMap memberTokens ++ [.closing .object]) := by
  rw [tokens, fold_object]
  dsimp only
  rw [List.flatMap_map]
  rfl

theorem Value.tokens_ne_nil (value : Value Number) : value.tokens ≠ [] := by
  cases value with
  | array items =>
    rw [tokens_array]
    exact List.cons_ne_nil _ _
  | object members =>
    rw [tokens_object]
    exact List.cons_ne_nil _ _
  | _ => exact List.cons_ne_nil _ _

section Steps

variable {replacement : Rune} {after : List Rune}

theorem skipBlank_visible {rune : Rune} (start : skipBlank input = rune :: rest) :
    isBlank rune = false := by
  have visible := List.head_dropWhile_not isBlank (l := input)
    (by rw [show input.dropWhile isBlank = rune :: rest from start]; exact List.cons_ne_nil _ _)
  simpa [show input.dropWhile isBlank = rune :: rest from start] using visible

theorem tokenFrom_skipBlank : tokenFrom replacement state stack input =
      tokenFrom replacement state stack (skipBlank input) := by
  induction input with
  | nil => rfl
  | cons rune rest ih =>
    cases blank : isBlank rune with
    | true =>
      rw [tokenFrom, if_pos blank, ih, skipBlank, skipBlank, List.dropWhile_cons_of_pos blank]
    | false => rw [skipBlank, List.dropWhile_cons_of_neg (by simp [blank])]

theorem tokenFrom_eof_iff :
    tokenFrom replacement .topValue [] input = .eof ↔ skipBlank input = [] := by
  rw [tokenFrom_skipBlank]
  cases start : skipBlank input with
  | nil => simp [tokenFrom]
  | cons rune rest =>
    refine ⟨fun ended => ?_, nofun⟩
    -- at the top neither colon nor comma leads on, and no other rune ends the input
    rw [tokenFrom, if_neg (by simp [skipBlank_visible start])] at ended
    simp only [openToken, closeToken, TokenState.afterComma, TokenState.valueAllowed,
      TokenState.keyAllowed] at ended
    repeat' split at ended
    all_goals first | cases ended | contradiction

variable {container : Container}

theorem tokenFrom_open
    (start : skipBlank input = some container.openRune :: rest) (allowed : state.valueAllowed) :
    tokenFrom replacement state stack input =
      .token (.opening container) ⟨.start container, state :: stack, rest⟩ := by
  rw [tokenFrom_skipBlank, start]
  cases container with
  | array | object => exact if_pos allowed

theorem tokenFrom_close {outer : TokenState}
    (start : skipBlank input = some container.closeRune :: rest)
    (position : state = .start container ∨ state = .comma container) :
    tokenFrom replacement state (outer :: stack) input =
      .token (.closing container) ⟨outer.valueEnd, stack, rest⟩ := by
  rw [tokenFrom_skipBlank, start]
  cases container with
  | array | object => exact if_pos position

theorem tokenFrom_comma (start : skipBlank input = some ',' :: rest) :
    tokenFrom replacement (.comma container) stack input =
      tokenFrom replacement (.item container) stack rest := by
  rw [tokenFrom_skipBlank, start]
  rfl

theorem tokenFrom_key {key : Text} (start : skipBlank input = some '"' :: rest)
    (allowed : state.keyAllowed) (read : readString replacement rest = some (key, after)) :
    tokenFrom replacement state stack input =
      .token (.scalar (.string key)) ⟨.objectColon, stack, after⟩ := by
  rw [tokenFrom_skipBlank, start]
  have quoted : some '"' = some '"' ∧ state.keyAllowed = true := ⟨rfl, allowed⟩
  rw [tokenFrom, if_neg (by decide), if_neg (by decide), if_neg (by decide), if_neg (by decide),
    if_neg (by decide), if_neg (by decide), if_neg (by decide), if_pos quoted, read]

theorem tokenFrom_scalar (read : readScalar replacement (skipBlank input) = some (value, after))
    (allowed : state.valueAllowed) : tokenFrom replacement state stack input =
      .token (.scalar value) ⟨state.valueEnd, stack, after⟩ := by
  rw [tokenFrom_skipBlank]
  cases start : skipBlank input with
  | nil =>
    rw [start] at read
    cases read
  | cons rune rest =>
    rw [start] at read
    have other : ∀ c ∈ ['[', ']', '\x7b', '\x7d', ':', ','], rune ≠ some c := by
      rintro c delimiter rfl
      simp only [List.mem_cons, List.not_mem_nil, or_false] at delimiter
      rcases delimiter with rfl | rfl | rfl | rfl | rfl | rfl <;> cases read
    have value_ : ¬ (rune = some '"' ∧ state.keyAllowed = true) := by
      rintro ⟨-, key⟩
      unfold TokenState.keyAllowed at key
      rw [Bool.or_eq_true, decide_eq_true_iff, decide_eq_true_iff] at key
      rcases key with rfl | rfl <;> cases allowed
    rw [tokenFrom, if_neg (by rw [skipBlank_visible start]; decide), if_neg (other _ (by decide)),
      if_neg (other _ (by decide)), if_neg (other _ (by decide)), if_neg (other _ (by decide)),
      if_neg (other _ (by decide)), if_neg (other _ (by decide)), if_neg value_, if_pos allowed,
      read]

end Steps

/-- The decoder hands out these tokens one after another. -/
inductive Decoder.Reads (replacement : Rune) : Decoder → List Token → Decoder → Prop where
  | nil (decoder : Decoder) : Reads replacement decoder [] decoder
  | cons {decoder next final : Decoder} {token : Token} {tokens : List Token}
      (read : decoder.token replacement = .token token next)
      (further : Reads replacement next tokens final) :
      Reads replacement decoder (token :: tokens) final

namespace Decoder.Reads

variable {replacement : Rune} {decoder other final : Decoder} {tokens more : List Token}

theorem append (first : Reads replacement decoder tokens next)
    (second : Reads replacement next more final) :
    Reads replacement decoder (tokens ++ more) final := by
  induction first with
  | nil decoder => exact second
  | cons read further ih => exact .cons read (ih second)

theorem single {token : Token} (read : decoder.token replacement = .token token next) :
    Reads replacement decoder [token] next :=
  .cons read (.nil next)

theorem congr (reads : Reads replacement other tokens final) (nonempty : tokens ≠ [])
    (same : decoder.token replacement = other.token replacement) :
    Reads replacement decoder tokens final := by
  cases reads with
  | nil => exact absurd rfl nonempty
  | cons read further => exact .cons (same.trans read) further

end Decoder.Reads

section Documents

variable {replacement : Rune} {depth : Nat} {T : Type}

theorem reads_items {container : Container} {item : List Rune → Option (T × List Rune)}
    {tokens : T → List Token}
    (each : ∀ state stack input value rest, state = .start container ∨ state = .item container →
      item input = some (value, rest) → Decoder.Reads replacement ⟨state, stack, input⟩
        (tokens value) ⟨.comma container, stack, rest⟩) {fuel : Nat} {values : List T}
    (items : Items container.closeRune item fuel input values rest)
    (outer : TokenState) (stack : List TokenState)
    (position : state = .start container ∨ state = .item container) :
    Decoder.Reads replacement ⟨state, outer :: stack, input⟩
      (values.flatMap tokens ++ [.closing container]) ⟨outer.valueEnd, stack, rest⟩ := by
  induction items generalizing state with
  | last first _ next =>
    rw [List.flatMap_cons, List.flatMap_nil, List.append_nil]
    exact (each _ _ _ _ _ position first).append (.single (tokenFrom_close next (.inr rfl)))
  | more first comma _ ih =>
    rw [List.flatMap_cons, List.append_assoc]
    exact (each _ _ _ _ _ position first).append
      ((ih (.inr rfl)).congr (by simp) (tokenFrom_comma comma))

theorem reads_sequence {container : Container}
    {item : List Rune → Option (T × List Rune)} {tokens : T → List Token}
    (each : ∀ state stack input value rest, state = .start container ∨ state = .item container →
      item input = some (value, rest) → Decoder.Reads replacement ⟨state, stack, input⟩
        (tokens value) ⟨.comma container, stack, rest⟩) {input rest : List Rune} {values : List T}
    (read : readSequence container.closeRune item input = some (values, rest))
    (outer : TokenState) (stack : List TokenState) :
    Decoder.Reads replacement ⟨.start container, outer :: stack, input⟩
      (values.flatMap tokens ++ [.closing container]) ⟨outer.valueEnd, stack, rest⟩ := by
  rcases readSequence_eq_some_iff.mp read with ⟨next, rfl⟩ | ⟨first, after, next, -, items⟩
  · exact .single (tokenFrom_close next (.inl rfl))
  · refine (reads_items each items outer stack (.inl rfl)).congr (by simp) ?_
    rw [← next]
    exact tokenFrom_skipBlank

theorem tokens_readScalar (read : readScalar replacement input = some (value, rest)) :
    value.tokens = [.scalar value] := by
  rw [readScalar_eq] at read
  obtain ⟨⟨tree, after⟩, scalar, result⟩ := Option.map_eq_some_iff.mp read
  cases result
  cases scalar_of_read scalar <;> rfl

theorem reads_scalar (read : readScalar replacement (skipBlank input) = some (value, rest))
    (allowed : state.valueAllowed) (stack : List TokenState) :
    Decoder.Reads replacement ⟨state, stack, input⟩ value.tokens ⟨state.valueEnd, stack, rest⟩ := by
  rw [tokens_readScalar read]
  exact .single (tokenFrom_scalar read allowed)

theorem reads_member {value : List Rune → Option (Value Number × List Rune)}
    (each : ∀ state stack input tree rest, state.valueAllowed → value input = some (tree, rest) →
      Decoder.Reads replacement ⟨state, stack, input⟩ tree.tokens ⟨state.valueEnd, stack, rest⟩)
    {stack : List TokenState} {member : Text × Value Number}
    (position : state = .start .object ∨ state = .item .object)
    (read : readMember replacement value input = some (member, rest)) :
    Decoder.Reads replacement ⟨state, stack, input⟩ (memberTokens member)
      ⟨.comma .object, stack, rest⟩ := by
  have allowed : state.keyAllowed = true := by rcases position with rfl | rfl <;> rfl
  rw [readMember_eq_readMemberWith] at read
  obtain ⟨opened, named, after, start, keyed, next, valued⟩ := readMemberWith_eq_some_iff.mp read
  have below := each .objectValue stack _ _ _ rfl valued
  refine .cons (tokenFrom_key start allowed keyed) (below.congr member.2.tokens_ne_nil ?_)
  change tokenFrom _ .objectColon stack named = _
  rw [tokenFrom_skipBlank, next]
  rfl

/-- What the reader of values has seen. -/
inductive Parsed (replacement : Rune) (depth : Nat) (input : List Rune) :
    Value Number → List Rune → Prop
  | scalar {value : Value Number} {rest : List Rune} :
      readScalar replacement (skipBlank input) = some (value, rest) →
      Parsed replacement depth input value rest
  | array {less : Nat} {after rest : List Rune} {items : List (Value Number)} :
      depth = less + 1 → skipBlank input = some '[' :: after →
      readSequence ']' (parse replacement less) after = some (items, rest) →
      Parsed replacement depth input (.array items) rest
  | object {less : Nat} {after rest : List Rune} {members : List (Text × Value Number)} :
      depth = less + 1 → skipBlank input = some '\x7b' :: after →
      readSequence '\x7d' (readMember replacement (parse replacement less)) after =
        some (members, rest) →
      Parsed replacement depth input (.object members) rest

theorem parsed_of_parse (read : parse replacement depth input = some (value, rest)) :
    Parsed replacement depth input value rest := by
  cases depth with
  | zero => exact .scalar read
  | succ depth =>
    rw [parse] at read
    cases start : skipBlank input with
    | nil =>
      rw [start] at read
      cases read
    | cons first after =>
      rw [start] at read
      dsimp only at read
      split_ifs at read with bracket brace
      · obtain ⟨⟨items, left⟩, sequence, result⟩ := Option.bind_eq_some_iff.mp read
        cases result
        exact .array rfl (bracket ▸ start) sequence
      · obtain ⟨⟨members, left⟩, sequence, result⟩ := Option.bind_eq_some_iff.mp read
        cases result
        exact .object rfl (brace ▸ start) sequence
      · exact .scalar (start ▸ read)

theorem reads_of_parse (read : parse replacement depth input = some (value, rest))
    (allowed : state.valueAllowed) (stack : List TokenState) :
    Decoder.Reads replacement ⟨state, stack, input⟩ value.tokens ⟨state.valueEnd, stack, rest⟩ := by
  induction depth generalizing input rest value state stack with
  | zero => exact reads_scalar read allowed stack
  | succ depth ih =>
    cases parsed_of_parse read with
    | scalar scalar => exact reads_scalar scalar allowed stack
    | array deep start sequence =>
      cases deep
      rw [Value.tokens_array]
      refine .cons (@tokenFrom_open _ _ _ _ _ .array start allowed) ?_
      refine @reads_sequence _ _ .array _ _ ?_ _ _ _ sequence state stack
      intro inner below text item rest position one
      have within : inner.valueAllowed ∧ inner.valueEnd = .comma .array := by
        rcases position with rfl | rfl <;> exact ⟨rfl, rfl⟩
      rw [← within.2]
      exact ih one within.1 below
    | object deep start sequence =>
      cases deep
      rw [Value.tokens_object]
      refine .cons (@tokenFrom_open _ _ _ _ _ .object start allowed) ?_
      refine @reads_sequence _ _ .object _ _ ?_ _ _ _ sequence state stack
      intro inner below text member rest position one
      exact reads_member (fun _ stack _ _ _ allowed valued => ih valued allowed stack) position one

theorem parse_object {depth : Nat} {input rest : List Rune} {members : List (Text × Value Number)}
    (read : parse replacement (depth + 1) input = some (.object members, rest)) :
    ∃ after, skipBlank input = some '\x7b' :: after ∧
      readSequence '\x7d' (readMember replacement (parse replacement depth)) after =
        some (members, rest) := by
  cases parsed_of_parse read with
  | scalar scalar =>
    have scalar := tokens_readScalar scalar
    rw [Value.tokens_object] at scalar
    cases scalar
  | object deep start sequence =>
    cases deep
    exact ⟨_, start, sequence⟩

theorem Decoder.Reads.shrinks {decoder final : Decoder} {tokens : List Token}
    (reads : Decoder.Reads replacement decoder tokens final) (nonempty : tokens ≠ []) :
    final.rest.length < decoder.rest.length := by
  induction reads with
  | nil => exact absurd rfl nonempty
  | cons read further ih =>
    rename_i decoder next final token tokens
    have first := Decoder.token_shrinks read
    cases tokens with
    | nil =>
      cases further
      exact first
    | cons => exact (ih (List.cons_ne_nil _ _)).trans first

theorem parse_shrinks (read : parse replacement depth input = some (value, rest)) :
    rest.length < input.length := by
  have reads : Decoder.Reads replacement ⟨.topValue, [], input⟩ value.tokens ⟨.topValue, [], rest⟩ :=
    reads_of_parse read rfl []
  exact reads.shrinks value.tokens_ne_nil

end Documents

section Values

/-- `More`: something other than a closing delimiter follows. -/
def Decoder.more (decoder : Decoder) : Bool :=
  match skipBlank decoder.rest with
  | [] => false
  | rune :: _ => decide (rune ≠ some ']') && decide (rune ≠ some '\x7d')

/-- `tokenPrepareForDecode`: the separator before a value is taken. -/
def Decoder.prepare (decoder : Decoder) : Option Decoder :=
  match decoder.tokenState, skipBlank decoder.rest with
  | .comma .array, some ',' :: rest => some ⟨.item .array, decoder.tokenStack, rest⟩
  | .comma .array, _ => none
  | .objectColon, some ':' :: rest => some ⟨.objectValue, decoder.tokenStack, rest⟩
  | .objectColon, _ => none
  | _, _ => some decoder

variable (replacement : Rune) (depth : Nat)

/-- `Decode`: one whole value, wherever the decoder stands. -/
def Decoder.decode (decoder : Decoder) : Option (Value Number × Decoder) :=
  match decoder.prepare with
  | none => none
  | some ready =>
    if ready.tokenState.valueAllowed then
      match parse replacement depth ready.rest with
      | none => none
      | some (value, rest) => some (value, ⟨ready.tokenState.valueEnd, ready.tokenStack, rest⟩)
    else none

variable {replacement depth}

theorem Decoder.prepare_length {decoder ready : Decoder} (prepared : decoder.prepare = some ready) :
    ready.rest.length ≤ decoder.rest.length := by
  have shorter : (skipBlank decoder.rest).length ≤ decoder.rest.length :=
    (List.dropWhile_sublist _).length_le
  unfold Decoder.prepare at prepared
  split at prepared
  · rename_i separated
    cases prepared
    rw [separated, List.length_cons] at shorter
    exact (Nat.le_succ _).trans shorter
  · cases prepared
  · rename_i separated
    cases prepared
    rw [separated, List.length_cons] at shorter
    exact (Nat.le_succ _).trans shorter
  · cases prepared
  · cases prepared
    exact le_rfl

theorem Decoder.decode_shrinks {decoder next : Decoder}
    (read : decoder.decode replacement depth = some (value, next)) :
    next.rest.length < decoder.rest.length := by
  unfold Decoder.decode at read
  cases prepared : decoder.prepare with
  | none =>
    rw [prepared] at read
    cases read
  | some ready =>
    rw [prepared] at read
    dsimp only at read
    split_ifs at read with allowed
    cases parsed : parse replacement depth ready.rest with
    | none =>
      rw [parsed] at read
      cases read
    | some result =>
      rw [parsed] at read
      cases read
      exact (parse_shrinks parsed).trans_le (Decoder.prepare_length prepared)

theorem Decoder.decode_member {input after rest : List Rune}
    (start : skipBlank input = some ':' :: after)
    (read : parse replacement depth after = some (value, rest)) (stack : List TokenState) :
    Decoder.decode replacement depth ⟨.objectColon, stack, input⟩ =
      some (value, ⟨.comma .object, stack, rest⟩) := by
  unfold Decoder.decode
  rw [show Decoder.prepare ⟨.objectColon, stack, input⟩ = some ⟨.objectValue, stack, after⟩ by
    simp only [Decoder.prepare, start]]
  dsimp only
  rw [read]
  rfl

end Values

end Json
