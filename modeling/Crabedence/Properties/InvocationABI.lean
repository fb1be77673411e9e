import Crabedence.Invocation

/-!
# What the invocation ABI accepts

The token loop with its stack of frames decides a property of the document the bytes hold: no object
repeats a key, the nesting is bounded, and the fields of the request and of its authority are known
and have their declared types.
-/

namespace Crabedence

open Json

variable {top : AbiScanFrame} {final : AbiScan}

section Frames

/-- The frame awaits a value: it is an array, or an object with a pending key. -/
structure Awaits (top : AbiScanFrame) : Prop where
  pending : top.object = true → top.pending = true
  free : top.object = false → top.fields = none

def served (top : AbiScanFrame) : AbiScanFrame :=
  if top.object then { top with pending := false } else top

def childFrame (top : AbiScanFrame) (container : Container) : AbiScanFrame :=
  if top.object then memberFrame top container else freeFrame container (top.path ++ "[]")

variable {texts : AbiTexts} {below : List AbiScanFrame} {completed : Bool}

theorem validateABIField_free (unruled : top.fields = none) (kind : AbiKind) (literal : List Char) :
    validateABIField top kind literal = .ok () := by
  rw [validateABIField, unruled]

theorem scanScalar_ok {kind : AbiKind} {literal : List Char} (awaits : Awaits top) :
    scanScalar kind literal top below completed = .ok final ↔
      final = ⟨served top :: below, completed⟩ ∧ validateABIField top kind literal = .ok () := by
  unfold scanScalar served
  cases object : top.object with
  | true =>
    rw [if_pos ⟨rfl, awaits.pending object⟩, if_pos rfl]
    cases validateABIField top kind literal with
    | error failure => simp
    | ok done => exact ⟨fun same => ⟨(Except.ok.inj same).symm, rfl⟩, fun ⟨same, _⟩ => by rw [same]⟩
  | false =>
    have passes := validateABIField_free (awaits.free object) kind literal
    rw [if_neg (by simp), if_neg (by simp)]
    exact ⟨fun same => ⟨(Except.ok.inj same).symm, passes⟩, fun ⟨same, _⟩ => by rw [same]⟩

theorem scanOpening_ok (awaits : Awaits top) (container : Container) (final : AbiScan) :
    scanToken texts ⟨top :: below, completed⟩ (.opening container) = .ok final ↔
      final = ⟨childFrame top container :: served top :: below, completed⟩ ∧
        (top :: below).length < maxInvocationDepth ∧
        validateABIField top (containerKind container) [] = .ok () := by
  show scanOpening container top below completed = _ ↔ _
  unfold scanOpening served childFrame
  by_cases deep : maxInvocationDepth ≤ (top :: below).length
  · rw [if_pos deep]
    exact ⟨nofun, fun ⟨_, room, _⟩ => absurd deep (Nat.not_le.mpr room)⟩
  · rw [if_neg deep]
    have room := Nat.lt_of_not_le deep
    cases object : top.object with
    | true =>
      rw [if_pos ⟨rfl, awaits.pending object⟩, if_pos rfl, if_pos rfl]
      cases validateABIField top (containerKind container) [] with
      | error failure => simp
      | ok done =>
        exact ⟨fun same => ⟨(Except.ok.inj same).symm, room, rfl⟩, fun ⟨same, _⟩ => by rw [same]⟩
    | false =>
      have passes := validateABIField_free (awaits.free object) (containerKind container) []
      rw [if_neg (by simp), if_neg (by simp), if_neg (by simp), if_neg (by simp)]
      exact ⟨fun same => ⟨(Except.ok.inj same).symm, room, passes⟩, fun ⟨same, _⟩ => by rw [same]⟩

theorem scanClosing_ok {container : Container} (shape : decide (container = .object) = top.object)
    (closed : top.pending = false) :
    scanClosing texts container top below completed = .ok ⟨below, completed || below.isEmpty⟩ := by
  unfold scanClosing
  rw [if_neg (not_not.mpr shape), if_neg (by simp [closed])]

def Knows (frame : AbiScanFrame) (key : Text) : Prop :=
  ∀ fields, frame.fields = some fields → ∃ type, fields.type? key = some type

theorem knows_free (unruled : top.fields = none) (key : Text) : Knows top key := by
  intro fields known
  rw [unruled] at known
  cases known

theorem scanKey_ok {key : Text} : scanKey texts key top below completed = .ok final ↔
      final = ⟨{ top with keys := key :: top.keys, pending := true, key := key } :: below,
          completed⟩ ∧ key ∉ top.keys ∧ Knows top key := by
  unfold scanKey Knows
  by_cases repeated : key ∈ top.keys
  · rw [if_pos repeated]
    exact ⟨nofun, fun ⟨_, fresh, _⟩ => absurd repeated fresh⟩
  · rw [if_neg repeated]
    cases known : top.fields with
    | none =>
      rw [Option.any_none, if_neg (by simp)]
      exact ⟨fun same => ⟨(Except.ok.inj same).symm, repeated, nofun⟩, fun ⟨same, _⟩ => by rw [same]⟩
    | some fields =>
      rw [Option.any_some]
      cases type : fields.type? key with
      | none =>
        simp only [Option.isNone_none, ↓reduceIte]
        refine ⟨nofun, fun ⟨_, _, knows⟩ => ?_⟩
        obtain ⟨found, unknown⟩ := knows fields rfl
        rw [type] at unknown
        cases unknown
      | some found =>
        rw [if_neg (by simp)]
        refine ⟨fun same => ⟨(Except.ok.inj same).symm, repeated, ?_⟩, fun ⟨same, _⟩ => by rw [same]⟩
        intro others same
        cases same
        exact ⟨found, type⟩

end Frames

section Runs

variable (texts : AbiTexts)

def ScanRuns (start : AbiScan) (tokens : List Token) (final : AbiScan) : Prop :=
  tokens.foldlM (scanToken texts) start = .ok final

def Consumes (start : AbiScan) (tokens : List Token) (next : AbiScan) (condition : Prop) : Prop :=
  ∀ final, ScanRuns texts start tokens final ↔ final = next ∧ condition

variable {texts} {start middle next : AbiScan} {token : Token} {tokens more : List Token}
  {p q : Prop}

theorem scanRuns_cons : ScanRuns texts start (token :: tokens) final ↔
      ∃ next, scanToken texts start token = .ok next ∧ ScanRuns texts next tokens final := by
  unfold ScanRuns
  rw [List.foldlM_cons]
  cases scanToken texts start token with
  | error failure => exact ⟨nofun, nofun⟩
  | ok next =>
    exact ⟨fun rest => ⟨next, rfl, rest⟩, fun ⟨_, same, rest⟩ => by cases same; exact rest⟩

theorem scanRuns_append : ScanRuns texts start (tokens ++ more) final ↔
      ∃ next, ScanRuns texts start tokens next ∧ ScanRuns texts next more final := by
  induction tokens generalizing start with
  | nil => simp [ScanRuns, pure, Except.pure]
  | cons token tokens ih =>
    simp only [List.cons_append, scanRuns_cons, ih]
    grind

theorem consumes_nil : Consumes texts start [] start True := by
  intro final
  simp [ScanRuns, pure, Except.pure, eq_comm]

theorem Consumes.congr (consumes : Consumes texts start tokens next p) (same : p ↔ q) :
    Consumes texts start tokens next q := by
  intro final
  rw [consumes, same]

theorem Consumes.append (first : Consumes texts start tokens middle p)
    (second : p → Consumes texts middle more next q) :
    Consumes texts start (tokens ++ more) next (p ∧ q) := by
  intro final
  simp only [scanRuns_append, first _]
  constructor
  · rintro ⟨_, ⟨rfl, holds⟩, rest⟩
    exact ⟨((second holds _).mp rest).1, holds, ((second holds _).mp rest).2⟩
  · rintro ⟨same, holds, further⟩
    exact ⟨_, ⟨rfl, holds⟩, (second holds _).mpr ⟨same, further⟩⟩

theorem consumes_single
    (step : ∀ final, scanToken texts start token = .ok final ↔ final = next ∧ p) :
    Consumes texts start [token] next p := by
  intro final
  rw [scanRuns_cons, ← step]
  exact ⟨fun ⟨_, taken, rest⟩ => by cases rest; exact taken, fun taken => ⟨_, taken, rfl⟩⟩

theorem Consumes.cons (step : ∀ final, scanToken texts start token = .ok final ↔ final = middle ∧ p)
    (rest : p → Consumes texts middle tokens next q) :
    Consumes texts start (token :: tokens) next (p ∧ q) :=
  (consumes_single step).append rest

theorem scanTokens_reads {decoder next : Decoder}
    (reads : decoder.Reads replacementCharacter tokens next) (start : AbiScan) :
    scanTokens texts decoder start = .ok () ↔
      ∃ final, ScanRuns texts start tokens final ∧ scanTokens texts next final = .ok () := by
  induction reads generalizing start with
  | nil decoder => simp [ScanRuns, pure, Except.pure]
  | cons read further ih =>
    rename_i decoder next final token tokens
    simp only [scanRuns_cons]
    rw [scanTokens]
    split
    · rename_i ended
      rw [read] at ended
      cases ended
    · rename_i failed
      rw [read] at failed
      cases failed
    · rename_i handed after same
      rw [read] at same
      cases same
      cases step : scanToken texts start token with
      | error failure => simp
      | ok scan =>
        rw [ih scan]
        grind

end Runs

variable {members : List (Text × Value Number)} {key : Text} {value : Value Number}

section Values

variable {texts : AbiTexts} {below : List AbiScanFrame} {completed : Bool}

/-- The kind of a value, as `validateABIField` is told. -/
def abiKind : Value Number → AbiKind
  | .null => .null
  | .bool _ => .bool
  | .number _ => .number
  | .string _ => .string
  | .array _ => .array
  | .object _ => .object

def abiLiteral : Value Number → List Char
  | .number number => number.text
  | _ => []

variable {keys : List Text} {items : List (Value Number)} {room : Nat}

theorem consumes_scalar (awaits : Awaits top) (scalar : value.tokens = [.scalar value]) :
    Consumes texts ⟨top :: below, completed⟩ value.tokens ⟨served top :: below, completed⟩
      (validateABIField top (abiKind value) (abiLiteral value) = .ok ()) := by
  rw [scalar]
  apply consumes_single
  intro final
  cases value with
  | string text =>
    have pending : ¬ (top.object = true ∧ ¬ top.pending = true) :=
      fun ⟨object, idle⟩ => idle (awaits.pending object)
    rw [← scanScalar_ok awaits]
    exact iff_of_eq (congrArg (· = _) (if_neg pending))
  | array items =>
    rw [Value.tokens_array] at scalar
    cases scalar
  | object members =>
    rw [Value.tokens_object] at scalar
    cases scalar
  | _ => exact scanScalar_ok awaits

def lastKey (key : Text) (members : List (Text × Value Number)) : Text :=
  members.foldl (fun _ member => member.1) key

def AbiScanFrame.idle (frame : AbiScanFrame) (keys : List Text) (key : Text) : AbiScanFrame :=
  { frame with keys := keys, pending := false, key := key }

def AbiScanFrame.at (frame : AbiScanFrame) (keys : List Text) (key : Text) : AbiScanFrame :=
  { frame with keys := keys, pending := true, key := key }

variable {frame : AbiScanFrame} {container : Container}

theorem scanToken_key (object : frame.object = true) {next : Text} (final : AbiScan) :
    scanToken texts ⟨frame.idle keys key :: below, completed⟩ (.scalar (.string next)) = .ok final ↔
      final = ⟨frame.at (next :: keys) next :: below, completed⟩ ∧ next ∉ keys ∧
        Knows frame next := by
  have between : frame.object = true ∧ ¬ (false = true) := ⟨object, Bool.false_ne_true⟩
  have turn : scanToken texts ⟨frame.idle keys key :: below, completed⟩ (.scalar (.string next)) =
      scanKey texts next (frame.idle keys key) below completed := if_pos between
  rw [turn, scanKey_ok]
  rfl

/-- The members of an object are taken exactly if their keys are new, distinct and known, and their
values are taken. -/
theorem consumes_members (object : frame.object = true) {good : Text × Value Number → Prop}
    (each : ∀ member ∈ members, ∀ keys, Consumes texts
      ⟨frame.at keys member.1 :: below, completed⟩ member.2.tokens
      ⟨frame.idle keys member.1 :: below, completed⟩ (good member)) (keys : List Text) (key : Text) :
    Consumes texts ⟨frame.idle keys key :: below, completed⟩ (members.flatMap memberTokens)
      ⟨frame.idle ((members.map Prod.fst).reverse ++ keys) (lastKey key members) :: below, completed⟩
      ((members.map Prod.fst).Nodup ∧
        ∀ member ∈ members, member.1 ∉ keys ∧ Knows frame member.1 ∧ good member) := by
  induction members generalizing keys key with
  | nil => exact consumes_nil.congr (by simp)
  | cons member members ih =>
    obtain ⟨own, others⟩ := List.forall_mem_cons.mp each
    have rest := fun (_ : good member) => ih others (member.1 :: keys) member.1
    rw [List.flatMap_cons, memberTokens, List.cons_append, List.map_cons, List.reverse_cons,
      List.append_assoc, List.singleton_append]
    refine (Consumes.cons (scanToken_key object) fun _ => (own _).append rest).congr ?_
    simp only [List.nodup_cons, List.mem_cons, List.mem_map, not_or]
    grind

theorem consumes_items {good : Value Number → Prop}
    (each : ∀ item ∈ items, Consumes texts ⟨frame :: below, completed⟩ item.tokens
      ⟨frame :: below, completed⟩ (good item)) :
    Consumes texts ⟨frame :: below, completed⟩ (items.flatMap Value.tokens)
      ⟨frame :: below, completed⟩ (∀ item ∈ items, good item) := by
  induction items with
  | nil => exact consumes_nil.congr (by simp)
  | cons item items ih =>
    obtain ⟨own, others⟩ := List.forall_mem_cons.mp each
    rw [List.flatMap_cons]
    exact (own.append fun _ => ih others).congr List.forall_mem_cons.symm

theorem consumes_closing {ended : Bool} (container : Container)
    (shape : decide (container = .object) = top.object) (closed : top.pending = false)
    (last : (completed || below.isEmpty) = ended) :
    Consumes texts ⟨top :: below, completed⟩ [.closing container] ⟨below, ended⟩ True := by
  apply consumes_single
  intro final
  rw [show scanToken texts ⟨top :: below, completed⟩ (.closing container) = _ from
    scanClosing_ok shape closed, last, Except.ok.injEq, and_true, eq_comm]

theorem consumes_body {ended : Bool} (last : (completed || below.isEmpty) = ended)
    (object : frame.object = true) {good : Text × Value Number → Prop}
    {members : List (Text × Value Number)} (each : ∀ member ∈ members, ∀ keys, Consumes texts
      ⟨frame.at keys member.1 :: below, completed⟩ member.2.tokens
      ⟨frame.idle keys member.1 :: below, completed⟩ (good member)) :
    Consumes texts ⟨frame.idle [] [] :: below, completed⟩
      (members.flatMap memberTokens ++ [.closing .object]) ⟨below, ended⟩
      ((members.map Prod.fst).Nodup ∧ ∀ member ∈ members, Knows frame member.1 ∧ good member) :=
  ((consumes_members object each [] []).append fun _ =>
    consumes_closing .object object.symm rfl last).congr (by simp)

theorem childFrame_object (top : AbiScanFrame) : (childFrame top .object).object = true ∧
      childFrame top .object = (childFrame top .object).idle [] [] := by
  unfold childFrame memberFrame
  split_ifs <;> exact ⟨rfl, rfl⟩

theorem childFrame_array (top : AbiScanFrame) :
    (childFrame top .array).object = false ∧ (childFrame top .array).pending = false := by
  unfold childFrame memberFrame
  split_ifs <;> exact ⟨rfl, rfl⟩

theorem childFrame_inner (top : AbiScanFrame) : (childFrame top container).kind ≠ .root := by
  unfold childFrame memberFrame
  split_ifs <;> exact nofun

theorem childFrame_free (other : ¬ (top.kind = .root ∧ top.key = nameText "authority")) :
    (childFrame top container).fields = none := by
  unfold childFrame memberFrame
  rw [if_neg other]
  split_ifs <;> rfl

/-- The value is taken where the frame awaits one and `room` more containers may be opened. -/
def Taken (value : Value Number) : AbiScanFrame → Nat → Prop :=
  value.fold {
    null := fun top _ => validateABIField top .null [] = .ok ()
    bool := fun _ top _ => validateABIField top .bool [] = .ok ()
    number := fun number top _ => validateABIField top .number number.text = .ok ()
    string := fun _ top _ => validateABIField top .string [] = .ok ()
    array := fun items top room => validateABIField top .array [] = .ok () ∧ 0 < room ∧
      ∀ item ∈ items, item (childFrame top .array) (room - 1)
    object := fun members top room => validateABIField top .object [] = .ok () ∧ 0 < room ∧
      (members.map Prod.fst).Nodup ∧ ∀ member ∈ members, Knows (childFrame top .object) member.1 ∧
        member.2 ((childFrame top .object).at [] member.1) (room - 1) }

theorem taken_array :
    Taken (.array items) top room ↔ validateABIField top .array [] = .ok () ∧ 0 < room ∧
      ∀ item ∈ items, Taken item (childFrame top .array) (room - 1) := by
  rw [Taken, Value.fold_array]
  dsimp only
  rw [List.forall_mem_map]
  rfl

theorem taken_object :
    Taken (.object members) top room ↔ validateABIField top .object [] = .ok () ∧ 0 < room ∧
      (members.map Prod.fst).Nodup ∧ ∀ member ∈ members, Knows (childFrame top .object) member.1 ∧
        Taken member.2 ((childFrame top .object).at [] member.1) (room - 1) := by
  rw [Taken, Value.fold_object]
  dsimp only
  rw [List.map_map, List.forall_mem_map]
  rfl

theorem taken_at : Taken value (frame.at keys key) room ↔ Taken value (frame.at [] key) room := by
  cases value with
  | array items => rw [taken_array, taken_array]; rfl
  | object members => rw [taken_object, taken_object]; rfl
  | _ => rfl

theorem awaits_at (object : frame.object = true) (keys : List Text) (key : Text) :
    Awaits (frame.at keys key) :=
  ⟨fun _ => rfl, fun array => absurd (object.symm.trans array) nofun⟩

theorem authority_array (rooted : top.kind = .root → top.fields = some abiRootFields)
    (valid : validateABIField top .array [] = .ok ()) :
    ¬ (top.kind = .root ∧ top.key = nameText "authority") := by
  rintro ⟨root, named⟩
  rw [validateABIField, rooted root] at valid
  dsimp only at valid
  rw [named, show abiRootFields.type? (nameText "authority") = some .object by rfl] at valid
  cases valid

/-- The loop takes a value exactly if it may stand where it does. -/
theorem consumes_value (awaits : Awaits top)
    (rooted : top.kind = .root → top.fields = some abiRootFields)
    (height : (top :: below).length + room = maxInvocationDepth) :
    Consumes texts ⟨top :: below, completed⟩ value.tokens ⟨served top :: below, completed⟩
      (Taken value top room) := by
  induction value using Value.induct generalizing top below room with
  | null | bool | number | string => exact consumes_scalar awaits rfl
  | array items ih =>
    have array := childFrame_array top
    have same : served (childFrame top .array) = childFrame top .array :=
      if_neg (by rw [array.1]; exact Bool.false_ne_true)
    have each (room_ : 0 < room) (valid : validateABIField top .array [] = .ok ()) :
        ∀ item ∈ items, Consumes texts
        ⟨childFrame top .array :: served top :: below, completed⟩ item.tokens
        ⟨childFrame top .array :: served top :: below, completed⟩
        (Taken item (childFrame top .array) (room - 1)) := by
      intro item held
      have inside := @ih item held (childFrame top .array) (served top :: below) (room - 1)
        ⟨fun object => absurd (array.1.symm.trans object) Bool.false_ne_true,
          fun _ => childFrame_free (authority_array rooted valid)⟩
        (fun root => absurd root (childFrame_inner top))
        (by simp only [List.length_cons] at height ⊢; omega)
      rwa [same] at inside
    rw [Value.tokens_array]
    refine (Consumes.cons (scanOpening_ok awaits .array) fun opened => (consumes_items
      (each (by omega) opened.2)).append fun _ => consumes_closing .array array.1.symm array.2
        (Bool.or_false _)).congr ?_
    rw [taken_array, containerKind]
    grind
  | object members ih =>
    obtain ⟨object, idle⟩ := childFrame_object top
    have each (room_ : 0 < room) : ∀ member ∈ members, ∀ keys, Consumes texts
        ⟨(childFrame top .object).at keys member.1 :: served top :: below, completed⟩
        member.2.tokens
        ⟨(childFrame top .object).idle keys member.1 :: served top :: below, completed⟩
        (Taken member.2 ((childFrame top .object).at [] member.1) (room - 1)) := by
      intro member held keys
      have inside := @ih member held ((childFrame top .object).at keys member.1)
        (served top :: below) (room - 1) (awaits_at object keys member.1)
        (fun root => absurd root (childFrame_inner top))
        (by simp only [List.length_cons] at height ⊢; omega)
      rw [show served ((childFrame top .object).at keys member.1) = _ from if_pos object] at inside
      exact inside.congr taken_at
    have body := fun room_ => @consumes_body texts (served top :: below) completed _ completed
      (Bool.or_false _) object _ members (each room_)
    rw [← idle] at body
    rw [Value.tokens_object]
    refine (Consumes.cons (scanOpening_ok awaits .object) fun opened => body (by omega)).congr ?_
    rw [taken_object, containerKind]
    grind

end Values

variable {type : AbiFieldType} {fields : AbiFields}

section Types

def IsIntegerLiteral (number : Number) : Prop := number.fraction = [] ∧ number.exponent = none

def AbiFieldType.Admits : AbiFieldType → Value Number → Prop
  | .string, value => ∃ text, value = .string text
  | .object, value => ∃ members, value = .object members
  | .integer, value => ∃ number, value = .number number ∧ IsIntegerLiteral number ∧
      ∃ n : ℤ, number.value = n ∧ -2 ^ 63 ≤ n ∧ n < 2 ^ 63

def AbiFields.Describe (fields : AbiFields) (members : List (Text × Value Number)) : Prop :=
  ∀ member ∈ members, ∃ type, fields.type? member.1 = some type ∧ type.Admits member.2

def wholeNumber (number : Number) : Int :=
  if number.negative then -(natural number.integer : Int) else natural number.integer

variable {number : Number}

theorem value_of_integer (integer : IsIntegerLiteral number) :
    number.value = wholeNumber number := by
  unfold Number.value Number.exponentValue wholeNumber
  rw [integer.1, integer.2]
  split_ifs <;> simp

theorem integer_head (number : Number) {c : Char} (sign : c.isDigit = false)
    (rest : List Char) : (number.integer ++ rest).head? ≠ some c := by
  obtain ⟨digit, others, shape⟩ := List.exists_cons_of_ne_nil number.integerNonempty
  have isDigit := number.integerDigits digit (by rw [shape]; exact List.mem_cons_self)
  rw [shape, List.cons_append, List.head?_cons]
  intro same
  rw [Option.some.inj same, sign] at isDigit
  cases isDigit

theorem parseInt_text (integer : IsIntegerLiteral number) : parseInt number.text =
      if -2 ^ 63 ≤ wholeNumber number ∧ wholeNumber number < 2 ^ 63 then some (wholeNumber number)
      else none := by
  have spelled : number.integer ≠ [] ∧ Digits number.integer :=
    ⟨number.integerNonempty, number.integerDigits⟩
  have unsigned : ∀ c : Char, c.isDigit = false → number.integer.head? ≠ some c := by
    intro c sign
    have head := integer_head number sign []
    rwa [List.append_nil] at head
  unfold parseInt wholeNumber
  rw [Number.text, Number.fractionText, if_pos integer.1, Number.exponentText, integer.2]
  cases number.negative with
  | true => simp [spelled]
  | false => simp [spelled, unsigned '-' rfl, unsigned '+' rfl]

def literalTail (number : Number) : List Char := number.fractionText ++ number.exponentText

theorem literalTail_eq_nil : literalTail number = [] ↔ IsIntegerLiteral number := by
  unfold literalTail IsIntegerLiteral Number.fractionText Number.exponentText
  rw [List.append_eq_nil_iff]
  apply and_congr
  · split_ifs with empty
    · simp [empty]
    · simp [empty]
  · cases number.exponent with
    | none => simp
    | some exponent => simp [Exponent.text]

theorem literalTail_digits (more : literalTail number ≠ []) :
    (literalTail number).all Char.isDigit = false := by
  unfold literalTail Number.fractionText Number.exponentText at more ⊢
  split_ifs at more ⊢ with empty
  · cases exponent : number.exponent with
    | none =>
      rw [exponent] at more
      exact absurd rfl more
    | some exponent =>
      rw [List.nil_append, Option.elim_some, Exponent.text]
      split_ifs <;> rfl
  · rfl

theorem abiIntegerLiteral_text (number : Number) :
    abiIntegerLiteral number.text = true ↔ IsIntegerLiteral number := by
  have body : abiIntegerLiteral number.text =
      (decide (number.integer ++ literalTail number = ['0']) ||
        (decide (number.integer ++ literalTail number ≠ []) &&
          decide ((number.integer ++ literalTail number).head? ≠ some '0') &&
          (number.integer ++ literalTail number).all Char.isDigit)) := by
    unfold abiIntegerLiteral Number.text literalTail
    cases number.negative with
    | true => rfl
    | false =>
      have unsigned := integer_head number (show Char.isDigit '-' = false from rfl)
        (number.fractionText ++ number.exponentText)
      simp only [Bool.false_eq_true, ↓reduceIte, List.nil_append, unsigned]
  rw [body, ← literalTail_eq_nil]
  by_cases plain : literalTail number = []
  · rw [plain, List.append_nil]
    have digits : number.integer.all Char.isDigit = true :=
      List.all_eq_true.mpr number.integerDigits
    by_cases zero : number.integer.head? = some '0'
    · simp [number.unpadded zero]
    · simp [digits, zero, number.integerNonempty]
  · have long : number.integer ++ literalTail number ≠ ['0'] := by
      intro same
      have one := congrArg List.length same
      have first := List.length_pos_of_ne_nil number.integerNonempty
      have second := List.length_pos_of_ne_nil plain
      rw [List.length_append, List.length_singleton] at one
      omega
    simp [plain, long, literalTail_digits plain]

theorem integer_ok {field : String} (number : Number) :
    (if abiIntegerLiteral number.text = false then
        Except.error (field ++ " must be a JSON integer literal")
      else if parseInt number.text = none then
        Except.error (field ++ " must fit in a signed 64-bit integer")
      else Except.ok ()) = .ok () ↔ AbiFieldType.integer.Admits (.number number) := by
  cases literal : abiIntegerLiteral number.text with
  | false =>
    rw [if_pos rfl]
    refine ⟨nofun, ?_⟩
    rintro ⟨_, same, integer, -⟩
    cases same
    rw [(abiIntegerLiteral_text number).mpr integer] at literal
    cases literal
  | true =>
    have integer := (abiIntegerLiteral_text number).mp literal
    rw [if_neg nofun, parseInt_text integer]
    split_ifs with range none_ none_
    · cases none_
    · exact ⟨fun _ => ⟨number, rfl, integer, _, value_of_integer integer, range⟩, fun _ => rfl⟩
    · refine ⟨nofun, ?_⟩
      rintro ⟨_, same, -, n, value, bounds⟩
      cases same
      rw [value_of_integer integer, Int.cast_inj] at value
      exact absurd (value ▸ bounds) range
    · exact absurd rfl none_

variable {frame : AbiScanFrame}

theorem validateABIField_ok (known : frame.fields = some fields)
    (declared : fields.type? frame.key = some type) (value : Value Number) :
    validateABIField frame (abiKind value) (abiLiteral value) = .ok () ↔ type.Admits value := by
  unfold validateABIField
  rw [known]
  dsimp only
  rw [declared]
  dsimp only
  cases type with
  | string | object => cases value <;> simp [abiKind, AbiFieldType.Admits]
  | integer =>
    cases value with
    | number number =>
      have isNumber : ¬ abiKind (.number number) ≠ .number := not_not.mpr rfl
      rw [if_neg nofun]
      rw [if_neg isNumber]
      exact integer_ok number
    | _ => simp [abiKind, AbiFieldType.Admits]

end Types

section Documents

variable {texts : AbiTexts} {room : Nat}

theorem taken_free (unruled : top.fields = none) (inner : top.kind ≠ .root) :
    Taken value top room ↔ value.NoRepeats ∧ value.depth ≤ room := by
  have valid := validateABIField_free unruled
  have child : ∀ container, (childFrame top container).fields = none :=
    fun _ => childFrame_free fun root => inner root.1
  induction value using Value.induct generalizing top room with
  | null | bool | number | string => exact iff_of_true (valid _ _) ⟨trivial, Nat.zero_le _⟩
  | array items ih =>
    have each := fun room item held => @ih item held _ room (child .array) (childFrame_inner top)
      (validateABIField_free (child .array)) fun _ =>
        childFrame_free fun root => childFrame_inner top root.1
    rw [taken_array, Value.noRepeats_array]
    cases room with
    | zero => simp [(Value.depth_array_pos items).ne']
    | succ room =>
      rw [Value.depth_array_le]
      simp +contextual only [valid, Nat.succ_pos, Nat.add_sub_cancel, each, true_and, forall_and]
  | object members ih =>
    have each := fun room member held => @ih member held
      ((childFrame top .object).at [] member.1) room (child .object) (childFrame_inner top)
      (validateABIField_free (child .object)) fun _ =>
        childFrame_free fun root => childFrame_inner top root.1
    rw [taken_object, Value.noRepeats_object]
    cases room with
    | zero => simp [(Value.depth_object_pos members).ne']
    | succ room =>
      rw [Value.depth_object_le]
      simp +contextual only [valid, Nat.succ_pos, Nat.add_sub_cancel, knows_free (child .object),
        each, true_and, forall_and, and_assoc]

theorem knows_iff {frame : AbiScanFrame} (known : frame.fields = some fields) :
    Knows frame key ↔ ∃ type, fields.type? key = some type := by
  unfold Knows
  rw [known]
  simp

theorem type?_mem (declared : fields.type? key = some type) :
    ∃ name, (name, type) ∈ fields ∧ nameText name = key := by
  obtain ⟨field, found, rfl⟩ := Option.map_eq_some_iff.mp declared
  exact ⟨field.1, List.mem_of_find?_eq_some found, by simpa using List.find?_some found⟩

theorem authority_flat (declared : abiAuthorityFields.type? key = some type) : type ≠ .object := by
  obtain ⟨name, member, -⟩ := type?_mem declared
  rintro rfl
  simp [abiAuthorityFields] at member

theorem root_type (declared : abiRootFields.type? key = some type) :
    type = .string ∨ type = .object ∧ (key = nameText "arguments" ∨ key = nameText "authority") := by
  obtain ⟨name, member, rfl⟩ := type?_mem declared
  simp only [abiRootFields, List.mem_cons, Prod.mk.injEq, List.not_mem_nil, or_false] at member
  rcases member with ⟨rfl, rfl⟩ | ⟨rfl, rfl⟩ | ⟨rfl, rfl⟩ | ⟨rfl, rfl⟩ | ⟨rfl, rfl⟩ | ⟨rfl, rfl⟩ <;> simp

theorem taken_flat (known : top.fields = some fields)
    (declared : fields.type? top.key = some type) (flat : type ≠ .object) :
    Taken value top room ↔ type.Admits value := by
  have admits := validateABIField_ok known declared value
  cases value with
  | array items =>
    have unadmitted : ¬ type.Admits (.array items) := by cases type <;> simp [AbiFieldType.Admits]
    rw [taken_array]
    exact iff_of_false (fun taken => unadmitted (admits.mp taken.1)) unadmitted
  | object members =>
    have unadmitted : ¬ type.Admits (.object members) := by
      cases type with
      | object => exact absurd rfl flat
      | _ => simp [AbiFieldType.Admits]
    rw [taken_object]
    exact iff_of_false (fun taken => unadmitted (admits.mp taken.1)) unadmitted
  | _ => exact admits

theorem taken_container (known : top.fields = some fields)
    (declared : fields.type? top.key = some .object) :
    Taken value top (room + 1) ↔ ∃ members, value = .object members ∧
      (members.map Prod.fst).Nodup ∧ ∀ member ∈ members, Knows (childFrame top .object) member.1 ∧
        Taken member.2 ((childFrame top .object).at [] member.1) room := by
  have admits := validateABIField_ok known declared value
  cases value with
  | object members =>
    have valid : validateABIField top .object [] = .ok () := admits.mpr ⟨members, rfl⟩
    rw [taken_object]
    simp [valid]
  | array items =>
    rw [taken_array]
    refine iff_of_false (fun taken => ?_) fun ⟨_, same, _⟩ => by cases same
    obtain ⟨_, same⟩ := admits.mp taken.1
    cases same
  | _ => exact admits.trans (by simp [AbiFieldType.Admits])

/-- A member of a request. -/
structure RequestMember (member : Text × Value Number) : Prop where
  described : ∃ type, abiRootFields.type? member.1 = some type ∧ type.Admits member.2
  unrepeated : member.2.NoRepeats
  nested : member.2.depth ≤ 63
  authority : ∀ authority, member = (nameText "authority", .object authority) →
    abiAuthorityFields.Describe authority

theorem described_scalar (admitted : type.Admits value)
    (flat : type ≠ .object) : value.NoRepeats ∧ value.depth = 0 := by
  cases type with
  | object => exact absurd rfl flat
  | string =>
    obtain ⟨text, rfl⟩ := admitted
    exact ⟨trivial, rfl⟩
  | integer =>
    obtain ⟨number, rfl, -⟩ := admitted
    exact ⟨trivial, rfl⟩

/-- A root field is taken exactly if it is a member of a request. -/
theorem taken_member {member : Text × Value Number} (knows : Knows rootFrame member.1) :
    Taken member.2 (rootFrame.at [] member.1) 63 ↔ RequestMember member := by
  obtain ⟨type, declared⟩ := (knows_iff rfl).mp knows
  have typed (member_ : RequestMember member) : type.Admits member.2 := by
    obtain ⟨_, again, admitted⟩ := member_.described
    cases declared.symm.trans again
    exact admitted
  rcases root_type declared with rfl | ⟨rfl, named | named⟩
  · refine (@taken_flat (rootFrame.at [] member.1) _ _ _ 63 rfl declared nofun).trans ⟨?_, typed⟩
    intro admitted
    obtain ⟨unrepeated, flat⟩ := described_scalar admitted nofun
    refine ⟨⟨.string, declared, admitted⟩, unrepeated, by omega, ?_⟩
    rintro authority rfl
    obtain ⟨text, same⟩ := admitted
    cases same
  · have other : ¬ ((rootFrame.at [] member.1).kind = .root ∧
        (rootFrame.at [] member.1).key = nameText "authority") := by
      rw [named]
      rintro ⟨-, same⟩
      cases same
    have child := @childFrame_free _ .object other
    have each := fun inner : Text × Value Number =>
      @taken_free ((childFrame (rootFrame.at [] member.1) .object).at [] inner.1) inner.2 62 child
        (childFrame_inner _)
    refine (@taken_container (rootFrame.at [] member.1) _ _ 62 rfl declared).trans ?_
    simp only [knows_free child, each, true_and]
    constructor
    · rintro ⟨members, same, distinct, all⟩
      refine ⟨⟨.object, declared, members, same⟩, ?_, ?_, ?_⟩
      · rw [same, Value.noRepeats_object]
        exact ⟨distinct, fun inner held => (all inner held).1⟩
      · rw [same, Value.depth_object_le]
        exact fun inner held => (all inner held).2
      · rintro authority rfl
        cases named
    · intro good
      obtain ⟨members, same⟩ := typed good
      have unrepeated := good.unrepeated
      have nested := good.nested
      rw [same, Value.noRepeats_object] at unrepeated
      rw [same, Value.depth_object_le] at nested
      exact ⟨members, same, unrepeated.1, fun m held => ⟨unrepeated.2 m held, nested m held⟩⟩
  · have child : (childFrame (rootFrame.at [] member.1) .object).fields =
        some abiAuthorityFields := by
      rw [named]
      rfl
    have each : ∀ inner : Text × Value Number,
        Knows (childFrame (rootFrame.at [] member.1) .object) inner.1 ∧
          Taken inner.2 ((childFrame (rootFrame.at [] member.1) .object).at [] inner.1) 62 ↔
        ∃ type, abiAuthorityFields.type? inner.1 = some type ∧ type.Admits inner.2 := by
      intro inner
      rw [knows_iff child, exists_and_right.symm]
      refine exists_congr fun type => and_congr_right fun declared => ?_
      exact taken_flat child declared (authority_flat declared)
    refine (@taken_container (rootFrame.at [] member.1) _ _ 62 rfl declared).trans ?_
    simp only [each]
    constructor
    · rintro ⟨members, same, distinct, described⟩
      have scalar : ∀ inner ∈ members, inner.2.NoRepeats ∧ inner.2.depth = 0 := by
        intro inner held
        obtain ⟨type, known, admitted⟩ := described inner held
        exact described_scalar admitted (authority_flat known)
      refine ⟨⟨.object, declared, members, same⟩, ?_, ?_, ?_⟩
      · rw [same, Value.noRepeats_object]
        exact ⟨distinct, fun inner held => (scalar inner held).1⟩
      · rw [same, Value.depth_object_le]
        intro inner held
        rw [(scalar inner held).2]
        exact Nat.zero_le _
      · rintro authority rfl
        cases same
        exact described
    · intro good
      obtain ⟨members, same⟩ := typed good
      have unrepeated := good.unrepeated
      rw [same, Value.noRepeats_object] at unrepeated
      exact ⟨members, same, unrepeated.1, good.authority members (Prod.ext named same)⟩

/-- What a request is, apart from its text: no object repeats a key, the nesting is bounded, and the
fields of the request and of its authority are known and have their declared types. -/
structure InvocationDocument (members : List (Text × Value Number)) : Prop where
  unrepeated : (Value.object members).NoRepeats
  nested : (Value.object members).depth ≤ maxInvocationDepth
  fields : abiRootFields.Describe members
  authority : ∀ authority, (nameText "authority", .object authority) ∈ members →
    abiAuthorityFields.Describe authority

/-- The token loop takes the tokens of a document exactly if it is a request. -/
theorem consumes_document {document : Value Number} :
    Consumes texts ⟨[], false⟩ document.tokens ⟨[], true⟩
      (∃ members, document = .object members ∧ InvocationDocument members) := by
  cases document with
  | object members =>
    have each : ∀ member ∈ members, ∀ keys, Consumes texts ⟨[rootFrame.at keys member.1], false⟩
        member.2.tokens ⟨[rootFrame.idle keys member.1], false⟩
        (Taken member.2 (rootFrame.at [] member.1) 63) := fun member _ keys =>
      (consumes_value (awaits_at rfl keys member.1) (fun _ => rfl) rfl).congr taken_at
    have opens : ∀ final, scanToken texts ⟨[], false⟩ (.opening .object) = .ok final ↔
        final = ⟨[rootFrame], false⟩ ∧ True := by
      intro final
      rw [show scanToken texts ⟨[], false⟩ (.opening .object) = .ok ⟨[rootFrame], false⟩ from rfl,
        Except.ok.injEq, and_true, eq_comm]
    rw [Value.tokens_object]
    refine (Consumes.cons opens fun _ => consumes_body rfl rfl each).congr ?_
    simp only [true_and, Value.object.injEq, exists_eq_left']
    constructor
    · rintro ⟨distinct, all⟩
      have good := fun member held => (taken_member (all member held).1).mp (all member held).2
      refine ⟨?_, ?_, fun member held => (good member held).described, ?_⟩
      · rw [Value.noRepeats_object]
        exact ⟨distinct, fun member held => (good member held).unrepeated⟩
      · exact Value.depth_object_le.mpr fun member held => (good member held).nested
      · intro authority held
        exact (good _ held).authority authority rfl
    · intro request
      obtain ⟨distinct, unrepeated⟩ := Value.noRepeats_object.mp request.unrepeated
      refine ⟨distinct, fun member held => ?_⟩
      obtain ⟨type, declared, -⟩ := request.fields member held
      have knows : Knows rootFrame member.1 := (knows_iff rfl).mpr ⟨type, declared⟩
      refine ⟨knows, (taken_member knows).mpr ⟨request.fields member held, unrepeated member held,
        Value.depth_object_le.mp request.nested member held, ?_⟩⟩
      rintro authority rfl
      exact request.authority authority held
  | array items =>
    intro final
    rw [Value.tokens_array, scanRuns_cons]
    exact iff_of_false (fun ⟨_, refused, _⟩ => by cases refused) fun ⟨_, _, same, _⟩ => by cases same
  | _ =>
    refine fun final => iff_of_false (fun runs => ?_) fun ⟨_, _, same, _⟩ => by cases same
    obtain ⟨_, refused, -⟩ := scanRuns_cons.mp runs
    cases refused

end Documents

section Acceptance

variable {S : Type} {target : S} {texts : AbiTexts} {rest : List Utf8.Rune}

theorem assignString_ok {set : String → S → S} {toString : Text → String}
    (admitted : AbiFieldType.string.Admits value) :
    ∃ result, assignString set toString target value = .ok result := by
  obtain ⟨text, rfl⟩ := admitted
  exact ⟨_, rfl⟩

theorem assignInt_ok {set : Int → S → S} (admitted : AbiFieldType.integer.Admits value) :
    ∃ result, assignInt set target value = .ok result := by
  obtain ⟨number, rfl, integer, n, value, range⟩ := admitted
  rw [value_of_integer integer, Int.cast_inj] at value
  rw [assignInt, parseInt_text integer, value, if_pos range]
  exact ⟨_, rfl⟩

theorem assignAuthority_ok (folding : Folding) (described : abiAuthorityFields.Describe members)
    (target : RequestAuthority) :
    ∃ result, assignAuthority folding (.object members) target = .ok result := by
  apply decodeMembers_ok
  intro member held
  obtain ⟨type, declared, admitted⟩ := described member held
  obtain ⟨name, listed, named⟩ := type?_mem declared
  rw [← named]
  simp only [abiAuthorityFields, List.mem_cons, Prod.mk.injEq, List.not_mem_nil, or_false] at listed
  rcases listed with ⟨rfl, rfl⟩ | ⟨rfl, rfl⟩ | ⟨rfl, rfl⟩ | ⟨rfl, rfl⟩ | ⟨rfl, rfl⟩
  · exact ⟨.principal, rfl, fun _ => by rw [AuthorityField.assign]; exact assignString_ok admitted⟩
  · exact ⟨.authorityRef, rfl, fun _ => by rw [AuthorityField.assign]; exact assignString_ok admitted⟩
  · exact ⟨.grantID, rfl, fun _ => by rw [AuthorityField.assign]; exact assignString_ok admitted⟩
  · exact ⟨.authorityGeneration, rfl, fun _ => by rw [AuthorityField.assign]; exact assignInt_ok admitted⟩
  · exact ⟨.authorityDigest, rfl, fun _ => by rw [AuthorityField.assign]; exact assignString_ok admitted⟩

theorem decodeRequest_ok (folding : Folding) (request : InvocationDocument members) :
    ∃ req, decodeRequest folding (.object members) = .ok req := by
  apply decodeMembers_ok
  intro member held
  obtain ⟨type, declared, admitted⟩ := request.fields member held
  obtain ⟨name, listed, named⟩ := type?_mem declared
  simp only [abiRootFields, List.mem_cons, Prod.mk.injEq, List.not_mem_nil, or_false] at listed
  rcases listed with ⟨rfl, rfl⟩ | ⟨rfl, rfl⟩ | ⟨rfl, rfl⟩ | ⟨rfl, rfl⟩ | ⟨rfl, rfl⟩ | ⟨rfl, rfl⟩
  · exact ⟨.capability, named ▸ rfl, fun _ => by rw [RequestField.assign]; exact assignString_ok admitted⟩
  · exact ⟨.arguments, named ▸ rfl, fun target => ⟨_, rfl⟩⟩
  · obtain ⟨authority, same⟩ := admitted
    refine ⟨.authority, named ▸ rfl, fun target => ?_⟩
    have described := request.authority authority (by rw [named, ← same]; exact held)
    obtain ⟨result, stored⟩ := assignAuthority_ok folding described target.authority
    exact ⟨{ target with authority := result }, by rw [RequestField.assign, same, stored]; rfl⟩
  · exact ⟨.executionClass, named ▸ rfl, fun _ => by rw [RequestField.assign]; exact assignString_ok admitted⟩
  · exact ⟨.idempotencyKey, named ▸ rfl, fun _ => by rw [RequestField.assign]; exact assignString_ok admitted⟩
  · exact ⟨.deadline, named ▸ rfl, fun _ => by rw [RequestField.assign]; exact assignString_ok admitted⟩

theorem scanTokens_document {input : List Utf8.Rune} {document : Value Number}
    (read : decodeValue input = .ok (document, rest)) :
    scanTokens texts (.new input) ⟨[], false⟩ = .ok () ↔
      (∃ members, document = .object members ∧ InvocationDocument members) ∧
        scanTokens texts (.new rest) ⟨[], true⟩ = .ok () := by
  have reads : Decoder.Reads replacementCharacter ⟨.topValue, [], input⟩ document.tokens
      ⟨.topValue, [], rest⟩ := reads_of_parse (parse_of_decodeValue read) rfl []
  rw [show Decoder.new input = ⟨.topValue, [], input⟩ from rfl, scanTokens_reads reads]
  simp only [consumes_document _]
  constructor
  · rintro ⟨final, ⟨rfl, request⟩, ended⟩
    exact ⟨request, ended⟩
  · exact fun ⟨request, ended⟩ => ⟨_, ⟨rfl, request⟩, ended⟩

theorem token_eof_iff (rest : List Utf8.Rune) :
    (Decoder.new rest).token replacementCharacter = .eof ↔ requireEOF rest = .ok () := by
  rw [Decoder.token, Decoder.new, tokenFrom_eof_iff, requireEOF_ok_iff]

theorem scanTokens_ended :
    scanTokens texts (.new rest) ⟨[], true⟩ = .ok () ↔ requireEOF rest = .ok () := by
  rw [← token_eof_iff, scanTokens]
  split
  · rename_i eof
    exact ⟨fun _ => eof, fun _ => rfl⟩
  · rename_i failed
    simp [failed]
  · rename_i token next read
    have refused : ∃ failure, scanToken texts ⟨[], true⟩ token = .error failure := by
      cases token <;> exact ⟨_, rfl⟩
    obtain ⟨failure, refused⟩ := refused
    simp [read, refused]

/-- A byte string is accepted exactly if it is UTF-8 and holds one document and nothing else, and
that document is a request. -/
theorem parseInvocationRequest_accepts_iff (folding : Folding) (texts : AbiTexts)
    (data : List UInt8) :
    (∃ req, parseInvocationRequest folding texts data = .ok req) ↔
      utf8Valid data = true ∧
        ∃ members, Holds data (.object members) ∧ InvocationDocument members := by
  unfold parseInvocationRequest scanInvocationStructure
  cases valid : utf8Valid data with
  | false =>
    constructor
    · rintro ⟨_, refused⟩
      cases refused
    · rintro ⟨invalid, -⟩
      cases invalid
  | true =>
    rw [if_neg (by decide)]
    constructor
    · rintro ⟨req, accepted⟩
      obtain ⟨_, scanned, accepted⟩ := Checks.bind_ok_iff.mp accepted
      obtain ⟨result, read, _⟩ := Checks.bind_ok_iff.mp accepted
      rw [Checks.mapError_ok_iff] at read
      obtain ⟨⟨members, same, request⟩, ended⟩ := (scanTokens_document read).mp scanned
      exact ⟨rfl, members, ⟨result.2, by rw [read, ← same], scanTokens_ended.mp ended⟩, request⟩
    · rintro ⟨-, members, ⟨rest, read, ended⟩, request⟩
      have scanned : scanTokens texts (.new (Utf8.decode data)) ⟨[], false⟩ = .ok () :=
        (scanTokens_document read).mpr ⟨⟨members, rfl, request⟩, scanTokens_ended.mpr ended⟩
      obtain ⟨req, decoded⟩ := decodeRequest_ok folding request
      refine ⟨req, ?_⟩
      rw [scanned, read]
      simp only [bind, Except.bind, Except.mapError, decoded, (token_eof_iff rest).mpr ended]
      rfl

end Acceptance

end Crabedence
