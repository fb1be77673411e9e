import Crabedence.Json.Tree

/-!
# Documents as written

Every encoder here writes a tree in one shape and differs in how it spells numbers and strings; the
reader gives a written document back, with the pieces each string was spelled with.  The decoder of
the Go library is the reader followed by a map.
-/

namespace Json

open Utf8

namespace Node

variable {N M S T : Type}

def printMember (body : S → List Char) (member : S × List Char) : List Char :=
  '"' :: (body member.1 ++ ['"']) ++ ':' :: member.2

def print (number : N → List Char) (body : S → List Char) : Node N S → List Char :=
  fold {
    null := "null".toList
    bool := fun value => if value then "true".toList else "false".toList
    number := number
    string := fun text => '"' :: (body text ++ ['"'])
    array := fun parts => '[' :: (separated parts ++ [']'])
    object := fun members => '\x7b' :: (separated (members.map (printMember body)) ++ ['\x7d'])
  }

variable {number : N → List Char} {body : S → List Char}

theorem print_array (items : List (Node N S)) : (Node.array items).print number body =
      '[' :: (separated (items.map (print number body)) ++ [']']) :=
  fold_array _ items

theorem print_object (members : List (S × Node N S)) : (Node.object members).print number body =
      '\x7b' :: (separated (members.map fun member =>
        printMember body (member.1, member.2.print number body)) ++ ['\x7d']) := by
  rw [print, fold_object]
  dsimp only
  rw [List.map_map]
  rfl

theorem print_map (f : M → N) (g : T → S) (tree : Node M T) :
    (tree.map f g).print number body = tree.print (number ∘ f) (body ∘ g) := by
  induction tree using induct with
  | null | bool value | number value | string text => rfl
  | array items ih =>
    rw [map_array, print_array, print_array, List.map_map]
    have each : items.map (print number body ∘ map f g) =
        items.map (print (number ∘ f) (body ∘ g)) := List.map_congr_left ih
    rw [each]
  | object members ih =>
    rw [map_object, print_object, print_object, List.map_map]
    have each : ∀ member ∈ members, ((fun member : S × Node N S =>
        printMember body (member.1, member.2.print number body)) ∘
          fun member : T × Node M T => (g member.1, member.2.map f g)) member =
        printMember (body ∘ g) (member.1, member.2.print (number ∘ f) (body ∘ g)) := by
      intro member held
      rw [← ih member held]
      rfl
    rw [List.map_congr_left each]

end Node

variable {rest : List Rune}

section Reading

theorem length_mem_separated {parts : List (List Char)} {part : List Char} (held : part ∈ parts) :
    part.length ≤ (separated parts).length := by
  induction parts with
  | nil => cases held
  | cons first parts ih =>
    cases parts with
    | nil =>
      rw [List.mem_singleton.mp held, separated]
    | cons next parts =>
      rw [separated, List.length_append, List.length_cons]
      rcases List.mem_cons.mp held with rfl | later
      · omega
      · have := ih later
        omega
      · exact List.cons_ne_nil next parts

/-- How an encoder spells: its number literals, and strings the reader gives back as pieces. -/
structure Spelling (N S : Type) where
  number : N → Number
  body : S → List Char
  pieces : S → List Piece
  lexes : ∀ (text : S) (rest : List Rune),
    lexString ((body text).map some ++ some '"' :: rest) = some (pieces text, rest)

namespace Spelling

variable {N S : Type} (spelling : Spelling N S)

def print (tree : Node N S) : List Char :=
  tree.print (fun value => (spelling.number value).text) spelling.body

def written (tree : Node N S) : Written := tree.map spelling.number spelling.pieces

theorem print_opens (tree : Node N S) : Opens (spelling.print tree) := by
  cases tree with
  | null => exact ⟨'n', _, rfl, by decide⟩
  | bool value => cases value <;> exact ⟨_, _, rfl, by decide⟩
  | number value => exact Value.text_opens (.number (spelling.number value))
  | string text => exact ⟨'"', _, rfl, by decide⟩
  | array items => exact ⟨'[', _, Node.print_array items, by decide⟩
  | object members => exact ⟨'\x7b', _, Node.print_object members, by decide⟩

theorem readWrittenScalar_number (value : Number) (stops : StopsNumber rest) :
    readWrittenScalar (value.text.map some ++ rest) = some (.number value, rest) := by
  have read := value.read_text stops
  obtain ⟨c, tail, shape, -, other⟩ := value.text_first
  rw [shape, List.map_cons, List.cons_append] at read ⊢
  simp only [readWrittenScalar, Option.some.injEq, other '"' (by decide), other 'n' (by decide),
    other 't' (by decide), other 'f' (by decide), ↓reduceIte, read, Option.bind_eq_bind,
    Option.bind_some]

theorem readWritten_scalar {c : Char} {rest : List Rune} (visible : isBlank (some c) = false)
    (bracket : c ≠ '[') (brace : c ≠ '\x7b') (depth : Nat) :
    readWritten depth (some c :: rest) = readWrittenScalar (some c :: rest) := by
  cases depth with
  | zero => rw [readWritten, skipBlank_cons visible]
  | succ depth =>
    simp only [readWritten, skipBlank_cons visible, Option.some.injEq, bracket, brace, ↓reduceIte]

theorem readWritten_number (value : Number) (depth : Nat) (stops : StopsNumber rest) :
    readWritten depth (value.text.map some ++ rest) = some (.number value, rest) := by
  rw [← readWrittenScalar_number value stops]
  obtain ⟨c, tail, shape, visible, other⟩ := value.text_first
  rw [shape, List.map_cons, List.cons_append]
  exact readWritten_scalar visible (other _ (by decide)) (other _ (by decide)) depth

theorem readMemberWith_text {T : Type} {value : List Rune → Option (T × List Rune)} {key : S}
    {text : List Char} {tree : T} (read : value (text.map some ++ rest) = some (tree, rest)) :
    readMemberWith lexString value
        ((Node.printMember spelling.body (key, text)).map some ++ rest) =
      some ((spelling.pieces key, tree), rest) := by
  have shape : (Node.printMember spelling.body (key, text)).map some ++ rest =
      some '"' :: ((spelling.body key).map some ++
        some '"' :: (some ':' :: (text.map some ++ rest))) := by
    simp [Node.printMember]
  rw [shape]
  simp only [readMemberWith, skipBlank_cons (show isBlank (some '"') = false by decide), ↓reduceIte,
    spelling.lexes, Option.bind_eq_bind, Option.bind_some,
    skipBlank_cons (show isBlank (some ':') = false by decide), read]

/-- Reading what was printed gives the document as written, whatever follows it. -/
theorem read_print {tree : Node N S} {depth : Nat} (shallow : tree.depth ≤ depth)
    (stops : StopsNumber rest) : readWritten depth ((spelling.print tree).map some ++ rest) =
      some (spelling.written tree, rest) := by
  induction tree using Node.induct generalizing depth rest with
  | null =>
    change readWritten depth (some 'n' :: _) = _
    rw [readWritten_scalar (by decide) (by decide) (by decide)]
    exact readName_text "null".toList _ rest
  | bool value =>
    cases value with
    | true =>
      change readWritten depth (some 't' :: _) = _
      rw [readWritten_scalar (by decide) (by decide) (by decide)]
      exact readName_text "true".toList _ rest
    | false =>
      change readWritten depth (some 'f' :: _) = _
      rw [readWritten_scalar (by decide) (by decide) (by decide)]
      exact readName_text "false".toList _ rest
  | number value => exact readWritten_number _ depth stops
  | string text =>
    have shape : (spelling.print (.string text)).map some ++ rest =
        some '"' :: ((spelling.body text).map some ++ some '"' :: rest) := by
      simp [print, Node.print, Node.fold]
    rw [shape, readWritten_scalar (by decide) (by decide) (by decide)]
    simp only [readWrittenScalar, ↓reduceIte, spelling.lexes, Option.bind_eq_bind,
      Option.bind_some]
    rfl
  | array items ih =>
    obtain ⟨depth, rfl⟩ : ∃ less, depth = less + 1 :=
      ⟨depth - 1, by have := Node.depth_array_pos items; omega⟩
    have inner := (Node.depth_array items depth).mp shallow
    have read := @readSequence_separated _ _ ']' (readWritten depth) spelling.print
      spelling.written (.inl rfl) items (fun item _ => spelling.print_opens item)
      (fun item held rest => ih item held (inner item held)) rest
    have text : spelling.print (.array items) =
        '[' :: (separated (items.map spelling.print) ++ [']']) := Node.print_array items
    have written : spelling.written (.array items) = .array (items.map spelling.written) :=
      Node.map_array _ _ items
    rw [text, written]
    simp only [List.map_cons, List.map_append, List.map_nil, List.cons_append, List.append_assoc,
      List.nil_append, readWritten, skipBlank_cons (show isBlank (some '[') = false by decide),
      ↓reduceIte, read, Option.bind_eq_bind, Option.bind_some]
  | object members ih =>
    obtain ⟨depth, rfl⟩ : ∃ less, depth = less + 1 :=
      ⟨depth - 1, by have := Node.depth_object_pos members; omega⟩
    have inner := (Node.depth_object members depth).mp shallow
    have read := @readSequence_separated _ _ '\x7d' (readMemberWith lexString (readWritten depth))
      (fun member => Node.printMember spelling.body (member.1, spelling.print member.2))
      (fun member => (spelling.pieces member.1, spelling.written member.2)) (.inr rfl) members
      (fun member _ => ⟨'"', _, rfl, by decide⟩)
      (fun member held rest stops =>
        spelling.readMemberWith_text (ih member held (inner member held) stops)) rest
    have text : spelling.print (.object members) = '\x7b' :: (separated (members.map fun member =>
        Node.printMember spelling.body (member.1, spelling.print member.2)) ++ ['\x7d']) :=
      Node.print_object members
    have written : spelling.written (.object members) =
        .object (members.map fun member => (spelling.pieces member.1, spelling.written member.2)) :=
      Node.map_object _ _ members
    rw [text, written]
    simp only [List.map_cons, List.map_append, List.map_nil, List.cons_append, List.append_assoc,
      List.nil_append, readWritten, skipBlank_cons (show isBlank (some '\x7b') = false by decide),
      Option.some.injEq, Char.reduceEq, ↓reduceIte, read, Option.bind_eq_bind, Option.bind_some]

theorem depth_le_length (tree : Node N S) : tree.depth ≤ (spelling.print tree).length := by
  induction tree using Node.induct with
  | null | bool value | number value | string text => exact Nat.zero_le _
  | array items ih =>
    have text : spelling.print (.array items) =
        '[' :: (separated (items.map spelling.print) ++ [']']) := Node.print_array items
    rw [text, List.length_cons, Node.depth_array]
    intro item held
    have part := length_mem_separated (List.mem_map_of_mem (f := spelling.print) held)
    have short := ih item held
    rw [List.length_append]
    omega
  | object members ih =>
    have text : spelling.print (.object members) = '\x7b' :: (separated (members.map fun member =>
        Node.printMember spelling.body (member.1, spelling.print member.2)) ++ ['\x7d']) :=
      Node.print_object members
    rw [text, List.length_cons, Node.depth_object]
    intro member held
    have part := length_mem_separated (List.mem_map_of_mem (f := fun member : S × Node N S =>
      Node.printMember spelling.body (member.1, spelling.print member.2)) held)
    have short := ih member held
    simp only [Node.printMember, List.length_append, List.length_cons] at part ⊢
    omega

end Spelling

end Reading

section Depth

variable {input : List Rune} {tree : Written} {read : Written × List Rune} {depth : Nat}

/-- What a reader of scalars has seen. -/
inductive Scalar (input : List Rune) : Written → List Rune → Prop
  | string {pieces : List Piece} {after rest : List Rune} :
      input = some '"' :: after → lexString after = some (pieces, rest) →
      Scalar input (.string pieces) rest
  | null {rest : List Rune} : input = "null".toList.map some ++ rest → Scalar input .null rest
  | bool {rest : List Rune} (value : Bool) :
      input = (if value then "true" else "false").toList.map some ++ rest →
      Scalar input (.bool value) rest
  | number {number : Number} {rest : List Rune} :
      Number.read input = some (number, rest) → Scalar input (.number number) rest

theorem scalar_of_read (read : readWrittenScalar input = some (tree, rest)) :
    Scalar input tree rest := by
  cases input with
  | nil => cases read
  | cons first input =>
    simp only [readWrittenScalar, Option.bind_eq_bind] at read
    split_ifs at read with quoted
    · obtain ⟨⟨pieces, after⟩, token, same⟩ := Option.bind_eq_some_iff.mp read
      cases same
      exact .string (quoted ▸ rfl) token
    · obtain ⟨rfl, split⟩ := readName_split read
      exact .null split
    · obtain ⟨rfl, split⟩ := readName_split read
      exact .bool true split
    · obtain ⟨rfl, split⟩ := readName_split read
      exact .bool false split
    · obtain ⟨⟨number, after⟩, token, same⟩ := Option.bind_eq_some_iff.mp read
      cases same
      exact .number token

theorem readWrittenScalar_depth (read : readWrittenScalar input = some (tree, rest)) :
    tree.depth = 0 := by
  cases scalar_of_read read <;> rfl

theorem readWrittenScalar_flat {first : Rune}
    (scalar : readWrittenScalar (first :: input) = some read) :
    first ≠ some '[' ∧ first ≠ some '\x7b' := by
  constructor
  · rintro rfl
    exact absurd scalar (show (none : Option (Written × List Rune)) ≠ some read by simp)
  · rintro rfl
    exact absurd scalar (show (none : Option (Written × List Rune)) ≠ some read by simp)

theorem readWritten_of_scalar (scalar : readWrittenScalar (skipBlank input) = some read)
    (depth : Nat) : readWritten depth input = some read := by
  cases depth with
  | zero => exact scalar
  | succ depth =>
    rw [readWritten]
    cases blank : skipBlank input with
    | nil =>
      rw [blank] at scalar
      cases scalar
    | cons first rest =>
      rw [blank] at scalar
      obtain ⟨bracket, brace⟩ := readWrittenScalar_flat scalar
      dsimp only
      rw [if_neg bracket, if_neg brace, scalar]

/-- What a reader has seen: a scalar, or a bracket and a sequence read one level further in. -/
inductive Seen (depth : Nat) (input : List Rune) : Written → List Rune → Prop
  | scalar {tree : Written} {rest : List Rune} :
      readWrittenScalar (skipBlank input) = some (tree, rest) → Seen depth input tree rest
  | array {less : Nat} {after rest : List Rune} {items : List Written} :
      depth = less + 1 → skipBlank input = some '[' :: after →
      readSequence ']' (readWritten less) after = some (items, rest) →
      Seen depth input (.array items) rest
  | object {less : Nat} {after rest : List Rune} {members : List (List Piece × Written)} :
      depth = less + 1 → skipBlank input = some '\x7b' :: after →
      readSequence '\x7d' (readMemberWith lexString (readWritten less)) after =
        some (members, rest) →
      Seen depth input (.object members) rest

theorem readWritten_eq_some_iff :
    readWritten depth input = some (tree, rest) ↔ Seen depth input tree rest := by
  constructor
  · intro read
    cases depth with
    | zero => exact .scalar read
    | succ depth =>
      rw [readWritten] at read
      cases blank : skipBlank input with
      | nil =>
        rw [blank] at read
        cases read
      | cons first after =>
        rw [blank] at read
        dsimp only at read
        split_ifs at read with bracket brace
        · obtain ⟨⟨items, left⟩, found, same⟩ := Option.bind_eq_some_iff.mp read
          cases same
          exact .array rfl (bracket ▸ blank) found
        · obtain ⟨⟨members, left⟩, found, same⟩ := Option.bind_eq_some_iff.mp read
          cases same
          exact .object rfl (brace ▸ blank) found
        · exact .scalar (blank ▸ read)
  · intro seen
    cases seen with
    | scalar scalar => exact readWritten_of_scalar scalar depth
    | array deep blank found =>
      subst deep
      simp only [readWritten, blank, ↓reduceIte, found, Option.bind_eq_bind, Option.bind_some]
    | object deep blank found =>
      subst deep
      simp only [readWritten, blank, Option.some.injEq, Char.reduceEq, ↓reduceIte, found,
        Option.bind_eq_bind, Option.bind_some]

theorem readWritten_of_depth {bound : Nat} (read : readWritten depth input = some (tree, rest))
    (shallow : tree.depth ≤ bound) : readWritten bound input = some (tree, rest) := by
  induction depth generalizing bound input rest tree with
  | zero => exact readWritten_of_scalar read bound
  | succ depth ih =>
    rw [readWritten_eq_some_iff] at read ⊢
    cases read with
    | scalar scalar => exact .scalar scalar
    | @array less after rest items deep blank found =>
      obtain ⟨bound, rfl⟩ : ∃ below, bound = below + 1 :=
        ⟨bound - 1, by have := Node.depth_array_pos items; omega⟩
      have inner := (Node.depth_array items bound).mp shallow
      obtain rfl : depth = less := Nat.succ.inj deep
      exact .array rfl blank (readSequence_congr found fun item held input rest read =>
        ih read (inner item held))
    | @object less after rest members deep blank found =>
      obtain ⟨bound, rfl⟩ : ∃ below, bound = below + 1 :=
        ⟨bound - 1, by have := Node.depth_object_pos members; omega⟩
      have inner := (Node.depth_object members bound).mp shallow
      obtain rfl : depth = less := Nat.succ.inj deep
      exact .object rfl blank (readSequence_congr found fun member held input rest read =>
        readMemberWith_congr read fun input rest read => ih read (inner member held))

theorem readWritten_depth (read : readWritten depth input = some (tree, rest)) :
    tree.depth ≤ depth := by
  induction depth generalizing input rest tree with
  | zero => exact (readWrittenScalar_depth read).le
  | succ depth ih =>
    cases readWritten_eq_some_iff.mp read with
    | scalar scalar => exact (readWrittenScalar_depth scalar).trans_le (Nat.zero_le _)
    | @array less after rest items deep blank found =>
      obtain rfl : depth = less := Nat.succ.inj deep
      exact (Node.depth_array items depth).mpr
        (readSequence_forall (fun _ _ _ read => ih read) found)
    | @object less after rest members deep blank found =>
      obtain rfl : depth = less := Nat.succ.inj deep
      refine (Node.depth_object members depth).mpr
        (readSequence_forall (fun _ _ _ read => ?_) found)
      obtain ⟨_, _, _, _, _, _, stored⟩ := readMemberWith_eq_some_iff.mp read
      exact ih stored

end Depth

section Decoding

def Node.toValue (replacement : Rune) : Written → Value Number :=
  Node.fold ⟨.null, .bool, .number, fun pieces => .string (assemble replacement pieces), .array,
    fun members => .object (members.map fun member => (assemble replacement member.1, member.2))⟩

theorem Node.toValue_array (replacement : Rune) (items : List Written) :
    Node.toValue replacement (.array items) = .array (items.map (Node.toValue replacement)) :=
  Node.fold_array _ items

theorem Node.toValue_object (replacement : Rune) (members : List (List Piece × Written)) :
    Node.toValue replacement (.object members) = .object (members.map fun member =>
      (assemble replacement member.1, member.2.toValue replacement)) := by
  rw [toValue, fold_object]
  exact congrArg Value.object (List.map_map ..)

variable (replacement : Rune)

theorem readScalar_eq (input : List Rune) : readScalar replacement input =
      (readWrittenScalar input).map fun read => (read.1.toValue replacement, read.2) := by
  cases input with
  | nil => rfl
  | cons first rest =>
    simp only [readScalar, readWrittenScalar, readName, readString, Option.bind_eq_bind]
    split_ifs
    · cases lexString rest <;> rfl
    · rfl
    · rfl
    · rfl
    · rfl
    · rfl
    · rfl
    · cases Number.read (first :: rest) <;> rfl

/-- The decoder reads the document as written and assembles its strings. -/
theorem parse_eq_readWritten (depth : Nat) (input : List Rune) : parse replacement depth input =
      (readWritten depth input).map fun read => (read.1.toValue replacement, read.2) := by
  induction depth generalizing input with
  | zero => exact readScalar_eq replacement (skipBlank input)
  | succ depth ih =>
    have inner : parse replacement depth = fun input =>
        (readWritten depth input).map fun read => (read.1.toValue replacement, read.2) :=
      funext ih
    have key : readString replacement = fun input =>
        (lexString input).map fun read => (assemble replacement read.1, read.2) := by
      funext input
      unfold readString
      cases lexString input <;> rfl
    have member : readMember replacement (parse replacement depth) = fun input =>
        (readMemberWith lexString (readWritten depth) input).map fun read =>
          ((assemble replacement read.1.1, read.1.2.toValue replacement), read.2) := by
      funext input
      change readMemberWith (readString replacement) (parse replacement depth) input = _
      rw [inner, key]
      exact readMemberWith_map (assemble replacement) (Node.toValue replacement) input
    rw [parse, readWritten]
    cases skipBlank input with
    | nil => rfl
    | cons first rest =>
      dsimp only
      split_ifs with bracket brace
      · rw [inner, readSequence_map]
        cases readSequence ']' (readWritten depth) rest with
        | none => rfl
        | some read =>
          simp only [Option.map_some, Option.bind_eq_bind, Option.bind_some,
            Node.toValue_array]
      · rw [member, readSequence_map fun member : List Piece × Written =>
          (assemble replacement member.1, member.2.toValue replacement)]
        cases readSequence '\x7d' (readMemberWith lexString (readWritten depth)) rest with
        | none => rfl
        | some read =>
          simp only [Option.map_some, Option.bind_eq_bind, Option.bind_some,
            Node.toValue_object]
      · exact readScalar_eq replacement (first :: rest)

end Decoding

end Json
