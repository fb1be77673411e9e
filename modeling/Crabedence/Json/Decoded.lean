import Crabedence.Json.Contents
import Crabedence.Json.Spelling

/-!
# What the decoder reads back

The encoder's text is one spelling of a document, and the decoder is the reader followed by a map, so
the decoder gives a tree back whose strings its replacement leaves alone.  With the replacement `none`
these are all trees, so the text of a tree determines it.
-/

namespace Json

open Utf8

variable {replacement : Rune}

section Strings

theorem unitRune_code {c : Char} (escaped : escapedByCode c = true) :
    unitRune replacement c.toNat = some c ∧ ¬ (0xd800 ≤ c.toNat ∧ c.toNat < 0xdc00) := by
  have outside : ¬ (0xd800 ≤ c.toNat ∧ c.toNat < 0xe000 ∨ c.toNat = 0xfffd) := by
    simp only [escapedByCode, Bool.or_eq_true, decide_eq_true_eq, beq_iff_eq] at escaped
    rcases escaped with ((((control | rfl) | rfl) | rfl) | line) | paragraph
    · omega
    · decide
    · decide
    · decide
    · omega
    · omega
  rw [unitRune, if_neg outside, Char.ofNat_toNat]
  exact ⟨rfl, by omega⟩

theorem assemble_pieces {text : Text} (readable : Readable replacement text) :
    assemble replacement (text.map Escapes.html.piece) = text := by
  induction text with
  | nil => rfl
  | cons rune text ih =>
    have rest := ih (readable.imp_right fun clean member => clean (List.mem_cons_of_mem _ member))
    rw [List.map_cons]
    cases rune with
    | none =>
      have absent : replacement = none := readable.resolve_right (by simp)
      rw [Escapes.piece, assemble_unit (by decide), rest, absent]
      rfl
    | some c =>
      by_cases written : shortEscape c = none ∧ Escapes.html.byCode c
      · obtain ⟨same, low⟩ := @unitRune_code replacement c written.2
        rw [Escapes.piece, if_pos written, assemble_unit low, rest, same]
      · rw [Escapes.piece, if_neg written, assemble.eq_def]
        simp only [rest]

theorem assemble_clean (character : replacement ≠ none) (pieces : List Piece) :
    none ∉ assemble replacement pieces := by
  have unit : ∀ code, unitRune replacement code ≠ none := by
    intro code
    unfold unitRune
    split
    · exact character
    · exact Option.some_ne_none _
  fun_induction assemble replacement pieces with
  | case1 => exact List.not_mem_nil
  | case2 rest ih => exact List.not_mem_cons_of_ne_of_not_mem character.symm ih
  | case3 c rest ih => exact List.not_mem_cons_of_ne_of_not_mem (Option.some_ne_none c).symm ih
  | case4 code low after c pair ih =>
    exact List.not_mem_cons_of_ne_of_not_mem (Option.some_ne_none c).symm ih
  | case5 code low after single ih =>
    exact List.not_mem_cons_of_ne_of_not_mem (unit code).symm ih
  | case6 code rest single ih =>
    exact List.not_mem_cons_of_ne_of_not_mem (unit code).symm ih

end Strings

section Trees

def Value.toNode {N : Type} : Value N → Node N Text :=
  fold ⟨.null, .bool, .number, .string, .array, .object⟩

def textSpelling : Spelling Number Text := Escapes.html.spelling id id

variable {items : List (Value Number)} {members : List (Text × Value Number)}

theorem Value.toNode_array : (Value.array items).toNode = .array (items.map toNode) :=
  fold_array _ items

theorem Value.toNode_object :
    (Value.object members).toNode = .object (members.map fun member => (member.1, member.2.toNode)) :=
  fold_object _ members

theorem Value.text_eq_print (tree : Value Number) : tree.text = textSpelling.print tree.toNode := by
  have body : ∀ text : Text, text.flatMap escape = textSpelling.body text := by
    intro text
    refine List.flatMap_congr fun rune _ => ?_
    cases rune <;> rfl
  induction tree using induct with
  | null | bool value | number value => rfl
  | string text => exact congrArg (fun inside => '"' :: (inside ++ ['"'])) (body text)
  | array items ih =>
    rw [text_array, toNode_array, Spelling.print, Node.print_array, List.map_map,
      List.map_congr_left ih]
    rfl
  | object members ih =>
    rw [text_object, toNode_object, Spelling.print, Node.print_object, List.map_map]
    congr 3
    refine List.map_congr_left fun member held => ?_
    rw [memberText, quote, ih member held, body]
    rfl

theorem Value.depth_toNode (tree : Value Number) : tree.toNode.depth = tree.depth := by
  induction tree using induct with
  | null | bool value | number value | string text => rfl
  | array items ih =>
    rw [toNode_array, Value.depth, Value.fold_array, Node.depth, Node.fold_array, List.map_map]
    exact congrArg (fun depths => List.foldr max 0 depths + 1) (List.map_congr_left ih)
  | object members ih =>
    rw [toNode_object, Value.depth, Value.fold_object, Node.depth, Node.fold_object]
    dsimp only
    rw [List.map_map, List.map_map, List.map_map]
    exact congrArg (fun depths => List.foldr max 0 depths + 1) (List.map_congr_left ih)

theorem Node.depth_toValue (tree : Written) : (tree.toValue replacement).depth = tree.depth := by
  induction tree using Node.induct with
  | null | bool value | number value | string text => rfl
  | array items ih =>
    rw [Node.toValue_array, Value.depth, Value.fold_array, Node.depth, Node.fold_array, List.map_map]
    exact congrArg (fun depths => List.foldr max 0 depths + 1) (List.map_congr_left ih)
  | object members ih =>
    rw [Node.toValue_object, Value.depth, Value.fold_object, Node.depth, Node.fold_object]
    dsimp only
    rw [List.map_map, List.map_map, List.map_map]
    exact congrArg (fun depths => List.foldr max 0 depths + 1) (List.map_congr_left ih)

theorem Value.toValue_written (tree : Value Number)
    (clean : ∀ text ∈ tree.texts, Readable replacement text) :
    (textSpelling.written tree.toNode).toValue replacement = tree := by
  induction tree using induct with
  | null | bool value | number value => rfl
  | string text => exact congrArg Value.string (assemble_pieces (clean text List.mem_cons_self))
  | array items ih =>
    rw [toNode_array, Spelling.written, Node.map_array, Node.toValue_array, List.map_map,
      List.map_map]
    refine congrArg Value.array ((List.map_congr_left fun item held => ?_).trans (List.map_id items))
    exact ih item held fun text inside => clean text (mem_texts_array.mpr ⟨item, held, inside⟩)
  | object members ih =>
    rw [toNode_object, Spelling.written, Node.map_object, Node.toValue_object, List.map_map,
      List.map_map]
    refine congrArg Value.object
      ((List.map_congr_left fun member held => ?_).trans (List.map_id members))
    have key := clean member.1 (mem_texts_object.mpr ⟨member, held, .inl rfl⟩)
    have value := ih member held fun text inside =>
      clean text (mem_texts_object.mpr ⟨member, held, .inr inside⟩)
    exact Prod.ext (assemble_pieces key) value

theorem Node.texts_toValue (tree : Written) :
    ∀ text ∈ (tree.toValue replacement).texts, ∃ pieces, text = assemble replacement pieces := by
  induction tree using Node.induct with
  | null | bool | number => exact fun _ member => by cases member
  | string pieces => exact fun text member => ⟨pieces, List.mem_singleton.mp member⟩
  | array items ih =>
    intro text member
    rw [Node.toValue_array] at member
    obtain ⟨_, held, inside⟩ := Value.mem_texts_array.mp member
    obtain ⟨item, listed, rfl⟩ := List.mem_map.mp held
    exact ih item listed text inside
  | object members ih =>
    intro text occurs
    rw [Node.toValue_object] at occurs
    obtain ⟨_, held, place⟩ := Value.mem_texts_object.mp occurs
    obtain ⟨member, listed, rfl⟩ := List.mem_map.mp held
    rcases place with same | inside
    · exact ⟨member.1, same⟩
    · exact ih member listed text inside

end Trees

section Decoding

variable {tree other : Value Number} {input rest : List Rune} {depth : Nat}

theorem parse_text (within : tree.Within (Readable replacement) depth) (stops : StopsNumber rest) :
    parse replacement depth (tree.text.map some ++ rest) = some (tree, rest) := by
  obtain ⟨nested, clean⟩ := Value.within_iff.mp within
  rw [← Value.depth_toNode] at nested
  rw [Value.text_eq_print, parse_eq_readWritten, textSpelling.read_print nested stops,
    Option.map_some, Value.toValue_written tree clean]

theorem Value.text_injective (same : tree.text = other.text) : tree = other := by
  rw [Value.text_eq_print, Value.text_eq_print] at same
  rw [← @Value.toValue_written none tree fun _ _ => .inl rfl, textSpelling.written_inj same,
    Value.toValue_written other fun _ _ => .inl rfl]

theorem parse_within (character : replacement ≠ none)
    (read : parse replacement depth input = some (tree, rest)) :
    tree.Within (Readable replacement) depth := by
  rw [parse_eq_readWritten] at read
  obtain ⟨⟨document, after⟩, found, result⟩ := Option.map_eq_some_iff.mp read
  cases result
  refine Value.within_iff.mpr ⟨?_, fun text held => ?_⟩
  · rw [Node.depth_toValue]
    exact readWritten_depth found
  · obtain ⟨pieces, rfl⟩ := Node.texts_toValue document text held
    exact .inr (assemble_clean character pieces)

theorem parse_succ {result : Value Number × List Rune}
    (read : parse replacement depth input = some result) :
    parse replacement (depth + 1) input = some result := by
  rw [parse_eq_readWritten] at read ⊢
  obtain ⟨⟨document, after⟩, found, same⟩ := Option.map_eq_some_iff.mp read
  rw [readWritten_of_depth found ((readWritten_depth found).trans (Nat.le_succ depth)),
    Option.map_some, same]

end Decoding

end Json
