import Crabedence.Json.Text

/-!
# Sequences and members

What the reader's loop over the items of an array or an object has read, turn by turn, and what
follows about the items from what is known about each of them.
-/

namespace Json

open Utf8

/-- Reads a member whose key and value are read as given. -/
def readMemberWith {K T : Type} (key : List Rune → Option (K × List Rune))
    (value : List Rune → Option (T × List Rune)) (input : List Rune) :
    Option ((K × T) × List Rune) :=
  match skipBlank input with
  | [] => none
  | first :: rest =>
    if first = some '"' then do
      let (key, rest) ← key rest
      match skipBlank rest with
      | [] => none
      | next :: rest =>
        if next = some ':' then do
          let (value, rest) ← value rest
          some ((key, value), rest)
        else none
    else none

variable {K T U V : Type} {close : Char} {item value other : List Rune → Option (T × List Rune)}
  {key : List Rune → Option (K × List Rune)} {fuel : Nat} {input rest : List Rune}
  {values : List T} {member : K × T}

section Items

/-- The turns of the loop: one item each, then a comma or the closing rune. -/
inductive Items (close : Char) (item : List Rune → Option (T × List Rune)) :
    Nat → List Rune → List T → List Rune → Prop
  | last {fuel : Nat} {input after rest : List Rune} {value : T} :
      item input = some (value, after) → close ≠ ',' → skipBlank after = some close :: rest →
      Items close item (fuel + 1) input [value] rest
  | more {fuel : Nat} {input after next rest : List Rune} {value : T} {values : List T} :
      item input = some (value, after) → skipBlank after = some ',' :: next →
      Items close item fuel next values rest →
      Items close item (fuel + 1) input (value :: values) rest

theorem readItems_eq_some_iff : readItems close item fuel input = some (values, rest) ↔
      Items close item fuel input values rest := by
  constructor
  · intro read
    induction fuel generalizing input values with
    | zero => cases read
    | succ fuel ih =>
      obtain ⟨⟨value, after⟩, first, read⟩ := Option.bind_eq_some_iff.mp read
      dsimp only at read
      cases next : skipBlank after with
      | nil =>
        rw [next] at read
        cases read
      | cons rune further =>
        rw [next] at read
        dsimp only at read
        split_ifs at read with comma closes
        · obtain ⟨⟨others, final⟩, second, result⟩ := Option.bind_eq_some_iff.mp read
          cases result
          exact .more first (comma ▸ next) (ih second)
        · cases read
          exact .last first (fun same => comma (same ▸ closes)) (closes ▸ next)
  · intro items
    induction items with
    | last first closes next =>
      simp only [readItems, first, next, Option.some.injEq, closes, ↓reduceIte, Option.bind_eq_bind,
        Option.bind_some]
    | more first comma _ ih =>
      simp only [readItems, first, comma, ih, ↓reduceIte, Option.bind_eq_bind, Option.bind_some]

theorem readSequence_eq_some_iff : readSequence close item input = some (values, rest) ↔
      (skipBlank input = some close :: rest ∧ values = []) ∨
        ∃ first after, skipBlank input = first :: after ∧ first ≠ some close ∧
          Items close item (after.length + 1) (first :: after) values rest := by
  unfold readSequence
  cases skipBlank input with
  | nil => simp
  | cons first after =>
    dsimp only
    split_ifs with closes
    · simp [closes, eq_comm, and_comm]
    · simp [closes, readItems_eq_some_iff]

theorem Items.forall {holds : T → Prop} (items : Items close item fuel input values rest)
    (each : ∀ input value rest, item input = some (value, rest) → holds value) :
    ∀ value ∈ values, holds value := by
  induction items with
  | last first _ _ => exact List.forall_mem_singleton.mpr (each _ _ _ first)
  | more first _ _ ih => exact List.forall_mem_cons.mpr ⟨each _ _ _ first, ih⟩

theorem readSequence_forall {holds : T → Prop}
    (each : ∀ input value rest, item input = some (value, rest) → holds value)
    (read : readSequence close item input = some (values, rest)) :
    ∀ value ∈ values, holds value := by
  rcases readSequence_eq_some_iff.mp read with ⟨-, rfl⟩ | ⟨first, after, -, -, items⟩
  · exact fun _ member => by cases member
  · exact items.forall each

theorem Items.congr (items : Items close item fuel input values rest)
    (agree : ∀ value ∈ values, ∀ input rest, item input = some (value, rest) →
      other input = some (value, rest)) : Items close other fuel input values rest := by
  induction items with
  | last first closes next => exact .last (agree _ List.mem_cons_self _ _ first) closes next
  | more first comma _ ih =>
    exact .more (agree _ List.mem_cons_self _ _ first) comma
      (ih fun value held => agree value (List.mem_cons_of_mem _ held))

theorem readSequence_congr (read : readSequence close item input = some (values, rest))
    (agree : ∀ value ∈ values, ∀ input rest, item input = some (value, rest) →
      other input = some (value, rest)) : readSequence close other input = some (values, rest) := by
  rw [readSequence_eq_some_iff] at read ⊢
  rcases read with empty | ⟨first, after, start, opens, items⟩
  · exact .inl empty
  · exact .inr ⟨first, after, start, opens, items.congr agree⟩

theorem readItems_map (f : T → U) (fuel : Nat) (input : List Rune) :
    readItems close (fun input => (item input).map fun read => (f read.1, read.2)) fuel input =
      (readItems close item fuel input).map fun read => (read.1.map f, read.2) := by
  induction fuel generalizing input with
  | zero => rfl
  | succ fuel ih =>
    rw [readItems, readItems]
    cases item input with
    | none => rfl
    | some read =>
      simp only [Option.map_some, Option.bind_eq_bind, Option.bind_some]
      cases skipBlank read.2 with
      | nil => rfl
      | cons next rest =>
        dsimp only
        split_ifs with comma closing
        · rw [ih]
          cases readItems close item fuel rest <;> rfl
        · rfl
        · rfl

theorem readSequence_map (f : T → U) (input : List Rune) :
    readSequence close (fun input => (item input).map fun read => (f read.1, read.2)) input =
      (readSequence close item input).map fun read => (read.1.map f, read.2) := by
  unfold readSequence
  cases skipBlank input with
  | nil => rfl
  | cons next rest =>
    dsimp only
    split_ifs with closing
    · rfl
    · exact readItems_map f _ _

end Items

section Members

theorem readMemberWith_map (f : K → U) (g : T → V) (input : List Rune) :
    readMemberWith (fun input => (key input).map fun read => (f read.1, read.2))
        (fun input => (value input).map fun read => (g read.1, read.2)) input =
      (readMemberWith key value input).map fun read => ((f read.1.1, g read.1.2), read.2) := by
  unfold readMemberWith
  cases skipBlank input with
  | nil => rfl
  | cons first rest =>
    dsimp only
    split_ifs with quoted
    · cases key rest with
      | none => rfl
      | some read =>
        simp only [Option.map_some, Option.bind_eq_bind, Option.bind_some]
        cases skipBlank read.2 with
        | nil => rfl
        | cons next rest =>
          dsimp only
          split_ifs with colon
          · cases value rest <;> rfl
          · rfl
    · rfl

theorem readMemberWith_eq_some_iff : readMemberWith key value input = some (member, rest) ↔
      ∃ opened named after, skipBlank input = some '"' :: opened ∧
        key opened = some (member.1, named) ∧ skipBlank named = some ':' :: after ∧
        value after = some (member.2, rest) := by
  constructor
  · intro read
    unfold readMemberWith at read
    cases blank : skipBlank input with
    | nil =>
      rw [blank] at read
      cases read
    | cons first opened =>
      rw [blank] at read
      dsimp only at read
      split_ifs at read with quoted
      obtain ⟨⟨name, named⟩, keyed, read⟩ := Option.bind_eq_some_iff.mp read
      cases gap : skipBlank named with
      | nil =>
        rw [gap] at read
        cases read
      | cons next after =>
        rw [gap] at read
        dsimp only at read
        split_ifs at read with colon
        obtain ⟨⟨result, left⟩, stored, read⟩ := Option.bind_eq_some_iff.mp read
        cases read
        exact ⟨opened, named, after, quoted ▸ rfl, keyed, colon ▸ gap, stored⟩
  · rintro ⟨opened, named, after, blank, keyed, gap, stored⟩
    simp only [readMemberWith, blank, keyed, gap, stored, ↓reduceIte, Option.bind_eq_bind,
      Option.bind_some]

theorem readMemberWith_congr (read : readMemberWith key value input = some (member, rest))
    (agree : ∀ input rest, value input = some (member.2, rest) →
      other input = some (member.2, rest)) :
    readMemberWith key other input = some (member, rest) := by
  obtain ⟨opened, named, after, blank, keyed, gap, stored⟩ := readMemberWith_eq_some_iff.mp read
  exact readMemberWith_eq_some_iff.mpr
    ⟨opened, named, after, blank, keyed, gap, agree after rest stored⟩

theorem readMember_eq_readMemberWith {replacement : Rune} :
    readMember replacement value = readMemberWith (readString replacement) value := rfl

end Members

end Json
