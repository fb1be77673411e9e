import Crabedence.Worker.Migration

/-!
# What the digest of an export binds

The digest hashes one line for each entry, with the key as it is.  Once the keys are known the hashes
can be read off the hashed text again, and so can lines whose keys hold no line feed; with a line feed
in a key, two states with other keys can have one text.
-/

namespace Crabedence.Worker

open Script
open Utf16 (Str str)

/-- A text without an unpaired surrogate. -/
def Paired (text : Str) : Prop := ∃ chars, Utf16.encode chars = text

section Paired

variable {text other : Str}

theorem Paired.append (paired : Paired text) (paired' : Paired other) : Paired (text ++ other) := by
  obtain ⟨chars, rfl⟩ := paired
  obtain ⟨others, rfl⟩ := paired'
  exact ⟨chars ++ others, List.flatMap_append⟩

theorem Paired.intercalate {lines : List Str} (paired : ∀ line ∈ lines, Paired line) :
    Paired ((str "\n").intercalate lines) := by
  induction lines with
  | nil => exact ⟨[], rfl⟩
  | cons line lines ih =>
    obtain ⟨first, rest⟩ := List.forall_mem_cons.mp paired
    cases lines with
    | nil => rwa [List.intercalate_singleton]
    | cons next lines =>
      rw [List.intercalate_cons_cons]
      exact (first.append ⟨_, rfl⟩).append (ih rest)

theorem Paired.bytes_inj (paired : Paired text) (paired' : Paired other)
    (same : Utf16.bytes text = Utf16.bytes other) : text = other := by
  obtain ⟨chars, rfl⟩ := paired
  obtain ⟨others, rfl⟩ := paired'
  rw [Utf16.bytes_encode, Utf16.bytes_encode] at same
  rw [Utf8.encode_injective same]

end Paired

def PlainKey (entry : Value) : Prop :=
  ∀ key, textOf entry "key" = some key → 0x0a ∉ key ∧ Paired key

def PlainKeys (input : Value) : Prop :=
  ∀ entries, input.get? (str "entries") = some (.array entries) → ∀ entry ∈ entries, PlainKey entry

section Binding

variable (shortest : Number → List Char) (sha256 : List UInt8 → List Char)
  (document other : CoordinatorStateExport)

def CoordinatorStateExport.keys : Set Str := {key | key ∈ document.entries.map (·.key)}

def CoordinatorStateExport.pairs : Set (Str × List Char) :=
  {pair | pair ∈ document.entries.map fun entry =>
    (entry.key, canonicalCoordinatorJSON shortest entry.value)}

/-- The texts that are hashed when the document is checked. -/
def CoordinatorStateExport.hashed : List (List UInt8) :=
  Utf16.bytes (exportText document.entries) :: document.entries.map fun entry =>
    Utf16.bytes (Utf16.encode (canonicalCoordinatorJSON shortest entry.value))

abbrev CollisionFree : Prop :=
  ∀ text ∈ document.hashed shortest, ∀ text' ∈ other.hashed shortest,
    sha256 text = sha256 text' → text = text'

/-- What the check says of an entry. -/
structure Sound (entry : CoordinatorExportEntry) : Prop where
  size : entry.sha256.length = 64
  hex : ∀ unit ∈ entry.sha256, isLowercaseHexUnit unit = true
  hash : valueSha256 shortest sha256 entry.value = entry.sha256

/-- What the check says of the entries it returns, given the keys that were seen before. -/
structure Checked (seen : List Str) (items : List Value) (entries : List CoordinatorExportEntry) :
    Prop where
  sound : ∀ entry ∈ entries, Sound shortest sha256 entry
  distinct : (entries.map (·.key)).Nodup
  fresh : ∀ entry ∈ entries, entry.key ∉ seen
  named : ∀ entry ∈ entries, ∃ item ∈ items, textOf item "key" = some entry.key

structure Accepted (input : Value) (document : CoordinatorStateExport) : Prop where
  digest : document.digest = exportDigest sha256 document.entries
  sound : ∀ entry ∈ document.entries, Sound shortest sha256 entry
  distinct : (document.entries.map (·.key)).Nodup
  plain : PlainKeys input → ∀ entry ∈ document.entries, 0x0a ∉ entry.key ∧ Paired entry.key

variable {shortest sha256 document other} {entry : CoordinatorExportEntry}
  {entries others : List CoordinatorExportEntry} {input input' : Value} {seen later : List Str}
  {index : ℕ} {item : Value}

section Check

theorem checkEntry_ok
    (checked : checkEntry shortest sha256 seen index item = some (later, .ok entry)) :
    Sound shortest sha256 entry ∧ textOf item "key" = some entry.key ∧ entry.key ∉ seen ∧
      later = entry.key :: seen := by
  unfold checkEntry at checked
  dsimp only at checked
  split at checked
  · cases checked
  · rename_i key named
    split at checked
    · cases checked
    · rename_i fresh
      split at checked
      · cases checked
      · rename_i hash written
        obtain ⟨value, -, made⟩ := Option.map_eq_some_iff.mp checked
        split at made <;> cases made
        rename_i same
        have hex := (Option.filter_eq_some_iff.mp written).2
        simp only [hexRun, Bool.and_eq_true, decide_eq_true_eq, List.all_eq_true] at hex
        exact ⟨⟨hex.1, hex.2, same⟩, (Option.filter_eq_some_iff.mp named).1, fresh, rfl⟩

theorem checkEntry_error {error : Str}
    (checked : checkEntry shortest sha256 seen index item = some (later, .error error)) :
    seen ⊆ later := by
  unfold checkEntry at checked
  dsimp only at checked
  split at checked
  · cases checked
    exact List.Subset.refl _
  · split at checked
    · cases checked
      exact List.Subset.refl _
    · split at checked
      · cases checked
        exact List.Subset.refl _
      · obtain ⟨value, -, made⟩ := Option.map_eq_some_iff.mp checked
        cases congrArg Prod.fst made
        exact List.subset_cons_self _ _

theorem Checked.after {items : List Value} (subset : seen ⊆ later)
    (checked : Checked shortest sha256 later items entries) :
    Checked shortest sha256 seen (item :: items) entries where
  sound := checked.sound
  distinct := checked.distinct
  fresh entry held seenKey := checked.fresh entry held (subset seenKey)
  named entry held :=
    have ⟨own, listed, key⟩ := checked.named entry held
    ⟨own, List.mem_cons_of_mem _ listed, key⟩

theorem checkEntries_checked {items : List Value} {errors : List Str}
    (checked : checkEntries shortest sha256 seen index items = some (errors, entries)) :
    Checked shortest sha256 seen items entries := by
  induction items generalizing seen index errors entries with
  | nil =>
    cases checked
    exact ⟨nofun, .nil, nofun, nofun⟩
  | cons item items ih =>
    obtain ⟨⟨later, result⟩, turn, checked⟩ := Option.bind_eq_some_iff.mp checked
    obtain ⟨⟨further, rest⟩, tail, checked⟩ := Option.bind_eq_some_iff.mp checked
    cases result with
    | error error =>
      cases checked
      exact (ih tail).after (checkEntry_error turn)
    | ok entry =>
      cases checked
      obtain ⟨sound, named, fresh, rfl⟩ := checkEntry_ok turn
      have kept : Checked shortest sha256 seen (item :: items) rest :=
        (ih tail).after (List.subset_cons_self _ _)
      refine ⟨List.forall_mem_cons.mpr ⟨sound, kept.sound⟩, ?_,
        List.forall_mem_cons.mpr ⟨fresh, kept.fresh⟩,
        List.forall_mem_cons.mpr ⟨⟨item, List.mem_cons_self, named⟩, kept.named⟩⟩
      refine List.nodup_cons.mpr ⟨fun repeated => ?_, kept.distinct⟩
      obtain ⟨found, held, key⟩ := List.mem_map.mp repeated
      exact (ih tail).fresh found held (key ▸ List.mem_cons_self)

theorem sortEntries_perm (entries : List CoordinatorExportEntry) : (sortEntries entries).Perm entries :=
  List.perm_insertionSort _ entries

theorem validateCoordinatorExport_accepted
    (accepted : validateCoordinatorExport shortest sha256 input = some (.ok document)) :
    Accepted shortest sha256 input document := by
  unfold validateCoordinatorExport at accepted
  cases input with
  | object members =>
    dsimp only at accepted
    split at accepted
    · rename_i items listed
      obtain ⟨⟨errors, entries⟩, turns, accepted⟩ := Option.bind_eq_some_iff.mp accepted
      dsimp only at accepted
      split at accepted
      · split at accepted <;> cases accepted
        have checked := checkEntries_checked turns
        have kept {entry : CoordinatorExportEntry} (held : entry ∈ sortEntries entries) :
            entry ∈ entries := (sortEntries_perm entries).mem_iff.mp held
        refine ⟨rfl, fun entry held => checked.sound entry (kept held),
          ((sortEntries_perm entries).map _).nodup_iff.mpr checked.distinct,
          fun plain entry held => ?_⟩
        obtain ⟨item, raw, key⟩ := checked.named entry (kept held)
        exact plain items listed item raw entry.key key
      · cases accepted
    · cases accepted
  | _ => cases accepted

end Check

section PlainLines

variable (sound : ∀ entry ∈ entries, Sound shortest sha256 entry)
  (plain : ∀ entry ∈ entries, 0x0a ∉ entry.key ∧ Paired entry.key)

include sound plain

theorem lines_plain : ∀ line ∈ (sortEntries entries).map exportLine, 0x0a ∉ line ∧ Paired line := by
  refine List.forall_mem_map.mpr fun entry held => ?_
  have kept := (sortEntries_perm entries).mem_iff.mp held
  obtain ⟨-, hex, hash⟩ := sound entry kept
  obtain ⟨unbroken, paired⟩ := plain entry kept
  refine ⟨?_, (paired.append ⟨_, rfl⟩).append ⟨_, hash⟩⟩
  rw [exportLine, List.mem_append, List.mem_append, not_or, not_or]
  exact ⟨⟨unbroken, by decide⟩, fun held => absurd (hex _ held) (by decide)⟩

/-- The lines are found again between the line feeds of the text. -/
theorem lines_of_text : (sortEntries entries).map exportLine =
    if exportText entries = [] then [] else (exportText entries).splitOn 0x0a := by
  by_cases none : (sortEntries entries).map exportLine = []
  · rw [exportText, none]
    rfl
  · have split : (exportText entries).splitOn 0x0a = (sortEntries entries).map exportLine :=
      List.splitOn_intercalate 0x0a (fun line held => (lines_plain sound plain line held).1) none
    rw [if_neg, split]
    intro empty
    -- every line has a colon
    rw [empty] at split
    have line : [] ∈ (sortEntries entries).map exportLine := split ▸ List.mem_cons_self
    obtain ⟨entry, -, blank⟩ := List.mem_map.mp line
    simp [exportLine, str, Utf16.encode, Utf16.encodeChar] at blank

end PlainLines

theorem plain_lines_eq (sound : ∀ entry ∈ entries, Sound shortest sha256 entry)
    (sound' : ∀ entry ∈ others, Sound shortest sha256 entry)
    (plain : ∀ entry ∈ entries, 0x0a ∉ entry.key ∧ Paired entry.key)
    (plain' : ∀ entry ∈ others, 0x0a ∉ entry.key ∧ Paired entry.key)
    (same : Utf16.bytes (exportText entries) = Utf16.bytes (exportText others)) :
    (sortEntries entries).map exportLine = (sortEntries others).map exportLine := by
  have texts : exportText entries = exportText others :=
    Paired.bytes_inj (.intercalate fun line held => (lines_plain sound plain line held).2)
      (.intercalate fun line held => (lines_plain sound' plain' line held).2) same
  rw [lines_of_text sound plain, lines_of_text sound' plain', texts]

section KnownKeys

/-- The order of the lines is that of their keys. -/
theorem sortEntries_keys (distinct : (entries.map (·.key)).Nodup)
    (distinct' : (others.map (·.key)).Nodup)
    (same : ∀ key, key ∈ entries.map (·.key) ↔ key ∈ others.map (·.key)) :
    (sortEntries entries).map (·.key) = (sortEntries others).map (·.key) := by
  have trans : IsTrans CoordinatorExportEntry (·.key ≤ ·.key) :=
    ⟨fun _ _ _ first second => List.le_trans first second⟩
  have total : Std.Total (α := CoordinatorExportEntry) (·.key ≤ ·.key) :=
    ⟨fun left right => List.le_total left.key right.key⟩
  have ordered (entries : List CoordinatorExportEntry) :
      ((sortEntries entries).map (·.key)).Pairwise (· ≤ ·) :=
    List.pairwise_map.mpr (List.pairwise_insertionSort _ entries)
  have perm := ((sortEntries_perm entries).map (·.key)).trans
    (((List.perm_ext_iff_of_nodup distinct distinct').mpr same).trans
      ((sortEntries_perm others).map (·.key)).symm)
  exact perm.eq_of_pairwise (fun _ _ _ _ => List.le_antisymm) (ordered entries) (ordered others)

theorem intercalate_append {lines : List Str} (separator : Str) (some : lines ≠ []) :
    separator.intercalate lines ++ separator = lines.flatMap (· ++ separator) := by
  induction lines with
  | nil => exact absurd rfl some
  | cons line lines ih =>
    cases lines with
    | nil => simp
    | cons next lines =>
      rw [List.intercalate_cons_cons, List.append_assoc, ih (List.cons_ne_nil _ _)]
      rfl

theorem length_hex {chars : List Char}
    (hex : ∀ unit ∈ Utf16.encode chars, isLowercaseHexUnit unit = true) :
    chars.length = (Utf16.encode chars).length := by
  induction chars with
  | nil => rfl
  | cons c chars ih =>
    rw [Utf16.encode_cons] at hex ⊢
    obtain ⟨first, rest⟩ := List.forall_mem_append.mp hex
    rw [List.length_cons, List.length_append, ih rest, Utf16.encodeChar]
    by_cases basic : c.toNat < 0x10000
    · rw [if_pos basic, List.length_singleton, Nat.add_comm]
    · -- a surrogate is no digit
      have range := Utf16.toNat_range c
      rw [Utf16.encodeChar, if_neg basic] at first
      have high := first _ List.mem_cons_self
      simp only [isLowercaseHexUnit, decide_eq_true_eq, UInt16.le_iff_toNat_le,
        UInt16.toNat_ofNat', UInt16.reduceToNat] at high
      omega

/-- The characters that are hashed for a text. -/
def scalars (text : Str) : List Char := (Utf16.decode text).map Utf16.Point.scalar

theorem scalars_encode_append (chars : List Char) (rest : Str) :
    scalars (Utf16.encode chars ++ rest) = chars ++ scalars rest := by
  rw [scalars, Utf16.decode_encode_append, List.map_append, List.map_map]
  exact congrArg (· ++ scalars rest) (List.map_id chars)

theorem scalars_append (text : Str) {rest : Str}
    (apart : ∀ unit, rest.head? = some unit → Utf16.isLow unit = false) :
    scalars (text ++ rest) = scalars text ++ scalars rest := by
  rw [scalars, Utf16.decode_append text apart, List.map_append]
  rfl

/-- A line and its end; the colon keeps the hash apart from any key. -/
theorem scalars_line (sound : Sound shortest sha256 entry) (rest : Str) : ∃ hash : List Char,
    Utf16.encode hash = entry.sha256 ∧ hash.length = 64 ∧
      scalars (exportLine entry ++ str "\n" ++ rest) =
        scalars entry.key ++ ((':' :: hash ++ ['\n']) ++ scalars rest) := by
  obtain ⟨size, hex, written⟩ := sound
  refine ⟨_, written, ?_, ?_⟩
  · rw [← written] at hex size
    exact (length_hex hex).trans size
  · rw [← scalars_encode_append, ← scalars_append, exportLine, ← written]
    · congr 1
      simp only [valueSha256, sha256Hex, str, Utf16.encode, List.flatMap_append, List.flatMap_cons,
        List.append_assoc]
      rfl
    · rintro unit ⟨⟩
      decide

theorem lines_eq (sound : ∀ entry ∈ entries, Sound shortest sha256 entry)
    (sound' : ∀ entry ∈ others, Sound shortest sha256 entry)
    (keys : entries.map (·.key) = others.map (·.key))
    (same : scalars ((entries.map exportLine).flatMap (· ++ str "\n")) =
      scalars ((others.map exportLine).flatMap (· ++ str "\n"))) :
    entries.map exportLine = others.map exportLine := by
  induction entries generalizing others with
  | nil =>
    cases others with
    | nil => rfl
    | cons entry others => cases keys
  | cons entry entries ih =>
    cases others with
    | nil => cases keys
    | cons entry' others =>
      obtain ⟨key, tail⟩ : entry.key = entry'.key ∧ _ := List.cons_eq_cons.mp keys
      obtain ⟨own, sound⟩ := List.forall_mem_cons.mp sound
      obtain ⟨own', sound'⟩ := List.forall_mem_cons.mp sound'
      rw [List.map_cons, List.map_cons, List.flatMap_cons, List.flatMap_cons] at same
      obtain ⟨hash, written, size, read⟩ := scalars_line own
        ((entries.map exportLine).flatMap (· ++ str "\n"))
      obtain ⟨hash', written', size', read'⟩ := scalars_line own'
        ((others.map exportLine).flatMap (· ++ str "\n"))
      rw [read, read', key] at same
      obtain ⟨line, rest⟩ := List.append_inj (List.append_cancel_left same)
        (by simp [size, size'])
      have hashes : hash = hash' := List.append_cancel_right ((List.cons_inj_right _).mp line)
      rw [List.map_cons, List.map_cons, ih sound sound' tail rest, exportLine, exportLine, key,
        ← written, ← written', hashes]

theorem sorted_lines_eq (sound : ∀ entry ∈ entries, Sound shortest sha256 entry)
    (sound' : ∀ entry ∈ others, Sound shortest sha256 entry)
    (keys : (sortEntries entries).map (·.key) = (sortEntries others).map (·.key))
    (same : Utf16.bytes (exportText entries) = Utf16.bytes (exportText others)) :
    (sortEntries entries).map exportLine = (sortEntries others).map exportLine := by
  have kept {entries : List CoordinatorExportEntry}
      (sound : ∀ entry ∈ entries, Sound shortest sha256 entry) :
      ∀ entry ∈ sortEntries entries, Sound shortest sha256 entry :=
    fun entry held => sound entry ((sortEntries_perm entries).mem_iff.mp held)
  by_cases empty : sortEntries entries = []
  · rw [empty] at keys ⊢
    rw [List.map_eq_nil_iff.mp keys.symm]
  · have empty' : sortEntries others ≠ [] := fun none => by
      rw [none] at keys
      exact empty (List.map_eq_nil_iff.mp keys)
    refine lines_eq (kept sound) (kept sound') keys ?_
    have ends (lines : List Str) : scalars ((str "\n").intercalate lines ++ str "\n") =
        scalars ((str "\n").intercalate lines) ++ ['\n'] :=
      scalars_append _ fun unit first => by cases first; rfl
    rw [← intercalate_append _ (by simpa using empty), ← intercalate_append _ (by simpa using empty'),
      ends, ends]
    exact congrArg (· ++ ['\n']) (Utf8.encode_injective same)

end KnownKeys

theorem pairs_subset (collisionFree : CollisionFree shortest sha256 document other)
    (sound : ∀ entry ∈ document.entries, Sound shortest sha256 entry)
    (sound' : ∀ entry ∈ other.entries, Sound shortest sha256 entry)
    (lines : (sortEntries document.entries).map exportLine =
      (sortEntries other.entries).map exportLine) :
    document.pairs shortest ⊆ other.pairs shortest := by
  intro pair listed
  obtain ⟨entry, held, rfl⟩ := List.mem_map.mp listed
  have line := List.mem_map_of_mem (f := exportLine)
    ((sortEntries_perm document.entries).mem_iff.mpr held)
  rw [lines] at line
  obtain ⟨found, sorted, line⟩ := List.mem_map.mp line
  have held' := (sortEntries_perm other.entries).mem_iff.mp sorted
  have own := sound entry held
  have theirs := sound' found held'
  obtain ⟨keys, hashes⟩ := List.append_inj' line (theirs.size.trans own.size.symm)
  have values := collisionFree _ (List.mem_cons_of_mem _ (List.mem_map_of_mem held)) _
    (List.mem_cons_of_mem _ (List.mem_map_of_mem held'))
    (Utf16.encode_injective (own.hash.trans (hashes.symm.trans theirs.hash.symm)))
  rw [Utf16.bytes_encode, Utf16.bytes_encode] at values
  exact List.mem_map.mpr ⟨found, held',
    Prod.ext (List.append_cancel_right keys) (Utf8.encode_injective values).symm⟩

theorem keys_of_pairs (shortest : Number → List Char) (document : CoordinatorStateExport) :
    document.keys = Prod.fst '' document.pairs shortest := by
  ext key
  simp [CoordinatorStateExport.keys, CoordinatorStateExport.pairs]

end Binding

section Samples

def noText (_ : Number) : List Char := []

/-- Tells the texts of `null`, of `false`, of an object and of an export apart. -/
def sampleHash (bytes : List UInt8) : List Char :=
  List.replicate 64 (if bytes.length = 4 then 'a' else if bytes.length = 5 then 'b'
    else if bytes.length < 64 then 'c' else 'd')

def sampleEntry (key : Str) (value : Value) : CoordinatorExportEntry :=
  ⟨key, value, valueSha256 noText sampleHash value⟩

def sampleInput (entries : List CoordinatorExportEntry) : Value :=
  .object [(str "kind", .string (str "crabbox-coordinator-export")),
    (str "version", .number (.integer 1)), (str "entryCount", .number (.integer entries.length)),
    (str "digest", .string (exportDigest sampleHash entries)),
    (str "entries", .array (entries.map fun entry => .object [(str "key", .string entry.key),
      (str "value", entry.value), (str "sha256", .string entry.sha256)]))]

def sampleExport (entries : List CoordinatorExportEntry) : CoordinatorStateExport :=
  ⟨[], entries.length, exportDigest sampleHash entries, sortEntries entries⟩

def twoKeys : List CoordinatorExportEntry :=
  [sampleEntry (str "a") .null, sampleEntry (str "b") (.bool false)]

/-- The key is the first line of `twoKeys` and the start of the second. -/
def brokenKey : List CoordinatorExportEntry :=
  [sampleEntry (exportLine (sampleEntry (str "a") .null) ++ str "\nb") (.bool false)]

/-- The object with the members set in this order. -/
def sampleObject (keys : List String) : Value :=
  .object (Value.assemble (keys.map fun key => (str key, .null)))

/-- Array indices are listed by their number, here and in the canonical form. -/
example : sampleObject ["x", "10", "9"] = .object
    [(str "9", .null), (str "10", .null), (str "x", .null)] := rfl

def listedFirst : List CoordinatorExportEntry :=
  [sampleEntry (str "a") .null, sampleEntry (str "b") (sampleObject ["x", "10", "9", "y"])]

/-- The same state, with the entries and the members of an object in another order. -/
def listedLast : List CoordinatorExportEntry :=
  [sampleEntry (str "b") (sampleObject ["y", "9", "x", "10"]), sampleEntry (str "a") .null]

end Samples

end Crabedence.Worker
