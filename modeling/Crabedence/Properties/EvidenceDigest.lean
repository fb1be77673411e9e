import Crabedence.Properties.SigningPayload
import Crabedence.Worker.Evidence

/-!
# What the evidence digest covers

Both languages hash the same bytes for a record of valid strings and safe integers, and the bytes
determine the record up to the digest itself.
-/

namespace Crabedence.Worker

open Attest Script
open Json (Node listed mem_listed map_listed sortMembers Escapes)

section Canonical

/-- A node of valid strings and safe integers that the worker reads as it is written, and whose
canonical form is the node itself. -/
structure Exchanged (node : Node ℤ Go.Str) : Prop where
  holds : node.Holds IsSafe Utf8.Valid
  settled : node.Keyed fun keys => Value.Settled (keys.map ofGo)
  stable : stableJSONValue (node.map Number.integer ofGo) = node.map Number.integer ofGo

theorem exchanged_bool (value : Bool) : Exchanged (.bool value) := ⟨.bool _, .bool _, rfl⟩

theorem exchanged_number {value : ℤ} (safe : IsSafe value) : Exchanged (.number value) :=
  ⟨.number safe, .number _, rfl⟩

theorem exchanged_string {text : Go.Str} (valid : Utf8.Valid text) : Exchanged (.string text) :=
  ⟨.string valid, .string _, rfl⟩

theorem exchanged_array {items : List (Node ℤ Go.Str)} (each : ∀ item ∈ items, Exchanged item) :
    Exchanged (.array items) where
  holds := .array fun item held => (each item held).holds
  settled := .array fun item held => (each item held).settled
  stable := by
    rw [Node.map_array, stableJSONValue, Node.fold_array, List.map_map]
    exact congrArg Node.array (List.map_congr_left fun item held => (each item held).stable)

variable {F : Type} {fields : Fields F} {member : F → Option (Node ℤ Go.Str)}

theorem sortedOrderedMap_eq (fields : Fields F) (member : F → Option (Node ℤ Go.Str)) :
    sortedOrderedMap fields member = .object (listed fields.goKey fields.sorted member) :=
  congrArg Node.object (fields.sortMembers_goKey member)

theorem sortedOrderedMap_map (fields : Fields F) (member : F → Option (Node ℤ Go.Str)) :
    (sortedOrderedMap fields member).map Number.integer ofGo =
      .object (listed fields.scriptKey fields.sorted fun field =>
        (member field).map (Node.map Number.integer ofGo)) := by
  rw [sortedOrderedMap_eq, Node.map_object]
  refine congrArg Node.object ((map_listed _ ofGo _ _ _).trans ?_)
  congr 1
  funext field
  exact ofGo_str _

theorem stable_listed {member : F → Option Value}
    (each : ∀ field value, member field = some value → stableJSONValue value = value) :
    stableJSONValue (.object (listed fields.scriptKey fields.sorted member)) =
      .object (listed fields.scriptKey fields.sorted member) := by
  have members : (listed fields.scriptKey fields.sorted member).map
      (fun member => (member.1, stableJSONValue member.2)) =
      listed fields.scriptKey fields.sorted member := by
    conv_rhs => rw [← List.map_id (listed fields.scriptKey fields.sorted member)]
    apply List.map_congr_left
    intro entry held
    obtain ⟨field, -, found, -⟩ := mem_listed.mp held
    rw [each field _ found]
    rfl
  rw [stableJSONValue, Node.fold_object]
  refine congrArg Node.object ((congrArg (fun members => Value.assemble (sortMembers members))
    members).trans ?_)
  rw [fields.sortMembers_scriptKey, Value.assemble_settled (fields.settled member)]

theorem exchanged_record (each : ∀ field node, member field = some node → Exchanged node) :
    Exchanged (sortedOrderedMap fields member) where
  holds := by
    rw [sortedOrderedMap_eq]
    refine .object (fun entry held => ?_) fun entry held => ?_
    · obtain ⟨field, -, -, named⟩ := mem_listed.mp held
      rw [← named]
      exact Go.valid_str _
    · obtain ⟨field, -, found, -⟩ := mem_listed.mp held
      exact (each field _ found).holds
  settled := by
    rw [sortedOrderedMap_eq]
    refine .object ?_ fun entry held => ?_
    · have keys := ofGo_listed fields.key fields.sorted member
      exact keys ▸ fields.settled member
    · obtain ⟨field, -, found, -⟩ := mem_listed.mp held
      exact (each field _ found).settled
  stable := by
    rw [sortedOrderedMap_map]
    refine stable_listed fun field value found => ?_
    obtain ⟨node, stored, rfl⟩ := Option.map_eq_some_iff.mp found
    exact (each field node stored).stable

end Canonical

section Text

theorem escapeSeparator_ascii (c : Char) (ascii : c.toNat < 128) : escapeSeparator c = [c] := by
  unfold escapeSeparator
  rw [if_neg (by omega), if_neg (by omega)]

theorem shortEscape_ascii {c letter : Char} (short : Json.shortEscape c = some letter) :
    letter.toNat < 128 := by
  unfold Json.shortEscape at short
  split_ifs at short <;> cases short <;> decide

theorem hexDigits_ascii (code : Nat) : ∀ c ∈ Json.hexDigits code, c.toNat < 128 := by
  have digit : ∀ value < 16, (Nat.digitChar value).toNat < 128 := by decide
  have small (value : Nat) : (Nat.digitChar (value % 16)).toNat < 128 :=
    digit _ (Nat.mod_lt _ (by decide))
  simp only [Json.hexDigits, List.forall_mem_cons, small, List.not_mem_nil, false_implies,
    implies_true, and_self]

theorem escapeSeparator_spellChar (c : Char) :
    (Escapes.minimal.spellChar c).flatMap escapeSeparator = Escapes.plain.spellChar c := by
  unfold Escapes.spellChar
  cases short : Json.shortEscape c with
  | some letter =>
    refine Node.flatMap_ascii escapeSeparator_ascii ?_
    simp [shortEscape_ascii short]
  | none =>
    by_cases control : c.toNat < 0x20
    · have coded : Escapes.minimal.byCode c = true := Escapes.minimal.control c control
      have coded' : Escapes.plain.byCode c = true := Escapes.plain.control c control
      rw [if_pos coded, if_pos coded']
      refine Node.flatMap_ascii escapeSeparator_ascii ?_
      exact List.forall_mem_cons.mpr ⟨by decide, List.forall_mem_cons.mpr ⟨by decide,
        hexDigits_ascii c.toNat⟩⟩
    · have raw : ¬ Escapes.minimal.byCode c = true := by simpa [Escapes.minimal] using control
      rw [if_neg raw, List.flatMap_cons, List.flatMap_nil, List.append_nil]
      simp only [escapeSeparator, Escapes.plain, Escapes.isSeparator, control, decide_false,
        Bool.false_or, Bool.or_eq_true, decide_eq_true_eq]
      by_cases line : c.toNat = 0x2028
      · rw [if_pos line, if_pos (.inl line), line]
        rfl
      · by_cases paragraph : c.toNat = 0x2029
        · rw [if_neg line, if_pos paragraph, if_pos (.inr paragraph), paragraph]
          rfl
        · rw [if_neg line, if_neg paragraph, if_neg (not_or.mpr ⟨line, paragraph⟩)]

theorem integerText_ascii (value : ℤ) : ∀ c ∈ Json.integerText value, c.toNat < 128 := by
  have digits := Json.digits_toDigits value.natAbs
  intro c held
  rcases List.mem_append.mp held with sign | digit
  · split_ifs at sign with negative
    · rw [List.mem_singleton.mp sign]
      decide
    · cases sign
  · have range := Json.digit_range (digits c digit)
    omega

theorem escapeJSONSeparators_stringify (shortest : Number → List Char) {node : Node ℤ Go.Str}
    (holds : node.Holds IsSafe Utf8.Valid) :
    escapeJSONSeparators (stringify shortest (node.map Number.integer ofGo)) =
      Go.marshalNoEscape node := by
  rw [escapeJSONSeparators, stringify, Node.print_map, Node.print_flatMap escapeSeparator_ascii]
  refine holds.print_congr (fun value safe => ?_) fun text valid => ?_
  · change (Number.text shortest (.integer value)).flatMap escapeSeparator = _
    rw [Number.text_integer shortest safe,
      Node.flatMap_ascii escapeSeparator_ascii (integerText_ascii value)]
    exact (Json.Number.text_ofInt value).symm
  · change (spellString (Utf16.encode (Utf8.chars text))).flatMap escapeSeparator =
      (Utf8.decode text).flatMap Escapes.plain.spell
    rw [spellString, Utf16.decode_encode, List.flatMap_map, List.flatMap_assoc,
      Utf8.decode_eq_chars valid, List.flatMap_map]
    exact List.flatMap_congr fun c _ => escapeSeparator_spellChar c

end Text

end Crabedence.Worker

namespace Crabedence.Attest

open Go Json

section Portability

def RunnerPhase.strings (p : RunnerPhase) : List Str :=
  [p.name, p.reason, p.provider, p.leaseID, p.slug, p.runID, p.machineType]

def RunnerPhase.integers (p : RunnerPhase) : List Int64 := [p.ms, p.transferCount, p.transferBytes]

def TimingPhase.strings (p : TimingPhase) : List Str := [p.name, p.reason]

def RunEvidenceArtifact.strings (a : RunEvidenceArtifact) : List Str := [a.kind, a.path, a.sha256]

def RunEvidenceV1.strings (ev : RunEvidenceV1) : List Str :=
  [ev.evidenceType, ev.provider, ev.leaseID, ev.slug, ev.runID, ev.label, ev.machineType,
    ev.runStatus, ev.errorKind, ev.commandText, ev.syncMode, ev.syncFallbackReason,
    ev.blockedStage, ev.resourceExhaustion, ev.retryLikely, ev.failureHint, ev.startedAt,
    ev.endedAt, ev.digest] ++
    ev.runnerPhases.flatMap RunnerPhase.strings ++ ev.syncPhases.flatMap TimingPhase.strings ++
    ev.commandPhases.flatMap TimingPhase.strings ++
    ev.artifacts.flatMap RunEvidenceArtifact.strings ++ ev.startupConfirm.toList.map (·.stage)

def RunEvidenceV1.integers (ev : RunEvidenceV1) : List Int64 :=
  [ev.schemaVersion, ev.exitCode, ev.totalMs, ev.commandMs, ev.syncMs, ev.runnerTotalMs,
    ev.endToEndMs, ev.leaseMs, ev.bootstrapMs, ev.hydrateMs, ev.probeMs, ev.syncTransferFiles,
    ev.syncTransferBytes] ++
    ev.runnerPhases.flatMap RunnerPhase.integers ++ ev.syncPhases.map (·.ms) ++
    ev.commandPhases.map (·.ms) ++ ev.artifacts.map (·.bytes) ++
    ev.startupConfirm.toList.map (·.durationMs)

def RunEvidenceV1.Portable (ev : RunEvidenceV1) : Prop :=
  (∀ text ∈ ev.strings, Utf8.Valid text) ∧ ∀ value ∈ ev.integers, Script.IsSafe value.toInt

end Portability

section Members

variable {A : Type} {node : Node ℤ Str} {ev : RunEvidenceV1}

theorem exchanged_omitEmpty {text : Str} (valid : Utf8.Valid text)
    (present : omitEmpty text = some node) : Worker.Exchanged node := by
  unfold omitEmpty at present
  split_ifs at present
  cases present
  exact Worker.exchanged_string valid

theorem exchanged_omitZero {value : Int64} (safe : Script.IsSafe value.toInt)
    (present : omitZero value = some node) : Worker.Exchanged node := by
  unfold omitZero at present
  split_ifs at present
  cases present
  exact Worker.exchanged_number safe

theorem exchanged_omitFalse {value : Bool} (present : omitFalse value = some node) :
    Worker.Exchanged node := by
  unfold omitFalse at present
  split_ifs at present
  cases present
  exact Worker.exchanged_bool true

theorem exchanged_omitNil {canonical : A → Node ℤ Str} {items : List A}
    (each : ∀ item ∈ items, Worker.Exchanged (canonical item))
    (present : omitNil canonical items = some node) : Worker.Exchanged node := by
  unfold omitNil at present
  split_ifs at present
  cases present
  exact Worker.exchanged_array (List.forall_mem_map.mpr each)

theorem exchanged_runnerPhase {p : RunnerPhase} (strings : ∀ text ∈ p.strings, Utf8.Valid text)
    (integers : ∀ value ∈ p.integers, Script.IsSafe value.toInt) :
    Worker.Exchanged (runnerPhaseCanonical p) := by
  simp only [RunnerPhase.strings, RunnerPhase.integers, List.forall_mem_cons, List.not_mem_nil,
    false_implies, implies_true, and_true] at strings integers
  obtain ⟨name, reason, provider, leaseID, slug, runID, machineType⟩ := strings
  obtain ⟨ms, transferCount, transferBytes⟩ := integers
  refine Worker.exchanged_record fun field node present => ?_
  cases field with
  | name =>
    cases present
    exact Worker.exchanged_string name
  | ms =>
    cases present
    exact Worker.exchanged_number ms
  | opaqueTime => exact exchanged_omitFalse present
  | reason => exact exchanged_omitEmpty reason present
  | provider => exact exchanged_omitEmpty provider present
  | leaseID => exact exchanged_omitEmpty leaseID present
  | slug => exact exchanged_omitEmpty slug present
  | runID => exact exchanged_omitEmpty runID present
  | machineType => exact exchanged_omitEmpty machineType present
  | transferCount => exact exchanged_omitZero transferCount present
  | transferBytes => exact exchanged_omitZero transferBytes present

theorem exchanged_timingPhase {p : TimingPhase} (strings : ∀ text ∈ p.strings, Utf8.Valid text)
    (ms : Script.IsSafe p.ms.toInt) : Worker.Exchanged (timingPhaseCanonical p) := by
  simp only [TimingPhase.strings, List.forall_mem_cons, List.not_mem_nil, false_implies,
    implies_true, and_true] at strings
  refine Worker.exchanged_record fun field node present => ?_
  cases field with
  | name =>
    cases present
    exact Worker.exchanged_string strings.1
  | ms => exact exchanged_omitZero ms present
  | skipped => exact exchanged_omitFalse present
  | reason => exact exchanged_omitEmpty strings.2 present

theorem exchanged_artifact {a : RunEvidenceArtifact}
    (strings : ∀ text ∈ a.strings, Utf8.Valid text) (bytes : Script.IsSafe a.bytes.toInt) :
    Worker.Exchanged (runEvidenceArtifactCanonical a) := by
  simp only [RunEvidenceArtifact.strings, List.forall_mem_cons, List.not_mem_nil, false_implies,
    implies_true, and_true] at strings
  refine Worker.exchanged_record fun field node present => ?_
  cases field with
  | kind =>
    cases present
    exact Worker.exchanged_string strings.1
  | path =>
    cases present
    exact Worker.exchanged_string strings.2.1
  | bytes => exact exchanged_omitZero bytes present
  | sha256 => exact exchanged_omitEmpty strings.2.2 present

theorem exchanged_startupConfirm {sc : RunEvidenceStartupConfirm} (stage : Utf8.Valid sc.stage)
    (durationMs : Script.IsSafe sc.durationMs.toInt) :
    Worker.Exchanged (startupConfirmCanonical sc) := by
  refine Worker.exchanged_record fun field node present => ?_
  cases field with
  | stage =>
    cases present
    exact Worker.exchanged_string stage
  | durationMs =>
    cases present
    exact Worker.exchanged_number durationMs
  | ready =>
    cases present
    exact Worker.exchanged_bool sc.ready
  | processExited | retryable => exact exchanged_omitFalse present

theorem RunEvidenceV1.Portable.member (portable : ev.Portable)
    {field : EvidenceField} (present : ev.member field = some node) : Worker.Exchanged node := by
  obtain ⟨strings, integers⟩ := portable
  have text {value : Str} (held : value ∈ ev.strings) := strings value held
  have integer {value : Int64} (held : value ∈ ev.integers) := integers value held
  cases field
  case syncDelegated | syncSkipped =>
    exact exchanged_omitFalse present
  case evidenceType | provider | runStatus | digest =>
    cases present
    exact Worker.exchanged_string (text (by simp [RunEvidenceV1.strings]))
  case schemaVersion | exitCode | totalMs | commandMs | syncMs =>
    cases present
    exact Worker.exchanged_number (integer (by simp [RunEvidenceV1.integers]))
  case runnerTotalMs | endToEndMs | leaseMs | bootstrapMs | hydrateMs | probeMs
      | syncTransferFiles | syncTransferBytes =>
    exact exchanged_omitZero (integer (by simp [RunEvidenceV1.integers])) present
  case runnerPhases =>
    refine exchanged_omitNil (fun p held => ?_) present
    refine exchanged_runnerPhase (fun value listed => text ?_) fun value listed => integer ?_
    · simp only [RunEvidenceV1.strings, List.mem_append, List.mem_flatMap]
      exact .inl (.inl (.inl (.inl (.inr ⟨p, held, listed⟩))))
    · simp only [RunEvidenceV1.integers, List.mem_append, List.mem_flatMap]
      exact .inl (.inl (.inl (.inl (.inr ⟨p, held, listed⟩))))
  case syncPhases =>
    refine exchanged_omitNil (fun p held => ?_) present
    refine exchanged_timingPhase (fun value listed => text ?_) (integer ?_)
    · simp only [RunEvidenceV1.strings, List.mem_append, List.mem_flatMap]
      exact .inl (.inl (.inl (.inr ⟨p, held, listed⟩)))
    · simp only [RunEvidenceV1.integers, List.mem_append, List.mem_map]
      exact .inl (.inl (.inl (.inr ⟨p, held, rfl⟩)))
  case commandPhases =>
    refine exchanged_omitNil (fun p held => ?_) present
    refine exchanged_timingPhase (fun value listed => text ?_) (integer ?_)
    · simp only [RunEvidenceV1.strings, List.mem_append, List.mem_flatMap]
      exact .inl (.inl (.inr ⟨p, held, listed⟩))
    · simp only [RunEvidenceV1.integers, List.mem_append, List.mem_map]
      exact .inl (.inl (.inr ⟨p, held, rfl⟩))
  case artifacts =>
    refine exchanged_omitNil (fun a held => ?_) present
    refine exchanged_artifact (fun value listed => text ?_) (integer ?_)
    · simp only [RunEvidenceV1.strings, List.mem_append, List.mem_flatMap]
      exact .inl (.inr ⟨a, held, listed⟩)
    · simp only [RunEvidenceV1.integers, List.mem_append, List.mem_map]
      exact .inl (.inr ⟨a, held, rfl⟩)
  case startupConfirm =>
    obtain ⟨sc, stored, rfl⟩ := Option.map_eq_some_iff.mp present
    refine exchanged_startupConfirm (text ?_) (integer ?_)
    · simp [RunEvidenceV1.strings, stored]
    · simp [RunEvidenceV1.integers, stored]
  all_goals exact exchanged_omitEmpty (text (by simp [RunEvidenceV1.strings])) present

theorem RunEvidenceV1.Portable.exchanged (portable : ev.Portable) :
    Worker.Exchanged (evidenceToOrderedMap ev) :=
  Worker.exchanged_record fun _ _ => portable.member

end Members

variable {ev other : RunEvidenceV1}

section Digest

theorem hexEncode_ascii (data : List UInt8) : ∀ byte ∈ hexEncode data, byte.toNat < 128 :=
  hexEncode_forall (by decide +kernel) data

theorem RunEvidenceV1.Portable.digest (portable : ev.Portable) {digest : Str}
    (valid : Utf8.Valid digest) : { ev with digest := digest }.Portable := by
  refine ⟨fun text held => ?_, portable.2⟩
  have cases : text = digest ∨ text ∈ ev.strings := by
    simp only [RunEvidenceV1.strings, List.mem_append, List.mem_cons] at held ⊢
    tauto
  rcases cases with rfl | kept
  · exact valid
  · exact portable.1 text kept

theorem RunEvidenceV1.Portable.withDigest (portable : ev.Portable) (crypto : Crypto) :
    (ev.withDigest crypto).Portable := by
  unfold RunEvidenceV1.withDigest
  split_ifs
  · exact portable.digest (Utf8.valid_ascii (hexEncode_ascii _))
  · exact portable

theorem hashedBytes_withDigest (crypto : Crypto) (ev : RunEvidenceV1) :
    (ev.withDigest crypto).hashedBytes = ev.hashedBytes := by
  unfold RunEvidenceV1.withDigest
  split_ifs <;> rfl

theorem member_cleared (ev : RunEvidenceV1) (field : EvidenceField) :
    { ev with digest := [] }.member field =
      if field = .digest then some (.string []) else ev.member field := by
  cases field <;> rfl

theorem withoutDigest_map (ev : RunEvidenceV1) :
    Worker.withoutDigest ((evidenceToOrderedMap ev).map Script.Number.integer Script.ofGo) =
      (evidenceToOrderedMap { ev with digest := [] }).map Script.Number.integer Script.ofGo := by
  have cleared := @Script.Fields.assign_listed _ evidenceFields _
    (fun field => (ev.member field).map (Node.map Script.Number.integer Script.ofGo)) .digest rfl
    (.string [])
  unfold evidenceToOrderedMap
  rw [Worker.sortedOrderedMap_map, Worker.sortedOrderedMap_map]
  refine congrArg Node.object (cleared.trans ?_)
  congr 1
  funext field
  rw [member_cleared]
  split_ifs <;> rfl

theorem evidenceBytes_map (library : Worker.ScriptLibrary) (portable : ev.Portable) :
    Worker.evidenceBytes library
        ((evidenceToOrderedMap ev).map Script.Number.integer Script.ofGo) = ev.hashedBytes := by
  have exchanged := (portable.digest (show Utf8.Valid [] by decide)).exchanged
  rw [Worker.evidenceBytes, withoutDigest_map, exchanged.stable,
    Worker.escapeJSONSeparators_stringify library.shortest exchanged.holds]
  rfl

theorem parse_evidence (portable : ev.Portable) :
    Script.parse (Utf8.chars (canonicalEvidenceJSON ev)) =
      some ((evidenceToOrderedMap ev).map Script.Number.integer Script.ofGo) := by
  rw [canonicalEvidenceJSON, Utf8.chars_encode]
  exact Script.parse_jsonSpelling .plain portable.exchanged.settled portable.exchanged.holds

end Digest

section Injectivity

theorem omitEmpty_injective : Function.Injective omitEmpty := by
  intro text other same
  unfold omitEmpty at same
  split_ifs at same with first second
  · rw [first, second]
  · exact Node.string.inj (Option.some.inj same)

theorem omitZero_injective : Function.Injective omitZero := by
  intro value other same
  unfold omitZero at same
  split_ifs at same with first second
  · rw [first, second]
  · exact Int64.toInt_inj.mp (Node.number.inj (Option.some.inj same))

theorem omitFalse_injective : Function.Injective omitFalse := by
  intro value other same
  cases value <;> cases other <;> first | rfl | cases same

theorem omitNil_injective {A : Type} {canonical : A → Node ℤ Str}
    (injective : Function.Injective canonical) : Function.Injective (omitNil canonical) := by
  intro items others same
  unfold omitNil at same
  split_ifs at same with first second
  · rw [first, second]
  · exact List.map_injective_iff.mpr injective (Node.array.inj (Option.some.inj same))

theorem some_string_injective : Function.Injective fun text : Str =>
    some (Node.string text : Node ℤ Str) := fun _ _ same => Node.string.inj (Option.some.inj same)

theorem some_number_injective : Function.Injective fun value : Int64 =>
    some (Node.number value.toInt : Node ℤ Str) :=
  fun _ _ same => Int64.toInt_inj.mp (Node.number.inj (Option.some.inj same))

theorem sortedOrderedMap_inj {F : Type} {fields : Script.Fields F}
    {member other : F → Option (Node ℤ Str)}
    (same : sortedOrderedMap fields member = sortedOrderedMap fields other) (field : F) :
    member field = other field := by
  rw [Worker.sortedOrderedMap_eq, Worker.sortedOrderedMap_eq] at same
  have found (value : F → Option (Node ℤ Str)) := lookup_listed fields.goKey_injective
    fields.sorted_distinct value (fields.mem_sorted field)
  rw [← found member, Node.object.inj same, found other]

theorem runnerPhaseCanonical_injective : Function.Injective runnerPhaseCanonical := by
  intro p q same
  have field := sortedOrderedMap_inj same
  rw [RunnerPhase.mk.injEq]
  exact ⟨some_string_injective (field .name), some_number_injective (field .ms),
    omitFalse_injective (field .opaqueTime), omitEmpty_injective (field .reason),
    omitEmpty_injective (field .provider), omitEmpty_injective (field .leaseID),
    omitEmpty_injective (field .slug), omitEmpty_injective (field .runID),
    omitEmpty_injective (field .machineType), omitZero_injective (field .transferCount),
    omitZero_injective (field .transferBytes)⟩

theorem timingPhaseCanonical_injective : Function.Injective timingPhaseCanonical := by
  intro p q same
  have field := sortedOrderedMap_inj same
  rw [TimingPhase.mk.injEq]
  exact ⟨some_string_injective (field .name), omitZero_injective (field .ms),
    omitFalse_injective (field .skipped), omitEmpty_injective (field .reason)⟩

theorem runEvidenceArtifactCanonical_injective :
    Function.Injective runEvidenceArtifactCanonical := by
  intro a b same
  have field := sortedOrderedMap_inj same
  rw [RunEvidenceArtifact.mk.injEq]
  exact ⟨some_string_injective (field .kind), some_string_injective (field .path),
    omitZero_injective (field .bytes), omitEmpty_injective (field .sha256)⟩

theorem startupConfirmCanonical_injective : Function.Injective startupConfirmCanonical := by
  intro a b same
  have field := sortedOrderedMap_inj same
  rw [RunEvidenceStartupConfirm.mk.injEq]
  exact ⟨some_string_injective (field .stage), some_number_injective (field .durationMs),
    Node.bool.inj (Option.some.inj (field .ready)), omitFalse_injective (field .processExited),
    omitFalse_injective (field .retryable)⟩

theorem evidenceToOrderedMap_injective : Function.Injective evidenceToOrderedMap := by
  intro ev other same
  have field := sortedOrderedMap_inj same
  rw [RunEvidenceV1.mk.injEq]
  exact ⟨some_number_injective (field .schemaVersion), some_string_injective (field .evidenceType),
    some_string_injective (field .provider), omitEmpty_injective (field .leaseID),
    omitEmpty_injective (field .slug), omitEmpty_injective (field .runID),
    omitEmpty_injective (field .label), omitEmpty_injective (field .machineType),
    some_number_injective (field .exitCode), some_string_injective (field .runStatus),
    omitEmpty_injective (field .errorKind), omitEmpty_injective (field .commandText),
    some_number_injective (field .totalMs), some_number_injective (field .commandMs),
    some_number_injective (field .syncMs), omitZero_injective (field .runnerTotalMs),
    omitZero_injective (field .endToEndMs), omitZero_injective (field .leaseMs),
    omitZero_injective (field .bootstrapMs), omitZero_injective (field .hydrateMs),
    omitZero_injective (field .probeMs), omitFalse_injective (field .syncDelegated),
    omitFalse_injective (field .syncSkipped), omitEmpty_injective (field .syncMode),
    omitZero_injective (field .syncTransferFiles), omitZero_injective (field .syncTransferBytes),
    omitEmpty_injective (field .syncFallbackReason),
    omitNil_injective runnerPhaseCanonical_injective (field .runnerPhases),
    omitNil_injective timingPhaseCanonical_injective (field .syncPhases),
    omitNil_injective timingPhaseCanonical_injective (field .commandPhases),
    omitEmpty_injective (field .blockedStage), omitEmpty_injective (field .resourceExhaustion),
    omitEmpty_injective (field .retryLikely), omitEmpty_injective (field .failureHint),
    omitNil_injective runEvidenceArtifactCanonical_injective (field .artifacts),
    Option.map_injective startupConfirmCanonical_injective (field .startupConfirm),
    omitEmpty_injective (field .startedAt), omitEmpty_injective (field .endedAt),
    some_string_injective (field .digest)⟩

theorem marshalNoEscape_inj {node further : Node ℤ Str}
    (holds : node.Holds Script.IsSafe Utf8.Valid) (holds' : further.Holds Script.IsSafe Utf8.Valid)
    (same : marshalNoEscape node = marshalNoEscape further) : node = further := by
  have written := (jsonSpelling .plain).written_inj same
  have inverse {tree : Node ℤ Str} (valid : tree.Holds Script.IsSafe Utf8.Valid) :
      ((jsonSpelling .plain).written tree).map (fun literal => ⌊literal.value⌋)
        (fun pieces => Utf16.bytes (pieces.flatMap Script.units)) = tree := by
    refine valid.map_inverse (fun value _ => ?_) fun text spelled => ?_
    · change ⌊(Number.ofInt value).value⌋ = value
      rw [Number.value_ofInt, Int.floor_intCast]
    · rw [Script.units_jsonSpelling, Script.bytes_ofGo spelled]
  rw [← inverse holds, written, inverse holds']

theorem hashedBytes_inj (portable : ev.Portable) (portable' : other.Portable)
    (same : ev.hashedBytes = other.hashedBytes) :
    { ev with digest := [] } = { other with digest := [] } := by
  refine evidenceToOrderedMap_injective ?_
  exact marshalNoEscape_inj (portable.digest (by decide)).exchanged.holds
    (portable'.digest (by decide)).exchanged.holds (Utf8.encode_injective same)

end Injectivity

/-- Both languages hash the same bytes of a portable record, and the bytes determine the record up to
its digest. -/
theorem evidence_digest_agrees (crypto : Crypto) (library : Worker.ScriptLibrary) :
    (∀ ev : RunEvidenceV1, ev.Portable →
      (Script.parse (Utf8.chars (ev.marshalJSON crypto))).map (Worker.evidenceBytes library) =
        some ev.hashedBytes) ∧
    ∀ ev other : RunEvidenceV1, ev.Portable → other.Portable →
      ev.hashedBytes = other.hashedBytes →
      { ev with digest := [] } = { other with digest := [] } := by
  refine ⟨fun ev portable => ?_, fun ev other => hashedBytes_inj⟩
  have written := portable.withDigest crypto
  rw [RunEvidenceV1.marshalJSON, parse_evidence written, Option.map_some,
    evidenceBytes_map library written, hashedBytes_withDigest]

/-- The digest a record is printed with verifies, and of portable records that verify only equal ones
share a digest, unless their hashes collide. -/
theorem digest_guards_evidence (crypto : Crypto) (ev other : RunEvidenceV1) :
    (ev.digest = [] → verifyRunEvidenceDigest crypto (ev.withDigest crypto) = true) ∧
    (ev.Portable → other.Portable →
      (runEvidenceDigest crypto ev = runEvidenceDigest crypto other →
        ev.hashedBytes = other.hashedBytes) →
      verifyRunEvidenceDigest crypto ev = true → verifyRunEvidenceDigest crypto other = true →
      ev.digest = other.digest → ev = other) := by
  simp only [verifyRunEvidenceDigest, Bool.and_eq_true, decide_eq_true_eq]
  constructor
  · intro unset
    rw [RunEvidenceV1.withDigest, if_pos unset]
    refine ⟨rfl, fun empty => ?_⟩
    have size := crypto.sha256_length ev.hashedBytes
    have none : crypto.sha256 ev.hashedBytes = [] :=
      List.eq_nil_iff_forall_not_mem.mpr (by simpa [runEvidenceDigest, hexEncode] using empty)
    rw [none] at size
    cases size
  · intro portable portable' collisionFree verified verified' same
    have equal := hashedBytes_inj portable portable'
      (collisionFree (verified.1.symm.trans (same.trans verified'.1)))
    exact congrArg₂ (fun record digest => { record with digest := digest }) equal same

section Sample

/-- A failed run with a phase, an artifact and a line separator in its hint. -/
def sampleEvidence : RunEvidenceV1 where
  schemaVersion := 1
  evidenceType := str "run"
  provider := str "p"
  leaseID := []
  slug := []
  runID := str "r"
  label := []
  machineType := []
  exitCode := 1
  runStatus := str "failed"
  errorKind := []
  commandText := str "<c>"
  totalMs := 9007199254740991
  commandMs := 0
  syncMs := 0
  runnerTotalMs := 0
  endToEndMs := 0
  leaseMs := 0
  bootstrapMs := 0
  hydrateMs := 0
  probeMs := 0
  syncDelegated := false
  syncSkipped := true
  syncMode := []
  syncTransferFiles := 0
  syncTransferBytes := 0
  syncFallbackReason := []
  runnerPhases := []
  syncPhases := [⟨str "n", 0, true, []⟩]
  commandPhases := []
  blockedStage := []
  resourceExhaustion := []
  retryLikely := []
  failureHint := str "\u2028"
  artifacts := [⟨str "k", str "p", 1, []⟩]
  startupConfirm := none
  startedAt := []
  endedAt := []
  digest := []

theorem sampleEvidence_portable : sampleEvidence.Portable := by
  constructor <;> exact List.all_iff_forall_prop.mp (by decide)

/-- The record, and the same without its artifact. -/
theorem evidence_digest_agrees_sample :
    (Script.parse (Utf8.chars (sampleEvidence.marshalJSON sampleCrypto))).map
        (Worker.evidenceBytes sampleLibrary) = some sampleEvidence.hashedBytes ∧
      sampleEvidence.hashedBytes ≠ { sampleEvidence with artifacts := [] }.hashedBytes := by
  obtain ⟨agrees, injective⟩ := evidence_digest_agrees sampleCrypto sampleLibrary
  refine ⟨agrees _ sampleEvidence_portable, fun same => ?_⟩
  have bare : { sampleEvidence with artifacts := [] }.Portable := by
    constructor <;> exact List.all_iff_forall_prop.mp (by decide)
  have equal := injective _ _ sampleEvidence_portable bare same
  exact absurd (congrArg RunEvidenceV1.artifacts equal) (by decide)

/-- The record printed with its digest, and printed again. -/
theorem digest_guards_evidence_sample :
    verifyRunEvidenceDigest sampleCrypto (sampleEvidence.withDigest sampleCrypto) = true ∧
      sampleEvidence.withDigest sampleCrypto =
        { sampleEvidence.withDigest sampleCrypto with digest := [] }.withDigest sampleCrypto := by
  have printed := sampleEvidence_portable.withDigest sampleCrypto
  have again := (printed.digest (show Utf8.Valid [] by decide)).withDigest sampleCrypto
  have verified := (digest_guards_evidence sampleCrypto sampleEvidence sampleEvidence).1 rfl
  exact ⟨verified, (digest_guards_evidence sampleCrypto (sampleEvidence.withDigest sampleCrypto) _).2
    printed again (fun _ => rfl) verified
    ((digest_guards_evidence sampleCrypto _ sampleEvidence).1 rfl) rfl⟩

end Sample

end Crabedence.Attest
