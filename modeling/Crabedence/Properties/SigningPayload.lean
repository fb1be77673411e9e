import Crabedence.Script.Fields
import Crabedence.Text.Base64
import Crabedence.Worker.Receipt

/-!
# What a receipt's signature covers

The signed bytes of a valid receipt determine every field but the signature, and both languages sign
the same bytes.
-/

namespace Crabedence.Attest

open Checks Go Json

variable {crypto : Crypto} {go : GoLibrary} {r : TerminalRunReceipt}

section Acceptance

def TerminalRunReceipt.required (r : TerminalRunReceipt) : List (String × Str) :=
  [("started_at", r.startedAt), ("ended_at", r.endedAt), ("provider", r.provider),
    ("run_id", r.runID), ("command", r.command), ("command_sha256", r.commandSHA256),
    ("log_sha256", r.logSHA256), ("retained_log_sha256", r.retainedLogSHA256),
    ("public_key", r.publicKey), ("signer", r.signer)]

/-- What `validateTerminalRunReceipt` accepts. -/
structure TerminalRunReceipt.Valid (crypto : Crypto) (go : GoLibrary) (r : TerminalRunReceipt) :
    Prop where
  receiptType : r.receiptType = terminalReceiptType
  version : r.schemaVersion = terminalReceiptSchemaVersion ∨
    r.schemaVersion = terminalReceiptV2SchemaVersion
  required : ∀ field ∈ r.required,
    isBlank go field.2 = false ∧ field.2.length ≤ maxTerminalReceiptFieldBytes
  leaseID : r.leaseID.length ≤ maxTerminalReceiptIdentityBytes
  slug : r.slug.length ≤ maxTerminalReceiptIdentityBytes
  times : ∃ startedAt endedAt, go.parseTime r.startedAt = some startedAt ∧
    go.parseTime r.endedAt = some endedAt ∧ endedAt.before startedAt = false ∧
    r.durationMs.toInt = milliseconds (timeSub endedAt startedAt)
  natural : 0 ≤ r.exitCode ∧ 0 ≤ r.syncMs ∧ 0 ≤ r.commandMs ∧ 0 ≤ r.durationMs
  digests : validSHA256Digest r.commandSHA256 ∧ validSHA256Digest r.logSHA256 ∧
    validSHA256Digest r.retainedLogSHA256 ∧ validSHA256Digest r.signer
  evidence : r.evidenceSHA256 = [] ∧ r.schemaVersion = terminalReceiptV2SchemaVersion ∨
    validLowercaseHexDigest r.evidenceSHA256 32 ∧ r.schemaVersion = terminalReceiptSchemaVersion
  key : ∃ publicKey, go.decodeBase64 r.publicKey = some publicKey ∧ publicKey.length = 32 ∧
    r.signer = attestFingerprint crypto publicKey
  signature : r.signature = [] ∨
    ∃ signature, go.decodeBase64 r.signature = some signature ∧ signature.length = 64

theorem checkRequired_ok_iff {field : String × Str} : checkRequired go field = .ok () ↔
      isBlank go field.2 = false ∧ field.2.length ≤ maxTerminalReceiptFieldBytes := by
  simp only [checkRequired, bind_ok_iff, refuse_ok_iff, exists_const, Bool.not_eq_true, not_lt]

theorem checkSignature_ok_iff : checkSignature go r = .ok () ↔
      r.signature = [] ∨
      ∃ signature, go.decodeBase64 r.signature = some signature ∧ signature.length = 64 := by
  unfold checkSignature
  split_ifs with unsigned
  · exact iff_of_true rfl (.inl unsigned)
  · simp only [bind_ok_iff, obtainOr_ok_iff, refuse_ok_iff, not_not, unsigned, false_or]

theorem checkEvidenceDigest_ok_iff (version : r.schemaVersion = terminalReceiptSchemaVersion ∨
      r.schemaVersion = terminalReceiptV2SchemaVersion) : checkEvidenceDigest r = .ok () ↔
      r.evidenceSHA256 = [] ∧ r.schemaVersion = terminalReceiptV2SchemaVersion ∨
      validLowercaseHexDigest r.evidenceSHA256 32 ∧
        r.schemaVersion = terminalReceiptSchemaVersion := by
  have blank : validLowercaseHexDigest [] 32 = false := by decide
  unfold checkEvidenceDigest
  rcases version with latest | earlier
  · rw [latest]
    split_ifs with empty
    · rw [empty, blank, refuse_ok_iff]
      decide
    · have order : ¬ terminalReceiptSchemaVersion < terminalReceiptSchemaVersion := by decide
      have versions : terminalReceiptSchemaVersion ≠ terminalReceiptV2SchemaVersion := by decide
      simp [bind_ok_iff, refuse_ok_iff, order, versions]
  · rw [earlier]
    have versions : terminalReceiptV2SchemaVersion ≠ terminalReceiptSchemaVersion := by decide
    split_ifs with empty
    · rw [empty, refuse_ok_iff]
      decide
    · have order : terminalReceiptV2SchemaVersion < terminalReceiptSchemaVersion := by decide
      simp [bind_ok_iff, refuse_ok_iff, order, versions, empty]

theorem validateTerminalRunReceipt_ok_iff :
    validateTerminalRunReceipt crypto go r = .ok () ↔ r.Valid crypto go := by
  unfold validateTerminalRunReceipt
  simp only [bind_ok_iff, refuse_ok_iff, obtainOr_ok_iff, each_ok_iff, exists_const,
    checkRequired_ok_iff, checkSignature_ok_iff, checkIdentity, checkDigest, not_not, not_or,
    not_and_or, Bool.not_eq_true, Bool.not_eq_false, not_lt, Int64.not_lt]
  constructor
  · rintro ⟨kind, version, required, identities, startedAt, started, endedAt, ended, ordered,
      natural, duration, digests, _, evidence, publicKey, decoded, length, signer, signature⟩
    exact {
      receiptType := kind
      version := version
      required := required
      leaseID := identities ("lease_id", r.leaseID) (by simp)
      slug := identities ("slug", r.slug) (by simp)
      times := ⟨startedAt, endedAt, started, ended, ordered, duration⟩
      natural := natural
      digests := ⟨digests ("command_sha256", r.commandSHA256) (by simp),
        digests ("log_sha256", r.logSHA256) (by simp),
        digests ("retained_log_sha256", r.retainedLogSHA256) (by simp),
        digests ("signer", r.signer) (by simp)⟩
      evidence := (checkEvidenceDigest_ok_iff version).mp evidence
      key := ⟨publicKey, decoded, length, signer⟩
      signature := signature }
  · intro valid
    obtain ⟨startedAt, endedAt, started, ended, ordered, duration⟩ := valid.times
    obtain ⟨publicKey, decoded, length, signer⟩ := valid.key
    refine ⟨valid.receiptType, valid.version, valid.required, ?_, startedAt, started, endedAt, ended,
      ordered, valid.natural, duration, ?_, (),
      (checkEvidenceDigest_ok_iff valid.version).mpr valid.evidence, publicKey, decoded, length,
      signer, valid.signature⟩
    · simp [valid.leaseID, valid.slug]
    · simp [valid.digests]

end Acceptance

section Injectivity

variable {s : TerminalRunReceipt}

theorem formatInt_injective : Function.Injective formatInt := by
  intro value other same
  have texts := Utf8.encode_injective same
  rw [← Number.text_ofInt, ← Number.text_ofInt] at texts
  exact Int64.toInt_inj.mp (Number.ofInt_injective (Number.text_injective texts))

theorem formatBool_injective : Function.Injective formatBool := by
  intro value other same
  revert value other
  decide

theorem length_formatInt (value : Int64) : (formatInt value).length ≤ 100 := by
  have lower := Int64.le_toInt value
  have upper := Int64.toInt_lt value
  have digits : (Nat.toDigits 10 value.toInt.natAbs).length ≤ 20 :=
    (Nat.length_toDigits_le_iff (by decide) (by decide)).mpr (by omega)
  have sign : (integerText value.toInt).length ≤ 21 := by
    unfold integerText
    split_ifs <;> simp <;> omega
  have bytes := Utf8.length_encode_le (integerText value.toInt)
  unfold formatInt
  omega

theorem TerminalRunReceipt.Valid.fits (valid : r.Valid crypto go) :
    ∀ value ∈ r.signedValues, Framing.Fits value := by
  have required := valid.required
  have lease := valid.leaseID
  have slug := valid.slug
  have version := length_formatInt r.schemaVersion
  have exitCode := length_formatInt r.exitCode
  have syncMs := length_formatInt r.syncMs
  have commandMs := length_formatInt r.commandMs
  have durationMs := length_formatInt r.durationMs
  have boolean : (formatBool r.logTruncated).length ≤ 5 := by
    cases r.logTruncated <;> decide
  have evidence : r.evidenceSHA256.length ≤ 64 := by
    rcases valid.evidence with ⟨empty, -⟩ | ⟨digest, -⟩
    · rw [empty]
      exact Nat.zero_le _
    · rw [validLowercaseHexDigest, Bool.and_eq_true, decide_eq_true_eq] at digest
      exact digest.1.le
  have kind : r.receiptType.length = 8 := by
    rw [valid.receiptType]
    decide
  simp only [TerminalRunReceipt.required, List.forall_mem_cons, List.not_mem_nil, false_implies,
    implies_true, and_true, maxTerminalReceiptFieldBytes] at required
  unfold maxTerminalReceiptIdentityBytes at lease slug
  have all : ∀ value ∈ r.signedValues, value.length ≤ 4096 := by
    unfold TerminalRunReceipt.signedValues
    split_ifs <;>
      simp only [List.cons_append, List.nil_append, List.forall_mem_cons, List.not_mem_nil,
        false_implies, implies_true, and_true] <;>
      omega
  exact fun value held => (all value held).trans_lt (by decide)

theorem domain_length (r : TerminalRunReceipt) : r.domain.length = 28 := by
  unfold TerminalRunReceipt.domain
  split_ifs <;> decide

theorem domain_eq (valid : r.Valid crypto go) (valid' : s.Valid crypto go)
    (same : r.domain = s.domain) : r.schemaVersion = s.schemaVersion := by
  unfold TerminalRunReceipt.domain at same
  rcases valid.version with version | version <;> rcases valid'.version with version' | version' <;>
    rw [version, version'] at same ⊢
  · exact absurd same (by decide)
  · exact absurd same (by decide)

theorem signingBytes_inj (valid : r.Valid crypto go) (valid' : s.Valid crypto go)
    (same : terminalReceiptSigningBytes r = terminalReceiptSigningBytes s) :
    { r with signature := [] } = { s with signature := [] } := by
  obtain ⟨domains, frames⟩ := List.append_inj same (by rw [domain_length, domain_length])
  have version := domain_eq valid valid' domains
  have values := Framing.frames_inj valid.fits valid'.fits frames
  have unbound : ∀ {q : TerminalRunReceipt}, q.Valid crypto go →
      ¬ terminalReceiptSchemaVersion ≤ q.schemaVersion → q.evidenceSHA256 = [] := by
    intro q accepted earlier
    rcases accepted.evidence with ⟨empty, -⟩ | ⟨-, latest⟩
    · exact empty
    · rw [latest] at earlier
      exact absurd (by decide) earlier
  have none := unbound valid
  have none' := unbound valid'
  rw [TerminalRunReceipt.mk.injEq]
  unfold TerminalRunReceipt.signedValues at values
  rw [version] at values none
  split_ifs at values with latest <;>
    simp only [List.cons_append, List.nil_append, List.cons.injEq, formatInt_injective.eq_iff,
      formatBool_injective.eq_iff, and_true] at values <;>
    simp_all

theorem commandPayload_inj {command other : List Str}
    (short : ∀ argument ∈ command, argument.length < 2 ^ 32)
    (short' : ∀ argument ∈ other, argument.length < 2 ^ 32)
    (same : commandPayload command = commandPayload other) : command = other :=
  Framing.frames_inj short short' (List.append_cancel_left same)

end Injectivity

section Portability

def TerminalRunReceipt.strings (r : TerminalRunReceipt) : List Str :=
  [r.receiptType, r.startedAt, r.endedAt, r.provider, r.leaseID, r.slug, r.runID, r.command,
    r.commandSHA256, r.logSHA256, r.retainedLogSHA256, r.evidenceSHA256, r.publicKey, r.signer,
    r.signature]

def TerminalRunReceipt.integers (r : TerminalRunReceipt) : List Int64 :=
  [r.schemaVersion, r.exitCode, r.syncMs, r.commandMs, r.durationMs]

def TerminalRunReceipt.Portable (r : TerminalRunReceipt) : Prop :=
  (∀ text ∈ r.strings, Utf8.Valid text) ∧ ∀ value ∈ r.integers, Script.IsSafe value.toInt

/-- The text of a field as it is signed. -/
def TerminalRunReceipt.fieldText (r : TerminalRunReceipt) : ReceiptField → Str
  | .schemaVersion => formatInt r.schemaVersion
  | .receiptType => r.receiptType
  | .startedAt => r.startedAt
  | .endedAt => r.endedAt
  | .provider => r.provider
  | .leaseID => r.leaseID
  | .slug => r.slug
  | .runID => r.runID
  | .command => r.command
  | .commandSHA256 => r.commandSHA256
  | .exitCode => formatInt r.exitCode
  | .syncMs => formatInt r.syncMs
  | .commandMs => formatInt r.commandMs
  | .durationMs => formatInt r.durationMs
  | .logSHA256 => r.logSHA256
  | .retainedLogSHA256 => r.retainedLogSHA256
  | .logTruncated => formatBool r.logTruncated
  | .evidenceSHA256 => r.evidenceSHA256
  | .publicKey => r.publicKey
  | .signer => r.signer
  | .signature => r.signature

theorem signedValues_eq (r : TerminalRunReceipt) :
    r.signedValues = (if terminalReceiptSchemaVersion ≤ r.schemaVersion then
      Worker.terminalReceiptSigningFields else Worker.terminalReceiptSigningFields.filter
        fun field => decide (field ≠ .evidenceSHA256)).map r.fieldText := by
  unfold TerminalRunReceipt.signedValues
  split_ifs <;> rfl

variable {tree : Node ℤ Str} {field : ReceiptField}

theorem omitEmpty_holds {number : ℤ → Prop} {valid : Str → Prop} {text : Str} (held : valid text)
    (present : omitEmpty text = some tree) : tree.Holds number valid := by
  unfold omitEmpty at present
  split_ifs at present
  cases present
  exact .string held

theorem TerminalRunReceipt.Portable.member (portable : r.Portable)
    (present : r.member field = some tree) : tree.Holds Script.IsSafe Utf8.Valid := by
  obtain ⟨strings, integers⟩ := portable
  simp only [TerminalRunReceipt.strings, TerminalRunReceipt.integers, List.forall_mem_cons,
    List.not_mem_nil, false_implies, implies_true, and_true] at strings integers
  cases field
  case leaseID => exact omitEmpty_holds strings.2.2.2.2.1 present
  case slug => exact omitEmpty_holds strings.2.2.2.2.2.1 present
  case evidenceSHA256 => exact omitEmpty_holds (by simp [strings]) present
  case logTruncated =>
    cases present
    exact .bool _
  all_goals
    cases present
    first
      | exact .number (by simp [integers])
      | exact .string (by simp [strings])

theorem member_keyed {required : List Str → Prop} (present : r.member field = some tree) :
    tree.Keyed required := by
  have text {value : Str} (given : omitEmpty value = some tree) : tree.Keyed required := by
    unfold omitEmpty at given
    split_ifs at given
    cases given
    exact .string _
  cases field
  case leaseID => exact text present
  case slug => exact text present
  case evidenceSHA256 => exact text present
  all_goals
    cases present
    constructor

theorem parse_receipt (portable : r.Portable) :
    Script.parse (Go.marshal r.tree) = some (r.tree.map Script.Number.integer Script.ofGo) := by
  refine Script.parse_jsonSpelling .html (.object ?_ fun member held => ?_)
    (.object (fun member held => ?_) fun member held => ?_)
  · have keys := Script.ofGo_listed ReceiptField.name ReceiptField.all r.member
    exact keys ▸ Script.settled_listed r.member ReceiptField.name_injective (by decide) (by decide)
  · obtain ⟨field, -, present, -⟩ := mem_listed.mp held
    exact member_keyed present
  · obtain ⟨field, -, -, named⟩ := mem_listed.mp held
    rw [← named]
    exact valid_str _
  · obtain ⟨field, -, present, -⟩ := mem_listed.mp held
    exact portable.member present

end Portability

end Crabedence.Attest

namespace Crabedence.Worker

open Attest Script
open Json (Node listed lookup_listed map_listed)

variable {r : TerminalRunReceipt}

theorem key_injective : Function.Injective key := fun _ _ same =>
  ReceiptField.name_injective (String.toList_injective (Utf16.encode_injective same))

theorem field_tree (r : TerminalRunReceipt) (name : ReceiptField) :
    field (r.tree.map Number.integer ofGo) name =
      (r.member name).map (Node.map Number.integer ofGo) := by
  have members : r.tree.map Number.integer ofGo =
      .object (listed key ReceiptField.all fun field =>
        (r.member field).map (Node.map Number.integer ofGo)) := by
    rw [TerminalRunReceipt.tree, Node.map_object]
    refine congrArg Node.object ((map_listed _ ofGo _ _ _).trans ?_)
    congr 1
    funext field
    exact ofGo_str field.name
  rw [members]
  exact lookup_listed key_injective (by decide) _ (ReceiptField.complete name)

theorem atLeast_integer (value bound : ℤ) :
    Value.atLeast (some (.number (.integer value))) bound = decide (bound ≤ value) := by
  simp [Value.atLeast, Number.integer]

variable (shortest : Number → List Char)

theorem bytes_toText_omitEmpty {text : Go.Str} (valid : Utf8.Valid text) :
    Utf16.bytes (Value.toText shortest
      (((omitEmpty text).map (Node.map Number.integer ofGo)).getD .null)) = text := by
  unfold omitEmpty
  split_ifs with empty
  · rw [empty]
    rfl
  · exact bytes_ofGo valid

theorem bytes_toText_integer {value : Int64} (safe : IsSafe value.toInt) :
    Utf16.bytes (Value.toText shortest (.number (.integer value.toInt))) = formatInt value := by
  change Utf16.bytes (Utf16.encode ((Number.integer value.toInt).text shortest)) = _
  rw [Number.text_integer shortest safe, Utf16.bytes_encode]
  rfl

theorem bytes_toText_string {text : Go.Str} (valid : Utf8.Valid text) :
    Utf16.bytes (Value.toText shortest (.string (ofGo text))) = text :=
  bytes_ofGo valid

theorem bytes_toText (library : ScriptLibrary) (portable : r.Portable) (name : ReceiptField) :
    Utf16.bytes (Value.toText library.shortest
      (((r.member name).map (Node.map Number.integer ofGo)).getD .null)) = r.fieldText name := by
  obtain ⟨strings, integers⟩ := portable
  simp only [TerminalRunReceipt.strings, TerminalRunReceipt.integers, List.forall_mem_cons,
    List.not_mem_nil, false_implies, implies_true, and_true] at strings integers
  cases name
  case leaseID => exact bytes_toText_omitEmpty _ (by simp [strings])
  case slug => exact bytes_toText_omitEmpty _ (by simp [strings])
  case evidenceSHA256 => exact bytes_toText_omitEmpty _ (by simp [strings])
  case logTruncated =>
    change Utf16.bytes (booleanText r.logTruncated) = formatBool r.logTruncated
    cases r.logTruncated <;> exact Utf16.bytes_encode _
  case schemaVersion | exitCode | syncMs | commandMs | durationMs =>
    exact bytes_toText_integer _ (by simp [integers])
  all_goals exact bytes_toText_string _ (by simp [strings])

theorem signingBytes_tree (library : ScriptLibrary) (portable : r.Portable) :
    terminalReceiptSigningBytes library (r.tree.map Number.integer ofGo) =
      Attest.terminalReceiptSigningBytes r := by
  have version : field (r.tree.map Number.integer ofGo) .schemaVersion =
      some (.number (.integer r.schemaVersion.toInt)) := field_tree r .schemaVersion
  have latest : 3 ≤ r.schemaVersion.toInt ↔
      Attest.terminalReceiptSchemaVersion ≤ r.schemaVersion := by
    rw [Int64.le_iff_toInt_le]
    rfl
  have texts (fields : List ReceiptField) :
      (fields.map fun name => Value.toText library.shortest
        ((field (r.tree.map Number.integer ofGo) name).getD .null)).map Utf16.bytes =
        fields.map r.fieldText := by
    rw [List.map_map]
    apply List.map_congr_left
    intro name _
    rw [Function.comp_apply, field_tree, bytes_toText library portable]
  rw [terminalReceiptSigningBytes, Attest.terminalReceiptSigningBytes, signedValues_eq,
    lengthPrefixedPayload, lengthPrefixedBytes, texts, version, atLeast_integer]
  unfold TerminalRunReceipt.domain
  simp only [decide_eq_true_eq, latest]
  split_ifs <;> rw [Utf16.str, Utf16.bytes_encode] <;> rfl

theorem commandPayload_ofGo {command : List Go.Str}
    (valid : ∀ argument ∈ command, Utf8.Valid argument) :
    commandPayload (command.map ofGo) = Attest.commandPayload command := by
  have arguments : (command.map ofGo).map Utf16.bytes = command := by
    rw [List.map_map]
    conv_rhs => rw [← List.map_id command]
    exact List.map_congr_left fun argument held => bytes_ofGo (valid argument held)
  rw [commandPayload, lengthPrefixedPayload, arguments, Utf16.str, Utf16.bytes_encode]
  rfl

end Crabedence.Worker

namespace Crabedence.Attest

/-- The signed bytes determine a valid receipt up to its signature, and the worker signs the same
bytes; so with the bytes a command is hashed from. -/
theorem signing_payload_binds (crypto : Crypto) (go : GoLibrary) (library : Worker.ScriptLibrary) :
    (∀ r s : TerminalRunReceipt, validateTerminalRunReceipt crypto go r = .ok () →
      validateTerminalRunReceipt crypto go s = .ok () →
      (terminalReceiptSigningBytes r = terminalReceiptSigningBytes s ↔
        { r with signature := [] } = { s with signature := [] })) ∧
    (∀ r : TerminalRunReceipt, validateTerminalRunReceipt crypto go r = .ok () → r.Portable →
      (Script.parse (Go.marshal r.tree)).map (Worker.terminalReceiptSigningBytes library) =
        some (terminalReceiptSigningBytes r)) ∧
    (∀ command : List Go.Str, (∀ argument ∈ command, Utf8.Valid argument) →
      Worker.commandPayload (command.map Script.ofGo) = commandPayload command) ∧
    ∀ command other : List Go.Str,
      (∀ argument ∈ command, Utf8.Valid argument ∧ argument.length < 2 ^ 32) →
      (∀ argument ∈ other, Utf8.Valid argument ∧ argument.length < 2 ^ 32) →
      commandPayload command = commandPayload other → command = other := by
  refine ⟨fun r s accepted accepted' => ?_, fun r _ portable => ?_,
    fun command valid => Worker.commandPayload_ofGo valid,
    fun command other short short' => commandPayload_inj (fun argument held => (short _ held).2)
      fun argument held => (short' _ held).2⟩
  · constructor
    · exact signingBytes_inj (validateTerminalRunReceipt_ok_iff.mp accepted)
        (validateTerminalRunReceipt_ok_iff.mp accepted')
    · intro same
      have bytes := congrArg terminalReceiptSigningBytes same
      exact bytes
  · rw [parse_receipt portable, Option.map_some, Worker.signingBytes_tree library portable]

section Sample

/-- A key of zeros. -/
def sampleKey : List UInt8 := List.replicate 32 0

/-- The SHA-256 of the key; of other data it tells the lengths apart. -/
def sampleCrypto : Crypto where
  sha256 := fun data => if data = sampleKey then
      [0x66, 0x68, 0x7a, 0xad, 0xf8, 0x62, 0xbd, 0x77, 0x6c, 0x8f, 0xc1, 0x8b, 0x8e, 0x9f, 0x8e, 0x20,
        0x08, 0x97, 0x14, 0x85, 0x6e, 0xe2, 0x33, 0xb3, 0x90, 0x2a, 0x59, 0x1d, 0x0d, 0x5f, 0x29, 0x25]
    else List.replicate 28 0 ++ Framing.header data.length
  sha256_length := fun _ => by split_ifs <;> rfl

/-- Reads the texts of the receipt as the library does. -/
def sampleGo : GoLibrary where
  isSpace := fun c => decide (c ∈ [' ', '\t', '\n', '\r'])
  parseTime := fun text =>
    if text = Go.str "2026-01-01T00:00:00Z" then some ⟨1767225600000000000⟩
    else if text = Go.str "2026-01-01T00:00:01.5Z" then some ⟨1767225601500000000⟩
    else none
  decodeBase64 := Base64.decodeBytes

def sampleLibrary : Worker.ScriptLibrary where
  shortest := fun _ => []

/-- The digest of an empty log. -/
def sampleDigest : Go.Str := Go.str "e3b0c44298fc1c149afbf4c8996fb92427ae41e4649b934ca495991b7852b855"

/-- An unsigned receipt of version 3. -/
def sampleReceipt : TerminalRunReceipt where
  schemaVersion := 3
  receiptType := Go.str "terminal"
  startedAt := Go.str "2026-01-01T00:00:00Z"
  endedAt := Go.str "2026-01-01T00:00:01.5Z"
  provider := Go.str "p"
  leaseID := []
  slug := []
  runID := Go.str "r"
  command := Go.str "ls"
  commandSHA256 := Go.str "sha256:d81763e57da6cd0230eed9a63a5832f9266258f1235236510a3d0063d81a63b4"
  exitCode := 0
  syncMs := 0
  commandMs := 0
  durationMs := 1500
  logSHA256 := Go.str "sha256:" ++ sampleDigest
  retainedLogSHA256 := Go.str "sha256:" ++ sampleDigest
  logTruncated := false
  evidenceSHA256 := sampleDigest
  publicKey := Go.str "AAAAAAAAAAAAAAAAAAAAAAAAAAAAAAAAAAAAAAAAAAA="
  signer := Go.str "sha256:66687aadf862bd776c8fc18b8e9f8e20089714856ee233b3902a591d0d5f2925"
  signature := []

theorem sampleReceipt_valid : sampleReceipt.Valid sampleCrypto sampleGo where
  receiptType := rfl
  version := .inl rfl
  required := by decide +kernel
  leaseID := by decide
  slug := by decide
  times := ⟨_, _, rfl, rfl, by decide, by decide⟩
  natural := by decide
  digests := by decide +kernel
  evidence := .inr ⟨by decide +kernel, rfl⟩
  key := ⟨sampleKey, by decide +kernel, rfl, by decide +kernel⟩
  signature := .inl rfl

theorem sampleReceipt_earlier_valid :
    { sampleReceipt with schemaVersion := 2, evidenceSHA256 := [] }.Valid sampleCrypto sampleGo where
  receiptType := rfl
  version := .inr rfl
  required := sampleReceipt_valid.required
  leaseID := sampleReceipt_valid.leaseID
  slug := sampleReceipt_valid.slug
  times := sampleReceipt_valid.times
  natural := sampleReceipt_valid.natural
  digests := sampleReceipt_valid.digests
  evidence := .inl ⟨rfl, rfl⟩
  key := sampleReceipt_valid.key
  signature := .inl rfl

theorem sampleReceipt_portable : sampleReceipt.Portable := by
  constructor <;> exact List.all_iff_forall_prop.mp (by decide +kernel)

/-- A version 3 receipt, the same at version 2, and a command. -/
theorem signing_payload_binds_sample :
    terminalReceiptSigningBytes sampleReceipt ≠
        terminalReceiptSigningBytes { sampleReceipt with schemaVersion := 2, evidenceSHA256 := [] } ∧
      (Script.parse (Go.marshal sampleReceipt.tree)).map
          (Worker.terminalReceiptSigningBytes sampleLibrary) =
        some (terminalReceiptSigningBytes sampleReceipt) ∧
      Worker.commandPayload ([Go.str "ls"].map Script.ofGo) = commandPayload [Go.str "ls"] ∧
      commandPayload [Go.str "ls"] ≠ commandPayload [Go.str "l", Go.str "s"] := by
  obtain ⟨binds, portable, command, separate⟩ :=
    signing_payload_binds sampleCrypto sampleGo sampleLibrary
  refine ⟨fun same => ?_, portable _ (validateTerminalRunReceipt_ok_iff.mpr sampleReceipt_valid)
    sampleReceipt_portable, command _ (by decide), fun same => ?_⟩
  · have equal := (binds _ _ (validateTerminalRunReceipt_ok_iff.mpr sampleReceipt_valid)
      (validateTerminalRunReceipt_ok_iff.mpr sampleReceipt_earlier_valid)).mp same
    exact absurd (congrArg TerminalRunReceipt.schemaVersion equal) (by decide)
  · exact absurd (separate _ _ (by decide) (by decide) same) (by decide)

end Sample

end Crabedence.Attest
