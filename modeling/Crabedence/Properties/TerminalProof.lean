import Crabedence.TerminalWrites

/-!
# Proof behind terminal rows

A `CRITICAL` row is `COMMITTED` or `FAILED` only with a signed receipt the row's own columns verify.
Both terminal methods check the receipt they were given against the row they read, so the argument is
about the moment the write is issued: whatever row the statement finds then has the identity that
was checked.
-/

namespace Crabedence

open Relational Resumption StoreM

variable {platform : Platform} {signers : List String}

section Verification

variable {data : RawMessage} {binding : Binding}

theorem verifyReceipt_ok_iff : verifyReceipt platform data binding signers = .ok () ↔
      ∃ receipt, parseReceipt platform data = .ok receipt ∧
        verifySignature platform receipt = .ok () ∧ receipt.signer ∈ signers ∧
        receipt.binding = binding := by
  unfold verifyReceipt
  cases parsed : parseReceipt platform data with
  | error reason =>
    constructor
    · exact fun accepted => by cases accepted
    · exact fun ⟨receipt, same, _⟩ => by cases same
  | ok receipt =>
    cases signed : verifySignature platform receipt with
    | error reason =>
      constructor
      · intro accepted
        simp only [bind, Except.bind, signed] at accepted
        cases accepted
      · intro ⟨receipt', same, signed', _⟩
        cases same
        rw [signed] at signed'
        cases signed'
    | ok checked =>
      simp only [bind, Except.bind, signed]
      constructor
      · intro accepted
        split_ifs at accepted with empty trusted mismatch
        exact ⟨receipt, rfl, signed, trusted, not_not.mp mismatch⟩
      · intro ⟨receipt', same, _, trusted, bound⟩
        cases same
        have nonempty : signers.length ≠ 0 := by
          intro empty
          rw [List.length_eq_zero_iff.mp empty] at trusted
          cases trusted
        rw [if_neg nonempty, if_neg (not_not.mpr trusted), if_neg (not_not.mpr bound)]
        rfl

theorem verifyReceipt_nonempty (accepted : verifyReceipt platform data binding signers = .ok ()) :
    nullableBytes data = some data := by
  obtain ⟨receipt, parsed, _⟩ := verifyReceipt_ok_iff.mp accepted
  cases data with
  | nil => cases parsed
  | cons byte rest => rfl

/-- What a terminal receipt must have to prove its target state for a `CRITICAL` record. -/
structure TerminalReceipt.Proves (platform : Platform) (signers : List String) (record : Record)
    (receipt : TerminalReceipt) : Prop where
  evidenceDigest : receipt.evidenceDigest ≠ ""
  providerID : receipt.providerID ≠ ""
  providerRunID : requiredOutcome receipt.terminalStatus = .completed → receipt.providerRunID ≠ ""
  verified : verifyReceipt platform receipt.evidenceReceipt
    (terminalBinding record receipt receipt.terminalStatus) signers = .ok ()

variable {record : Record} {receipt : TerminalReceipt}

theorem signedReceiptVerify_proves {evidence : VerifiedEvidence}
    (accepted : signedReceiptVerify platform signers record receipt receipt.terminalStatus =
      .ok evidence) : receipt.Proves platform signers record := by
  unfold signedReceiptVerify at accepted
  simp only [bind, Except.bind] at accepted
  split_ifs at accepted with digest version provider run
  cases verified : verifyReceipt platform receipt.evidenceReceipt
      (terminalBinding record receipt receipt.terminalStatus) signers with
  | error reason =>
    rw [verified] at accepted
    cases accepted
  | ok _ => exact ⟨fun empty => digest (.inl empty), provider, fun completed empty =>
    run ⟨completed, empty⟩, verified⟩

theorem requireProof_proves {store : SQLiteStore} {kind : String}
    (default : store.verifier = none) (critical : record.executionClass = "CRITICAL")
    (passes : store.requireProof platform kind record receipt receipt.terminalStatus = .ok ()) :
    receipt.Proves platform store.trustedSigners record := by
  unfold SQLiteStore.requireProof SQLiteStore.evidenceVerifier at passes
  rw [if_pos critical, default] at passes
  cases accepted : signedReceiptVerify platform store.trustedSigners record receipt
      receipt.terminalStatus with
  | error reason =>
    simp only [accepted] at passes
    cases passes
  | ok evidence => exact signedReceiptVerify_proves accepted

theorem TerminalReceipt.Proves.transfer {row row' : Row}
    (proves : receipt.Proves platform signers row.scan) (same : row'.identity = row.identity) :
    receipt.Proves platform signers row'.scan := by
  refine ⟨proves.evidenceDigest, proves.providerID, proves.providerRunID, ?_⟩
  have bindings : terminalBinding row'.scan receipt receipt.terminalStatus =
      terminalBinding row.scan receipt receipt.terminalStatus := by
    simp only [terminalBinding, Row.scan, same]
  rw [bindings]
  exact proves.verified

end Verification

section Rows

def Row.binding (row : Row) (outcome : EvidenceOutcome) (providerRunID : String) : Binding where
  executionID := row.identity.executionID
  capability := row.identity.capabilityID
  principal := row.identity.principalID
  requestDigest := row.identity.requestDigest
  providerID := row.provider.id.getD ""
  providerRunID := providerRunID
  outcome := outcome.text
  evidenceSHA256 := row.terminal.evidenceDigest.getD ""

/-- A terminal row stores a receipt that its own columns verify.  Where nothing ran, the receipt may
leave the run id out. -/
structure Row.Proven (platform : Platform) (signers : List String) (row : Row) : Prop where
  committed : row.state = .committed → ∃ data, row.terminal.evidenceReceipt = some data ∧
    verifyReceipt platform data (row.binding .completed (row.provider.runID.getD "")) signers =
      .ok ()
  failed : row.state = .failed → ∃ data runID, row.terminal.evidenceReceipt = some data ∧
    (runID = "" ∨ row.provider.runID = some runID) ∧
    verifyReceipt platform data (row.binding .noEffect runID) signers = .ok ()

variable {row after : Row} {write : TerminalWrite}

theorem Row.Proven.unfinished (unfinished : row.state.isDurablyFinal = false) :
    row.Proven platform signers := by
  constructor <;> intro final <;> rw [final] at unfinished <;> cases unfinished

theorem Row.Proven.frozen (proven : row.Proven platform signers) (frozen : Frozen row after) :
    after.Proven platform signers := by
  have bindings (outcome : EvidenceOutcome) (runID : String) :
      after.binding outcome runID = row.binding outcome runID := by
    simp only [Row.binding, frozen.identity, frozen.provider, frozen.terminal]
  constructor
  · rw [frozen.state, frozen.terminal, frozen.provider, bindings]
    exact proven.committed
  · intro failed
    rw [frozen.state] at failed
    simp only [frozen.terminal, frozen.provider, bindings]
    exact proven.failed failed

theorem coalesce_nullableString {value : String} (supplied : value ≠ "") (stored : Option String) :
    coalesce (nullableString value) stored = some value := by
  rw [nullableString_some supplied]
  rfl

theorem TerminalReceipt.Proves.terminates (proves : write.receipt.Proves platform signers row.scan)
    (identity : after.identity = row.identity) (state : after.state = write.receipt.terminalStatus)
    (provider : after.provider = (row.terminate write).provider)
    (terminal : after.terminal = (row.terminate write).terminal) : after.Proven platform signers := by
  have stored : after.terminal.evidenceReceipt = some write.receipt.evidenceReceipt := by
    rw [terminal]
    exact verifyReceipt_nonempty proves.verified
  have bound : after.binding (requiredOutcome write.receipt.terminalStatus)
      write.receipt.providerRunID =
        terminalBinding row.scan write.receipt write.receipt.terminalStatus := by
    simp only [Row.binding, identity, provider, terminal, Row.terminate,
      coalesce_nullableString proves.providerID, nullableString_some proves.evidenceDigest,
      Option.getD_some]
    rfl
  have runs (named : write.receipt.providerRunID ≠ "") :
      after.provider.runID = some write.receipt.providerRunID := by
    rw [provider]
    exact coalesce_nullableString named row.provider.runID
  constructor
  · intro committed
    have target : requiredOutcome write.receipt.terminalStatus = .completed := by
      rw [← state, committed]
      rfl
    have named := runs (proves.providerRunID target)
    rw [target] at bound
    refine ⟨_, stored, ?_⟩
    rw [named, Option.getD_some, bound]
    exact proves.verified
  · intro failed
    have target : requiredOutcome write.receipt.terminalStatus = .noEffect := by
      rw [← state, failed]
      rfl
    rw [target] at bound
    refine ⟨_, write.receipt.providerRunID, stored, ?_, ?_⟩
    · by_cases named : write.receipt.providerRunID = ""
      · exact .inl named
      · exact .inr (runs named)
    · rw [bound]
      exact proves.verified

end Rows

theorem TerminalWrite.Drafted.proves {store : SQLiteStore} (default : store.verifier = none)
    (trusts : store.trustedSigners ⊆ signers) (row after : Row) (write : TerminalWrite)
    (drafted : write.Drafted platform store row.scan) (identity : after.identity = row.identity)
    (critical : after.identity.executionClass = "CRITICAL") :
    write.receipt.Proves platform signers after.scan := by
  obtain ⟨kind, passes⟩ := drafted.proof
  have class_ : row.scan.executionClass = "CRITICAL" := by
    rw [identity] at critical
    exact critical
  have proves := requireProof_proves default class_ passes
  obtain ⟨receipt, parsed, signed, known, bound⟩ := verifyReceipt_ok_iff.mp proves.verified
  have trusted : write.receipt.Proves platform signers row.scan :=
    ⟨proves.evidenceDigest, proves.providerID, proves.providerRunID,
      verifyReceipt_ok_iff.mpr ⟨receipt, parsed, signed, trusts known, bound⟩⟩
  exact trusted.transfer identity

/-- Where every handle uses the default verifier and trusts no other signers than `signers`, each
reachable `CRITICAL` row is proven: if it is `COMMITTED`, its own columns verify the stored receipt as
`COMPLETED`, and if it is `FAILED`, as `NO_EFFECT` with the stored run id or none. -/
theorem critical_rows_are_proven (platform : DispatchPlatform) (faults : Bool)
    (signers : List String) (admitted : Call → Prop)
    (configured : ∀ call, admitted call → call.handle.verifier = none ∧
      call.handle.trustedSigners ⊆ signers)
    {state : SystemState} (reachable : Reachable platform faults admitted state) (id : String)
    (row : Row) (found : state.world.find id = some row)
    (critical : row.identity.executionClass = "CRITICAL") :
    row.Proven platform.toPlatform signers := by
  have holds : row.identity.executionClass = "CRITICAL" → row.Proven platform.toPlatform signers := by
    refine @Reachable.vouched _ (fun write row => row.identity.executionClass = "CRITICAL" →
      write.receipt.Proves platform.toPlatform signers row.scan) (fun _ => True) (fun row =>
        row.identity.executionClass = "CRITICAL" → row.Proven platform.toPlatform signers)
      _ _ ?_ ?_ ?_ _ _ (fun _ _ _ _ => trivial) ?_ reachable id found
    · exact fun unfinished _ => .unfinished unfinished
    · intro row after frozen proven critical
      exact (proven (frozen.identity ▸ critical)).frozen frozen
    · intro mutation write now cluster row writes proves allowed _ critical
      have proof := proves (mutation.assign_identity now row ▸ critical)
      cases mutation <;> cases writes <;> exact proof.terminates rfl rfl rfl rfl
    · intro call allowed Result method world log
      obtain ⟨default, trusts⟩ := configured call allowed
      exact serve_vouched (TerminalWrite.Drafted.proves default trusts) method
  exact holds critical

def sampleEvidenceDigest : String :=
  "1111111111111111111111111111111111111111111111111111111111111111"

/-- The receipt a trusted signer issued for the sample execution; the key and the signature are the
base64 text of zeros, and the signer the SHA-256 of the key. -/
def sampleSigned : ReceiptV3 where
  schemaVersion := 3
  receiptType := receiptType
  executionID := "execution"
  capability := "capability"
  principal := "principal"
  requestDigest := "digest"
  providerID := "provider"
  providerRunID := "run"
  outcome := outcomeCompleted
  evidenceSHA256 := sampleEvidenceDigest
  issuedAt := "2026-01-01T00:00:00Z"
  publicKey := "AAAAAAAAAAAAAAAAAAAAAAAAAAAAAAAAAAAAAAAAAAA="
  signer := "66687aadf862bd776c8fc18b8e9f8e20089714856ee233b3902a591d0d5f2925"
  signature := "AAAAAAAAAAAAAAAAAAAAAAAAAAAAAAAAAAAAAAAAAAAAAAAAAAAAAAAAAAAAAAAAAAAAAAAAAAAAAAAAAAAAAA=="

/-- The JSON text of the receipt. -/
def sampleSignedText : RawMessage := utf8 ("\x7b" ++
  "\"schema_version\":3,\"receipt_type\":\"crabedence-effect-receipt\"," ++
  "\"execution_id\":\"execution\",\"capability\":\"capability\"," ++
  "\"principal\":\"principal\",\"request_digest\":\"digest\"," ++
  "\"provider_id\":\"provider\",\"provider_run_id\":\"run\",\"outcome\":\"COMPLETED\"," ++
  "\"evidence_sha256\":\"1111111111111111111111111111111111111111111111111111111111111111\"," ++
  "\"issued_at\":\"2026-01-01T00:00:00Z\"," ++
  "\"public_key\":\"" ++ sampleSigned.publicKey ++ "\",\"signer\":\"" ++ sampleSigned.signer ++
  "\",\"signature\":\"" ++ sampleSigned.signature ++ "\"\x7d")

/-- Knows the one receipt, its key and its signature, and refuses any other. -/
def signingPlatform : DispatchPlatform :=
  { samplePlatform with
    sha256 := fun data => if data = List.replicate 32 0 then sampleSigned.signer
      else samplePlatform.sha256 data
    ed25519Verify := fun key message signature => decide (key = List.replicate 32 0 ∧
      message = signingBytes sampleSigned ∧ signature = List.replicate 64 0)
    base64Decode := fun text =>
      if text = sampleSigned.publicKey then some (List.replicate 32 0)
      else if text = sampleSigned.signature then some (List.replicate 64 0)
      else none
    decodeReceiptV3 := fun data => if data = sampleSignedText then .ok sampleSigned
      else .error "invalid evidence receipt" }

def trustingHandle : SQLiteStore := { sampleHandle with trustedSigners := [sampleSigned.signer] }

/-- The sample execution as a `CRITICAL` one, finalised through this handle with this receipt. -/
def sampleCritical (handle : SQLiteStore) (evidenceReceipt : RawMessage) : List Choice :=
  Choice.complete (.store handle (.acquireWithAuthority sampleKey "digest" ⟨"", 0, ""⟩ "CRITICAL"
    second)) 0 "token" "execution" ++
  Choice.complete (.store handle (.beginExecution sampleLease)) 1 "" "" ++
  Choice.complete (.store handle (.markInFlight sampleLease "provider" [])) 2 "" "" ++
  Choice.complete (.store handle (.finalize sampleLease .inFlight { sampleReceipt with
    evidenceDigest := sampleEvidenceDigest, receiptVersion := 3, evidenceReceipt })) 3 "" ""

set_option maxRecDepth 4096 in
/-- The finalised `CRITICAL` execution is proven by its own columns. -/
theorem critical_rows_are_proven_finalized :
    ∃ row, ((SystemState.initial 0).follow signingPlatform
        (sampleCritical trustingHandle sampleSignedText)).world.find "execution" = some row ∧
      row.state = .committed ∧ row.identity.executionClass = "CRITICAL" ∧
      row.Proven signingPlatform.toPlatform [sampleSigned.signer] := by
  have admits : ∀ call, Choice.start call ∈ sampleCritical trustingHandle sampleSignedText →
      call.handle = trustingHandle := by
    intro call member
    simp only [sampleCritical, Choice.complete, List.mem_append, List.mem_cons, List.mem_replicate,
      Choice.start.injEq, reduceCtorEq, and_false, or_false] at member
    rcases member with ((rfl | rfl) | rfl) | rfl <;> rfl
  have reachable : Reachable signingPlatform false (fun call => call.handle = trustingHandle)
      ((SystemState.initial 0).follow signingPlatform (sampleCritical trustingHandle sampleSignedText)) :=
    ⟨0, follow_reaches_admitted signingPlatform false _ _ admits⟩
  have proven := critical_rows_are_proven signingPlatform false [sampleSigned.signer]
    (fun call => call.handle = trustingHandle)
    (fun call same => by rw [same]; exact ⟨rfl, fun _ trusted => trusted⟩) reachable "execution"
  exact ⟨_, rfl, rfl, rfl, proven _ rfl rfl⟩

set_option maxRecDepth 4096 in
/-- The signed binding has no result digest: against the row's result digest the stored receipt of the
same execution does not verify.  A handle with a verifier of its own commits without a receipt. -/
theorem receipt_binds_no_result_digest :
    (∃ row data, ((SystemState.initial 0).follow signingPlatform
        (sampleCritical trustingHandle sampleSignedText)).world.find "execution" = some row ∧
      row.state = .committed ∧ row.identity.executionClass = "CRITICAL" ∧
      row.terminal.evidenceReceipt = some data ∧
      verifyReceipt signingPlatform.toPlatform data
        { row.binding .completed (row.provider.runID.getD "") with
          evidenceSHA256 := row.terminal.resultDigest.getD "" } [sampleSigned.signer] ≠ .ok ()) ∧
    (∃ verify row, ((SystemState.initial 0).follow signingPlatform (sampleCritical
        { trustingHandle with verifier := some verify } [])).world.find "execution" = some row ∧
      row.state = .committed ∧ row.identity.executionClass = "CRITICAL" ∧
      row.terminal.evidenceReceipt = none) := by
  refine ⟨⟨_, _, rfl, rfl, rfl, rfl, fun accepted => by cases accepted⟩, ?_⟩
  refine ⟨fun record receipt target => .ok (some {
    evidenceDigest := receipt.evidenceDigest
    receiptVersion := receipt.receiptVersion
    providerID := receipt.providerID
    providerRunID := receipt.providerRunID
    outcome := requiredOutcome target
    executionID := record.executionID
    requestDigest := record.requestDigest }), _, rfl, rfl, rfl, rfl⟩

end Crabedence
