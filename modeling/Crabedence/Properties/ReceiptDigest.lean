import Crabedence.Digest.Receipt
import Crabedence.Properties.Observation
import Crabedence.Runs
import Crabedence.TerminalWrites

/-!
# Digests of terminal rows

The stored `terminal_receipt_digest` is the digest of the receipt as the terminal method was given it,
while `COALESCE` keeps an earlier result, provider id or run id where the receipt has none.  The
digest is therefore that of the receipt rebuilt from the row with such columns left out.
-/

namespace Crabedence

open Relational Resumption StoreM

def Row.receipt (row : Row) : TerminalReceipt where
  executionID := row.identity.executionID
  capability := row.identity.capabilityID
  principal := row.identity.principalID
  requestDigest := row.identity.requestDigest
  terminalStatus := row.state
  canonicalResult := row.result.getD []
  providerID := row.provider.id.getD ""
  providerRunID := row.provider.runID.getD ""
  evidenceDigest := row.terminal.evidenceDigest.getD ""
  receiptVersion := row.terminal.receiptVersion
  evidenceReceipt := row.terminal.evidenceReceipt.getD []

def Row.StoresDigest (platform : Platform) (row : Row) (receipt : TerminalReceipt) : Prop :=
  ∃ digest, row.terminal.receiptDigest = some digest ∧
    terminalReceiptDigest platform receipt = .ok digest

/-- The receipt has the row's result, provider id and run id, or leaves some of them out, and the
rest of it is the row's.  A result that it leaves out is the provider's, observed before. -/
structure TerminalReceipt.Recounts (row : Row) (receipt : TerminalReceipt) : Prop where
  result : receipt.canonicalResult = row.receipt.canonicalResult ∨
    receipt.canonicalResult = [] ∧ row.result = row.provider.result
  providerID : receipt.providerID = row.receipt.providerID ∨ receipt.providerID = ""
  providerRunID : receipt.providerRunID = row.receipt.providerRunID ∨ receipt.providerRunID = ""
  rest : { row.receipt with
    canonicalResult := receipt.canonicalResult
    providerID := receipt.providerID
    providerRunID := receipt.providerRunID } = receipt

/-- Whatever of result, provider id and run id the row holds, the receipt asserts. -/
structure TerminalReceipt.Asserts (row : Row) (receipt : TerminalReceipt) : Prop where
  result : receipt.canonicalResult = [] → row.result = none
  providerID : receipt.providerID = "" → row.provider.id = none
  providerRunID : receipt.providerRunID = "" → row.provider.runID = none

section Rows

variable {platform : Platform} {row after : Row} {write : TerminalWrite} {mutation : Mutation}
  {now : Int} {receipt : TerminalReceipt}

theorem nullableString_getD (value : String) : (nullableString value).getD "" = value := by
  unfold nullableString nullIf
  split_ifs with empty
  · exact empty.symm
  · rfl

theorem nullableBytes_getD (value : RawMessage) : (nullableBytes value).getD [] = value := by
  unfold nullableBytes nullIf
  split_ifs with empty
  · exact empty.symm
  · rfl

theorem coalesce_string (value : String) (stored : Option String) :
    value = (coalesce (nullableString value) stored).getD "" ∨ value = "" := by
  by_cases empty : value = ""
  · exact .inr empty
  · rw [nullableString_some empty]
    exact .inl rfl

/-- What vouches for the digest of a terminal write: the receipt names the row, and the digest is
its own. -/
structure TerminalWrite.Digests (platform : Platform) (write : TerminalWrite) (row : Row) : Prop where
  executionID : write.receipt.executionID = row.identity.executionID
  capability : write.receipt.capability = row.identity.capabilityID
  principal : write.receipt.principal = row.identity.principalID
  requestDigest : write.receipt.requestDigest = row.identity.requestDigest
  digest : terminalReceiptDigest platform write.receipt = .ok write.receiptDigest

theorem TerminalWrite.Drafted.digests {store : SQLiteStore} (row after : Row)
    (write : TerminalWrite) (drafted : write.Drafted platform store row.scan)
    (identity : after.identity = row.identity) : write.Digests platform after := by
  constructor
  · rw [identity]
    exact drafted.executionID
  · rw [identity]
    exact drafted.capability
  · rw [identity]
    exact drafted.principal
  · rw [identity]
    exact drafted.requestDigest
  · exact drafted.digest

theorem TerminalWrite.Digests.rest (digests : write.Digests platform row)
    (identity : after.identity = row.identity) (state : after.state = write.receipt.terminalStatus)
    (terminal : after.terminal = (row.terminate write).terminal) : { after.receipt with
      canonicalResult := write.receipt.canonicalResult
      providerID := write.receipt.providerID
      providerRunID := write.receipt.providerRunID } = write.receipt := by
  unfold Row.receipt
  simp only [identity, state, terminal, Row.terminate, nullableString_getD, nullableBytes_getD]
  rw [← digests.executionID, ← digests.capability, ← digests.principal, ← digests.requestDigest]

theorem TerminalWrite.Digests.terminates (digests : write.Digests platform row)
    (mirrored : row.result = row.provider.result) (writes : mutation.write? = some write) :
    (mutation.assign now row).StoresDigest platform write.receipt ∧
      write.receipt.Recounts (mutation.assign now row) := by
  cases mutation with
  | finalize lease expectedState version own final legal =>
    cases writes
    refine ⟨⟨_, rfl, digests.digest⟩, .inl (nullableBytes_getD _).symm, coalesce_string _ _,
      coalesce_string _ _, digests.rest rfl rfl rfl⟩
  | resolveRecovery executionID version own material legal =>
    cases writes
    refine ⟨⟨_, rfl, digests.digest⟩, ?_, coalesce_string _ _, coalesce_string _ _,
      digests.rest rfl rfl rfl⟩
    by_cases empty : write.receipt.canonicalResult = []
    · refine .inr ⟨empty, ?_⟩
      show coalesce (nullableBytes write.receipt.canonicalResult) row.result = row.provider.result
      rw [empty, ← mirrored]
      rfl
    · refine .inl ?_
      show _ = (coalesce (nullableBytes write.receipt.canonicalResult) row.result).getD []
      rw [nullableBytes_some empty]
      rfl
  | _ => cases writes

theorem TerminalReceipt.Recounts.rebuilt (recounts : receipt.Recounts row)
    (asserts : receipt.Asserts row) : receipt = row.receipt := by
  have result : receipt.canonicalResult = row.receipt.canonicalResult := by
    rcases recounts.result with same | ⟨empty, _⟩
    · exact same
    · rw [empty, Row.receipt, asserts.result empty]
      rfl
  have providerID : receipt.providerID = row.receipt.providerID := by
    rcases recounts.providerID with same | empty
    · exact same
    · rw [empty, Row.receipt, asserts.providerID empty]
      rfl
  have providerRunID : receipt.providerRunID = row.receipt.providerRunID := by
    rcases recounts.providerRunID with same | empty
    · exact same
    · rw [empty, Row.receipt, asserts.providerRunID empty]
      rfl
  rw [← recounts.rest, result, providerID, providerRunID]

def Row.Receipted (platform : Platform) (row : Row) : Prop :=
  row.state.isDurablyFinal = true →
    ∃ receipt, row.StoresDigest platform receipt ∧ receipt.Recounts row

theorem Row.receipt_frozen (frozen : Frozen row after) : after.receipt = row.receipt := by
  simp only [Row.receipt, frozen.identity, frozen.state, frozen.result, frozen.provider,
    frozen.terminal]

theorem Row.StoresDigest.frozen (frozen : Frozen row after)
    (stores : row.StoresDigest platform receipt) : after.StoresDigest platform receipt := by
  unfold StoresDigest
  rw [frozen.terminal]
  exact stores

theorem Row.Receipted.frozen (frozen : Frozen row after) (receipted : row.Receipted platform) :
    after.Receipted platform := by
  intro final
  have same := Row.receipt_frozen frozen
  obtain ⟨receipt, stores, recounts⟩ := receipted (frozen.state ▸ final)
  refine ⟨receipt, stores.frozen frozen, ?_, same ▸ recounts.providerID,
    same ▸ recounts.providerRunID, same ▸ recounts.rest⟩
  rw [same, frozen.result, frozen.provider]
  exact recounts.result

end Rows

section Runs

variable {platform : DispatchPlatform} {faults : Bool} {admitted : Call → Prop}
  {state next : SystemState} {row : Row}

theorem Reachable.receipted (reachable : Reachable platform faults admitted state) {id : String}
    (found : state.world.find id = some row) : row.Receipted platform.toPlatform := by
  apply @Reachable.vouched row (TerminalWrite.Digests platform.toPlatform) Row.Faithful
    (Row.Receipted platform.toPlatform) admitted state _ _ _ platform faults _ _ reachable id found
  · intro row unfinished final
    rw [unfinished] at final
    cases final
  · exact fun frozen receipted => receipted.frozen frozen
  · intro mutation write now cluster row writes digests allowed faithful _
    have mirrored := (faithful.mirrored (Mutation.write_open writes allowed)).1
    exact ⟨write.receipt, digests.terminates mirrored writes⟩
  · exact fun reached id row found => reached.faithful found
  · intro call _ Result method world log
    exact serve_vouched TerminalWrite.Drafted.digests method

theorem Commits.digests {call : Call} {epoch : Int} {mutation : Mutation} {write : TerminalWrite}
    (reachable : Reachable platform faults admitted state)
    (commits : Commits state next call epoch (.apply mutation))
    (writes : mutation.write? = some write) (hits : state.Hits epoch mutation row) :
    write.Digests platform.toPlatform row := by
  obtain ⟨index, continue_, log, scheduled⟩ := commits.scheduled
  refine Reachable.writes ?_ reachable scheduled writes hits.found
  intro call _ Result method world log
  exact serve_vouched TerminalWrite.Drafted.digests method

/-- Every reachable terminal row stores the digest of a receipt rebuilt from its own columns, with
result, provider id and run id each taken from the row or left out.  It is the receipt of the terminal
write, and if that asserts whatever of the three the row then holds, the row stores the digest of
the receipt rebuilt from all of its columns from then on. -/
theorem terminal_digests_recount (platform : DispatchPlatform) (faults : Bool)
    (admitted : Call → Prop) (state : SystemState)
    (reachable : Reachable platform faults admitted state) :
    (∀ id row, state.world.find id = some row → row.state.isDurablyFinal = true →
      ∃ receipt, row.StoresDigest platform.toPlatform receipt ∧ receipt.Recounts row) ∧
    ∀ (next : SystemState) (call : Call) (epoch : Int) (mutation : Mutation)
      (write : TerminalWrite) (row : Row), Commits state next call epoch (.apply mutation) →
      mutation.write? = some write → state.Hits epoch mutation row →
      ∃ after, next.world.find mutation.target = some after ∧
        after.StoresDigest platform.toPlatform write.receipt ∧ write.receipt.Recounts after ∧
        (write.receipt.Asserts after → ∀ later,
          Pool.Reaches (scheduler platform faults admitted) next later →
          ∃ final, later.world.find mutation.target = some final ∧
            final.StoresDigest platform.toPlatform final.receipt) := by
  refine ⟨fun id row found => reachable.receipted found, ?_⟩
  intro next call epoch mutation write row commits writes hits
  have digests := commits.digests reachable writes hits
  have faithful := reachable.reached.faithful hits.found
  obtain ⟨stores, recounts⟩ := @digests.terminates _ _ _ mutation state.world.now
    (faithful.mirrored (Mutation.write_open writes hits.allowed)).1 writes
  refine ⟨_, commits.hit hits, stores, recounts, ?_⟩
  intro asserts later reaches
  have ended := @Mutation.write_final row mutation state.world.now write writes
  obtain ⟨final, found, frozen⟩ := (reaches_evolves reaches).frozen (commits.hit hits) ended
  refine ⟨final, found, ?_⟩
  rw [Row.receipt_frozen frozen, ← recounts.rebuilt asserts]
  exact stores.frozen frozen

end Runs

def textHash (bytes : List UInt8) : String :=
  String.ofList (bytes.map fun byte => Char.ofNat byte.toNat)

theorem textHash_injective : Function.Injective textHash := by
  have chars : Function.Injective fun byte : UInt8 => Char.ofNat byte.toNat := by
    intro byte other same
    have code (byte : UInt8) : (Char.ofNat byte.toNat).toNat = byte.toNat := by
      have small := byte.toNat_lt
      have valid : byte.toNat.isValidChar := .inl (by omega)
      unfold Char.ofNat
      rw [dif_pos valid]
      rfl
    have values := congrArg Char.toNat same
    rw [code byte, code other] at values
    exact UInt8.toNat_inj.mp values
  intro bytes others same
  have lists := congrArg String.toList same
  rw [textHash, textHash, String.toList_ofList, String.toList_ofList] at lists
  exact List.map_injective_iff.mpr chars lists

def hashingPlatform : DispatchPlatform :=
  { samplePlatform with sha256 := textHash }.withJSON sampleTexts

def sampleNaming (providerID : String) : TerminalReceipt :=
  { sampleReceipt with canonicalResult := [123, 125], providerID }

/-- The caller of `Finalize` has read the row and is about to write. -/
def sampleDrafted (providerID : String) : List Choice :=
  sampleCrossing ++ [.start (.store sampleHandle (.finalize sampleLease .inFlight
    (sampleNaming providerID))), .serve 3 { leaseToken := "", executionID := "" }]

def sampleFinalized (providerID : String) : List Choice :=
  sampleDrafted providerID ++ [.serve 3 { leaseToken := "", executionID := "" }]

set_option maxRecDepth 8192 in
/-- A receipt that names the provider is the one rebuilt from the row it leaves. -/
theorem terminal_digests_recount_named :
    ∃ row, ((SystemState.initial 0).follow hashingPlatform (sampleFinalized "provider")).world.find
        "execution" = some row ∧
      row.state = .committed ∧ row.StoresDigest hashingPlatform.toPlatform row.receipt := by
  have reachable := follow_reachable hashingPlatform false (sampleDrafted "provider") 0
  obtain ⟨after, found, _, _, asserted⟩ := (terminal_digests_recount hashingPlatform false
    (fun _ => True) _ reachable).2
      ((SystemState.initial 0).follow hashingPlatform (sampleFinalized "provider"))
      _ _ _ _ _ ⟨⟨3, _, _, rfl⟩, rfl⟩ rfl ⟨rfl, rfl, rfl⟩
  cases found
  obtain ⟨final, same, stores⟩ := asserted ⟨nofun, nofun, nofun⟩ _ .refl
  cases same
  exact ⟨_, rfl, rfl, stores⟩

set_option maxRecDepth 8192 in
/-- The execution was bound to a provider at dispatch, the receipt names none: the row keeps the
provider, and the digest of the receipt rebuilt from it is another one. -/
theorem digest_of_unnamed_provider :
    ∃ row stored rebuilt, Reachable hashingPlatform false (fun _ => True)
        ((SystemState.initial 0).follow hashingPlatform (sampleFinalized "")) ∧
      ((SystemState.initial 0).follow hashingPlatform (sampleFinalized "")).world.find "execution" =
        some row ∧
      row.state = .committed ∧ row.provider.id = some "provider" ∧
      row.terminal.receiptDigest = some stored ∧
      terminalReceiptDigest hashingPlatform.toPlatform row.receipt = .ok rebuilt ∧
      stored ≠ rebuilt := by
  refine ⟨_, _, _, follow_reachable _ _ _ _, rfl, rfl, rfl, rfl, rfl, ?_⟩
  intro same
  have payloads := @TerminalPayload.eq_of_marshal _ (some (.object [])) _ (some (.object [])) rfl rfl
    (textHash_injective same)
  exact absurd (congrArg TerminalPayload.providerID payloads) (by decide)

end Crabedence
