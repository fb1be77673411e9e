import Crabedence.Dispatch.Progress
import Crabedence.Properties.ReceiptDigest

/-!
# Agreement of answer and row

What an execution of a durable class answers agrees with the row of its key.  `Settles` says what the
answer rests on; the one case left is a `Finalize` that found the row terminal with its own receipt's
digest.  There the agreement rests on the bytes that were hashed: the row stores the digest of a
receipt that recounts its columns, and two receipts with the same bytes have the same status and
result.
-/

namespace Crabedence

open Json Resumption StoreM

/-- The row's result is the answer's, byte for byte.  A `Finalize` that found the row terminal with
the digest of its own receipt answers the same JSON value, or nothing where the row kept the result
the provider was observed with before. -/
inductive Row.Carries (platform : Platform) (row : Row) (answer : RawMessage) : Prop where
  | written (same : row.result.getD [] = answer)
  | repeated (receipt : TerminalReceipt) (own : receipt.canonicalResult = answer)
      (digested : terminalReceiptDigest platform (receipt.bindTo row.executionID row.scan) =
        .ok row.scan.terminalReceiptDigest)
      (agrees : (∃ stored answered, Decodes (row.result.getD []) stored ∧ Decodes answer answered ∧
          stored.map Number.value = answered.map Number.value) ∨
        answer = [] ∧ row.result = row.provider.result)

/-- The answer of a finished execution and the row of its key. -/
structure Agrees (platform : Platform) (request : Request) (response : Response) (world : World)
    (log : List Mark) : Prop where
  succeeded : response.status = .succeeded → ∃ row,
    world.database.findByKey request.key = some row ∧ row.state = .committed ∧
      row.Carries platform response.result
  failed : response.status = .failed → Uninvoked log ∨ ∃ row,
    world.database.findByKey request.key = some row ∧ row.state = .failed
  unknown : ¬ Uninvoked log → (∀ row, world.database.findByKey request.key = some row →
    row.state.isDurablyFinal = false) → response.status = .unknown

theorem stateToStatus_succeeded {state : State} (same : stateToStatus state = .succeeded) :
    state = .committed := by
  cases state <;> first | rfl | cases same

theorem stateToStatus_failed {state : State} (same : stateToStatus state = .failed) :
    state = .failed := by
  cases state <;> first | rfl | cases same

variable {texts : ErrorTexts}

section Receipts

variable {platform : Platform} {receipt other : TerminalReceipt} {row : Row} {digest : String}

theorem terminalReceiptDigest_hashed
    (digested : terminalReceiptDigest (platform.withJSON texts) receipt = .ok digest) :
    ∃ result, HoldsResult receipt.canonicalResult result ∧
      digest = platform.sha256 (receipt.bytes.hashed result) := by
  have canonical : ∃ bytes,
      canonicalizeJSON (platform.withJSON texts) receipt.canonicalResult = .ok bytes := by
    cases canonical : canonicalizeJSON (platform.withJSON texts) receipt.canonicalResult with
    | error reason =>
      unfold terminalReceiptDigest TerminalReceipt.digest at digested
      rw [canonical] at digested
      cases digested
    | ok bytes => exact ⟨bytes, rfl⟩
  obtain ⟨bytes, canonical⟩ := canonical
  obtain ⟨result, holds⟩ := holdsResult_of_canonicalizeJSON canonical
  refine ⟨result, holds, ?_⟩
  rw [terminalReceiptDigest_holds platform holds] at digested
  exact (Except.ok.inj digested).symm

theorem same_of_digest (collisionFree : Function.Injective platform.sha256)
    (digested : terminalReceiptDigest (platform.withJSON texts) receipt = .ok digest)
    (also : terminalReceiptDigest (platform.withJSON texts) other = .ok digest) :
    receipt.terminalStatus = other.terminalStatus ∧ ∃ result second,
      HoldsResult receipt.canonicalResult result ∧ HoldsResult other.canonicalResult second ∧
      result.map (fun value => value.map Number.value) =
        second.map fun value => value.map Number.value := by
  obtain ⟨result, holds, hash⟩ := terminalReceiptDigest_hashed digested
  obtain ⟨second, holdsOther, hashOther⟩ := terminalReceiptDigest_hashed also
  have bytes := collisionFree (hash.symm.trans hashOther)
  obtain ⟨payloads, values⟩ := TerminalReceipt.hashed_eq_iff.mp bytes
  have fields := TerminalReceipt.bytes_runes_eq_iff.mp payloads
  exact ⟨congrArg TerminalPayload.terminalStatus fields, result, second, holds, holdsOther, values⟩

theorem Row.Settled.carries (collisionFree : Function.Injective platform.sha256)
    (receipted : row.Receipted (platform.withJSON texts))
    (settled : row.Settled (platform.withJSON texts) receipt) :
    row.state = receipt.terminalStatus ∧
      row.Carries (platform.withJSON texts) receipt.canonicalResult := by
  cases settled with
  | written final state result =>
    refine ⟨state, .written ?_⟩
    rw [result]
    exact nullableBytes_getD _
  | repeated final digested =>
    obtain ⟨writer, ⟨digest, stored, written⟩, recounts⟩ := receipted final
    have own : row.scan.terminalReceiptDigest = digest := by
      simp only [Row.scan, stored, Option.getD_some]
    obtain ⟨status, result, second, holds, holdsWriter, values⟩ :=
      same_of_digest collisionFree (own ▸ digested) written
    have recounted : writer.terminalStatus = row.state :=
      (congrArg TerminalReceipt.terminalStatus recounts.rest).symm
    refine ⟨(status.trans recounted).symm, ?_⟩
    cases second with
    | none =>
      have unwritten : writer.canonicalResult = [] := holdsWriter
      have answerless : receipt.canonicalResult = [] := by
        cases result with
        | none => exact holds
        | some answered => cases values
      rcases recounts.result with same | ⟨_, kept⟩
      · exact .written (same.symm.trans (unwritten.trans answerless.symm))
      · exact .repeated receipt rfl digested (.inr ⟨answerless, kept⟩)
    | some stored =>
      have decodes : Decodes writer.canonicalResult stored := holdsWriter
      cases result with
      | none => cases values
      | some answered =>
        rcases recounts.result with same | ⟨empty, _⟩
        · rw [same] at decodes
          exact .repeated receipt rfl digested
            (.inl ⟨stored, answered, decodes, holds, (Option.some_inj.mp values).symm⟩)
        · rw [empty] at decodes
          exact (Decodes.nonempty decodes rfl).elim

end Receipts

variable {request : Request} {response : Response} {log : List Mark}

section Answers

variable {platform : Platform} {world : World}

theorem Settles.agrees (collisionFree : Function.Injective platform.sha256)
    (receipted : ∀ row, world.database.findByKey request.key = some row →
      row.Receipted (platform.withJSON texts))
    (settles : Settles (platform.withJSON texts) request response world log) :
    Agrees (platform.withJSON texts) request response world log := by
  cases settles with
  | spared spared =>
    cases spared with
    | unclaimed uninvoked status =>
      exact ⟨fun succeeded => (status succeeded).elim, fun _ => .inl uninvoked,
        fun invoked => (invoked uninvoked).elim⟩
    | replayed uninvoked row found final status result =>
      refine ⟨?_, fun _ => .inl uninvoked, fun invoked => (invoked uninvoked).elim⟩
      intro succeeded
      exact ⟨row, found, stateToStatus_succeeded (status.symm.trans succeeded), .written result.symm⟩
  | undecided status =>
    refine ⟨?_, ?_, fun _ _ => status⟩
    · intro succeeded
      rw [status] at succeeded
      cases succeeded
    · intro failed
      rw [status] at failed
      cases failed
  | finalized receipt row found settled status result =>
    obtain ⟨state, carries⟩ := settled.carries collisionFree (receipted row found)
    rw [← state] at status
    refine ⟨?_, ?_, ?_⟩
    · intro succeeded
      have committed := stateToStatus_succeeded (status.symm.trans succeeded)
      refine ⟨row, found, committed, ?_⟩
      rw [← result (state.symm.trans committed)]
      exact carries
    · intro failed
      exact .inr ⟨row, found, stateToStatus_failed (status.symm.trans failed)⟩
    · intro _ unfinished
      have open_ := unfinished row found
      rw [settled.final] at open_
      cases open_

end Answers

section Runs

variable {platform : DispatchPlatform} {faults : Bool} {admitted : Call → Prop}
  {state : SystemState} {index : Nat} {handle : SQLiteStore} {executor : DispatchExecutor}
  {descriptor : ResolvedDescriptor}

theorem Reachable.settles (reachable : Reachable platform faults admitted state)
    (durable : descriptor.executionClass.isDurable = true)
    (scheduled : state.threads[index]? = some ⟨.execute handle executor request descriptor,
      .done (.response response), log⟩) :
    Settles platform.toPlatform request response state.world log := by
  obtain ⟨start, reaches⟩ := reachable
  obtain ⟨begun, _, follows⟩ := Pool.Reaches.started reaches scheduled (Nat.zero_le index)
  obtain ⟨digest, bound⟩ := request.exists_digest platform descriptor
  have run : Run .unrestricted faults anyReply platform handle executor request descriptor digest _
      (executor.executeWithIdempotency platform request descriptor) begun [] :=
    run_settles durable bound
  have runs : (system faults).Safe unguarded (Settles platform.toPlatform request)
      (executor.run platform handle request descriptor) begun [] := by
    refine Machine.Safe.interpret ?_ run.through
    intro Reply operation world log _
    exact Machine.safe_iff_follows.mpr ⟨fun _ _ _ _ _ => trivial, fun _ _ _ _ => trivial⟩
  have answers : (system faults).Safe unguarded (fun (outcome : Outcome) world log => ∃ response,
      outcome = .response response ∧ Settles platform.toPlatform request response world log)
      ((Call.execute handle executor request descriptor).program platform) begun [] := by
    apply Machine.Safe.bind
    refine runs.lasting.mono (fun _ _ _ allowed => allowed) ?_
    exact fun response world log settles later moved => ⟨response, rfl, settles later moved⟩
  obtain ⟨answered, same, settles⟩ :=
    (Machine.safe_iff_follows.mp answers).2 _ _ _ follows
  cases same
  exact settles

/-- Whatever the handler answered, whatever the other callers did and however the driver failed, the
answer of a finished execution of a durable class agrees with the row of its key, then and in every
later state. -/
theorem answers_agree_with_rows (platform : DispatchPlatform) (texts : ErrorTexts) (faults : Bool)
    (admitted : Call → Prop) (collisionFree : Function.Injective platform.sha256)
    (state : SystemState) (reachable : Reachable (platform.withJSON texts) faults admitted state)
    (index : Nat) (handle : SQLiteStore) (executor : DispatchExecutor) (request : Request)
    (descriptor : ResolvedDescriptor) (response : Response) (log : List Mark)
    (durable : descriptor.executionClass.isDurable = true)
    (finished : state.threads[index]? = some ⟨.execute handle executor request descriptor,
      .done (.response response), log⟩) :
    Agrees (platform.withJSON texts).toPlatform request response state.world log := by
  have settles := reachable.settles durable finished
  apply settles.agrees collisionFree
  intro row found
  exact reachable.receipted (Database.find_of_findByKey found).1

end Runs

def sampleRun (executionClass : ExecutionClass) (handler : Response) : List Choice :=
  .start (.execute sampleHandle sampleExecutor sampleRequest (sampleDescriptor executionClass)) ::
    List.replicate 24 (.serve 0
      { leaseToken := "token", executionID := "execution", handler := .answered handler })

def sampleAnswer : Response :=
  { status := .succeeded, result := [123, 125], execution := some ⟨"provider", "run"⟩ }

set_option maxRecDepth 16384 in
/-- A run answers `SUCCEEDED`, and the row of its key is committed with the answer's result. -/
theorem answers_agree_with_rows_committed :
    ∃ response log row, ((SystemState.initial 0).follow hashingPlatform
        (sampleRun .mutation sampleAnswer)).threads[0]? =
          some ⟨.execute sampleHandle sampleExecutor sampleRequest (sampleDescriptor .mutation),
            .done (.response response), log⟩ ∧
      response.status = .succeeded ∧
      ((SystemState.initial 0).follow hashingPlatform
        (sampleRun .mutation sampleAnswer)).world.database.findByKey sampleKey = some row ∧
      row.state = .committed ∧ row.Carries hashingPlatform.toPlatform response.result := by
  have agrees := answers_agree_with_rows { samplePlatform with sha256 := textHash } sampleTexts false
    (fun _ => True) textHash_injective _
    (follow_reachable hashingPlatform false (sampleRun .mutation sampleAnswer) 0) 0 _ _ _ _ _ _ rfl rfl
  obtain ⟨row, found, committed, carries⟩ := agrees.succeeded rfl
  exact ⟨_, _, row, rfl, rfl, found, committed, carries⟩

set_option maxRecDepth 16384 in
/-- A `READ` run answers `SUCCEEDED` and there is no row of its key. -/
theorem read_answer_has_no_row :
    ∃ response log, ((SystemState.initial 0).follow hashingPlatform
        (sampleRun .read sampleAnswer)).threads[0]? =
          some ⟨.execute sampleHandle sampleExecutor sampleRequest (sampleDescriptor .read),
            .done (.response response), log⟩ ∧
      response.status = .succeeded ∧
      ((SystemState.initial 0).follow hashingPlatform
        (sampleRun .read sampleAnswer)).world.database.findByKey sampleKey = none :=
  ⟨_, _, rfl, rfl, rfl⟩

end Crabedence
