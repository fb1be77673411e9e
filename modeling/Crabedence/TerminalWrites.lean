import Crabedence.Footprint

/-!
# Terminal writes

`Finalize` and `ResolveRecovery` read the row, take the identity of the receipt from what they read,
digest the receipt and demand its proof, and only then write.  The identity of a row never changes,
so what they established is still true of the row the statement hits.  Whatever follows from it for
the row holds of every terminal row from then on, because terminal rows are frozen.
-/

namespace Crabedence

open Relational Resumption StoreM

def Mutation.write? : Mutation → Option TerminalWrite
  | .finalize _ _ _ write _ _ | .resolveRecovery _ _ write _ _ => some write
  | _ => none

variable {row : Row} {mutation : Mutation} {now : Int}

variable {write : TerminalWrite}

theorem Mutation.write_final (writes : mutation.write? = some write) :
    (mutation.assign now row).state.isDurablyFinal = true := by
  cases mutation with
  | finalize lease expectedState version own final legal => exact final
  | resolveRecovery executionID version own material legal =>
    have edge := isLegalTransition_iff_edge.mp legal
    show own.receipt.terminalStatus.isDurablyFinal = true
    generalize own.receipt.terminalStatus = status at edge
    cases edge <;> rfl
  | _ => cases writes

theorem Mutation.write_open {cluster : ClusterMeta} (writes : mutation.write? = some write)
    (allowed : mutation.guard now cluster row = true) : row.state.isDurablyFinal = false := by
  cases mutation with
  | finalize lease expectedState version own final legal =>
    simp only [guard, Bool.and_eq_true, decide_eq_true_eq] at allowed
    rw [allowed.1.1.1.1]
    exact (isLegalTransition_iff_edge.mp legal).not_final
  | resolveRecovery executionID version own material legal =>
    simp only [guard, Bool.and_eq_true, decide_eq_true_eq] at allowed
    rw [allowed.1.1]
    rfl
  | _ => cases writes

/-- What a terminal method has established about its write from the record it read. -/
structure TerminalWrite.Drafted (platform : Platform) (store : SQLiteStore) (record : Record)
    (write : TerminalWrite) : Prop where
  executionID : write.receipt.executionID = record.executionID
  capability : write.receipt.capability = record.capabilityID
  principal : write.receipt.principal = record.principalID
  requestDigest : write.receipt.requestDigest = record.requestDigest
  digest : terminalReceiptDigest platform write.receipt = .ok write.receiptDigest
  proof : ∃ kind, store.requireProof platform kind record write.receipt
    write.receipt.terminalStatus = .ok ()

def Vouched (good : TerminalWrite → Row → Prop) : Machine.Guard Operation World Mark
  | _, .sql _ transaction, world, _ => ∀ mutation write row, transaction.mutation? = some mutation →
      mutation.write? = some write → world.find mutation.target = some row → good write row
  | _, .host _, _, _ => True

variable {Reply : Type}

section Methods

variable {platform : Platform} {faults : Bool} {store : SQLiteStore}
  {good : TerminalWrite → Row → Prop} {world : World} {log : List Mark}

theorem vouched_routine {operation : Operation Reply}
    (routine : operation.routine = true) : Vouched good operation world log := by
  cases operation with
  | host request => exact trivial
  | sql epoch transaction =>
    intro mutation write row issued writes
    cases transaction <;> cases issued
    cases mutation <;> cases writes <;> cases routine

variable {Result : Type} {executionID : String} {version : Int} {result : RecoveryResult}

theorem ensures_vouched {method : StoreM Result} {footprint : Footprint}
    (issues : store.Issues footprint method)
    (quiet : ∀ mutation, footprint.updates mutation → mutation.write? = none) :
    Ensures faults (Vouched good) (fun _ _ _ => True) method world log := by
  apply Machine.safe_of_emits issues
  intro Reply operation before log' within
  cases operation with
  | host request => exact trivial
  | sql own transaction =>
    intro mutation write row issued writes
    cases transaction <;> cases issued
    rw [quiet mutation within.2] at writes
    cases writes

variable (vouches : ∀ (row after : Row) (write : TerminalWrite),
  write.Drafted platform store row.scan → after.identity = row.identity → good write after)

include vouches

theorem ensures_terminal_write {seen : World}
    {otherwise : StoreM Unit} (writes : mutation.write? = some write)
    (found : seen.find mutation.target = some row) (since : seen.Evolves world)
    (drafted : write.Drafted platform store row.scan)
    (quiet : store.Issues Footprint.none otherwise) :
    Ensures faults (Vouched good) (fun _ _ _ => True)
      (do if ← store.sql (.apply mutation) then return else otherwise) world log := by
  apply ensures_bind
  apply ensures_sql
  intro before moved
  refine ⟨?_, ?_, fun _ _ _ _ _ _ => trivial⟩
  · intro mutation' write' row' issued writes' found'
    cases issued
    rw [writes, Option.some_inj] at writes'
    subst writes'
    have identity := holds_of_found (World.Evolves.identity (since.trans moved) found) found'
    exact vouches row row' write drafted identity
  · intro later _
    cases ((Transaction.apply mutation).exec store.epoch before.now before.database).1 with
    | true => exact ensures_pure fun _ _ => trivial
    | false => exact ensures_vouched quiet fun _ none => none.elim

theorem ensures_finalize {lease : Lease} {expectedState : State} {receipt : TerminalReceipt} :
    Ensures faults (Vouched good) (fun _ _ _ => True)
      (store.finalize platform lease expectedState receipt) world log := by
  unfold SQLiteStore.finalize
  split_ifs with final legal
  · apply ensures_checked fun _ _ _ _ => trivial
    intro _ checked _ _
    refine SQLiteStore.ensures_looked (fun _ => True) (fun _ _ => trivial)
      (fun _ _ routine => vouched_routine routine) (fun _ _ => ensures_throw fun _ _ => trivial) ?_
      trivial
    intro seen row later _ found since
    have named : row.executionID = lease.executionID := (Table.find_some_iff.mp found).2
    apply ensures_checked fun _ _ _ _ => trivial
    intro _ bound _ sinceLooked
    dsimp only
    split
    · exact ensures_throw fun _ _ => trivial
    next receiptDigest digested =>
    split_ifs with already
    · exact ensures_lift fun _ _ => trivial
    apply ensures_checked fun _ _ _ _ => trivial
    intro _ proved passes sinceBound
    have moved := since.trans (sinceLooked.trans sinceBound)
    exact ensures_terminal_write vouches rfl found moved
      ⟨named.symm, rfl, rfl, rfl, digested, _, passes⟩ SQLiteStore.issues_classifyFinalizeFailure
  · exact ensures_checked (fun _ _ _ _ => trivial) fun _ _ _ _ => ensures_throw fun _ _ => trivial
  · exact ensures_throw fun _ _ => trivial

theorem ensures_resolveDefinitively {newState : State} {legal : isLegalTransition .unknown newState} :
    Ensures faults (Vouched good) (fun _ _ _ => True)
      (store.resolveDefinitively platform executionID version result newState legal) world log := by
  unfold SQLiteStore.resolveDefinitively
  split_ifs with large
  · exact ensures_throw fun _ _ => trivial
  · apply ensures_checked fun _ _ _ _ => trivial
    intro material canonicalized _ _
    refine SQLiteStore.ensures_looked (fun _ => True) (fun _ _ => trivial)
      (fun _ _ routine => vouched_routine routine) (fun _ _ => ensures_throw fun _ _ => trivial) ?_
      trivial
    intro seen row later _ found since
    have named : row.executionID = executionID := (Table.find_some_iff.mp found).2
    apply ensures_checked fun _ _ _ _ => trivial
    intro _ proved passes sinceLooked
    dsimp only
    split
    · exact ensures_throw fun _ _ => trivial
    · next receiptDigest digested =>
      exact ensures_terminal_write vouches rfl found (since.trans sinceLooked)
        ⟨named.symm, rfl, rfl, rfl, digested, _, passes⟩ SQLiteStore.issues_classifyResolveFailure

theorem ensures_resolveRecovery : Ensures faults (Vouched good) (fun _ _ _ => True)
      (store.resolveRecovery platform executionID version result) world log := by
  unfold SQLiteStore.resolveRecovery
  cases result.decision with
  | committed | failed => exact ensures_resolveDefinitively vouches
  | unknown =>
    let touching : Footprint := ⟨(· = .touchUnknown executionID version), fun _ => False, False⟩
    have touches : touching.updates (.touchUnknown executionID version) := rfl
    apply ensures_vouched (SQLiteStore.issues_apply touches (SQLiteStore.issues_pure _)
      (SQLiteStore.issues_bind SQLiteStore.issues_checkEpoch fun _ => SQLiteStore.issues_throw _))
    intro mutation same
    rw [show mutation = .touchUnknown executionID version from same]
    rfl
  | retryable | conflict | other => exact ensures_throw fun _ _ => trivial

omit vouches

def EffectStore.terminates {Result : Type} : EffectStore Result → Bool
  | .finalize .. | .resolveRecovery .. => true
  | _ => false

theorem EffectStore.terminates_updates {call : EffectStore Result} (quiet : call.terminates = false)
    (issued : call.updates platform mutation) : mutation.write? = none := by
  cases mutation with
  | finalize | resolveRecovery =>
    cases call <;>
      simp only [EffectStore.updates, Mutation.acquires, reduceCtorEq, and_false, or_false,
        exists_false, Bool.false_eq_true] at issued
    cases quiet
  | _ => rfl

include vouches

theorem serve_vouched (call : EffectStore Result) :
    Ensures faults (Vouched good) (fun _ _ _ => True) (store.serve platform call) world log := by
  cases kind : call.terminates with
  | false =>
    apply ensures_vouched (serve_issues platform store call)
    exact fun mutation issued => EffectStore.terminates_updates kind issued
  | true =>
    cases call <;> cases kind
    case true.finalize.refl => exact ensures_finalize vouches
    case true.resolveRecovery.refl => exact ensures_resolveRecovery vouches

end Methods

section Invariant

variable {good : TerminalWrite → Row → Prop} {known holds : Row → Prop}
  {platform : DispatchPlatform} {faults : Bool} {call : Call} {epoch : Int} {log : List Mark}

theorem call_vouched (vouches : ∀ {Result : Type} (method : EffectStore Result) world log,
      Ensures faults (Vouched good) (fun _ _ _ => True)
        (call.handle.serve platform.toPlatform method) world log) (world : World) :
    (system faults).Safe (Vouched good) (fun _ _ _ => True) (call.program platform) world [] :=
  call_safe vouches (fun _ _ _ => trivial) world []

variable {admitted : Call → Prop} {state : SystemState}

/-- In every reachable state a terminal write that is about to be issued is good for the row it
finds. -/
theorem Reachable.writes
    (vouches : ∀ call, admitted call → ∀ {Result : Type} (method : EffectStore Result) world log,
      Ensures faults (Vouched good) (fun _ _ _ => True)
        (call.handle.serve platform.toPlatform method) world log)
    (reachable : Reachable platform faults admitted state) {index : Nat}
    {continue_ : Except String Bool → Program Operation Outcome}
    (scheduled : state.threads[index]? = some ⟨call, .issue (.sql epoch (.apply mutation)) continue_,
      log⟩) (writes : mutation.write? = some write)
    (found : state.world.find mutation.target = some row) : good write row := by
  obtain ⟨start, reaches⟩ := reachable
  have vouched := Pool.Reaches.guarded reaches
    (fun call world allowed _ => call_vouched (vouches call allowed) world) (Nat.zero_le index)
    scheduled
  exact vouched mutation write row rfl writes found

variable (unfinished : ∀ {row : Row}, row.state.isDurablyFinal = false → holds row)
variable (frozen : ∀ {row after : Row}, Frozen row after → holds row → holds after)
variable (terminates : ∀ {mutation : Mutation} {write : TerminalWrite} {now : Int}
  {cluster : ClusterMeta} {row : Row}, mutation.write? = some write → good write row →
  mutation.guard now cluster row = true → known row → holds (mutation.assign now row))

include unfinished frozen terminates

theorem RowStep.vouched {transaction : Transaction Reply} {cluster : ClusterMeta} {after : Row}
    (step : RowStep transaction epoch now cluster row after)
    (writes : ∀ mutation write, transaction.mutation? = some mutation →
      mutation.write? = some write → mutation.target = row.executionID → good write row)
    (knows : known row) (held : holds row) : holds after := by
  cases ended : after.state.isDurablyFinal with
  | false => exact unfinished ended
  | true =>
    by_cases final : row.state.isDurablyFinal = true
    · exact frozen (step.frozen final) held
    · cases step with
      | kept => exact held
      | mutated mutation issued target allowed current =>
        cases writing : mutation.write? with
        | none =>
          cases mutation <;> first | exact (final ended).elim | cases ended | cases writing
        | some write =>
          exact terminates writing (writes mutation write issued writing target) allowed knows
      | claimed kind owner duration issued allowed current =>
        cases kind <;> exact (final ended).elim
      | scrubbed issued waiting current => exact (final ended).elim

theorem World.commit_vouched {world : World} {transaction : Transaction Reply}
    (vouched : Vouched good (.sql epoch transaction) world log)
    (knows : ∀ id row, world.find id = some row → known row)
    (held : ∀ id row, world.find id = some row → holds row) :
    ∀ id row, (world.commit epoch transaction).find id = some row → holds row := by
  intro id row found
  cases earlier : world.find id with
  | none =>
    obtain ⟨request, rfl⟩ := Transaction.exec_new earlier found
    exact unfinished rfl
  | some current =>
    have step := holds_of_found (Transaction.exec_row earlier) found
    apply step.vouched unfinished frozen terminates _ (knows id current earlier)
      (held id current earlier)
    intro mutation write issued writes target
    have key : current.executionID = id := (Table.find_some_iff.mp earlier).2
    exact vouched mutation write current issued writes (by rw [target, key]; exact earlier)

/-- What follows from a good write, and from what is known of reached rows, holds of every reachable
row that is terminal, if every caller vouches for its writes. -/
theorem Reachable.vouched {platform : DispatchPlatform} {faults : Bool}
    (knows : ∀ {world : World}, world.Reached → ∀ id row, world.find id = some row → known row)
    (vouches : ∀ call, admitted call → ∀ {Result : Type} (method : EffectStore Result) world log,
      Ensures faults (Vouched good) (fun _ _ _ => True)
        (call.handle.serve platform.toPlatform method) world log)
    (reachable : Reachable platform faults admitted state) {id : String}
    (found : state.world.find id = some row) : holds row := by
  obtain ⟨start, reaches⟩ := reachable
  have kept : state.world.Reached ∧ ∀ id row, state.world.find id = some row → holds row := by
    refine Pool.Reaches.preserves
      (fun world => world.Reached ∧ ∀ id row, world.find id = some row → holds row) .refl reaches rfl
      (fun call world allowed _ => call_vouched (vouches call allowed) world) ?_ ?_
      ⟨⟨start, .refl⟩, fun _ _ absent => by cases absent⟩
    · intro before after drift ⟨reached, held⟩
      refine ⟨reached.moved drift.evolves, fun id row => ?_⟩
      unfold World.find
      rw [drift.1]
      exact held id row
    · intro Reply operation before after reply marks log vouched served ⟨reached, held⟩
      obtain ⟨served, _⟩ := served
      refine ⟨reached.moved served.evolves, ?_⟩
      cases operation with
      | host request => exact served.1 ▸ held
      | sql epoch transaction =>
        have committed := World.commit_vouched unfinished frozen terminates vouched (knows reached) held
        cases served with
        | committed => exact committed
        | refused faulty error => exact held
        | unacknowledged faulty error => exact committed
  exact kept.2 id row found

end Invariant

end Crabedence
