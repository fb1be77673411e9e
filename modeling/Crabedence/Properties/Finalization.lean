import Crabedence.Refusal
import Crabedence.Properties.ReceiptDigest

/-!
# Idempotent finalisation

A `Finalize` that finds the row terminal compares the digest of its receipt, with the identity taken
from the row, with the stored one, and writes nothing.  One that overlaps with the winner's commit
makes the same comparison once its own update has missed.  What the digest tells apart is settled by
the bytes it hashes.
-/

namespace Crabedence

open Json Relational Resumption StoreM

/-- The answer of a comparison: success if the receipts are the same and a conflict if they are not.
Where the driver may fail, it may be an error in either case. -/
structure Compared (faults : Bool) (same : Prop) (reply : Except StoreError Unit) : Prop where
  repeated : reply = .ok () → same
  accepted : faults = false → same → reply = .ok ()
  conflict : faults = false → ¬ same →
    ∃ text, reply = .error (.message ("FINALIZATION_CONFLICT: " ++ text))

variable {same : Prop}

theorem Compared.faulted (error : StoreError) : Compared true same (.error error) :=
  ⟨nofun, nofun, nofun⟩

variable {faults : Bool} {platform : Platform} {store : SQLiteStore} {lease : Lease}
  {expectedState : State} {receipt : TerminalReceipt} {world : World} {log : List Mark}

section Comparison

theorem compared_already {id receiptDigest : String} {record : Record} :
    Compared faults (record.terminalReceiptDigest = receiptDigest)
      (SQLiteStore.finalizedAlready id receiptDigest record) := by
  unfold SQLiteStore.finalizedAlready
  split_ifs with same
  · exact ⟨fun _ => same, fun _ _ => rfl, fun _ differs => (differs same).elim⟩
  · exact ⟨nofun, fun _ repeats => (same repeats).elim, fun _ _ => ⟨_, rfl⟩⟩

theorem ensures_seen {id : String} :
    Ensures faults unguarded (fun reply later _ => ∃ seen, world.Evolves seen ∧
      seen.Evolves later ∧ ((∃ row, seen.find id = some row ∧ reply = .ok (.ok row.scan)) ∨
        ∃ error, reply = .ok (.error error) ∧ (faults = true ∨ seen.find id = none)))
      (store.lookup id).attempt world log := by
  apply ensures_attempt
  apply ensures_bind
  apply ensures_sql
  intro before moved
  have kept : before.commit store.epoch (.lookup id) = before := rfl
  refine ⟨trivial, ?_, ?_⟩
  · intro later further
    rw [kept] at further
    have answer : ((Transaction.lookup id).exec store.epoch before.now before.database).1 =
        (before.find id).map Row.scan := rfl
    rw [answer]
    cases found : before.find id with
    | none =>
      apply ensures_throw
      intro final afterwards
      exact ⟨before, moved, further.trans afterwards, .inr ⟨_, rfl, .inr found⟩⟩
    | some row =>
      apply ensures_pure
      intro final afterwards
      exact ⟨before, moved, further.trans afterwards, .inl ⟨row, found, rfl⟩⟩
  · intro faulty text later further final afterwards
    exact ⟨before, moved, further.trans afterwards, .inr ⟨_, rfl, .inl faulty⟩⟩

end Comparison

variable {write : TerminalWrite} {version : Int}

section Terminal

/-- Whatever the method answers is the answer of a comparison. -/
abbrev EnsuresCompared (faults : Bool) (same : Prop) (method : StoreM Unit) (world : World)
    (log : List Mark) : Prop :=
  Ensures faults unguarded (fun reply _ _ => Compared faults same reply) method world log

variable {row : Row} (found : world.find lease.executionID = some row)
  (final : row.state.isDurablyFinal = true)

include found final

theorem looked_terminal {next : Except StoreError Record → StoreM Unit}
    (read : ∀ (seen : World) current later log', Frozen row current →
      seen.find lease.executionID = some current →
      EnsuresCompared faults same (next (.ok current.scan)) later log')
    (failed : faults = true → ∀ error, Fails faults (next (.error error))) :
    EnsuresCompared faults same ((store.lookup lease.executionID).attempt >>= next) world log := by
  apply ensures_seq ensures_seen
  · intro error later log' saw
    obtain ⟨_, _, _, ⟨_, _, same⟩ | ⟨_, same, _⟩⟩ := saw <;> cases same
  intro looked later log' saw
  obtain ⟨seen, since, _, ⟨current, currentFound, same⟩ | ⟨reason, same, lost⟩⟩ := saw
  · cases same
    have frozen := holds_of_found (since.frozen found final) currentFound
    exact read seen current later log' frozen currentFound
  · cases same
    rcases lost with faulty | missing
    · apply (failed faulty reason later log').mono
      intro reply last log' error
      obtain ⟨error, rfl⟩ := error
      rw [faulty]
      exact .faulted error
    · obtain ⟨current, found', _⟩ := since.frozen found final
      rw [missing] at found'
      cases found'

theorem compared_missed
    (digested : terminalReceiptDigest platform (receipt.bindTo lease.executionID row.scan) =
      .ok write.receiptDigest) :
    EnsuresCompared faults ((EffectStore.finalize lease expectedState receipt).Repeats platform row)
      (store.classifyFinalizeFailure lease expectedState write) world log := by
  apply looked_terminal found final
  · intro seen current later log' frozen currentFound
    have ended : current.scan.state.isDurablyFinal = true :=
      (congrArg State.isDurablyFinal frozen.state).trans final
    dsimp only
    rw [if_pos ended, ← repeats_frozen frozen, repeats_iff currentFound ended
      (bindTo_identity frozen.identity ▸ digested)]
    exact ensures_lift fun _ _ => compared_already
  · exact fun _ _ => fails_classifyTransitionFailure

/-- The update of a `Finalize` that had read the row before it became terminal. -/
theorem compared_tried {durable : write.receipt.terminalStatus.isDurablyFinal = true}
    {legal : isLegalTransition expectedState write.receipt.terminalStatus = true}
    (digested : terminalReceiptDigest platform (receipt.bindTo lease.executionID row.scan) =
      .ok write.receiptDigest) :
    EnsuresCompared faults ((EffectStore.finalize lease expectedState receipt).Repeats platform row)
      (do if ← store.sql (.apply (.finalize lease expectedState version write durable legal)) then
            return
          else store.classifyFinalizeFailure lease expectedState write) world log := by
  apply ensures_update
  · intro before current later moved here allowed
    have frozen := holds_of_found (World.Evolves.frozen moved found final) here
    obtain ⟨_, _, _, _, release⟩ := Mutation.guard_final allowed (frozen.state ▸ final)
    cases release
  · intro before later log' moved _ further
    obtain ⟨row', found', frozen⟩ := World.Evolves.frozen (moved.trans further) found final
    rw [← repeats_frozen frozen]
    exact compared_missed found' (frozen.state ▸ final) (bindTo_identity frozen.identity ▸ digested)
  · intro faulty error _
    rw [faulty]
    exact .faulted error

/-- A `Finalize` of a terminal row. -/
theorem compared_finalize (acceptable : receipt.Acceptable platform lease expectedState row.scan) :
    EnsuresCompared faults ((EffectStore.finalize lease expectedState receipt).Repeats platform row)
      (store.finalize platform lease expectedState receipt) world log := by
  unfold SQLiteStore.finalize
  rw [dif_pos acceptable.final, dif_pos acceptable.legal, acceptable.check]
  apply looked_terminal found final
  · intro seen current later log' frozen currentFound
    have ended : current.scan.state.isDurablyFinal = true :=
      (congrArg State.isDurablyFinal frozen.state).trans final
    obtain ⟨receiptDigest, digested⟩ :=
      check_digests acceptable.check lease.executionID current.scan
    dsimp only
    unfold SQLiteStore.finalizeExisting
    rw [(acceptable.transfer frozen.identity).identity]
    simp only [digested]
    rw [if_pos ended, ← repeats_frozen frozen, repeats_iff currentFound ended digested]
    exact ensures_lift fun _ _ => compared_already
  · exact fun _ _ => fails_throw _

end Terminal

variable {method : StoreM Unit}

section Threads

def Sparing : Machine.Guard Operation World Mark
  | _, .sql epoch transaction, world, _ => world.Spares (world.commit epoch transaction)
  | _, .host _, _, _ => True

def Reading : Machine.Guard Operation World Mark
  | _, .sql _ transaction, _, _ => transaction.mutation? = none
  | _, .host _, _, _ => True

/-- What is left of a `Finalize` that is about to make its update. -/
def updating (store : SQLiteStore) (lease : Lease) (expectedState : State) (version : Int)
    (write : TerminalWrite) (final : write.receipt.terminalStatus.isDurablyFinal = true)
    (legal : isLegalTransition expectedState write.receipt.terminalStatus = true) :
    Program Operation Outcome :=
  (do if ← store.sql (.apply (.finalize lease expectedState version write final legal)) then return
      else store.classifyFinalizeFailure lease expectedState write : StoreM Unit).run.bind
    fun reply => .done (.written reply)

/-- A `Finalize` at its update has read the row and computed the digest of its receipt. -/
def Updating (platform : Platform) (store : SQLiteStore) (lease : Lease) (expectedState : State)
    (receipt : TerminalReceipt) (program : Program Operation Outcome) (world : World) : Prop :=
  ∀ epoch mutation next, program = .issue (.sql epoch (.apply mutation)) next →
    ∃ row version write final legal, world.find lease.executionID = some row ∧
      terminalReceiptDigest platform (receipt.bindTo lease.executionID row.scan) =
        .ok write.receiptDigest ∧
      program = updating store lease expectedState version write final legal

theorem updating_reading {Reply : Type} (operation : Operation Reply)
    (next : Reply → Program Operation Outcome) (reading : Reading operation world log) :
    Updating platform store lease expectedState receipt (.issue operation next) world := by
  intro epoch mutation next' same
  cases same
  cases reading

theorem updating_done (outcome : Outcome) :
    (system faults).Always (Updating platform store lease expectedState receipt) (.done outcome)
      world :=
  fun _ _ _ _ _ same => nomatch same

theorem reading_issues {Result : Type} {method : StoreM Result}
    (quiet : store.Issues Footprint.none method) :
    Ensures faults Reading (fun _ _ _ => True) method world log := by
  apply Machine.safe_of_emits quiet
  intro Reply operation before log' within
  cases operation with
  | host request => exact trivial
  | sql epoch transaction => cases transaction <;> first | rfl | exact within.2.elim

/-- The call of a method keeps to `Updating`. -/
abbrev AlwaysUpdating (faults : Bool) (platform : Platform) (store : SQLiteStore) (lease : Lease)
    (expectedState : State) (receipt : TerminalReceipt) (method : StoreM Unit) (world : World) : Prop :=
  (system faults).Always (Updating platform store lease expectedState receipt)
    (method.run.bind fun reply => .done (.written reply)) world

variable {Other : Type} {next : Other → StoreM Unit} {seen : World} {existing : Row}

theorem updating_seq {first : StoreM Other}
    {post : Except StoreError Other → World → List Mark → Prop}
    (quiet : store.Issues Footprint.none first)
    (ensured : Ensures faults unguarded post first world [])
    (continues : ∀ result later log', post (.ok result) later log' →
      AlwaysUpdating faults platform store lease expectedState receipt (next result) later) :
    AlwaysUpdating faults platform store lease expectedState receipt (first >>= next) world := by
  show (system faults).Always _ ((first.run.bind (ExceptT.bindCont next)).bind _) world
  rw [Program.bind_assoc]
  refine Machine.Always.bind (Machine.safe_iff_follows.mpr
    ⟨(Machine.safe_iff_follows.mp (@reading_issues faults store world [] _ _ quiet)).1, ?_⟩)
    fun operation continue_ world log => updating_reading operation continue_
  intro reply later log' reached
  have holds := (Machine.safe_iff_follows.mp ensured).2 reply later log' reached
  cases reply with
  | error error => exact updating_done _
  | ok result => exact continues result later log' holds

theorem updating_quiet (quiet : store.Issues Footprint.none method) :
    AlwaysUpdating faults platform store lease expectedState receipt method world := by
  have reads : Ensures faults Reading _ method world [] := reading_issues quiet
  apply Machine.Always.bind (reads.mono fun _ _ _ _ => updating_done _)
  exact fun operation continue_ world log => updating_reading operation continue_

theorem updating_checked {check : Except StoreError Other}
    (continues : ∀ result, check = .ok result →
      AlwaysUpdating faults platform store lease expectedState receipt (next result) world) :
    AlwaysUpdating faults platform store lease expectedState receipt (liftM check >>= next) world := by
  cases checked : check with
  | error error => exact updating_done _
  | ok result => exact continues result checked

theorem updating_update {final : write.receipt.terminalStatus.isDurablyFinal = true}
    {legal : isLegalTransition expectedState write.receipt.terminalStatus = true}
    (found : seen.find lease.executionID = some existing) (since : seen.Evolves world)
    (digested : terminalReceiptDigest platform (receipt.bindTo lease.executionID existing.scan) =
      .ok write.receiptDigest) :
    (system faults).Always (Updating platform store lease expectedState receipt)
      (updating store lease expectedState version write final legal) world := by
  intro before moved
  constructor
  · intro epoch mutation next same
    obtain ⟨row, found', identity⟩ := World.Evolves.identity (since.trans moved) found
    refine ⟨row, version, write, final, legal, found', ?_, rfl⟩
    rw [bindTo_identity identity]
    exact digested
  · intro reply after marks _
    match reply with
    | .error text => exact updating_done _
    | .ok true => exact updating_done _
    | .ok false => exact updating_quiet SQLiteStore.issues_classifyFinalizeFailure

theorem updating_existing {final : receipt.terminalStatus.isDurablyFinal = true}
    {legal : isLegalTransition expectedState receipt.terminalStatus = true}
    (found : seen.find lease.executionID = some existing) (since : seen.Evolves world) :
    AlwaysUpdating faults platform store lease expectedState receipt (store.finalizeExisting platform lease
      expectedState receipt final legal existing.scan) world := by
  apply updating_checked
  intro _ _
  dsimp only
  split
  · exact updating_done _
  next receiptDigest digested =>
  split_ifs
  · exact updating_quiet (SQLiteStore.issues_lift _)
  apply updating_checked
  intro _ _
  exact updating_update found since digested

theorem updating_finalize : AlwaysUpdating faults platform store lease expectedState receipt
      (store.finalize platform lease expectedState receipt) world := by
  unfold SQLiteStore.finalize
  split_ifs with final legal
  · apply updating_checked
    intro _ _
    apply updating_seq (SQLiteStore.issues_attempt SQLiteStore.issues_lookup) ensures_seen
    intro looked later log' saw
    obtain ⟨seen, _, since, ⟨existing, found, same⟩ | ⟨reason, same, _⟩⟩ := saw
    · cases same
      exact updating_existing found since
    · cases same
      exact updating_done _
  · exact updating_quiet (SQLiteStore.issues_bind (SQLiteStore.issues_lift _)
      fun _ => SQLiteStore.issues_throw _)
  · exact updating_done _

end Threads

section Runs

variable {platform : DispatchPlatform} {admitted : Call → Prop} {state : SystemState} {index : Nat}
  {handle : SQLiteStore} {program : Program Operation Outcome} {row : Row}

/-- A `Finalize` in progress that is still to look at the row: it has not started, or it has got to
its update and not looked again since. -/
def Uncompared (platform : DispatchPlatform) (faults : Bool) (admitted : Call → Prop)
    (state : SystemState) (index : Nat) (handle : SQLiteStore) (lease : Lease)
    (expectedState : State) (receipt : TerminalReceipt) (row : Row)
    (program : Program Operation Outcome) : Prop :=
  (program = (Call.store handle (.finalize lease expectedState receipt)).program platform ∧
    receipt.Acceptable platform.toPlatform lease expectedState row.scan) ∨
  ∃ earlier epoch mutation next log, Reachable platform faults admitted earlier ∧
    Pool.Reaches (scheduler platform faults admitted) earlier state ∧
    earlier.threads[index]? = some ⟨.store handle (.finalize lease expectedState receipt),
      .issue (.sql epoch (.apply mutation)) next, log⟩ ∧
    (program = .issue (.sql epoch (.apply mutation)) next ∨ program = next (.ok false))

theorem Reachable.settled (reachable : Reachable platform faults admitted state)
    (scheduled : state.threads[index]? = some ⟨.store handle (.finalize lease expectedState receipt),
      .done (.written (.ok ())), log⟩) : ∃ row, state.world.find lease.executionID = some row ∧
      receipt.Acceptable platform.toPlatform lease expectedState row.scan ∧
      (EffectStore.finalize lease expectedState receipt).Repeats platform.toPlatform row := by
  obtain ⟨start, reaches⟩ := reachable
  obtain ⟨_, _, follows⟩ := Pool.Reaches.started reaches scheduled (Nat.zero_le index)
  obtain ⟨reply, same, settled⟩ := call_outcome settled_finalize follows
  cases same
  exact settled rfl

theorem Reachable.updating {epoch : Int} {mutation : Mutation}
    {next : Except String Bool → Program Operation Outcome}
    (reachable : Reachable platform faults admitted state)
    (scheduled : state.threads[index]? = some ⟨.store handle (.finalize lease expectedState receipt),
      .issue (.sql epoch (.apply mutation)) next, log⟩) :
    ∃ row version write final legal, state.world.find lease.executionID = some row ∧
      terminalReceiptDigest platform.toPlatform (receipt.bindTo lease.executionID row.scan) =
        .ok write.receiptDigest ∧
      Program.issue (.sql epoch (.apply mutation)) next =
        Crabedence.updating handle lease expectedState version write final legal := by
  obtain ⟨start, reaches⟩ := reachable
  obtain ⟨_, _, follows⟩ := Pool.Reaches.started reaches scheduled (Nat.zero_le index)
  have always := Machine.Always.follows updating_finalize follows
  exact (always state.world .refl).1 epoch mutation next rfl

/-- Nothing a `Finalize` can still issue changes a terminal row. -/
theorem sparing_terminal {post : Outcome → World → List Mark → Prop}
    (emits : program.Emits (Operation.Within handle.epoch
      ((EffectStore.finalize lease expectedState receipt).footprint platform.toPlatform)))
    (found : world.find lease.executionID = some row) (final : row.state.isDurablyFinal = true)
    (safe : (system faults).Safe unguarded post program world log) :
    (system faults).Safe Sparing post program world log := by
  refine Machine.safe_iff_follows.mpr ⟨?_, (Machine.safe_iff_follows.mp safe).2⟩
  intro Reply operation next later log' reached
  cases operation with
  | host request => exact trivial
  | sql epoch transaction =>
    have within := (reached.emits emits).1
    apply Transaction.exec_spares within.2 (EffectStore.target_footprint rfl)
    intro mutation updates row' found'
    obtain ⟨_, _, _, _, _, _, _, rfl⟩ := updates
    have frozen := holds_of_found ((follows_evolves reached).frozen found final) found'
    by_contra hits
    rw [Bool.not_eq_false] at hits
    obtain ⟨_, _, _, _, release⟩ := Mutation.guard_final hits (frozen.state ▸ final)
    cases release

theorem compares_call (compares : EnsuresCompared faults same method world log) :
    (system faults).Safe unguarded (fun (outcome : Outcome) _ _ => ∃ reply,
      outcome = .written reply ∧ Compared faults same reply)
      (method.run.bind fun reply => .done (.written reply)) world log := by
  apply Machine.Safe.bind
  apply compares.mono
  exact fun reply _ _ compared _ _ => ⟨reply, rfl, compared⟩

/-- A `Finalize` that is still to look at a terminal row compares its receipt with it. -/
theorem Uncompared.compares
    (uncompared : Uncompared platform faults admitted state index handle lease expectedState receipt
      row program) (found : state.world.find lease.executionID = some row)
    (final : row.state.isDurablyFinal = true) :
    (system faults).Safe unguarded (fun (outcome : Outcome) _ _ => ∃ reply,
      outcome = .written reply ∧ Compared faults ((EffectStore.finalize lease expectedState
        receipt).Repeats platform.toPlatform row) reply) program state.world log := by
  rcases uncompared with ⟨rfl, acceptable⟩ | ⟨earlier, epoch, mutation, next, log', reachable, reaches,
    scheduled, waiting⟩
  · exact compares_call (compared_finalize found final acceptable)
  · obtain ⟨seen, version, write, durable, legal, seenFound, digested, same⟩ :=
      reachable.updating scheduled
    have identity := holds_of_found ((reaches_evolves reaches).identity seenFound) found
    rw [← bindTo_identity identity] at digested
    rcases waiting with rfl | rfl
    · rw [same]
      exact compares_call (compared_tried found final digested)
    · unfold Crabedence.updating at same
      cases same
      exact compares_call (compared_missed found final digested)

/-- A `Finalize` that finds the row terminal changes nothing, and succeeds if the digest of its
receipt is the stored one and reports a conflict otherwise.  The hashed bytes are the same for
receipts that agree on every hashed field, the strings rune by rune and the results as JSON values,
and for no others; the store's receipts, which are text, agree rune by rune only if they are equal.
However calls overlap, one that succeeds has the stored digest, and one that is still to look at a
terminal row makes that comparison. -/
theorem finalize_commits_once (platform : DispatchPlatform) (texts : ErrorTexts) (faults : Bool)
    (admitted : Call → Prop) :
    (∀ (store : SQLiteStore) (lease : Lease) (expectedState : State) (receipt : TerminalReceipt)
      (world : World) (row : Row), world.find lease.executionID = some row →
      row.state.isDurablyFinal = true →
      (system faults).Safe Sparing (fun (outcome : Outcome) _ _ => ∃ reply,
        outcome = .written reply ∧
        (receipt.Acceptable (platform.withJSON texts).toPlatform lease expectedState row.scan →
          Compared faults ((EffectStore.finalize lease expectedState receipt).Repeats
            (platform.withJSON texts).toPlatform row) reply) ∧
        (¬ receipt.Acceptable (platform.withJSON texts).toPlatform lease expectedState row.scan →
          ∃ error, reply = .error error))
        ((Call.store store (.finalize lease expectedState receipt)).program
          (platform.withJSON texts)) world []) ∧
    (∀ (receipt other : TerminalReceipt GoString GoString) (result second : Option (Value Number)),
      HoldsResult receipt.canonicalResult result → HoldsResult other.canonicalResult second →
      receipt.byteDigest platform.toPlatform texts = .ok (platform.sha256 (receipt.hashed result)) ∧
      other.byteDigest platform.toPlatform texts = .ok (platform.sha256 (other.hashed second)) ∧
      (receipt.hashed result = other.hashed second ↔ receipt.runes = other.runes ∧
        result.map (fun value => value.map Number.value) =
          second.map fun value => value.map Number.value)) ∧
    (∀ receipt other : TerminalReceipt,
      terminalReceiptDigest (platform.withJSON texts).toPlatform receipt =
        receipt.bytes.byteDigest platform.toPlatform texts ∧
      (receipt.bytes.runes = other.bytes.runes ↔ receipt.payload [] = other.payload [])) ∧
    ∀ (state : SystemState) (index : Nat) (handle : SQLiteStore) (lease : Lease)
      (expectedState : State) (receipt : TerminalReceipt) (program : Program Operation Outcome)
      (log : List Mark), Reachable (platform.withJSON texts) faults admitted state →
      state.threads[index]? = some ⟨.store handle (.finalize lease expectedState receipt), program,
        log⟩ →
      (program = .done (.written (.ok ())) → ∃ row,
        state.world.find lease.executionID = some row ∧
        (EffectStore.finalize lease expectedState receipt).Repeats
          (platform.withJSON texts).toPlatform row) ∧
      ∀ row, state.world.find lease.executionID = some row → row.state.isDurablyFinal = true →
        Uncompared (platform.withJSON texts) faults admitted state index handle lease expectedState
          receipt row program →
        (system faults).Safe Sparing (fun (outcome : Outcome) _ _ => ∃ reply,
          outcome = .written reply ∧ Compared faults ((EffectStore.finalize lease expectedState
            receipt).Repeats (platform.withJSON texts).toPlatform row) reply) program state.world
            log ∧
        ∀ (position : Nat) (winner : SQLiteStore) (held : Lease) (source : State)
          (winning : TerminalReceipt) (marks : List Mark), held.executionID = lease.executionID →
          state.threads[position]? = some ⟨.store winner (.finalize held source winning),
            .done (.written (.ok ())), marks⟩ →
          ((EffectStore.finalize lease expectedState receipt).Repeats
              (platform.withJSON texts).toPlatform row ↔
            terminalReceiptDigest (platform.withJSON texts).toPlatform
                (receipt.bindTo lease.executionID row.scan) =
              terminalReceiptDigest (platform.withJSON texts).toPlatform
                (winning.bindTo lease.executionID row.scan)) := by
  refine ⟨?_, ?_, ?_, ?_⟩
  · intro store lease expectedState receipt world row found final
    apply sparing_terminal (call_emits _) found final
    apply Machine.Safe.bind
    by_cases acceptable :
      receipt.Acceptable (platform.withJSON texts).toPlatform lease expectedState row.scan
    · apply (compared_finalize found final acceptable).mono
      exact fun reply _ _ compared _ _ =>
        ⟨reply, rfl, fun _ => compared, fun refused => (refused acceptable).elim⟩
    · apply (settled_finalize.and ensures_evolves).mono
      intro reply later _ ended last further
      refine ⟨reply, rfl, fun accepted => (acceptable accepted).elim, fun _ => ?_⟩
      cases reply with
      | error error => exact ⟨error, rfl⟩
      | ok _ =>
        obtain ⟨row', found', accepted, _⟩ := ended.1 rfl
        have frozen := holds_of_found (World.Evolves.frozen ended.2 found final) found'
        exact (acceptable (accepted.transfer frozen.identity.symm)).elim
  · intro receipt other result second holds holdsOther
    exact ⟨TerminalReceipt.byteDigest_holds _ holds, TerminalReceipt.byteDigest_holds _ holdsOther,
      TerminalReceipt.hashed_eq_iff⟩
  · intro receipt other
    exact ⟨terminalReceiptDigest_bytes _ receipt, TerminalReceipt.bytes_runes_eq_iff⟩
  · intro state index handle lease expectedState receipt program log reachable scheduled
    constructor
    · intro finished
      subst finished
      obtain ⟨row, found, _, repeats⟩ := reachable.settled scheduled
      exact ⟨row, found, repeats⟩
    · intro row found final uncompared
      constructor
      · obtain ⟨start, reaches⟩ := reachable
        obtain ⟨_, _, follows⟩ := Pool.Reaches.started reaches scheduled (Nat.zero_le index)
        exact sparing_terminal (follows.emits (call_emits _)) found final
          (uncompared.compares found final)
      · intro position winner held source winning marks same won
        have settled := reachable.settled won
        rw [same] at settled
        obtain ⟨_, repeats⟩ := holds_of_found settled found
        have named : row.executionID = lease.executionID := (Table.find_some_iff.mp found).2
        have stored := repeats.2
        rw [named] at stored
        simp only [EffectStore.Repeats, final, true_and, named, stored]

end Runs

/-- A second `Finalize` of the same row, with the update still to be made, when the first one
commits. -/
def sampleOverlap (receipt : TerminalReceipt) : List Choice :=
  sampleDrafted "provider" ++
    [.start (.store sampleHandle (.finalize sampleLease .inFlight receipt)),
      .serve 4 { leaseToken := "", executionID := "" },
      .serve 3 { leaseToken := "", executionID := "" }]

set_option maxRecDepth 8192 in
/-- Of two calls that overlap with the winner, the one with its receipt succeeds, and the one that
names another provider reports a conflict. -/
theorem finalize_commits_once_overlapping :
    (∃ program log, ((SystemState.initial 0).follow hashingPlatform
        (sampleOverlap (sampleNaming "provider"))).threads[4]? =
          some ⟨.store sampleHandle (.finalize sampleLease .inFlight (sampleNaming "provider")),
            program, log⟩ ∧
      (system false).Safe Sparing (fun (outcome : Outcome) _ _ => outcome = .written (.ok ()))
        program ((SystemState.initial 0).follow hashingPlatform
          (sampleOverlap (sampleNaming "provider"))).world log) ∧
    ∃ program log, ((SystemState.initial 0).follow hashingPlatform
        (sampleOverlap (sampleNaming "other"))).threads[4]? =
          some ⟨.store sampleHandle (.finalize sampleLease .inFlight (sampleNaming "other")),
            program, log⟩ ∧
      (system false).Safe Sparing (fun (outcome : Outcome) _ _ => ∃ text,
        outcome = .written (.error (.message ("FINALIZATION_CONFLICT: " ++ text))))
        program ((SystemState.initial 0).follow hashingPlatform
          (sampleOverlap (sampleNaming "other"))).world log := by
  have compares := (finalize_commits_once { samplePlatform with sha256 := textHash } sampleTexts
    false (fun _ => True)).2.2.2
  constructor
  · have reachable := follow_reachable hashingPlatform false
      (sampleOverlap (sampleNaming "provider")) 0
    have safe := ((compares _ 4 _ _ _ _ _ _ reachable rfl).2 _ rfl rfl
      (.inr ⟨_, _, _, _, _, reachable, .refl, rfl, .inl rfl⟩)).1
    refine ⟨_, _, rfl, safe.mono (fun _ _ _ spares => spares) ?_⟩
    intro outcome later log compared
    obtain ⟨reply, rfl, compared⟩ := compared
    rw [compared.accepted rfl ⟨rfl, rfl⟩]
  · have reachable := follow_reachable hashingPlatform false
      (sampleOverlap (sampleNaming "other")) 0
    have safe := ((compares _ 4 _ _ _ _ _ _ reachable rfl).2 _ rfl rfl
      (.inr ⟨_, _, _, _, _, reachable, .refl, rfl, .inl rfl⟩)).1
    refine ⟨_, _, rfl, safe.mono (fun _ _ _ spares => spares) ?_⟩
    intro outcome later log compared
    obtain ⟨reply, rfl, compared⟩ := compared
    obtain ⟨text, rfl⟩ := compared.conflict rfl fun repeats => by
      have payloads := @TerminalPayload.eq_of_marshal _ (some (.object [])) _ (some (.object [])) rfl
        rfl (textHash_injective (Except.ok.inj repeats.2))
      exact absurd (congrArg TerminalPayload.providerID payloads) (by decide)
    exact ⟨text, rfl⟩

def sampleAnonymous : TerminalReceipt :=
  { sampleNaming "provider" with principal := "", evidenceReceipt := [1] }

set_option maxRecDepth 8192 in
/-- A receipt whose own digest is not the stored one, and with other evidence than the winner's, is
taken for the winner's: the identity is filled in from the row, and the evidence is not hashed. -/
theorem finalize_accepts_other_receipt :
    ∃ row stored own log, ((SystemState.initial 0).follow hashingPlatform
        (sampleFinalized "provider")).world.find "execution" = some row ∧
      row.state = .committed ∧ row.terminal.receiptDigest = some stored ∧
      terminalReceiptDigest hashingPlatform.toPlatform sampleAnonymous = .ok own ∧ own ≠ stored ∧
      ((SystemState.initial 0).follow hashingPlatform (sampleFinalized "provider" ++
        [.start (.store sampleHandle (.finalize sampleLease .inFlight sampleAnonymous)),
          .serve 4 { leaseToken := "", executionID := "" }])).threads[4]? =
        some ⟨.store sampleHandle (.finalize sampleLease .inFlight sampleAnonymous),
          .done (.written (.ok ())), log⟩ ∧
      ∀ result, { sampleNaming "provider" with evidenceReceipt := [1] }.bytes.hashed result =
        (sampleNaming "provider").bytes.hashed result := by
  refine ⟨_, _, _, _, rfl, rfl, rfl, rfl, ?_, rfl, fun _ => rfl⟩
  intro same
  have payloads := @TerminalPayload.eq_of_marshal _ (some (.object [])) _ (some (.object [])) rfl rfl
    (textHash_injective same)
  exact absurd (congrArg TerminalPayload.principal payloads) (by decide)

end Crabedence
