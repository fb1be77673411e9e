import Crabedence.Footprint

/-!
# Refused writes

The general rule for the methods that write one row: when a lasting fact about the row excludes every
statement a call may issue, the call fails, leaves requests and observations alone and adds nothing
to the events but contention notes.  The one exception is a `Finalize` that repeats the receipt the
row already stores.  Lease fencing and the refusal of contradicting observations are instances with
different facts.
-/

namespace Crabedence

open Relational Resumption StoreM

def Lasts (id : String) (fact : Int → Row → Prop) (world : World) : Prop :=
  ∀ after, world.Evolves after → ∃ row, after.find id = some row ∧ fact after.now row

def Mutation.Misses (mutation : Mutation) (fact : Int → Row → Prop) : Prop :=
  ∀ now cluster row, fact now row → mutation.guard now cluster row = false

variable {faults : Bool} {store : SQLiteStore} {Other : Type} {lease : Lease}
  {expectedState : State}

section Failures

def Fails (faults : Bool) (method : StoreM Unit) : Prop :=
  ∀ world log, Ensures faults unguarded (fun reply _ _ => ∃ error, reply = .error error) method
    world log

theorem fails_throw (error : StoreError) : Fails faults (throw error) :=
  fun _ _ => ensures_throw fun _ _ => ⟨error, rfl⟩

theorem fails_bind {first : StoreM Other} {next : Other → StoreM Unit}
    (fails : ∀ result, Fails faults (next result)) : Fails faults (first >>= next) := by
  intro world log
  apply ensures_seq ensures_evolves
  · exact fun error _ _ _ => ⟨error, rfl⟩
  · exact fun result later log' _ => fails result later log'

variable {executionID : String} {expectedVersion : Int}

theorem fails_classifyLease {action : String} {record : Record} :
    Fails faults (store.classifyLease action lease record) := by
  unfold SQLiteStore.classifyLease
  split_ifs
  · exact fails_bind fun _ => fails_throw _
  · exact fails_bind fun _ => fails_throw _
  · exact fails_throw _

theorem fails_classified {found : Record → StoreM Unit} {missing : StoreError → StoreError}
    (classifies : ∀ record, Fails faults (found record)) : Fails faults (do
      store.checkEpoch
      match ← (store.lookup executionID).attempt with
      | .error reason => throw (missing reason)
      | .ok record => found record) := by
  apply fails_bind
  intro _
  apply fails_bind
  intro looked
  cases looked with
  | error reason => exact fails_throw _
  | ok record => exact classifies record

theorem fails_classifyTransitionFailure :
    Fails faults (store.classifyTransitionFailure lease expectedState) := by
  apply fails_classified
  intro record
  split_ifs
  · exact fails_throw _
  · exact fails_throw _
  · exact fails_classifyLease

theorem fails_classifyRenewalFailure : Fails faults (store.classifyRenewalFailure lease) := by
  apply fails_classified
  intro record
  split_ifs
  · exact fails_throw _
  · exact fails_classifyLease

theorem fails_classifyAbandonFailure : Fails faults (store.classifyAbandonFailure lease) := by
  apply fails_classified
  intro record
  split_ifs
  · exact fails_throw _
  · exact fails_throw _
  · exact fails_classifyLease

theorem fails_claimLost {metadata message : String} :
    Fails faults (store.claimLost executionID metadata message) :=
  fails_bind fun _ => fails_bind fun _ => fails_throw _

theorem fails_classifyObservationFailure :
    Fails faults (store.classifyObservationFailure lease) := by
  apply fails_bind
  intro _
  apply fails_bind
  intro record
  split_ifs
  · exact fails_bind fun _ => fails_throw _
  · exact fails_throw _
  · exact fails_throw _

theorem fails_classifyEnterRecoveryFailure :
    Fails faults (store.classifyEnterRecoveryFailure executionID expectedState expectedVersion) := by
  apply fails_bind
  intro _
  apply fails_bind
  intro record
  split_ifs
  · exact fails_throw _
  · exact fails_throw _

theorem fails_classifyResolveFailure :
    Fails faults (store.classifyResolveFailure executionID expectedVersion) := by
  apply fails_classified
  intro record
  split_ifs
  · exact fails_throw _
  · exact fails_throw _

end Failures

variable {start world : World} {log : List Mark} {Result : Type} {id : String}

section Successes

variable {environment : Environment} {platform : Platform}

/-- The statement took effect on a row between `start` and `later`. -/
def Hit (environment : Environment) (store : SQLiteStore) (mutation : Mutation)
    (start later : World) : Prop :=
  ∃ (before : World) (row : Row), environment.rely start before ∧
    before.find mutation.target = some row ∧
    mutation.guard before.now before.database.cluster row = true ∧
    before.database.cluster.epoch = store.epoch ∧
    environment.rely (before.commit store.epoch (.apply mutation)) later

/-- The row already stores the receipt a `Finalize` presents. -/
def EffectStore.Repeats (platform : Platform) (call : EffectStore Result) (row : Row) : Prop :=
  match call with
  | .finalize _ _ receipt => row.state.isDurablyFinal = true ∧
      terminalReceiptDigest platform (receipt.bindTo row.executionID row.scan) =
        .ok row.scan.terminalReceiptDigest
  | _ => False

def EffectStore.target? : EffectStore Result → Option String
  | .beginExecution lease | .markInFlight lease .. | .renewLease lease _
  | .abandonPreDispatch lease | .finalize lease .. | .recordProviderObservation lease _ =>
    some lease.executionID
  | .enterRecovery executionID .. | .enterRecoveryWithObservation executionID ..
  | .resolveRecovery executionID .. | .recoverExpiredPreDispatch executionID _
  | .releaseReconcileClaim executionID .. | .suspendReconciliation executionID ..
  | .renewReconcileClaim executionID .. => some executionID
  | _ => none

/-- How a single-row call may end: it failed, it repeated what the row stores, or one of its
statements hit the row. -/
inductive Ends (environment : Environment) (platform : Platform) (store : SQLiteStore)
    (call : EffectStore Result) (id : String) (start : World) :
    Except StoreError Result → World → Prop where
  | failed {later : World} (error : StoreError) :
      Ends environment platform store call id start (.error error) later
  | repeated {reply : Except StoreError Result} {later : World} (row : Row)
      (found : later.find id = some row) (repeats : call.Repeats platform row) :
      Ends environment platform store call id start reply later
  | hit {reply : Except StoreError Result} {later : World} (mutation : Mutation)
      (updates : call.updates platform mutation)
      (hits : Hit environment store mutation start later) :
      Ends environment platform store call id start reply later

variable {call : EffectStore Unit}

/-- The condition a call ends in. -/
abbrev Ending (environment : Environment) (platform : Platform) (store : SQLiteStore)
    (call : EffectStore Result) (id : String) (start : World) :
    Except StoreError Result → World → List Mark → Prop :=
  fun reply later _ => Ends environment platform store call id start reply later

theorem ends_throw (error : StoreError) :
    EnsuresIn environment faults unguarded (Ending environment platform store call id start)
      (throw error) world log :=
  ensures_throw fun _ _ => .failed error

variable {method : StoreM Unit}

theorem Fails.ends (fails : Fails faults method) :
    EnsuresIn environment faults unguarded (Ending environment platform store call id start) method
      world log := by
  apply ((fails world log).restrict environment).mono
  intro reply later _ failed
  obtain ⟨error, rfl⟩ := failed
  exact .failed error

variable {mutation : Mutation} {otherwise : StoreM Unit}

theorem ensures_update {post : Except StoreError Unit → World → Prop}
    (hit : ∀ before row later, environment.rely world before →
      before.find mutation.target = some row →
      mutation.guard before.now before.database.cluster row = true →
      before.database.cluster.epoch = store.epoch →
      environment.rely (before.commit store.epoch (.apply mutation)) later → post (.ok ()) later)
    (missed : ∀ before later log', environment.rely world before →
      ((Transaction.apply mutation).exec store.epoch before.now before.database).1 = false →
      environment.rely before later →
      EnsuresIn environment faults unguarded (fun reply later _ => post reply later) otherwise later
        log') (faulted : faults = true → ∀ error later, post (.error error) later) :
    EnsuresIn environment faults unguarded (fun reply later _ => post reply later)
      (do if ← store.sql (.apply mutation) then return else otherwise) world log := by
  apply ensures_bind
  apply ensuresIn_sql
  intro before moved
  refine ⟨trivial, fun later further => ?_, fun faulty _ _ _ last _ => faulted faulty _ last⟩
  cases applied : ((Transaction.apply mutation).exec store.epoch before.now before.database).1 with
  | true =>
    obtain ⟨row, found, allowed, current⟩ := Database.applyMutation_hit_iff.mp applied
    apply ensures_pure
    intro last afterwards
    exact hit before row last moved found allowed current (environment.trans further afterwards)
  | false =>
    have kept : before.commit store.epoch (.apply mutation) = before :=
      World.commit_eq (Database.applyMutation_miss applied)
    exact missed before later _ moved applied (kept ▸ further)

theorem ends_apply (updates : call.updates platform mutation) (since : environment.rely start world)
    (fails : Fails faults otherwise) :
    EnsuresIn environment faults unguarded (Ending environment platform store call id start)
      (do if ← store.sql (.apply mutation) then return else otherwise) world log := by
  apply ensures_update
  · intro before row later moved found allowed current further
    exact .hit mutation updates ⟨before, row, environment.trans since moved, found, allowed,
      current, further⟩
  · exact fun _ _ _ _ _ _ => fails.ends
  · exact fun _ error _ => .failed error

theorem ends_checked {check : Except StoreError Other} {next : Other → StoreM Unit}
    (continues : ∀ result later, check = .ok result → environment.rely world later →
      EnsuresIn environment faults unguarded (Ending environment platform store call id start)
        (next result) later log) :
    EnsuresIn environment faults unguarded (Ending environment platform store call id start)
      (liftM check >>= next) world log :=
  ensures_checked (fun error _ _ _ => .failed error) continues

section Finalize

variable {receipt : TerminalReceipt}

/-- The arguments of a `Finalize` pass the checks it makes before it compares or writes. -/
structure TerminalReceipt.Acceptable (platform : Platform) (lease : Lease) (expectedState : State)
    (record : Record) (receipt : TerminalReceipt) : Prop where
  final : receipt.terminalStatus.isDurablyFinal = true
  legal : isLegalTransition expectedState receipt.terminalStatus = true
  check : receipt.check platform = .ok ()
  identity : receipt.checkIdentity lease.executionID record = .ok ()

variable {row after : Row}

theorem bindTo_identity (identity : after.identity = row.identity) :
    receipt.bindTo id after.scan = receipt.bindTo id row.scan := by
  simp only [TerminalReceipt.bindTo, Row.scan, identity]

theorem TerminalReceipt.Acceptable.transfer (identity : after.identity = row.identity)
    (acceptable : receipt.Acceptable platform lease expectedState row.scan) :
    receipt.Acceptable platform lease expectedState after.scan := by
  refine ⟨acceptable.final, acceptable.legal, acceptable.check, ?_⟩
  rw [← acceptable.identity]
  simp only [TerminalReceipt.checkIdentity, Row.scan, identity]

theorem repeats_frozen (frozen : Frozen row after) :
    (EffectStore.finalize lease expectedState receipt).Repeats platform after ↔
      (EffectStore.finalize lease expectedState receipt).Repeats platform row := by
  have bound : receipt.bindTo after.executionID after.scan =
      receipt.bindTo row.executionID row.scan := by
    simp only [TerminalReceipt.bindTo, Row.scan, Row.executionID, frozen.identity]
  have stored : after.scan.terminalReceiptDigest = row.scan.terminalReceiptDigest := by
    simp only [Row.scan, frozen.terminal]
  simp only [EffectStore.Repeats, bound, frozen.state, stored]

variable {receiptDigest : String}

theorem repeats_iff (found : world.find lease.executionID = some row)
    (final : row.state.isDurablyFinal = true)
    (digested : terminalReceiptDigest platform (receipt.bindTo lease.executionID row.scan) =
      .ok receiptDigest) : (EffectStore.finalize lease expectedState receipt).Repeats platform row ↔
      row.scan.terminalReceiptDigest = receiptDigest := by
  have named : row.executionID = lease.executionID := (Table.find_some_iff.mp found).2
  simp only [EffectStore.Repeats, named, digested, Except.ok.injEq, final, true_and]
  exact eq_comm

theorem check_digests (checked : receipt.check platform = .ok ()) (id : String) (record : Record) :
    ∃ digest, terminalReceiptDigest platform (receipt.bindTo id record) = .ok digest := by
  unfold TerminalReceipt.check at checked
  simp only [bind, Except.bind] at checked
  split_ifs at checked
  cases canonical : canonicalizeJSON platform receipt.canonicalResult with
  | error reason =>
    rw [canonical] at checked
    cases checked
  | ok bytes =>
    have bound : canonicalizeJSON platform (receipt.bindTo id record).canonicalResult =
        .ok bytes := canonical
    unfold terminalReceiptDigest TerminalReceipt.digest
    rw [bound]
    exact ⟨_, rfl⟩

def Settled (platform : Platform) (lease : Lease) (expectedState : State)
    (receipt : TerminalReceipt) (reply : Except StoreError Unit) (later : World) : Prop :=
  reply = .ok () → ∃ row, later.find lease.executionID = some row ∧
    receipt.Acceptable platform lease expectedState row.scan ∧
    (EffectStore.finalize lease expectedState receipt).Repeats platform row

/-- A success of the method leaves a row with the receipt behind. -/
abbrev EnsuresSettled (environment : Environment) (faults : Bool) (platform : Platform)
    (lease : Lease) (expectedState : State) (receipt : TerminalReceipt) (method : StoreM Unit)
    (world : World) (log : List Mark) : Prop :=
  EnsuresIn environment faults unguarded (fun reply later _ =>
    Settled platform lease expectedState receipt reply later) method world log

theorem Settled.error (error : StoreError) (later : World) :
    Settled platform lease expectedState receipt (.error error) later :=
  nofun

theorem Settled.moved {reply : Except StoreError Unit} {later : World}
    (settled : Settled platform lease expectedState receipt reply world)
    (evolves : world.Evolves later) : Settled platform lease expectedState receipt reply later := by
  intro succeeded
  obtain ⟨row, found, acceptable, repeats⟩ := settled succeeded
  obtain ⟨row', found', frozen⟩ := evolves.frozen found repeats.1
  exact ⟨row', found', acceptable.transfer frozen.identity, (repeats_frozen frozen).mpr repeats⟩

theorem Fails.settled (fails : Fails faults method) :
    EnsuresSettled environment faults platform lease expectedState receipt method world log := by
  apply ((fails world log).restrict environment).mono
  intro reply later _ failed
  obtain ⟨error, rfl⟩ := failed
  exact .error error later

theorem settled_checked {check : Except StoreError Other} {next : Other → StoreM Unit}
    (continues : ∀ result later, check = .ok result → environment.rely world later →
      EnsuresSettled environment faults platform lease expectedState receipt (next result) later
        log) :
    EnsuresSettled environment faults platform lease expectedState receipt (liftM check >>= next)
      world log :=
  ensures_checked (fun error later _ _ => .error error later) continues

theorem settled_looked {next : Except StoreError Record → StoreM Unit}
    (failed : ∀ error, Fails faults (next (.error error)))
    (read : ∀ (seen : World) (row : Row) later, environment.rely world seen →
      seen.find lease.executionID = some row → environment.rely seen later →
      EnsuresSettled environment faults platform lease expectedState receipt (next (.ok row.scan))
        later log) : EnsuresSettled environment faults platform lease expectedState receipt
      ((store.lookup lease.executionID).attempt >>= next) world log :=
  SQLiteStore.ensures_looked (environment.rely world)
    (fun moved since => environment.trans since moved) (fun _ _ _ => trivial)
    (fun error _ => (failed error).settled) read (environment.refl world)

variable {seen : World} {existing : Row}

theorem settled_already {current : Row}
    (acceptable : receipt.Acceptable platform lease expectedState existing.scan)
    (digested : terminalReceiptDigest platform (receipt.bindTo lease.executionID existing.scan) =
      .ok receiptDigest) (identity : current.identity = existing.identity)
    (found : seen.find lease.executionID = some current) (since : environment.rely seen world)
    (final : current.state.isDurablyFinal = true) :
    EnsuresSettled environment faults platform lease expectedState receipt
      (liftM (SQLiteStore.finalizedAlready lease.executionID receiptDigest current.scan)) world
      log := by
  apply ensures_lift
  intro later moved
  apply Settled.moved _ (environment.evolves (environment.trans since moved))
  intro succeeded
  unfold SQLiteStore.finalizedAlready at succeeded
  split_ifs at succeeded with same
  exact ⟨current, found, acceptable.transfer identity,
    (repeats_iff found final (bindTo_identity identity ▸ digested)).mpr same⟩

/-- What `Finalize` does once it has read the row. -/
theorem settled_existing {final : receipt.terminalStatus.isDurablyFinal = true}
    {legal : isLegalTransition expectedState receipt.terminalStatus = true}
    (checked : receipt.check platform = .ok ())
    (found : seen.find lease.executionID = some existing) (since : environment.rely seen world) :
    EnsuresSettled environment faults platform lease expectedState receipt
      (store.finalizeExisting platform lease expectedState receipt final legal existing.scan) world
      log := by
  obtain ⟨receiptDigest, digested⟩ := check_digests checked lease.executionID existing.scan
  apply settled_checked
  intro _ compared identified moved
  have acceptable : receipt.Acceptable platform lease expectedState existing.scan :=
    ⟨final, legal, checked, identified⟩
  dsimp only
  rw [digested]
  split_ifs with settled
  · exact settled_already acceptable digested rfl found (environment.trans since moved)
      settled
  apply settled_checked
  intro _ proven _ further
  have sinceSeen := environment.trans since (environment.trans moved further)
  apply ensures_update
  · intro before row later sinceProven here allowed current sinceCommit
    have evolved := environment.evolves (environment.trans sinceSeen sinceProven)
    have identity := holds_of_found (evolved.identity found) here
    apply Settled.moved _ (environment.evolves sinceCommit)
    intro _
    have hit := World.commit_hit here allowed current
    have kept (mutation : Mutation) :
        (mutation.assign before.now row).identity = existing.identity :=
      (mutation.assign_identity before.now row).trans identity
    have bound (mutation : Mutation) : terminalReceiptDigest platform (receipt.bindTo
        lease.executionID (mutation.assign before.now row).scan) = .ok receiptDigest := by
      rw [bindTo_identity (kept mutation)]
      exact digested
    exact ⟨_, hit, acceptable.transfer (kept _), (repeats_iff hit final (bound _)).mpr rfl⟩
  · intro before later log' sinceProven _ sinceMiss
    apply settled_looked
    · exact fun _ => fails_classifyTransitionFailure
    -- the second lookup reads the same request again, whatever happened in between
    intro again current last sinceLater currentFound sinceAgain
    have sinceMissed := environment.trans sinceProven (environment.trans sinceMiss sinceLater)
    have evolved := environment.evolves (environment.trans sinceSeen sinceMissed)
    have identity := holds_of_found (evolved.identity found) currentFound
    dsimp only
    split_ifs with settledNow
    · exact settled_already acceptable digested identity currentFound sinceAgain settledNow
    · exact (fails_throw _).settled
    · exact fails_classifyTransitionFailure.settled
  · exact fun _ error later => .error error later

theorem settled_finalize : EnsuresSettled environment faults platform lease expectedState receipt
      (store.finalize platform lease expectedState receipt) world log := by
  unfold SQLiteStore.finalize
  split_ifs with final legal
  · apply settled_checked
    intro _ start checked _
    apply settled_looked
    · exact fun _ => fails_throw _
    · exact fun seen row later _ found since => settled_existing checked found since
  · exact (fails_bind fun _ => fails_throw _).settled
  · exact (fails_throw _).settled

theorem ends_finalize : EnsuresIn environment faults unguarded (Ending environment platform store
      (.finalize lease expectedState receipt) lease.executionID start)
      (store.finalize platform lease expectedState receipt) world log := by
  apply settled_finalize.mono
  intro reply later _ settled
  cases reply with
  | error error => exact .failed error
  | ok _ =>
    obtain ⟨row, found, _, repeats⟩ := settled rfl
    exact .repeated row found repeats

end Finalize

theorem ends_resolveDefinitively {executionID : String} {version : Int} {result : RecoveryResult}
    {newState : State} {legal : isLegalTransition .unknown newState = true}
    (since : environment.rely start world) :
    EnsuresIn environment faults unguarded (Ending environment platform store
      (.resolveRecovery executionID version result) executionID start)
      (store.resolveDefinitively platform executionID version result newState legal) world log := by
  unfold SQLiteStore.resolveDefinitively
  split_ifs
  · exact ends_throw _
  · apply ends_checked
    intro material canonical _ sinceWorld
    refine SQLiteStore.ensures_looked (environment.rely canonical)
      (fun moved since => environment.trans since moved) (fun _ _ _ => trivial)
      (fun _ _ => ends_throw _) ?_ (environment.refl canonical)
    intro seen existing later sinceCanonical found moved
    apply ends_checked
    intro _ proved _ sinceLater
    split
    · exact ends_throw _
    · next receiptDigest digested =>
      have sinceLooked := environment.trans sinceCanonical (environment.trans moved sinceLater)
      apply ends_apply _ (environment.trans since (environment.trans sinceWorld sinceLooked))
        fails_classifyResolveFailure
      exact .inl ⟨existing.scan, newState, _, material, legal, rfl, digested, rfl⟩

/-- A single-row call succeeds only by a hit of one of its statements, or by repeating what the row
stores. -/
theorem serve_ends {call : EffectStore Result} (target : call.target? = some id)
    (since : environment.rely start world) :
    EnsuresIn environment faults unguarded (Ending environment platform store call id start)
      (store.serve platform call) world log := by
  cases call <;> cases target
  case beginExecution => exact ends_apply rfl since fails_classifyTransitionFailure
  case markInFlight lease providerID recoveryLocator =>
    apply ends_checked
    intro persisted later _ moved
    dsimp only
    split_ifs
    · exact ends_throw _
    · exact ends_apply ⟨persisted, rfl⟩ (environment.trans since moved)
        fails_classifyTransitionFailure
  case renewLease lease duration =>
    apply ends_checked
    intro _ later _ moved
    exact ends_apply rfl (environment.trans since moved) fails_classifyRenewalFailure
  case abandonPreDispatch => exact ends_apply rfl since fails_classifyAbandonFailure
  case finalize => exact ends_finalize
  case recordProviderObservation lease observation =>
    apply ends_checked
    intro material later made moved
    exact ends_apply ⟨material, made, rfl⟩ (environment.trans since moved)
      fails_classifyObservationFailure
  case enterRecovery expectedState version =>
    show EnsuresIn environment faults unguarded _ (store.enterRecovery id expectedState version)
      world log
    unfold SQLiteStore.enterRecovery
    split_ifs with legal
    · exact ends_apply ⟨legal, rfl⟩ since (fails_bind fun _ => fails_throw _)
    · exact ends_throw _
  case enterRecoveryWithObservation expectedState version observation =>
    show EnsuresIn environment faults unguarded _ (store.enterRecoveryWithObservation platform id
      expectedState version observation) world log
    unfold SQLiteStore.enterRecoveryWithObservation
    split_ifs with legal
    · apply ends_checked
      intro material later made moved
      exact ends_apply ⟨material, legal, made, rfl⟩ (environment.trans since moved)
        fails_classifyEnterRecoveryFailure
    · exact ends_throw _
  case resolveRecovery version result =>
    show EnsuresIn environment faults unguarded _ (store.resolveRecovery platform id version result)
      world log
    unfold SQLiteStore.resolveRecovery
    cases decided : result.decision with
    | committed | failed => exact ends_resolveDefinitively since
    | unknown => exact ends_apply (.inr ⟨decided, rfl⟩) since (fails_bind fun _ => fails_throw _)
    | retryable | conflict | other decision => exact ends_throw _
  case recoverExpiredPreDispatch version =>
    exact ends_apply rfl since (fails_bind fun _ => fails_throw _)
  case releaseReconcileClaim => exact ends_apply rfl since fails_claimLost
  case suspendReconciliation => exact ends_apply rfl since fails_claimLost
  case renewReconcileClaim => exact ends_apply rfl since fails_claimLost

end Successes

section Refusals

variable {platform : Platform} {fact : Int → Row → Prop} {call : EffectStore Result}

def EffectStore.Excluded (platform : Platform) (call : EffectStore Result)
    (fact : Int → Row → Prop) : Prop :=
  ∀ mutation, call.updates platform mutation → mutation.Misses fact

theorem EffectStore.target_updates (target : call.target? = some id) {mutation : Mutation}
    (updates : call.updates platform mutation) : mutation.target = id := by
  cases call <;> cases target
  case markInFlight => obtain ⟨_, rfl⟩ := updates; rfl
  case finalize => obtain ⟨_, _, _, _, _, _, _, rfl⟩ := updates; rfl
  case recordProviderObservation => obtain ⟨_, _, rfl⟩ := updates; rfl
  case enterRecovery => obtain ⟨_, rfl⟩ := updates; rfl
  case enterRecoveryWithObservation => obtain ⟨_, _, _, rfl⟩ := updates; rfl
  case resolveRecovery =>
    rcases updates with ⟨_, _, _, _, _, _, _, rfl⟩ | ⟨_, rfl⟩
    · rfl
    · rfl
  all_goals
    cases updates
    rfl

def Refused (platform : Platform) (id : String) (call : EffectStore Result)
    (reply : Except StoreError Result) (later : World) : Prop :=
  (∃ error, reply = .error error) ∨
    ∃ row, later.find id = some row ∧ call.Repeats platform row

theorem refused_call (target : call.target? = some id) (lasts : Lasts id fact world)
    (excluded : call.Excluded platform fact) :
    Ensures faults unguarded (fun reply later _ => Refused platform id call reply later)
      (store.serve platform call) world log := by
  have ended : Ensures faults unguarded (Ending .unrestricted platform store call id world)
      (store.serve platform call) world log := serve_ends target .refl
  apply ended.mono
  intro reply later _ ends
  cases ends with
  | failed error => exact .inl ⟨error, rfl⟩
  | repeated row found repeats => exact .inr ⟨row, found, repeats⟩
  | hit mutation updates hits =>
    obtain ⟨before, row, evolves, found, allowed, _⟩ := hits
    rw [EffectStore.target_updates target updates] at found
    have holds := holds_of_found (lasts before evolves) found
    rw [excluded mutation updates _ _ _ holds] at allowed
    cases allowed

end Refusals

section Threads

variable {platform : DispatchPlatform} {handle : SQLiteStore} {call : EffectStore Result}
  {later : World} {program : Program Operation Outcome}

theorem EffectStore.target_footprint {platform : Platform} (target : call.target? = some id) :
    ¬ (call.footprint platform).bulk ∧ ∀ request, ¬ (call.footprint platform).inserts request := by
  cases call <;> cases target <;> exact ⟨fun bulk => bulk, fun _ inserted => inserted⟩

theorem EffectStore.target_outcome (target : call.target? = some id) (error : StoreError) :
    call.outcome (.error error) = .written (.error error) := by
  cases call <;> first | rfl | cases target

/-- Requests and observations are kept, and at most one event is added, which notes contention. -/
structure World.Spares (before after : World) : Prop where
  requests : after.database.requests = before.database.requests
  observations : after.database.observations = before.database.observations
  events : after.database.events = before.database.events ∨
    ∃ event, after.database.events = before.database.events ++ [event] ∧
      event.eventType.isContention = true

theorem World.Spares.refl (world : World) : world.Spares world := ⟨rfl, rfl, .inl rfl⟩

theorem Transaction.exec_spares {Reply : Type} {transaction : Transaction Reply}
    {epoch : Int} {footprint : Footprint} (permitted : footprint.Permits transaction)
    (single : ¬ footprint.bulk ∧ ∀ request, ¬ footprint.inserts request)
    (misses : ∀ mutation, footprint.updates mutation → ∀ row,
      world.find mutation.target = some row →
      mutation.guard world.now world.database.cluster row = false) :
    world.Spares (world.commit epoch transaction) := by
  cases transaction with
  | insert request => exact (single.2 request permitted).elim
  | claim kind owner duration limit | scrubLocators retention => exact (single.1 permitted).elim
  | apply mutation =>
    have missed : (world.database.applyMutation epoch world.now mutation).1 = false := by
      rw [← Bool.not_eq_true, Database.applyMutation_hit_iff]
      intro hit
      obtain ⟨row, found, allowed, _⟩ := hit
      rw [misses mutation permitted row found] at allowed
      cases allowed
    have kept : world.commit epoch (.apply mutation) = world :=
      World.commit_eq (Database.applyMutation_miss missed)
    rw [kept]
    exact .refl world
  | noteContention executionID eventType metadata =>
    unfold World.commit
    simp only [exec, Database.insertEffectEvent]
    split
    · exact .refl world
    · exact ⟨rfl, rfl, .inr ⟨_, rfl, permitted⟩⟩
  | advanceEpoch expected reason =>
    unfold World.commit
    simp only [exec, Database.advanceEpoch]
    split_ifs <;> exact ⟨rfl, rfl, .inl rfl⟩
  | completeRecovery expected resolution =>
    unfold World.commit
    simp only [exec, Database.completeRecovery]
    split_ifs <;> exact ⟨rfl, rfl, .inl rfl⟩
  | _ => exact .refl world

/-- What a rejected caller is doing: whatever it issues next leaves requests and observations alone
and at most notes contention, and if it is done, it failed, unless the row excuses its success. -/
structure Rejected (faults : Bool) (world : World) (id : String) (excused : Row → Prop)
    (program : Program Operation Outcome) : Prop where
  spares : ∀ {Reply : Type} (operation : Operation Reply) next reply after,
    program = .issue operation next → Serves faults operation world reply after →
    world.Spares after
  fails : ∀ outcome, program = .done outcome → (∃ error, outcome = .written (.error error)) ∨
    ∃ row, world.find id = some row ∧ excused row

theorem call_emits (call : EffectStore Result) : ((Call.store handle call).program platform).Emits
      (Operation.Within handle.epoch (call.footprint platform.toPlatform)) :=
  (serve_issues platform.toPlatform handle call).bind fun _ => trivial

theorem rejected {fact : Int → Row → Prop}
    (follows : (system faults).Follows ((Call.store handle call).program platform) start []
      program later log) (target : call.target? = some id) (lasts : Lasts id fact start)
    (excluded : call.Excluded platform.toPlatform fact) :
    Rejected faults later id (call.Repeats platform.toPlatform) program := by
  obtain ⟨row, found, holds⟩ := lasts later (follows_evolves follows)
  constructor
  · intro Reply operation next reply after issuing served
    subst issuing
    have within : operation.Within handle.epoch (call.footprint platform.toPlatform) :=
      (follows.emits (call_emits call)).1
    cases operation with
    | host request =>
      rw [served.1]
      exact .refl later
    | sql own transaction =>
      have spared : later.Spares (later.commit own transaction) := by
        apply Transaction.exec_spares within.2 (EffectStore.target_footprint target)
        intro mutation updates row' found'
        rw [EffectStore.target_updates target updates, found, Option.some_inj] at found'
        exact found' ▸ excluded mutation updates _ _ row holds
      cases served with
      | committed => exact spared
      | refused faulty error => exact .refl later
      | unacknowledged faulty error => exact spared
  · intro outcome finished
    subst finished
    obtain ⟨reply, rfl, failed | repeats⟩ :=
      call_outcome (refused_call target lasts excluded) follows
    · obtain ⟨error, rfl⟩ := failed
      exact .inl ⟨error, EffectStore.target_outcome target error⟩
    · exact .inr repeats

end Threads

end Crabedence
