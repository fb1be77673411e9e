import Crabedence.Reasoning

/-!
# Acquisition and admission

`Acquisition` lists the transactions that can decide an `AcquireWithAuthority`, each with the result
it leads to, and `ensures_acquisition` says that the list is complete, in every environment.  While
the cluster is in recovery mode the fresh insertion and the reclaim of an expired lease are closed;
the lease grant on an unleased `PREPARED` row is not.
-/

namespace Crabedence

open Resumption StoreM

/-- `Acquisition store key digest before after result`: the transaction from `before` to `after`
decided the acquisition, with this result. -/
inductive Acquisition (store : SQLiteStore) (key : RequestKey) (digest : String) (before : World) :
    World → AcquireResult → Prop where
  | inserted (request : NewRequest) (sameKey : request.key = key)
      (sameDigest : request.digest = digest)
      (admitted : (before.database.insertRequest store.epoch before.now request).1 =
        .inserted before.now) :
      Acquisition store key digest before (before.commit store.epoch (.insert request)) {
        kind := .leaseAcquired, state := .prepared, leaseToken := request.leaseToken
        generation := 1, record := store.freshRecord request before.now }
  | unleased (seen row : Row) (duration : Int) (owner token : String)
      (found : before.find seen.executionID = some row) (precedes : seen.Precedes row)
      (sameKey : row.requestKey = key) (sameDigest : row.identity.requestDigest = digest)
      (allowed : (Mutation.acquireUnleased seen.executionID seen.version duration owner token
        (seen.lease.generation + 1)).guard before.now before.database.cluster row = true)
      (current : before.database.cluster.epoch = store.epoch) :
      Acquisition store key digest before
        (before.commit store.epoch (.apply (.acquireUnleased seen.executionID seen.version duration
          owner token (seen.lease.generation + 1)))) {
        kind := .leaseAcquired, state := .prepared, leaseToken := token
        generation := seen.lease.generation + 1
        record := { seen.scan with
          leaseOwner := owner, leaseToken := token
          leaseGeneration := seen.lease.generation + 1, version := seen.version + 1 } }
  | reclaimed (seen row : Row) (duration : Int) (owner token : String)
      (found : before.find seen.executionID = some row) (precedes : seen.Precedes row)
      (sameKey : row.requestKey = key) (sameDigest : row.identity.requestDigest = digest)
      (allowed : (Mutation.reclaimExpiredLease seen.executionID seen.version duration owner token
        seen.state (seen.lease.generation + 1)).guard before.now before.database.cluster row = true)
      (current : before.database.cluster.epoch = store.epoch) :
      Acquisition store key digest before
        (before.commit store.epoch (.apply (.reclaimExpiredLease seen.executionID seen.version
          duration owner token seen.state (seen.lease.generation + 1)))) {
        kind := .leaseReclaimed, state := .prepared, leaseToken := token
        generation := seen.lease.generation + 1
        record := { seen.scan with
          leaseOwner := owner, leaseToken := token
          leaseGeneration := seen.lease.generation + 1, attempt := seen.attempt + 1
          version := seen.version + 1, state := .prepared } }
  | expired (seen row : Row) (actor : String)
      (found : before.find seen.executionID = some row) (precedes : seen.Precedes row)
      (sameKey : row.requestKey = key) (sameDigest : row.identity.requestDigest = digest) :
      Acquisition store key digest before
        (before.commit store.epoch (.apply (.markInFlightExpiredAsUnknown seen.executionID
          seen.version actor))) {
        kind := .recoveryRequired, state := .unknown, leaseToken := "", generation := 0
        record := { seen.scan with state := .unknown, version := seen.version + 1 } }
  | replayed (row : Row) (found : before.database.findByKey key = some row)
      (sameDigest : row.identity.requestDigest = digest)
      (final : row.state.isDurablyFinal = true) :
      Acquisition store key digest before before {
        kind := .terminalReplay, state := row.state, record := row.scan, leaseToken := ""
        generation := 0 }
  | unresolved (row : Row) (found : before.database.findByKey key = some row)
      (sameDigest : row.identity.requestDigest = digest) (unknown : row.state = .unknown) :
      Acquisition store key digest before before {
        kind := .recoveryRequired, state := row.state, record := row.scan, leaseToken := ""
        generation := 0 }
  | conflicting (row : Row) (found : before.database.findByKey key = some row)
      (differs : row.identity.requestDigest ≠ digest) :
      Acquisition store key digest before before {
        kind := .idempotencyConflict, state := row.state, record := row.scan, leaseToken := ""
        generation := 0 }
  | held (row : Row) (found : before.database.findByKey key = some row)
      (sameDigest : row.identity.requestDigest = digest) :
      Acquisition store key digest before before (SQLiteStore.heldByOther row.scan)

def AcquireResult.lease (result : AcquireResult) : Lease :=
  ⟨result.record.executionID, result.leaseToken, result.generation⟩

variable {result : AcquireResult} {authority : AuthorityBinding} {executionClass : String}

section Walk

variable {environment : Environment} {faults : Bool} {guard : Machine.Guard Operation World Mark}
  {store : SQLiteStore} {key : RequestKey} {digest : String} {inv : World → Prop} {world : World}
  {log : List Mark} {leaseToken leaseOwner : String} {leaseDuration : Duration}

/-- The deciding transaction of a successful acquisition ran where `inv` held; the log is left as
it was. -/
def Answers (environment : Environment) (store : SQLiteStore) (key : RequestKey) (digest : String)
    (inv : World → Prop) (log : List Mark) (reply : Except StoreError AcquireResult)
    (later : World) (log' : List Mark) : Prop :=
  log' = log ∧ ∀ result, reply = .ok result → ∃ before after, inv before ∧
    Acquisition store key digest before after result ∧ environment.rely after later

variable {later : World} {row : Row}

theorem Answers.error {error : StoreError} :
    Answers environment store key digest inv log (.error error) later log :=
  ⟨rfl, fun _ same => by cases same⟩

def Known (environment : Environment) (key : RequestKey) (digest : String) (inv : World → Prop)
    (row : Row) (world : World) : Prop :=
  ∃ seen, inv seen ∧ environment.rely seen world ∧ seen.database.findByKey key = some row ∧
    row.identity.requestDigest = digest

theorem Known.moved (known : Known environment key digest inv row world)
    (moved : environment.rely world later) : Known environment key digest inv row later := by
  obtain ⟨seen, held, since, found, sameDigest⟩ := known
  exact ⟨seen, held, environment.trans since moved, found, sameDigest⟩

theorem Known.stays
    (stable : ∀ {before after}, environment.rely before after → inv before → inv after)
    {before after : World} (moved : environment.rely before after)
    (held : inv before ∧ Known environment key digest inv row before) :
    inv after ∧ Known environment key digest inv row after :=
  ⟨stable moved held.1, held.2.moved moved⟩

section

variable (known : Known environment key digest inv row world)
include known

theorem Known.current :
    ∃ current, world.find row.executionID = some current ∧ row.Precedes current ∧
      current.requestKey = key ∧ current.identity.requestDigest = digest := by
  obtain ⟨seen, _, since, found, sameDigest⟩ := known
  obtain ⟨foundByID, sameKey⟩ := Database.find_of_findByKey found
  obtain ⟨current, currentFound, precedes⟩ := (environment.evolves since).precedes foundByID
  refine ⟨current, currentFound, precedes, ?_, ?_⟩
  · rw [← sameKey]
    unfold Row.requestKey
    rw [precedes.identity]
  · rw [precedes.identity, sameDigest]

theorem Known.again {other : Row} (found : world.database.findByKey key = some other) :
    other.identity.requestDigest = digest := by
  obtain ⟨current, currentFound, _, sameKey, sameDigest⟩ := known.current
  have sameRow : world.database.findByKey key = some current :=
    sameKey ▸ Database.findByKey_of_find currentFound
  rw [found, Option.some_inj] at sameRow
  rw [sameRow, sameDigest]

theorem answers_settled (settled : SQLiteStore.settled row.scan = some result) :
    Answers environment store key digest inv log (.ok result) world log := by
  obtain ⟨seen, held, since, found, sameDigest⟩ := known
  refine ⟨rfl, fun result' same => ?_⟩
  cases same
  unfold SQLiteStore.settled at settled
  split_ifs at settled with final unknown
  · cases settled
    exact ⟨seen, seen, held, .replayed row found sameDigest final, since⟩
  · cases settled
    exact ⟨seen, seen, held, .unresolved row found sameDigest unknown, since⟩

theorem answers_held :
    Answers environment store key digest inv log (.ok (SQLiteStore.heldByOther row.scan)) world
      log := by
  obtain ⟨seen, held, since, found, sameDigest⟩ := known
  refine ⟨rfl, fun result same => ?_⟩
  cases same
  exact ⟨seen, seen, held, .held row found sameDigest, since⟩

end

variable (stable : ∀ {before after}, environment.rely before after → inv before → inv after)
variable (allows : ∀ {Reply : Type} (operation : Operation Reply) before,
  operation.routine = true → guard operation before log)
include stable allows

theorem ensures_lookup_again (holds : inv world)
    (known : Known environment key digest inv row world) :
    EnsuresIn environment faults guard (fun reply later log' => log' = log ∧ inv later ∧
      ∀ record, reply = .ok record → ∃ row', record = row'.scan ∧
        Known environment key digest inv row' later) (store.lookupByKey key) world log := by
  apply (SQLiteStore.ensures_scanned
    (fun world => inv world ∧ Known environment key digest inv row world) (Known.stays stable) allows
    (.lookupByKey key) (fun database => database.findByKey key) rfl (fun _ _ _ => rfl)
    ⟨holds, known⟩).mono
  rintro reply later _ ⟨rfl, ⟨held, _⟩, saw⟩
  refine ⟨rfl, held, fun record same => ?_⟩
  obtain ⟨seen, row', ⟨seenHeld, seenKnown⟩, since, found, scanned⟩ := saw record same
  exact ⟨row', scanned, seen, seenHeld, since, found, seenKnown.again found⟩

/-- What the three lease statements share: an update that hits the row the record was read from, in a
world where `inv` held, decides the acquisition; one that misses leaves it to what follows. -/
theorem ensures_decided {mutation : Mutation} {granted : Record} {otherwise : StoreM (Option Record)}
    {next : Option Record → StoreM AcquireResult}
    (routine : (Operation.sql store.epoch (.apply mutation)).routine = true)
    (target : mutation.target = row.executionID)
    (checks : ∀ world, (inv world ∧ Known environment key digest inv row world) →
      EnsuresIn environment faults guard (fun reply later log' => log' = log ∧
        (inv later ∧ Known environment key digest inv row later) ∧
        ∀ record, reply ≠ .ok (some record)) otherwise world log)
    (decides : ∀ before current, before.find row.executionID = some current →
      row.Precedes current → current.requestKey = key → current.identity.requestDigest = digest →
      mutation.guard before.now before.database.cluster current = true →
      before.database.cluster.epoch = store.epoch →
      Acquisition store key digest before (before.commit store.epoch (.apply mutation)) result)
    (answers : next (some granted) = pure result)
    (continues : ∀ later, inv later → Known environment key digest inv row later →
      EnsuresIn environment faults guard (Answers environment store key digest inv log) (next none)
        later log) (holds : inv world) (known : Known environment key digest inv row world) :
    EnsuresIn environment faults guard (Answers environment store key digest inv log)
      ((do if ← store.sql (.apply mutation) then return some granted else otherwise) >>= next)
      world log := by
  apply ensures_bind
  apply ensures_seq (SQLiteStore.ensures_apply _ (Known.stays stable) allows routine ⟨holds, known⟩)
  · rintro error later _ ⟨rfl, _⟩
    exact fun _ _ => .error
  · rintro hit later _ ⟨rfl, applied, missed⟩
    cases hit with
    | true =>
      obtain ⟨before, current, ⟨held, knownBefore⟩, found, allowed, epoch, since⟩ := applied rfl
      obtain ⟨now, nowFound, precedes, sameKey, sameDigest⟩ := knownBefore.current
      rw [target] at found
      cases found.symm.trans nowFound
      apply ensures_pure
      intro middle moved
      dsimp only
      rw [answers]
      apply ensures_pure
      intro final further
      refine ⟨rfl, fun result same => ?_⟩
      cases same
      exact ⟨before, _, held, decides before current found precedes sameKey sameDigest allowed epoch,
        environment.trans since (environment.trans moved further)⟩
    | false =>
      apply (checks later (missed rfl)).mono
      rintro reply final _ ⟨rfl, ⟨held, knownFinal⟩, never⟩
      rcases reply with error | _ | record
      · exact fun _ _ => .error
      · exact continues final held knownFinal
      · exact (never record rfl).elim

theorem ensures_reconsidered {next : Record → StoreM AcquireResult}
    (continues : ∀ row' later, inv later → Known environment key digest inv row' later →
      EnsuresIn environment faults guard (Answers environment store key digest inv log)
        (next row'.scan) later log) (holds : inv world)
    (known : Known environment key digest inv row world) :
    EnsuresIn environment faults guard (Answers environment store key digest inv log) (do
        let current ← store.lookupByKey key
        match SQLiteStore.settled current with
        | some result => return result
        | none => next current) world log := by
  apply ensures_seq (ensures_lookup_again stable allows holds known)
  · rintro error final _ ⟨rfl, _⟩
    exact .error
  · rintro record final _ ⟨rfl, finalHeld, saw⟩
    obtain ⟨row', rfl, knownFinal⟩ := saw record rfl
    cases settled : SQLiteStore.settled row'.scan with
    | some result =>
      exact ensures_pure fun last moved => answers_settled (knownFinal.moved moved) settled
    | none => exact continues row' final finalHeld knownFinal

theorem ensures_checkEpoch_none (world : World) (holds : inv world) :
    EnsuresIn environment faults guard (fun reply later log' =>
      log' = log ∧ inv later ∧ ∀ record : Record, reply ≠ .ok (some record))
      (do store.checkEpoch; return none) world log := by
  apply ensures_seq (SQLiteStore.ensures_checkEpoch inv stable allows holds)
  · exact fun error later _ kept => ⟨kept.1, kept.2, fun _ same => by cases same⟩
  · rintro _ later _ ⟨rfl, held⟩
    exact ensures_pure fun final moved => ⟨rfl, stable moved held, fun _ same => by cases same⟩

theorem ensures_checkRecovery_none (world : World) (holds : inv world) :
    EnsuresIn environment faults guard (fun reply later log' =>
      log' = log ∧ inv later ∧ ∀ record : Record, reply ≠ .ok (some record))
      (do store.checkEpoch; store.checkRecoveryMode; return none) world log := by
  apply ensures_seq (SQLiteStore.ensures_checkEpoch inv stable allows holds)
  · exact fun error later _ kept => ⟨kept.1, kept.2, fun _ same => by cases same⟩
  · rintro _ later _ ⟨rfl, held⟩
    apply ensures_seq (SQLiteStore.ensures_checkRecoveryMode inv stable allows held)
    · exact fun error final _ kept => ⟨kept.1, kept.2, fun _ same => by cases same⟩
    · rintro _ final _ ⟨rfl, finalHeld⟩
      exact ensures_pure fun last moved => ⟨rfl, stable moved finalHeld, fun _ same => by cases same⟩

section

variable (holds : inv world) (known : Known environment key digest inv row world)
include holds known

theorem ensures_acquirePrepared :
    EnsuresIn environment faults guard (Answers environment store key digest inv log)
      (store.acquirePrepared key leaseToken leaseOwner leaseDuration row.scan) world log := by
  unfold SQLiteStore.acquirePrepared
  split_ifs with unleased
  · unfold SQLiteStore.acquireUnleased
    apply ensures_decided stable allows rfl rfl
      (ensures_checkEpoch_none (Known.stays stable) allows) ?_ rfl ?_ holds known
    · intro before current found precedes sameKey sameDigest allowed epoch
      exact .unleased row current _ _ _ found precedes sameKey sameDigest allowed epoch
    · intro later held knownLater
      apply ensures_seq (ensures_lookup_again stable allows held knownLater)
      · rintro error final _ ⟨rfl, _⟩
        exact .error
      · rintro record final _ ⟨rfl, finalHeld, saw⟩
        obtain ⟨row', rfl, knownFinal⟩ := saw record rfl
        apply ensures_pure
        intro last moved
        cases settled : SQLiteStore.settled row'.scan with
        | some result => exact answers_settled (knownFinal.moved moved) settled
        | none => exact answers_held (knownFinal.moved moved)
  · exact ensures_pure fun later moved => answers_held (known.moved moved)

theorem ensures_acquireInFlight :
    EnsuresIn environment faults guard (Answers environment store key digest inv log)
      (store.acquireInFlight key leaseToken leaseOwner leaseDuration row.scan) world log := by
  unfold SQLiteStore.acquireInFlight
  split_ifs with inFlight
  · unfold SQLiteStore.markInFlightExpiredAsUnknown
    apply ensures_decided stable allows rfl rfl
      (ensures_checkEpoch_none (Known.stays stable) allows) ?_ rfl ?_ holds known
    · intro before current found precedes sameKey sameDigest _ _
      exact .expired row current _ found precedes sameKey sameDigest
    · intro later held knownLater
      apply ensures_reconsidered stable allows _ held knownLater
      intro row' final finalHeld knownFinal
      exact ensures_acquirePrepared stable allows finalHeld knownFinal
  · exact ensures_acquirePrepared stable allows holds known

theorem ensures_acquireLeased :
    EnsuresIn environment faults guard (Answers environment store key digest inv log)
      (store.acquireLeased key leaseToken leaseOwner leaseDuration row.scan) world log := by
  unfold SQLiteStore.acquireLeased
  split_ifs with leased
  · unfold SQLiteStore.reclaimExpiredLease
    apply ensures_decided stable allows rfl rfl
      (ensures_checkRecovery_none (Known.stays stable) allows) ?_ rfl ?_ holds known
    · intro before current found precedes sameKey sameDigest allowed epoch
      exact .reclaimed row current _ _ _ found precedes sameKey sameDigest allowed epoch
    · intro later held knownLater
      apply ensures_reconsidered stable allows _ held knownLater
      intro row' final finalHeld knownFinal
      exact ensures_acquireInFlight stable allows finalHeld knownFinal
  · exact ensures_acquireInFlight stable allows holds known

end

theorem ensures_acquireExisting {seen : World} (holds : inv world) (held : inv seen)
    (since : environment.rely seen world) (found : seen.database.findByKey key = some row) :
    EnsuresIn environment faults guard (Answers environment store key digest inv log)
      (store.acquireExisting key digest leaseToken leaseOwner leaseDuration row.scan) world log := by
  unfold SQLiteStore.acquireExisting
  split_ifs with differs
  · apply ensures_pure
    intro later moved
    refine ⟨rfl, fun result same => ?_⟩
    cases same
    exact ⟨seen, seen, held, .conflicting row found differs, environment.trans since moved⟩
  · have known : Known environment key digest inv row world :=
      ⟨seen, held, since, found, not_not.mp differs⟩
    cases settled : SQLiteStore.settled row.scan with
    | some result =>
      exact ensures_pure fun later moved => answers_settled (known.moved moved) settled
    | none => exact ensures_acquireLeased stable allows holds known

theorem ensures_insertOrAcquire {request : NewRequest} (holds : inv world) :
    EnsuresIn environment faults guard
      (Answers environment store request.key request.digest inv log)
      (store.insertOrAcquire request leaseDuration) world log := by
  apply ensures_bind
  apply ensuresIn_sql
  intro before moved
  refine ⟨allows _ _ rfl, fun later further => ?_, fun _ text later _ final _ => .error⟩
  rw [Operation.marks_routine _ rfl, List.append_nil]
  have heldBefore := stable moved holds
  rcases before.database.insertRequest_cases with ⟨kept, never⟩ | ⟨inserted, _⟩
  · have same : before.commit store.epoch (.insert request) = before := World.commit_eq kept
    rw [same] at further
    have heldLater := stable further heldBefore
    simp only [Transaction.exec]
    cases reply : (before.database.insertRequest store.epoch before.now request).1 with
    | inserted createdAt => exact (never createdAt reply).elim
    | violation => exact ensures_throw fun final _ => .error
    | nothing =>
      apply ensures_seq (SQLiteStore.ensures_read inv stable allows rfl heldLater)
      · rintro error final _ ⟨rfl, _⟩
        exact .error
      · rintro looked final _ ⟨rfl, finalHeld, saw⟩
        obtain ⟨seen, seenHeld, since, read⟩ := saw looked rfl
        cases looked with
        | none =>
          apply ensures_seq (SQLiteStore.ensures_checkEpoch inv stable allows finalHeld)
          · rintro error last _ ⟨rfl, _⟩
            exact .error
          · rintro _ last _ ⟨rfl, lastHeld⟩
            apply ensures_seq
              (SQLiteStore.ensures_checkRecoveryMode inv stable allows lastHeld)
            · rintro error end_ _ ⟨rfl, _⟩
              exact .error
            · rintro _ end_ _ ⟨rfl, _⟩
              exact ensures_throw fun _ _ => .error
        | some record =>
          obtain ⟨row, found, rfl⟩ := Option.map_eq_some_iff.mp read.symm
          exact ensures_acquireExisting stable allows finalHeld seenHeld since found
  · simp only [Transaction.exec, inserted]
    apply ensures_pure
    intro final later
    refine ⟨rfl, fun result same => ?_⟩
    cases same
    exact ⟨before, _, heldBefore, .inserted request rfl rfl inserted,
      environment.trans further later⟩

theorem ensures_acquisition (holds : inv world) :
    EnsuresIn environment faults guard (Answers environment store key digest inv log)
      (store.acquireWithAuthority key digest authority executionClass leaseDuration) world log := by
  apply SQLiteStore.ensures_acquireWithAuthority
  · exact allows
  · exact fun _ _ _ => .error
  · exact fun _ _ _ _ _ => .error
  · intro executionID leaseOwner leaseToken later moved _
    exact ensures_insertOrAcquire stable allows (stable moved holds)

end Walk

/-- The key has a `PREPARED` row with this digest that nobody holds a lease on. -/
def Unleased (key : RequestKey) (digest : String) (world : World) : Prop :=
  ∃ row, world.database.findByKey key = some row ∧ row.identity.requestDigest = digest ∧
    row.state = .prepared ∧ row.lease.token = none ∧ row.lease.expiresAt = none

/-- Other callers while the cluster stays in recovery mode, none of which gives up the key's own
lease. -/
def duringRecovery (key : RequestKey) (digest : String) : Environment where
  rely := Relation.ReflTransGen fun before after =>
    before.Step after ∧ after.database.cluster.recoveryRequired = true ∧
      (Unleased key digest after → Unleased key digest before)
  refl _ := .refl
  trans := Relation.ReflTransGen.trans
  evolves moved := by
    induction moved with
    | refl => exact .refl
    | tail _ step ih => exact ih.tail step.1

def Closed (key : RequestKey) (digest : String) (world : World) : Prop :=
  world.database.cluster.recoveryRequired = true ∧ ¬ Unleased key digest world

variable {key : RequestKey} {digest : String} {before after : World} {store : SQLiteStore}
  {leaseDuration : Duration}

theorem Closed.stays (moved : (duringRecovery key digest).rely before after)
    (closed : Closed key digest before) : Closed key digest after := by
  induction moved with
  | refl => exact closed
  | tail _ step ih => exact ⟨step.2.1, fun unleased => ih.2 (step.2.2 unleased)⟩

theorem Acquisition.not_acquired
    (decided : Acquisition store key digest before after result) (closed : Closed key digest before) :
    result.acquired = false := by
  cases decided with
  | inserted request sameKey sameDigest admitted =>
    rcases before.database.insertRequest_cases with ⟨_, never⟩ | ⟨_, _, open_, _⟩
    · exact (never before.now admitted).elim
    · rw [closed.1] at open_
      cases open_
  | unleased seen row duration owner token found precedes sameKey sameDigest allowed current =>
    simp only [Mutation.guard, Bool.and_eq_true, decide_eq_true_eq, Option.isNone_iff_eq_none]
      at allowed
    obtain ⟨⟨⟨prepared, noToken⟩, noExpiry⟩, _⟩ := allowed
    have byKey : before.database.findByKey key = some row :=
      sameKey ▸ Database.findByKey_of_find found
    exact (closed.2 ⟨row, byKey, sameDigest, prepared, noToken, noExpiry⟩).elim
  | reclaimed seen row duration owner token found precedes sameKey sameDigest allowed current =>
    simp only [Mutation.guard, Bool.and_eq_true, Bool.not_eq_true'] at allowed
    rw [closed.1] at allowed
    cases allowed.2
  | expired | replayed | unresolved | conflicting | held => rfl

theorem acquireExisting_unleased {leaseToken leaseOwner : String} {row : Row}
    (sameDigest : row.identity.requestDigest = digest) (prepared : row.state = .prepared)
    (noExpiry : row.lease.expiresAt = none) :
    store.acquireExisting key digest leaseToken leaseOwner leaseDuration row.scan =
      store.acquirePrepared key leaseToken leaseOwner leaseDuration row.scan := by
  have scanned : row.scan.requestDigest = digest ∧ row.scan.state = .prepared ∧
      row.scan.leaseExpiresAt = none := ⟨sameDigest, prepared, noExpiry⟩
  obtain ⟨scannedDigest, scannedState, scannedExpiry⟩ := scanned
  have notSettled : SQLiteStore.settled row.scan = none := by
    simp [SQLiteStore.settled, scannedState, State.isDurablyFinal]
  simp only [SQLiteStore.acquireExisting, scannedDigest, ne_eq, not_true_eq_false, if_false,
    notSettled, SQLiteStore.acquireLeased, scannedExpiry, and_false, SQLiteStore.acquireInFlight]

theorem runAlone_unleased {world : World}
    (valid : store.leaseConfig.validate leaseDuration = .ok ())
    (current : world.database.cluster.epoch = store.epoch) (unleased : Unleased key digest world)
    (replies : HostReplies) :
    ∃ result, (runAlone replies (store.acquireWithAuthority key digest authority executionClass
      leaseDuration) world).1 = .ok result ∧ result.acquired = true := by
  obtain ⟨row, found, sameDigest, prepared, noToken, noExpiry⟩ := unleased
  have byID : world.find row.executionID = some row := (Database.find_of_findByKey found).1
  have allowed : (Mutation.acquireUnleased row.executionID row.version (msDuration leaseDuration)
      ("pid-" ++ toString 1) replies.leaseToken (row.lease.generation + 1)).guard world.now
      world.database.cluster row = true := by
    simp [Mutation.guard, prepared, noToken, noExpiry]
  have hit := SQLiteStore.runAlone_apply replies byID allowed current
  unfold SQLiteStore.acquireWithAuthority
  rw [valid]
  change ∃ result, (runAlone replies (store.insertOrAcquire _ leaseDuration) world).1 = _ ∧ _
  rw [SQLiteStore.runAlone_insertOrAcquire_taken replies found,
    acquireExisting_unleased sameDigest prepared noExpiry]
  unfold SQLiteStore.acquirePrepared
  rw [if_pos ⟨prepared, noExpiry⟩]
  have granted : runAlone replies (store.acquireUnleased row.scan replies.leaseToken
      ("pid-" ++ toString 1) leaseDuration) world = (.ok (some { row.scan with
        leaseOwner := "pid-" ++ toString 1, leaseToken := replies.leaseToken
        leaseGeneration := row.lease.generation + 1, version := row.version + 1 }),
      world.commit store.epoch (.apply (.acquireUnleased row.executionID row.version
        (msDuration leaseDuration) ("pid-" ++ toString 1) replies.leaseToken
        (row.lease.generation + 1)))) := by
    exact runAlone_bind_ok _ hit
  exact ⟨_, (congrArg Prod.fst (runAlone_bind_ok _ granted)).trans rfl, rfl⟩

/-- While recovery mode is on, an acquisition under the current epoch that no caller interferes with
by giving up the key's own lease returns no lease exactly when the key has no unleased `PREPARED`
row with the request's digest. -/
theorem recovery_grants_no_lease_iff (faults : Bool) (store : SQLiteStore) (key : RequestKey)
    (digest : String) (authority : AuthorityBinding) (executionClass : String)
    (leaseDuration : Duration) (valid : store.leaseConfig.validate leaseDuration = .ok ())
    (world : World) (recovering : world.database.cluster.recoveryRequired = true)
    (current : world.database.cluster.epoch = store.epoch) :
    (∀ reply later log, (systemIn (duringRecovery key digest) faults).Follows
        (store.acquireWithAuthority key digest authority executionClass leaseDuration).run world []
        (.done reply) later log →
      ∀ result, reply = .ok result → result.acquired = false) ↔
    ¬ Unleased key digest world := by
  constructor
  · intro closed unleased
    let replies : HostReplies := { leaseToken := "token", executionID := "execution" }
    obtain ⟨result, ran, acquired⟩ := runAlone_unleased valid current unleased replies
    obtain ⟨log, follows⟩ := follows_runAlone (duringRecovery key digest) faults replies
      (store.acquireWithAuthority key digest authority executionClass leaseDuration) world
    have refused := closed _ _ _ follows result ran
    rw [acquired] at refused
    cases refused
  · intro noRow reply later log follows result isOk
    have ensured : EnsuresIn (duringRecovery key digest) faults unguarded
        (Answers (duringRecovery key digest) store key digest (Closed key digest) [])
        (store.acquireWithAuthority key digest authority executionClass leaseDuration) world [] :=
      ensures_acquisition Closed.stays (fun _ _ _ => trivial) ⟨recovering, noRow⟩
    have answers := (Machine.safe_iff_follows.mp ensured).2 _ _ _ follows
    obtain ⟨before, after, closed, decided, _⟩ := answers.2 result isOk
    exact decided.not_acquired closed

def sampleRestore : List Choice :=
  Choice.complete (sampleAcquire "digest") 0 "token" "execution" ++
  Choice.complete (.store sampleHandle (.abandonPreDispatch sampleLease)) 1 "" "" ++
  Choice.complete (.store sampleHandle (.advanceClusterEpoch 1 "restore")) 2 "" ""

def restoredHandle : SQLiteStore := { sampleHandle with epoch := 2 }

def restoredAcquire (key : RequestKey) : Call :=
  .store restoredHandle (.acquireWithAuthority key "digest" ⟨"", 0, ""⟩ "MUTATION" second)

def sampleCommittedRestore : World :=
  ((SystemState.initial 0).follow samplePlatform (sampleCommit ++
    Choice.complete (.store sampleHandle (.advanceClusterEpoch 1 "restore")) 4 "" "")).world

set_option maxRecDepth 4096 in
/-- The acquisition of a committed key during a restore replays it and grants no lease. -/
theorem recovery_grants_no_lease_replay :
    ∃ result later log, (systemIn (duringRecovery sampleKey "digest") true).Follows
        (restoredHandle.acquireWithAuthority sampleKey "digest" ⟨"", 0, ""⟩ "MUTATION" second).run
        sampleCommittedRestore [] (.done (.ok result)) later log ∧
      result.kind = .terminalReplay ∧ result.acquired = false := by
  have closed : ¬ Unleased sampleKey "digest" sampleCommittedRestore := by
    rintro ⟨row, found, _, prepared, _⟩
    have committed : (sampleCommittedRestore.database.findByKey sampleKey).map Row.state =
      some .committed := rfl
    rw [found, Option.map_some, prepared] at committed
    cases committed
  have refuses := (recovery_grants_no_lease_iff true restoredHandle sampleKey "digest" ⟨"", 0, ""⟩
    "MUTATION" second rfl sampleCommittedRestore rfl rfl).mpr closed
  obtain ⟨log, follows⟩ := follows_runAlone (duringRecovery sampleKey "digest") true
    { leaseToken := "late", executionID := "unused" }
    (restoredHandle.acquireWithAuthority sampleKey "digest" ⟨"", 0, ""⟩ "MUTATION" second)
    sampleCommittedRestore
  exact ⟨_, _, log, follows, rfl, refuses _ _ _ follows _ rfl⟩

/-- After a restore was declared and before it is completed, a handle of the new epoch acquires the
lease of the abandoned row. -/
theorem recovery_grants_abandoned_row :
    ∃ state later result log,
      Reachable samplePlatform false (fun _ => True) state ∧
      state.world.database.cluster.recoveryRequired = true ∧
      state.world.database.cluster.epoch = restoredHandle.epoch ∧
      Pool.Reaches (scheduler samplePlatform false fun _ => True) state later ∧
      later.world.database.cluster.recoveryRequired = true ∧
      later.threads[3]? =
        some ⟨restoredAcquire sampleKey, .done (.acquired (.ok result)), log⟩ ∧
      result.acquired = true :=
  ⟨(SystemState.initial 0).follow samplePlatform sampleRestore,
    ((SystemState.initial 0).follow samplePlatform sampleRestore).follow samplePlatform
      (Choice.complete (restoredAcquire sampleKey) 3 "late" "unused"),
    _, _, follow_reachable samplePlatform false sampleRestore 0, rfl, rfl,
    follow_reaches samplePlatform false _ _, rfl, rfl, rfl⟩

end Crabedence
