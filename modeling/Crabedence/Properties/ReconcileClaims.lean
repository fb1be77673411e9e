import Crabedence.Properties.Epoch
import Crabedence.Properties.RowShape
import Crabedence.Refusal

/-!
# Reconciliation claims

A reconciler claims a record by writing its own name and an expiry into two columns of the row.  The
claim methods write them, the methods that take a record out of a reconciler's hands clear them, and
every other statement leaves them alone.  The reclaim of an expired lease is among the others, so a
claim can outlive the lease it was taken for.
-/

namespace Crabedence

open Resumption StoreM

def Row.Unclaimed (row : Row) : Prop :=
  row.reconcile.owner = none ∧ row.reconcile.leaseExpiresAt = none

def Mutation.givesUpClaim : Mutation → Bool
  | .releaseReconcileClaim .. | .suspendReconciliation .. | .markInFlightExpiredAsUnknown ..
  | .enterRecovery .. | .enterRecoveryWithObservation .. | .recoverExpiredPreDispatch .. => true
  | _ => false

def Mutation.endsClaim : Mutation → Bool
  | .resolveRecovery .. => true
  | mutation => mutation.givesUpClaim

variable {mutation : Mutation} {now : Int}

section Columns

variable {cluster : ClusterMeta} {row : Row}

theorem Mutation.endsClaim_unclaimed (ends : mutation.endsClaim = true) :
    (mutation.assign now row).Unclaimed := by
  cases mutation <;> first | exact ⟨rfl, rfl⟩ | cases ends

theorem Mutation.keepsClaim (kept : mutation.endsClaim = false) :
    (mutation.assign now row).reconcile.owner = row.reconcile.owner ∧
      (row.reconcile.leaseExpiresAt = none →
        (mutation.assign now row).reconcile.leaseExpiresAt = none) := by
  cases mutation with
  | renewReconcileClaim executionID version duration =>
    refine ⟨rfl, fun absent => ?_⟩
    simp only [assign, absent, Option.map_none]
  | _ => first | exact ⟨rfl, id⟩ | cases kept

theorem Mutation.assign_unclaimed (unclaimed : row.Unclaimed) :
    (mutation.assign now row).Unclaimed := by
  cases ends : mutation.endsClaim with
  | true => exact endsClaim_unclaimed ends
  | false =>
    obtain ⟨owner, expiry⟩ := @keepsClaim _ now row ends
    exact ⟨owner.trans unclaimed.1, expiry unclaimed.2⟩

def Mutation.reclaims : Mutation → Bool
  | .reclaimExpiredLease .. => true
  | _ => false

def Mutation.grants : Mutation → Bool
  | .acquireUnleased .. | .reclaimExpiredLease .. => true
  | _ => false

/-- A row that carries a claim is unknown or waits, short of a terminal state, with an expired
lease. -/
def Row.ClaimInOrder (now : Int) (row : Row) : Prop :=
  row.Unclaimed ∨ row.state = .unknown ∨
    (row.state ∈ [.prepared, .executing, .inFlight] ∧ row.expired now = true)

theorem Row.expired_iff :
    row.expired now = true ↔ ∃ expiry, row.lease.expiresAt = some expiry ∧ expiry < now := by
  unfold Row.expired
  rw [Option.any_eq_true]
  simp only [decide_eq_true_eq]

theorem Row.not_unexpired (expired : row.expired now = true) : row.unexpired now = false := by
  obtain ⟨expiry, stored, passed⟩ := Row.expired_iff.mp expired
  unfold Row.unexpired
  rw [stored, Option.any_some, decide_eq_false_iff_not]
  omega

theorem Row.Unleased.not_unexpired (unleased : row.Unleased) : row.unexpired now = false := by
  unfold Row.unexpired
  rw [unleased.2.2, Option.any_none]

/-- Of the statements that keep the claim, only those that keep state and lease as well hit a row
that is unknown or has an expired lease; a reclaim apart. -/
theorem Mutation.claimed_keeps (allowed : mutation.guard now cluster row = true)
    (formed : row.Formed) (kept : mutation.endsClaim = false) (other : mutation.reclaims = false)
    (waiting : row.state = .unknown ∨ row.expired now = true) :
    (mutation.assign now row).state = row.state ∧
      (mutation.assign now row).lease = row.lease := by
  have dead : row.unexpired now = false := by
    rcases waiting with unknown | expired
    · exact (formed.unknown_columns unknown).1.not_unexpired
    · exact Row.not_unexpired expired
  cases mutation with
  | recordProviderObservation | touchUnknown | renewReconcileClaim => exact ⟨rfl, rfl⟩
  | acquireUnleased executionID version duration owner token generation =>
    simp only [guard, Bool.and_eq_true, decide_eq_true_eq, Option.isNone_iff_eq_none] at allowed
    rcases waiting with unknown | expired
    · rw [unknown] at allowed
      cases allowed.1.1.1
    · obtain ⟨expiry, stored, _⟩ := Row.expired_iff.mp expired
      rw [stored] at allowed
      cases allowed.1.2
  | beginExecution | markInFlight | renewLease | abandonPreDispatch | finalize =>
    simp only [guard, dead, Bool.and_false, Bool.false_and, Bool.false_eq_true] at allowed
  | reclaimExpiredLease => cases other
  | _ => cases kept

theorem Mutation.assign_claimInOrder (allowed : mutation.guard now cluster row = true)
    (formed : row.Formed) (fresh : mutation.reclaims = true → row.Unclaimed)
    (inOrder : row.ClaimInOrder now) : (mutation.assign now row).ClaimInOrder now := by
  cases ends : mutation.endsClaim with
  | true => exact .inl (endsClaim_unclaimed ends)
  | false =>
    cases reclaim : mutation.reclaims with
    | true => exact .inl (assign_unclaimed (fresh reclaim))
    | false =>
      rcases inOrder with unclaimed | unknown | ⟨state, expired⟩
      · exact .inl (assign_unclaimed unclaimed)
      · have same := (claimed_keeps allowed formed ends reclaim (.inl unknown)).1
        exact .inr (.inl (same.trans unknown))
      · obtain ⟨same, lease⟩ := claimed_keeps allowed formed ends reclaim (.inr expired)
        refine .inr (.inr ⟨same ▸ state, ?_⟩)
        unfold Row.expired at expired ⊢
        rw [lease]
        exact expired

theorem ClaimKind.assign_claimInOrder {kind : ClaimKind} (duration : Int) (owner : String)
    (allowed : kind.eligible now row = true) :
    (kind.assign now duration owner row).ClaimInOrder now := by
  cases kind with
  | unknown =>
    simp only [eligible, Bool.and_eq_true, decide_eq_true_eq] at allowed
    exact .inr (.inl allowed.1.1)
  | expired =>
    simp only [eligible, Bool.and_eq_true, decide_eq_true_eq] at allowed
    exact .inr (.inr allowed.1)

theorem Row.ClaimInOrder.ticks {later : Int} (forward : now ≤ later)
    (inOrder : row.ClaimInOrder now) : row.ClaimInOrder later := by
  rcases inOrder with unclaimed | unknown | ⟨state, expired⟩
  · exact .inl unclaimed
  · exact .inr (.inl unknown)
  · obtain ⟨expiry, stored, passed⟩ := Row.expired_iff.mp expired
    exact .inr (.inr ⟨state, Row.expired_iff.mpr ⟨expiry, stored, by omega⟩⟩)

theorem Row.ClaimInOrder.final (inOrder : row.ClaimInOrder now)
    (final : row.state = .committed ∨ row.state = .failed) : row.Unclaimed := by
  rcases inOrder with unclaimed | unknown | ⟨state, _⟩
  · exact unclaimed
  · rcases final with other | other <;> rw [other] at unknown <;> cases unknown
  · rcases final with other | other <;> rw [other] at state <;> exact absurd state (by decide)

end Columns

variable {state next : SystemState}

section Runs

variable {platform : DispatchPlatform} {faults : Bool} {admitted : Call → Prop}

/-- The step acquired this record for an executor: it inserted the row, leased an unleased one, or
reclaimed an expired lease. -/
inductive Acquires (state next : SystemState) : String → Prop where
  | inserted (call : Call) (epoch : Int) (request : NewRequest)
      (commits : Commits state next call epoch (.insert request))
      (fresh : state.world.find request.executionID = none) :
      Acquires state next request.executionID
  | leased (call : Call) (epoch : Int) (mutation : Mutation) (row : Row)
      (commits : Commits state next call epoch (.apply mutation))
      (grants : mutation.grants = true) (hits : state.Hits epoch mutation row) :
      Acquires state next mutation.target

def AcquiresUnclaimed (state next : SystemState) : Prop :=
  ∀ id row, Acquires state next id → next.world.find id = some row → row.Unclaimed

def ReclaimsUnclaimed (state next : SystemState) : Prop :=
  ∀ (call : Call) (epoch : Int) (mutation : Mutation) (row : Row),
    Commits state next call epoch (.apply mutation) → mutation.reclaims = true →
    state.Hits epoch mutation row → row.Unclaimed

def SystemState.FinalUnclaimed (state : SystemState) : Prop :=
  ∀ id row, state.world.find id = some row → row.state = .committed ∨ row.state = .failed →
    row.Unclaimed

def SystemState.ClaimsInOrder (state : SystemState) : Prop :=
  ∀ id row, state.world.find id = some row → row.ClaimInOrder state.world.now

theorem SystemState.ClaimsInOrder.step
    (step : Pool.Step (scheduler platform faults admitted) state next)
    (condition : ReclaimsUnclaimed state next)
    (formed : ∀ id row, state.world.find id = some row → row.Formed)
    (inOrder : state.ClaimsInOrder) : next.ClaimsInOrder := by
  intro id row found
  apply Row.ClaimInOrder.ticks (step_forward step)
  cases step_row step found with
  | fresh request epoch absent => exact .inl ⟨rfl, rfl⟩
  | kept earlier => exact inOrder id row earlier
  | claimed kind owner duration current earlier allowed =>
    exact kind.assign_claimInOrder duration owner allowed
  | scrubbed current earlier waiting => exact .inr (.inl waiting)
  | mutated call epoch mutation current commits hits target =>
    exact Mutation.assign_claimInOrder hits.allowed (formed _ current hits.found)
      (fun reclaims => condition call epoch mutation current commits reclaims hits)
      (inOrder _ current hits.found)

theorem reclaimsUnclaimed (unclaimed : AcquiresUnclaimed state next) :
    ReclaimsUnclaimed state next := by
  intro call epoch mutation row commits reclaims hits
  cases mutation with
  | reclaimExpiredLease =>
    -- the statement leaves the claim columns alone
    have after := unclaimed _ _ (.leased call epoch _ row commits rfl hits) (commits.hit hits)
    exact ⟨after.1, after.2⟩
  | _ => cases reclaims

theorem acquiresUnclaimed (inOrder : state.ClaimsInOrder)
    (condition : ReclaimsUnclaimed state next) : AcquiresUnclaimed state next := by
  intro id row acquires found
  cases acquires with
  | inserted call epoch request commits fresh =>
    rw [commits.committed] at found
    obtain ⟨_, rfl⟩ := Transaction.exec_new fresh found
    exact ⟨rfl, rfl⟩
  | leased call epoch mutation before commits grants hits =>
    have same : row = _ := Option.some_inj.mp (found.symm.trans (commits.hit hits))
    rw [same]
    apply Mutation.assign_unclaimed
    cases mutation with
    | reclaimExpiredLease => exact condition call epoch _ before commits rfl hits
    | acquireUnleased executionID version duration owner token generation =>
      -- an unleased row is neither unknown nor waiting with an expired lease
      have allowed := hits.allowed
      simp only [Mutation.guard, Bool.and_eq_true, decide_eq_true_eq,
        Option.isNone_iff_eq_none] at allowed
      rcases inOrder _ before hits.found with unclaimed | unknown | ⟨_, expired⟩
      · exact unclaimed
      · rw [unknown] at allowed
        cases allowed.1.1.1
      · obtain ⟨expiry, stored, _⟩ := Row.expired_iff.mp expired
        rw [stored] at allowed
        cases allowed.1.2
    | _ => cases grants

/-- Over every run: no terminal row carries a reconciliation claim in any state, and no row carries
one when an acquisition has just leased it, exactly when no step reclaims the expired lease of a row
that carries one. -/
theorem claims_end_with_the_record (platform : DispatchPlatform) (faults : Bool)
    (admitted : Call → Prop) (start : Int) (run : List SystemState)
    (steps : (SystemState.initial start :: run).IsChain
      (Pool.Step (scheduler platform faults admitted))) :
    ((∀ state ∈ SystemState.initial start :: run, state.FinalUnclaimed) ∧
        (SystemState.initial start :: run).IsChain AcquiresUnclaimed) ↔
      (SystemState.initial start :: run).IsChain ReclaimsUnclaimed := by
  constructor
  · intro unclaimed
    exact unclaimed.2.imp fun _ _ acquired => reclaimsUnclaimed acquired
  · intro condition
    have guarded : (SystemState.initial start :: run).IsChain fun state next =>
        state ∈ SystemState.initial start :: run ∧
          Pool.Step (scheduler platform faults admitted) state next ∧
          ReclaimsUnclaimed state next := by
      rw [List.isChain_iff_getElem] at steps condition ⊢
      exact fun index inside => ⟨List.getElem_mem _, steps index inside, condition index inside⟩
    have initially : (SystemState.initial start).ClaimsInOrder := fun _ _ absent => by cases absent
    have inOrder : ∀ state ∈ SystemState.initial start :: run, state.ClaimsInOrder := by
      rw [List.forall_mem_cons]
      refine ⟨initially, List.IsChain.cons_induction _ run guarded ?_ initially⟩
      intro state next steps' ordered
      obtain ⟨member, step, reclaims⟩ := steps'
      exact ordered.step step reclaims (run_reachable steps member).formed
    refine ⟨fun state member id row found final => (inOrder state member id row found).final final, ?_⟩
    exact condition.imp_of_mem_imp fun state next member _ reclaims =>
      acquiresUnclaimed (inOrder state member) reclaims

def SystemState.reclaimsUnclaimed (state : SystemState) : Bool :=
  state.awaits fun transaction => transaction.mutation?.all fun mutation =>
    !mutation.reclaims || (state.world.find mutation.target).all fun row =>
      row.reconcile.owner.isNone && row.reconcile.leaseExpiresAt.isNone

theorem reclaimsUnclaimed_of_awaits (checked : state.reclaimsUnclaimed = true) :
    ReclaimsUnclaimed state next := by
  intro call epoch mutation row commits reclaims hits
  have held := commits.awaited checked
  simp only [Transaction.mutation?, Option.all_some, reclaims, hits.found, Bool.not_true,
    Bool.false_or, Bool.and_eq_true, Option.isNone_iff_eq_none] at held
  exact held

def overtakingLease : Lease := ⟨"execution", "second", 2⟩

def sampleCommitted (index : Nat) : List Choice :=
  Choice.complete (.store sampleHandle (.beginExecution overtakingLease)) index "" "" ++
  Choice.complete (.store sampleHandle (.markInFlight overtakingLease "provider" [])) (index + 1) ""
    "" ++
  Choice.complete (.store sampleHandle (.finalize overtakingLease .inFlight sampleReceipt)) (index + 2)
    "" ""

def sampleClaimed : List Choice :=
  Choice.complete (sampleAcquire "digest") 0 "token" "execution" ++ [.wait 2000] ++
  Choice.complete (.store sampleHandle (.claimExpiredBatch "reconciler" 1 minute)) 1 "" ""

def sampleReleased : List Choice :=
  sampleClaimed ++
  Choice.complete (.store sampleHandle (.releaseReconcileClaim "execution" 2 0 "")) 2 "" "" ++
  Choice.complete (sampleAcquire "digest") 3 "second" "other" ++ sampleCommitted 4

set_option maxRecDepth 8192 in
/-- A reconciler claims an expired row and releases it; the row is reclaimed and committed. -/
theorem claims_end_with_the_record_acquired :
    ∃ claimed committed : Row,
      ((SystemState.initial 0).follow samplePlatform sampleClaimed).world.find "execution" =
        some claimed ∧ claimed.reconcile.owner = some "reconciler" ∧
      ((SystemState.initial 0).follow samplePlatform sampleReleased).world.find "execution" =
        some committed ∧ committed.state = .committed ∧ committed.Unclaimed ∧
      (SystemState.initial 0 :: (SystemState.initial 0).trace samplePlatform sampleReleased).IsChain
        AcquiresUnclaimed := by
  have steps := trace_isChain samplePlatform false sampleReleased (SystemState.initial 0)
  have unclaimed := (claims_end_with_the_record samplePlatform false (fun _ => True) 0 _ steps).mpr
    (trace_isChain_of reclaimsUnclaimed_of_awaits (by rfl))
  exact ⟨_, _, rfl, rfl, rfl, rfl,
    unclaimed.1 _ (follow_mem_trace _ _ _) "execution" _ rfl (.inl rfl), unclaimed.2⟩

def sampleOvertaken : List Choice :=
  sampleClaimed ++ Choice.complete (sampleAcquire "digest") 2 "second" "other"

def sampleOvertakenCommit : List Choice :=
  sampleOvertaken ++ sampleCommitted 3

/-- The executor's row still names the reconciler when it is acquired and when it is committed, and
the ledger names the reconciler as the one who committed it. -/
theorem overtaken_claim_survives :
    ∃ acquired committed : Row,
      ((SystemState.initial 0).follow samplePlatform sampleOvertaken).world.find "execution" =
        some acquired ∧
      acquired.lease.token = some "second" ∧ acquired.reconcile.owner = some "reconciler" ∧
      ((SystemState.initial 0).follow samplePlatform sampleOvertakenCommit).world.find
        "execution" = some committed ∧
      committed.state = .committed ∧ committed.reconcile.owner = some "reconciler" ∧
      committed.reconcile.leaseExpiresAt = some 62000 ∧
      ((SystemState.initial 0).follow samplePlatform sampleOvertakenCommit).world.database.events.getLast?.map
        (fun event => (event.eventType, event.actor)) =
          some (.terminalResolved, some "reconciler") :=
  ⟨_, _, rfl, rfl, rfl, rfl, rfl, rfl, rfl, rfl⟩

end Runs

section Exclusion

variable {later : SystemState} {id owner : String}

def Claims (state next : SystemState) (id owner : String) : Prop :=
  ∃ (call : Call) (epoch : Int) (kind : ClaimKind) (duration : Int) (limit : Nat),
    Commits state next call epoch (.claim kind owner duration limit) ∧
      id ∈ ((Transaction.claim kind owner duration limit).exec epoch state.world.now
        state.world.database).1.map Record.executionID

theorem Claims.row (claims : Claims state next id owner) :
    ∃ kind row row', state.world.find id = some row ∧
      ClaimKind.eligible state.world.now row kind = true ∧ next.world.find id = some row' ∧
      row'.reconcile.owner = some owner := by
  obtain ⟨call, epoch, kind, duration, limit, commits, reported⟩ := claims
  obtain ⟨record, member, rfl⟩ := List.mem_map.mp reported
  obtain ⟨row, found, eligible, claimed, _⟩ := Database.applyClaim_reported member
  have claimedRow : next.world.find record.executionID =
      some (kind.assign state.world.now duration owner row) := by
    rw [commits.committed]
    exact claimed
  refine ⟨kind, row, _, found, eligible, claimedRow, ?_⟩
  cases kind <;> rfl

/-- How the reconciler's claim of the record was over between the two worlds: it had expired, or a
statement that gives claims up hit the row. -/
inductive ClaimOver (id owner : String) (since until_ : World) : Prop where
  | expired (world : World) (row : Row) (earlier : since.Evolves world)
      (further : world.Evolves until_) (found : world.find id = some row)
      (held : row.reconcile.owner = some owner) (lapsed : row.claimLapsed world.now = true)
  | ended (world : World) (epoch : Int) (mutation : Mutation) (row : Row)
      (earlier : since.Evolves world)
      (further : (world.commit epoch (.apply mutation)).Evolves until_)
      (target : mutation.target = id) (gives : mutation.givesUpClaim = true)
      (found : world.find id = some row) (held : row.reconcile.owner = some owner)
      (allowed : mutation.guard world.now world.database.cluster row = true)
      (current : world.database.cluster.epoch = epoch)

variable {since until_ : World} {kind : ClaimKind} {version : Int} {row : Row} {Result : Type}
  {call : EffectStore Result} {platform : Platform}

theorem ClaimOver.moved {further : World} (ended : ClaimOver id owner since until_)
    (evolves : until_.Evolves further) : ClaimOver id owner since further := by
  cases ended with
  | expired world row earlier before found held lapsed =>
    exact .expired world row earlier (before.trans evolves) found held lapsed
  | ended world epoch mutation row earlier before target gives found held allowed current =>
    exact .ended world epoch mutation row earlier (before.trans evolves) target gives found held
      allowed current

theorem eligible_lapsed (eligible : kind.eligible now row = true)
    (held : row.reconcile.owner = some owner) : row.claimLapsed now = true := by
  cases kind <;>
    simp only [ClaimKind.eligible, held, Option.isNone_some, Bool.false_or, Bool.and_eq_true]
      at eligible
  · exact eligible.1.2
  · exact eligible.2

theorem Mutation.endsClaim_cases (ends : mutation.endsClaim = true) :
    mutation.givesUpClaim = true ∨ (mutation.assign now row).state.isDurablyFinal = true := by
  cases mutation with
  | resolveRecovery executionID version write material legal =>
    right
    show write.receipt.terminalStatus.isDurablyFinal = true
    rcases legal_resolved legal with final | final <;> rw [final] <;> rfl
  | _ => exact .inl ends

theorem claim_held_or_over (evolves : since.Evolves until_) (found : since.find id = some row)
    (held : row.reconcile.owner = some owner) :
    ClaimOver id owner since until_ ∨ ∃ row', until_.find id = some row' ∧
      (row'.reconcile.owner = some owner ∨ row'.state.isDurablyFinal = true) := by
  induction evolves with
  | refl => exact .inr ⟨row, found, .inl held⟩
  | @tail middle final earlier step ih =>
    rcases ih with ended | ⟨current, currentFound, holds⟩
    · exact .inl (ended.moved (.single step))
    cases step with
    | tick forward => exact .inr ⟨current, currentFound, holds⟩
    | @commit Reply epoch transaction =>
      obtain ⟨after, afterFound, rowStep⟩ :=
        @Transaction.exec_row Reply transaction epoch middle.now _ id current currentFound
      rcases holds with currentHeld | final
      swap
      · exact .inr ⟨after, afterFound, .inr ((rowStep.frozen final).state ▸ final)⟩
      cases rowStep with
      | kept => exact .inr ⟨current, afterFound, .inl currentHeld⟩
      | scrubbed issued waiting admitted => exact .inr ⟨_, afterFound, .inl currentHeld⟩
      | claimed kind claimer duration issued allowed admitted =>
        exact .inl (.expired middle current earlier (.single (.commit epoch transaction))
          currentFound currentHeld (eligible_lapsed allowed currentHeld))
      | mutated mutation issued target allowed admitted =>
        cases ends : mutation.endsClaim with
        | false =>
          have kept := (@Mutation.keepsClaim mutation middle.now current ends).1
          exact .inr ⟨_, afterFound, .inl (kept.trans currentHeld)⟩
        | true =>
          rcases Mutation.endsClaim_cases ends with gives | final
          · have rowID : current.executionID = id :=
              (Relational.Table.find_some_iff.mp currentFound).2
            cases transaction with
            | apply own =>
              cases issued
              exact .inl (.ended middle epoch mutation current earlier .refl
                (target.trans rowID) gives currentFound currentHeld allowed admitted)
            | _ => cases issued
          · exact .inr ⟨_, afterFound, .inr final⟩

theorem eligible_not_final (eligible : kind.eligible now row = true) :
    row.state.isDurablyFinal = false := by
  cases kind with
  | unknown =>
    simp only [ClaimKind.eligible, Bool.and_eq_true, decide_eq_true_eq] at eligible
    rw [eligible.1.1]
    rfl
  | expired =>
    simp only [ClaimKind.eligible, Bool.and_eq_true, decide_eq_true_eq] at eligible
    have open_ : ∀ state ∈ [State.prepared, .executing, .inFlight],
        state.isDurablyFinal = false := by decide
    exact open_ _ eligible.1.1

def EffectStore.presents? {Result : Type} : EffectStore Result → Option (String × Int)
  | .resolveRecovery executionID expectedVersion _
  | .releaseReconcileClaim executionID expectedVersion _ _
  | .suspendReconciliation executionID expectedVersion _
  | .renewReconcileClaim executionID expectedVersion _ => some (executionID, expectedVersion)
  | _ => none

theorem EffectStore.presents_target (presents : call.presents? = some (id, version)) :
    call.target? = some id := by
  cases call <;> cases presents <;> rfl

theorem EffectStore.presents_not_repeats (presents : call.presents? = some (id, version)) :
    ¬ call.Repeats platform row := by
  cases call <;> cases presents <;> exact fun repeats => repeats

theorem EffectStore.presents_version {cluster : ClusterMeta}
    (presents : call.presents? = some (id, version)) (updates : call.updates platform mutation)
    (allowed : mutation.guard now cluster row = true) : row.version = version := by
  cases call <;> cases presents
  case resolveRecovery =>
    rcases updates with ⟨_, _, _, _, _, _, _, rfl⟩ | ⟨_, rfl⟩ <;>
      simp only [Mutation.guard, Bool.and_eq_true, decide_eq_true_eq] at allowed
    · exact allowed.1.2
    · exact allowed.2
  case releaseReconcileClaim =>
    cases updates
    exact of_decide_eq_true allowed
  case suspendReconciliation =>
    cases updates
    simp only [Mutation.guard, Bool.and_eq_true, decide_eq_true_eq] at allowed
    exact allowed.2
  case renewReconcileClaim =>
    cases updates
    simp only [Mutation.guard, Bool.and_eq_true, decide_eq_true_eq] at allowed
    exact allowed.1.2

/-- A statement of the call took effect on the record between the two worlds, and from the first
world up to that moment the record kept this version. -/
def TookEffect (platform : Platform) (call : EffectStore Unit) (id : String) (version : Int)
    (since until_ : World) : Prop :=
  ∃ (before : World) (epoch : Int) (mutation : Mutation) (row : Row), since.Evolves before ∧
    call.updates platform mutation ∧ before.find id = some row ∧
    mutation.guard before.now before.database.cluster row = true ∧
    before.database.cluster.epoch = epoch ∧
    (before.commit epoch (.apply mutation)).Evolves until_ ∧
    ∀ middle, since.Evolves middle → middle.Evolves before →
      ∃ row, middle.find id = some row ∧ row.version = version

/-- Reconciliation claims over every run.  Of two committed claims of one record, the first was over
before the second: it had expired, or the record had been released, suspended, recovered before
dispatch or moved to `UNKNOWN`.  And a `ResolveRecovery`, `ReleaseReconcileClaim`,
`SuspendReconciliation` or `RenewReconcileClaim` that presents the version a record had succeeds only
by a statement up to which the record kept that version. -/
theorem reconcile_claims_are_exclusive (platform : DispatchPlatform) (faults : Bool)
    (admitted : Call → Prop) {state later : SystemState}
    (reaches : Pool.Reaches (scheduler platform faults admitted) state later) :
    (∀ earlier next id first second, Claims earlier state id first → Claims later next id second →
      ClaimOver id first state.world later.world) ∧
    (∀ index handle (call : EffectStore Unit) log id version row,
      call.presents? = some (id, version) → state.world.find id = some row →
      row.version = version → state.threads.length ≤ index →
      later.threads[index]? = some ⟨.store handle call, .done (.written (.ok ())), log⟩ →
      TookEffect platform.toPlatform call id version state.world later.world) := by
  constructor
  · intro earlier next id first second claimed claimedAgain
    obtain ⟨_, _, row, _, _, found, held⟩ := claimed.row
    obtain ⟨kind, current, _, currentFound, eligible, _⟩ := claimedAgain.row
    rcases claim_held_or_over (reaches_evolves reaches) found held with ended | held'
    · exact ended
    · obtain ⟨same, sameFound, stillHeld | final⟩ := held'
      all_goals
        have sameRow : same = current := Option.some_inj.mp (sameFound.symm.trans currentFound)
        subst sameRow
      · exact .expired later.world same (reaches_evolves reaches) .refl currentFound stillHeld
          (eligible_lapsed eligible stillHeld)
      · rw [eligible_not_final eligible] at final
        cases final
  · intro index handle call log id version row presents found sameVersion new thread
    obtain ⟨start, since, follows⟩ := Pool.Reaches.started reaches thread new
    have target := EffectStore.presents_target presents
    have ended : Ensures faults unguarded
        (Ending .unrestricted platform.toPlatform handle call id start)
        (handle.serve platform.toPlatform call) start [] := serve_ends target .refl
    obtain ⟨reply, same, ends⟩ := call_outcome ended follows
    cases ends with
    | failed error =>
      rw [EffectStore.target_outcome target] at same
      cases same
    | repeated stored storedFound repeats =>
      exact (EffectStore.presents_not_repeats presents repeats).elim
    | hit mutation updates hits =>
      obtain ⟨before, current, evolves, currentFound, allowed, admitted, further⟩ := hits
      rw [EffectStore.target_updates target updates] at currentFound
      have version' : current.version = version :=
        EffectStore.presents_version presents updates allowed
      refine ⟨before, handle.epoch, mutation, current, .trans since evolves, updates, currentFound,
        allowed, admitted, further, fun middle after_ before_ => ?_⟩
      -- versions never fall, and they agree at both ends
      obtain ⟨between, betweenFound, atLeast, _⟩ := World.Evolves.monotone after_ found
      obtain ⟨last, lastFound, atMost, _⟩ := World.Evolves.monotone before_ betweenFound
      have sameLast : last = current := Option.some_inj.mp (lastFound.symm.trans currentFound)
      rw [sameLast] at atMost
      exact ⟨between, betweenFound, by omega⟩

/-- A crashed in-flight record: claimed, moved to `UNKNOWN` by its claimer, and claimed again. -/
def sampleHandedOver : List Choice :=
  sampleCrossing ++ [.wait 2000] ++
  Choice.complete (.store sampleHandle (.claimExpiredBatch "first" 1 minute)) 3 "" "" ++
  Choice.complete (.store sampleHandle (.enterRecovery "execution" .inFlight 4)) 4 "" "" ++
  Choice.complete (.store sampleHandle (.claimUnknownBatch "second" 1 minute)) 5 "" ""

set_option maxRecDepth 4096 in
/-- Both claims succeed a minute before the first one would expire, and nobody released or suspended
anything. -/
theorem claim_given_up_by_recovery :
    ∃ first second : Record, ∃ expiry : Int,
      ((SystemState.initial 0).follow samplePlatform sampleHandedOver).threads.map Thread.label =
        [sampleAcquire "digest", .store sampleHandle (.beginExecution sampleLease),
          .store sampleHandle (.markInFlight sampleLease "provider" []),
          .store sampleHandle (.claimExpiredBatch "first" 1 minute),
          .store sampleHandle (.enterRecovery "execution" .inFlight 4),
          .store sampleHandle (.claimUnknownBatch "second" 1 minute)] ∧
      (((SystemState.initial 0).follow samplePlatform sampleHandedOver).threads[3]?.map
        Thread.program) = some (.done (.records (.ok [first]))) ∧
      (((SystemState.initial 0).follow samplePlatform sampleHandedOver).threads[5]?.map
        Thread.program) = some (.done (.records (.ok [second]))) ∧
      first.executionID = "execution" ∧ second.executionID = "execution" ∧
      first.reconcileOwner = "first" ∧ second.reconcileOwner = "second" ∧
      first.reconcileLeaseExpiresAt = some expiry ∧
      ((SystemState.initial 0).follow samplePlatform sampleHandedOver).world.now + 60000 ≤ expiry :=
  ⟨_, _, _, rfl, rfl, rfl, rfl, rfl, rfl, rfl, rfl, by decide⟩

set_option maxRecDepth 4096 in
/-- The claim the second reconciler holds, released with the version it was reported with. -/
theorem reconcile_claims_are_exclusive_released :
    ∃ row, ((SystemState.initial 0).follow samplePlatform sampleHandedOver).world.find "execution" =
        some row ∧ row.version = 6 ∧
      TookEffect samplePlatform.toPlatform (.releaseReconcileClaim "execution" 6 0 "") "execution" 6
        ((SystemState.initial 0).follow samplePlatform sampleHandedOver).world
        (((SystemState.initial 0).follow samplePlatform sampleHandedOver).follow samplePlatform
          (Choice.complete (.store sampleHandle (.releaseReconcileClaim "execution" 6 0 "")) 6 ""
            "")).world := by
  have exclusive := (reconcile_claims_are_exclusive samplePlatform false (fun _ => True)
    (follow_reaches samplePlatform false
      (Choice.complete (.store sampleHandle (.releaseReconcileClaim "execution" 6 0 "")) 6 "" "")
      ((SystemState.initial 0).follow samplePlatform sampleHandedOver))).2
  exact ⟨_, rfl, rfl, exclusive 6 sampleHandle _ [] "execution" 6 _ rfl rfl rfl (by decide) rfl⟩

end Exclusion

end Crabedence
