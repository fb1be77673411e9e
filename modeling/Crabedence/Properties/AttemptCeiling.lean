import Crabedence.Reconcile.Reasoning
import Mathlib.Order.Interval.Finset.Nat
import Mathlib.Data.Int.Interval

/-!
# The attempt ceiling

The attempt counter is a column that a claim increments, and the ceiling is checked by the worker
that got the record.  No statement lowers the counter, so no attempt of a record is reported twice,
and at most as many resolver calls are made as there are attempts within the ceiling.  A suspension
puts the next claim a hundred years off.
-/

namespace Crabedence

open Resumption

namespace Lookup

def attempt? (id : String) : Lookup → Option Int
  | .claimed other attempt => if other = id then some attempt else none
  | _ => none

theorem countP_within (ceiling : Int) (id : String) (marks : List Lookup) :
    marks.countP (within ceiling id) =
      (marks.filterMap (attempt? id)).countP fun attempt => decide (attempt ≤ ceiling) := by
  induction marks with
  | nil => rfl
  | cons mark rest ih =>
    cases mark with
    | resolved other =>
      rw [List.filterMap_cons_none rfl, List.countP_cons_of_neg Bool.false_ne_true, ih]
    | claimed other attempt =>
      by_cases same : other = id
      · have own : attempt? id (.claimed other attempt) = some attempt := if_pos same
        rw [List.filterMap_cons_some own, List.countP_cons, List.countP_cons, ih]
        simp only [within, same, true_and]
      · have foreign : attempt? id (.claimed other attempt) = none := if_neg same
        rw [List.filterMap_cons_none foreign, List.countP_cons, ih]
        simp only [within, same, false_and, decide_false, Bool.false_eq_true, if_false, add_zero]

end Lookup

theorem countP_le_of_nodup {numbers : List Int} {bound : Int} (distinct : numbers.Nodup)
    (positive : ∀ number ∈ numbers, 1 ≤ number) (nonneg : 0 ≤ bound) :
    (numbers.countP (fun number => decide (number ≤ bound)) : Int) ≤ bound := by
  have inside : (numbers.filter fun number => decide (number ≤ bound)).toFinset ⊆
      Finset.Icc 1 bound := by
    intro number member
    rw [List.mem_toFinset, List.mem_filter, decide_eq_true_eq] at member
    exact Finset.mem_Icc.mpr ⟨positive number member.1, member.2⟩
  have size := Finset.card_le_card inside
  rw [List.toFinset_card_of_nodup (distinct.filter _), Int.card_Icc] at size
  rw [List.countP_eq_length_filter]
  omega

variable {Reply : Type} {transaction : Transaction Reply} {epoch due ceiling : Int} {row : Row}
  {before after world : World} {id : String} {records : List Record} {marks log : List Lookup}
  {faults : Bool} {operation : ReconcileOp Reply} {reply : Reply} {state : ReconcileState}

theorem RowStep.attempt_le {now : Int} {cluster : ClusterMeta} {after : Row}
    (step : RowStep transaction epoch now cluster row after) :
    row.reconcile.attempt ≤ after.reconcile.attempt := by
  cases step with
  | kept | scrubbed issued waiting current => exact Int.le_refl _
  | mutated mutation issued target allowed current => cases mutation <;> exact Int.le_refl _
  | claimed kind owner duration issued allowed current =>
    cases kind with
    | expired => exact Int.le_refl _
    | unknown => exact Int.le_add_one (Int.le_refl _)

theorem World.Evolves.attempt_le (evolves : before.Evolves after)
    (found : before.find id = some row) :
    ∃ row', after.find id = some row' ∧ row.reconcile.attempt ≤ row'.reconcile.attempt :=
  evolves.keeps (fun _ later => row.reconcile.attempt ≤ later.reconcile.attempt)
    (fun _ same => same) (fun step grown => Int.le_trans grown step.attempt_le) found
    (Int.le_refl _)

/-- No attempt of a record has been reported twice, and none beyond the record's counter. -/
structure Counted (world : World) (marks : List Lookup) : Prop where
  nonneg : ∀ id row, world.find id = some row → 0 ≤ row.reconcile.attempt
  distinct : ∀ id, (marks.filterMap (Lookup.attempt? id)).Nodup
  reached : ∀ id, ∀ attempt ∈ marks.filterMap (Lookup.attempt? id), 1 ≤ attempt ∧
    ∃ row, world.find id = some row ∧ attempt ≤ row.reconcile.attempt

theorem Counted.evolves {added : List Lookup}
    (counted : Counted before marks) (evolves : before.Evolves after)
    (silent : ∀ id, added.filterMap (Lookup.attempt? id) = []) :
    Counted after (marks ++ added) := by
  have same (id : String) : (marks ++ added).filterMap (Lookup.attempt? id) =
      marks.filterMap (Lookup.attempt? id) := by
    rw [List.filterMap_append, silent, List.append_nil]
  refine ⟨?_, fun id => ?_, fun id attempt member => ?_⟩
  · exact evolves.invariant (fun _ row => 0 ≤ row.reconcile.attempt) (fun _ nonneg => nonneg)
      (fun step nonneg => Int.le_trans nonneg step.attempt_le) (fun _ _ _ => Int.le_refl _)
      counted.nonneg
  · rw [same]
    exact counted.distinct id
  · rw [same] at member
    obtain ⟨positive, row, found, most⟩ := counted.reached id attempt member
    obtain ⟨later, laterFound, grown⟩ := evolves.attempt_le found
    exact ⟨positive, later, laterFound, Int.le_trans most grown⟩

theorem mem_attempts {attempt : Int} :
    attempt ∈ (claimMarks records).filterMap (Lookup.attempt? id) ↔
      ∃ record ∈ records, record.executionID = id ∧ record.reconcileAttempt = attempt := by
  unfold claimMarks
  rw [List.filterMap_map, List.mem_filterMap]
  constructor
  · rintro ⟨record, member, same⟩
    simp only [Function.comp_apply, Lookup.attempt?] at same
    split_ifs at same with own
    exact ⟨record, member, own, Option.some.inj same⟩
  · rintro ⟨record, member, own, same⟩
    refine ⟨record, member, ?_⟩
    simp only [Function.comp_apply, Lookup.attempt?, own, same, if_true]

theorem nodup_attempts (id : String) (distinct : (records.map Record.executionID).Nodup) :
    ((claimMarks records).filterMap (Lookup.attempt? id)).Nodup := by
  induction records with
  | nil => exact List.nodup_nil
  | cons record rest ih =>
    rw [List.map_cons, List.nodup_cons] at distinct
    by_cases own : record.executionID = id
    · have reported : Lookup.attempt? id (.claimed record.executionID record.reconcileAttempt) =
          some record.reconcileAttempt := if_pos own
      show ((Lookup.claimed record.executionID record.reconcileAttempt ::
        claimMarks rest).filterMap (Lookup.attempt? id)).Nodup
      rw [List.filterMap_cons_some reported, List.nodup_cons]
      refine ⟨fun again => ?_, ih distinct.2⟩
      obtain ⟨other, member, sameID, _⟩ := mem_attempts.mp again
      exact distinct.1 (List.mem_map.mpr ⟨other, member, sameID.trans own.symm⟩)
    · have foreign : Lookup.attempt? id (.claimed record.executionID record.reconcileAttempt) =
          none := if_neg own
      show ((Lookup.claimed record.executionID record.reconcileAttempt ::
        claimMarks rest).filterMap (Lookup.attempt? id)).Nodup
      rw [List.filterMap_cons_none foreign]
      exact ih distinct.2

theorem Counted.claimed (counted : Counted world marks) (epoch duration : Int) (owner : String)
    (limit : Nat) : Counted (world.commit epoch (.claim .unknown owner duration limit))
      (marks ++ claimMarks ((Transaction.claim .unknown owner duration limit).exec epoch world.now
        world.database).1) := by
  have evolved : world.Evolves (world.commit epoch (.claim .unknown owner duration limit)) :=
    .single (.commit epoch _)
  have settled := @Counted.evolves _ _ _ [] counted evolved fun _ => rfl
  rw [List.append_nil] at settled
  -- what the claim reports of a record is beyond everything reported before
  have reported (id : String) (attempt : Int) (member : attempt ∈ (claimMarks
      ((Transaction.claim .unknown owner duration limit).exec epoch world.now
        world.database).1).filterMap (Lookup.attempt? id)) :
      ∃ row, world.find id = some row ∧ attempt = row.reconcile.attempt + 1 ∧
        ∃ after, (world.commit epoch (.claim .unknown owner duration limit)).find id = some after ∧
          after.reconcile.attempt = attempt := by
    obtain ⟨record, listed, rfl, rfl⟩ := mem_attempts.mp member
    obtain ⟨row, found, _, claimed, same⟩ := Database.applyClaim_reported listed
    exact ⟨row, found, by rw [same]; rfl, _, claimed, by rw [same]; rfl⟩
  refine ⟨settled.nonneg, fun id => ?_, fun id attempt member => ?_⟩
  · rw [List.filterMap_append]
    refine (counted.distinct id).append (nodup_attempts id Database.applyClaim_distinct) ?_
    intro attempt before again
    obtain ⟨_, row, found, most⟩ := counted.reached id attempt before
    obtain ⟨current, currentFound, next, _⟩ := reported id attempt again
    have same : row = current := Option.some_inj.mp (found.symm.trans currentFound)
    rw [same] at most
    omega
  · rw [List.filterMap_append, List.mem_append] at member
    rcases member with before | now
    · exact settled.reached id attempt before
    · obtain ⟨row, found, next, after, afterFound, same⟩ := reported id attempt now
      have nonneg := counted.nonneg id row found
      exact ⟨by omega, after, afterFound, by omega⟩

theorem Counted.served {sofar : List Lookup}
    (served : (reconciler faults).serve operation before reply after marks)
    (counted : Counted before sofar) : Counted after (sofar ++ marks) := by
  obtain ⟨serves, rfl⟩ := served
  have evolved := serves.evolves
  have silent (none : ∀ id, (operation.marks reply).filterMap (Lookup.attempt? id) = []) :
      Counted after (sofar ++ operation.marks reply) := counted.evolves evolved none
  cases operation with
  | resolve record => exact silent fun _ => rfl
  | base operation =>
    cases operation with
    | host request => exact silent fun _ => rfl
    | sql epoch transaction =>
      cases transaction with
      | claim kind owner duration limit =>
        cases kind with
        | expired => exact silent fun _ => rfl
        | unknown =>
          cases serves with
          | committed => exact counted.claimed epoch duration owner limit
          | refused faulty error | unacknowledged faulty error => exact silent fun _ => rfl
      | _ => exact silent fun _ => rfl

/-- The row is terminal, or unknown without a claimer and with no reconciliation before `due`. -/
def Row.Resting (due : Int) (row : Row) : Prop :=
  row.state.isDurablyFinal = true ∨
    (row.state = .unknown ∧ row.reconcile.owner = none ∧
      ∃ next, row.reconcile.nextAt = some next ∧ due ≤ next)

section Resting

variable {mutation : Mutation} {now : Int} {cluster : ClusterMeta}

theorem Mutation.assign_resting (allowed : mutation.guard now cluster row = true)
    (other : mutation.releases = false) (horizon : due ≤ now + Mutation.suspensionHorizon)
    (unknown : row.state = .unknown) (unowned : row.reconcile.owner = none) {next : Int}
    (scheduled : row.reconcile.nextAt = some next) (later : due ≤ next) :
    (mutation.assign now row).Resting due := by
  have departs {source : State} (from_ : row.state ∈ [source])
      (legal : isLegalTransition source .unknown = true) : False := by
    rw [← List.mem_singleton.mp from_, unknown] at legal
    exact absurd legal (by decide)
  have excludes {states : List State} (from_ : row.state ∈ states)
      (apart : State.unknown ∉ states) : False := apart (unknown ▸ from_)
  cases mutation with
  | recordProviderObservation | touchUnknown | renewReconcileClaim =>
    exact .inr ⟨unknown, unowned, next, scheduled, later⟩
  | suspendReconciliation => exact .inr ⟨unknown, rfl, _, rfl, horizon⟩
  | finalize lease expectedState version write final legal => exact .inl final
  | resolveRecovery executionID version write material legal =>
    left
    show write.receipt.terminalStatus.isDurablyFinal = true
    rcases legal_resolved legal with final | final <;> rw [final] <;> rfl
  | enterRecovery executionID expectedState version legal
  | enterRecoveryWithObservation executionID expectedState version material legal =>
    exact (departs (guard_sources allowed rfl) legal).elim
  | releaseReconcileClaim => cases other
  | _ => exact (excludes (guard_sources allowed rfl) (by decide)).elim

theorem Row.Resting.due_of_eligible {kind : ClaimKind} (resting : row.Resting due)
    (eligible : kind.eligible now row = true) : due ≤ now := by
  rcases resting with final | ⟨unknown, _, next, scheduled, later⟩
  · rw [eligible_not_final eligible] at final
    cases final
  · cases kind with
    | unknown =>
      simp only [ClaimKind.eligible, scheduled, Option.all_some, Bool.and_eq_true,
        decide_eq_true_eq] at eligible
      omega
    | expired =>
      simp only [ClaimKind.eligible, unknown, Bool.and_eq_true, decide_eq_true_eq] at eligible
      exact absurd eligible.1.1 (by decide)

end Resting

/-- The record rests until `due`, or `due` has come; a suspension now would last as long. -/
structure Suspended (id : String) (due : Int) (world : World) : Prop where
  horizon : due ≤ world.now + Mutation.suspensionHorizon
  rests : due ≤ world.now ∨ ∃ row, world.find id = some row ∧ row.Resting due

theorem Suspended.ticks (suspended : Suspended id due before) (drift : before.Drift after) :
    Suspended id due after := by
  obtain ⟨sameDatabase, forward⟩ := drift
  have horizon := suspended.horizon
  refine ⟨by omega, ?_⟩
  rcases suspended.rests with passed | ⟨row, found, resting⟩
  · exact .inl (by omega)
  · refine .inr ⟨row, ?_, resting⟩
    unfold World.find at found ⊢
    rw [sameDatabase]
    exact found

theorem Suspended.committed (suspended : Suspended id due world)
    (conduct : Conduct ceiling (.base (.sql epoch transaction)) world log) :
    Suspended id due (world.commit epoch transaction) := by
  refine ⟨suspended.horizon, ?_⟩
  rcases suspended.rests with passed | ⟨row, found, resting⟩
  · exact .inl passed
  have rowID : row.executionID = id := (Relational.Table.find_some_iff.mp found).2
  obtain ⟨after, afterFound, step⟩ :=
    @Transaction.exec_row Reply transaction epoch world.now _ id row found
  have rests (still : after.Resting due) : due ≤ (world.commit epoch transaction).now ∨
      ∃ row, (world.commit epoch transaction).find id = some row ∧ row.Resting due :=
    .inr ⟨after, afterFound, still⟩
  rcases resting with final | ⟨unknown, unowned, next, scheduled, later⟩
  · exact rests (.inl ((step.frozen final).state ▸ final))
  cases step with
  | kept | scrubbed issued waiting current =>
    exact rests (.inr ⟨unknown, unowned, next, scheduled, later⟩)
  | claimed kind owner duration issued allowed current =>
    exact .inl (Row.Resting.due_of_eligible (.inr ⟨unknown, unowned, next, scheduled, later⟩)
      allowed)
  | mutated mutation issued target allowed current =>
    cases released : mutation.releases with
    | false =>
      exact rests (Mutation.assign_resting allowed released suspended.horizon unknown unowned
        scheduled later)
    | true =>
      -- the release presents a version at which the record names a claimer
      cases mutation with
      | releaseReconcileClaim executionID version backoff lastError =>
        cases transaction with
        | apply own =>
          cases issued
          obtain rfl : executionID = id := target.trans rowID
          obtain ⟨_, claimed⟩ := Relational.holds_of_found conduct found
          rw [unowned] at claimed
          exact absurd (claimed (of_decide_eq_true allowed)) Bool.false_ne_true
        | _ => cases issued
      | _ => cases released

theorem Suspended.served (conduct : Conduct ceiling operation before log)
    (served : (reconciler faults).serve operation before reply after marks)
    (suspended : Suspended id due before) : Suspended id due after := by
  obtain ⟨serves, _⟩ := served
  cases operation with
  | resolve record =>
    have same : after = before := serves
    rw [same]
    exact suspended
  | base operation =>
    cases operation with
    | host request =>
      rw [serves.1]
      exact suspended
    | sql epoch transaction =>
      cases serves with
      | committed => exact suspended.committed conduct
      | refused faulty error => exact suspended
      | unacknowledged faulty error => exact suspended.committed conduct

theorem Counted.perm {other : List Lookup} (permuted : marks.Perm other)
    (counted : Counted world marks) : Counted world other where
  nonneg := counted.nonneg
  distinct id := (permuted.filterMap _).nodup_iff.mp (counted.distinct id)
  reached id attempt member :=
    counted.reached id attempt ((permuted.filterMap _).mem_iff.mpr member)

theorem counted_initial (start : Int) : Counted (ReconcileState.initial start).world [] where
  nonneg id row found := by
    have empty : (ReconcileState.initial start).world.find id = none := rfl
    rw [empty] at found
    cases found
  distinct _ := List.nodup_nil
  reached _ _ member := absurd member List.not_mem_nil

theorem counted_of_reaches {platform : DispatchPlatform} {start : Int}
    (reached : Pool.Reaches (reconcileScheduler platform faults ceiling)
      (ReconcileState.initial start) state) : Counted state.world state.history := by
  apply Pool.Reaches.recorded Counted reached rfl
  · exact Counted.perm
  · intro before after marks drift counted
    have moved := @Counted.evolves _ _ _ [] counted drift.evolves fun _ => rfl
    rw [List.append_nil] at moved
    exact moved
  · exact fun served counted => counted.served served
  · exact counted_initial start

theorem covered_of_conduct {Result : Type} {program rest : Program ReconcileOp Result}
    {later : World} {post : Result → World → List Lookup → Prop}
    (safe : (reconciler faults).Safe (Conduct ceiling) post program world [])
    (follows : (reconciler faults).Follows program world [] rest later log) (id : String) :
    log.countP (Lookup.resolves id) ≤ log.countP (Lookup.within ceiling id) := by
  apply safe.keeps (fun _ sofar => sofar.countP (Lookup.resolves id) ≤
    sofar.countP (Lookup.within ceiling id)) follows (fun _ covered => covered) _ (Nat.le_refl _)
  intro Reply operation before after reply sofar marks conduct served covered
  obtain ⟨_, rfl⟩ := served
  rw [List.countP_append, List.countP_append]
  cases operation with
  | base operation =>
    rw [resolves_base]
    omega
  | resolve record =>
    have called : sofar.countP (Lookup.resolves record.executionID) <
      sofar.countP (Lookup.within ceiling record.executionID) := conduct
    by_cases own : record.executionID = id
    · have one : (ReconcileOp.resolve record).marks reply =
          [.resolved record.executionID] := rfl
      rw [own] at called
      rw [one, List.countP_singleton]
      split_ifs <;> omega
    · have none : ((ReconcileOp.resolve record).marks reply).countP (Lookup.resolves id) = 0 := by
        show [Lookup.resolved record.executionID].countP (Lookup.resolves id) = 0
        rw [List.countP_singleton]
        simp only [Lookup.resolves, own, decide_false, Bool.false_eq_true, if_false]
      omega

def Suspends (state next : ReconcileState) (id : String) : Prop :=
  ∃ (epoch version : Int) (reason : String) (row : Row), state.world.find id = some row ∧
    (Mutation.suspendReconciliation id version reason).guard state.world.now
      state.world.database.cluster row = true ∧
    state.world.database.cluster.epoch = epoch ∧
    next.world = state.world.commit epoch (.apply (.suspendReconciliation id version reason))

/-- The step committed a `ClaimUnknownBatch` that selected the record. -/
def ClaimsUnknown (state next : ReconcileState) (id : String) : Prop :=
  ∃ (epoch : Int) (owner : String) (duration : Int) (limit : Nat),
    next.world = state.world.commit epoch (.claim .unknown owner duration limit) ∧
    id ∈ ((Transaction.claim .unknown owner duration limit).exec epoch state.world.now
      state.world.database).1.map Record.executionID

theorem Suspends.suspended {next : ReconcileState} (suspends : Suspends state next id) :
    Suspended id (state.world.now + Mutation.suspensionHorizon) next.world := by
  obtain ⟨epoch, version, reason, row, found, allowed, current, committed⟩ := suspends
  have waiting : row.state = .unknown := by
    simp only [Mutation.guard, Bool.and_eq_true, decide_eq_true_eq] at allowed
    exact allowed.1
  have hit : next.world.find id = some
      ((Mutation.suspendReconciliation id version reason).assign state.world.now row) := by
    rw [committed]
    exact World.commit_hit found allowed current
  rw [committed] at hit ⊢
  exact ⟨Int.le_refl _, .inr ⟨_, hit, .inr ⟨waiting, rfl, _, rfl, Int.le_refl _⟩⟩⟩

/-- Any number of workers with one positive ceiling among any other callers: the resolver is called
at most as often as the ceiling says for a record, and a suspended record is not claimed again before
the suspension's horizon of the database clock has passed. -/
theorem resolver_calls_within_ceiling (platform : DispatchPlatform) (faults : Bool) {ceiling : Int}
    (positive : 0 < ceiling) (start : Int) {state : ReconcileState}
    (reached : Pool.Reaches (reconcileScheduler platform faults ceiling)
      (ReconcileState.initial start) state) :
    (∀ id, (state.history.countP (Lookup.resolves id) : Int) ≤ ceiling) ∧
    (∀ next later last id, Pool.Step (reconcileScheduler platform faults ceiling) state next →
      Suspends state next id → Pool.Reaches (reconcileScheduler platform faults ceiling) next later →
      Pool.Step (reconcileScheduler platform faults ceiling) later last →
      ClaimsUnknown later last id →
      state.world.now + Mutation.suspensionHorizon ≤ later.world.now) := by
  have safe (participant : Participant) (world : World) (admitted : participant.Admitted ceiling) :
      (reconciler faults).Safe (Conduct ceiling) (fun _ _ _ => True)
        (participant.program platform) world [] := participant_conducts positive admitted world
  constructor
  · intro id
    have counted := counted_of_reaches reached
    have covered : state.history.countP (Lookup.resolves id) ≤
        state.history.countP (Lookup.within ceiling id) := by
      apply Pool.countP_history_le
      intro thread member
      obtain ⟨index, found⟩ := List.mem_iff_getElem?.mp member
      cases Pool.Reaches.thread reached found with
      | continued earlier => cases earlier
      | started beyond admitted since follows =>
        exact covered_of_conduct (safe thread.label _ admitted) follows id
    rw [Lookup.countP_within] at covered
    have bounded := countP_le_of_nodup (counted.distinct id)
      (fun attempt member => (counted.reached id attempt member).1) (Int.le_of_lt positive)
    omega
  · intro next later last id step suspends reaches _ claims
    have suspended : Suspended id (state.world.now + Mutation.suspensionHorizon) later.world :=
      Pool.Reaches.preserves _ (reached.tail step) reaches rfl
        (fun participant world admitted _ => safe participant world admitted)
        (fun drift suspended => suspended.ticks drift)
        (fun conduct served suspended => suspended.served conduct served) suspends.suspended
    obtain ⟨epoch, owner, duration, limit, _, reported⟩ := claims
    obtain ⟨record, listed, rfl⟩ := List.mem_map.mp reported
    obtain ⟨row, found, eligible, _⟩ := Database.applyClaim_reported listed
    rcases suspended.rests with passed | known
    · exact passed
    · exact (Relational.holds_of_found known found).due_of_eligible eligible

theorem sampleAttempted_admitted (ceiling : Int) (participant : Participant)
    (member : Move.start participant ∈ sampleAttempted ceiling) : participant.Admitted ceiling := by
  simp only [sampleAttempted, sampleCrashed, Move.complete, List.replicate, List.mem_append,
    List.mem_cons, List.not_mem_nil, Move.start.injEq, reduceCtorEq, or_false] at member
  rcases member with ((((rfl | rfl) | rfl) | rfl)) | rfl <;> rfl

set_option maxRecDepth 4096 in
/-- A worker with a ceiling of one has called the resolver once. -/
theorem resolver_calls_within_ceiling_once :
    (((ReconcileState.initial 0).follow samplePlatform (sampleAttempted 1)).history.countP
        (Lookup.resolves "execution") : Int) = 1 ∧
      (((ReconcileState.initial 0).follow samplePlatform (sampleAttempted 1)).history.countP
        (Lookup.resolves "execution") : Int) ≤ 1 := by
  have reached := ReconcileState.follow_reaches samplePlatform false (sampleAttempted 1)
    (ReconcileState.initial 0) (sampleAttempted_admitted 1)
  exact ⟨rfl, (resolver_calls_within_ceiling samplePlatform false (by decide) 0 reached).1
    "execution"⟩

def sampleUnparked : ReconcileState :=
  (ReconcileState.initial 0).follow samplePlatform (sampleAttempted 1)

def sampleParked : ReconcileState :=
  sampleUnparked.choose samplePlatform (.serve 4 { leaseToken := "", executionID := "" })

/-- A hundred years later another `ClaimUnknownBatch` is called. -/
def sampleCentury : List Move :=
  [.wait 3153600000000, .start (.call (.store sampleHandle (.claimUnknownBatch "late" 1 minute)))]

def sampleLate : ReconcileState := sampleParked.follow samplePlatform sampleCentury

def sampleReclaimed : ReconcileState :=
  sampleLate.choose samplePlatform (.serve 5 { leaseToken := "", executionID := "" })

set_option maxRecDepth 8192 in
theorem sample_suspends : Suspends sampleUnparked sampleParked "execution" :=
  ⟨1, 6, "reconcile attempt ceiling reached" ++ " (last error: " ++
    ("resolver error: " ++ "provider unreachable") ++ ")", _, rfl, rfl, rfl, rfl⟩

set_option maxRecDepth 8192 in
theorem sample_reclaimed : ClaimsUnknown sampleLate sampleReclaimed "execution" :=
  ⟨1, "late", msDuration minute, 1, rfl, List.mem_singleton.mpr rfl⟩

theorem sampleCentury_admitted (participant : Participant)
    (member : Move.start participant ∈ sampleCentury) : participant.Admitted 1 := by
  simp only [sampleCentury, List.mem_cons, List.not_mem_nil, Move.start.injEq, reduceCtorEq,
    or_false, false_or] at member
  subst member
  rfl

set_option maxRecDepth 4096 in
/-- With a ceiling of one the record is suspended after its only attempt and claimed again a hundred
years later; with a ceiling of zero its resolver is called. -/
theorem suspended_record_claimed_after_a_century :
    (∃ state next later last : ReconcileState,
      Pool.Reaches (reconcileScheduler samplePlatform false 1) (ReconcileState.initial 0) state ∧
      Pool.Step (reconcileScheduler samplePlatform false 1) state next ∧
      Suspends state next "execution" ∧
      Pool.Reaches (reconcileScheduler samplePlatform false 1) next later ∧
      Pool.Step (reconcileScheduler samplePlatform false 1) later last ∧
      ClaimsUnknown later last "execution") ∧
    ∃ state : ReconcileState,
      Pool.Reaches (reconcileScheduler samplePlatform false 0) (ReconcileState.initial 0) state ∧
      (state.history.countP (Lookup.resolves "execution") : Int) = 1 := by
  have attempted (ceiling : Int) := ReconcileState.follow_reaches samplePlatform false
    (sampleAttempted ceiling) (ReconcileState.initial 0) (sampleAttempted_admitted ceiling)
  have served (state : ReconcileState) (index : Nat) (replies : HostReplies) :
      Pool.Step (reconcileScheduler samplePlatform false 1) state
        (state.choose samplePlatform (.serve index replies)) :=
    state.choose_step samplePlatform false _ fun _ other => by cases other
  have waited : Pool.Reaches (reconcileScheduler samplePlatform false 1) sampleParked sampleLate :=
    sampleParked.follow_reaches samplePlatform false sampleCentury sampleCentury_admitted
  exact ⟨⟨sampleUnparked, sampleParked, sampleLate, sampleReclaimed, attempted 1, served _ _ _,
    sample_suspends, waited, served _ _ _, sample_reclaimed⟩, _, attempted 0, rfl⟩

end Crabedence
