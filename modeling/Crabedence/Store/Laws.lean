import Crabedence.World

/-!
# Laws of a row

What every transaction, whoever issues it, preserves of a row: its identity, the lifecycle graph, the
frozen columns of a terminal row, and the order in which versions and lease generations grow.  The
general rule `Evolves.keeps` carries a fact about one row from one step to a whole run of the world.
-/

namespace Crabedence

/-- The edges of the lifecycle graph. -/
inductive Edge : State → State → Prop where
  | preparedExecuting : Edge .prepared .executing
  | executingInFlight : Edge .executing .inFlight
  | executingPrepared : Edge .executing .prepared
  | inFlightCommitted : Edge .inFlight .committed
  | inFlightFailed : Edge .inFlight .failed
  | inFlightUnknown : Edge .inFlight .unknown
  | unknownCommitted : Edge .unknown .committed
  | unknownFailed : Edge .unknown .failed

variable {source target : State} {row first second third : Row} {now : Int}

theorem isLegalTransition_iff_edge :
    isLegalTransition source target = true ↔ Edge source target := by
  constructor
  · intro legal
    cases source <;> cases target <;> first | constructor | exact absurd legal (by decide)
  · intro edge
    cases edge <;> rfl

theorem Edge.not_preDispatch (edge : Edge source target) (crossed : source.isPreDispatch = false) :
    target.isPreDispatch = false := by
  cases edge <;> first | rfl | exact crossed

theorem Edge.not_final (edge : Edge source target) : source.isDurablyFinal = false := by
  cases edge <;> rfl

variable {cluster : ClusterMeta}

namespace Mutation

variable {mutation : Mutation}

/-- The states a statement's guard lets through; `none` where it does not look at the state. -/
def sources : Mutation → Option (List State)
  | acquireUnleased .. | beginExecution _ => some [.prepared]
  | reclaimExpiredLease .. | abandonPreDispatch _ | recoverExpiredPreDispatch .. =>
    some [.prepared, .executing]
  | markInFlight .. => some [.executing]
  | markInFlightExpiredAsUnknown .. => some [.inFlight]
  | renewLease .. => some [.prepared, .executing, .inFlight]
  | finalize _ expectedState .. | enterRecovery _ expectedState ..
  | enterRecoveryWithObservation _ expectedState .. => some [expectedState]
  | recordProviderObservation .. => some [.inFlight, .unknown]
  | touchUnknown .. | resolveRecovery .. | suspendReconciliation .. | renewReconcileClaim .. =>
    some [.unknown]
  | releaseReconcileClaim .. => none

theorem isPreDispatch_iff {state : State} :
    state.isPreDispatch = true ↔ state = .prepared ∨ state = .executing := by
  cases state <;> decide

theorem guard_sources (allowed : mutation.guard now cluster row = true) {states : List State}
    (looked : mutation.sources = some states) : row.state ∈ states := by
  cases mutation <;> cases looked <;>
    simp only [guard, Bool.and_eq_true, Bool.or_eq_true, decide_eq_true_eq, isPreDispatch_iff,
      List.mem_cons, List.not_mem_nil, or_false] at allowed ⊢
  case renewLease lease duration =>
    cases state : row.state <;> simp_all
  all_goals tauto

theorem assign_state (allowed : mutation.guard now cluster row = true) :
    (mutation.assign now row).state = row.state ∨
      Edge row.state (mutation.assign now row).state := by
  have toPrepared (pre : row.state ∈ [State.prepared, .executing]) :
      State.prepared = row.state ∨ Edge row.state .prepared := by
    rcases List.mem_pair.mp pre with state | state <;> rw [state]
    · exact .inl rfl
    · exact .inr .executingPrepared
  have along {source target : State} (from_ : row.state ∈ [source]) (edge : Edge source target) :
      target = row.state ∨ Edge row.state target := by
    rw [List.mem_singleton.mp from_]
    exact .inr edge
  cases mutation with
  | reclaimExpiredLease | abandonPreDispatch | recoverExpiredPreDispatch =>
    exact toPrepared (guard_sources allowed rfl)
  | markInFlightExpiredAsUnknown => exact along (guard_sources allowed rfl) .inFlightUnknown
  | beginExecution => exact along (guard_sources allowed rfl) .preparedExecuting
  | markInFlight => exact along (guard_sources allowed rfl) .executingInFlight
  | finalize lease expectedState version write final legal
  | enterRecovery executionID expectedState version legal
  | enterRecoveryWithObservation executionID expectedState version material legal
  | resolveRecovery executionID version write material legal =>
    exact along (guard_sources allowed rfl) (isLegalTransition_iff_edge.mp legal)
  | _ => exact .inl rfl

theorem guard_final (allowed : mutation.guard now cluster row = true)
    (final : row.state.isDurablyFinal = true) : ∃ executionID version backoff lastError,
      mutation = releaseReconcileClaim executionID version backoff lastError := by
  have departs {source target : State} (from_ : row.state ∈ [source])
      (legal : isLegalTransition source target = true) : False := by
    rw [List.mem_singleton.mp from_, (isLegalTransition_iff_edge.mp legal).not_final] at final
    cases final
  have excludes {states : List State} (from_ : row.state ∈ states)
      (nonfinal : ∀ state ∈ states, state.isDurablyFinal = false) : False := by
    rw [nonfinal row.state from_] at final
    cases final
  cases mutation with
  | releaseReconcileClaim executionID version backoff lastError => exact ⟨_, _, _, _, rfl⟩
  | finalize lease expectedState version write final legal
  | enterRecovery executionID expectedState version legal
  | enterRecoveryWithObservation executionID expectedState version material legal =>
    exact (departs (guard_sources allowed rfl) legal).elim
  | _ => exact (excludes (guard_sources allowed rfl) (by decide)).elim

theorem assign_monotone : row.version ≤ (mutation.assign now row).version ∧
      row.lease.generation ≤ (mutation.assign now row).lease.generation := by
  constructor <;> cases mutation <;>
    simp only [assign, Row.stamp, Row.grantLease, Row.clearLease, Row.enterUnknown,
      Row.clearClaim, Row.observe, Row.terminate] <;> omega

end Mutation

/-- Everything a transaction can do to the lease columns of a row. -/
inductive LeaseStep (now : Int) (lease : LeaseColumns) : LeaseColumns → Prop where
  | kept : LeaseStep now lease lease
  | cleared : LeaseStep now lease { lease with
      owner := none, token := none, startedAt := none, expiresAt := none }
  | granted (owner token : String) (duration : Int) : LeaseStep now lease {
      owner := some owner, token := some token, startedAt := some now
      expiresAt := some (now + duration), generation := lease.generation + 1 }
  | renewed (expiry duration : Int) (current : lease.expiresAt = some expiry)
      (live : now < expiry) :
      LeaseStep now lease { lease with expiresAt := some (max expiry (now + duration)) }

theorem Row.names_iff {lease : Lease} : row.names lease = true ↔
      row.lease.token = some lease.token ∧ row.lease.generation = lease.generation := by
  unfold Row.names
  rw [Bool.and_eq_true, decide_eq_true_eq, decide_eq_true_eq]

theorem Row.unexpired_iff :
    row.unexpired now = true ↔ ∃ expiry, row.lease.expiresAt = some expiry ∧ now < expiry := by
  unfold Row.unexpired
  rw [Option.any_eq_true]
  simp only [decide_eq_true_eq]

theorem Mutation.assign_lease {mutation : Mutation} {cluster : ClusterMeta}
    (allowed : mutation.guard now cluster row = true) :
    LeaseStep now row.lease (mutation.assign now row).lease := by
  cases mutation with
  | acquireUnleased executionID version duration owner token generation =>
    exact .granted owner token duration
  | reclaimExpiredLease executionID version duration owner token previous generation =>
    exact .granted owner token duration
  | renewLease lease duration =>
    simp only [guard, Bool.and_eq_true] at allowed
    obtain ⟨expiry, current, live⟩ := Row.unexpired_iff.mp allowed.1.2
    have renewed : LeaseStep now row.lease { row.lease with
        expiresAt := some (max expiry (now + duration)) } := .renewed expiry duration current live
    simpa only [assign, current, Option.map_some] using renewed
  | abandonPreDispatch | finalize | recoverExpiredPreDispatch | markInFlightExpiredAsUnknown
  | enterRecovery | enterRecoveryWithObservation => exact .cleared
  | _ => exact .kept

/-- The columns a terminal row keeps for good. -/
structure Frozen (row after : Row) : Prop where
  identity : after.identity = row.identity
  state : after.state = row.state
  result : after.result = row.result
  evidenceDigest : after.evidenceDigest = row.evidenceDigest
  provider : after.provider = row.provider
  terminal : after.terminal = row.terminal

theorem Frozen.refl (row : Row) : Frozen row row :=
  ⟨rfl, rfl, rfl, rfl, rfl, rfl⟩

theorem Frozen.trans (earlier : Frozen first second) (later : Frozen second third) :
    Frozen first third :=
  ⟨later.identity.trans earlier.identity, later.state.trans earlier.state,
    later.result.trans earlier.result, later.evidenceDigest.trans earlier.evidenceDigest,
    later.provider.trans earlier.provider, later.terminal.trans earlier.terminal⟩

/-- `later` is a version of `row`: the same request, and unless the version has grown, the same
state under the same lease. -/
structure Row.Precedes (row later : Row) : Prop where
  identity : later.identity = row.identity
  version : row.version < later.version ∨
    (later.version = row.version ∧ later.state = row.state ∧
      later.lease.generation = row.lease.generation ∧ later.lease.token = row.lease.token)

theorem Row.Precedes.refl (row : Row) : row.Precedes row :=
  ⟨rfl, .inr ⟨rfl, rfl, rfl, rfl⟩⟩

theorem Row.Precedes.trans (earlier : first.Precedes second) (later : second.Precedes third) :
    first.Precedes third := by
  refine ⟨later.identity.trans earlier.identity, ?_⟩
  rcases earlier.version with grown | ⟨version, state, generation, token⟩
  · rcases later.version with grownAgain | ⟨version, _⟩
    · exact .inl (Int.lt_trans grown grownAgain)
    · exact .inl (version ▸ grown)
  · rcases later.version with grown | ⟨version', state', generation', token'⟩
    · exact .inl (version ▸ grown)
    · exact .inr ⟨version'.trans version, state'.trans state, generation'.trans generation,
        token'.trans token⟩

namespace RowStep

variable {Reply : Type} {transaction : Transaction Reply} {epoch : Int} {after : Row}

section

variable (step : RowStep transaction epoch now cluster row after)
include step

theorem identity : after.identity = row.identity := by
  cases step with
  | kept => rfl
  | mutated mutation issued target allowed current => exact mutation.assign_identity now row
  | claimed kind owner duration issued allowed current => exact kind.assign_identity now duration owner row
  | scrubbed issued waiting current => rfl

theorem edge : after.state = row.state ∨ Edge row.state after.state := by
  cases step with
  | kept => exact .inl rfl
  | mutated mutation issued target allowed current => exact Mutation.assign_state allowed
  | claimed kind owner duration issued allowed current => cases kind <;> exact .inl rfl
  | scrubbed issued waiting current => exact .inl rfl

theorem monotone : row.version ≤ after.version ∧ row.lease.generation ≤ after.lease.generation := by
  cases step with
  | kept => exact ⟨Int.le_refl _, Int.le_refl _⟩
  | mutated mutation issued target allowed current => exact mutation.assign_monotone
  | claimed kind owner duration issued allowed current =>
    constructor <;> cases kind <;> simp only [ClaimKind.assign, Row.claim, Row.stamp] <;> omega
  | scrubbed issued waiting current => exact ⟨Int.le_refl _, Int.le_refl _⟩

theorem lease : LeaseStep now row.lease after.lease := by
  cases step with
  | kept => exact .kept
  | mutated mutation issued target allowed current => exact Mutation.assign_lease allowed
  | claimed kind owner duration issued allowed current => cases kind <;> exact .kept
  | scrubbed issued waiting current => exact .kept

theorem precedes : row.Precedes after := by
  refine ⟨step.identity, ?_⟩
  have stamped {later : Row} (version : later.version = row.version + 1) :
      row.version < later.version := by omega
  cases step with
  | kept => exact .inr ⟨rfl, rfl, rfl, rfl⟩
  | mutated mutation issued target allowed current =>
    cases mutation with
    | renewLease | recordProviderObservation | touchUnknown | renewReconcileClaim =>
      exact .inr ⟨rfl, rfl, rfl, rfl⟩
    | _ => exact .inl (stamped rfl)
  | claimed kind owner duration issued allowed current => cases kind <;> exact .inl (stamped rfl)
  | scrubbed issued waiting current => exact .inr ⟨rfl, rfl, rfl, rfl⟩

theorem frozen (final : row.state.isDurablyFinal = true) : Frozen row after := by
  cases step with
  | kept => exact .refl row
  | mutated mutation issued target allowed current =>
    obtain ⟨executionID, version, backoff, lastError, rfl⟩ :=
      Mutation.guard_final allowed final
    exact ⟨rfl, rfl, rfl, rfl, rfl, rfl⟩
  | claimed kind owner duration issued allowed current =>
    cases kind <;> exact ⟨rfl, rfl, rfl, rfl, rfl, rfl⟩
  | scrubbed issued waiting current => exact ⟨rfl, rfl, rfl, rfl, rfl, rfl⟩

end

end RowStep

namespace World

variable {before after : World} {id : String} (fact : Int → Row → Prop)

section

variable (evolves : before.Evolves after)
  (ticks : ∀ {now later : Int} {row : Row}, now ≤ later → fact now row → fact later row)
  (steps : ∀ {Reply : Type} {transaction : Transaction Reply} {epoch now : Int} {cluster :
    ClusterMeta} {row next : Row}, RowStep transaction epoch now cluster row next → fact now row →
    fact now next)
include evolves ticks steps

theorem Evolves.keeps (found : before.find id = some row) (holds : fact before.now row) :
    ∃ row', after.find id = some row' ∧ fact after.now row' := by
  induction evolves with
  | refl => exact ⟨row, found, holds⟩
  | tail _ step ih =>
    obtain ⟨current, currentFound, currentHolds⟩ := ih
    cases step with
    | tick forward => exact ⟨current, currentFound, ticks forward currentHolds⟩
    | commit epoch transaction =>
      obtain ⟨next, nextFound, rowStep⟩ := Transaction.exec_row currentFound
      exact ⟨next, nextFound, steps rowStep currentHolds⟩

theorem Evolves.invariant
    (inserts : ∀ (request : NewRequest) (epoch now : Int), fact now (request.row epoch now))
    (holds : ∀ id row, before.find id = some row → fact before.now row) :
    ∀ id row, after.find id = some row → fact after.now row := by
  induction evolves with
  | refl => exact holds
  | @tail middle final _ step ih =>
    intro id row found
    cases step with
    | tick forward => exact ticks forward (ih id row found)
    | commit epoch transaction =>
      cases earlier : middle.find id with
      | none =>
        obtain ⟨request, rfl⟩ := Transaction.exec_new earlier found
        exact inserts request epoch middle.now
      | some current =>
        have rowStep := Relational.holds_of_found (Transaction.exec_row earlier) found
        exact steps rowStep (ih id current earlier)

end

section

variable (evolves : before.Evolves after) (found : before.find id = some row)
include evolves found

theorem Evolves.identity : ∃ row', after.find id = some row' ∧ row'.identity = row.identity :=
  evolves.keeps (fun _ later => later.identity = row.identity)
    (fun _ same => same) (fun step same => step.identity.trans same) found rfl

theorem Evolves.precedes : ∃ row', after.find id = some row' ∧ row.Precedes row' :=
  evolves.keeps (fun _ later => row.Precedes later)
    (fun _ same => same) (fun step earlier => earlier.trans step.precedes) found (.refl row)

theorem Evolves.crossed (crossed : row.state.isPreDispatch = false) :
    ∃ row', after.find id = some row' ∧ row'.state.isPreDispatch = false := by
  refine evolves.keeps (fun _ later => later.state.isPreDispatch = false)
    (fun _ same => same) (fun step beyond => ?_) found crossed
  rcases step.edge with same | edge
  · rw [same]
    exact beyond
  · exact edge.not_preDispatch beyond

theorem Evolves.frozen (final : row.state.isDurablyFinal = true) :
    ∃ row', after.find id = some row' ∧ Frozen row row' := by
  refine evolves.keeps (fun _ later => Frozen row later)
    (fun _ same => same) (fun step same => ?_) found (.refl row)
  exact same.trans (step.frozen (same.state ▸ final))

theorem Evolves.monotone : ∃ row', after.find id = some row' ∧ row.version ≤ row'.version ∧
      row.lease.generation ≤ row'.lease.generation := by
  refine evolves.keeps (fun _ later => row.version ≤ later.version ∧
      row.lease.generation ≤ later.lease.generation)
    (fun _ same => same) (fun step grown => ?_) found ⟨Int.le_refl _, Int.le_refl _⟩
  exact ⟨Int.le_trans grown.1 step.monotone.1, Int.le_trans grown.2 step.monotone.2⟩

end

end World

end Crabedence
