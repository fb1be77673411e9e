import Crabedence.Store.Laws
import Crabedence.System

/-!
# The shape of a stored row

Which columns of a request row are null in which state.  `Row.Formed` says it state by state, which
is what every statement preserves; `rows_are_well_shaped` draws the conclusions column by column.
-/

namespace Crabedence

namespace Row

def Leased (row : Row) : Prop :=
  row.lease.token.isSome ∧ row.lease.owner.isSome ∧ row.lease.expiresAt.isSome

def Unleased (row : Row) : Prop :=
  row.lease.token = none ∧ row.lease.owner = none ∧ row.lease.expiresAt = none

def Untouched (row : Row) : Prop :=
  row.provider.id = none ∧ row.provider.runID = none ∧ row.provider.status = none ∧
    row.provider.result = none ∧ row.provider.resultDigest = none ∧
    row.provider.receiptVersion = 0 ∧ row.provider.observedAt = none ∧
    row.provider.evidenceDigest = none ∧ row.result = none ∧ row.evidenceDigest = none ∧
    row.terminal.resultDigest = none ∧ row.terminal.evidenceDigest = none ∧
    row.terminal.evidenceReceipt = none ∧ row.terminal.receiptDigest = none

theorem Untouched.receiptDigest {row : Row} (untouched : row.Untouched) :
    row.terminal.receiptDigest = none := by
  obtain ⟨-, -, -, -, -, -, -, -, -, -, -, -, -, receipt⟩ := untouched
  exact receipt

/-- The columns of a row in each state a row can have. -/
inductive Formed (row : Row) : Prop where
  | prepared (state : row.state = .prepared) (lease : row.Leased ∨ row.Unleased)
      (untouched : row.Untouched) (locator : row.recoveryLocator = none)
  | executing (state : row.state = .executing) (lease : row.Leased) (untouched : row.Untouched)
      (locator : row.recoveryLocator = none)
  | inFlight (state : row.state = .inFlight) (lease : row.Leased)
      (receipt : row.terminal.receiptDigest = none)
  | unknown (state : row.state = .unknown) (lease : row.Unleased)
      (receipt : row.terminal.receiptDigest = none) (entered : row.enteredUnknownAt.isSome)
  | final (state : row.state = .committed ∨ row.state = .failed) (lease : row.Unleased)
      (receipt : row.terminal.receiptDigest.isSome) (locator : row.recoveryLocator = none)

end Row

section Steps

variable {now : Int} {cluster : ClusterMeta} {row : Row}

theorem Row.Formed.preDispatch (formed : row.Formed) (state : row.state ∈ [.prepared, .executing]) :
    (row.Leased ∨ row.Unleased) ∧ row.Untouched ∧ row.recoveryLocator = none := by
  cases formed with
  | prepared _ lease untouched locator => exact ⟨lease, untouched, locator⟩
  | executing _ lease untouched locator => exact ⟨.inl lease, untouched, locator⟩
  | inFlight other | unknown other => rw [other] at state; exact absurd state (by decide)
  | final other =>
    rcases other with other | other <;> rw [other] at state <;> exact absurd state (by decide)

theorem Row.Formed.inFlight_columns (formed : row.Formed) (state : row.state = .inFlight) :
    row.Leased ∧ row.terminal.receiptDigest = none := by
  cases formed with
  | inFlight _ lease receipt => exact ⟨lease, receipt⟩
  | prepared other | executing other | unknown other => rw [other] at state; cases state
  | final other => rcases other with other | other <;> rw [other] at state <;> cases state

theorem Row.Formed.unknown_columns (formed : row.Formed) (state : row.state = .unknown) :
    row.Unleased ∧ row.terminal.receiptDigest = none ∧ row.enteredUnknownAt.isSome := by
  cases formed with
  | unknown _ lease receipt entered => exact ⟨lease, receipt, entered⟩
  | prepared other | executing other | inFlight other => rw [other] at state; cases state
  | final other => rcases other with other | other <;> rw [other] at state <;> cases state

/-- The columns a shape speaks of. -/
structure Row.SameShape (row after : Row) : Prop where
  state : after.state = row.state
  lease : after.lease = row.lease
  provider : after.provider = row.provider
  result : after.result = row.result
  evidenceDigest : after.evidenceDigest = row.evidenceDigest
  terminal : after.terminal = row.terminal
  locator : after.recoveryLocator = row.recoveryLocator
  entered : after.enteredUnknownAt = row.enteredUnknownAt

variable {after : Row} {source target : State}

theorem Row.Formed.same (formed : row.Formed) (same : row.SameShape after) : after.Formed := by
  obtain ⟨state, lease, provider, result, evidence, terminal, locator, entered⟩ := same
  have receipt : after.terminal.receiptDigest = row.terminal.receiptDigest := by rw [terminal]
  have leased : after.Leased = row.Leased := by simp only [Row.Leased, lease]
  have unleased : after.Unleased = row.Unleased := by simp only [Row.Unleased, lease]
  have untouched : after.Untouched = row.Untouched := by
    simp only [Row.Untouched, provider, result, evidence, terminal]
  cases formed with
  | prepared held holds fresh free =>
    refine .prepared (state.trans held) ?_ (untouched ▸ fresh) (locator.trans free)
    rw [leased, unleased]
    exact holds
  | executing held holds fresh free =>
    exact .executing (state.trans held) (leased ▸ holds) (untouched ▸ fresh) (locator.trans free)
  | inFlight held holds open_ =>
    exact .inFlight (state.trans held) (leased ▸ holds) (receipt.trans open_)
  | unknown held holds open_ since =>
    exact .unknown (state.trans held) (unleased ▸ holds) (receipt.trans open_) (entered ▸ since)
  | final held holds closed free =>
    exact .final (state ▸ held) (unleased ▸ holds) (receipt ▸ closed) (locator.trans free)

theorem Row.Formed.named {lease : Lease} (formed : row.Formed)
    (state : row.state ∈ [.prepared, .executing]) (named : row.names lease = true) :
    row.Leased := by
  rcases (formed.preDispatch state).1 with leased | unleased
  · exact leased
  · have token := (Row.names_iff.mp named).1
    rw [unleased.1] at token
    cases token

theorem legal_unknown (legal : isLegalTransition source .unknown = true) : source = .inFlight := by
  cases isLegalTransition_iff_edge.mp legal
  rfl

theorem legal_resolved (legal : isLegalTransition .unknown target = true) :
    target = .committed ∨ target = .failed := by
  cases isLegalTransition_iff_edge.mp legal
  · exact .inl rfl
  · exact .inr rfl

theorem legal_final (legal : isLegalTransition source target = true)
    (final : target.isDurablyFinal = true) : target = .committed ∨ target = .failed := by
  cases isLegalTransition_iff_edge.mp legal <;>
    first | exact .inl rfl | exact .inr rfl | cases final

theorem Mutation.assign_formed {mutation : Mutation}
    (allowed : mutation.guard now cluster row = true) (formed : row.Formed) :
    (mutation.assign now row).Formed := by
  cases mutation with
  | acquireUnleased executionID version duration owner token generation =>
    have source := List.mem_singleton.mp (guard_sources allowed rfl)
    obtain ⟨-, untouched, locator⟩ := formed.preDispatch (by simp [source])
    exact .prepared source (.inl ⟨rfl, rfl, rfl⟩) untouched locator
  | reclaimExpiredLease executionID version duration owner token previous generation =>
    obtain ⟨-, untouched, locator⟩ := formed.preDispatch (guard_sources allowed rfl)
    exact .prepared rfl (.inl ⟨rfl, rfl, rfl⟩) untouched locator
  | markInFlightExpiredAsUnknown executionID version actor =>
    have source := List.mem_singleton.mp (guard_sources allowed rfl)
    exact .unknown rfl ⟨rfl, rfl, rfl⟩ (formed.inFlight_columns source).2 rfl
  | beginExecution lease =>
    have source : row.state ∈ [.prepared, .executing] := by
      simp [List.mem_singleton.mp (guard_sources allowed rfl)]
    obtain ⟨-, untouched, locator⟩ := formed.preDispatch source
    simp only [guard, Bool.and_eq_true] at allowed
    exact .executing rfl (formed.named source allowed.1.2) untouched locator
  | markInFlight lease providerID recoveryLocator =>
    have source : row.state ∈ [.prepared, .executing] := by
      simp [List.mem_singleton.mp (guard_sources allowed rfl)]
    obtain ⟨-, untouched, -⟩ := formed.preDispatch source
    simp only [guard, Bool.and_eq_true] at allowed
    exact .inFlight rfl (formed.named source allowed.1.2) untouched.receiptDigest
  | renewLease lease duration =>
    have source := guard_sources allowed rfl
    simp only [guard, Bool.and_eq_true] at allowed
    have named := allowed.1.1
    have renewed (leased : row.Leased) :
        (assign now row (.renewLease lease duration)).Leased := by
      refine ⟨leased.1, leased.2.1, ?_⟩
      simp only [assign, Option.isSome_map]
      exact leased.2.2
    cases formed with
    | prepared state holds untouched locator =>
      have leased := (Row.Formed.prepared state holds untouched locator).named
        (by simp [state]) named
      exact .prepared state (.inl (renewed leased)) untouched locator
    | executing state holds untouched locator =>
      exact .executing state (renewed holds) untouched locator
    | inFlight state holds receipt => exact .inFlight state (renewed holds) receipt
    | unknown state => rw [state] at source; exact absurd source (by decide)
    | final state =>
      rcases state with state | state <;> rw [state] at source <;>
        exact absurd source (by decide)
  | abandonPreDispatch lease =>
    obtain ⟨-, untouched, locator⟩ := formed.preDispatch (guard_sources allowed rfl)
    exact .prepared rfl (.inr ⟨rfl, rfl, rfl⟩) untouched locator
  | finalize lease expectedState version write final legal =>
    exact .final (legal_final legal final) ⟨rfl, rfl, rfl⟩ rfl rfl
  | enterRecovery executionID expectedState version legal
  | enterRecoveryWithObservation executionID expectedState version material legal =>
    have source := List.mem_singleton.mp (guard_sources allowed rfl)
    rw [legal_unknown legal] at source
    exact .unknown rfl ⟨rfl, rfl, rfl⟩ (formed.inFlight_columns source).2 rfl
  | recordProviderObservation lease material =>
    rcases List.mem_pair.mp (guard_sources allowed rfl) with source | source
    · obtain ⟨leased, receipt⟩ := formed.inFlight_columns source
      exact .inFlight source leased receipt
    · obtain ⟨unleased, receipt, entered⟩ := formed.unknown_columns source
      exact .unknown source unleased receipt entered
  | recoverExpiredPreDispatch executionID version =>
    obtain ⟨-, untouched, locator⟩ := formed.preDispatch (guard_sources allowed rfl)
    exact .prepared rfl (.inr ⟨rfl, rfl, rfl⟩) untouched locator
  | resolveRecovery executionID version write material legal =>
    have source := List.mem_singleton.mp (guard_sources allowed rfl)
    exact .final (legal_resolved legal) (formed.unknown_columns source).1 rfl rfl
  | touchUnknown | releaseReconcileClaim | suspendReconciliation | renewReconcileClaim =>
    exact formed.same ⟨rfl, rfl, rfl, rfl, rfl, rfl, rfl, rfl⟩

theorem RowStep.formed {Reply : Type} {transaction : Transaction Reply} {epoch : Int}
    (step : RowStep transaction epoch now cluster row after) (formed : row.Formed) :
    after.Formed := by
  cases step with
  | kept => exact formed
  | mutated mutation issued target allowed current => exact Mutation.assign_formed allowed formed
  | claimed kind owner duration issued allowed current =>
    cases kind <;> exact formed.same ⟨rfl, rfl, rfl, rfl, rfl, rfl, rfl, rfl⟩
  | scrubbed issued waiting current =>
    obtain ⟨unleased, receipt, entered⟩ := formed.unknown_columns waiting
    exact .unknown waiting unleased receipt entered

theorem NewRequest.row_formed (request : NewRequest) (epoch now : Int) :
    (request.row epoch now).Formed :=
  .prepared rfl (.inl ⟨rfl, rfl, rfl⟩) ⟨rfl, rfl, rfl, rfl, rfl, rfl, rfl, rfl, rfl, rfl, rfl, rfl,
    rfl, rfl⟩ rfl

end Steps

/-- The null and non-null columns of a row. -/
structure Row.Shaped (row : Row) : Prop where
  lease : row.Leased ∨ row.Unleased
  leased : row.state = .executing ∨ row.state = .inFlight → row.Leased
  unleased : row.state = .unknown ∨ row.state = .committed ∨ row.state = .failed → row.Unleased
  locator : row.recoveryLocator.isSome → row.state = .inFlight ∨ row.state = .unknown
  untouched : row.state = .prepared ∨ row.state = .executing → row.Untouched
  receipt : row.terminal.receiptDigest.isSome ↔ row.state = .committed ∨ row.state = .failed
  entered : row.state = .unknown → row.enteredUnknownAt.isSome

theorem Row.Formed.shaped {row : Row} (formed : row.Formed) : row.Shaped := by
  cases formed with
  | prepared state lease untouched locator | executing state lease untouched locator =>
    have receipt := untouched.receiptDigest
    constructor <;> simp_all
  | inFlight state lease receipt | unknown state lease receipt entered => constructor <;> simp_all
  | final state lease receipt locator =>
    rcases state with state | state <;> constructor <;> simp_all

theorem Reachable.formed {platform : DispatchPlatform} {faults : Bool} {admitted : Call → Prop}
    {state : SystemState} (reachable : Reachable platform faults admitted state) :
    ∀ id row, state.world.find id = some row → row.Formed := by
  obtain ⟨start, reaches⟩ := reachable
  exact (reaches_evolves reaches).invariant (fun _ row => row.Formed)
    (fun _ formed => formed) (fun step formed => step.formed formed)
    (fun request epoch now => request.row_formed epoch now)
    (fun id row absent => by cases absent)

/-- In every state any interleaving of callers reaches, every row has the shape of its state: lease
columns are all null or all set, set while a row is executing or in flight and null once it is
unknown or terminal; locators, provider and terminal columns appear only in the states that write
them; and unknown rows carry the time they became so. -/
theorem rows_are_well_shaped (platform : DispatchPlatform) (faults : Bool) {state : SystemState}
    (reachable : Reachable platform faults (fun _ => True) state) {id : String} {row : Row}
    (found : state.world.find id = some row) : row.Shaped :=
  (reachable.formed id row found).shaped

/-- A committed row of a run has the shape of a committed row. -/
theorem rows_are_well_shaped_committed :
    ∃ row, ((SystemState.initial 0).follow samplePlatform sampleCommit).world.find "execution" =
        some row ∧ row.state = .committed ∧ row.Shaped :=
  ⟨_, rfl, rfl, rows_are_well_shaped samplePlatform false
    (follow_reachable samplePlatform false sampleCommit 0)
    (show World.find _ "execution" = some _ from rfl)⟩

end Crabedence
