import Crabedence.Refusal

/-!
# Provider observations

What a row stores about the provider only ever fills up.  Observations are compared with every stored
provider column, terminal writes with the provider's identity, and a contradiction refuses the whole
write.  An observation the row holds already is accepted again as long as the row is open to its
caller, and changes none of these columns.
-/

namespace Crabedence

open Relational Resumption StoreM

/-- Stored provider columns are kept. -/
structure ProviderColumns.Grows (earlier later : ProviderColumns) : Prop where
  id : Fills earlier.id later.id
  runID : Fills earlier.runID later.runID
  status : Fills earlier.status later.status
  result : Fills earlier.result later.result
  resultDigest : Fills earlier.resultDigest later.resultDigest
  evidenceDigest : Fills earlier.evidenceDigest later.evidenceDigest
  receiptVersion : Fills (nullIf earlier.receiptVersion 0) (nullIf later.receiptVersion 0)

theorem ProviderColumns.Grows.refl (columns : ProviderColumns) : columns.Grows columns :=
  ⟨.refl _, .refl _, .refl _, .refl _, .refl _, .refl _, .refl _⟩

theorem ProviderColumns.Grows.trans {first second third : ProviderColumns}
    (earlier : first.Grows second) (later : second.Grows third) : first.Grows third :=
  ⟨earlier.id.trans later.id, earlier.runID.trans later.runID, earlier.status.trans later.status,
    earlier.result.trans later.result, earlier.resultDigest.trans later.resultDigest,
    earlier.evidenceDigest.trans later.evidenceDigest,
    earlier.receiptVersion.trans later.receiptVersion⟩

def ProviderColumns.blank : ProviderColumns where
  id := none
  runID := none
  status := none
  result := none
  resultDigest := none
  receiptVersion := 0
  observedAt := none
  evidenceDigest := none

/-- What a row stores about the provider, besides the terminal columns. -/
structure Row.Observed where
  provider : ProviderColumns
  result : Option RawMessage
  evidenceDigest : Option String

def Row.observed (row : Row) : Row.Observed := ⟨row.provider, row.result, row.evidenceDigest⟩

/-- Everything a transaction can do to what a row stores about the provider. -/
inductive ObservationStep (now : Int) (row after : Row) : Prop where
  | kept (same : after.observed = row.observed)
  | bound (providerID : Option String) (executing : row.state = .executing)
      (inFlight : after.state = .inFlight)
      (same : after.observed = { row.observed with
        provider := { row.provider with id := providerID } })
  | merged (observation : ProviderObservation) (admitted : row.admits observation = true)
      (dispatched : after.state.isPreDispatch = false)
      (same : after.observed = (row.observe now observation).observed)
  | terminated (providerID providerRunID : String)
      (admitted : row.admitsProvider providerID providerRunID = true)
      (final : after.state.isDurablyFinal = true)
      (same : after.provider = { row.provider with
        id := coalesce (nullableString providerID) row.provider.id
        runID := coalesce (nullableString providerRunID) row.provider.runID })

variable {now epoch : Int} {cluster : ClusterMeta} {row after : Row} {Reply : Type}
  {transaction : Transaction Reply} {observation : ProviderObservation} {before : World}
  {platform : DispatchPlatform} {faults : Bool} {admitted : Call → Prop} {state : SystemState}
  {id : String} {handle : SQLiteStore} {log : List Mark}

theorem Mutation.assign_observed {mutation : Mutation}
    (allowed : mutation.guard now cluster row = true) :
    ObservationStep now row (mutation.assign now row) := by
  cases mutation with
  | markInFlight lease providerID recoveryLocator =>
    simp only [guard, Bool.and_eq_true, decide_eq_true_eq] at allowed
    exact .bound (nullableString providerID) allowed.1.1 rfl rfl
  | recordProviderObservation lease material =>
    have dispatched : row.state.isPreDispatch = false := by
      have states : row.state ∈ [State.inFlight, .unknown] := guard_sources allowed rfl
      rcases List.mem_pair.mp states with state | state <;> rw [state] <;> rfl
    simp only [guard, Bool.and_eq_true] at allowed
    exact .merged material.observation allowed.2 dispatched rfl
  | enterRecoveryWithObservation executionID expectedState version material legal =>
    simp only [guard, Bool.and_eq_true] at allowed
    exact .merged material.observation allowed.2 rfl rfl
  | finalize lease expectedState version write final legal =>
    simp only [guard, Bool.and_eq_true] at allowed
    exact .terminated write.receipt.providerID write.receipt.providerRunID allowed.2 final rfl
  | resolveRecovery executionID version write material legal =>
    simp only [guard, Bool.and_eq_true] at allowed
    have final : write.receipt.terminalStatus.isDurablyFinal = true := by
      have edge := isLegalTransition_iff_edge.mp legal
      generalize write.receipt.terminalStatus = status at edge
      cases edge <;> rfl
    exact .terminated write.receipt.providerID write.receipt.providerRunID allowed.2 final rfl
  | _ => exact .kept rfl

theorem RowStep.observed (step : RowStep transaction epoch now cluster row after) :
    ObservationStep now row after := by
  cases step with
  | kept => exact .kept rfl
  | mutated mutation issued target allowed current => exact Mutation.assign_observed allowed
  | claimed kind owner duration issued allowed current => cases kind <;> exact .kept rfl
  | scrubbed issued waiting current => exact .kept rfl

theorem observe_grows (admitted : row.admits observation = true) :
    row.provider.Grows (row.observe now observation).provider := by
  simp only [Row.admits, Bool.and_eq_true] at admitted
  obtain ⟨⟨⟨⟨⟨⟨⟨⟨id, runID⟩, status⟩, _⟩, result⟩, resultDigest⟩, receiptVersion⟩, _⟩,
    evidenceDigest⟩ := admitted
  refine ⟨fills_coalesce id, fills_coalesce runID, fills_coalesce status, fills_coalesce result,
    fills_coalesce resultDigest, fills_coalesce evidenceDigest, ?_⟩
  simp only [Row.observe, nullIf_getD]
  exact fills_coalesce receiptVersion

/-- What every row satisfies: nothing is stored about the provider before the dispatch, and until the
row is terminal its result and evidence are the provider's. -/
structure Row.Faithful (row : Row) : Prop where
  blank : row.state.isPreDispatch = true → row.provider = .blank
  mirrored : row.state.isDurablyFinal = false →
    row.result = row.provider.result ∧ row.evidenceDigest = row.provider.evidenceDigest

theorem Row.Faithful.steps (step : RowStep transaction epoch now cluster row after)
    (faithful : row.Faithful) : after.Faithful := by
  have back : after.state.isPreDispatch = true → row.state.isPreDispatch = true := by
    intro preDispatch
    rcases step.edge with same | edge
    · exact same ▸ preDispatch
    · by_contra crossed
      rw [edge.not_preDispatch (Bool.not_eq_true _ ▸ crossed)] at preDispatch
      cases preDispatch
  have stillOpen : after.state.isDurablyFinal = false → row.state.isDurablyFinal = false := by
    intro unfinished
    rcases step.edge with same | edge
    · exact same ▸ unfinished
    · exact edge.not_final
  have dispatchedOr (crossed : after.state.isPreDispatch = false) :
      after.state.isPreDispatch = true → after.provider = .blank := by
    intro preDispatch
    rw [crossed] at preDispatch
    cases preDispatch
  cases step.observed with
  | kept same =>
    simp only [Row.observed, Row.Observed.mk.injEq] at same
    obtain ⟨provider, result, evidence⟩ := same
    refine ⟨fun preDispatch => provider.trans (faithful.blank (back preDispatch)), ?_⟩
    intro unfinished
    rw [result, evidence, provider]
    exact faithful.mirrored (stillOpen unfinished)
  | bound providerID executing inFlight same =>
    simp only [Row.observed, Row.Observed.mk.injEq] at same
    obtain ⟨provider, result, evidence⟩ := same
    refine ⟨dispatchedOr (by rw [inFlight]; rfl), fun unfinished => ?_⟩
    rw [result, evidence, provider]
    exact faithful.mirrored (stillOpen unfinished)
  | merged observation admitted dispatched same =>
    simp only [Row.observed, Row.Observed.mk.injEq] at same
    obtain ⟨provider, result, evidence⟩ := same
    refine ⟨dispatchedOr dispatched, fun unfinished => ?_⟩
    obtain ⟨sameResult, sameEvidence⟩ := faithful.mirrored (stillOpen unfinished)
    rw [result, evidence, provider]
    simp only [Row.observe, sameResult, sameEvidence, and_self]
  | terminated providerID providerRunID admitted final same =>
    have crossed : after.state.isPreDispatch = false := by
      cases state : after.state <;> rw [state] at final <;> first | rfl | cases final
    refine ⟨dispatchedOr crossed, fun unfinished => ?_⟩
    rw [final] at unfinished
    cases unfinished

theorem RowStep.grows (step : RowStep transaction epoch now cluster row after)
    (faithful : row.Faithful) : row.provider.Grows after.provider := by
  cases step.observed with
  | kept same =>
    rw [show after.provider = row.provider from congrArg Row.Observed.provider same]
    exact .refl _
  | bound providerID executing inFlight same =>
    -- nothing is overwritten: an `EXECUTING` row stores nothing about the provider yet
    rw [faithful.blank (by rw [executing]; rfl)]
    exact ⟨nofun, nofun, nofun, nofun, nofun, nofun, nofun⟩
  | merged observation admitted dispatched same =>
    rw [show after.provider = (row.observe now observation).provider from
      congrArg Row.Observed.provider same]
    exact observe_grows admitted
  | terminated providerID providerRunID admitted final same =>
    simp only [Row.admitsProvider, Bool.and_eq_true] at admitted
    rw [same]
    exact ⟨fills_coalesce admitted.1, fills_coalesce admitted.2, .refl _, .refl _, .refl _,
      .refl _, .refl _⟩

theorem World.Reached.faithful {world : World} (reached : world.Reached)
    (found : world.find id = some row) : row.Faithful := by
  obtain ⟨start, evolves⟩ := reached
  refine evolves.invariant (fun _ row => row.Faithful) (fun _ same => same)
    (fun step faithful => faithful.steps step) ?_ ?_ id row found
  · exact fun request epoch now => ⟨fun _ => rfl, fun _ => ⟨rfl, rfl⟩⟩
  · intro id row absent
    cases absent

theorem World.Evolves.grows {after : World} (evolves : before.Evolves after)
    (reached : before.Reached) (found : before.find id = some row) :
    ∃ row', after.find id = some row' ∧ row.provider.Grows row'.provider := by
  obtain ⟨row', found', _, grows⟩ := evolves.keeps
    (fun _ later => later.Faithful ∧ row.provider.Grows later.provider) (fun _ same => same)
    (fun step both => ⟨both.1.steps step, both.2.trans (step.grows both.1)⟩) found
    ⟨reached.faithful found, .refl _⟩
  exact ⟨row', found', grows⟩

variable {columns later : ProviderColumns} {Result : Type} {call : EffectStore Result}

section Contradictions

def ProviderColumns.Contradicts (columns : ProviderColumns) (observation : ProviderObservation) :
    Prop :=
  fits columns.id (nullableString observation.providerID) = false ∨
  fits columns.runID (nullableString observation.providerRunID) = false ∨
  fits columns.status (nullableString observation.providerStatus) = false ∨
  fits columns.result (nullableBytes observation.result) = false ∨
  fits columns.resultDigest (nullableString observation.resultDigest) = false ∨
  fits columns.evidenceDigest (nullableString observation.evidenceDigest) = false

def ProviderColumns.ContradictsIdentity (columns : ProviderColumns)
    (providerID providerRunID : String) : Prop :=
  fits columns.id (nullableString providerID) = false ∨
  fits columns.runID (nullableString providerRunID) = false

/-- The call supplies a field that contradicts what is stored: any provider field of an observation,
or the provider's identity in a terminal write. -/
def EffectStore.Contradicts (platform : Platform) {Result : Type} (call : EffectStore Result)
    (columns : ProviderColumns) : Prop :=
  match call with
  | .recordProviderObservation _ observation
  | .enterRecoveryWithObservation _ _ _ observation =>
    ∃ canonical, canonicalizeObservation platform observation = .ok canonical ∧
      columns.Contradicts canonical
  | .finalize _ _ receipt => columns.ContradictsIdentity receipt.providerID receipt.providerRunID
  | .resolveRecovery _ _ result => result.decision ≠ .unknown ∧
      columns.ContradictsIdentity result.providerID result.providerRunID
  | _ => False

theorem ProviderColumns.Contradicts.grown (contradicts : columns.Contradicts observation)
    (grows : columns.Grows later) : later.Contradicts observation := by
  rcases contradicts with id | runID | status | result | resultDigest | evidenceDigest
  · exact .inl (not_fits_of_fills grows.id id)
  · exact .inr (.inl (not_fits_of_fills grows.runID runID))
  · exact .inr (.inr (.inl (not_fits_of_fills grows.status status)))
  · exact .inr (.inr (.inr (.inl (not_fits_of_fills grows.result result))))
  · exact .inr (.inr (.inr (.inr (.inl (not_fits_of_fills grows.resultDigest resultDigest)))))
  · exact .inr (.inr (.inr (.inr (.inr (not_fits_of_fills grows.evidenceDigest evidenceDigest)))))

variable {providerID providerRunID : String} {platform : Platform}

theorem ProviderColumns.ContradictsIdentity.grown
    (contradicts : columns.ContradictsIdentity providerID providerRunID)
    (grows : columns.Grows later) : later.ContradictsIdentity providerID providerRunID := by
  rcases contradicts with id | runID
  · exact .inl (not_fits_of_fills grows.id id)
  · exact .inr (not_fits_of_fills grows.runID runID)

theorem Row.not_admits (contradicts : row.provider.Contradicts observation) :
    row.admits observation = false := by
  unfold Row.admits
  rcases contradicts with id | runID | status | result | resultDigest | evidenceDigest
  · simp [id]
  · simp [runID]
  · simp [status]
  · simp [result]
  · simp [resultDigest]
  · simp [evidenceDigest]

theorem Row.not_admitsProvider
    (contradicts : row.provider.ContradictsIdentity providerID providerRunID) :
    row.admitsProvider providerID providerRunID = false := by
  unfold Row.admitsProvider
  rcases contradicts with id | runID
  · simp [id]
  · simp [runID]

theorem EffectStore.Contradicts.grown (contradicts : call.Contradicts platform columns)
    (grows : columns.Grows later) : call.Contradicts platform later := by
  cases call
  case recordProviderObservation =>
    obtain ⟨canonical, canonicalized, differs⟩ := contradicts
    exact ⟨canonical, canonicalized, differs.grown grows⟩
  case enterRecoveryWithObservation =>
    obtain ⟨canonical, canonicalized, differs⟩ := contradicts
    exact ⟨canonical, canonicalized, differs.grown grows⟩
  case finalize => exact ProviderColumns.ContradictsIdentity.grown contradicts grows
  case resolveRecovery => exact ⟨contradicts.1, contradicts.2.grown grows⟩
  all_goals cases contradicts

theorem EffectStore.Contradicts.excluded :
    call.Excluded platform fun _ row => call.Contradicts platform row.provider := by
  intro mutation updates now cluster row contradicts
  cases call
  case recordProviderObservation =>
    obtain ⟨canonical, canonicalized, differs⟩ := contradicts
    obtain ⟨material, made, rfl⟩ := updates
    rw [← SQLiteStore.observationMaterial_observation made canonicalized] at differs
    simp only [Mutation.guard, Row.not_admits differs, Bool.and_false]
  case enterRecoveryWithObservation =>
    obtain ⟨canonical, canonicalized, differs⟩ := contradicts
    obtain ⟨material, legal, made, rfl⟩ := updates
    rw [← SQLiteStore.observationMaterial_observation made canonicalized] at differs
    simp only [Mutation.guard, Row.not_admits differs, Bool.and_false]
  case finalize =>
    obtain ⟨existing, version, write, final, legal, bound, _, rfl⟩ := updates
    have refused := Row.not_admitsProvider contradicts
    simp only [Mutation.guard, bound, TerminalReceipt.bindTo, refused, Bool.and_false]
  case resolveRecovery =>
    rcases updates with ⟨existing, newState, write, material, legal, bound, _, rfl⟩ | ⟨undecided, _⟩
    · have refused := Row.not_admitsProvider contradicts.2
      simp only [Mutation.guard, bound, RecoveryResult.receipt, refused, Bool.and_false]
    · exact (contradicts.1 undecided).elim
  all_goals cases contradicts

end Contradictions

section Repetition

/-- The columns hold everything the observation supplies. -/
structure ProviderColumns.Holds (columns : ProviderColumns) (observation : ProviderObservation) :
    Prop where
  id : Fills (nullableString observation.providerID) columns.id
  runID : Fills (nullableString observation.providerRunID) columns.runID
  status : Fills (nullableString observation.providerStatus) columns.status
  result : Fills (nullableBytes observation.result) columns.result
  resultDigest : Fills (nullableString observation.resultDigest) columns.resultDigest
  evidenceDigest : Fills (nullableString observation.evidenceDigest) columns.evidenceDigest
  receiptVersion : Fills (nullIf observation.receiptVersion 0) (nullIf columns.receiptVersion 0)

/-- The six columns an observation writes are equal. -/
structure ProviderColumns.Same (columns later : ProviderColumns) : Prop where
  id : later.id = columns.id
  runID : later.runID = columns.runID
  status : later.status = columns.status
  result : later.result = columns.result
  resultDigest : later.resultDigest = columns.resultDigest
  evidenceDigest : later.evidenceDigest = columns.evidenceDigest

theorem observe_holds : (row.observe now observation).provider.Holds observation := by
  refine ⟨coalesce_fills, coalesce_fills, coalesce_fills, coalesce_fills, coalesce_fills,
    coalesce_fills, ?_⟩
  simp only [Row.observe, nullIf_getD]
  exact coalesce_fills

theorem ProviderColumns.Holds.grown (holds : columns.Holds observation)
    (grows : columns.Grows later) : later.Holds observation :=
  ⟨holds.id.trans grows.id, holds.runID.trans grows.runID, holds.status.trans grows.status,
    holds.result.trans grows.result, holds.resultDigest.trans grows.resultDigest,
    holds.evidenceDigest.trans grows.evidenceDigest,
    holds.receiptVersion.trans grows.receiptVersion⟩

theorem ProviderColumns.Holds.admits (holds : row.provider.Holds observation)
    (faithful : row.Faithful) (unfinished : row.state.isDurablyFinal = false) :
    row.admits observation = true := by
  obtain ⟨result, evidence⟩ := faithful.mirrored unfinished
  unfold Row.admits
  rw [result, evidence]
  simp only [fits_of_fills holds.id, fits_of_fills holds.runID, fits_of_fills holds.status,
    fits_of_fills holds.result, fits_of_fills holds.resultDigest,
    fits_of_fills holds.evidenceDigest, fits_of_fills holds.receiptVersion, Bool.and_self]

theorem ProviderColumns.Holds.same (holds : row.provider.Holds observation) :
    row.provider.Same (row.observe now observation).provider :=
  ⟨coalesce_of_fills holds.id, coalesce_of_fills holds.runID, coalesce_of_fills holds.status,
    coalesce_of_fills holds.result, coalesce_of_fills holds.resultDigest,
    coalesce_of_fills holds.evidenceDigest⟩

def Row.OpenTo (lease : Lease) (row : Row) : Prop :=
  (row.state = .inFlight ∧ lease.token ≠ "" ∧ row.names lease = true) ∨ row.state = .unknown

def OpenTo (handle : SQLiteStore) (lease : Lease) (world : World) : Prop :=
  world.database.cluster.epoch = handle.epoch ∧
    ∃ row, world.find lease.executionID = some row ∧ row.OpenTo lease

theorem Row.OpenTo.unfinished {lease : Lease} (open_ : row.OpenTo lease) :
    row.state.isDurablyFinal = false := by
  rcases open_ with ⟨inFlight, _⟩ | unknown
  · rw [inFlight]
    rfl
  · rw [unknown]
    rfl

theorem Row.OpenTo.hits {lease : Lease} {material : ObservationMaterial}
    (open_ : row.OpenTo lease) (admitted : row.admits material.observation = true) :
    (Mutation.recordProviderObservation lease material).guard now cluster row = true := by
  simp only [Mutation.guard, admitted, Bool.and_true, Bool.or_eq_true, Bool.and_eq_true,
    decide_eq_true_eq]
  rcases open_ with ⟨inFlight, token, names⟩ | unknown
  · exact .inl ⟨⟨inFlight, token⟩, names⟩
  · exact .inr unknown

def EffectStore.observes? {Result : Type} : EffectStore Result → Option (String × ProviderObservation)
  | .recordProviderObservation lease observation => some (lease.executionID, observation)
  | .enterRecoveryWithObservation executionID _ _ observation => some (executionID, observation)
  | _ => none

def Recorded (platform : Platform) (id : String) (observation : ProviderObservation)
    (world : World) : Prop :=
  world.Reached ∧ ∃ canonical, canonicalizeObservation platform observation = .ok canonical ∧
    ∃ row, world.find id = some row ∧ row.provider.Holds canonical

variable {after : World}

theorem Recorded.moved {platform : Platform}
    (recorded : Recorded platform id observation before) (evolves : before.Evolves after) :
    Recorded platform id observation after := by
  obtain ⟨reached, canonical, canonicalized, row, found, holds⟩ := recorded
  obtain ⟨row', found', grows⟩ := evolves.grows reached found
  exact ⟨reached.moved evolves, canonical, canonicalized, row', found', holds.grown grows⟩

variable {platform : Platform} {store : SQLiteStore} {world : World} {lease : Lease}

theorem recorded_hit {mutation : Mutation} {canonical : ProviderObservation}
    (reached : before.Reached) (found : before.find mutation.target = some row)
    (allowed : mutation.guard before.now before.database.cluster row = true)
    (current : before.database.cluster.epoch = store.epoch)
    (canonicalized : canonicalizeObservation platform observation = .ok canonical)
    (merges : (mutation.assign before.now row).provider =
      (row.observe before.now canonical).provider)
    (further : (before.commit store.epoch (.apply mutation)).Evolves after) :
    Recorded platform mutation.target observation after := by
  have recorded : Recorded platform mutation.target observation
      (before.commit store.epoch (.apply mutation)) := by
    refine ⟨reached.moved (.single (.commit _ _)), canonical, canonicalized,
      mutation.assign before.now row, World.commit_hit found allowed current, ?_⟩
    rw [merges]
    exact observe_holds
  exact recorded.moved further

theorem ensures_recorded (observes : call.observes? = some (id, observation))
    (reached : world.Reached) :
    Ensures faults unguarded (fun reply later _ => ∀ result, reply = .ok result →
      Recorded platform id observation later) (store.serve platform call) world log := by
  have target : call.target? = some id := by
    cases call <;> cases observes <;> rfl
  have ended : Ensures faults unguarded (Ending .unrestricted platform store call id world)
      (store.serve platform call) world log := serve_ends target .refl
  apply ended.mono
  intro reply later log' ends result success
  cases ends with
  | failed error => cases success
  | repeated row found repeats =>
    cases call <;> cases observes <;> exact repeats.elim
  | hit mutation updates hits =>
    obtain ⟨before, row, evolves, found, allowed, current, further⟩ := hits
    have moved := reached.moved evolves
    rw [← EffectStore.target_updates target updates]
    cases call <;> cases observes
    case hit.recordProviderObservation.refl lease =>
      obtain ⟨material, made, rfl⟩ := updates
      exact recorded_hit moved found allowed current (SQLiteStore.observationMaterial_ok made) rfl further
    case hit.enterRecoveryWithObservation.refl expectedState version =>
      obtain ⟨material, legal, made, rfl⟩ := updates
      exact recorded_hit moved found allowed current (SQLiteStore.observationMaterial_ok made) rfl further

/-- Where and how a repeated observation may still fail: its row was closed to it, or the driver
failed. -/
def Accepted (faults : Bool) (handle : SQLiteStore) (lease : Lease) (since : World)
    (reply : Except StoreError Unit) (later : World) : Prop :=
  reply = .ok () ∨
  (∃ before, since.Evolves before ∧ before.Evolves later ∧ ¬ OpenTo handle lease before) ∨
  (faults = true ∧ ∃ text, reply = .error (.driver text))

/-- An observation the row holds is accepted again. -/
theorem ensures_accepted (recorded : Recorded platform lease.executionID observation world) :
    Ensures faults unguarded (fun reply later _ => Accepted faults store lease world reply later)
      (store.recordProviderObservation platform lease observation) world log := by
  obtain ⟨material, made⟩ : ∃ material,
      SQLiteStore.observationMaterial platform observation = .ok material := by
    obtain ⟨_, canonical, canonicalized, _⟩ := recorded
    unfold SQLiteStore.observationMaterial
    rw [canonicalized]
    exact ⟨_, rfl⟩
  unfold SQLiteStore.recordProviderObservation
  rw [made]
  apply ensures_bind
  apply ensures_lift
  intro checked sinceStart
  apply ensures_bind
  apply ensures_sql
  intro before moved
  have evolves : world.Evolves before := sinceStart.trans moved
  refine ⟨trivial, fun later further => ?_, fun faulty text later further final _ =>
    .inr (.inr ⟨faulty, text, rfl⟩)⟩
  by_cases open_ : OpenTo store lease before
  · obtain ⟨current, row, found, openTo⟩ := open_
    obtain ⟨reached, canonical, canonicalized, known⟩ := recorded.moved evolves
    have holds := Relational.holds_of_found known found
    have sameObservation := SQLiteStore.observationMaterial_observation made canonicalized
    subst sameObservation
    have admitted := holds.admits (reached.faithful found) openTo.unfinished
    have hit : ((Transaction.apply (.recordProviderObservation lease material)).exec store.epoch
        before.now before.database).1 = true :=
      Database.applyMutation_hit_iff.mpr ⟨row, found, openTo.hits admitted, current⟩
    rw [hit]
    exact ensures_pure fun final _ => .inl rfl
  · have closed (reply : Except StoreError Unit) {final : World} (afterwards : later.Evolves final) :
        Accepted faults store lease world reply final :=
      .inr (.inl ⟨before, evolves, .head (.commit _ _) (further.trans afterwards), open_⟩)
    cases ((Transaction.apply (.recordProviderObservation lease material)).exec store.epoch
        before.now before.database).1 with
    | true => exact ensures_pure fun final afterwards => closed _ afterwards
    | false =>
      apply EnsuresIn.mono ensures_evolves
      exact fun reply _ _ afterwards => closed reply afterwards

theorem Accepted.earlier {since start later : World} {reply : Except StoreError Unit}
    (accepted : Accepted faults store lease start reply later) (moved : since.Evolves start) :
    Accepted faults store lease since reply later := by
  rcases accepted with success | ⟨before, further, afterwards, closed⟩ | failed
  · exact .inl success
  · exact .inr (.inl ⟨before, moved.trans further, afterwards, closed⟩)
  · exact .inr (.inr failed)

theorem Serves.same {operation : Operation Reply} {reply : Reply}
    (served : Serves faults operation world reply after) (within : operation.Within store.epoch
      ((EffectStore.recordProviderObservation lease observation).footprint platform))
    (recorded : Recorded platform lease.executionID observation world)
    (found : world.find lease.executionID = some row) :
    ∃ row', after.find lease.executionID = some row' ∧ row.provider.Same row'.provider := by
  have unchanged : ∃ row', world.find lease.executionID = some row' ∧
      row.provider.Same row'.provider := ⟨row, found, rfl, rfl, rfl, rfl, rfl, rfl⟩
  cases operation with
  | host request => exact served.1 ▸ unchanged
  | @sql Result own transaction =>
    have committed : ∃ row', (world.commit own transaction).find lease.executionID = some row' ∧
        row.provider.Same row'.provider := by
      obtain ⟨row', found', same | ⟨mutation, updates, _, assigned⟩⟩ :=
        Footprint.exec_row within.2 (fun bulk => bulk) found
      · exact ⟨row', found', same ▸ ⟨rfl, rfl, rfl, rfl, rfl, rfl⟩⟩
      · obtain ⟨material, made, rfl⟩ := updates
        obtain ⟨_, canonical, canonicalized, known⟩ := recorded
        have holds := Relational.holds_of_found known found
        rw [← SQLiteStore.observationMaterial_observation made canonicalized] at holds
        exact ⟨row', found', assigned ▸ holds.same⟩
    cases served with
    | committed => exact committed
    | refused faulty error => exact unchanged
    | unacknowledged faulty error => exact committed

end Repetition

/-- What a caller that repeats an accepted observation is doing: whatever it issues next leaves the
provider columns equal, and if it is done, it was accepted. -/
structure Repeated (faults : Bool) (handle : SQLiteStore) (lease : Lease) (since world : World)
    (program : Program Operation Outcome) : Prop where
  same : ∀ {Reply : Type} (operation : Operation Reply) next reply after row,
    program = .issue operation next → Serves faults operation world reply after →
    world.find lease.executionID = some row →
    ∃ row', after.find lease.executionID = some row' ∧ row.provider.Same row'.provider
  accepted : ∀ outcome, program = .done outcome → ∃ reply, outcome = .written reply ∧
    Accepted faults handle lease since reply world

theorem Reachable.recorded (reachable : Reachable platform faults admitted state) {index : Nat}
    (observes : call.observes? = some (id, observation))
    (thread : state.threads[index]? = some ⟨.store handle call, .done (.written (.ok ())), log⟩) :
    Recorded platform.toPlatform id observation state.world := by
  obtain ⟨initial, reaches⟩ := reachable
  obtain ⟨start, since, follows⟩ := Pool.Reaches.started reaches thread (Nat.zero_le _)
  have reached : start.Reached := ⟨initial, since⟩
  obtain ⟨reply, same, recorded⟩ := call_outcome (ensures_recorded observes reached) follows
  cases call <;> cases observes <;> cases same <;> exact recorded _ rfl

theorem repeated {lease : Lease} {since start later : World} {program : Program Operation Outcome}
    (moved : since.Evolves start)
    (recorded : Recorded platform.toPlatform lease.executionID observation since)
    (follows : (system faults).Follows ((Call.store handle
      (.recordProviderObservation lease observation)).program platform) start [] program later log) :
    Repeated faults handle lease since later program := by
  have recordedStart := recorded.moved moved
  constructor
  · intro Reply operation next reply after row issuing served found
    subst issuing
    have within := (follows.emits (call_emits _)).1
    exact served.same within (recordedStart.moved (follows_evolves follows)) found
  · intro outcome finished
    subst finished
    obtain ⟨reply, same, accepted⟩ := call_outcome (ensures_accepted recordedStart) follows
    exact ⟨reply, same, accepted.earlier moved⟩

/-- Provider observations over every run.  A stored provider column is never changed or cleared.  An
observation that contradicts a stored provider column, and a terminal write that contradicts the
stored provider id or run id, is refused as a whole: its transactions keep requests and observations
and add at most a contention event, and the call fails (unless it is the `Finalize` the row already
stores).  An accepted observation recorded again is accepted, unless the row was closed to its caller
or the driver failed, and leaves the columns equal. -/
theorem observations_are_monotone (platform : DispatchPlatform) (faults : Bool)
    (admitted : Call → Prop) {state later : SystemState}
    (reachable : Reachable platform faults admitted state)
    (reaches : Pool.Reaches (scheduler platform faults admitted) state later) :
    (∀ id row, state.world.find id = some row →
      ∃ row', later.world.find id = some row' ∧ row.provider.Grows row'.provider) ∧
    (∀ id row index handle Result (call : EffectStore Result) program log,
      state.world.find id = some row → call.target? = some id →
      call.Contradicts platform.toPlatform row.provider → state.threads.length ≤ index →
      later.threads[index]? = some ⟨.store handle call, program, log⟩ →
      Rejected faults later.world id (call.Repeats platform.toPlatform) program) ∧
    (∀ (first : Nat) observer Result (call : EffectStore Result) firstLog observation index handle
      lease program log,
      call.observes? = some (lease.executionID, observation) →
      state.threads[first]? = some ⟨.store observer call, .done (.written (.ok ())), firstLog⟩ →
      state.threads.length ≤ index →
      later.threads[index]? = some ⟨.store handle (.recordProviderObservation lease observation),
        program, log⟩ →
      Repeated faults handle lease state.world later.world program) := by
  have reached : state.world.Reached := reachable.reached
  refine ⟨?_, ?_, ?_⟩
  · intro id row found
    exact (reaches_evolves reaches).grows reached found
  · intro id row index handle Result call program log found target contradicts new thread
    obtain ⟨start, since, follows⟩ := Pool.Reaches.started reaches thread new
    have lasts : Lasts id (fun _ row => call.Contradicts platform.toPlatform row.provider) start := by
      intro after further
      obtain ⟨row', found', grows⟩ :=
        World.Evolves.grows (Relation.ReflTransGen.trans since further) reached found
      exact ⟨row', found', contradicts.grown grows⟩
    exact rejected follows target lasts EffectStore.Contradicts.excluded
  · intro first observer Result call firstLog observation index handle lease program log observes
      accepted new thread
    have recorded := Reachable.recorded reachable observes accepted
    obtain ⟨start, since, follows⟩ := Pool.Reaches.started reaches thread new
    exact repeated since recorded follows

def sampleObservation (result : RawMessage) : ProviderObservation where
  providerID := "provider"
  providerRunID := "run"
  providerStatus := ""
  result := result
  resultDigest := ""
  evidenceDigest := ""
  receiptVersion := 0

def sampleObserve (lease : Lease) (result : RawMessage) : Call :=
  .store sampleHandle (.recordProviderObservation lease (sampleObservation result))

def sampleObserved : List Choice :=
  sampleCrossing ++ Choice.complete (sampleObserve sampleLease [49]) 3 "" ""

/-- The holder records its observation again: the columns are kept, a different result is rejected and
the same one is accepted. -/
theorem observations_are_monotone_repeated :
    ∃ row program,
      ((SystemState.initial 0).follow samplePlatform sampleObserved).world.find "execution" =
        some row ∧ row.provider.result = some [49] ∧
      (((SystemState.initial 0).follow samplePlatform sampleObserved).follow samplePlatform
        (Choice.complete (sampleObserve sampleLease [50]) 4 "" "" ++
          Choice.complete (sampleObserve sampleLease [49]) 5 "" "")).threads[4]? =
            some ⟨sampleObserve sampleLease [50], program, []⟩ ∧
      Rejected false (((SystemState.initial 0).follow samplePlatform sampleObserved).follow
        samplePlatform (Choice.complete (sampleObserve sampleLease [50]) 4 "" "" ++
          Choice.complete (sampleObserve sampleLease [49]) 5 "" "")).world "execution"
        (fun _ => False) program ∧
      Accepted false sampleHandle sampleLease
        ((SystemState.initial 0).follow samplePlatform sampleObserved).world (.ok ())
        (((SystemState.initial 0).follow samplePlatform sampleObserved).follow samplePlatform
          (Choice.complete (sampleObserve sampleLease [50]) 4 "" "" ++
            Choice.complete (sampleObserve sampleLease [49]) 5 "" "")).world := by
  obtain ⟨_, refuses, repeats⟩ := observations_are_monotone samplePlatform false (fun _ => True)
    (follow_reachable samplePlatform false sampleObserved 0)
    (follow_reaches samplePlatform false
      (Choice.complete (sampleObserve sampleLease [50]) 4 "" "" ++
        Choice.complete (sampleObserve sampleLease [49]) 5 "" "") _)
  have rejects := refuses "execution" _ 4 sampleHandle Unit
    (.recordProviderObservation sampleLease (sampleObservation [50])) _ [] rfl rfl
    ⟨_, rfl, .inr (.inr (.inr (.inl rfl)))⟩ (by decide) rfl
  obtain ⟨reply, same, accepted⟩ := (repeats 3 sampleHandle Unit
    (.recordProviderObservation sampleLease (sampleObservation [49])) [] (sampleObservation [49]) 5
    sampleHandle sampleLease _ [] rfl rfl (by decide) rfl).accepted _ rfl
  cases same
  exact ⟨_, _, rfl, rfl, rfl, rejects, accepted⟩

def sampleResolution (result : RawMessage) : RecoveryResult where
  decision := .committed
  result := result
  evidenceDigest := ""
  receiptVersion := 0
  providerID := "provider"
  providerRunID := "run"
  evidenceReceipt := []

set_option maxRecDepth 4096 in
/-- What the guards leave open.  A recovery resolves the execution with another result than the
observed one; a contradicting observation by a caller without the lease is refused but leaves a
contention event; and the observation is refused once the row is terminal. -/
theorem resolution_replaces_observed_result :
    (∃ row,
      ((SystemState.initial 0).follow samplePlatform (sampleObserved ++
        Choice.complete (.store sampleHandle (.enterRecovery "execution" .inFlight 3)) 4 "" "" ++
        Choice.complete (.store sampleHandle (.resolveRecovery "execution" 4
          (sampleResolution [50]))) 5 "" "")).threads[5]? = some ⟨.store sampleHandle
            (.resolveRecovery "execution" 4 (sampleResolution [50])),
            .done (.written (.ok ())), []⟩ ∧
      ((SystemState.initial 0).follow samplePlatform (sampleObserved ++
        Choice.complete (.store sampleHandle (.enterRecovery "execution" .inFlight 3)) 4 "" "" ++
        Choice.complete (.store sampleHandle (.resolveRecovery "execution" 4
          (sampleResolution [50]))) 5 "" "")).world.find "execution" = some row ∧
      row.state = .committed ∧ row.provider.result = some [49] ∧ row.result = some [50]) ∧
    (∃ error,
      ((SystemState.initial 0).follow samplePlatform (sampleObserved ++
        Choice.complete (sampleObserve ⟨"execution", "other", 1⟩ [50]) 4 "" "")).threads[4]? =
          some ⟨sampleObserve ⟨"execution", "other", 1⟩ [50], .done (.written (.error error)), []⟩ ∧
      ((SystemState.initial 0).follow samplePlatform (sampleObserved ++
        Choice.complete (sampleObserve ⟨"execution", "other", 1⟩ [50]) 4 "" "")
        ).world.database.events.length =
      ((SystemState.initial 0).follow samplePlatform sampleObserved).world.database.events.length
        + 1) ∧
    (∃ error,
      ((SystemState.initial 0).follow samplePlatform (sampleObserved ++
        Choice.complete (.store sampleHandle (.finalize sampleLease .inFlight sampleReceipt)) 4 "" "" ++
        Choice.complete (sampleObserve sampleLease [49]) 5 "" "")).threads[5]? =
          some ⟨sampleObserve sampleLease [49], .done (.written (.error error)), []⟩) :=
  ⟨⟨_, rfl, rfl, rfl, rfl, rfl⟩, ⟨_, rfl, rfl⟩, ⟨_, rfl⟩⟩

end Crabedence
