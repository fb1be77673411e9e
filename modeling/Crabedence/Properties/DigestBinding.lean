import Crabedence.Dispatch.Progress

/-!
# The digest an execution carries

An execution is acquired under the descriptor-bound digest of its request or, on the retry for a row
written before descriptors were bound, under the legacy digest.  What the run puts into its recovery
locator, its signed binding and its terminal receipt is compared here with the digest its row stores.

The last part follows the run among callers that leave its row alone: `tending` lets them do anything
else, advance the clock and renew the run's own lease.  A run for which the host's answers are
`Favourable` gets as far as its handler and its `Finalize`.
-/

namespace Crabedence

open Relational Resumption StoreM DispatchM

/-- The row as it was, up to a renewed lease. -/
structure Row.Tended (now later : Int) (row after : Row) : Prop where
  identity : after.identity = row.identity
  state : after.state = row.state
  version : after.version = row.version
  provider : after.provider = row.provider
  token : after.lease.token = row.lease.token
  generation : after.lease.generation = row.lease.generation
  unexpired : row.unexpired now = true → after.unexpired later = true

theorem Row.Tended.refl (now : Int) (row : Row) : row.Tended now now row :=
  ⟨rfl, rfl, rfl, rfl, rfl, rfl, fun live => live⟩

theorem Row.Tended.trans {first second third : Int} {row after final : Row}
    (earlier : row.Tended first second after) (later : after.Tended second third final) :
    row.Tended first third final where
  identity := later.identity.trans earlier.identity
  state := later.state.trans earlier.state
  version := later.version.trans earlier.version
  provider := later.provider.trans earlier.provider
  token := later.token.trans earlier.token
  generation := later.generation.trans earlier.generation
  unexpired live := later.unexpired (earlier.unexpired live)

/-- Other callers while the epoch stays and nobody but a renewal of its live lease touches the key's
row. -/
def tending (key : RequestKey) : Environment where
  rely before after := before.Evolves after ∧ after.database.cluster = before.database.cluster ∧
    ∀ row, before.database.findByKey key = some row →
      ∃ row', after.database.findByKey key = some row' ∧ row.Tended before.now after.now row'
  refl world := ⟨.refl, rfl, fun row found => ⟨row, found, .refl world.now row⟩⟩
  trans earlier later := by
    refine ⟨earlier.1.trans later.1, later.2.1.trans earlier.2.1, fun row found => ?_⟩
    obtain ⟨row', found', tended⟩ := earlier.2.2 row found
    obtain ⟨row'', found'', further⟩ := later.2.2 row' found'
    exact ⟨row'', found'', tended.trans further⟩
  evolves moved := moved.1

/-- The key's row is in flight under the lease, which has not expired, and the handle is current. -/
structure InFlight (handle : SQLiteStore) (key : RequestKey) (lease : Lease) (world : World)
    (row : Row) : Prop where
  found : world.database.findByKey key = some row
  id : row.executionID = lease.executionID
  state : row.state = .inFlight
  names : row.names lease = true
  unexpired : row.unexpired world.now = true
  current : world.database.cluster.epoch = handle.epoch

variable {handle : SQLiteStore} {key : RequestKey} {lease : Lease} {world later : World} {row : Row}

section Tending

theorem InFlight.byID (inFlight : InFlight handle key lease world row) :
    world.find lease.executionID = some row ∧ row.requestKey = key := by
  obtain ⟨found, sameKey⟩ := Database.find_of_findByKey inFlight.found
  exact ⟨inFlight.id ▸ found, sameKey⟩

theorem InFlight.moved (inFlight : InFlight handle key lease world row)
    (moved : (tending key).rely world later) :
    ∃ row', InFlight handle key lease later row' ∧ row.Tended world.now later.now row' := by
  obtain ⟨_, cluster, tends⟩ := moved
  obtain ⟨row', found, tended⟩ := tends row inFlight.found
  have named := Row.names_iff.mp inFlight.names
  refine ⟨row', ⟨found, ?_, tended.state.trans inFlight.state, ?_,
    tended.unexpired inFlight.unexpired, ?_⟩, tended⟩
  · unfold Row.executionID
    rw [tended.identity]
    exact inFlight.id
  · exact Row.names_iff.mpr ⟨tended.token.trans named.1, tended.generation.trans named.2⟩
  · rw [cluster]
    exact inFlight.current

theorem InFlight.of_hit {mutation : Mutation} {before : World}
    (target : mutation.target = lease.executionID) (found : before.find mutation.target = some row)
    (allowed : mutation.guard before.now before.database.cluster row = true)
    (current : before.database.cluster.epoch = handle.epoch) (keyed : row.requestKey = key)
    (state : (mutation.assign before.now row).state = .inFlight)
    (kept : (mutation.assign before.now row).lease = row.lease) (names : row.names lease = true)
    (unexpired : row.unexpired before.now = true) :
    InFlight handle key lease (before.commit handle.epoch (.apply mutation))
      (mutation.assign before.now row) := by
  have stored := World.commit_hit found allowed current
  have named := Row.names_iff.mp names
  obtain ⟨expiry, expires, live⟩ := Row.unexpired_iff.mp unexpired
  obtain ⟨sameID, sameKey⟩ := Mutation.assign_keys before.now mutation row
  constructor
  · rw [← keyed, ← sameKey]
    exact Database.findByKey_of_find stored
  · rw [sameID, ← target]
    exact (Table.find_some_iff.mp found).2
  · exact state
  · rw [Row.names_iff, kept]
    exact named
  · rw [Row.unexpired_iff, kept]
    exact ⟨expiry, expires, live⟩
  · show (before.database.applyMutation handle.epoch before.now mutation).2.cluster.epoch = _
    rw [Database.applyMutation_cluster]
    exact current

def Stage.Leaves (handle : SQLiteStore) (key : RequestKey) (lease : Lease) (world : World) :
    Stage → Prop
  | .acquired | .begun => True
  | .crossed _ => ∃ row, InFlight handle key lease world row
  | .observed _ material => ∃ row, InFlight handle key lease world row ∧
      row.admitsProvider material.observation.providerID material.observation.providerRunID = true

theorem Stage.Leaves.moved {stage : Stage} (leaves : stage.Leaves handle key lease world)
    (moved : (tending key).rely world later) : stage.Leaves handle key lease later := by
  cases stage with
  | acquired | begun => exact trivial
  | crossed providerID =>
    obtain ⟨row, inFlight⟩ := leaves
    obtain ⟨row', inFlight', _⟩ := inFlight.moved moved
    exact ⟨row', inFlight'⟩
  | observed providerID material =>
    obtain ⟨row, inFlight, admits⟩ := leaves
    obtain ⟨row', inFlight', tended⟩ := inFlight.moved moved
    refine ⟨row', inFlight', ?_⟩
    unfold Row.admitsProvider
    rw [tended.provider]
    exact admits

theorem Row.observe_admitsProvider (now : Int) (observation : ProviderObservation) (row : Row) :
    (row.observe now observation).admitsProvider observation.providerID observation.providerRunID =
      true := by
  unfold Row.admitsProvider Row.observe
  rw [Bool.and_eq_true]
  exact ⟨fits_of_fills coalesce_fills, fits_of_fills coalesce_fills⟩

theorem Progress.leaves {digest : String} {stage : Stage}
    (progress : Progress (tending key) handle key digest lease stage world) :
    stage.Leaves handle key lease world := by
  induction progress with
  | acquired decided granted same moved => exact trivial
  | @advanced stage next mutation start world earlier advances hit ih =>
    obtain ⟨before, row, since, found, allowed, current, further⟩ := hit
    have target := advances.target
    have owned := earlier.owned.evolves since.1
    obtain ⟨row', found', keyed, _⟩ := owned
    have same : row' = row := by
      rw [target] at found
      exact Option.some_inj.mp (found'.symm.trans found)
    subst same
    cases advances with
    | begun => exact trivial
    | crossed providerID persisted =>
      have held := allowed
      simp only [Mutation.guard, Bool.and_eq_true, decide_eq_true_eq] at held
      apply Stage.Leaves.moved _ further
      exact ⟨_, InFlight.of_hit rfl found allowed current keyed rfl rfl held.1.2 held.2⟩
    | observed providerID material =>
      -- the row is in flight from the crossing on, so the observation is not a late one
      obtain ⟨crossed, inFlight⟩ := Stage.Leaves.moved ih since
      have sameRow : crossed = row' := Option.some_inj.mp (inFlight.byID.1.symm.trans found')
      subst sameRow
      apply Stage.Leaves.moved _ further
      exact ⟨_, InFlight.of_hit rfl found allowed current keyed inFlight.state rfl inFlight.names
        inFlight.unexpired, Row.observe_admitsProvider _ _ _⟩

end Tending

variable {receipt : TerminalReceipt} {log : List Mark}

section Acceptance

variable {platform : Platform}

theorem ensures_lookup_inFlight (inFlight : InFlight handle key lease world row) :
    EnsuresIn (tending key) false unguarded (fun reply later log' => log' = log ∧
      ∃ seen row', InFlight handle key lease seen row' ∧ row.Tended world.now seen.now row' ∧
        (tending key).rely world seen ∧ (tending key).rely seen later ∧ reply = .ok row'.scan)
      (handle.lookup lease.executionID) world log := by
  apply ensures_bind
  apply ensuresIn_sql
  intro seen moved
  obtain ⟨row', inFlight', tended⟩ := inFlight.moved moved
  have read : (Transaction.lookup lease.executionID).exec handle.epoch seen.now seen.database =
      (some row'.scan, seen.database) := by
    show ((seen.find lease.executionID).map Row.scan, seen.database) = _
    rw [inFlight'.byID.1]
    rfl
  refine ⟨trivial, fun after further => ?_, nofun⟩
  rw [World.commit_eq (congrArg Prod.snd read)] at further
  rw [read]
  apply ensures_pure
  intro final last
  exact ⟨List.append_nil log, seen, row', inFlight', tended, moved, (tending key).trans further last,
    rfl⟩

/-- The receipt passes the checks that `Finalize` makes on its evidence, whenever it makes them. -/
def Proved (platform : Platform) (handle : SQLiteStore) (key : RequestKey) (receipt : TerminalReceipt)
    (world : World) : Prop :=
  receipt.check platform = .ok () ∧ ∀ seen row, (tending key).rely world seen →
    seen.database.findByKey key = some row →
    handle.requireProof platform "finalization" row.scan (receipt.bindTo row.executionID row.scan)
      receipt.terminalStatus = .ok ()

/-- The call succeeds and the key's row is `COMMITTED`. -/
def EndsCommitted (key : RequestKey) (reply : Except StoreError Unit) (later : World) (_ : List Mark) :
    Prop :=
  reply = .ok () ∧ ∃ row, later.database.findByKey key = some row ∧ row.state = .committed

theorem Row.Tended.scan_identity {now after : Int} {row' : Row} (tended : row.Tended now after row') :
    receipt.checkIdentity lease.executionID row'.scan =
      receipt.checkIdentity lease.executionID row.scan := by
  unfold TerminalReceipt.checkIdentity Row.scan
  rw [tended.identity]

theorem ensures_hit {environment : Environment} {mutation : Mutation} {Result : Type}
    {next : Bool → StoreM Result} {post : Except StoreError Result → World → List Mark → Prop}
    (hits : ∀ before, environment.rely world before → ∃ row, before.find mutation.target = some row ∧
      mutation.guard before.now before.database.cluster row = true ∧
      before.database.cluster.epoch = handle.epoch)
    (continues : ∀ before row after, environment.rely world before →
      (before.commit handle.epoch (.apply mutation)).find mutation.target =
        some (mutation.assign before.now row) → before.find mutation.target = some row →
      environment.rely (before.commit handle.epoch (.apply mutation)) after →
      EnsuresIn environment false unguarded post (next true) after
        (log ++ (Operation.sql handle.epoch (.apply mutation)).marks (.ok true))) :
    EnsuresIn environment false unguarded post (handle.sql (.apply mutation) >>= next) world log := by
  apply ensures_bind
  apply ensuresIn_sql
  intro before moved
  obtain ⟨row, found, allowed, current⟩ := hits before moved
  have hit : ((Transaction.apply mutation).exec handle.epoch before.now before.database).1 = true :=
    Database.applyMutation_hit_iff.mpr ⟨row, found, allowed, current⟩
  refine ⟨trivial, fun after further => ?_, nofun⟩
  rw [hit]
  exact continues before row after moved (World.commit_hit found allowed current) found further

/-- `Finalize` after it read the row. -/
theorem ensures_finalizeExisting_commits {final : receipt.terminalStatus.isDurablyFinal = true}
    {legal : isLegalTransition .inFlight receipt.terminalStatus = true} {seen : World}
    (inFlight : InFlight handle key lease seen row) (since : (tending key).rely seen world)
    (admits : row.admitsProvider receipt.providerID receipt.providerRunID = true)
    (committed : receipt.terminalStatus = .committed)
    (identified : receipt.checkIdentity lease.executionID row.scan = .ok ())
    (checked : receipt.check platform = .ok ())
    (proved : handle.requireProof platform "finalization" row.scan
      (receipt.bindTo lease.executionID row.scan) receipt.terminalStatus = .ok ()) :
    EnsuresIn (tending key) false unguarded (EndsCommitted key)
      (handle.finalizeExisting platform lease .inFlight receipt final legal row.scan) world log := by
  obtain ⟨digest, digested⟩ := check_digests checked lease.executionID row.scan
  have open_ : row.scan.state.isDurablyFinal = false := by
    rw [show row.scan.state = row.state from rfl, inFlight.state]
    rfl
  unfold SQLiteStore.finalizeExisting
  rw [identified]
  apply ensures_bind
  apply ensures_lift
  intro identifiedAt sinceIdentified
  dsimp only
  rw [digested]
  dsimp only
  rw [open_, if_neg Bool.false_ne_true, proved]
  apply ensures_bind
  apply ensures_lift
  intro provedAt sinceProved
  have sinceSeen := (tending key).trans since ((tending key).trans sinceIdentified sinceProved)
  apply ensures_hit
  · intro before sinceBefore
    obtain ⟨row', inFlight', tended⟩ := inFlight.moved ((tending key).trans sinceSeen sinceBefore)
    refine ⟨row', inFlight'.byID.1, ?_, inFlight'.current⟩
    simp only [Mutation.guard, Bool.and_eq_true, decide_eq_true_eq]
    refine ⟨⟨⟨⟨inFlight'.state, inFlight'.names⟩, inFlight'.unexpired⟩, tended.version⟩, ?_⟩
    unfold Row.admitsProvider
    rw [tended.provider]
    exact admits
  · intro before row' after sinceBefore stored found further
    obtain ⟨current, inFlight', _⟩ := inFlight.moved ((tending key).trans sinceSeen sinceBefore)
    have same : current = row' := Option.some_inj.mp (inFlight'.byID.1.symm.trans found)
    subst same
    have keyed := Database.findByKey_of_find stored
    rw [(Mutation.assign_keys _ _ _).2, inFlight'.byID.2] at keyed
    apply ensures_pure
    intro later moved
    obtain ⟨_, _, tends⟩ := (tending key).trans further moved
    obtain ⟨committedRow, committedFound, committedTended⟩ := tends _ keyed
    exact ⟨rfl, committedRow, committedFound, committedTended.state.trans committed⟩

theorem ensures_finalize_commits (inFlight : InFlight handle key lease world row)
    (admits : row.admitsProvider receipt.providerID receipt.providerRunID = true)
    (committed : receipt.terminalStatus = .committed)
    (identified : receipt.checkIdentity lease.executionID row.scan = .ok ())
    (proved : Proved platform handle key receipt world) :
    EnsuresIn (tending key) false unguarded (EndsCommitted key)
      (handle.finalize platform lease .inFlight receipt) world log := by
  obtain ⟨checked, evidenced⟩ := proved
  have final : receipt.terminalStatus.isDurablyFinal = true := by
    rw [committed]
    rfl
  have legal : isLegalTransition .inFlight receipt.terminalStatus = true := by
    rw [committed]
    rfl
  unfold SQLiteStore.finalize
  rw [dif_pos final, checked, dif_pos legal]
  apply ensures_bind
  apply ensures_lift
  intro start started
  obtain ⟨row', inFlight', tended⟩ := inFlight.moved started
  apply ensures_bind
  apply ensures_attempt
  refine (ensures_lookup_inFlight inFlight').mono ?_
  intro reply after sofar looked
  obtain ⟨_, seen, existing, inFlightSeen, tendedSeen, sinceStart, further, rfl⟩ := looked
  have tendedAll := tended.trans tendedSeen
  apply ensures_finalizeExisting_commits inFlightSeen further _ committed _ checked
  · rw [← inFlightSeen.id]
    exact evidenced seen existing ((tending key).trans started sinceStart) inFlightSeen.found
  · unfold Row.admitsProvider
    rw [tendedAll.provider]
    exact admits
  · rw [tendedAll.scan_identity]
    exact identified

end Acceptance

section Placements

/-- The digest placed for an execution is the one its row stores exactly when the row stores the
descriptor-bound digest. -/
def Matches (world : World) (key : RequestKey) (id placed digest : String) : Prop :=
  ∃ row, world.find id = some row ∧ row.requestKey = key ∧
    (placed = row.identity.requestDigest ↔ row.identity.requestDigest = digest)

def Binds (platform : DispatchPlatform) (executor : DispatchExecutor) (request : Request)
    (digest : String) : Machine.Guard DispatchOp World Mark
  | _, .host (.prepareRecovery _ input), world, _ =>
    Matches world request.key input.executionID input.requestDigest digest
  | _, .store (.markInFlight lease _ raw), world, _ =>
    ∃ locator, platform.marshalLocator locator = .ok raw ∧ (executor.preparesRecovery = true ∨
      Matches world request.key lease.executionID locator.requestDigest digest)
  | _, .host (.sign binding), world, _ =>
    Matches world request.key binding.executionID binding.requestDigest digest
  | _, .store (.finalize _ _ receipt), world, _ =>
    Matches world request.key receipt.executionID receipt.requestDigest digest
  | _, _, _, _ => True

/-- The `Finalize` call of a run carries the digest of its row and commits a proven `COMMITTED`
receipt, exactly when the row stores the descriptor-bound digest. -/
def Finalizable (platform : DispatchPlatform) (handle : SQLiteStore) (request : Request)
    (digest : String) : Machine.Guard DispatchOp World Mark
  | _, .store (.finalize fenced expectedState receipt), world, _ =>
    ∃ row, world.find receipt.executionID = some row ∧ row.requestKey = request.key ∧
      (receipt.requestDigest = row.identity.requestDigest ∧
        (receipt.terminalStatus = .committed →
          Proved platform.toPlatform handle request.key receipt world →
          EnsuresIn (tending request.key) false unguarded (EndsCommitted request.key)
            (handle.serve platform.toPlatform (.finalize fenced expectedState receipt)) world []) ↔
        row.identity.requestDigest = digest)
  | _, _, _, _ => True

variable {environment : Environment} {replies : Replies} {platform : DispatchPlatform}
  {executor : DispatchExecutor} {request : Request} {descriptor : ResolvedDescriptor}
  {digest : String} {fenced : Lease} {stage : Stage} {expectedState : State}

theorem Running.matches (running : Running environment replies platform handle request descriptor
    digest lease stage world) : Matches world request.key lease.executionID digest digest := by
  obtain ⟨acquired, _, progress⟩ := running
  obtain ⟨row, found, sameKey, _⟩ := progress.owned
  exact ⟨row, found, sameKey, eq_comm⟩

theorem Matches.evolves {id placed : String}
    (matches_ : Matches world key id placed digest) (evolves : world.Evolves later) :
    Matches later key id placed digest := by
  obtain ⟨row, found, sameKey, agrees⟩ := matches_
  obtain ⟨row', found', identity⟩ := evolves.identity found
  refine ⟨row', found', ?_, ?_⟩
  · unfold Row.requestKey
    rw [identity]
    exact sameKey
  · rw [identity]
    exact agrees

variable {Reply : Type} {operation : DispatchOp Reply}

theorem Executes.binds
    (executes : Executes environment replies platform handle executor request descriptor digest
      operation world log) : Binds platform executor request digest operation world log := by
  cases operation with
  | host asked =>
    cases asked with
    | prepareRecovery adapterID input =>
      obtain ⟨lease, running, rfl⟩ := executes
      exact running.matches
    | sign binding =>
      obtain ⟨lease, material, running, sameID, sameDigest⟩ := executes
      show Matches world request.key binding.executionID binding.requestDigest digest
      rw [sameID, sameDigest]
      exact running.matches
    | _ => exact trivial
  | store call =>
    cases call with
    | markInFlight lease providerID raw =>
      obtain ⟨running, locator, marshalled, prepared⟩ := executes
      refine ⟨locator, marshalled, prepared.imp_right fun generic => ?_⟩
      rw [generic]
      exact running.matches
    | finalize fenced expectedState receipt =>
      cases executes with
      | call lease response state material evidenceReceipt seen row running observed decided
          definite found moved =>
          exact running.matches.evolves (environment.evolves moved)
    | _ => exact trivial

theorem observationMaterial_provider {observation : ProviderObservation}
    {material : ObservationMaterial}
    (made : SQLiteStore.observationMaterial platform.toPlatform observation = .ok material) :
    material.observation.providerID = observation.providerID ∧
      material.observation.providerRunID = observation.providerRunID := by
  rcases canonicalizeObservation_ok platform.toPlatform (SQLiteStore.observationMaterial_ok made)
    with ⟨_, same⟩ | ⟨_, bytes, _, same⟩ <;> rw [same] <;> exact ⟨rfl, rfl⟩

theorem receiptProvider_observed (response : Response) (descriptor : ResolvedDescriptor) :
    DispatchExecutor.receiptProvider response descriptor =
      (buildObservation response descriptor).providerID := by
  unfold DispatchExecutor.receiptProvider buildObservation
  cases response.execution with
  | none => rfl
  | some execution =>
    by_cases unnamed : execution.provider = ""
    · simp [unnamed]
    · simp [unnamed]

/-- Among tending callers the row is in flight under the presented lease and admits the receipt's
provider when the run finalises. -/
theorem Finalizes.inFlight (finalizes : Finalizes (tending request.key) replies platform handle
      request descriptor digest world fenced expectedState receipt) :
    expectedState = .inFlight ∧ receipt.executionID = fenced.executionID ∧
      receipt.capability = request.capability ∧ receipt.principal = request.authority.principal ∧
      receipt.requestDigest = digest ∧ ∃ row, InFlight handle request.key fenced world row ∧
        row.admitsProvider receipt.providerID receipt.providerRunID = true := by
  cases finalizes with
  | call lease response state material evidenceReceipt seen row running observed decided definite
      found moved =>
      refine ⟨rfl, rfl, rfl, rfl, rfl, ?_⟩
      obtain ⟨acquired, _, progress⟩ := running
      have leaves := progress.leaves
      obtain ⟨inFlightRow, inFlight, _⟩ := leaves
      have same : inFlightRow = row := Option.some_inj.mp (inFlight.byID.1.symm.trans found)
      subst same
      have unchanged : ({ lease with generation := inFlightRow.lease.generation } : Lease) = lease := by
        rw [(Row.names_iff.mp inFlight.names).2]
      rw [unchanged]
      obtain ⟨row', inFlight', admits⟩ := progress.leaves.moved moved
      refine ⟨row', inFlight', ?_⟩
      obtain ⟨sameProvider, sameRun⟩ := observationMaterial_provider observed
      rw [sameProvider, sameRun, ← receiptProvider_observed] at admits
      exact admits

theorem checkIdentity_of_digest (inFlight : InFlight handle request.key fenced world row)
    (sameID : receipt.executionID = fenced.executionID)
    (capability : receipt.capability = request.capability)
    (principal : receipt.principal = request.authority.principal)
    (sameDigest : receipt.requestDigest = row.identity.requestDigest) :
    receipt.checkIdentity fenced.executionID row.scan = .ok () := by
  have sameKey := inFlight.byID.2
  have rowCapability : row.scan.capabilityID = receipt.capability :=
    (congrArg RequestKey.capability sameKey).trans capability.symm
  have rowPrincipal : row.scan.principalID = receipt.principal :=
    (congrArg RequestKey.principal sameKey).trans principal.symm
  have rowDigest : row.scan.requestDigest = receipt.requestDigest := sameDigest.symm
  unfold TerminalReceipt.checkIdentity identityMismatch
  rw [sameID, rowCapability, rowPrincipal, rowDigest]
  simp only [ne_eq, not_true_eq_false, and_false, if_false]
  rfl

theorem Executes.finalizable
    (executes : Executes (tending request.key) replies platform handle executor request descriptor
      digest operation world log) : Finalizable platform handle request digest operation world log := by
  cases operation with
  | host asked => exact trivial
  | store call =>
    cases call with
    | finalize fenced expectedState receipt =>
      obtain ⟨rfl, sameID, capability, principal, carried, row, inFlight, admits⟩ :=
        Finalizes.inFlight executes
      obtain ⟨found, sameKey⟩ := inFlight.byID
      refine ⟨row, sameID ▸ found, sameKey, ?_⟩
      constructor
      · intro placed
        exact placed.1.symm.trans carried
      · intro stored
        have sameDigest := carried.trans stored.symm
        refine ⟨sameDigest, fun committed proved => ?_⟩
        apply ensures_finalize_commits inFlight admits committed _ proved
        exact checkIdentity_of_digest inFlight sameID capability principal sameDigest
    | _ => exact trivial

end Placements

section Delivery

variable (platform : DispatchPlatform) (handle : SQLiteStore) (executor : DispatchExecutor)
  (request : Request) (descriptor : ResolvedDescriptor) (digest : String) (response : Response)
  (signer : Binding → RawMessage)

/-- The replies of a run that nothing goes wrong for: the acquisition grants the execution, no store
call but `Finalize` fails, the deadline holds, the gate is open, the locator can be stored, the handler
gives this response and the signer signs. -/
def Favourable : Replies
  | _, .store (.acquireWithAuthority ..), reply => ∃ result, reply = .ok result ∧
      result.acquired = true ∧ Storable platform (DispatchExecutor.genericRecoveryLocator request
        descriptor digest result.record.executionID)
  | _, .store (.finalize ..), _ => True
  | _, .store _, reply => ∃ value, reply = .ok value
  | _, .host (.deadlineExpired _), reply => reply = false
  | _, .host (.acquireGate _), reply => reply = .ok ()
  | _, .host (.prepareRecovery ..), reply => ∃ prepared, reply = .ok prepared ∧
      ∀ locator, prepared = some locator → Storable platform locator
  | _, .host (.executeHandler ..), reply => reply = .answered response
  | _, .host (.sign binding), reply => reply = .ok (signer binding)
  | _, .host _, _ => True

/-- The terminal receipt of a run whose handler gave the response. -/
def committedReceipt (executionID : String) : TerminalReceipt :=
  let shown := evidencedResponse platform { response }
  let receipt := DispatchExecutor.terminalReceipt platform request descriptor digest
    ⟨executionID, "", 0⟩ .committed shown
  { receipt with
    evidenceReceipt :=
      if descriptor.executionClass = .critical ∧ executor.hasSigner ∧
          0 < shown.evidenceArtifact.length then
        signer (DispatchExecutor.signedBinding receipt)
      else [] }

/-- The receipt passes the checks `Finalize` makes on its evidence, whatever the columns of the row
hold that may change. -/
def Proven (platform : Platform) (receipt : TerminalReceipt) (row : Row) : Prop :=
  receipt.evidenceReceipt.length ≤ maxEvidenceReceiptBytes ∧
    ∀ other : Row, other.identity = row.identity →
      handle.requireProof platform "finalization" other.scan (receipt.bindTo other.executionID other.scan)
        receipt.terminalStatus = .ok ()

/-- The row of the key stores the digest, and if the run's receipt is proven, the row is `COMMITTED`
and the run answers `SUCCEEDED`. -/
def Delivers (answer : Response) (later : World) : Prop :=
  ∃ row, later.database.findByKey request.key = some row ∧ row.identity.requestDigest = digest ∧
    (Proven handle platform.toPlatform (committedReceipt platform executor request descriptor digest
        response signer row.executionID) row →
      row.state = .committed ∧ answer.status = .succeeded)

end Delivery

section Favourable

variable {platform : DispatchPlatform} {executor : DispatchExecutor} {request : Request}
  {descriptor : ResolvedDescriptor} {digest : String} {response : Response}
  {signer : Binding → RawMessage} {log : List Mark}

theorem Favourable.unhindered (configured : executor.store ≠ none)
    (capable : checkCriticalProviderCapability platform executor descriptor = none)
    (bound : request.digest platform descriptor = .ok digest) :
    ¬ Hindered (Favourable platform request descriptor digest response signer) platform executor
      request descriptor digest := by
  intro hindered
  cases hindered with
  | unconfigured none => exact configured none
  | incapable _ refused => cases capable.symm.trans refused
  | undigested fails => exact fails bound
  | unacquired _ _ possible =>
    obtain ⟨_, _, _, _, same, _⟩ := possible
    cases same
  | ungranted _ _ possible denied =>
    obtain ⟨_, _, _, _, same, granted, _⟩ := possible
    cases same
    cases denied.symm.trans granted
  | expired possible => cases possible
  | closed _ possible => cases possible
  | unbegun _ _ possible | uncrossed _ _ _ possible =>
    obtain ⟨_, same⟩ := possible
    cases same
  | unprepared _ _ possible =>
    obtain ⟨_, same, _⟩ := possible
    cases same
  | unstorable executionID locator granted prepared unstorable =>
    apply unstorable
    cases prepared with
    | generic =>
      obtain ⟨_, _, ⟨_, _, _, _, same, _, storable⟩, _, rfl⟩ := granted
      cases same
      exact storable
    | adapter input _ _ possible =>
      obtain ⟨_, same, storable⟩ := possible
      cases same
      exact storable locator rfl

/-- A run that meets no conflict acquires under the descriptor-bound digest. -/
theorem Favourable.acquired {acquired : String} (under : AcquiredUnder
      (Favourable platform request descriptor digest response signer) platform request descriptor
      digest acquired) : acquired = digest := by
  rcases under with same | ⟨_, result, ⟨_, _, _, _, same, granted, _⟩, conflict⟩
  · exact same
  · cases same
    rw [AcquireResult.acquired, conflict] at granted
    cases granted

theorem Favourable.dispatched {outcome : DispatchOutcome} (dispatched : Dispatched
      (Favourable platform request descriptor digest response signer) executor request descriptor log
      outcome) : outcome = { response } ∧ .invoked request descriptor ∈ log := by
  cases dispatched with
  | late possible => cases possible
  | answered _ _ possible logged =>
    cases possible
    exact ⟨rfl, logged⟩
  | outlived _ _ possible => cases possible

theorem Proven.of_identity {platform : Platform} {row' : Row}
    (proven : Proven handle platform receipt row) (same : row'.identity = row.identity) :
    Proven handle platform receipt row' :=
  ⟨proven.1, fun other identity => proven.2 other (identity.trans same)⟩

theorem canonicalizeObservation_checks {platform : Platform}
    {observation canonical : ProviderObservation}
    (accepted : canonicalizeObservation platform observation = .ok canonical) :
    0 ≤ observation.receiptVersion ∧ observation.result.length ≤ maxResultBytes ∧
      ∃ bytes, canonicalizeJSON platform observation.result = .ok bytes := by
  unfold canonicalizeObservation at accepted
  by_cases negative : observation.receiptVersion < 0
  · rw [if_pos negative] at accepted
    cases accepted
  rw [if_neg negative] at accepted
  refine ⟨Int.not_lt.mp negative, ?_⟩
  by_cases empty : observation.result.length = 0
  · exact ⟨empty ▸ Nat.zero_le _, [], if_pos empty⟩
  by_cases large : maxResultBytes < observation.result.length
  · simp only [empty, large, if_true, if_false] at accepted
    cases accepted
  refine ⟨Nat.not_lt.mp large, ?_⟩
  cases canonicalized : canonicalizeJSON platform observation.result with
  | ok bytes => exact ⟨bytes, rfl⟩
  | error reason =>
    simp only [empty, large, if_false, canonicalized] at accepted
    cases accepted

theorem TerminalReceipt.check_ok {platform : Platform} {bytes : RawMessage}
    (version : 0 ≤ receipt.receiptVersion)
    (fits : receipt.canonicalResult.length ≤ maxResultBytes)
    (signed : receipt.evidenceReceipt.length ≤ maxEvidenceReceiptBytes)
    (canonicalized : canonicalizeJSON platform receipt.canonicalResult = .ok bytes) :
    receipt.check platform = .ok () := by
  simp only [TerminalReceipt.check, if_neg (Int.not_lt.mpr version), if_neg (Nat.not_lt.mpr fits),
    if_neg (Nat.not_lt.mpr signed), canonicalized]
  rfl

/-- What `RecordProviderObservation` has accepted, `Finalize` accepts in the receipt. -/
theorem committedReceipt_check {material : ObservationMaterial} {executionID : String}
    (observed : SQLiteStore.observationMaterial platform.toPlatform
      (buildObservation (evidencedResponse platform { response }) descriptor) = .ok material)
    (proven : Proven handle platform.toPlatform (committedReceipt platform executor request descriptor
      digest response signer executionID) row) :
    (committedReceipt platform executor request descriptor digest response signer executionID).check
      platform.toPlatform = .ok () := by
  obtain ⟨version, fits, bytes, canonicalized⟩ :=
    canonicalizeObservation_checks (SQLiteStore.observationMaterial_ok observed)
  have kept : (committedReceipt platform executor request descriptor digest response signer
      executionID).canonicalResult = (evidencedResponse platform { response }).result :=
    if_neg fun failed => by cases failed.2
  apply TerminalReceipt.check_ok version _ proven.1
  · rw [kept]
    exact canonicalized
  · rw [kept]
    exact fits

/-- Whatever a program of the executor does, the world evolves and the log grows. -/
theorem ensures_grows {environment : Environment} {faults : Bool} {replies : Replies}
    {platform : Platform} {Result : Type} (program : DispatchM Result) (world : World)
    (log : List Mark) :
    DispatchM.EnsuresIn environment faults replies platform handle (fun _ _ _ => True)
      (fun _ later log' => world.Evolves later ∧ log <+: log') program world log := by
  induction program generalizing world log with
  | done result =>
    exact fun later moved => ⟨environment.evolves moved, List.prefix_refl log⟩
  | issue operation next ih =>
    intro before moved
    refine ⟨trivial, fun reply after marks served => ?_⟩
    have anywhere : (system faults).Safe unguarded (fun _ later _ => before.Evolves later)
        (DispatchOp.implement platform handle operation) before [] :=
      Machine.safe_iff_follows.mpr
        ⟨fun _ _ _ _ _ => trivial, fun _ _ _ follows => follows_evolves follows⟩
    have here : (systemIn environment faults).Safe unguarded (fun _ later _ => before.Evolves later)
        (DispatchOp.implement platform handle operation) before [] :=
      Machine.Safe.restrict anywhere (fun served => served) environment.evolves
    have evolves := (Machine.safe_iff_follows.mp here).2 reply after marks served.1
    apply Machine.Safe.mono (ih reply after (log ++ marks)) (fun _ _ _ allowed => allowed)
    intro result later log' grown
    exact ⟨((environment.evolves moved).trans evolves).trans grown.1,
      (List.prefix_append log marks).trans grown.2⟩

/-- The run answers `SUCCEEDED`, and the row of its key is `COMMITTED`. -/
def Succeeds (request : Request) (answer : Response) (later : World) (_ : List Mark) : Prop :=
  answer.status = .succeeded ∧
    ∃ row, later.database.findByKey request.key = some row ∧ row.state = .committed

section

variable {stage : Stage}
  (running : Running (tending request.key)
    (Favourable platform request descriptor digest response signer) platform handle request
    descriptor digest lease stage world)
include running

theorem Favourable.stored (evolves : world.Evolves later)
    (found : later.find lease.executionID = some row) : row.identity.requestDigest = digest := by
  obtain ⟨acquired, under, progress⟩ := running
  obtain rfl := Favourable.acquired under
  exact (Relational.holds_of_found (progress.owned.evolves evolves) found).2

end

section

variable {material : ObservationMaterial}
  (decided : classifyPostDispatch (evidencedResponse platform { response }) descriptor =
    (.committed, evidencedResponse platform { response }))
  (found : world.find lease.executionID = some row)
  (proven : Proven handle platform.toPlatform (committedReceipt platform executor request descriptor
    digest response signer lease.executionID) row)
include decided found proven

theorem commits_finalizeReceipt
    (running : Running (tending request.key)
      (Favourable platform request descriptor digest response signer) platform handle request
      descriptor digest lease (.observed descriptor.adapterID material) world)
    (observed : SQLiteStore.observationMaterial platform.toPlatform
      (buildObservation (evidencedResponse platform { response }) descriptor) = .ok material) :
    DispatchM.EnsuresIn (tending request.key) false
      (Favourable platform request descriptor digest response signer) platform.toPlatform handle
      (fun _ _ _ => True) (Succeeds request)
      (DispatchExecutor.finalizeReceipt descriptor lease (evidencedResponse platform { response })
        (committedReceipt platform executor request descriptor digest response signer
          lease.executionID)) world log := by
  apply ensures_call (fun before reply later _ => ∀ record, reply = .ok record → ∃ seen row,
    (tending request.key).rely before seen ∧ (tending request.key).rely seen later ∧
      seen.find lease.executionID = some row ∧ record = row.scan)
  · exact fun _ _ => trivial
  · intro before _
    refine StoreM.EnsuresIn.mono (SQLiteStore.ensures_lookup ((tending request.key).rely before)
      (fun moved since => (tending request.key).trans since moved) (fun _ _ _ => trivial)
      ((tending request.key).refl before)) ?_
    exact fun _ _ _ looked => looked.2.2
  intro before looked after marks moved saw possible
  obtain ⟨record, rfl⟩ := possible
  obtain ⟨seen, seenRow, sinceBefore, sinceSeen, rowFound, rfl⟩ := saw record rfl
  have sinceWorld := (tending request.key).trans moved sinceBefore
  apply ensures_call (fun _ => EndsCommitted request.key)
  · exact fun _ _ => trivial
  · intro issuing further
    have sinceIssued := (tending request.key).trans sinceSeen further
    have evolves := ((tending request.key).trans sinceWorld sinceIssued).1
    have finalizes : Finalizes (tending request.key)
        (Favourable platform request descriptor digest response signer) platform handle request
        descriptor digest issuing { lease with generation := seenRow.lease.generation } .inFlight
        (committedReceipt platform executor request descriptor digest response signer
          lease.executionID) :=
      .call lease _ .committed material _ seen seenRow (running.moved sinceWorld) observed decided
        nofun rowFound sinceIssued
    obtain ⟨_, sameID, capability, principal, carried, current, inFlight, admits⟩ :=
      finalizes.inFlight
    have stored := Favourable.stored running evolves inFlight.byID.1
    apply ensures_finalize_commits inFlight admits rfl
      (checkIdentity_of_digest inFlight sameID capability principal (carried.trans stored.symm))
    refine ⟨committedReceipt_check observed proven, fun later row' afterwards rowFound' => ?_⟩
    have evolvesLater := evolves.trans afterwards.1
    obtain ⟨kept, keptFound, identity⟩ := World.Evolves.identity evolvesLater found
    have keyed := Database.findByKey_of_find keptFound
    rw [running.owned evolvesLater keptFound] at keyed
    obtain rfl := Option.some_inj.mp (keyed.symm.trans rowFound')
    exact proven.2 _ identity
  intro issuing reply later marks further ends _
  obtain ⟨rfl, committedRow, committedFound, committed⟩ := ends
  apply ensures_answer
  intro final afterwards
  obtain ⟨row', found', tended⟩ := afterwards.2.2 committedRow committedFound
  rcases (classifyPostDispatch_definite decided nofun).2 with ⟨_, status⟩ | ⟨never, _⟩
  · exact ⟨status, row', found', tended.state.trans committed⟩
  · cases never

theorem commits_settle
    (running : Running (tending request.key)
      (Favourable platform request descriptor digest response signer) platform handle request
      descriptor digest lease (.crossed descriptor.adapterID) world) :
    DispatchM.EnsuresIn (tending request.key) false
      (Favourable platform request descriptor digest response signer) platform.toPlatform handle
      (fun _ _ _ => True) (Succeeds request)
      (executor.settle platform request descriptor digest lease { response }) world log := by
  unfold DispatchExecutor.settle
  dsimp only
  apply ensures_call (fun before reply later _ => before.Evolves later ∧
    Ends (tending request.key) platform.toPlatform handle (.recordProviderObservation lease
      (buildObservation (evidencedResponse platform { response }) descriptor)) lease.executionID
      before reply later)
  · exact fun _ _ => trivial
  · intro recording _
    exact StoreM.EnsuresIn.and (StoreM.EnsuresIn.restrict ensures_evolves (tending request.key))
      (serve_ends rfl ((tending request.key).refl recording))
  intro recording recorded later marks moved ended possible
  obtain ⟨_, rfl⟩ := possible
  obtain ⟨evolves, ends⟩ := ended
  cases ends with
  | repeated _ _ repeats => exact repeats.elim
  | hit mutation updates hits =>
    obtain ⟨material, made, rfl⟩ := updates
    have observed := (running.moved moved).advanced (.observed _ material) hits
    obtain ⟨row', found', identity⟩ := World.Evolves.identity (moved.1.trans evolves) found
    rw [decided, if_neg nofun]
    dsimp only
    unfold DispatchExecutor.terminalize
    dsimp only
    split_ifs with signs
    · apply ensures_ask (fun _ _ => trivial)
      intro signed after since possible
      obtain rfl : signed = .ok _ := possible
      obtain ⟨row'', found'', identity'⟩ := World.Evolves.identity since.1 found'
      have sealed : committedReceipt platform executor request descriptor digest response signer
          lease.executionID = { DispatchExecutor.terminalReceipt platform request descriptor digest
            lease .committed (evidencedResponse platform { response }) with
            evidenceReceipt := signer (DispatchExecutor.signedBinding
              (DispatchExecutor.terminalReceipt platform request descriptor digest lease .committed
                (evidencedResponse platform { response }))) } :=
        congrArg (TerminalReceipt.mk _ _ _ _ _ _ _ _ _ _) (if_pos signs)
      dsimp only
      rw [← sealed]
      exact commits_finalizeReceipt decided found''
        (proven.of_identity (identity'.trans identity)) (observed.moved since) made
    · have unsigned : committedReceipt platform executor request descriptor digest response signer
          lease.executionID = DispatchExecutor.terminalReceipt platform request descriptor digest
            lease .committed (evidencedResponse platform { response }) :=
        congrArg (TerminalReceipt.mk _ _ _ _ _ _ _ _ _ _) (if_neg signs)
      rw [← unsigned]
      exact commits_finalizeReceipt decided found' (proven.of_identity identity) observed made

end

theorem delivers_settle
    (decided : classifyPostDispatch (evidencedResponse platform { response }) descriptor =
      (.committed, evidencedResponse platform { response }))
    (running : Running (tending request.key)
      (Favourable platform request descriptor digest response signer) platform handle request
      descriptor digest lease (.crossed descriptor.adapterID) world) :
    DispatchM.EnsuresIn (tending request.key) false
      (Favourable platform request descriptor digest response signer) platform.toPlatform handle
      (fun _ _ _ => True) (fun answer later log' => log <+: log' ∧
        Delivers platform handle executor request descriptor digest response signer answer later)
      (executor.settle platform request descriptor digest lease { response }) world log := by
  obtain ⟨row, found⟩ : ∃ row, world.find lease.executionID = some row := by
    obtain ⟨_, _, progress⟩ := running
    obtain ⟨row, found, _⟩ := progress.owned
    exact ⟨row, found⟩
  have kept : ∀ later, world.Evolves later → ∃ row', later.database.findByKey request.key = some row' ∧
      row'.identity = row.identity ∧ row'.executionID = lease.executionID ∧
      row'.identity.requestDigest = digest := by
    intro later evolves
    obtain ⟨row', found', identity⟩ := World.Evolves.identity evolves found
    have keyed := Database.findByKey_of_find found'
    rw [running.owned evolves found'] at keyed
    exact ⟨row', keyed, identity, (Table.find_some_iff.mp found').2,
      Favourable.stored running evolves found'⟩
  by_cases proven : Proven handle platform.toPlatform (committedReceipt platform executor request
      descriptor digest response signer lease.executionID) row
  · refine Machine.Safe.mono (Machine.Safe.and (ensures_grows _ world log)
      (commits_settle decided found proven running)) (fun _ _ _ allowed => allowed) ?_
    rintro answer later log' ⟨⟨evolves, grown⟩, status, row', found', committed⟩
    obtain ⟨_, keptFound, _, _, stored⟩ := kept later evolves
    cases keptFound.symm.trans found'
    exact ⟨grown, row', found', stored, fun _ => ⟨committed, status⟩⟩
  · refine Machine.Safe.mono (ensures_grows _ world log) (fun _ _ _ allowed => allowed) ?_
    rintro answer later log' ⟨evolves, grown⟩
    obtain ⟨row', found', identity, sameID, stored⟩ := kept later evolves
    refine ⟨grown, row', found', stored, fun provenLater => absurd ?_ proven⟩
    rw [sameID] at provenLater
    exact provenLater.of_identity identity.symm

end Favourable

/-- Whatever other callers do and however the driver fails, each digest a durable run places for its
execution equals the one stored in the acquired row exactly when the row stores the descriptor-bound
digest.  Among callers that leave the row alone, its `Finalize` carries the stored digest and
commits a proven `COMMITTED` receipt exactly when the row stores the descriptor-bound digest; and a run
that nothing goes wrong for calls its handler, and leaves the row `COMMITTED` if its receipt is
proven. -/
theorem placed_digests_match_iff (platform : DispatchPlatform) (handle : SQLiteStore)
    (executor : DispatchExecutor) (request : Request) (descriptor : ResolvedDescriptor)
    (digest : String) (world : World) (durable : descriptor.executionClass.isDurable = true)
    (bound : request.digest platform descriptor = .ok digest) :
    (∀ environment faults, DispatchM.EnsuresIn environment faults anyReply platform.toPlatform handle
      (Binds platform executor request digest) (fun _ _ _ => True)
      (executor.executeWithIdempotency platform request descriptor) world []) ∧
    DispatchM.EnsuresIn (tending request.key) false anyReply platform.toPlatform handle
      (Finalizable platform handle request digest) (fun _ _ _ => True)
      (executor.executeWithIdempotency platform request descriptor) world [] ∧
    ∀ response signer, executor.store ≠ none →
      checkCriticalProviderCapability platform executor descriptor = none →
      (classifyPostDispatch (evidencedResponse platform { response }) descriptor).1 = .committed →
      DispatchM.EnsuresIn (tending request.key) false
        (Favourable platform request descriptor digest response signer) platform.toPlatform handle
        (Finalizable platform handle request digest) (fun answer later log =>
          .invoked request descriptor ∈ log ∧
          Delivers platform handle executor request descriptor digest response signer answer later)
        (executor.executeWithIdempotency platform request descriptor) world [] := by
  have only : ∀ computed, request.digest platform descriptor = .ok computed → computed = digest :=
    fun computed computes => Except.ok.inj (computes.symm.trans bound)
  have run : ∀ environment faults,
      Run environment faults anyReply platform handle executor request descriptor digest
        (Settles platform.toPlatform request)
        (executor.executeWithIdempotency platform request descriptor) world [] :=
    fun environment faults => run_settles durable only
  refine ⟨?_, ?_, ?_⟩
  · intro environment faults
    exact Machine.Safe.mono (run environment faults) (fun _ _ _ executes => executes.binds)
      fun _ _ _ _ => trivial
  · exact Machine.Safe.mono (run (tending request.key) false)
      (fun _ _ _ executes => executes.finalizable) fun _ _ _ _ => trivial
  · intro response signer configured capable accepted
    have decided : classifyPostDispatch (evidencedResponse platform { response }) descriptor =
        (.committed, evidencedResponse platform { response }) :=
      Prod.ext accepted (classifyPostDispatch_definite (Prod.eta _).symm (accepted ▸ nofun)).1
    have delivers : Run (tending request.key) false
        (Favourable platform request descriptor digest response signer) platform handle executor
        request descriptor digest (fun answer later log => .invoked request descriptor ∈ log ∧
          Delivers platform handle executor request descriptor digest response signer answer later)
        (executor.executeWithIdempotency platform request descriptor) world [] := by
      apply run_executeWithIdempotency _ _ durable only
      · exact fun hindered _ => (Favourable.unhindered configured capable bound hindered).elim
      · intro lease outcome crossed log running dispatched
        obtain ⟨rfl, logged⟩ := Favourable.dispatched dispatched
        refine Machine.Safe.mono (Machine.Safe.and (run_settle running)
          (delivers_settle decided running)) (fun _ _ _ allowed => allowed) ?_
        rintro answer later log' ⟨_, grown, delivered⟩
        exact ⟨grown.subset logged, delivered⟩
    exact Machine.Safe.mono delivers (fun _ _ _ executes => executes.finalizable)
      fun _ _ _ delivered => delivered

def sampleFresh : SystemState :=
  (SystemState.initial 0).follow samplePlatform (Choice.execute .mutation 0 "token" "execution")

theorem sample_proven (row : Row) (class_ : row.identity.executionClass = "MUTATION") :
    Proven sampleHandle samplePlatform.toPlatform (committedReceipt samplePlatform sampleExecutor
      sampleRequest (sampleDescriptor .mutation) "bound" sampleResponse (fun _ => [])
        row.executionID) row := by
  refine ⟨Nat.zero_le _, fun other same => ?_⟩
  have plain : other.scan.executionClass ≠ "CRITICAL" := by
    rw [show other.scan.executionClass = row.identity.executionClass from
      congrArg Identity.executionClass same, class_]
    decide
  simp only [SQLiteStore.requireProof, validateTerminalTransition, if_neg plain]
  rfl

set_option maxRecDepth 16384 in
/-- A run for a key without a row is bound to its row's digest; its receipt is proven, and the row is
`COMMITTED`. -/
theorem placed_digests_match_iff_sample :
    (sampleDescriptor .mutation).executionClass.isDurable = true ∧
    sampleRequest.digest samplePlatform (sampleDescriptor .mutation) = .ok "bound" ∧
    DispatchM.EnsuresIn (tending sampleRequest.key) false
      (Favourable samplePlatform sampleRequest (sampleDescriptor .mutation) "bound" sampleResponse
        fun _ => []) samplePlatform.toPlatform sampleHandle
      (Finalizable samplePlatform sampleHandle sampleRequest "bound") (fun answer later log =>
        .invoked sampleRequest (sampleDescriptor .mutation) ∈ log ∧
        Delivers samplePlatform sampleHandle sampleExecutor sampleRequest (sampleDescriptor .mutation)
          "bound" sampleResponse (fun _ => []) answer later)
      (sampleExecutor.executeWithIdempotency samplePlatform sampleRequest
        (sampleDescriptor .mutation)) (SystemState.initial 0).world [] ∧
    ∃ row, sampleFresh.world.database.findByKey sampleKey = some row ∧ row.state = .committed ∧
      row.identity.requestDigest = "bound" ∧
      Proven sampleHandle samplePlatform.toPlatform (committedReceipt samplePlatform sampleExecutor
        sampleRequest (sampleDescriptor .mutation) "bound" sampleResponse (fun _ => [])
        row.executionID) row := by
  refine ⟨rfl, rfl, ?_, _, rfl, rfl, rfl, sample_proven _ rfl⟩
  exact (placed_digests_match_iff samplePlatform sampleHandle sampleExecutor sampleRequest
    (sampleDescriptor .mutation) "bound" (SystemState.initial 0).world rfl rfl).2.2 sampleResponse
    (fun _ => []) nofun rfl rfl

def sampleLegacy : SystemState :=
  (SystemState.initial 0).follow samplePlatform
    (Choice.complete (sampleAcquire "legacy") 0 "token" "execution" ++
      Choice.complete (.store sampleHandle (.abandonPreDispatch sampleLease)) 1 "" "" ++
      Choice.execute .mutation 2 "other" "another")

set_option maxRecDepth 16384 in
/-- The retry acquires the row under its legacy digest, the handler succeeds, nobody interferes, and
`Finalize` refuses the receipt because it carries the descriptor-bound digest. -/
theorem legacy_row_is_not_committed :
    Reachable samplePlatform false (fun _ => True) sampleLegacy ∧
    (sampleLegacy.world.database.findByKey sampleKey).map
      (fun row => (row.state, row.identity.requestDigest)) = some (.unknown, "legacy") ∧
    (sampleLegacy.threads[2]?).map (fun thread => (thread.log.length, thread.program)) =
      some (2, .done (.response (unknownResponse
        ("failed to finalize execution after dispatch: receipt identity mismatch: receipt " ++
          "request_digest bound != row request_digest legacy (provider observation persisted)")
        "provider" "run"))) :=
  ⟨follow_reachable samplePlatform false _ 0, rfl, rfl⟩

end Crabedence
