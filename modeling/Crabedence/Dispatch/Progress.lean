import Crabedence.Dispatch.Reasoning

/-!
# The course of an execution

What every run of `ExecuteWithIdempotency` for a `MUTATION` or `CRITICAL` request does, whatever the
environment does in between.  `Progress` is the history of the run's own statements that hit its row,
`Executes` says at which point of that history, and with which data, the run makes each of its
requests, and `Settles` says what its answer rests on.

The course up to the handler is followed once, for any postcondition: `Hindered` lists what may end a
run before its handler is called, and what comes after the handler is a premise.
-/

namespace Crabedence

open Resumption StoreM DispatchM

/-- How far a run has brought its execution. -/
inductive Stage where
  | acquired
  | begun
  | crossed (providerID : String)
  | observed (providerID : String) (material : ObservationMaterial)

/-- The statements by which a run advances its execution. -/
inductive StageStep (lease : Lease) : Stage → Mutation → Stage → Prop where
  | begun : StageStep lease .acquired (.beginExecution lease) .begun
  | crossed (providerID : String) (persisted : RawMessage) :
      StageStep lease .begun (.markInFlight lease providerID persisted) (.crossed providerID)
  | observed (providerID : String) (material : ObservationMaterial) :
      StageStep lease (.crossed providerID) (.recordProviderObservation lease material)
        (.observed providerID material)

theorem StageStep.target {lease : Lease} {stage next : Stage} {mutation : Mutation}
    (advances : StageStep lease stage mutation next) : mutation.target = lease.executionID := by
  cases advances <;> rfl

/-- The run acquired the lease for the key under the digest and brought the execution to the stage;
between its own statements the environment moved. -/
inductive Progress (environment : Environment) (handle : SQLiteStore) (key : RequestKey)
    (digest : String) (lease : Lease) : Stage → World → Prop where
  | acquired {before after world : World} {result : AcquireResult}
      (decided : Acquisition handle key digest before after result)
      (granted : result.acquired = true) (same : lease = result.lease)
      (moved : environment.rely after world) :
      Progress environment handle key digest lease .acquired world
  | advanced {stage next : Stage} {mutation : Mutation} {start world : World}
      (earlier : Progress environment handle key digest lease stage start)
      (advances : StageStep lease stage mutation next)
      (hit : Hit environment handle mutation start world) :
      Progress environment handle key digest lease next world

variable {lease : Lease} {stage : Stage} {world later start : World}

section Progress

variable {environment : Environment} {handle : SQLiteStore} {key : RequestKey} {digest : String}
  {mutation : Mutation}

theorem Hit.moved (hit : Hit environment handle mutation start world)
    (moved : environment.rely world later) : Hit environment handle mutation start later := by
  obtain ⟨before, row, since, found, allowed, current, further⟩ := hit
  exact ⟨before, row, since, found, allowed, current, environment.trans further moved⟩

theorem Hit.evolves (hit : Hit environment handle mutation start world) : start.Evolves world := by
  obtain ⟨before, row, since, _, _, _, further⟩ := hit
  exact (environment.evolves since).trans (.head (.commit _ _) (environment.evolves further))

theorem Progress.moved (progress : Progress environment handle key digest lease stage world)
    (moved : environment.rely world later) :
    Progress environment handle key digest lease stage later := by
  cases progress with
  | acquired decided granted same since =>
    exact .acquired decided granted same (environment.trans since moved)
  | advanced earlier advances hit => exact .advanced earlier advances (hit.moved moved)

def Owned (key : RequestKey) (digest : String) (id : String) (world : World) : Prop :=
  ∃ row, world.find id = some row ∧ row.requestKey = key ∧ row.identity.requestDigest = digest

theorem Owned.evolves {id : String} (owned : Owned key digest id world)
    (evolves : world.Evolves later) : Owned key digest id later := by
  obtain ⟨row, found, sameKey, sameDigest⟩ := owned
  obtain ⟨row', found', identity⟩ := evolves.identity found
  refine ⟨row', found', ?_, ?_⟩
  · unfold Row.requestKey
    rw [identity]
    exact sameKey
  · rw [identity]
    exact sameDigest

theorem Acquisition.owned {before after : World} {result : AcquireResult}
    (decided : Acquisition handle key digest before after result)
    (granted : result.acquired = true) : Owned key digest result.lease.executionID after := by
  cases decided with
  | inserted request sameKey sameDigest admitted =>
    rcases before.database.insertRequest_cases with ⟨_, never⟩ | ⟨_, _, _, _, _, finds, _⟩
    · exact (never _ admitted).elim
    · exact ⟨request.row handle.epoch before.now,
        (finds request.executionID).trans (if_pos rfl), sameKey, sameDigest⟩
  | unleased seen row duration owner token found precedes sameKey sameDigest allowed current
  | reclaimed seen row duration owner token found precedes sameKey sameDigest allowed current =>
    have owned : Owned key digest seen.executionID before := ⟨row, found, sameKey, sameDigest⟩
    exact owned.evolves (.single (.commit _ _))
  | expired | replayed | unresolved | conflicting | held => cases granted

theorem Progress.owned (progress : Progress environment handle key digest lease stage world) :
    Owned key digest lease.executionID world := by
  induction progress with
  | acquired decided granted same moved =>
    rw [same]
    exact (decided.owned granted).evolves (environment.evolves moved)
  | advanced earlier advances hit ih => exact ih.evolves hit.evolves

end Progress

/-- The digest `ExecuteWithIdempotency` binds a request to. -/
def Request.digest (platform : DispatchPlatform) (request : Request)
    (descriptor : ResolvedDescriptor) : Except String String := do
  boundDigest platform request descriptor (← descriptor.descriptorDigest)

section Definitions

variable (environment : Environment) (replies : Replies) (platform : DispatchPlatform)
  (handle : SQLiteStore) (executor : DispatchExecutor) (request : Request)
  (descriptor : ResolvedDescriptor) (digest : String)

/-- The reply may be given to an acquisition of the request's key under the digest. -/
def Acquirable (acquired : String) (reply : Except StoreError AcquireResult) : Prop :=
  ∃ authority executionClass leaseDuration, replies (.store (.acquireWithAuthority request.key
    acquired authority executionClass leaseDuration)) reply

/-- The digests a run may acquire its execution under: the descriptor-bound one and, on the retry
after a conflict, the legacy one. -/
def AcquiredUnder (acquired : String) : Prop :=
  acquired = digest ∨ legacyDigest platform request descriptor = .ok acquired ∧ ∃ result,
    Acquirable replies request digest (.ok result) ∧ result.kind = .idempotencyConflict

/-- The run brought the execution to the stage, having acquired it under the descriptor-bound digest or
on the retry under the legacy one. -/
def Running (lease : Lease) (stage : Stage) (world : World) : Prop :=
  ∃ acquired, AcquiredUnder replies platform request descriptor digest acquired ∧
    Progress environment handle request.key acquired lease stage world

/-- The `Finalize` call of a run: the observation of the definitive response it finalises was
accepted, and the generation it presents was read from the row. -/
inductive Finalizes (world : World) : Lease → State → TerminalReceipt → Prop where
  | call (lease : Lease) (response : Response) (state : State) (material : ObservationMaterial)
      (evidenceReceipt : RawMessage) (seen : World) (row : Row)
      (running : Running environment replies platform handle request descriptor digest lease
        (.observed descriptor.adapterID material) seen)
      (observed : SQLiteStore.observationMaterial platform.toPlatform
        (buildObservation response descriptor) = .ok material)
      (decided : classifyPostDispatch response descriptor = (state, response))
      (definite : state ≠ .unknown)
      (found : seen.find lease.executionID = some row) (moved : environment.rely seen world) :
      Finalizes world { lease with generation := row.lease.generation } .inFlight
        { DispatchExecutor.terminalReceipt platform request descriptor digest lease state response
          with evidenceReceipt }

/-- Where in its course, and with which data, a run makes its requests. -/
def Executes : Machine.Guard DispatchOp World Mark
  | _, .host (.prepareRecovery _ input), world, _ => ∃ lease,
      Running environment replies platform handle request descriptor digest lease .begun world ∧
      input = DispatchExecutor.locatorInput request descriptor digest lease.executionID
  | _, .host (.executeHandler asked resolved _), world, log => asked = request ∧
      resolved = descriptor ∧ ∃ lease, log = [.crossed lease.executionID] ∧
      Running environment replies platform handle request descriptor digest lease
        (.crossed descriptor.adapterID) world
  | _, .host (.sign binding), world, _ => ∃ lease material,
      Running environment replies platform handle request descriptor digest lease
        (.observed descriptor.adapterID material) world ∧
      binding.executionID = lease.executionID ∧ binding.requestDigest = digest
  | _, .store (.markInFlight lease _ raw), world, _ =>
    Running environment replies platform handle request descriptor digest lease .begun world ∧
    ∃ locator, platform.marshalLocator locator = .ok raw ∧ (executor.preparesRecovery = true ∨
      locator = DispatchExecutor.genericRecoveryLocator request descriptor digest
        lease.executionID)
  | _, .store (.finalize fenced expectedState receipt), world, _ =>
    Finalizes environment replies platform handle request descriptor digest world fenced expectedState
      receipt
  | _, _, _, _ => True

/-- A locator that `MarkInFlight` can be called with. -/
def Storable (locator : RecoveryLocator) : Prop :=
  ∃ raw, platform.marshalLocator locator = .ok raw ∧ raw.length ≤ maxRecoveryLocatorBytes

/-- An acquisition may have granted an execution with this identifier. -/
def Grantable (executionID : String) : Prop :=
  ∃ acquired result, Acquirable replies request acquired (.ok result) ∧ result.acquired = true ∧
    result.record.executionID = executionID

/-- What the preparation of a locator for the execution may have come to. -/
inductive Prepares (executionID : String) : Except String RecoveryLocator → Prop where
  | failed (input : RecoveryLocatorInput) (reason : String)
      (possible : replies (.host (.prepareRecovery descriptor.adapterID input)) (.error reason)) :
      Prepares executionID (.error reason)
  | generic : Prepares executionID
      (.ok (DispatchExecutor.genericRecoveryLocator request descriptor digest executionID))
  | adapter (input : RecoveryLocatorInput) (locator : RecoveryLocator)
      (routes : executor.preparesRecovery = true)
      (possible : replies (.host (.prepareRecovery descriptor.adapterID input))
        (.ok (some locator))) : Prepares executionID (.ok locator)

/-- What may end a run before its handler is called. -/
inductive Hindered : Prop where
  | unconfigured (none : executor.store = none)
  | incapable (response : Response)
      (refused : checkCriticalProviderCapability platform executor descriptor = some response)
  | undigested (fails : request.digest platform descriptor ≠ .ok digest)
  | unacquired (acquired : String) (error : StoreError)
      (possible : Acquirable replies request acquired (.error error))
  | ungranted (acquired : String) (result : AcquireResult)
      (possible : Acquirable replies request acquired (.ok result))
      (denied : result.acquired = false)
  | expired (possible : replies (.host (.deadlineExpired request.deadline)) true)
  | closed (reason : String)
      (possible : replies (.host (.acquireGate descriptor.adapterID)) (.error reason))
  | unbegun (lease : Lease) (error : StoreError)
      (possible : replies (.store (.beginExecution lease)) (.error error))
  | unprepared (input : RecoveryLocatorInput) (reason : String)
      (possible : replies (.host (.prepareRecovery descriptor.adapterID input)) (.error reason))
  | unstorable (executionID : String) (locator : RecoveryLocator)
      (granted : Grantable replies request executionID)
      (prepared : Prepares replies executor request descriptor digest executionID (.ok locator))
      (unstorable : ¬ Storable platform locator)
  | uncrossed (lease : Lease) (raw : RawMessage) (error : StoreError)
      (possible : replies (.store (.markInFlight lease descriptor.adapterID raw)) (.error error))

/-- What the dispatch of a run that crossed the boundary may have come to. -/
inductive Dispatched (log : List Mark) : DispatchOutcome → Prop where
  | late (possible : replies (.host (.deadlineExpired request.deadline)) true) :
      Dispatched log { response := deadlinePassedResponse request, provableNoEffect := true }
  | answered (externalToken : String) (response : Response)
      (possible : replies (.host (.executeHandler request descriptor externalToken))
        (.answered response)) (logged : .invoked request descriptor ∈ log) :
      Dispatched log { response }
  | outlived (externalToken : String) (cause : String)
      (possible : replies (.host (.executeHandler request descriptor externalToken))
        (.outlived cause)) :
      Dispatched log { response := providerCeilingResponse executor descriptor cause }

end Definitions

def Mark.isInvocation : Mark → Bool
  | .invoked .. => true
  | .crossed _ => false

def Uninvoked (log : List Mark) : Prop := ∀ mark ∈ log, mark.isInvocation = false

theorem uninvoked_nil : Uninvoked [] := List.forall_mem_nil _

/-- The row was terminated with the receipt, or is terminal and stores the receipt's digest. -/
inductive Row.Settled (platform : Platform) (receipt : TerminalReceipt) (row : Row) : Prop where
  | written (final : row.state.isDurablyFinal = true) (state : row.state = receipt.terminalStatus)
      (result : row.result = nullableBytes receipt.canonicalResult)
  | repeated (final : row.state.isDurablyFinal = true)
      (digested : terminalReceiptDigest platform (receipt.bindTo row.executionID row.scan) =
        .ok row.scan.terminalReceiptDigest)

variable {platform : Platform} {receipt : TerminalReceipt} {row : Row}

theorem Row.Settled.final (settled : row.Settled platform receipt) :
    row.state.isDurablyFinal = true := by
  cases settled <;> assumption

theorem Row.Settled.frozen {after : Row} (settled : row.Settled platform receipt)
    (frozen : Frozen row after) : after.Settled platform receipt := by
  cases settled with
  | written final state result =>
    exact .written (frozen.state ▸ final) (frozen.state.trans state) (frozen.result.trans result)
  | repeated final digested =>
    apply Row.Settled.repeated (frozen.state ▸ final)
    have bound : receipt.bindTo after.executionID after.scan =
        receipt.bindTo row.executionID row.scan := by
      unfold TerminalReceipt.bindTo Row.scan Row.executionID
      rw [frozen.identity]
    have stored : after.scan.terminalReceiptDigest = row.scan.terminalReceiptDigest := by
      unfold Row.scan
      rw [frozen.terminal]
    rw [bound, stored]
    exact digested

/-- What the answer of a run rests on that ended before its handler was called. -/
inductive Spared (request : Request) (response : Response) (world : World) (log : List Mark) :
    Prop where
  | unclaimed (uninvoked : Uninvoked log) (status : response.status ≠ .succeeded)
  | replayed (uninvoked : Uninvoked log) (row : Row)
      (found : world.database.findByKey request.key = some row)
      (final : row.state.isDurablyFinal = true) (status : response.status = stateToStatus row.state)
      (result : response.result = row.scan.result)

/-- What the answer of a run rests on. -/
inductive Settles (platform : Platform) (request : Request) (response : Response) (world : World)
    (log : List Mark) : Prop where
  | spared (spared : Spared request response world log)
  | undecided (status : response.status = .unknown)
  | finalized (receipt : TerminalReceipt) (row : Row)
      (found : world.database.findByKey request.key = some row)
      (settled : row.Settled platform receipt)
      (status : response.status = stateToStatus receipt.terminalStatus)
      (result : receipt.terminalStatus = .committed → receipt.canonicalResult = response.result)

theorem Request.exists_digest (platform : DispatchPlatform) (request : Request)
    (descriptor : ResolvedDescriptor) :
    ∃ digest, ∀ computed, request.digest platform descriptor = .ok computed → computed = digest := by
  cases computes : request.digest platform descriptor with
  | error reason => exact ⟨"", fun _ same => by cases same⟩
  | ok digest => exact ⟨digest, fun _ same => (Except.ok.inj same).symm⟩

section Walk

variable {environment : Environment} {faults : Bool} {replies : Replies}
  {platform : DispatchPlatform} {handle : SQLiteStore} {executor : DispatchExecutor}
  {request : Request} {descriptor : ResolvedDescriptor} {digest : String} {log : List Mark}

theorem Running.moved
    (running : Running environment replies platform handle request descriptor digest lease stage world)
    (moved : environment.rely world later) :
    Running environment replies platform handle request descriptor digest lease stage later := by
  obtain ⟨acquired, admitted, progress⟩ := running
  exact ⟨acquired, admitted, progress.moved moved⟩

theorem Running.owned
    (running : Running environment replies platform handle request descriptor digest lease stage world)
    (evolves : world.Evolves later) (found : later.find lease.executionID = some row) :
    row.requestKey = request.key := by
  obtain ⟨acquired, _, progress⟩ := running
  exact (Relational.holds_of_found (progress.owned.evolves evolves) found).1

theorem Running.advanced {next : Stage} {mutation : Mutation}
    (running : Running environment replies platform handle request descriptor digest lease stage start)
    (advances : StageStep lease stage mutation next)
    (hit : Hit environment handle mutation start world) :
    Running environment replies platform handle request descriptor digest lease next world := by
  obtain ⟨acquired, admitted, progress⟩ := running
  exact ⟨acquired, admitted, .advanced progress advances hit⟩

/-- What a run ensures. -/
abbrev Run (environment : Environment) (faults : Bool) (replies : Replies)
    (platform : DispatchPlatform) (handle : SQLiteStore) (executor : DispatchExecutor)
    (request : Request) (descriptor : ResolvedDescriptor) (digest : String) {Result : Type}
    (post : Result → World → List Mark → Prop) (program : DispatchM Result) (world : World)
    (log : List Mark) : Prop :=
  DispatchM.EnsuresIn environment faults replies platform.toPlatform handle
    (Executes environment replies platform handle executor request descriptor digest) post program world log

variable {Result : Type} {post : Result → World → List Mark → Prop} {executionID : String}
  {response : Response} {state : State} {material : ObservationMaterial} {result : AcquireResult}
  {leaseDuration : Duration}

theorem run_call {Other : Type} {call : EffectStore Other}
    {next : Except StoreError Other → DispatchM Result} (quiet : call.crosses = false)
    (allowed : ∀ before, environment.rely world before →
      Executes environment replies platform handle executor request descriptor digest (.store call) before
        log) (continues : ∀ reply after, replies (.store call) reply →
      Run environment faults replies platform handle executor request descriptor digest post (next reply)
        after log) : Run environment faults replies platform handle executor request descriptor digest post
      (callStore call >>= next) world log := by
  apply ensures_call (fun _ _ _ log' => log' = []) allowed
  · exact fun before _ => serve_unmarked quiet
  · intro before reply after marks _ unmarked possible
    rw [unmarked, List.append_nil]
    exact continues reply after possible

theorem run_enterRecoveryRounds {observation : ProviderObservation} (attempts : Nat)
    (lastError : String) (world : World) :
    Run environment faults replies platform handle executor request descriptor digest
      (fun _ _ log' => log' = log)
      (DispatchExecutor.enterRecoveryRounds executionID observation lastError attempts) world log := by
  induction attempts generalizing lastError world with
  | zero => exact ensures_answer fun _ _ => rfl
  | succ attempts ih =>
    refine run_call rfl (fun _ _ => trivial) ?_
    intro looked found _
    cases looked with
    | error reason => exact ensures_answer fun _ _ => rfl
    | ok record =>
      dsimp only
      split_ifs
      · refine run_call rfl (fun _ _ => trivial) ?_
        intro entered after _
        cases entered with
        | ok _ => exact ensures_answer fun _ _ => rfl
        | error reason =>
          dsimp only
          split_ifs
          · exact ih reason.text after
          · exact ensures_answer fun _ _ => rfl
      · refine run_call rfl (fun _ _ => trivial) ?_
        intro recorded after _
        cases recorded <;> exact ensures_answer fun _ _ => rfl
      · exact ensures_answer fun _ _ => rfl
      · exact ensures_answer fun _ _ => rfl

theorem run_recovered {answer : Except String Unit → Response}
    (status : ∀ entered, (answer entered).status = .unknown) :
    Run environment faults replies platform handle executor request descriptor digest
      (Settles platform.toPlatform request) (do
        let entered ← DispatchExecutor.enterRecovery executionID response descriptor
        return answer entered) world log := by
  apply ensures_then (run_enterRecoveryRounds 3 "<nil>" world)
  intro entered after log' _
  exact ensures_answer fun _ _ => .undecided (status entered)

/-- What an accepted `Finalize` leaves behind. -/
theorem Ends.settled {fenced : Lease} {expectedState : State}
    (ends : Ends environment platform.toPlatform handle
      (.finalize fenced expectedState receipt) fenced.executionID start (.ok ()) world) :
    ∃ row, world.find fenced.executionID = some row ∧ row.Settled platform.toPlatform receipt := by
  cases ends with
  | repeated row found repeats => exact ⟨row, found, .repeated repeats.1 repeats.2⟩
  | hit mutation updates hits =>
    obtain ⟨existing, version, write, final, legal, bound, _, rfl⟩ := updates
    obtain ⟨before, row, _, found, allowed, current, further⟩ := hits
    have stored := World.commit_hit found allowed current
    obtain ⟨row', found', frozen⟩ := (environment.evolves further).frozen stored final
    refine ⟨row', found', Row.Settled.frozen ?_ frozen⟩
    apply Row.Settled.written final
    · show write.receipt.terminalStatus = receipt.terminalStatus
      rw [bound]
      rfl
    · show nullableBytes write.receipt.canonicalResult = nullableBytes receipt.canonicalResult
      rw [bound]
      rfl

/-- A provider that cannot prove a `CRITICAL` effect is never reported as a success. -/
theorem checkCriticalProviderCapability_refuses
    (refused : checkCriticalProviderCapability platform executor descriptor = some response) :
    response.status ≠ .succeeded := by
  unfold checkCriticalProviderCapability at refused
  split_ifs at refused
  cases declared : executor.capabilities descriptor.adapterID with
  | none =>
    rw [declared] at refused
    cases refused
    nofun
  | some capabilities =>
    rw [declared] at refused
    dsimp only at refused
    split_ifs at refused
    cases refused
    nofun

theorem classifyPostDispatch_definite {classified : Response}
    (decided : classifyPostDispatch response descriptor = (state, classified))
    (definite : state ≠ .unknown) :
    classified = response ∧ (state = .committed ∧ response.status = .succeeded ∨
      state = .failed ∧ response.status = .failed) := by
  unfold classifyPostDispatch at decided
  have undecided {other : Response} (same : ((.unknown, other) : State × Response) =
      (state, classified)) : False := definite (Prod.mk.inj same).1.symm
  by_cases critical : descriptor.executionClass = .critical ∧ response.status = .succeeded
  · rw [if_pos critical] at decided
    cases evidence : response.evidence with
    | none =>
      rw [evidence] at decided
      exact (undecided decided).elim
    | some reference =>
      simp only [evidence] at decided
      split_ifs at decided
      iterate 4 exact (undecided decided).elim
      obtain ⟨rfl, rfl⟩ := Prod.mk.inj decided
      exact ⟨rfl, .inl ⟨rfl, critical.2⟩⟩
  · rw [if_neg critical] at decided
    cases status : response.status with
    | succeeded =>
      rw [status] at decided
      obtain ⟨rfl, rfl⟩ := Prod.mk.inj decided
      exact ⟨rfl, .inl ⟨rfl, rfl⟩⟩
    | failed =>
      simp only [status] at decided
      split_ifs at decided
      · obtain ⟨rfl, rfl⟩ := Prod.mk.inj decided
        exact ⟨rfl, .inr ⟨rfl, rfl⟩⟩
      · exact (undecided decided).elim
    | denied | unknown | inFlight | other =>
      rw [status] at decided
      exact (undecided decided).elim

section

variable (running : Running environment replies platform handle request descriptor digest lease (.observed
    descriptor.adapterID material) world)
  (observed : SQLiteStore.observationMaterial platform.toPlatform (buildObservation response
    descriptor) = .ok material)
  (decided : classifyPostDispatch response descriptor = (state, response))
  (definite : state ≠ .unknown)
include running observed decided definite

/-- The fenced `Finalize`. -/
theorem run_finalizeReceipt {evidenceReceipt : RawMessage} :
    Run environment faults replies platform handle executor request descriptor digest
      (Settles platform.toPlatform request)
      (DispatchExecutor.finalizeReceipt descriptor lease response
        { DispatchExecutor.terminalReceipt platform request descriptor digest lease state response
          with evidenceReceipt }) world log := by
  apply ensures_call (fun before reply later log' => log' = [] ∧ environment.rely before later ∧
    ∀ record, reply = .ok record → ∃ seen row, environment.rely before seen ∧
      environment.rely seen later ∧ seen.find lease.executionID = some row ∧ record = row.scan)
  · exact fun _ _ => trivial
  · exact fun before _ => SQLiteStore.ensures_lookup (environment.rely before)
      (fun moved since => environment.trans since moved) (fun _ _ _ => trivial)
      (environment.refl before)
  intro before looked found marks moved looking _
  obtain ⟨rfl, _, saw⟩ := looking
  rw [List.append_nil]
  cases looked with
  | error reason => exact ensures_answer fun _ _ => .undecided rfl
  | ok record =>
    obtain ⟨seen, row, sinceBefore, sinceSeen, rowFound, rfl⟩ := saw record rfl
    have runningSeen := running.moved (environment.trans moved sinceBefore)
    apply ensures_call (fun before reply later log' => (log' = [] ∧ before.Evolves later) ∧
      Ends environment platform.toPlatform handle (.finalize
        { lease with generation := row.lease.generation } .inFlight
        { DispatchExecutor.terminalReceipt platform request descriptor digest lease state response
          with evidenceReceipt }) lease.executionID before reply later)
    · intro issuing further
      exact .call lease response state material evidenceReceipt seen row runningSeen observed
        decided definite rowFound (environment.trans sinceSeen further)
    · intro issuing _
      exact StoreM.EnsuresIn.and (StoreM.EnsuresIn.and (serve_unmarked rfl)
        (StoreM.EnsuresIn.restrict ensures_evolves environment))
        (serve_ends rfl (environment.refl issuing))
    intro issuing reply later marks further finalized _
    obtain ⟨⟨rfl, evolves⟩, ends⟩ := finalized
    rw [List.append_nil]
    cases reply with
    | error reason => exact run_recovered fun _ => rfl
    | ok _ =>
      obtain ⟨settledRow, settledFound, settled⟩ := ends.settled
      have sinceIssued := (environment.evolves (environment.trans sinceSeen further)).trans evolves
      apply ensures_answer
      intro final afterwards
      obtain ⟨finalRow, finalFound, frozen⟩ :=
        (environment.evolves afterwards).frozen settledFound settled.final
      have owned := runningSeen.owned (sinceIssued.trans (environment.evolves afterwards)) finalFound
      have definitive := (classifyPostDispatch_definite decided definite).2
      apply Settles.finalized _ finalRow (owned ▸ Database.findByKey_of_find finalFound)
        (settled.frozen frozen)
      · rcases definitive with ⟨rfl, status⟩ | ⟨rfl, status⟩ <;> exact status
      · intro committed
        have undenied : ¬ (response.result.length = 0 ∧ state = .failed) := by
          intro failed
          rw [show state = .committed from committed] at failed
          cases failed.2
        exact if_neg undenied

theorem run_terminalize : Run environment faults replies platform handle executor request descriptor digest
      (Settles platform.toPlatform request)
      (executor.terminalize platform request descriptor digest lease state response) world log := by
  unfold DispatchExecutor.terminalize
  split_ifs with signs
  · apply ensures_ask
    · exact fun asking moved => ⟨lease, material, running.moved moved, rfl, rfl⟩
    intro signed after moved _
    rw [show (Operation.host (.sign _)).marks signed = [] from rfl, List.append_nil]
    cases signed with
    | ok evidenceReceipt =>
      exact run_finalizeReceipt (running.moved moved) observed decided definite
    | error reason => exact run_recovered fun _ => rfl
  · have unsigned : DispatchExecutor.terminalReceipt platform request descriptor digest lease state
        response = { DispatchExecutor.terminalReceipt platform request descriptor digest lease state
          response with evidenceReceipt := [] } := rfl
    rw [unsigned]
    exact run_finalizeReceipt running observed decided definite

end

section

variable (running : Running environment replies platform handle request descriptor digest lease (.crossed
    descriptor.adapterID) world)
include running

theorem run_settle {outcome : DispatchOutcome} :
    Run environment faults replies platform handle executor request descriptor digest
      (Settles platform.toPlatform request)
      (executor.settle platform request descriptor digest lease outcome) world log := by
  unfold DispatchExecutor.settle
  dsimp only
  apply ensures_call (fun before reply later log' => log' = [] ∧
    Ends environment platform.toPlatform handle (.recordProviderObservation lease
      (buildObservation (evidencedResponse platform outcome) descriptor)) lease.executionID before
      reply later)
  · exact fun _ _ => trivial
  · intro recording _
    exact StoreM.EnsuresIn.and (serve_unmarked rfl) (serve_ends rfl (environment.refl recording))
  intro recording recorded later marks moved ended _
  obtain ⟨rfl, ends⟩ := ended
  rw [List.append_nil]
  split_ifs with undecided
  · exact run_recovered fun _ => rfl
  · cases ends with
    | failed error => exact run_recovered fun _ => rfl
    | repeated row found repeats => exact repeats.elim
    | hit mutation updates hits =>
      obtain ⟨material, made, rfl⟩ := updates
      have observed := (running.moved moved).advanced (.observed _ material) hits
      cases recorded with
      | error reason => exact run_recovered fun _ => rfl
      | ok _ =>
        have kept := (classifyPostDispatch_definite
          (Prod.eta (classifyPostDispatch (evidencedResponse platform outcome) descriptor)).symm
          undecided).1
        have decided : classifyPostDispatch (evidencedResponse platform outcome) descriptor =
            ((classifyPostDispatch (evidencedResponse platform outcome) descriptor).1,
              evidencedResponse platform outcome) := Prod.ext rfl kept
        rw [kept]
        exact run_terminalize observed made decided undecided

theorem run_invoke {externalToken : String} :
    Run environment faults replies platform handle executor request descriptor digest
      (fun outcome later log' => Running environment replies platform handle request descriptor digest
        lease (.crossed descriptor.adapterID) later ∧
          Dispatched replies executor request descriptor log' outcome)
      (executor.invoke request descriptor externalToken) world [.crossed lease.executionID] := by
  apply ensures_ask (fun _ _ => trivial)
  intro expired after moved late
  have unmarked : (Operation.host (.deadlineExpired request.deadline)).marks expired = [] := rfl
  rw [unmarked, List.append_nil]
  have runningAfter := running.moved moved
  cases expired with
  | true => exact ensures_answer fun _ further => ⟨runningAfter.moved further, .late late⟩
  | false =>
    apply ensures_ask
    · exact fun asking further => ⟨rfl, rfl, lease, rfl, runningAfter.moved further⟩
    intro reply answered further possible
    have runningAnswered := runningAfter.moved further
    cases reply with
    | answered response =>
      apply ensures_answer
      intro _ moved
      refine ⟨runningAnswered.moved moved, .answered externalToken response possible ?_⟩
      exact List.mem_append_right _ (List.mem_singleton.mpr rfl)
    | outlived cause =>
      apply ensures_answer
      intro _ moved
      exact ⟨runningAnswered.moved moved, .outlived externalToken cause possible⟩

end

theorem run_prepareRecoveryLocator (running : Running environment replies platform handle request
      descriptor digest lease .begun world) :
    Run environment faults replies platform handle executor request descriptor digest
      (fun prepared later log' => log' = log ∧
        Running environment replies platform handle request descriptor digest lease .begun later ∧
        Prepares replies executor request descriptor digest lease.executionID prepared)
      (executor.prepareRecoveryLocator request descriptor digest lease.executionID) world log := by
  unfold DispatchExecutor.prepareRecoveryLocator
  split_ifs with routes
  · apply ensures_ask
    · exact fun asking moved => ⟨lease, running.moved moved, rfl⟩
    intro reply after moved possible
    have unmarked : (Operation.host (.prepareRecovery descriptor.adapterID
        (DispatchExecutor.locatorInput request descriptor digest lease.executionID))).marks reply =
        [] := rfl
    rw [unmarked, List.append_nil]
    have runningAfter := running.moved moved
    rcases reply with reason | _ | locator
    · exact ensures_answer fun _ further => ⟨rfl, runningAfter.moved further, .failed _ _ possible⟩
    · exact ensures_answer fun _ further => ⟨rfl, runningAfter.moved further, .generic⟩
    · exact ensures_answer fun _ further =>
        ⟨rfl, runningAfter.moved further, .adapter _ _ routes possible⟩
  · exact ensures_answer fun _ moved => ⟨rfl, running.moved moved, .generic⟩

/-- The answer of an acquisition was decided under one of the digests a run may acquire under. -/
def Decided (environment : Environment) (replies : Replies) (platform : DispatchPlatform)
    (handle : SQLiteStore) (request : Request) (descriptor : ResolvedDescriptor) (digest : String)
    (result : AcquireResult) (world : World) : Prop :=
  ∃ acquired before after, AcquiredUnder replies platform request descriptor digest acquired ∧
    Acquisition handle request.key acquired before after result ∧ environment.rely after world

theorem Decided.moved
    (decided : Decided environment replies platform handle request descriptor digest result world)
    (moved : environment.rely world later) :
    Decided environment replies platform handle request descriptor digest result later := by
  obtain ⟨acquired, before, after, admitted, acquisition, since⟩ := decided
  exact ⟨acquired, before, after, admitted, acquisition, environment.trans since moved⟩

def Offers (environment : Environment) (replies : Replies) (platform : DispatchPlatform)
    (handle : SQLiteStore) (request : Request) (descriptor : ResolvedDescriptor) (digest : String)
    (reply : Except StoreError AcquireResult) (world : World) : Prop :=
  (∃ acquired, Acquirable replies request acquired reply) ∧
    ∀ result, reply = .ok result → result.kind = .idempotencyConflict ∨
      Decided environment replies platform handle request descriptor digest result world

theorem run_acquireWithAuthority {acquired : String} {authority : AuthorityBinding}
    {executionClass : String} {next : Except StoreError AcquireResult → DispatchM Result}
    {post : Result → World → List Mark → Prop}
    (admitted : AcquiredUnder replies platform request descriptor digest acquired)
    (continues : ∀ reply after, Acquirable replies request acquired reply →
      (∀ result, reply = .ok result →
        Decided environment replies platform handle request descriptor digest result after) →
      Run environment faults replies platform handle executor request descriptor digest post
        (next reply) after log) :
    Run environment faults replies platform handle executor request descriptor digest post
      (callStore (.acquireWithAuthority request.key acquired authority executionClass leaseDuration)
        >>= next) world log := by
  apply ensures_call (fun before =>
    Answers environment handle request.key acquired (environment.rely before) [])
  · exact fun _ _ => trivial
  · intro before _
    exact ensures_acquisition (fun moved since => environment.trans since moved)
      (fun _ _ _ => trivial) (environment.refl before)
  intro before reply after marks _ answers possible
  obtain ⟨rfl, decided⟩ := answers
  rw [List.append_nil]
  apply continues _ _ ⟨authority, executionClass, leaseDuration, possible⟩
  intro result same
  obtain ⟨deciding, left, _, acquisition, since⟩ := decided result same
  exact ⟨acquired, deciding, left, admitted, acquisition, since⟩

/-- The acquisition with its retry: a failed retry reports the conflict of the first attempt. -/
theorem run_acquire :
    Run environment faults replies platform handle executor request descriptor digest
      (fun reply later log' => log' = log ∧
        Offers environment replies platform handle request descriptor digest reply later)
      (DispatchExecutor.acquire platform request descriptor digest leaseDuration) world log := by
  apply run_acquireWithAuthority (.inl rfl)
  intro reply after possible decided
  cases reply with
  | error reason =>
    exact ensures_answer fun _ _ => ⟨rfl, ⟨digest, possible⟩, fun _ same => by cases same⟩
  | ok acquired =>
    have reported : Run environment faults replies platform handle executor request descriptor digest
        (fun reply later log' => log' = log ∧
          Offers environment replies platform handle request descriptor digest reply later)
        (pure (.ok acquired)) after log := by
      apply ensures_answer
      intro later moved
      refine ⟨rfl, ⟨digest, possible⟩, fun result same => .inr ?_⟩
      exact Except.ok.inj same ▸ (decided acquired rfl).moved moved
    dsimp only
    split_ifs with conflict
    · cases legacy : legacyDigest platform request descriptor with
      | error reason => exact reported
      | ok legacyDigest =>
        dsimp only
        split_ifs with same
        · apply run_acquireWithAuthority (.inr ⟨legacy, acquired, possible, conflict⟩)
          intro retried again possibleAgain decidedAgain
          cases retried with
          | ok result =>
            apply ensures_answer
            intro later moved
            refine ⟨rfl, ⟨legacyDigest, possibleAgain⟩, fun result' same => .inr ?_⟩
            exact Except.ok.inj same ▸ (decidedAgain result rfl).moved moved
          | error reason =>
            apply ensures_answer
            intro later moved
            refine ⟨rfl, ⟨digest, possible⟩, fun result same => .inl ?_⟩
            exact Except.ok.inj same ▸ conflict
        · exact reported
    · exact reported

theorem Decided.replayed
    (decided : Decided environment replies platform handle request descriptor digest result world)
    (replays : result.kind = .terminalReplay) :
    ∃ row, world.database.findByKey request.key = some row ∧ row.state.isDurablyFinal = true ∧
      result.state = row.state ∧ result.record.result = row.scan.result := by
  obtain ⟨acquired, before, after, _, acquisition, since⟩ := decided
  cases acquisition with
  | replayed row found sameDigest final =>
    obtain ⟨foundByID, sameKey⟩ := Database.find_of_findByKey found
    obtain ⟨row', found', frozen⟩ := (environment.evolves since).frozen foundByID final
    have keyed : row'.requestKey = request.key := by
      rw [← sameKey]
      unfold Row.requestKey
      rw [frozen.identity]
    refine ⟨row', keyed ▸ Database.findByKey_of_find found', frozen.state ▸ final,
      frozen.state.symm, ?_⟩
    unfold Row.scan
    rw [frozen.result]
  | inserted | unleased | reclaimed | expired | unresolved | conflicting | held => cases replays

theorem Decided.running
    (decided : Decided environment replies platform handle request descriptor digest result world)
    (granted : result.acquired = true) :
    Running environment replies platform handle request descriptor digest result.lease .acquired
      world := by
  obtain ⟨acquired, before, after, admitted, acquisition, since⟩ := decided
  exact ⟨acquired, admitted, .acquired acquisition granted rfl since⟩

section Course

variable {post : Response → World → List Mark → Prop}
  (spares : ∀ {response : Response} {world : World} {log : List Mark},
    Hindered replies platform executor request descriptor digest →
      Spared request response world log → post response world log)
include spares

theorem run_abandonWith (hindered : Hindered replies platform executor request descriptor digest)
    (uninvoked : Uninvoked log) (status : response.status ≠ .succeeded) :
    Run environment faults replies platform handle executor request descriptor digest post
      (DispatchExecutor.abandonWith lease response) world log := by
  refine run_call rfl (fun _ _ => trivial) ?_
  intro _ after _
  exact ensures_answer fun _ _ => spares hindered (.unclaimed uninvoked status)

variable (settles : ∀ {lease : Lease} {outcome : DispatchOutcome} {world : World}
  {log : List Mark}, Running environment replies platform handle request descriptor digest lease
    (.crossed descriptor.adapterID) world →
  Dispatched replies executor request descriptor log outcome →
  Run environment faults replies platform handle executor request descriptor digest post
    (executor.settle platform request descriptor digest lease outcome) world log)
include settles

theorem run_crossBoundary {locator : RecoveryLocator}
    (running : Running environment replies platform handle request descriptor digest lease .begun
      world) (granted : Grantable replies request lease.executionID)
    (prepared : Prepares replies executor request descriptor digest lease.executionID
      (.ok locator)) :
    Run environment faults replies platform handle executor request descriptor digest post
      (executor.crossBoundary platform request descriptor digest lease locator) world [] := by
  unfold DispatchExecutor.crossBoundary
  have routed : executor.preparesRecovery = true ∨
      locator = DispatchExecutor.genericRecoveryLocator request descriptor digest
        lease.executionID := by
    cases prepared with
    | generic => exact .inr rfl
    | adapter input _ routes _ => exact .inl routes
  cases marshalled : platform.marshalLocator locator with
  | error reason =>
    have unstorable : ¬ Storable platform locator := by
      rintro ⟨raw, made, _⟩
      cases marshalled.symm.trans made
    exact run_abandonWith spares (.unstorable _ _ granted prepared unstorable) uninvoked_nil nofun
  | ok raw =>
    dsimp only
    split_ifs with oversized
    · have unstorable : ¬ Storable platform locator := by
        rintro ⟨made, same, fits⟩
        cases marshalled.symm.trans same
        omega
      exact run_abandonWith spares (.unstorable _ _ granted prepared unstorable) uninvoked_nil nofun
    apply ensures_call (fun before reply later log' =>
      log' = [] ++ crossingOf lease.executionID reply ∧
      Ends environment platform.toPlatform handle (.markInFlight lease descriptor.adapterID raw)
        lease.executionID before reply later)
    · exact fun marking moved => ⟨running.moved moved, locator, marshalled, routed⟩
    · intro marking _
      exact StoreM.EnsuresIn.and serve_marked (serve_ends rfl (environment.refl marking))
    intro marking reply later marks moved ended possible
    obtain ⟨rfl, ends⟩ := ended
    cases reply with
    | error reason =>
      exact run_abandonWith spares (.uncrossed _ _ _ possible) uninvoked_nil nofun
    | ok _ =>
      have crossed : Running environment replies platform handle request descriptor digest lease
          (.crossed descriptor.adapterID) later := by
        cases ends with
        | repeated row found repeats => exact repeats.elim
        | hit mutation updates hits =>
          obtain ⟨persisted, rfl⟩ := updates
          exact (running.moved moved).advanced (.crossed _ persisted) hits
      apply ensures_then (run_invoke crossed)
      intro outcome answered log' dispatched
      exact settles dispatched.1 dispatched.2

/-- The run of an acquired execution. -/
theorem run_runAcquired (granted : Grantable replies request lease.executionID)
    (running : Running environment replies platform handle request descriptor digest lease .acquired
      world) :
    Run environment faults replies platform handle executor request descriptor digest post
      (executor.runAcquired platform request descriptor digest lease) world [] := by
  apply ensures_ask (fun _ _ => trivial)
  intro expired asked moved late
  cases expired with
  | true => exact run_abandonWith spares (.expired late) uninvoked_nil nofun
  | false =>
    apply ensures_ask (fun _ _ => trivial)
    intro gate gated further gates
    cases gate with
    | error reason => exact run_abandonWith spares (.closed _ gates) uninvoked_nil nofun
    | ok _ =>
      have runningGated := (running.moved moved).moved further
      apply ensures_call (fun before reply later log' => log' = [] ∧
        Ends environment platform.toPlatform handle (.beginExecution lease) lease.executionID
          before reply later)
      · exact fun _ _ => trivial
      · intro beginning _
        exact StoreM.EnsuresIn.and (serve_unmarked rfl)
          (serve_ends rfl (environment.refl beginning))
      intro beginning reply later marks since ended possible
      obtain ⟨rfl, ends⟩ := ended
      cases reply with
      | error reason => exact run_abandonWith spares (.unbegun _ _ possible) uninvoked_nil nofun
      | ok _ =>
        have begun : Running environment replies platform handle request descriptor digest lease
            .begun later := by
          cases ends with
          | repeated row found repeats => exact repeats.elim
          | hit mutation updates hits =>
            obtain rfl : mutation = .beginExecution lease := updates
            exact (runningGated.moved since).advanced .begun hits
        apply ensures_then (run_prepareRecoveryLocator begun)
        intro prepared after log' ended
        obtain ⟨rfl, runningAfter, prepares⟩ := ended
        cases prepared with
        | error reason =>
          cases prepares with
          | failed input _ fails =>
            exact run_abandonWith spares (.unprepared _ _ fails) uninvoked_nil nofun
        | ok locator => exact run_crossBoundary spares settles runningAfter granted prepares

theorem run_proceed {acquired : String} (possible : Acquirable replies request acquired (.ok result))
    (decided : result.kind = .idempotencyConflict ∨
      Decided environment replies platform handle request descriptor digest result world) :
    Run environment faults replies platform handle executor request descriptor digest post
      (executor.proceed platform request descriptor digest result) world [] := by
  have kept {kind : AcquireResultKind} (same : result.kind = kind)
      (other : kind ≠ .leaseAcquired ∧ kind ≠ .leaseReclaimed) :
      Hindered replies platform executor request descriptor digest := by
    apply Hindered.ungranted _ _ possible
    simp [AcquireResult.acquired, same, other]
  unfold DispatchExecutor.proceed
  split_ifs with conflict replays waits
  · exact ensures_answer fun _ _ => spares (kept conflict ⟨nofun, nofun⟩)
      (.unclaimed uninvoked_nil nofun)
  · apply ensures_answer
    intro later moved
    have decidedLater := (decided.resolve_left conflict).moved moved
    obtain ⟨row, found, final, state, stored⟩ := decidedLater.replayed replays
    exact spares (kept replays ⟨nofun, nofun⟩)
      (.replayed uninvoked_nil row found final (congrArg stateToStatus state) stored)
  · apply ensures_answer
    intro later _
    apply spares (.ungranted _ _ possible (by simpa using waits))
    apply Spared.unclaimed uninvoked_nil
    unfold DispatchExecutor.heldResponse
    split_ifs <;> nofun
  · have granted : result.acquired = true := by simpa using waits
    exact run_runAcquired spares settles ⟨acquired, result, possible, granted, rfl⟩
      ((decided.resolve_left conflict).running granted)

theorem run_executeDurably {leaseConfig : LeaseConfig} :
    Run environment faults replies platform handle executor request descriptor digest post
      (executor.executeDurably platform leaseConfig request descriptor digest) world [] := by
  apply ensures_then run_acquire
  intro reply after log' ended
  obtain ⟨rfl, ⟨acquired, possible⟩, decided⟩ := ended
  cases reply with
  | error reason =>
    exact ensures_answer fun _ _ => spares (.unacquired _ _ possible)
      (.unclaimed uninvoked_nil nofun)
  | ok result => exact run_proceed spares settles possible (decided result rfl)

/-- A run ends in `post` if it may end there before the handler and after it, and its requests are
made where and with what `Executes` says. -/
theorem run_executeWithIdempotency (durable : descriptor.executionClass.isDurable = true)
    (bound : ∀ computed, request.digest platform descriptor = .ok computed → computed = digest) :
    Run environment faults replies platform handle executor request descriptor digest post
      (executor.executeWithIdempotency platform request descriptor) world [] := by
  have effectful : ¬ (descriptor.executionClass = .pure ∨ descriptor.executionClass = .read) := by
    rintro (same | same) <;> rw [same] at durable <;> cases durable
  have early {answer : Response}
      (hindered : Hindered replies platform executor request descriptor digest)
      (status : answer.status ≠ .succeeded) :
      Run environment faults replies platform handle executor request descriptor digest post
        (pure answer) world [] :=
    ensures_answer fun _ _ => spares hindered (.unclaimed uninvoked_nil status)
  unfold DispatchExecutor.executeWithIdempotency
  rw [if_neg effectful]
  cases configured : executor.store with
  | none => exact early (.unconfigured configured) nofun
  | some leaseConfig =>
    cases refused : checkCriticalProviderCapability platform executor descriptor with
    | some denied =>
      exact early (.incapable denied refused) (checkCriticalProviderCapability_refuses refused)
    | none =>
      have computes : request.digest platform descriptor =
          descriptor.descriptorDigest.bind (boundDigest platform request descriptor) := rfl
      cases described : descriptor.descriptorDigest with
      | error reason =>
        rw [described] at computes
        exact early (.undigested fun same => by cases computes.symm.trans same) nofun
      | ok descriptorDigest =>
        rw [described] at computes
        dsimp only
        cases made : boundDigest platform request descriptor descriptorDigest with
        | error reason =>
          have fails := computes.trans made
          exact early (.undigested fun same => by cases fails.symm.trans same) nofun
        | ok computed =>
          rw [bound computed (computes.trans made)]
          exact run_executeDurably spares settles

end Course

/-- What a durable run answers rests on the row of its key. -/
theorem run_settles (durable : descriptor.executionClass.isDurable = true)
    (bound : ∀ computed, request.digest platform descriptor = .ok computed → computed = digest) :
    Run environment faults replies platform handle executor request descriptor digest
      (Settles platform.toPlatform request)
      (executor.executeWithIdempotency platform request descriptor) world [] :=
  run_executeWithIdempotency (fun _ spared => .spared spared) (fun running _ => run_settle running)
    durable bound

end Walk

end Crabedence
