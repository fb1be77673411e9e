import Crabedence.Dispatch.Pipeline

/-!
# The running system

Any number of callers, each a store method call on some handle or a run of the executor, over one
database.  A scheduler interleaves their transactions with arbitrary advances of the clock; a caller
that is never scheduled again has crashed.
-/

namespace Crabedence

open Resumption

/-- A caller: one method call on a handle, or one `ExecuteWithIdempotency`. -/
inductive Call : Type 1 where
  | store (handle : SQLiteStore) {Result : Type} (call : EffectStore Result)
  | execute (handle : SQLiteStore) (executor : DispatchExecutor) (request : Request)
      (descriptor : ResolvedDescriptor)

def Call.handle : Call → SQLiteStore
  | .store handle _ => handle
  | .execute handle _ _ _ => handle

/-- What a caller gets back. -/
inductive Outcome where
  | acquired (reply : Except StoreError AcquireResult)
  | written (reply : Except StoreError Unit)
  | record (reply : Except StoreError Record)
  | records (reply : Except StoreError (List Record))
  | count (reply : Except StoreError Nat)
  | backlog (reply : Except StoreError (Nat × Option Int))
  | events (reply : Except StoreError (List EffectEvent))
  | observations (reply : Except StoreError (List ObservationRecord))
  | epoch (reply : Except StoreError Int)
  | flag (reply : Except StoreError Bool)
  | response (response : Response)

def EffectStore.outcome {Result : Type} (call : EffectStore Result)
    (reply : Except StoreError Result) : Outcome :=
  match call with
  | .acquireWithAuthority .. => .acquired reply
  | .scrubStaleRecoveryLocators _ => .count reply
  | .claimUnknownBatch .. | .claimExpiredBatch .. | .listUnknown | .listExpiredLeases
  | .listStuck => .records reply
  | .lookup _ | .lookupByKey _ => .record reply
  | .reconciliationBacklog => .backlog reply
  | .listEffectEvents _ => .events reply
  | .listProviderObservations _ => .observations reply
  | .advanceClusterEpoch .. => .epoch reply
  | .clusterRecoveryRequired => .flag reply
  | .beginExecution _ | .markInFlight .. | .renewLease .. | .abandonPreDispatch _ | .finalize ..
  | .recordProviderObservation .. | .enterRecovery .. | .enterRecoveryWithObservation ..
  | .resolveRecovery .. | .recoverExpiredPreDispatch .. | .releaseReconcileClaim ..
  | .suspendReconciliation .. | .renewReconcileClaim .. | .completeClusterRecovery .. =>
    .written reply

def DispatchExecutor.run (platform : DispatchPlatform) (executor : DispatchExecutor)
    (handle : SQLiteStore) (request : Request) (descriptor : ResolvedDescriptor) :
    Program Operation Response :=
  (executor.executeWithIdempotency platform request descriptor).interpret
    (DispatchOp.implement platform.toPlatform handle)

def Call.program (platform : DispatchPlatform) : Call → Program Operation Outcome
  | .store handle call =>
    (handle.serve platform.toPlatform call).run.bind fun reply => .done (call.outcome reply)
  | .execute handle executor request descriptor =>
    (executor.run platform handle request descriptor).bind fun response =>
      .done (.response response)

def World.Drift (before after : World) : Prop :=
  after.database = before.database ∧ before.now ≤ after.now

theorem World.Drift.evolves {before after : World} (drift : before.Drift after) :
    before.Evolves after := by
  obtain ⟨sameDatabase, forward⟩ := drift
  have moved : after = { before with now := after.now } := by
    cases after
    simp_all
  rw [moved]
  exact .single (.tick forward)

/-- The system in which the calls that satisfy `admitted` may be made. -/
def scheduler (platform : DispatchPlatform) (faults : Bool) (admitted : Call → Prop) :
    Scheduler Operation World Call Outcome Mark where
  machine := system faults
  drift := World.Drift
  programs := Call.program platform
  admitted := admitted
  drift_relied := World.Drift.evolves
  serve_relied served := served.1.evolves

abbrev SystemState := Pool Operation World Call Outcome Mark

def SystemState.initial (now : Int) : SystemState where
  world := { database := Database.initial now, now }
  threads := []

def Reachable (platform : DispatchPlatform) (faults : Bool) (admitted : Call → Prop)
    (state : SystemState) : Prop :=
  ∃ start, Pool.Reaches (scheduler platform faults admitted) (SystemState.initial start) state

variable {platform : DispatchPlatform} {faults : Bool} {admitted : Call → Prop}
  {state : SystemState}

theorem step_world {next : SystemState}
    (step : Pool.Step (scheduler platform faults admitted) state next) :
    next.world = state.world ∨ state.world.Step next.world := by
  cases step with
  | drift moved =>
    obtain ⟨sameDatabase, forward⟩ := moved
    right
    have ticked : ∀ later : World, later.database = state.world.database →
        later = { state.world with now := later.now } := by
      rintro ⟨database, now⟩ rfl
      rfl
    rw [ticked _ sameDatabase]
    exact .tick forward
  | spawn call admitted => exact .inl rfl
  | run scheduled served => exact served.1.step

theorem reaches_evolves {later : SystemState}
    (reaches : Pool.Reaches (scheduler platform faults admitted) state later) :
    state.world.Evolves later.world :=
  Pool.Reaches.relied reaches

section Schedule

/-- Fixed answers of the host, for following one schedule. -/
structure HostReplies where
  leaseToken : String
  executionID : String
  handler : HandlerReply := .outlived ""
  signature : Except String RawMessage := .error "no signer"

variable (replies : HostReplies)

def HostReplies.answer {Reply : Type} : Host Reply → Reply
  | .generateLeaseToken => .ok replies.leaseToken
  | .generateExecutionID => .ok replies.executionID
  | .currentPID => 1
  | .deadlineExpired _ => false
  | .acquireGate _ => .ok ()
  | .prepareRecovery _ _ => .ok none
  | .executeHandler _ _ _ => replies.handler
  | .sign _ => replies.signature

/-- One choice of a schedule: let time pass, start a call, or serve the next operation of a
caller without a fault. -/
inductive Choice : Type 1 where
  | wait (milliseconds : Nat)
  | start (call : Call)
  | serve (index : Nat) (replies : HostReplies)

def HostReplies.serve {Reply : Type} :
    Operation Reply → World → Reply × World
  | .sql epoch transaction, world =>
    (.ok (transaction.exec epoch world.now world.database).1, world.commit epoch transaction)
  | .host request, world => (replies.answer request, world)

def SystemState.choose (platform : DispatchPlatform) (state : SystemState) : Choice → SystemState
  | .wait milliseconds =>
    { state with world := { state.world with now := state.world.now + milliseconds } }
  | .start call =>
    { state with threads := state.threads ++ [⟨call, call.program platform, []⟩] }
  | .serve index replies =>
    match state.threads[index]? with
    | some ⟨call, .issue operation next, log⟩ =>
      let answer := replies.serve operation state.world
      ⟨answer.2, state.threads.set index
        ⟨call, next answer.1, log ++ operation.marks answer.1⟩⟩
    | _ => state

def SystemState.follow (platform : DispatchPlatform) (state : SystemState)
    (schedule : List Choice) : SystemState :=
  schedule.foldl (SystemState.choose platform) state

variable {Reply : Type}

theorem HostReplies.serves (faults : Bool) (operation : Operation Reply) (world : World) :
    Serves faults operation world (replies.serve operation world).1
      (replies.serve operation world).2 := by
  cases operation with
  | sql epoch transaction => exact .committed
  | host request => exact ⟨rfl, fun _ => by cases request <;> first | exact ⟨_, rfl⟩ | trivial⟩

theorem serve_step {index : Nat}
    {call : Call} {operation : Operation Reply} {next : Reply → Program Operation Outcome}
    {log : List Mark} (scheduled : state.threads[index]? = some ⟨call, .issue operation next, log⟩) :
    Pool.Step (scheduler platform faults admitted) state
      (state.choose platform (.serve index replies)) := by
  simp only [SystemState.choose, scheduled]
  exact .run scheduled ⟨replies.serves faults operation state.world, rfl⟩

theorem choose_step (platform : DispatchPlatform) (faults : Bool) (state : SystemState)
    (choice : Choice) (admits : ∀ call, choice = .start call → admitted call) :
    Pool.Step (scheduler platform faults admitted) state (state.choose platform choice) := by
  have still : Pool.Step (scheduler platform faults admitted) state state :=
    .drift ⟨rfl, Int.le_refl _⟩
  cases choice with
  | wait milliseconds =>
    have forward : state.world.now ≤ state.world.now + (milliseconds : Int) := by omega
    exact .drift ⟨rfl, forward⟩
  | start call => exact .spawn call (admits call rfl)
  | serve index replies =>
    cases scheduled : state.threads[index]? with
    | none =>
      simp only [SystemState.choose, scheduled]
      exact still
    | some thread =>
      obtain ⟨call, program, log⟩ := thread
      cases program with
      | done outcome =>
        simp only [SystemState.choose, scheduled]
        exact still
      | issue operation next => exact serve_step replies scheduled

def SystemState.trace (platform : DispatchPlatform) (state : SystemState) :
    List Choice → List SystemState
  | [] => []
  | choice :: rest =>
    state.choose platform choice :: (state.choose platform choice).trace platform rest

theorem trace_isChain (platform : DispatchPlatform) (faults : Bool) (schedule : List Choice)
    (state : SystemState) : (state :: state.trace platform schedule).IsChain
      (Pool.Step (scheduler platform faults fun _ => True)) := by
  induction schedule generalizing state with
  | nil => exact .singleton state
  | cons choice rest ih =>
    exact .cons_cons (choose_step platform faults state choice fun _ _ => trivial) (ih _)

theorem follow_mem_trace (platform : DispatchPlatform) (schedule : List Choice)
    (state : SystemState) :
    state.follow platform schedule ∈ state :: state.trace platform schedule := by
  induction schedule generalizing state with
  | nil => exact List.mem_cons_self
  | cons choice rest ih => exact List.mem_cons_of_mem state (ih (state.choose platform choice))

theorem follow_reaches_admitted (platform : DispatchPlatform) (faults : Bool)
    (schedule : List Choice) (state : SystemState)
    (admits : ∀ call, Choice.start call ∈ schedule → admitted call) :
    Pool.Reaches (scheduler platform faults admitted) state (state.follow platform schedule) := by
  induction schedule generalizing state with
  | nil => exact .refl
  | cons choice rest ih =>
    have first := choose_step platform faults state choice fun call same =>
      admits call (same ▸ List.mem_cons_self)
    exact .head first (ih _ fun call member => admits call (List.mem_cons_of_mem _ member))

theorem follow_reaches (platform : DispatchPlatform) (faults : Bool) (schedule : List Choice)
    (state : SystemState) : Pool.Reaches (scheduler platform faults fun _ => True) state
      (state.follow platform schedule) :=
  follow_reaches_admitted platform faults schedule state fun _ _ => trivial

theorem follow_reachable (platform : DispatchPlatform) (faults : Bool) (schedule : List Choice)
    (start : Int) : Reachable platform faults (fun _ => True)
      ((SystemState.initial start).follow platform schedule) :=
  ⟨start, follow_reaches platform faults schedule _⟩

/-- A platform whose functions are the simplest the schedules below need. -/
def samplePlatform : DispatchPlatform where
  sha256 _ := "0000000000000000000000000000000000000000000000000000000000000000"
  ed25519Verify _ _ _ := true
  base64Decode _ := none
  parsesRFC3339Nano _ := true
  quote text := text
  hasDuplicateKeys _ := .ok false
  decodeReceiptV3 _ := .error "invalid evidence receipt"
  canonicalize raw := .ok raw
  marshalTerminalPayload payload := payload.canonicalResult
  forbiddenLocatorField _ := ""
  computeDigest input := .ok (if input.descriptorDigest = "" then "legacy" else "bound")
  marshalLocator _ := .ok [123, 125]
  marshalMap _ := [123, 125]

def sampleHandle : SQLiteStore where
  epoch := 1
  leaseConfig := defaultLeaseConfig
  trustedSigners := []
  verifier := none
  locatorRedactor := none

def sampleKey : RequestKey := ⟨"principal", "capability", "key"⟩

def Choice.complete (call : Call) (index : Nat) (leaseToken executionID : String) : List Choice :=
  .start call :: List.replicate 8 (.serve index { leaseToken, executionID })

/-- `AcquireWithAuthority` of the sample key for one second. -/
def sampleAcquire (digest : String) : Call :=
  .store sampleHandle (.acquireWithAuthority sampleKey digest ⟨"", 0, ""⟩ "MUTATION" second)

def sampleLease : Lease := ⟨"execution", "token", 1⟩

def sampleCrossing : List Choice :=
  Choice.complete (sampleAcquire "digest") 0 "token" "execution" ++
  Choice.complete (.store sampleHandle (.beginExecution sampleLease)) 1 "" "" ++
  Choice.complete (.store sampleHandle (.markInFlight sampleLease "provider" [])) 2 "" ""

def sampleReceipt : TerminalReceipt where
  executionID := "execution"
  capability := "capability"
  principal := "principal"
  requestDigest := "digest"
  terminalStatus := .committed
  canonicalResult := [49]
  providerID := "provider"
  providerRunID := "run"
  evidenceDigest := ""
  receiptVersion := 0
  evidenceReceipt := []

/-- The sample key finalised as `COMMITTED`. -/
def sampleCommit : List Choice :=
  sampleCrossing ++
    Choice.complete (.store sampleHandle (.finalize sampleLease .inFlight sampleReceipt)) 3 "" ""

def sampleExecutor : DispatchExecutor where
  store := some defaultLeaseConfig
  capabilities _ := some ⟨true, true⟩
  preparesRecovery := false
  hasSigner := false
  providerExecution := "1m0s"

def sampleRequest : Request where
  capability := "capability"
  arguments := [123, 125]
  authority := ⟨"principal", "", "", 0, ""⟩
  idempotencyKey := "key"
  deadline := ""

def sampleDescriptor (executionClass : ExecutionClass) : ResolvedDescriptor where
  id := "capability"
  descriptorVersion := 1
  descriptorDigest := .ok "descriptor"
  executionClass := executionClass
  assuranceProfile := ""
  executionRoute := ""
  adapterID := "provider"

def sampleResponse : Response :=
  { status := .succeeded, result := [49], execution := some ⟨"provider", "run"⟩ }

def sampleReplies (leaseToken executionID : String) : HostReplies where
  leaseToken := leaseToken
  executionID := executionID
  handler := .answered sampleResponse

def Choice.execute (executionClass : ExecutionClass) (index : Nat) (leaseToken executionID : String) :
    List Choice :=
  .start (.execute sampleHandle sampleExecutor sampleRequest (sampleDescriptor executionClass)) ::
    List.replicate 24 (.serve index (sampleReplies leaseToken executionID))

end Schedule

end Crabedence
