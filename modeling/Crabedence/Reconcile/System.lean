import Crabedence.Footprint
import Crabedence.Reconcile.Worker

/-!
# Reconciliation workers in the running system

Cycles of any number of workers next to any number of other callers, over one database.  The logs
record the claims of `UNKNOWN` records reported to a caller and its resolver calls.
-/

namespace Crabedence

open Resumption

inductive ReconcileOp : Type → Type 1 where
  | base {Reply : Type} (operation : Operation Reply) : ReconcileOp Reply
  | resolve (record : Record) : ReconcileOp (Except String Recovery)

/-- A reported claim, with the attempt it was reported with, or a resolver call. -/
inductive Lookup where
  | claimed (executionID : String) (attempt : Int)
  | resolved (executionID : String)
  deriving DecidableEq, Repr

def claimMarks (records : List Record) : List Lookup :=
  records.map fun record => .claimed record.executionID record.reconcileAttempt

def ReconcileOp.marks : {Reply : Type} → ReconcileOp Reply → Reply → List Lookup
  | _, .base (.sql _ (.claim .unknown _ _ _)), .ok records => claimMarks records
  | _, .resolve record, _ => [.resolved record.executionID]
  | _, _, _ => []

def ReconcileOp.Serves (faults : Bool) : {Reply : Type} → ReconcileOp Reply → World → Reply →
    World → Prop
  | _, .base operation, before, reply, after => Crabedence.Serves faults operation before reply after
  | _, .resolve _, before, _, after => after = before

theorem ReconcileOp.Serves.evolves {faults : Bool} {Reply : Type} {operation : ReconcileOp Reply}
    {before after : World} {reply : Reply} (served : operation.Serves faults before reply after) :
    before.Evolves after := by
  cases operation with
  | base operation => exact Crabedence.Serves.evolves served
  | resolve record =>
    have same : after = before := served
    rw [same]

def reconciler (faults : Bool) : Machine ReconcileOp World Lookup where
  serve operation before reply after marks :=
    operation.Serves faults before reply after ∧ marks = operation.marks reply
  rely := World.Evolves
  rely_refl _ := .refl
  rely_trans := Relation.ReflTransGen.trans

def asReconciler {Result : Type} (program : Program Operation Result) :
    Program ReconcileOp Result :=
  program.interpret fun operation => .perform (.base operation)

def WorkerOp.implement (platform : Platform) (handle : SQLiteStore) {Reply : Type} :
    WorkerOp Reply → Program ReconcileOp Reply
  | .store call => asReconciler (handle.serve platform call).run
  | .resolve record => .perform (.resolve record)
  | .sign binding => .perform (.base (.host (.sign binding)))

/-- A participant: any other caller, or one cycle of a worker on a handle. -/
inductive Participant : Type 1 where
  | call (caller : Call)
  | cycle (handle : SQLiteStore) (worker : Worker)

inductive ParticipantOutcome where
  | call (outcome : Outcome)
  | cycle (reply : Except String Unit)

def Participant.program (platform : DispatchPlatform) :
    Participant → Program ReconcileOp ParticipantOutcome
  | .call caller => (asReconciler (caller.program platform)).bind fun outcome => .done (.call outcome)
  | .cycle handle worker =>
    ((worker.reconcileAllOnce platform.sha256).run.interpret
      (WorkerOp.implement platform.toPlatform handle)).bind fun reply => .done (.cycle reply)

def EffectStore.releases {Result : Type} : EffectStore Result → Bool
  | .releaseReconcileClaim .. => true
  | _ => false

/-- Workers with this attempt ceiling, and callers of anything but `ReleaseReconcileClaim`, which
nothing in the repository calls except the worker. -/
def Participant.Admitted (ceiling : Int) : Participant → Prop
  | .call (.store _ method) => method.releases = false
  | .call (.execute ..) => True
  | .cycle _ worker => worker.maxAttempts = ceiling

def reconcileScheduler (platform : DispatchPlatform) (faults : Bool) (ceiling : Int) :
    Scheduler ReconcileOp World Participant ParticipantOutcome Lookup where
  machine := reconciler faults
  drift := World.Drift
  programs := Participant.program platform
  admitted := Participant.Admitted ceiling
  drift_relied := World.Drift.evolves
  serve_relied served := served.1.evolves

abbrev ReconcileState := Pool ReconcileOp World Participant ParticipantOutcome Lookup

def ReconcileState.initial (now : Int) : ReconcileState where
  world := { database := Database.initial now, now }
  threads := []

section Schedule

/-- One choice of a schedule: let time pass, start a participant, or serve the next operation of one
without a fault. -/
inductive Move : Type 1 where
  | wait (milliseconds : Nat)
  | start (participant : Participant)
  | serve (index : Nat) (replies : HostReplies)

def HostReplies.serveReconciler (replies : HostReplies) {Reply : Type} :
    ReconcileOp Reply → World → Reply × World
  | .base operation, world => replies.serve operation world
  | .resolve _, world => (.error "provider unreachable", world)

variable (platform : DispatchPlatform) {ceiling : Int}

def ReconcileState.choose (state : ReconcileState) :
    Move → ReconcileState
  | .wait milliseconds =>
    { state with world := { state.world with now := state.world.now + milliseconds } }
  | .start participant =>
    { state with threads := state.threads ++ [⟨participant, participant.program platform, []⟩] }
  | .serve index replies =>
    match state.threads[index]? with
    | some ⟨participant, .issue operation next, log⟩ =>
      let answer := replies.serveReconciler operation state.world
      ⟨answer.2, state.threads.set index
        ⟨participant, next answer.1, log ++ operation.marks answer.1⟩⟩
    | _ => state

def ReconcileState.follow (state : ReconcileState) (schedule : List Move) : ReconcileState :=
  schedule.foldl (ReconcileState.choose platform) state

theorem ReconcileState.choose_step (faults : Bool) (state : ReconcileState)
    (move : Move) (admits : ∀ participant, move = .start participant → participant.Admitted ceiling) :
    Pool.Step (reconcileScheduler platform faults ceiling) state (state.choose platform move) := by
  have still : Pool.Step (reconcileScheduler platform faults ceiling) state state :=
    .drift ⟨rfl, Int.le_refl _⟩
  cases move with
  | wait milliseconds =>
    have forward : state.world.now ≤ state.world.now + (milliseconds : Int) := by omega
    exact .drift ⟨rfl, forward⟩
  | start participant => exact .spawn participant (admits participant rfl)
  | serve index replies =>
    cases scheduled : state.threads[index]? with
    | none =>
      simp only [choose, scheduled]
      exact still
    | some thread =>
      obtain ⟨participant, program, log⟩ := thread
      cases program with
      | done outcome =>
        simp only [choose, scheduled]
        exact still
      | issue operation next =>
        simp only [choose, scheduled]
        refine .run scheduled ⟨?_, rfl⟩
        cases operation with
        | base operation => exact replies.serves faults operation state.world
        | resolve record => rfl

theorem ReconcileState.follow_reaches (faults : Bool) (schedule : List Move)
    (state : ReconcileState)
    (admits : ∀ participant, Move.start participant ∈ schedule → participant.Admitted ceiling) :
    Pool.Reaches (reconcileScheduler platform faults ceiling) state
      (state.follow platform schedule) := by
  induction schedule generalizing state with
  | nil => exact .refl
  | cons move rest ih =>
    have first := choose_step platform faults state move fun participant same =>
      admits participant (same ▸ List.mem_cons_self)
    exact .head first (ih _ fun participant member =>
      admits participant (List.mem_cons_of_mem _ member))

def sampleWorker (ceiling : Int) : Worker where
  resolvers := []
  hasDefault := true
  workerID := "worker"
  batchSize := 1
  claimDuration := minute
  locatorRetention := 0
  hasSigner := false
  maxAttempts := ceiling

def Move.complete (participant : Participant) (index : Nat) (leaseToken executionID : String) :
    List Move :=
  .start participant :: List.replicate 8 (.serve index { leaseToken, executionID })

/-- The sample key crosses the dispatch boundary, its lease expires, and a first cycle moves it to
`UNKNOWN`. -/
def sampleCrashed (ceiling : Int) : List Move :=
  Move.complete (.call (sampleAcquire "digest")) 0 "token" "execution" ++
  Move.complete (.call (.store sampleHandle (.beginExecution sampleLease))) 1 "" "" ++
  Move.complete (.call (.store sampleHandle (.markInFlight sampleLease "provider" []))) 2 "" "" ++
  [.wait 2000] ++ Move.complete (.cycle sampleHandle (sampleWorker ceiling)) 3 "" ""

def sampleAttempted (ceiling : Int) : List Move :=
  sampleCrashed ceiling ++ .start (.cycle sampleHandle (sampleWorker ceiling)) ::
    List.replicate 3 (.serve 4 { leaseToken := "", executionID := "" })

end Schedule

end Crabedence
