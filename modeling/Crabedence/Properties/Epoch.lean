import Crabedence.Runs

/-!
# Cluster epochs

A handle's transactions carry the epoch the handle was admitted under, and every statement but the
contention note compares it with the stored one.  The stored epoch only ever grows, by one, in an
`AdvanceClusterEpoch` that expected it, and only a `CompleteClusterRecovery` that names the stored
epoch ends recovery mode.
-/

namespace Crabedence

open Resumption

/-- Requests, events and observations are the same. -/
structure Database.SameTables (before after : Database) : Prop where
  requests : after.requests = before.requests
  events : after.events = before.events
  observations : after.observations = before.observations

theorem Database.SameTables.refl (database : Database) : database.SameTables database :=
  ⟨rfl, rfl, rfl⟩

/-- A contention note is the only transaction that writes under a stale epoch, and it writes when
the row it names exists. -/
theorem Transaction.exec_stale {Reply : Type} {transaction : Transaction Reply} {epoch now : Int}
    {database : Database} (stale : database.cluster.epoch ≠ epoch)
    (unnoted : ∀ executionID, transaction.notes? = some executionID →
      database.find executionID = none) :
    database.SameTables (transaction.exec epoch now database).2 := by
  cases transaction with
  | insert request =>
    rcases database.insertRequest_cases with ⟨same, _⟩ | ⟨_, current, _⟩
    · rw [exec, same]
      exact .refl database
    · exact (stale current).elim
  | apply mutation =>
    have missed : (database.applyMutation epoch now mutation).1 = false := by
      rw [← Bool.not_eq_true, Database.applyMutation_hit_iff]
      rintro ⟨row, _, _, current⟩
      exact stale current
    rw [exec, Database.applyMutation_miss missed]
    exact .refl database
  | claim kind owner duration limit =>
    have unselected : database.requests.count
        (database.claimSelects epoch now kind limit) = 0 := by
      rw [Relational.Table.count_eq_zero_iff]
      intro row _
      simp [Database.claimSelects, stale]
    simp only [exec, Database.applyClaim, unselected, if_true]
    exact .refl database
  | scrubLocators retention =>
    refine ⟨?_, rfl, rfl⟩
    apply Relational.Table.update_eq_self Row.scrubLocator_keys
    intro row _
    simp [Database.scrubSelects, stale]
  | noteContention executionID eventType metadata =>
    have absent := unnoted executionID rfl
    simp only [exec, Database.insertEffectEvent, absent]
    exact .refl database
  | advanceEpoch expected reason =>
    simp only [exec, Database.advanceEpoch]
    split_ifs <;> exact ⟨rfl, rfl, rfl⟩
  | completeRecovery expected resolution =>
    simp only [exec, Database.completeRecovery]
    split_ifs <;> exact ⟨rfl, rfl, rfl⟩
  | _ => exact .refl database

theorem Transaction.exec_epoch {Reply : Type} (transaction : Transaction Reply) (epoch now : Int)
    (database : Database) :
    (transaction.exec epoch now database).2.cluster.epoch = database.cluster.epoch ∨
      ∃ expected, transaction.advances? = some expected ∧ database.cluster.epoch = expected := by
  have step : ClusterStep transaction now database.cluster
      (transaction.exec epoch now database).2.cluster := exec_cluster
  generalize (transaction.exec epoch now database).2.cluster = after at step
  cases step with
  | kept => exact .inl rfl
  | advanced expected reason issued current => exact .inr ⟨expected, issued, current⟩
  | completed expected resolution issued current => exact .inl rfl

section Runs

variable {platform : DispatchPlatform} {faults : Bool} {admitted : Call → Prop}

def Operation.Admitted (epoch : Int) : {Reply : Type} → Operation Reply → Prop
  | _, .sql own _ => own = epoch
  | _, .host _ => True

theorem call_admitted (call : Call) :
    (call.program platform).Emits (Operation.Admitted call.handle.epoch) := by
  apply call_program_emits
  · intro Result method
    apply Program.Emits.mono (serve_issues platform.toPlatform call.handle method)
    intro Reply operation within
    cases operation with
    | sql own transaction => exact within.1
    | host request => exact trivial
  · exact fun _ => trivial

variable (state next : SystemState)

def SystemState.epoch : Int := state.world.database.cluster.epoch

def Harmless : Prop :=
  ∀ (call : Call) (epoch : Int) (Reply : Type) (transaction : Transaction Reply),
    Commits state next call epoch transaction → call.handle.epoch < state.epoch →
    state.world.database.SameTables next.world.database

/-- No handle admitted before the stored epoch noted a contention about an existing row in this
step. -/
def Unnoted : Prop :=
  ∀ (call : Call) (epoch : Int) (executionID : String) (eventType : EventType)
    (metadata : String),
    Commits state next call epoch (.noteContention executionID eventType metadata) →
    call.handle.epoch < state.epoch → state.world.find executionID = none

theorem harmless_iff_unnoted {state : SystemState}
    (reachable : Reachable platform faults admitted state) (next : SystemState) :
    Harmless state next ↔ Unnoted state next := by
  constructor
  · intro harmless call epoch executionID eventType metadata commits stale
    have same := harmless call epoch Unit _ commits stale
    cases found : state.world.find executionID with
    | none => rfl
    | some row =>
      have events := same.events
      rw [commits.committed] at events
      have stored : state.world.database.find executionID = some row := found
      simp only [World.commit, Transaction.exec, Database.insertEffectEvent, stored] at events
      simp at events
  · intro unnoted call epoch Reply transaction commits stale
    obtain ⟨index, continue_, log, scheduled⟩ := commits.scheduled
    have own : epoch = call.handle.epoch := (Reachable.emits call_admitted reachable scheduled).1
    rw [commits.committed]
    apply Transaction.exec_stale
    · rw [own]
      exact (Int.ne_of_lt stale).symm
    · intro executionID notes
      cases transaction with
      | noteContention noted eventType metadata =>
        cases notes
        exact unnoted call epoch executionID eventType metadata commits stale
      | _ => cases notes

/-- The step committed an `AdvanceClusterEpoch` that expected the stored epoch. -/
def Advances : Prop :=
  ∃ (call : Call) (epoch expected : Int) (reason : String),
    Commits state next call epoch (.advanceEpoch expected reason) ∧ state.epoch = expected

theorem Advances.epoch {state next : SystemState} (advances : Advances state next) :
    next.epoch = state.epoch + 1 := by
  obtain ⟨call, epoch, expected, reason, commits, current⟩ := advances
  unfold SystemState.epoch at current ⊢
  rw [commits.committed]
  simp only [World.commit, Transaction.exec, Database.advanceEpoch, current, if_true]

def EpochStep : Prop :=
  (Advances state next ∧ next.epoch = state.epoch + 1) ∨
    (¬ Advances state next ∧ next.epoch = state.epoch)

def EpochLe (earlier later : SystemState) : Prop := earlier.epoch ≤ later.epoch

instance : Trans EpochLe EpochLe EpochLe := ⟨fun first second => Int.le_trans first second⟩

theorem EpochStep.le {state next : SystemState} (step : EpochStep state next) :
    EpochLe state next := by
  unfold EpochLe
  rcases step with ⟨_, grown⟩ | ⟨_, same⟩ <;> omega

theorem step_epoch {state next : SystemState}
    (step : Pool.Step (scheduler platform faults admitted) state next) : EpochStep state next := by
  have kept (same : next.epoch = state.epoch) : EpochStep state next := by
    refine .inr ⟨fun advances => ?_, same⟩
    have grown := advances.epoch
    omega
  rcases step_commits step with drift | ⟨call, epoch, Reply, transaction, commits⟩
  · exact kept (congrArg (·.cluster.epoch) drift.1)
  · rcases transaction.exec_epoch epoch state.world.now state.world.database with
      same | ⟨expected, advances, current⟩
    · refine kept ?_
      unfold SystemState.epoch
      rw [commits.committed]
      exact same
    · cases transaction with
      | advanceEpoch expected' reason =>
        cases advances
        have step : Advances state next := ⟨call, epoch, expected, reason, commits, current⟩
        exact .inl ⟨step, step.epoch⟩
      | _ => cases advances

/-- A `CompleteClusterRecovery` that names an earlier epoch leaves the cluster row alone. -/
def KeepsRecovery : Prop :=
  ∀ (call : Call) (epoch expected : Int) (resolution : String),
    Commits state next call epoch (.completeRecovery expected resolution) →
    expected < state.epoch → next.world.database.cluster = state.world.database.cluster

theorem keepsRecovery : KeepsRecovery state next := by
  intro call epoch expected resolution commits earlier
  have differs : state.world.database.cluster.epoch ≠ expected := (Int.ne_of_lt earlier).symm
  rw [commits.committed]
  simp only [World.commit, Transaction.exec, Database.completeRecovery, differs, if_false]

/-- Over every run: handles admitted before the stored epoch write nothing in any step exactly when
none of them notes a contention about an existing row; the stored epoch never decreases and grows by
one in each `AdvanceClusterEpoch` that succeeds and in no other step; and a
`CompleteClusterRecovery` naming an earlier epoch never ends recovery mode. -/
theorem epoch_fences_runs (platform : DispatchPlatform) (faults : Bool) (admitted : Call → Prop)
    (start : Int) (run : List SystemState)
    (steps : (SystemState.initial start :: run).IsChain
      (Pool.Step (scheduler platform faults admitted))) :
    ((SystemState.initial start :: run).IsChain Harmless ↔
      (SystemState.initial start :: run).IsChain Unnoted) ∧
    (SystemState.initial start :: run).IsChain EpochStep ∧
    (SystemState.initial start :: run).Pairwise EpochLe ∧
    (SystemState.initial start :: run).IsChain KeepsRecovery := by
  have epochs : (SystemState.initial start :: run).IsChain EpochStep :=
    steps.imp fun _ _ step => step_epoch step
  refine ⟨?_, epochs, ?_, steps.imp fun state next _ => keepsRecovery state next⟩
  · apply List.IsChain.iff_of_mem_imp
    intro state next member _
    exact harmless_iff_unnoted (run_reachable steps member) next
  · exact List.isChain_iff_pairwise.mp (epochs.imp fun _ _ step => step.le)

def sampleAdvance : Call := .store sampleHandle (.advanceClusterEpoch 1 "restore")

theorem unnoted_of_awaits {state next : SystemState}
    (quiet : state.awaits (fun transaction => transaction.notes?.isNone) = true) :
    Unnoted state next := by
  intro call epoch executionID eventType metadata commits
  cases commits.awaited quiet

def sampleFenced : List Choice :=
  Choice.complete (sampleAcquire "digest") 0 "token" "execution" ++
  Choice.complete sampleAdvance 1 "" "" ++
  Choice.complete (.store sampleHandle (.beginExecution sampleLease)) 2 "" ""

/-- A handle that holds the lease begins after the epoch was advanced: it is refused, and no step of
the run is harmful. -/
theorem epoch_fences_runs_advance :
    ∃ row detail, ((SystemState.initial 0).follow samplePlatform sampleFenced).world.find
        "execution" = some row ∧ row.state = .prepared ∧
      ((SystemState.initial 0).follow samplePlatform sampleFenced).threads[2]?.map (·.program) =
        some (.done (.written (.error (.lease .clusterEpochMismatch detail)))) ∧
      ((SystemState.initial 0).follow samplePlatform sampleFenced).epoch = 2 ∧
      (SystemState.initial 0 :: (SystemState.initial 0).trace samplePlatform sampleFenced).IsChain
        Harmless ∧
      (SystemState.initial 0 :: (SystemState.initial 0).trace samplePlatform sampleFenced).IsChain
        EpochStep := by
  have steps := trace_isChain samplePlatform false sampleFenced (SystemState.initial 0)
  have fenced := epoch_fences_runs samplePlatform false (fun _ => True) 0 _ steps
  exact ⟨_, _, rfl, rfl, rfl, rfl, fenced.1.mpr (trace_isChain_of unnoted_of_awaits (by rfl)),
    fenced.2.1⟩

def sampleContention : List Choice :=
  Choice.complete (sampleAcquire "digest") 0 "token" "execution" ++
  [.start (.store sampleHandle (.beginExecution ⟨"execution", "stale", 1⟩))] ++
  List.replicate 3 (.serve 1 { leaseToken := "", executionID := "" }) ++
  Choice.complete sampleAdvance 2 "" ""

/-- The note is committed under the old epoch and appends an event. -/
theorem stale_handle_appends_event :
    ∃ state next : SystemState, ∃ call : Call, ∃ metadata : String,
      Reachable samplePlatform false (fun _ => True) state ∧
      Pool.Step (scheduler samplePlatform false fun _ => True) state next ∧
      Commits state next call call.handle.epoch
        (.noteContention "execution" .leaseLost metadata) ∧
      call.handle.epoch < state.epoch ∧
      next.world.database.events.length = state.world.database.events.length + 1 :=
  ⟨(SystemState.initial 0).follow samplePlatform sampleContention,
    ((SystemState.initial 0).follow samplePlatform sampleContention).choose samplePlatform
      (.serve 1 { leaseToken := "", executionID := "" }),
    .store sampleHandle (.beginExecution ⟨"execution", "stale", 1⟩), _,
    follow_reachable samplePlatform false sampleContention 0, serve_step _ rfl,
    ⟨⟨1, _, _, rfl⟩, rfl⟩, by decide, rfl⟩

end Runs

end Crabedence
