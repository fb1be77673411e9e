import Crabedence.Footprint
import Mathlib.Data.List.Chain

/-!
# Runs

A run of the system is a chain of steps.  What one step can do to the database is said once: it
lets time pass, or it commits a transaction of some caller, and a row is then new, unchanged,
claimed, scrubbed, or hit by a single-row update.
-/

namespace Crabedence

open Relational Resumption

variable {platform : DispatchPlatform} {faults : Bool} {admitted : Call → Prop}
  {state next : SystemState} {call : Call} {row : Row}

theorem Reachable.emits {allowed : Call → ∀ {Reply : Type}, Operation Reply → Prop}
    (programs : ∀ call : Call, (call.program platform).Emits (allowed call))
    (reachable : Reachable platform faults admitted state) {index : Nat}
    {program : Program Operation Outcome} {log : List Mark}
    (scheduled : state.threads[index]? = some ⟨call, program, log⟩) :
    program.Emits (allowed call) := by
  obtain ⟨start, reaches⟩ := reachable
  obtain ⟨_, _, follows⟩ := Pool.Reaches.started reaches scheduled (Nat.zero_le index)
  exact follows.emits (programs call)

/-- The step from `state` to `next` committed this transaction of this caller. -/
structure Commits (state next : SystemState) (call : Call) (epoch : Int) {Reply : Type}
    (transaction : Transaction Reply) : Prop where
  scheduled : ∃ (index : Nat) (continue_ : Except String Reply → Program Operation Outcome)
    (log : List Mark), state.threads[index]? = some ⟨call, .issue (.sql epoch transaction) continue_, log⟩
  committed : next.world = state.world.commit epoch transaction

/-- The transaction each caller issues next passes a test. -/
def SystemState.awaits (state : SystemState)
    (test : {Reply : Type} → Transaction Reply → Bool) : Bool :=
  state.threads.all fun thread =>
    match thread.program with
    | .issue (.sql _ transaction) _ => test transaction
    | _ => true

theorem Commits.awaited {epoch : Int} {Reply : Type} {transaction : Transaction Reply}
    {test : {Reply : Type} → Transaction Reply → Bool}
    (commits : Commits state next call epoch transaction) (awaits : state.awaits test = true) :
    test transaction = true := by
  obtain ⟨index, continue_, log, scheduled⟩ := commits.scheduled
  exact List.all_eq_true.mp awaits _ (List.mem_of_getElem? scheduled)

theorem trace_isChain_of {schedule : List Choice} {relation : SystemState → SystemState → Prop}
    {test : SystemState → Bool} (passes : ∀ {state next}, test state = true → relation state next)
    (checked : (state :: state.trace platform schedule).all test = true) :
    (state :: state.trace platform schedule).IsChain relation :=
  (trace_isChain platform false schedule state).imp_of_mem_imp fun state _ member _ _ =>
    passes (List.all_eq_true.mp checked state member)

theorem step_commits (step : Pool.Step (scheduler platform faults admitted) state next) :
    state.world.Drift next.world ∨ ∃ (call : Call) (epoch : Int) (Reply : Type)
      (transaction : Transaction Reply), Commits state next call epoch transaction := by
  have still {world : World} (same : world = state.world) : state.world.Drift world :=
    same ▸ ⟨rfl, Int.le_refl _⟩
  cases step with
  | drift moved => exact .inl moved
  | spawn call admitted => exact .inl (still rfl)
  | @run index call Reply operation continue_ log marks reply after scheduled served =>
    obtain ⟨served, _⟩ := served
    cases operation with
    | host request => exact .inl (still served.1)
    | sql epoch transaction =>
      cases served with
      | refused faulty error => exact .inl (still rfl)
      | committed | unacknowledged faulty error =>
        exact .inr ⟨call, epoch, _, transaction, ⟨index, continue_, log, scheduled⟩, rfl⟩

theorem run_reachable {start : Int} {run : List SystemState}
    (steps : (SystemState.initial start :: run).IsChain
      (Pool.Step (scheduler platform faults admitted)))
    (member : state ∈ SystemState.initial start :: run) :
    Reachable platform faults admitted state := by
  have initially : Reachable platform faults admitted (SystemState.initial start) :=
    ⟨start, .refl⟩
  rcases List.mem_cons.mp member with rfl | later
  · exact initially
  · refine List.IsChain.cons_induction _ run steps ?_ initially state later
    rintro state next step ⟨from_, reaches⟩
    exact ⟨from_, reaches.tail step⟩

/-- The statement passes its guards on this row. -/
structure SystemState.Hits (state : SystemState) (epoch : Int) (mutation : Mutation) (row : Row) :
    Prop where
  found : state.world.find mutation.target = some row
  allowed : mutation.guard state.world.now state.world.database.cluster row = true
  current : state.world.database.cluster.epoch = epoch

theorem Commits.hit {epoch : Int} {mutation : Mutation}
    (commits : Commits state next call epoch (.apply mutation))
    (hits : state.Hits epoch mutation row) :
    next.world.find mutation.target = some (mutation.assign state.world.now row) := by
  rw [commits.committed]
  exact World.commit_hit hits.found hits.allowed hits.current

/-- What one step of the system can have done to a row it leaves behind. -/
inductive RowChange (state next : SystemState) (id : String) : Row → Prop where
  | fresh (request : NewRequest) (epoch : Int) (absent : state.world.find id = none) :
      RowChange state next id (request.row epoch state.world.now)
  | kept {row : Row} (earlier : state.world.find id = some row) : RowChange state next id row
  | mutated (call : Call) (epoch : Int) (mutation : Mutation) (current : Row)
      (commits : Commits state next call epoch (.apply mutation))
      (hits : state.Hits epoch mutation current) (target : mutation.target = id) :
      RowChange state next id (mutation.assign state.world.now current)
  | claimed (kind : ClaimKind) (owner : String) (duration : Int) (current : Row)
      (earlier : state.world.find id = some current)
      (allowed : kind.eligible state.world.now current = true) :
      RowChange state next id (kind.assign state.world.now duration owner current)
  | scrubbed (current : Row) (earlier : state.world.find id = some current)
      (waiting : current.state = .unknown) : RowChange state next id current.scrubLocator

theorem step_row (step : Pool.Step (scheduler platform faults admitted) state next) {id : String}
    (found : next.world.find id = some row) : RowChange state next id row := by
  rcases step_commits step with ⟨database, _⟩ | ⟨call, epoch, Reply, transaction, commits⟩
  · unfold World.find at found
    rw [database] at found
    exact .kept found
  · rw [commits.committed] at found
    cases earlier : state.world.find id with
    | none =>
      obtain ⟨request, rfl⟩ := Transaction.exec_new earlier found
      exact .fresh request epoch earlier
    | some current =>
      have rowID : current.executionID = id := (Table.find_some_iff.mp earlier).2
      obtain ⟨after, afterFound, rowStep⟩ :=
        @Transaction.exec_row Reply transaction epoch state.world.now _ id current earlier
      cases found.symm.trans afterFound
      cases rowStep with
      | kept => exact .kept earlier
      | claimed kind owner duration issued allowed current =>
        exact .claimed kind owner duration _ earlier allowed
      | scrubbed issued waiting current => exact .scrubbed _ earlier waiting
      | mutated mutation issued target allowed admitted =>
        cases transaction with
        | apply own =>
          cases issued
          have aimed : mutation.target = id := target.trans rowID
          exact .mutated call epoch mutation current commits
            ⟨aimed ▸ earlier, allowed, admitted⟩ aimed
        | _ => cases issued

theorem step_forward (step : Pool.Step (scheduler platform faults admitted) state next) :
    state.world.now ≤ next.world.now := by
  rcases step_commits step with ⟨_, forward⟩ | ⟨call, epoch, Reply, transaction, commits⟩
  · exact forward
  · rw [commits.committed]
    exact Int.le_refl _

end Crabedence
