import Crabedence.Dispatch.Progress

/-!
# At most one effect for a key

The callers' logs record every crossing of the dispatch boundary and every call of the handler.  A row
that was crossed never returns to a state `MarkInFlight` accepts, so the whole history of the system
crosses the row of a key at most once; and an execution of a durable class calls its handler only
directly after its own crossing.
-/

namespace Crabedence

open Resumption StoreM DispatchM

def Mark.crossing (id : String) : Mark → Bool
  | .crossed executionID => decide (executionID = id)
  | .invoked .. => false

def Mark.crosses (database : Database) (key : RequestKey) : Mark → Bool
  | .crossed executionID =>
    (database.find executionID).any fun row => decide (row.requestKey = key)
  | .invoked .. => false

def Mark.invokes (key : RequestKey) : Mark → Bool
  | .crossed _ => false
  | .invoked request descriptor =>
    descriptor.executionClass.isDurable && decide (request.key = key)

variable {id : String} {mark : Mark} {key : RequestKey} {platform : DispatchPlatform}
  {faults : Bool} {admitted : Call → Prop} {state : SystemState} {index : Nat}

theorem Mark.crossing_iff : mark.crossing id = true ↔ mark = .crossed id := by
  cases mark with
  | crossed executionID | invoked request descriptor => simp [Mark.crossing]

theorem Mark.crosses_iff {database : Database} : mark.crosses database key = true ↔
      ∃ id row, mark = .crossed id ∧ database.find id = some row ∧ row.requestKey = key := by
  cases mark with
  | crossed executionID => simp [Mark.crosses, Option.any_eq_true]
  | invoked request descriptor => simp [Mark.crosses]

theorem Mark.invokes_iff :
    mark.invokes key = true ↔ ∃ request descriptor, mark = .invoked request descriptor ∧
      descriptor.executionClass.isDurable = true ∧ request.key = key := by
  cases mark with
  | crossed executionID | invoked request descriptor => simp [Mark.invokes]

variable {Reply : Type} {operation : Operation Reply} {reply : Reply} {before after world : World}

section Crossings

variable {history : List Mark}

/-- Only a `MarkInFlight` that hit an `EXECUTING` row logs a crossing. -/
theorem Serves.crossed (served : Serves faults operation before reply after)
    (logged : Mark.crossed id ∈ operation.marks reply) : operation.marks reply = [.crossed id] ∧
      (∃ row, before.find id = some row ∧ row.state = .executing) ∧
      ∃ row, after.find id = some row ∧ row.state = .inFlight := by
  cases operation with
  | host request => cases request <;> simp [Operation.marks] at logged
  | sql epoch transaction =>
    cases served with
    | refused faulty error | unacknowledged faulty error => simp at logged
    | committed =>
      cases transaction with
      | apply mutation =>
        cases mutation with
        | markInFlight lease providerID persisted =>
          cases hit : ((Transaction.apply (.markInFlight lease providerID persisted)).exec
              epoch before.now before.database).1 with
          | false =>
            rw [hit] at logged
            simp [Operation.marks] at logged
          | true =>
            rw [hit] at logged
            have same : id = lease.executionID := by simpa [Operation.marks] using logged
            obtain ⟨row, found, allowed, current⟩ := Database.applyMutation_hit_iff.mp hit
            have executing : row.state = .executing := by
              simpa using Mutation.guard_sources allowed rfl
            rw [same]
            exact ⟨rfl, ⟨row, found, executing⟩, _,
              World.commit_hit found allowed current, rfl⟩
        | _ => simp [Operation.marks] at logged
      | _ => simp [Operation.marks] at logged

/-- No execution was crossed twice, and every crossed one is past the boundary. -/
structure Crossings (world : World) (history : List Mark) : Prop where
  once : ∀ id, history.countP (Mark.crossing id) ≤ 1
  beyond : ∀ id, Mark.crossed id ∈ history →
    ∃ row, world.find id = some row ∧ row.state.isPreDispatch = false

theorem Crossings.perm {other : List Mark} (crossings : Crossings world history)
    (same : history.Perm other) : Crossings world other where
  once id := by
    rw [← same.countP_eq]
    exact crossings.once id
  beyond id member := crossings.beyond id (same.mem_iff.mpr member)

theorem Crossings.evolves (crossings : Crossings before history) (evolves : before.Evolves after) :
    Crossings after history where
  once := crossings.once
  beyond id member := by
    obtain ⟨row, found, beyond⟩ := crossings.beyond id member
    exact evolves.crossed found beyond

theorem Crossings.served (crossings : Crossings before history)
    (served : Serves faults operation before reply after) :
    Crossings after (history ++ operation.marks reply) where
  once id := by
    rw [List.countP_append]
    by_cases logged : Mark.crossed id ∈ operation.marks reply
    · -- the row was still EXECUTING, so nobody crossed it before
      obtain ⟨alone, ⟨row, found, executing⟩, _⟩ := served.crossed logged
      have uncrossed : history.countP (Mark.crossing id) = 0 := by
        rw [List.countP_eq_zero]
        intro mark member crosses
        rw [Mark.crossing_iff.mp crosses] at member
        have beyond := Relational.holds_of_found (crossings.beyond id member) found
        rw [executing] at beyond
        cases beyond
      have counted : (operation.marks reply).countP (Mark.crossing id) ≤ 1 := by
        rw [alone]
        exact List.countP_le_length
      omega
    · have unlogged : (operation.marks reply).countP (Mark.crossing id) = 0 := by
        rw [List.countP_eq_zero]
        intro mark member crosses
        rw [Mark.crossing_iff.mp crosses] at member
        exact logged member
      have earlier := crossings.once id
      omega
  beyond id member := by
    rcases List.mem_append.mp member with earlier | logged
    · exact (crossings.evolves served.evolves).beyond id earlier
    · obtain ⟨_, _, row, found, inFlight⟩ := served.crossed logged
      refine ⟨row, found, ?_⟩
      rw [inFlight]
      rfl

theorem Crossings.key_once (crossings : Crossings world history) (key : RequestKey) :
    history.countP (Mark.crosses world.database key) ≤ 1 := by
  by_cases none : history.countP (Mark.crosses world.database key) = 0
  · omega
  · obtain ⟨mark, member, crosses⟩ := List.countP_pos_iff.mp (Nat.pos_of_ne_zero none)
    obtain ⟨id, row, rfl, found, sameKey⟩ := Mark.crosses_iff.mp crosses
    have covered : history.countP (Mark.crosses world.database key) ≤
        history.countP (Mark.crossing id) := by
      apply List.countP_mono_left
      intro other _ alsoCrosses
      obtain ⟨id', row', rfl, found', sameKey'⟩ := Mark.crosses_iff.mp alsoCrosses
      have first := sameKey ▸ Database.findByKey_of_find found
      have second := sameKey' ▸ Database.findByKey_of_find found'
      have sameRow : row' = row := Option.some_inj.mp (second.symm.trans first)
      have sameID : id' = id := by
        rw [← (Relational.Table.find_some_iff.mp found').2,
          ← (Relational.Table.find_some_iff.mp found).2, sameRow]
      rw [sameID]
      exact Mark.crossing_iff.mpr rfl
    exact Nat.le_trans covered (crossings.once id)

theorem Reachable.crossings (reachable : Reachable platform faults admitted state) :
    Crossings state.world state.history := by
  obtain ⟨start, reaches⟩ := reachable
  apply Pool.Reaches.recorded Crossings reaches rfl
  · exact fun same crossings => crossings.perm same
  · exact fun drift crossings => crossings.evolves drift.evolves
  · intro Reply operation before after reply sofar marks served crossings
    rw [served.2]
    exact crossings.served served.1
  · exact ⟨fun _ => Nat.zero_le _, fun _ member => (List.not_mem_nil member).elim⟩

end Crossings

section Invocations

variable {log : List Mark}

def World.Keyed (world : World) (id : String) (key : RequestKey) : Prop :=
  ∃ row, world.find id = some row ∧ row.requestKey = key

theorem World.Keyed.evolves (keyed : before.Keyed id key)
    (evolves : before.Evolves after) : after.Keyed id key := by
  obtain ⟨row, found, sameKey⟩ := keyed
  obtain ⟨row', found', identity⟩ := evolves.identity found
  refine ⟨row', found', ?_⟩
  unfold Row.requestKey
  rw [identity]
  exact sameKey

/-- The handler of a durable class is called when the caller has logged the crossing of the key's row
and nothing else. -/
def InvokesCrossed : Machine.Guard Operation World Mark
  | _, .host (.executeHandler request descriptor _), world, log =>
    descriptor.executionClass.isDurable = true →
      ∃ id, log = [.crossed id] ∧ world.Keyed id request.key
  | _, _, _, _ => True

/-- A logged call of the handler for a durable class directly follows the caller's own crossing of the
key's row, which is the first thing it logged. -/
def Invoked (world : World) (log : List Mark) : Prop :=
  ∀ (position : Nat) request descriptor, log[position]? = some (.invoked request descriptor) →
    descriptor.executionClass.isDurable = true →
    position = 1 ∧ ∃ id, log[0]? = some (.crossed id) ∧ world.Keyed id request.key

theorem Invoked.evolves (invoked : Invoked before log) (evolves : before.Evolves after) :
    Invoked after log := by
  intro position request descriptor logged durable
  obtain ⟨second, id, crossed, keyed⟩ := invoked position request descriptor logged durable
  exact ⟨second, id, crossed, keyed.evolves evolves⟩

theorem InvokesCrossed.evolves
    (precedes : InvokesCrossed operation before log) (evolves : before.Evolves after) :
    InvokesCrossed operation after log := by
  cases operation with
  | sql epoch transaction => exact trivial
  | host asked =>
    cases asked with
    | executeHandler request descriptor externalToken =>
      intro durable
      obtain ⟨id, logged, keyed⟩ := precedes durable
      exact ⟨id, logged, keyed.evolves evolves⟩
    | _ => exact trivial

theorem InvokesCrossed.invoked {position : Nat} {request : Request}
    {descriptor : ResolvedDescriptor} (precedes : InvokesCrossed operation world log)
    (logged : (operation.marks reply)[position]? = some (.invoked request descriptor))
    (durable : descriptor.executionClass.isDurable = true) :
    position = 0 ∧ ∃ id, log = [.crossed id] ∧ world.Keyed id request.key := by
  have member := List.mem_of_getElem? logged
  cases operation with
  | host asked =>
    cases asked <;> simp only [Operation.marks, List.not_mem_nil, List.mem_singleton,
      Mark.invoked.injEq] at member
    have inside : position < 1 := (List.getElem?_eq_some_iff.mp logged).1
    obtain ⟨rfl, rfl⟩ := member
    exact ⟨by omega, precedes durable⟩
  | sql epoch transaction =>
    cases transaction with
    | apply mutation =>
      cases mutation with
      | markInFlight lease providerID persisted =>
        rcases reply with text | _ | _ <;> simp [Operation.marks] at member
      | _ => simp [Operation.marks] at member
    | _ => simp [Operation.marks] at member

theorem Invoked.served (invoked : Invoked before log)
    (precedes : InvokesCrossed operation before log)
    (served : Serves faults operation before reply after) :
    Invoked after (log ++ operation.marks reply) := by
  intro position request descriptor logged durable
  by_cases earlier : position < log.length
  · rw [List.getElem?_append_left earlier] at logged
    obtain ⟨second, id, crossed, keyed⟩ :=
      (invoked.evolves served.evolves) position request descriptor logged durable
    refine ⟨second, id, ?_, keyed⟩
    rw [List.getElem?_append_left (Nat.zero_lt_of_lt earlier)]
    exact crossed
  · rw [List.getElem?_append_right (Nat.le_of_not_lt earlier)] at logged
    obtain ⟨first, id, rfl, keyed⟩ := precedes.invoked logged durable
    rw [List.length_singleton] at first earlier
    exact ⟨by omega, id, rfl, keyed.evolves served.evolves⟩

theorem Invoked.countP_le (invoked : Invoked world log) (key : RequestKey) :
    log.countP (Mark.invokes key) ≤ log.countP (Mark.crosses world.database key) := by
  have elsewhere : ∀ position mark, log[position]? = some mark → position ≠ 1 →
      mark.invokes key = false := by
    intro position mark found other
    rw [Bool.eq_false_iff]
    intro invokes
    obtain ⟨request, descriptor, rfl, durable, _⟩ := Mark.invokes_iff.mp invokes
    exact other (invoked position request descriptor found durable).1
  cases log with
  | nil => exact Nat.le_refl _
  | cons first others =>
    have firstOther := elsewhere 0 first rfl (by omega)
    rw [List.countP_cons_of_neg (by simp [firstOther])]
    cases others with
    | nil => exact Nat.zero_le _
    | cons second rest =>
      have restOther : rest.countP (Mark.invokes key) = 0 := by
        rw [List.countP_eq_zero]
        intro mark member invokes
        obtain ⟨position, found⟩ := List.mem_iff_getElem?.mp member
        rw [elsewhere (position + 2) mark found (by omega)] at invokes
        cases invokes
      rw [List.countP_cons, restOther]
      by_cases invokes : second.invokes key = true
      · obtain ⟨request, descriptor, rfl, durable, sameKey⟩ := Mark.invokes_iff.mp invokes
        obtain ⟨_, id, crossed, row, found, owned⟩ := invoked 1 request descriptor rfl durable
        have firstCrosses : first.crosses world.database key = true :=
          Mark.crosses_iff.mpr ⟨id, row, Option.some_inj.mp crossed, found, owned.trans sameKey⟩
        rw [List.countP_cons_of_pos firstCrosses, if_pos invokes]
        omega
      · rw [if_neg invokes]
        omega

end Invocations

section Callers

variable {handle : SQLiteStore} {executor : DispatchExecutor} {request : Request}
  {descriptor : ResolvedDescriptor} {log : List Mark}

theorem serve_precedes {Result : Type} (call : EffectStore Result) :
    Ensures faults InvokesCrossed (fun _ _ _ => True) (handle.serve platform.toPlatform call) world log := by
  apply Machine.safe_of_emits (serve_issues platform.toPlatform handle call)
  intro Reply operation before sofar within
  cases operation with
  | sql epoch transaction => exact trivial
  | host asked => cases asked <;> first | exact trivial | cases within

def ExecutesCrossed : Machine.Guard DispatchOp World Mark
  | _, .store _, _, _ => True
  | _, .host request, world, log => InvokesCrossed (.host request) world log

theorem Executes.executesCrossed {environment : Environment} {replies : Replies} {digest : String}
    {operation : DispatchOp Reply}
    (executes : Executes environment replies platform handle executor request descriptor digest
      operation world log) : ExecutesCrossed operation world log := by
  cases operation with
  | store call => exact trivial
  | host asked =>
    cases asked with
    | executeHandler other resolved externalToken =>
      obtain ⟨rfl, rfl, lease, logged, acquired, _, progress⟩ := executes
      obtain ⟨row, found, sameKey, _⟩ := progress.owned
      exact fun _ => ⟨lease.executionID, logged, row, found, sameKey⟩
    | _ => exact trivial

/-- `PURE` and `READ` requests are dispatched at once, and only under their own descriptor. -/
theorem emits_dispatchUnreserved (volatile : descriptor.executionClass.isDurable = false) :
    (executor.dispatchUnreserved request descriptor).Emits fun operation =>
      ∀ world log, ExecutesCrossed operation world log := by
  refine ⟨fun _ _ => trivial, fun gate => ?_⟩
  cases gate with
  | error reason => exact trivial
  | ok _ =>
    refine ⟨fun _ _ => trivial, fun expired => ?_⟩
    cases expired with
    | true => exact trivial
    | false =>
      refine ⟨fun _ _ durable => ?_, fun reply => ?_⟩
      · rw [volatile] at durable
        cases durable
      · cases reply <;> exact trivial

theorem executor_follows :
    ((system faults).through (DispatchOp.implement platform.toPlatform handle)).Safe ExecutesCrossed
      (fun _ _ _ => True) (executor.executeWithIdempotency platform request descriptor) world [] := by
  cases durable : descriptor.executionClass.isDurable with
  | true =>
    obtain ⟨digest, bound⟩ := request.exists_digest platform descriptor
    have run : Run .unrestricted faults anyReply platform handle executor request descriptor digest _
        (executor.executeWithIdempotency platform request descriptor) world [] :=
      run_settles durable bound
    exact run.through.mono (fun _ _ _ executes => executes.executesCrossed) fun _ _ _ _ => trivial
  | false =>
    have volatile : descriptor.executionClass = .pure ∨ descriptor.executionClass = .read := by
      cases same : descriptor.executionClass <;> simp_all [ExecutionClass.isDurable]
    unfold DispatchExecutor.executeWithIdempotency
    rw [if_pos volatile]
    have emits : (do
        let outcome ← executor.dispatchUnreserved request descriptor
        return outcome.response : DispatchM Response).Emits fun operation =>
          ∀ world log, ExecutesCrossed operation world log :=
      (emits_dispatchUnreserved durable).bind fun _ => trivial
    apply Machine.safe_of_emits emits
    exact fun operation before sofar allowed => allowed before sofar

theorem call_precedes (call : Call) :
    (system faults).Safe InvokesCrossed (fun _ _ _ => True) (call.program platform) world [] := by
  cases call with
  | store handle method =>
    apply Machine.Safe.bind
    exact (serve_precedes method).mono fun _ _ _ _ _ _ => trivial
  | execute handle executor request descriptor =>
    apply Machine.Safe.bind
    refine (executor_follows.interpret ?_).mono (fun _ _ _ allowed => allowed)
      fun _ _ _ _ _ _ => trivial
    intro Reply operation world log follows
    cases operation with
    | store method => exact serve_precedes method
    | host asked =>
      intro before moved
      exact ⟨InvokesCrossed.evolves follows moved, fun _ _ _ _ _ _ => trivial⟩

end Callers

theorem Reachable.invoked (reachable : Reachable platform faults admitted state)
    {thread : Thread Operation Call Outcome Mark} (found : state.threads[index]? = some thread) :
    Invoked state.world thread.log := by
  obtain ⟨start, reaches⟩ := reachable
  obtain ⟨begun, _, follows⟩ := Pool.Reaches.started reaches found (Nat.zero_le _)
  apply Machine.Safe.keeps Invoked (call_precedes thread.label) follows
  · exact fun moved invoked => invoked.evolves moved
  · intro Reply operation before after reply sofar marks precedes served invoked
    rw [served.2]
    exact invoked.served precedes served.1
  · intro position request descriptor logged
    simp at logged

/-- The caller with this index is a `MarkInFlight` call for this execution that returned success. -/
def SystemState.Marked (state : SystemState) (index : Nat) (id : String) : Prop :=
  ∃ handle lease providerID locator log, lease.executionID = id ∧ state.threads[index]? =
    some ⟨.store handle (.markInFlight lease providerID locator), .done (.written (.ok ())), log⟩

theorem Reachable.marked (reachable : Reachable platform faults admitted state)
    (marked : state.Marked index id) :
    ∃ thread, state.threads[index]? = some thread ∧ thread.log = [.crossed id] := by
  obtain ⟨handle, lease, providerID, locator, log, rfl, found⟩ := marked
  obtain ⟨start, reaches⟩ := reachable
  obtain ⟨begun, _, follows⟩ := Pool.Reaches.started reaches found (Nat.zero_le _)
  obtain ⟨reply, same, logged⟩ := call_outcome serve_marked follows
  cases same
  exact ⟨_, found, logged⟩

theorem Reachable.marked_once (reachable : Reachable platform faults admitted state)
    {first second : Nat} {other : String} (marked : state.Marked first id)
    (keyed : state.world.Keyed id key) (again : state.Marked second other)
    (sameKey : state.world.Keyed other key) : ¬ first < second := by
  intro apart
  obtain ⟨left, leftFound, leftLog⟩ := reachable.marked marked
  obtain ⟨right, rightFound, rightLog⟩ := reachable.marked again
  have counted {id : String} (keyed : state.world.Keyed id key) :
      ([Mark.crossed id]).countP (Mark.crosses state.world.database key) = 1 := by
    obtain ⟨row, found, owned⟩ := keyed
    rw [List.countP_singleton, if_pos (Mark.crosses_iff.mpr ⟨id, row, rfl, found, owned⟩)]
  have both := Pool.countP_two_le (Mark.crosses state.world.database key) leftFound rightFound apart
  rw [leftLog, rightLog, counted keyed, counted sameKey] at both
  have once := reachable.crossings.key_once key
  omega

/-- In every reachable state the key's row was taken across the dispatch boundary at most once, by all
callers together; at most one `MarkInFlight` call for it returned success; an execution of a durable
class called its handler only directly after its own crossing; and so the handler was called at most
once for the key in a durable class. -/
theorem effects_happen_at_most_once {platform : DispatchPlatform} {faults : Bool}
    {state : SystemState} (reachable : Reachable platform faults (fun _ => True) state)
    (key : RequestKey) :
    state.history.countP (Mark.crosses state.world.database key) ≤ 1 ∧
    (∀ first second id other, state.Marked first id → state.world.Keyed id key →
      state.Marked second other → state.world.Keyed other key → first = second) ∧
    (∀ (index : Nat) thread, state.threads[index]? = some thread → Invoked state.world thread.log) ∧
    state.history.countP (Mark.invokes key) ≤ 1 := by
  have once := reachable.crossings.key_once key
  refine ⟨once, ?_, fun _ _ found => reachable.invoked found, ?_⟩
  · intro first second id other marked keyed again sameKey
    have forward := reachable.marked_once marked keyed again sameKey
    have backward := reachable.marked_once again sameKey marked keyed
    omega
  · refine Nat.le_trans (Pool.countP_history_le fun thread member => ?_) once
    obtain ⟨index, found⟩ := List.mem_iff_getElem?.mp member
    exact (reachable.invoked found).countP_le key

def sampleTwice (executionClass : ExecutionClass) : SystemState :=
  (SystemState.initial 0).follow samplePlatform
    (Choice.execute executionClass 0 "token" "execution" ++
      Choice.execute executionClass 1 "other" "another")

set_option maxRecDepth 8192 in
/-- The first of two runs crossed and invoked, and nothing was crossed or invoked again. -/
theorem effects_happen_at_most_once_replayed :
    (sampleTwice .mutation).history.countP
      (Mark.crosses (sampleTwice .mutation).world.database sampleKey) = 1 ∧
    (sampleTwice .mutation).history.countP (Mark.invokes sampleKey) = 1 := by
  have reachable : Reachable samplePlatform true (fun _ => True) (sampleTwice .mutation) :=
    follow_reachable samplePlatform true _ 0
  have once := effects_happen_at_most_once reachable sampleKey
  have crossed : 0 < (sampleTwice .mutation).history.countP
      (Mark.crosses (sampleTwice .mutation).world.database sampleKey) := by decide
  have invoked : 0 < (sampleTwice .mutation).history.countP (Mark.invokes sampleKey) := by decide
  exact ⟨Nat.le_antisymm once.1 crossed, Nat.le_antisymm once.2.2.2 invoked⟩

set_option maxRecDepth 8192 in
/-- A `READ` request runs without the store, so its handler is called once in each run, and no row of
the key is ever crossed. -/
theorem read_handler_is_called_again :
    ∃ state, Reachable samplePlatform false (fun _ => True) state ∧
      state.history.countP (Mark.crosses state.world.database sampleKey) = 0 ∧
      state.history = [.invoked sampleRequest (sampleDescriptor .read),
        .invoked sampleRequest (sampleDescriptor .read)] ∧ sampleRequest.key = sampleKey :=
  ⟨sampleTwice .read, follow_reachable samplePlatform false _ 0, rfl, rfl, rfl⟩

end Crabedence
