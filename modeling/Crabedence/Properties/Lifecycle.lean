import Crabedence.Reasoning

/-!
# The lifecycle graph and terminal rows

Over every interleaving of callers: rows move along the lifecycle graph only, a terminal row keeps
what it stores, and a later acquisition of its key replays it or reports a conflict.
-/

namespace Crabedence

open Resumption

variable {platform : DispatchPlatform} {faults : Bool} {admitted : Call → Prop} {id : String}
  {row : Row} {leaseDuration : Duration}

/-- One atomic change of the world moves a row along the graph; a row that appears is
`PREPARED`. -/
theorem World.Step.edge {before after : World} (step : before.Step after)
    (found : after.find id = some row) : (before.find id = none ∧ row.state = .prepared) ∨
      ∃ earlier, before.find id = some earlier ∧
        (row.state = earlier.state ∨ Edge earlier.state row.state) := by
  cases step with
  | tick forward => exact .inr ⟨row, found, .inl rfl⟩
  | commit epoch transaction =>
    cases previous : before.find id with
    | none =>
      obtain ⟨request, rfl⟩ := Transaction.exec_new previous found
      exact .inl ⟨rfl, rfl⟩
    | some earlier =>
      obtain ⟨next, nextFound, rowStep⟩ := Transaction.exec_row previous
      cases found.symm.trans nextFound
      exact .inr ⟨earlier, rfl, rowStep.edge⟩

/-- Every step of the system, from any state, changes the state of a row along an edge of the
lifecycle graph or not at all, and inserts rows as `PREPARED`.  A row once seen `IN_FLIGHT` is
never `PREPARED` or `EXECUTING` again, and a `COMMITTED` or `FAILED` row never changes state. -/
theorem states_follow_lifecycle (platform : DispatchPlatform) (faults : Bool)
    (admitted : Call → Prop) (state : SystemState) :
    (∀ next, Pool.Step (scheduler platform faults admitted) state next →
      ∀ id row, next.world.find id = some row →
        (state.world.find id = none ∧ row.state = .prepared) ∨
          ∃ earlier, state.world.find id = some earlier ∧
            (row.state = earlier.state ∨ Edge earlier.state row.state)) ∧
    (∀ later, Pool.Reaches (scheduler platform faults admitted) state later →
      ∀ id row, state.world.find id = some row →
        ∃ row', later.world.find id = some row' ∧
          (row.state = .inFlight → row'.state ≠ .prepared ∧ row'.state ≠ .executing) ∧
          (row.state = .committed ∨ row.state = .failed → row'.state = row.state)) := by
  constructor
  · intro next step id row found
    rcases step_world step with same | moved
    · rw [same] at found
      exact .inr ⟨row, found, .inl rfl⟩
    · exact moved.edge found
  · intro later reaches id row found
    have evolves := reaches_evolves reaches
    obtain ⟨row', found', sameIdentity⟩ := evolves.identity found
    refine ⟨row', found', ?_, ?_⟩
    · intro inFlight
      obtain ⟨other, otherFound, crossed⟩ := evolves.crossed found (by rw [inFlight]; rfl)
      rw [found', Option.some_inj] at otherFound
      subst otherFound
      constructor <;> intro back <;> rw [back] at crossed <;> cases crossed
    · intro final
      obtain ⟨other, otherFound, frozen⟩ := evolves.frozen found (by
        rcases final with committed | failed
        · rw [committed]; rfl
        · rw [failed]; rfl)
      rw [found', Option.some_inj] at otherFound
      subst otherFound
      exact frozen.state

/-- A crossed row enters recovery and stays beyond the dispatch boundary. -/
theorem states_follow_lifecycle_recovery :
    ∃ row row', ((SystemState.initial 0).follow samplePlatform sampleCrossing).world.find
        "execution" = some row ∧ row.state = .inFlight ∧
      (((SystemState.initial 0).follow samplePlatform sampleCrossing).follow samplePlatform
        (Choice.complete (.store sampleHandle (.enterRecovery "execution" .inFlight 3)) 3 "" "")
        ).world.find "execution" = some row' ∧ row'.state = .unknown ∧
      row'.state ≠ .prepared ∧ row'.state ≠ .executing := by
  obtain ⟨row', found', beyond, _⟩ := (states_follow_lifecycle samplePlatform true (fun _ => True)
    ((SystemState.initial 0).follow samplePlatform sampleCrossing)).2 _
    (follow_reaches samplePlatform true
      (Choice.complete (.store sampleHandle (.enterRecovery "execution" .inFlight 3)) 3 "" "") _)
    "execution" _ rfl
  exact ⟨_, row', rfl, rfl, found', by cases found'; rfl, beyond rfl⟩

/-- What a version once read says after any further run: the row still answers the same request, its
version and generation have not fallen, and at that version it has the same state and lease. -/
theorem versions_pin_rows (platform : DispatchPlatform) (faults : Bool) (admitted : Call → Prop)
    {state later : SystemState} (id : String) {row : Row}
    (reaches : Pool.Reaches (scheduler platform faults admitted) state later)
    (found : state.world.find id = some row) :
    ∃ row', later.world.find id = some row' ∧ row'.identity = row.identity ∧
      row.version ≤ row'.version ∧ row.lease.generation ≤ row'.lease.generation ∧
      (row'.version = row.version → row'.state = row.state ∧
        row'.lease.generation = row.lease.generation ∧ row'.lease.token = row.lease.token) := by
  have evolves := reaches_evolves reaches
  obtain ⟨row', found', precedes⟩ := evolves.precedes found
  have grown := Relational.holds_of_found (evolves.monotone found) found'
  refine ⟨row', found', precedes.identity, grown.1, grown.2, fun same => ?_⟩
  rcases precedes.version with newer | kept
  · omega
  · exact kept.2

def sampleRenewal : List Choice :=
  Choice.complete (.store sampleHandle (.renewLease sampleLease minute)) 3 "" ""

theorem versions_pin_rows_renewed : ∃ row,
    (((SystemState.initial 0).follow samplePlatform sampleCrossing).follow samplePlatform
      sampleRenewal).world.find "execution" = some row ∧ row.state = .inFlight := by
  obtain ⟨row, found, _, _, _, pinned⟩ := versions_pin_rows samplePlatform true (fun _ => True)
    "execution" (follow_reaches samplePlatform true sampleRenewal
      ((SystemState.initial 0).follow samplePlatform sampleCrossing)) rfl
  exact ⟨row, found, (pinned (by cases found; rfl)).1⟩

/-- The replies an acquisition of a key with the terminal row `row` can get. -/
inductive SettledReply (faults : Bool) (config : LeaseConfig) (leaseDuration : Duration)
    (digest : String) (row : Row) : Except StoreError AcquireResult → Prop where
  | replay (same : row.identity.requestDigest = digest) {stored : Row}
      (frozen : Frozen row stored) :
      SettledReply faults config leaseDuration digest row (.ok {
        kind := .terminalReplay, state := row.state, record := stored.scan, leaseToken := ""
        generation := 0 })
  | conflict (differs : row.identity.requestDigest ≠ digest) {stored : Row}
      (frozen : Frozen row stored) :
      SettledReply faults config leaseDuration digest row (.ok {
        kind := .idempotencyConflict, state := row.state, record := stored.scan, leaseToken := ""
        generation := 0 })
  | invalidDuration {error : StoreError} (refused : config.validate leaseDuration = .error error) :
      SettledReply faults config leaseDuration digest row (.error error)
  | noIdentifier (faulty : faults = true) (context reason : String)
      (generated : context = "failed to generate lease token" ∨
        context = "failed to generate execution ID") :
      SettledReply faults config leaseDuration digest row
        (.error (.wrapped context (.message reason)))
  | driver (faulty : faults = true) (text : String) :
      SettledReply faults config leaseDuration digest row (.error (.driver text))

theorem SettledReply.of_frozen {config : LeaseConfig} {digest : String}
    {current : Row} {reply : Except StoreError AcquireResult}
    (settled : SettledReply faults config leaseDuration digest current reply)
    (earlier : Frozen row current) : SettledReply faults config leaseDuration digest row reply := by
  cases settled with
  | replay same frozen =>
    rw [earlier.state]
    exact .replay (earlier.identity ▸ same) (earlier.trans frozen)
  | conflict differs frozen =>
    rw [earlier.state]
    exact .conflict (earlier.identity ▸ differs) (earlier.trans frozen)
  | invalidDuration refused => exact .invalidDuration refused
  | noIdentifier faulty context reason generated =>
    exact .noIdentifier faulty context reason generated
  | driver faulty text => exact .driver faulty text

open StoreM in
theorem insertOrAcquire_settled {store : SQLiteStore} {request : NewRequest}
    {world : World} {log : List Mark}
    (found : world.find id = some row) (sameKey : row.requestKey = request.key)
    (final : row.state.isDurablyFinal = true) : Ensures faults unguarded
      (fun reply _ _ => SettledReply faults store.leaseConfig leaseDuration request.digest row reply)
      (store.insertOrAcquire request leaseDuration) world log := by
  have stored {later : World} (evolves : world.Evolves later) :
      ∃ row', later.database.findByKey request.key = some row' ∧ Frozen row row' := by
    obtain ⟨row', found', frozen⟩ := evolves.frozen found final
    have key' : row'.requestKey = request.key := by
      rw [← sameKey]
      unfold Row.requestKey
      rw [frozen.identity]
    exact ⟨row', key' ▸ Database.findByKey_of_find found', frozen⟩
  apply ensures_bind
  apply ensures_sql
  intro inserting sinceStart
  refine ⟨trivial, fun inserted sinceInsert => ?_, fun faulty text _ _ _ _ => .driver faulty text⟩
  obtain ⟨taken, takenFound, _⟩ := stored sinceStart
  simp only [Transaction.exec, Database.insertRequest_taken takenFound]
  apply ensures_bind
  apply ensures_sql
  intro looking sinceInserted
  refine ⟨trivial, fun looked sinceLook => ?_, fun faulty text _ _ _ _ => .driver faulty text⟩
  have evolves : world.Evolves looking :=
    sinceStart.trans (.head (.commit _ _) (sinceInsert.trans sinceInserted))
  obtain ⟨row', found', frozen⟩ := stored evolves
  simp only [Transaction.exec, found', Option.map_some]
  have sameDigest : row'.scan.requestDigest = row.identity.requestDigest := by
    rw [← frozen.identity]
    rfl
  have sameState : row'.scan.state = row.state := frozen.state
  unfold SQLiteStore.acquireExisting
  split_ifs with differs
  · refine ensures_pure fun later _ => ?_
    rw [sameState]
    exact .conflict (sameDigest ▸ differs) frozen
  · have settled : SQLiteStore.settled row'.scan = some {
        kind := .terminalReplay, state := row'.scan.state, record := row'.scan, leaseToken := ""
        generation := 0 } := by
      unfold SQLiteStore.settled
      rw [sameState, if_pos final]
    rw [settled]
    refine ensures_pure fun later _ => ?_
    rw [sameState]
    exact .replay (sameDigest ▸ not_not.mp differs) frozen

/-- A `COMMITTED` or `FAILED` row keeps its identity (the request digest included), state, result,
evidence, provider and terminal columns whatever callers do afterwards, and an acquisition of its
key started afterwards replays exactly these, or reports a conflict when its digest differs; it
fails only before its first transaction or with a driver error. -/
theorem terminal_rows_are_final (platform : DispatchPlatform) (faults : Bool)
    (admitted : Call → Prop) {state later : SystemState}
    (reaches : Pool.Reaches (scheduler platform faults admitted) state later)
    {id : String} {row : Row} (found : state.world.find id = some row)
    (final : row.state = .committed ∨ row.state = .failed) :
    (∃ row', later.world.find id = some row' ∧ Frozen row row') ∧
    (∀ index handle digest authority executionClass leaseDuration outcome log,
      state.threads.length ≤ index →
      later.threads[index]? = some ⟨.store handle (.acquireWithAuthority row.requestKey digest
        authority executionClass leaseDuration), .done outcome, log⟩ →
      ∃ reply, outcome = .acquired reply ∧
        SettledReply faults handle.leaseConfig leaseDuration digest row reply) := by
  have durable : row.state.isDurablyFinal = true := by
    rcases final with committed | failed
    · rw [committed]
      rfl
    · rw [failed]
      rfl
  refine ⟨(reaches_evolves reaches).frozen found durable, ?_⟩
  intro index handle digest authority executionClass leaseDuration outcome log new thread
  obtain ⟨start, since, follows⟩ := Pool.Reaches.started reaches thread new
  have ensured : StoreM.Ensures faults unguarded
      (fun reply _ _ => SettledReply faults handle.leaseConfig leaseDuration digest row reply)
      (handle.serve platform.toPlatform (.acquireWithAuthority row.requestKey digest authority
        executionClass leaseDuration)) start [] := by
    apply SQLiteStore.ensures_acquireWithAuthority
    · exact fun _ _ _ => trivial
    · exact fun error refused _ => .invalidDuration refused
    · exact fun faulty context reason _ generated => .noIdentifier faulty context reason generated
    · intro executionID leaseOwner leaseToken proceeding moved _
      obtain ⟨row', found', frozen⟩ :=
        World.Evolves.frozen (Relation.ReflTransGen.trans since moved) found durable
      have sameKey : row'.requestKey = row.requestKey := by
        unfold Row.requestKey
        rw [frozen.identity]
      refine (insertOrAcquire_settled found' sameKey (frozen.state ▸ durable)).mono ?_
      intro reply _ _ settled
      exact settled.of_frozen frozen
  exact call_outcome ensured follows

set_option maxRecDepth 4096 in
/-- A committed row and a second acquisition of its key, which replays what the row stores. -/
theorem terminal_rows_are_final_replay :
    ∃ row stored, ((SystemState.initial 0).follow samplePlatform sampleCommit).world.find
        "execution" = some row ∧ row.state = .committed ∧ Frozen row stored ∧
      (((SystemState.initial 0).follow samplePlatform sampleCommit).follow samplePlatform
        (Choice.complete (sampleAcquire "digest") 4 "other" "another")).threads[4]? =
          some ⟨sampleAcquire "digest", .done (.acquired (.ok {
            kind := .terminalReplay, state := row.state, record := stored.scan, leaseToken := ""
            generation := 0 })), []⟩ := by
  obtain ⟨_, settles⟩ := terminal_rows_are_final samplePlatform false (fun _ => True)
    (follow_reaches samplePlatform false
      (Choice.complete (sampleAcquire "digest") 4 "other" "another")
      ((SystemState.initial 0).follow samplePlatform sampleCommit))
    (show World.find _ "execution" = some _ from rfl) (.inl rfl)
  obtain ⟨reply, outcome, settled⟩ := settles 4 sampleHandle "digest" ⟨"", 0, ""⟩ "MUTATION" second
    _ [] (by decide) rfl
  cases settled with
  | replay same frozen => exact ⟨_, _, rfl, rfl, frozen, by rw [← outcome]; rfl⟩
  | conflict differs frozen => exact (differs rfl).elim
  | invalidDuration refused => cases refused
  | noIdentifier faulty context reason generated => cases faulty
  | driver faulty text => cases faulty

end Crabedence
