import Crabedence.Refusal
import Crabedence.Properties.Admission

/-!
# Lease fencing

A lease is the token and the generation an acquisition stored in a row.  Every later grant raises the
generation, no statement gives a cleared row its old token back, and an expired lease cannot be
renewed, so a lease that is lost once is lost for good: the methods that present it fail and leave the
row alone.  `EnterRecovery` presents no lease and is fenced by the version instead.
-/

namespace Crabedence

open Resumption StoreM

/-- How a holder may have lost its lease: the row was acquired again, its lease was cleared (by an
abandonment, a recovery or a terminal write), or the lease expired. -/
inductive Lease.Lost (lease : Lease) (now : Int) (row : Row) : Prop where
  | superseded (newer : lease.generation < row.lease.generation)
  | cleared (free : row.lease.token = none)
  | expired (passed : row.unexpired now = false)

/-- The row does not honour the lease now and will not honour it again. -/
structure Lease.Gone (lease : Lease) (now : Int) (row : Row) : Prop where
  generation : lease.generation ≤ row.lease.generation
  dead : row.names lease = true → row.unexpired now = false

namespace Lease

variable {lease : Lease} {now later : Int} {row after : Row}

theorem Lost.gone (lost : lease.Lost now row)
    (generation : lease.generation ≤ row.lease.generation) : lease.Gone now row := by
  refine ⟨generation, fun names => ?_⟩
  obtain ⟨token, same⟩ := Row.names_iff.mp names
  cases lost with
  | superseded newer => omega
  | cleared free =>
    rw [free] at token
    cases token
  | expired passed => exact passed

theorem Gone.ticks (forward : now ≤ later) (gone : lease.Gone now row) : lease.Gone later row := by
  refine ⟨gone.generation, fun names => ?_⟩
  have dead := gone.dead names
  rw [← Bool.not_eq_true, Row.unexpired_iff] at dead ⊢
  intro live
  obtain ⟨expiry, current, ahead⟩ := live
  exact dead ⟨expiry, current, by omega⟩

theorem Gone.steps (step : LeaseStep now row.lease after.lease) (gone : lease.Gone now row) :
    lease.Gone now after := by
  have generation := gone.generation
  have dead := gone.dead
  unfold Row.names Row.unexpired at dead
  suffices kept : lease.generation ≤ after.lease.generation ∧
      (after.names lease = true → after.unexpired now = false) from ⟨kept.1, kept.2⟩
  unfold Row.names Row.unexpired
  generalize after.lease = columns at step
  cases step with
  | kept => exact ⟨generation, dead⟩
  | cleared => exact ⟨generation, fun names => by simp at names⟩
  | granted owner token duration =>
    refine ⟨by dsimp only; omega, fun names => ?_⟩
    simp only [Bool.and_eq_true, decide_eq_true_eq] at names
    omega
  | renewed expiry duration current live =>
    refine ⟨generation, fun names => ?_⟩
    have expired := dead names
    rw [current] at expired
    simp only [Option.any_some, decide_eq_false_iff_not] at expired
    exact (expired live).elim

theorem Gone.evolves {before after : World} {id : String} (evolves : before.Evolves after)
    (found : before.find id = some row) (gone : lease.Gone before.now row) :
    ∃ row', after.find id = some row' ∧ lease.Gone after.now row' :=
  evolves.keeps (fun now row => lease.Gone now row) (fun forward gone => gone.ticks forward)
    (fun step gone => gone.steps step.lease) found gone

end Lease

def Mutation.fence? : Mutation → Option Lease
  | .beginExecution lease | .markInFlight lease .. | .renewLease lease _
  | .abandonPreDispatch lease | .finalize lease .. => some lease
  | _ => none

variable {mutation : Mutation} {lease : Lease} {Result : Type} {call : EffectStore Result}

theorem Mutation.fence_misses (fenced : mutation.fence? = some lease) :
    mutation.Misses lease.Gone := by
  intro now cluster row gone
  rw [← Bool.not_eq_true]
  intro allowed
  have honoured : row.names lease = true ∧ row.unexpired now = true := by
    cases mutation <;> cases fenced <;> simp only [guard, Bool.and_eq_true] at allowed
    case beginExecution => exact ⟨allowed.1.2, allowed.2⟩
    case markInFlight => exact ⟨allowed.1.2, allowed.2⟩
    case renewLease => exact allowed.1
    case abandonPreDispatch => exact ⟨allowed.1.2, allowed.2⟩
    case finalize => exact ⟨allowed.1.1.1.2, allowed.1.1.2⟩
  rw [gone.dead honoured.1] at honoured
  cases honoured.2

def EffectStore.fence? {Result : Type} : EffectStore Result → Option Lease
  | .beginExecution lease | .markInFlight lease .. | .renewLease lease _
  | .abandonPreDispatch lease | .finalize lease .. => some lease
  | _ => none

theorem EffectStore.fence_target (fenced : call.fence? = some lease) :
    call.target? = some lease.executionID := by
  cases call <;> cases fenced <;> rfl

theorem EffectStore.fence_updates {platform : Platform} (fenced : call.fence? = some lease)
    (updates : call.updates platform mutation) : mutation.fence? = some lease := by
  cases call <;> cases fenced
  case beginExecution => cases updates; rfl
  case markInFlight => obtain ⟨_, rfl⟩ := updates; rfl
  case renewLease => cases updates; rfl
  case abandonPreDispatch => cases updates; rfl
  case finalize => obtain ⟨_, _, _, _, _, _, _, rfl⟩ := updates; rfl

theorem Mutation.enterRecovery_misses {executionID : String} {expectedState : State}
    {version : Int} {legal : isLegalTransition expectedState .unknown = true} :
    (Mutation.enterRecovery executionID expectedState version legal).Misses
      fun _ row => version < row.version := by
  intro now cluster row behind
  have differs : row.version ≠ version := by omega
  simp only [guard, differs, decide_false, Bool.and_false]

section Grants

variable {since until_ : World}

/-- Between the two worlds a transaction stored the lease, and the row, if it was there, had a
smaller generation before. -/
def Granted (since until_ : World) (lease : Lease) : Prop :=
  ∃ (before after : World) (row : Row), since.Evolves before ∧ before.Step after ∧
    after.Evolves until_ ∧ after.find lease.executionID = some row ∧ row.names lease = true ∧
    ∀ previous, before.find lease.executionID = some previous →
      previous.lease.generation < lease.generation

/-- Between the two worlds the statement of this renewal hit the row and moved the expiry of the
lease, and not to an earlier time. -/
structure Renewed (since until_ : World) (handle : SQLiteStore) (lease : Lease)
    (duration : Duration) (before : World) (row : Row) : Prop where
  since : since.Evolves before
  found : before.find lease.executionID = some row
  allowed : (Mutation.renewLease lease (msDuration duration)).guard before.now
    before.database.cluster row = true
  current : before.database.cluster.epoch = handle.epoch
  later : ∃ row' expiry expiry',
    (before.commit handle.epoch (.apply (.renewLease lease (msDuration duration)))).find
      lease.executionID = some row' ∧ row'.names lease = true ∧
    row.lease.expiresAt = some expiry ∧ row'.lease.expiresAt = some expiry' ∧ expiry ≤ expiry'
  until_ : (before.commit handle.epoch
    (.apply (.renewLease lease (msDuration duration)))).Evolves until_

variable {store : SQLiteStore} {before : World} {row : Row} {token : String}

theorem granted_update {seen : Row}
    (found : before.find mutation.target = some row) (precedes : seen.Precedes row)
    (version : row.version = seen.version)
    (allowed : mutation.guard before.now before.database.cluster row = true)
    (current : before.database.cluster.epoch = store.epoch)
    (grants : (mutation.assign before.now row).lease.token = some token ∧
      (mutation.assign before.now row).lease.generation = row.lease.generation + 1)
    (evolves : since.Evolves before)
    (further : (before.commit store.epoch (.apply mutation)).Evolves until_) :
    Granted since until_ ⟨mutation.target, token, seen.lease.generation + 1⟩ := by
  have generation : row.lease.generation = seen.lease.generation := by
    rcases precedes.version with grown | ⟨_, _, same, _⟩
    · omega
    · exact same
  refine ⟨before, _, _, evolves, .commit _ _, further, World.commit_hit found allowed current,
    ?_, ?_⟩
  · exact Row.names_iff.mpr ⟨grants.1, grants.2.trans (by rw [generation])⟩
  · intro previous previousFound
    have same : previous = row := Option.some_inj.mp (previousFound.symm.trans found)
    dsimp only
    rw [same, generation]
    omega

theorem Acquisition.granted {key : RequestKey} {digest : String} {after : World}
    {result : AcquireResult} (acquisition : Acquisition store key digest before after result)
    (acquired : result.kind = .leaseAcquired ∨ result.kind = .leaseReclaimed)
    (evolves : since.Evolves before) (further : after.Evolves until_) :
    Granted since until_ result.lease := by
  cases acquisition with
  | inserted request sameKey sameDigest admitted =>
    rcases before.database.insertRequest_cases with ⟨_, never⟩ | ⟨_, _, _, absent, _, finds, _⟩
    · exact (never _ admitted).elim
    · refine ⟨before, _, request.row store.epoch before.now, evolves, .commit _ _, further, ?_, ?_,
        ?_⟩
      · exact (finds request.executionID).trans (if_pos rfl)
      · exact Row.names_iff.mpr ⟨rfl, rfl⟩
      · intro previous found
        have both : none = some previous := absent.symm.trans found
        cases both
  | unleased seen row duration owner token found precedes sameKey sameDigest allowed current =>
    have version : row.version = seen.version := by
      simp only [Mutation.guard, Bool.and_eq_true, decide_eq_true_eq] at allowed
      exact allowed.2
    exact granted_update found precedes version allowed current ⟨rfl, rfl⟩ evolves further
  | reclaimed seen row duration owner token found precedes sameKey sameDigest allowed current =>
    have version : row.version = seen.version := by
      simp only [Mutation.guard, Bool.and_eq_true, decide_eq_true_eq] at allowed
      exact allowed.1.1.1
    exact granted_update found precedes version allowed current ⟨rfl, rfl⟩ evolves further
  | expired | replayed | unresolved | conflicting | held =>
    rcases acquired with same | same <;> cases same

theorem Granted.supersedes {id : String} {generation : Int}
    (granted : Granted since until_ ⟨id, token, generation⟩) (found : since.find id = some row) :
    row.lease.generation < generation ∧ ∃ row', until_.find id = some row' ∧
      generation ≤ row'.lease.generation := by
  obtain ⟨before, after, stored, evolves, _, further, storedFound, names, larger⟩ := granted
  obtain ⟨previous, previousFound, _, grown⟩ := evolves.monotone found
  obtain ⟨row', found', _, kept⟩ := further.monotone storedFound
  have exceeds := larger previous previousFound
  have same : stored.lease.generation = generation := (Row.names_iff.mp names).2
  exact ⟨by dsimp only at exceeds; omega, row', found', by omega⟩

theorem Row.Precedes.version_lt {carried : Row} (precedes : carried.Precedes row)
    (names : carried.names lease = true)
    (lost : lease.generation < row.lease.generation ∨ row.lease.token = none) :
    carried.version < row.version := by
  obtain ⟨token, generation⟩ := Row.names_iff.mp names
  rcases precedes.version with grown | ⟨_, _, sameGeneration, sameToken⟩
  · exact grown
  · rcases lost with newer | free
    · omega
    · rw [sameToken, token] at free
      cases free

theorem ensures_renewLease {platform : Platform} {faults : Bool} {duration : Duration}
    {world : World} {log : List Mark} :
    Ensures faults unguarded (fun reply later _ => reply = .ok () →
      ∃ before row, Renewed world later store lease duration before row)
      (store.serve platform (.renewLease lease duration)) world log := by
  have ended : Ensures faults unguarded (Ending .unrestricted platform store
      (.renewLease lease duration) lease.executionID world)
      (store.serve platform (.renewLease lease duration)) world log := serve_ends rfl .refl
  apply ended.mono
  intro reply later log' ends success
  cases ends with
  | failed error => cases success
  | repeated row found repeats => exact repeats.elim
  | hit mutation updates hits =>
    cases updates
    obtain ⟨before, row, since, found, allowed, current, further⟩ := hits
    have admitted := allowed
    simp only [Mutation.guard, Bool.and_eq_true] at admitted
    obtain ⟨expiry, stored, live⟩ := Row.unexpired_iff.mp admitted.1.2
    refine ⟨before, row, since, found, allowed, current, ⟨_, expiry,
      max expiry (before.now + msDuration duration), World.commit_hit found allowed current,
      admitted.1.1, stored, ?_, Int.le_max_left _ _⟩, further⟩
    simp only [Mutation.assign, stored, Option.map_some]

end Grants

/-- Leases over every run.  An acquisition that reports a lease stored it with a larger generation
than the row had.  Once a row has carried a lease, a later grant supersedes that lease.  A lease that
is superseded, cleared or expired is fenced: the five methods that present it and start afterwards
leave the row alone and fail, except a `Finalize` of the receipt the row already stores.  Once the
lease is superseded or cleared, so does an `EnterRecovery` with a version the row had while it
carried the lease.  The statement of a successful `RenewLease` does not move the expiry to an earlier
time. -/
theorem lost_leases_are_fenced (platform : DispatchPlatform) (faults : Bool)
    (admitted : Call → Prop) {state later : SystemState}
    (reaches : Pool.Reaches (scheduler platform faults admitted) state later) :
    (∀ index handle key digest authority executionClass leaseDuration result log,
      state.threads.length ≤ index →
      later.threads[index]? = some ⟨.store handle (.acquireWithAuthority key digest authority
        executionClass leaseDuration), .done (.acquired (.ok result)), log⟩ →
      result.kind = .leaseAcquired ∨ result.kind = .leaseReclaimed →
      Granted state.world later.world result.lease) ∧
    (∀ (lease : Lease) (held : World) (carried : Row), held.Evolves state.world →
      held.find lease.executionID = some carried → carried.names lease = true →
      ∃ row, state.world.find lease.executionID = some row ∧
        (∀ token generation, Granted state.world later.world ⟨lease.executionID, token, generation⟩ →
          lease.generation < generation ∧ ∃ row', later.world.find lease.executionID = some row' ∧
            lease.Lost later.world.now row') ∧
        (lease.Lost state.world.now row →
          ∀ index handle Result (call : EffectStore Result) program log,
            call.fence? = some lease → state.threads.length ≤ index →
            later.threads[index]? = some ⟨.store handle call, program, log⟩ →
            Rejected faults later.world lease.executionID (call.Repeats platform.toPlatform)
              program) ∧
        (lease.generation < row.lease.generation ∨ row.lease.token = none →
          ∀ index handle expectedState program log, state.threads.length ≤ index →
            later.threads[index]? = some ⟨.store handle (.enterRecovery lease.executionID
              expectedState carried.version), program, log⟩ →
            Rejected faults later.world lease.executionID (fun _ => False) program)) ∧
    (∀ index handle lease duration log, state.threads.length ≤ index →
      later.threads[index]? = some ⟨.store handle (.renewLease lease duration),
        .done (.written (.ok ())), log⟩ →
      ∃ before row, Renewed state.world later.world handle lease duration before row) := by
  refine ⟨?_, ?_, ?_⟩
  · intro index handle key digest authority executionClass leaseDuration result log new thread
      acquired
    obtain ⟨start, since, follows⟩ := Pool.Reaches.started reaches thread new
    have ensured : Ensures faults unguarded
        (Answers .unrestricted handle key digest state.world.Evolves [])
        (handle.serve platform.toPlatform
          (.acquireWithAuthority key digest authority executionClass leaseDuration)) start [] :=
      ensures_acquisition (fun moved since => Relation.ReflTransGen.trans since moved)
        (fun _ _ _ => trivial) since
    obtain ⟨reply, same, answers⟩ := call_outcome ensured follows
    cases same
    obtain ⟨before, after, evolves, acquisition, further⟩ := answers.2 result rfl
    exact acquisition.granted acquired evolves further
  · intro lease held carried evolves heldFound names
    obtain ⟨row', found, precedes⟩ := evolves.precedes heldFound
    obtain ⟨_, generations⟩ := Relational.holds_of_found (evolves.monotone heldFound) found
    obtain ⟨token, generation⟩ := Row.names_iff.mp names
    have notAhead : lease.generation ≤ row'.lease.generation := generation ▸ generations
    refine ⟨row', found, ?_, ?_, ?_⟩
    · intro token' generation' granted
      obtain ⟨grown, row'', found'', newer⟩ := granted.supersedes found
      exact ⟨by omega, row'', found'', .superseded (by omega)⟩
    · intro lost index handle Result call program log fenced new thread
      obtain ⟨start, since, follows⟩ := Pool.Reaches.started reaches thread new
      have gone : Lasts lease.executionID lease.Gone start := fun after further =>
        (lost.gone notAhead).evolves (Relation.ReflTransGen.trans since further) found
      apply rejected follows (EffectStore.fence_target fenced) gone
      exact fun mutation updates => Mutation.fence_misses (EffectStore.fence_updates fenced updates)
    · intro moved index handle expectedState program log new thread
      obtain ⟨start, since, follows⟩ := Pool.Reaches.started reaches thread new
      have behind : Lasts lease.executionID (fun _ row => carried.version < row.version) start := by
        intro after further
        have grown := precedes.version_lt names moved
        obtain ⟨current, currentFound, versions, _⟩ :=
          World.Evolves.monotone (Relation.ReflTransGen.trans since further) found
        exact ⟨current, currentFound, by omega⟩
      apply rejected follows rfl behind
      intro mutation updates
      obtain ⟨legal, rfl⟩ := updates
      exact Mutation.enterRecovery_misses
  · intro index handle lease duration log new thread
    obtain ⟨start, since, follows⟩ := Pool.Reaches.started reaches thread new
    obtain ⟨reply, same, renews⟩ := call_outcome ensures_renewLease follows
    cases same
    obtain ⟨before, row, renewed⟩ := renews rfl
    exact ⟨before, row, { renewed with since := since.trans renewed.since }⟩

def sampleAbandon : List Choice :=
  Choice.complete (sampleAcquire "digest") 0 "token" "execution" ++
  Choice.complete (.store sampleHandle (.abandonPreDispatch sampleLease)) 1 "" ""

/-- A holder that gave its lease up and begins the execution all the same is rejected. -/
theorem lost_leases_are_fenced_abandoned :
    ∃ row program,
      ((SystemState.initial 0).follow samplePlatform sampleAbandon).world.find "execution" =
        some row ∧ row.lease.token = none ∧
      (((SystemState.initial 0).follow samplePlatform sampleAbandon).follow samplePlatform
        (Choice.complete (.store sampleHandle (.beginExecution sampleLease)) 2 "" "")).threads[2]? =
          some ⟨.store sampleHandle (.beginExecution sampleLease), program, []⟩ ∧
      Rejected false (((SystemState.initial 0).follow samplePlatform sampleAbandon).follow
        samplePlatform (Choice.complete (.store sampleHandle (.beginExecution sampleLease)) 2 "" "")
        ).world "execution" (fun _ => False) program := by
  have fenced := (lost_leases_are_fenced samplePlatform false (fun _ => True)
    (follow_reaches samplePlatform false
      (Choice.complete (.store sampleHandle (.beginExecution sampleLease)) 2 "" "")
      ((SystemState.initial 0).follow samplePlatform sampleAbandon))).2.1
  have evolves : (((SystemState.initial 0).follow samplePlatform
      (Choice.complete (sampleAcquire "digest") 0 "token" "execution")).world).Evolves
      ((SystemState.initial 0).follow samplePlatform sampleAbandon).world :=
    reaches_evolves (follow_reaches samplePlatform false
      (Choice.complete (.store sampleHandle (.abandonPreDispatch sampleLease)) 1 "" "") _)
  obtain ⟨row, found, _, rejects, _⟩ := fenced sampleLease _ _ evolves rfl rfl
  have free : row.lease.token = none := by
    cases found
    rfl
  exact ⟨row, _, found, free, rfl,
    rejects (.cleared free) 2 sampleHandle Unit (.beginExecution sampleLease) _ [] rfl (by decide) rfl⟩

/-- A holder whose lease expired in flight still takes the row into recovery. -/
theorem expired_holder_enters_recovery :
    ∃ row row',
      ((SystemState.initial 0).follow samplePlatform (sampleCrossing ++ [.wait 2000])).world.find
        "execution" = some row ∧ row.names sampleLease = true ∧
      sampleLease.Lost ((SystemState.initial 0).follow samplePlatform
        (sampleCrossing ++ [.wait 2000])).world.now row ∧
      ((SystemState.initial 0).follow samplePlatform (sampleCrossing ++ [.wait 2000] ++
        Choice.complete (.store sampleHandle (.enterRecovery "execution" .inFlight 3)) 3 "" "")
        ).threads[3]? = some ⟨.store sampleHandle (.enterRecovery "execution" .inFlight 3),
          .done (.written (.ok ())), []⟩ ∧
      ((SystemState.initial 0).follow samplePlatform (sampleCrossing ++ [.wait 2000] ++
        Choice.complete (.store sampleHandle (.enterRecovery "execution" .inFlight 3)) 3 "" "")
        ).world.find "execution" = some row' ∧ row'.state = .unknown :=
  ⟨_, _, rfl, rfl, .expired rfl, rfl, rfl, rfl⟩

end Crabedence
