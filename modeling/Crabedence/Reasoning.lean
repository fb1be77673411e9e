import Crabedence.Store.Laws
import Crabedence.System

/-!
# Reasoning about calls

The rules by which facts about one method call are derived from facts about its transactions, and
facts about a caller of the running system from facts about its call.  All of them quantify over
what other callers and the clock do before, between and after the transactions, and over the faults
a transaction may suffer.
-/

namespace Crabedence

open Resumption

/-- Whatever the environment does, the method issues its operations under `guard` and can only
return in `post`. -/
def StoreM.EnsuresIn (environment : Environment) (faults : Bool)
    (guard : Machine.Guard Operation World Mark) {Result : Type}
    (post : Except StoreError Result → World → List Mark → Prop) (method : StoreM Result)
    (world : World) (log : List Mark) : Prop :=
  (systemIn environment faults).Safe guard post method.run world log

/-- The same whatever other callers do. -/
abbrev StoreM.Ensures (faults : Bool) (guard : Machine.Guard Operation World Mark) {Result : Type}
    (post : Except StoreError Result → World → List Mark → Prop) (method : StoreM Result)
    (world : World) (log : List Mark) : Prop :=
  EnsuresIn .unrestricted faults guard post method world log

def unguarded : Machine.Guard Operation World Mark := fun _ _ _ => True

variable {faults : Bool} {Result : Type} {world later : World} {log : List Mark}
  {platform : DispatchPlatform}

theorem follows_evolves {program rest : Program Operation Result} {log' : List Mark}
    (follows : (system faults).Follows program world log rest later log') :
    world.Evolves later := by
  apply follows.relied
  intro Reply operation before after reply marks served
  exact served.1.evolves

/-- Some run leads to the world. -/
def World.Reached (world : World) : Prop :=
  ∃ start, (SystemState.initial start).world.Evolves world

theorem World.Reached.moved (reached : world.Reached) (evolves : world.Evolves later) :
    later.Reached := by
  obtain ⟨start, since⟩ := reached
  exact ⟨start, since.trans evolves⟩

theorem Reachable.reached {admitted : Call → Prop} {state : SystemState}
    (reachable : Reachable platform faults admitted state) : state.world.Reached := by
  obtain ⟨start, reaches⟩ := reachable
  exact ⟨start, reaches_evolves reaches⟩

variable {environment : Environment} {guard : Machine.Guard Operation World Mark} {Other : Type}

namespace StoreM

variable {post : Except StoreError Result → World → List Mark → Prop} {method : StoreM Result}

theorem ensures_pure {result : Result}
    (holds : ∀ later, environment.rely world later → post (.ok result) later log) :
    EnsuresIn environment faults guard post (pure result) world log :=
  holds

theorem ensures_throw {error : StoreError}
    (holds : ∀ later, environment.rely world later → post (.error error) later log) :
    EnsuresIn environment faults guard post (throw error) world log :=
  holds

theorem ensures_lift {reply : Except StoreError Result}
    (holds : ∀ later, environment.rely world later → post reply later log) :
    EnsuresIn environment faults guard post (liftM reply) world log :=
  holds

variable {post' : Except StoreError Result → World → List Mark → Prop} {first : StoreM Other}
  {next : Other → StoreM Result} {epoch : Int} {transaction : Transaction Result}

theorem EnsuresIn.mono (ensured : EnsuresIn environment faults guard post method world log)
    (weaker : ∀ reply world log, post reply world log → post' reply world log) :
    EnsuresIn environment faults guard post' method world log :=
  Machine.Safe.mono ensured (fun _ _ _ allowed => allowed) weaker

theorem ensures_bind (ensured : EnsuresIn environment faults guard (fun outcome world log =>
      match outcome with
      | .ok result => EnsuresIn environment faults guard post (next result) world log
      | .error error => ∀ later, environment.rely world later → post (.error error) later log)
      first world log) : EnsuresIn environment faults guard post (first >>= next) world log := by
  apply Machine.Safe.except_bind
  refine EnsuresIn.mono ensured ?_
  intro outcome later marks reached
  cases outcome with
  | ok result | error error => exact reached

theorem ensures_seq {middle : Except StoreError Other → World → List Mark → Prop}
    (ensured : EnsuresIn environment faults guard middle first world log)
    (fails : ∀ error later log', middle (.error error) later log' → post (.error error) later log')
    (continues : ∀ result later log', middle (.ok result) later log' →
      EnsuresIn environment faults guard post (next result) later log') :
    EnsuresIn environment faults guard post (first >>= next) world log := by
  apply ensures_bind
  refine EnsuresIn.mono (Machine.Safe.lasting ensured) ?_
  intro outcome later log' reached
  cases outcome with
  | error error => exact fun final moved => fails error final log' (reached final moved)
  | ok result => exact continues result later log' (reached later (environment.refl later))

theorem ensures_checked {check : Except StoreError Other}
    (failed : ∀ error later, check = .error error → environment.rely world later →
      post (.error error) later log)
    (continues : ∀ result later, check = .ok result → environment.rely world later →
      EnsuresIn environment faults guard post (next result) later log) :
    EnsuresIn environment faults guard post (liftM check >>= next) world log := by
  apply ensures_bind
  apply ensures_lift
  intro later moved
  cases checked : check with
  | error error => exact fun last further => failed error last checked (environment.trans moved further)
  | ok result => exact continues result later checked moved

/-- One transaction: it commits and its reply is returned, or it fails with a driver error, with or
without having taken effect. -/
theorem ensuresIn_sql (holds : ∀ before, environment.rely world before →
      guard (.sql epoch transaction) before log ∧
      (∀ later, environment.rely (before.commit epoch transaction) later →
        post (.ok (transaction.exec epoch before.now before.database).1) later
          (log ++ (Operation.sql epoch transaction).marks
            (.ok (transaction.exec epoch before.now before.database).1))) ∧
      (faults = true → ∀ text later,
        environment.rely before later ∨ environment.rely (before.commit epoch transaction) later →
        post (.error (.driver text)) later log)) :
    EnsuresIn environment faults guard post (StoreM.sql epoch transaction) world log := by
  intro before moved
  obtain ⟨allowed, committed, failed⟩ := holds before moved
  refine ⟨allowed, ?_⟩
  rintro reply after marks ⟨served, rfl⟩ later further
  cases served with
  | committed => exact committed later further
  | refused faulty text =>
    rw [Operation.marks_error, List.append_nil]
    exact failed faulty text later (.inl further)
  | unacknowledged faulty text =>
    rw [Operation.marks_error, List.append_nil]
    exact failed faulty text later (.inr further)

/-- In an unrestricted environment a transaction that took effect unnoticed is one more move of
the environment. -/
theorem ensures_sql (holds : ∀ before, world.Evolves before →
      guard (.sql epoch transaction) before log ∧
      (∀ later, (before.commit epoch transaction).Evolves later →
        post (.ok (transaction.exec epoch before.now before.database).1) later
          (log ++ (Operation.sql epoch transaction).marks
            (.ok (transaction.exec epoch before.now before.database).1))) ∧
      (faults = true → ∀ text later, before.Evolves later →
        post (.error (.driver text)) later log)) :
    Ensures faults guard post (StoreM.sql epoch transaction) world log := by
  apply ensuresIn_sql
  intro before moved
  obtain ⟨allowed, committed, failed⟩ := holds before moved
  refine ⟨allowed, committed, fun faulty text later further => ?_⟩
  rcases further with lost | unnoticed
  · exact failed faulty text later lost
  · exact failed faulty text later (.head (.commit epoch transaction) unnoticed)

theorem ensures_host {request : Host Result}
    (holds : ∀ before, environment.rely world before → guard (.host request) before log ∧
      ∀ reply later, (faults = false → request.Answered reply) → environment.rely before later →
        post (.ok reply) later (log ++ (Operation.host request).marks reply)) :
    EnsuresIn environment faults guard post (StoreM.host request) world log := by
  intro before moved
  obtain ⟨allowed, answered⟩ := holds before moved
  refine ⟨allowed, ?_⟩
  rintro reply after marks ⟨⟨rfl, worked⟩, rfl⟩ later further
  exact answered reply later worked further

theorem ensures_evolves :
    Ensures faults unguarded (fun _ later _ => world.Evolves later) method world log :=
  Machine.safe_iff_follows.mpr
    ⟨fun _ _ _ _ _ => trivial, fun _ _ _ follows => follows_evolves follows⟩

theorem EnsuresIn.and (ensured : EnsuresIn environment faults guard post method world log)
    (also : EnsuresIn environment faults guard post' method world log) :
    EnsuresIn environment faults guard (fun reply world log => post reply world log ∧
      post' reply world log) method world log :=
  Machine.Safe.and ensured also

theorem EnsuresIn.restrict (ensured : Ensures faults guard post method world log)
    (environment : Environment) : EnsuresIn environment faults guard post method world log :=
  Machine.Safe.restrict ensured (fun served => served) environment.evolves

theorem ensures_attempt {post : Except StoreError (Except StoreError Result) → World →
      List Mark → Prop} (ensured : EnsuresIn environment faults guard
      (fun outcome world log => post (.ok outcome) world log) method world log) :
    EnsuresIn environment faults guard post method.attempt world log := by
  apply Machine.Safe.bind
  exact Machine.Safe.lasting ensured

end StoreM

namespace StoreM

def runAlone (replies : HostReplies) (method : StoreM Result) (world : World) :
    Except StoreError Result × World :=
  method.run.execute replies.serve world

@[simp] theorem runAlone_sql (replies : HostReplies) (epoch : Int)
    (transaction : Transaction Result) (world : World) :
    runAlone replies (StoreM.sql epoch transaction) world =
      (.ok (transaction.exec epoch world.now world.database).1, world.commit epoch transaction) :=
  rfl

theorem runAlone_bind_ok {replies : HostReplies} {first : StoreM Other} {result : Other}
    {after : World} (next : Other → StoreM Result)
    (ran : runAlone replies first world = (.ok result, after)) :
    runAlone replies (first >>= next) world = runAlone replies (next result) after := by
  show (first.run.bind (ExceptT.bindCont next)).execute replies.serve world = _
  unfold runAlone at ran
  rw [Program.execute_bind, ran]
  rfl

theorem follows_runAlone (environment : Environment) (faults : Bool) (replies : HostReplies)
    (method : StoreM Result) (world : World) :
    ∃ log, (systemIn environment faults).Follows method.run world []
      (.done (runAlone replies method world).1) (runAlone replies method world).2 log :=
  Machine.follows_execute fun operation world =>
    ⟨_, replies.serves faults operation world, rfl⟩

end StoreM

variable {mutation : Mutation}

theorem World.commit_hit {epoch : Int} {row : Row} (found : world.find mutation.target = some row)
    (allowed : mutation.guard world.now world.database.cluster row = true)
    (current : world.database.cluster.epoch = epoch) :
    (world.commit epoch (.apply mutation)).find mutation.target =
      some (mutation.assign world.now row) := by
  have target : row.executionID = mutation.target := (Relational.Table.find_some_iff.mp found).2
  have selected : world.database.selects epoch world.now mutation row = true := by
    simp only [Database.selects, target, allowed, current, decide_true, Bool.and_self]
  show (world.database.applyMutation epoch world.now mutation).2.find mutation.target = _
  have before : world.database.find mutation.target = some row := found
  rw [Database.applyMutation_find, before, Option.map_some, if_pos selected]

theorem call_outcome {handle : SQLiteStore} {call : EffectStore Result}
    {post : Except StoreError Result → World → List Mark → Prop} {start : World} {outcome : Outcome}
    (ensured : StoreM.Ensures faults unguarded post (handle.serve platform.toPlatform call) start [])
    (follows : (system faults).Follows ((Call.store handle call).program platform) start []
      (.done outcome) later log) :
    ∃ reply, outcome = call.outcome reply ∧ post reply later log := by
  have safe : (system faults).Safe unguarded
      (fun outcome world log => ∃ reply, outcome = call.outcome reply ∧ post reply world log)
      ((Call.store handle call).program platform) start [] := by
    apply Machine.Safe.bind
    refine (Machine.Safe.lasting ensured).mono (fun _ _ _ allowed => allowed) ?_
    intro reply world log holds final moved
    exact ⟨reply, rfl, holds final moved⟩
  exact (Machine.safe_iff_follows.mp safe).2 outcome later log follows

/-- A guard that every method of the handle and every question to the host keeps is kept by every
caller. -/
theorem call_safe {call : Call}
    (methods : ∀ {Result : Type} (method : EffectStore Result) world log,
      StoreM.Ensures faults guard (fun _ _ _ => True)
        (call.handle.serve platform.toPlatform method) world log)
    (hosts : ∀ {Reply : Type} (request : Host Reply) world log, guard (.host request) world log)
    (world : World) (log : List Mark) :
    (system faults).Safe guard (fun _ _ _ => True) (call.program platform) world log := by
  cases call with
  | store handle method =>
    apply Machine.Safe.bind
    exact (methods method world log).mono fun _ _ _ _ _ _ => trivial
  | execute handle executor request descriptor =>
    have runs : ((system faults).through (DispatchOp.implement platform.toPlatform handle)).Safe
        (fun _ _ _ => True) (fun _ _ _ => True)
        (executor.executeWithIdempotency platform request descriptor) world log :=
      Machine.safe_iff_follows.mpr ⟨fun _ _ _ _ _ => trivial, fun _ _ _ _ => trivial⟩
    apply Machine.Safe.bind
    refine (runs.interpret ?_).mono (fun _ _ _ allowed => allowed) fun _ _ _ _ _ _ => trivial
    intro Reply operation world log _
    cases operation with
    | store method => exact methods method world log
    | host asked => exact fun before _ => ⟨hosts asked before log, fun _ _ _ _ _ _ => trivial⟩

namespace SQLiteStore

open StoreM

variable {store : SQLiteStore}

section Blocks

variable (inv : World → Prop)
variable (stable : ∀ {before after}, environment.rely before after → inv before → inv after)
variable (allows : ∀ {Reply : Type} (operation : Operation Reply) before,
  operation.routine = true → guard operation before log)
include stable allows

/-- A single-row update either hit its row, in a world where `inv` held, or changed nothing. -/
theorem ensures_apply
    (routine : (Operation.sql store.epoch (.apply mutation)).routine = true) (holds : inv world) :
    EnsuresIn environment faults guard (fun reply later log' => log' = log ∧
      (reply = .ok true → ∃ before row, inv before ∧ before.find mutation.target = some row ∧
        mutation.guard before.now before.database.cluster row = true ∧
        before.database.cluster.epoch = store.epoch ∧
        environment.rely (before.commit store.epoch (.apply mutation)) later) ∧
      (reply = .ok false → inv later)) (store.sql (.apply mutation)) world log := by
  apply ensuresIn_sql
  intro before moved
  refine ⟨allows _ _ routine, fun later further => ?_, fun _ text later _ => ⟨rfl, nofun, nofun⟩⟩
  rw [Operation.marks_routine _ routine, List.append_nil]
  refine ⟨rfl, fun hit => ?_, fun missed => ?_⟩
  · have applied : (before.database.applyMutation store.epoch before.now mutation).1 = true :=
      Except.ok.inj hit
    obtain ⟨row, found, allowed, current⟩ := Database.applyMutation_hit_iff.mp applied
    exact ⟨before, row, stable moved holds, found, allowed, current, further⟩
  · have kept : before.commit store.epoch (.apply mutation) = before :=
      World.commit_eq (Database.applyMutation_miss (Except.ok.inj missed))
    exact stable (environment.trans moved (kept ▸ further)) holds

/-- A read reports what it saw in a world where `inv` held. -/
theorem ensures_read {transaction : Transaction Result}
    (reads : transaction.isRead = true) (holds : inv world) :
    EnsuresIn environment faults guard (fun reply later log' => log' = log ∧ inv later ∧
      ∀ result, reply = .ok result → ∃ seen, inv seen ∧ environment.rely seen later ∧
        result = (transaction.exec store.epoch seen.now seen.database).1)
      (store.sql transaction) world log := by
  have routine : (Operation.sql store.epoch transaction).routine = true := by
    cases transaction <;> first | rfl | cases reads
  apply ensuresIn_sql
  intro before moved
  have kept : before.commit store.epoch transaction = before := by
    cases transaction <;> first | rfl | cases reads
  rw [kept]
  refine ⟨allows _ _ routine, fun later further => ?_, fun _ text later further => ?_⟩
  · rw [Operation.marks_routine _ routine, List.append_nil]
    refine ⟨rfl, stable (environment.trans moved further) holds, fun result same => ?_⟩
    exact ⟨before, stable moved holds, further, (Except.ok.inj same).symm⟩
  · have evolved : environment.rely before later := further.elim id id
    exact ⟨rfl, stable (environment.trans moved evolved) holds, nofun⟩

theorem ensures_checkEpoch (holds : inv world) :
    EnsuresIn environment faults guard (fun _ later log' => log' = log ∧ inv later)
      store.checkEpoch world log := by
  refine ensures_seq (ensures_read inv stable allows rfl holds) ?_ ?_
  · exact fun _ _ _ kept => ⟨kept.1, kept.2.1⟩
  · rintro current later _ ⟨rfl, held, _⟩
    split_ifs
    · exact ensures_throw fun final moved => ⟨rfl, stable moved held⟩
    · exact ensures_pure fun final moved => ⟨rfl, stable moved held⟩

theorem ensures_checkRecoveryMode (holds : inv world) :
    EnsuresIn environment faults guard (fun _ later log' => log' = log ∧ inv later)
      store.checkRecoveryMode world log := by
  refine ensures_seq (ensures_read inv stable allows rfl holds) ?_ ?_
  · exact fun _ _ _ kept => ⟨kept.1, kept.2.1⟩
  · rintro recovering later _ ⟨rfl, held, _⟩
    split_ifs
    · exact ensures_throw fun final moved => ⟨rfl, stable moved held⟩
    · exact ensures_pure fun final moved => ⟨rfl, stable moved held⟩

theorem ensures_scanned (transaction : Transaction (Option Record))
    (select : Database → Option Row) (reads : transaction.isRead = true)
    (selects : ∀ epoch now database,
      (transaction.exec epoch now database).1 = (select database).map Row.scan)
    (holds : inv world) :
    EnsuresIn environment faults guard (fun reply later log' => log' = log ∧ inv later ∧
      ∀ record, reply = .ok record → ∃ seen row, inv seen ∧ environment.rely seen later ∧
        select seen.database = some row ∧ record = row.scan) (do
        match ← store.sql transaction with
        | some record => return record
        | none => throw .noRows) world log := by
  refine ensures_seq (ensures_read inv stable allows reads holds) ?_ ?_
  · rintro error later _ ⟨rfl, held, _⟩
    exact ⟨rfl, held, fun _ same => by cases same⟩
  · rintro found later _ ⟨rfl, held, saw⟩
    obtain ⟨seen, seenHeld, since, read⟩ := saw found rfl
    rw [selects] at read
    cases found with
    | none =>
      apply ensures_throw
      exact fun final moved => ⟨rfl, stable moved held, fun _ same => by cases same⟩
    | some record =>
      obtain ⟨row, rowFound, scanned⟩ := Option.map_eq_some_iff.mp read.symm
      refine ensures_pure fun final moved => ⟨rfl, stable moved held, fun record' same => ?_⟩
      exact ⟨seen, row, seenHeld, environment.trans since moved, rowFound,
        (Except.ok.inj same).symm.trans scanned.symm⟩

variable {executionID : String}

theorem ensures_lookup (holds : inv world) :
    EnsuresIn environment faults guard (fun reply later log' => log' = log ∧ inv later ∧
      ∀ record, reply = .ok record → ∃ seen row, inv seen ∧ environment.rely seen later ∧
        seen.find executionID = some row ∧ record = row.scan)
      (store.lookup executionID) world log :=
  ensures_scanned inv stable allows (.lookup executionID) (fun database => database.find executionID)
    rfl (fun _ _ _ => rfl) holds

/-- A caller that handles a failed lookup goes on with the row it read, or with an error. -/
theorem ensures_looked {post : Except StoreError Result → World → List Mark → Prop}
    {next : Except StoreError Record → StoreM Result}
    (missing : ∀ reason later, EnsuresIn environment faults guard post (next (.error reason)) later
      log) (read : ∀ (seen : World) (row : Row) later, inv seen → seen.find executionID = some row →
      environment.rely seen later →
      EnsuresIn environment faults guard post (next (.ok row.scan)) later log) (holds : inv world) :
    EnsuresIn environment faults guard post ((store.lookup executionID).attempt >>= next) world
      log := by
  apply ensures_bind
  apply ensures_attempt
  apply (ensures_lookup inv stable allows holds).mono
  intro looked later log' saw
  obtain ⟨rfl, _, found⟩ := saw
  cases looked with
  | error reason => exact missing reason later
  | ok record =>
    obtain ⟨seen, row, held, since, rowFound, rfl⟩ := found record rfl
    exact read seen row later held rowFound since

end Blocks

variable {key : RequestKey} {digest executionClass : String} {authority : AuthorityBinding}
  {leaseDuration : Duration} {row : Row}

/-- An acquisition either stops before its first transaction or runs `insertOrAcquire`. -/
theorem ensures_acquireWithAuthority
    {post : Except StoreError AcquireResult → World → List Mark → Prop}
    (allows : ∀ {Reply : Type} (operation : Operation Reply) before,
      operation.routine = true → guard operation before log)
    (invalid : ∀ error, store.leaseConfig.validate leaseDuration = .error error →
      ∀ later, post (.error error) later log) (starved : faults = true → ∀ context reason later,
      context = "failed to generate lease token" ∨ context = "failed to generate execution ID" →
      post (.error (.wrapped context (.message reason))) later log)
    (proceeds : ∀ executionID leaseOwner leaseToken later, environment.rely world later →
      store.leaseConfig.validate leaseDuration = .ok () →
      EnsuresIn environment faults guard post (store.insertOrAcquire {
        executionID, key, digest, authority, executionClass, leaseOwner, leaseToken,
        leaseDuration := msDuration leaseDuration } leaseDuration) later log) :
    EnsuresIn environment faults guard post (store.acquireWithAuthority key digest authority
      executionClass leaseDuration) world log := by
  have faulty {worked : Prop} (without : faults = false → worked) (failed : ¬ worked) :
      faults = true := by
    rw [← Bool.not_eq_false]
    exact fun quiet => failed (without quiet)
  apply ensures_checked
  · exact fun error later valid _ => invalid error valid later
  intro _ validated valid sinceStart
  apply ensures_bind
  apply ensures_host
  intro asked sinceValid
  refine ⟨allows _ _ rfl, fun token tokenWorld tokenWorked sinceToken => ?_⟩
  rw [Operation.marks_routine _ rfl, List.append_nil]
  cases token with
  | error reason => exact fun later _ => starved (faulty tokenWorked nofun) _ reason later (.inl rfl)
  | ok leaseToken =>
    apply ensures_bind
    apply ensures_host
    intro pidAsked sincePid
    refine ⟨allows _ _ rfl, fun pid pidWorld _ sincePidAsked => ?_⟩
    rw [Operation.marks_routine _ rfl, List.append_nil]
    apply ensures_bind
    apply ensures_host
    intro idAsked sinceIdAsked
    refine ⟨allows _ _ rfl, fun generated idWorld idWorked sinceId => ?_⟩
    rw [Operation.marks_routine _ rfl, List.append_nil]
    cases generated with
    | error reason => exact fun later _ => starved (faulty idWorked nofun) _ reason later (.inr rfl)
    | ok executionID =>
      refine proceeds executionID _ leaseToken idWorld ?_ valid
      have toPid := environment.trans sinceStart (environment.trans sinceValid sinceToken)
      have toId := environment.trans sincePid (environment.trans sincePidAsked sinceIdAsked)
      exact environment.trans toPid (environment.trans toId sinceId)

theorem runAlone_apply (replies : HostReplies) (found : world.find mutation.target = some row)
    (allowed : mutation.guard world.now world.database.cluster row = true)
    (current : world.database.cluster.epoch = store.epoch) :
    runAlone replies (store.sql (.apply mutation)) world =
      (.ok true, world.commit store.epoch (.apply mutation)) := by
  have hit : (world.database.applyMutation store.epoch world.now mutation).1 = true :=
    Database.applyMutation_hit_iff.mpr ⟨row, found, allowed, current⟩
  show runAlone replies (StoreM.sql store.epoch (.apply mutation)) world = _
  rw [runAlone_sql, Transaction.exec, hit]

theorem runAlone_insertOrAcquire_taken {request : NewRequest} (replies : HostReplies)
    (taken : world.database.findByKey request.key = some row) :
    runAlone replies (store.insertOrAcquire request leaseDuration) world =
      runAlone replies (store.acquireExisting request.key request.digest request.leaseToken
        request.leaseOwner leaseDuration row.scan) world := by
  have inserting : runAlone replies (store.sql (.insert request)) world = (.ok .nothing, world) := by
    have nothing : (Transaction.insert request).exec store.epoch world.now world.database =
        (.nothing, world.database) := Database.insertRequest_taken taken
    show runAlone replies (StoreM.sql store.epoch (.insert request)) world = _
    rw [runAlone_sql, nothing, World.commit_eq (by rw [nothing])]
  have looking : runAlone replies (store.sql (.lookupByKey request.key)) world =
      (.ok (some row.scan), world) := by
    have reads : (Transaction.lookupByKey request.key).exec store.epoch world.now world.database =
        (some row.scan, world.database) := by
      rw [Transaction.exec, taken, Option.map_some]
    show runAlone replies (StoreM.sql store.epoch (.lookupByKey request.key)) world = _
    rw [runAlone_sql, reads, World.commit_eq (by rw [reads])]
  unfold insertOrAcquire
  rw [runAlone_bind_ok _ inserting]
  exact runAlone_bind_ok _ looking

end SQLiteStore

end Crabedence
