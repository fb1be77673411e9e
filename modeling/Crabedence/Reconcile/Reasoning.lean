import Crabedence.Properties.ReconcileClaims
import Crabedence.Reconcile.System

/-!
# What reconcilers do under which conditions

A worker releases only claims that name a claimer at the version it presents, and calls the resolver
of a record only against a claim reported within the ceiling.  Other callers do neither.
-/

namespace Crabedence

open Resumption

def DispatchOp.releasesNothing {Reply : Type} : DispatchOp Reply → Prop
  | .store call => call.releases = false
  | .host _ => True

namespace DispatchExecutor

variable (platform : DispatchPlatform) (executor : DispatchExecutor) {request : Request}
  {descriptor : ResolvedDescriptor} {digest : String} {lease : Lease} {executionID : String}
  {response : Response}

theorem enterRecoveryRounds_emits {observation : ProviderObservation} (lastError : String)
    (attempts : Nat) : (enterRecoveryRounds executionID observation lastError attempts).Emits
      DispatchOp.releasesNothing := by
  induction attempts generalizing lastError with
  | zero => exact trivial
  | succ attempts ih =>
    refine ⟨rfl, fun found => ?_⟩
    cases found with
    | error reason => exact trivial
    | ok record =>
      show Program.Emits _ (ite _ _ _)
      split_ifs
      · refine ⟨rfl, fun entered => ?_⟩
        cases entered with
        | ok _ => exact trivial
        | error reason =>
          show Program.Emits _ (ite _ _ _)
          split_ifs
          · exact ih _
          · exact trivial
      · refine ⟨rfl, fun recorded => ?_⟩
        cases recorded <;> exact trivial
      · exact trivial
      · exact trivial

theorem abandonWith_emits : (abandonWith lease response).Emits DispatchOp.releasesNothing :=
  ⟨rfl, fun _ => trivial⟩

theorem finalizeReceipt_emits {receipt : TerminalReceipt} :
    (finalizeReceipt descriptor lease response receipt).Emits DispatchOp.releasesNothing := by
  refine ⟨rfl, fun found => ?_⟩
  cases found with
  | error reason => exact trivial
  | ok record =>
    refine ⟨rfl, fun finalized => ?_⟩
    cases finalized with
    | ok _ => exact trivial
    | error reason => exact (enterRecoveryRounds_emits _ _).bind fun _ => trivial

theorem terminalize_emits {state : State} :
    (executor.terminalize platform request descriptor digest lease state response).Emits
      DispatchOp.releasesNothing := by
  unfold terminalize
  split_ifs
  · refine ⟨trivial, fun signed => ?_⟩
    cases signed with
    | ok signature => exact finalizeReceipt_emits
    | error reason => exact (enterRecoveryRounds_emits _ _).bind fun _ => trivial
  · exact finalizeReceipt_emits

theorem settle_emits {outcome : DispatchOutcome} :
    (executor.settle platform request descriptor digest lease outcome).Emits
      DispatchOp.releasesNothing := by
  refine ⟨rfl, fun observed => ?_⟩
  show Program.Emits _ (ite _ _ _)
  split_ifs
  · exact (enterRecoveryRounds_emits _ _).bind fun _ => trivial
  · cases observed with
    | ok _ => exact terminalize_emits platform executor
    | error reason => exact (enterRecoveryRounds_emits _ _).bind fun _ => trivial

theorem invoke_emits {externalToken : String} :
    (executor.invoke request descriptor externalToken).Emits DispatchOp.releasesNothing := by
  refine ⟨trivial, fun expired => ?_⟩
  cases expired with
  | true => exact trivial
  | false =>
    refine ⟨trivial, fun reply => ?_⟩
    cases reply <;> exact trivial

theorem crossBoundary_emits {locator : RecoveryLocator} :
    (executor.crossBoundary platform request descriptor digest lease locator).Emits
      DispatchOp.releasesNothing := by
  unfold crossBoundary
  cases platform.marshalLocator locator with
  | error reason => exact abandonWith_emits
  | ok raw =>
    dsimp only
    split_ifs
    · exact abandonWith_emits
    · refine ⟨rfl, fun marked => ?_⟩
      cases marked with
      | error reason => exact abandonWith_emits
      | ok _ => exact (invoke_emits executor).bind fun _ => settle_emits platform executor

theorem prepareRecoveryLocator_emits :
    (executor.prepareRecoveryLocator request descriptor digest executionID).Emits
      DispatchOp.releasesNothing := by
  unfold prepareRecoveryLocator
  split_ifs
  · refine ⟨trivial, fun prepared => ?_⟩
    rcases prepared with reason | _ | locator <;> exact trivial
  · exact trivial

theorem runAcquired_emits : (executor.runAcquired platform request descriptor digest lease).Emits
      DispatchOp.releasesNothing := by
  refine ⟨trivial, fun expired => ?_⟩
  cases expired with
  | true => exact abandonWith_emits
  | false =>
    refine ⟨trivial, fun gated => ?_⟩
    cases gated with
    | error reason => exact abandonWith_emits
    | ok _ =>
      refine ⟨rfl, fun begun => ?_⟩
      cases begun with
      | error reason => exact abandonWith_emits
      | ok _ =>
        apply Program.Emits.bind (prepareRecoveryLocator_emits executor)
        intro prepared
        cases prepared with
        | error reason => exact abandonWith_emits
        | ok locator => exact crossBoundary_emits platform executor

theorem acquire_emits {leaseDuration : Duration} :
    (acquire platform request descriptor digest leaseDuration).Emits
      DispatchOp.releasesNothing := by
  refine ⟨rfl, fun acquired => ?_⟩
  cases acquired with
  | error reason => exact trivial
  | ok result =>
    show Program.Emits _ (ite _ _ _)
    split_ifs
    · cases legacyDigest platform request descriptor with
      | error reason => exact trivial
      | ok legacy =>
        show Program.Emits _ (ite _ _ _)
        split_ifs
        · refine ⟨rfl, fun retried => ?_⟩
          cases retried <;> exact trivial
        · exact trivial
    · exact trivial

theorem executeWithIdempotency_emits :
    (executor.executeWithIdempotency platform request descriptor).Emits
      DispatchOp.releasesNothing := by
  unfold executeWithIdempotency
  split_ifs
  · refine Program.Emits.bind ?_ fun _ => trivial
    refine ⟨trivial, fun gated => ?_⟩
    cases gated with
    | error reason => exact trivial
    | ok _ => exact invoke_emits executor
  · split
    · exact trivial
    · split
      · exact trivial
      · split
        · exact trivial
        · split
          · exact trivial
          · apply Program.Emits.bind (acquire_emits platform)
            intro acquired
            cases acquired with
            | error reason => exact trivial
            | ok result =>
              show Program.Emits _ (proceed ..)
              unfold proceed
              split_ifs
              · exact trivial
              · exact trivial
              · exact trivial
              · exact runAcquired_emits platform executor

end DispatchExecutor
def Mutation.releases : Mutation → Bool
  | .releaseReconcileClaim .. => true
  | _ => false

def Operation.ReleasesNothing : {Reply : Type} → Operation Reply → Prop
  | _, .sql _ (.apply mutation) => mutation.releases = false
  | _, _ => True

def ReconcileOp.Lifts (allowed : ∀ {Reply : Type}, Operation Reply → Prop) {Reply : Type} :
    ReconcileOp Reply → Prop
  | .base operation => allowed operation
  | .resolve _ => False

variable {platform : Platform} {Result Reply : Type} {call : EffectStore Result} {world : World}
  {epoch ceiling : Int} {mutation : Mutation}

theorem EffectStore.updates_releases (other : call.releases = false)
    (permitted : call.updates platform mutation) : mutation.releases = false := by
  cases mutation with
  | releaseReconcileClaim =>
    cases call <;> simp [updates, releases, Mutation.acquires] at permitted other
  | _ => rfl

theorem EffectStore.within_releases {operation : Operation Reply} (other : call.releases = false)
    (permitted : operation.Within epoch (call.footprint platform)) : operation.ReleasesNothing := by
  cases operation with
  | host request => exact trivial
  | sql epoch transaction =>
    cases transaction with
    | apply mutation => exact updates_releases other permitted.2
    | _ => exact trivial

theorem serve_releases {handle : SQLiteStore} (other : call.releases = false) :
    (handle.serve platform call).run.Emits Operation.ReleasesNothing := by
  apply Program.Emits.mono (serve_issues platform handle call)
  exact fun operation permitted => EffectStore.within_releases other permitted

theorem asReconciler_emits {program : Program Operation Result}
    {allowed : ∀ {Reply : Type}, Operation Reply → Prop} (emits : program.Emits allowed) :
    (asReconciler program).Emits (ReconcileOp.Lifts allowed) :=
  emits.implemented fun _ permitted => ⟨permitted, fun _ => trivial⟩

theorem caller_releases {platform : DispatchPlatform} {ceiling : Int} {caller : Call}
    (admitted : (Participant.call caller).Admitted ceiling) :
    (caller.program platform).Emits Operation.ReleasesNothing := by
  cases caller with
  | store handle method => exact (serve_releases admitted).bind fun _ => trivial
  | execute handle executor request descriptor =>
    refine Program.Emits.bind ?_ fun _ => trivial
    apply (executor.executeWithIdempotency_emits platform).implemented
    intro Reply operation permitted
    cases operation with
    | store method => exact serve_releases permitted
    | host request => exact ⟨trivial, fun _ => trivial⟩

def Held (id : String) (version : Int) (world : World) : Prop :=
  ∃ row, world.find id = some row ∧ version ≤ row.version ∧
    (row.version = version → row.reconcile.owner.isSome)

theorem Held.evolves {id : String} {version : Int} {before after : World}
    (held : Held id version before) (evolves : before.Evolves after) : Held id version after := by
  obtain ⟨row, found, least, claimed⟩ := held
  refine evolves.keeps (fun _ row => version ≤ row.version ∧
    (row.version = version → row.reconcile.owner.isSome)) (fun _ same => same) ?_ found
    ⟨least, claimed⟩
  intro Reply transaction epoch now cluster row next step held
  have grown := step.monotone.1
  refine ⟨Int.le_trans held.1 grown, fun same => ?_⟩
  have earlier : row.version = version := by omega
  cases step with
  | kept | scrubbed issued waiting current => exact held.2 earlier
  | claimed kind owner duration issued allowed current => cases kind <;> rfl
  | mutated mutation issued target allowed current =>
    cases ends : mutation.endsClaim with
    | true =>
      have stamped : (mutation.assign now row).version = row.version + 1 := by
        cases mutation <;> first | rfl | cases ends
      omega
    | false =>
      rw [(Mutation.keepsClaim ends).1]
      exact held.2 earlier

variable {limit : Nat}

namespace Lookup

def resolves (id : String) : Lookup → Bool
  | .resolved other => decide (other = id)
  | _ => false

def within (ceiling : Int) (id : String) : Lookup → Bool
  | .claimed other attempt => decide (other = id ∧ attempt ≤ ceiling)
  | _ => false

end Lookup

def Conduct (ceiling : Int) : Machine.Guard ReconcileOp World Lookup
  | _, .base (.sql _ (.apply (.releaseReconcileClaim id version _ _))), world, _ =>
    Held id version world
  | _, .resolve record, _, log =>
    log.countP (Lookup.resolves record.executionID) <
      log.countP (Lookup.within ceiling record.executionID)
  | _, _, _, _ => True

theorem conduct_of_releases {operation : ReconcileOp Reply} (world : World) (log : List Lookup)
    (other : ReconcileOp.Lifts Operation.ReleasesNothing operation) :
    Conduct ceiling operation world log := by
  cases operation with
  | resolve record => exact other.elim
  | base operation =>
    cases operation with
    | host request => exact trivial
    | sql epoch transaction =>
      cases transaction with
      | apply mutation => cases mutation <;> first | exact trivial | cases other
      | _ => exact trivial

def WorkerConduct (ceiling : Int) : Machine.Guard WorkerOp World Lookup
  | _, .store (.releaseReconcileClaim id version _ _), world, _ => Held id version world
  | _, .resolve record, _, log =>
    log.countP (Lookup.resolves record.executionID) <
      log.countP (Lookup.within ceiling record.executionID)
  | _, _, _, _ => True

theorem conduct_of_call {operation : Operation Reply} {log : List Lookup} (sofar : List Lookup)
    (allowed : WorkerConduct ceiling (.store call) world log)
    (permitted : operation.Within epoch (call.footprint platform)) :
    Conduct ceiling (.base operation) world sofar := by
  cases released : call.releases with
  | false => exact conduct_of_releases _ _ (EffectStore.within_releases released permitted)
  | true =>
    cases call <;> cases released
    cases operation with
    | host request => exact trivial
    | sql epoch transaction =>
      cases transaction with
      | apply mutation =>
        have same := permitted.2
        cases same
        exact allowed
      | _ => exact trivial

section Worker

variable {faults : Bool} {handle : SQLiteStore}
  {later : World} {log : List Lookup} {log' : List Lookup}

theorem WorkerConduct.evolves
    (allowed : WorkerConduct ceiling (.store call) world log) (evolves : world.Evolves later) :
    WorkerConduct ceiling (.store call) later log' := by
  cases call with
  | releaseReconcileClaim => exact Held.evolves allowed evolves
  | _ => exact trivial

variable {kind : ClaimKind} {owner : String} {marks : List Lookup} {record : Record}

theorem implement_conduct (operation : WorkerOp Reply)
    (allowed : WorkerConduct ceiling operation world log) :
    (reconciler faults).Safe (Conduct ceiling) (fun _ _ _ => True)
      (operation.implement platform handle) world log := by
  cases operation with
  | resolve record => exact fun _ _ => ⟨allowed, fun _ _ _ _ _ _ => trivial⟩
  | sign binding => exact fun _ _ => ⟨trivial, fun _ _ _ _ _ _ => trivial⟩
  | store call =>
    apply Machine.safe_of_emits_while
      (fun world => WorkerConduct ceiling (.store call) world log)
      (asReconciler_emits (serve_issues platform handle call))
    · exact fun moved allowed => WorkerConduct.evolves allowed moved
    · exact fun served allowed => WorkerConduct.evolves allowed served.1.evolves
    · intro Reply operation before sofar permitted allowed
      cases operation with
      | resolve record => exact permitted.elim
      | base operation => exact conduct_of_call sofar allowed permitted
    · exact allowed

/-- Only the operation `resolve` calls a resolver. -/
theorem resolves_base (operation : Operation Reply) (reply : Reply) (id : String) :
    ((ReconcileOp.base operation).marks reply).countP (Lookup.resolves id) = 0 := by
  rw [List.countP_eq_zero]
  intro mark marked
  have claims (records : List Record) : mark ∈ records.map
      (fun record => Lookup.claimed record.executionID record.reconcileAttempt) →
      ¬ mark.resolves id = true := by
    intro member
    obtain ⟨record, _, rfl⟩ := List.mem_map.mp member
    exact Bool.false_ne_true
  cases operation with
  | host request => cases marked
  | sql epoch transaction =>
    cases transaction with
    | claim kind owner duration limit =>
      cases kind with
      | expired => cases marked
      | unknown =>
        cases reply with
        | error text => cases marked
        | ok records => exact claims records marked
    | _ => cases marked

theorem Follows.resolves {program : Program Operation Result} {rest : Program ReconcileOp Result}
    (reached : (reconciler faults).Follows (asReconciler program) world log rest later log')
    (id : String) : log'.countP (Lookup.resolves id) = log.countP (Lookup.resolves id) := by
  have lifted : (reconciler faults).Safe (fun operation _ _ => ReconcileOp.Lifts (fun _ => True) operation)
      (fun _ _ _ => True) (asReconciler program) world log :=
    Machine.safe_of_emits (asReconciler_emits (Program.emits_any program)) fun _ _ _ lifts => lifts
  apply lifted.keeps (fun _ sofar => sofar.countP (Lookup.resolves id) =
    log.countP (Lookup.resolves id)) reached (fun _ same => same) _ rfl
  intro Reply operation before after reply sofar marks lifts served same
  cases operation with
  | resolve record => exact lifts.elim
  | base operation => rw [served.2, List.countP_append, resolves_base, Nat.add_zero, same]

def Reported (ceiling : Int) (kind : ClaimKind) (reply : Except StoreError (List Record))
    (world : World) (log : List Lookup) : Prop :=
  ∀ records, reply = .ok records →
    (∀ record ∈ records, Held record.executionID record.version world) ∧
      (kind = .unknown → ∀ id, records.countP (fun record =>
        decide (record.executionID = id ∧ record.reconcileAttempt ≤ ceiling)) ≤
          log.countP (Lookup.within ceiling id))

theorem reported_error {error : StoreError} : Reported ceiling kind (.error error) world log := by
  intro records same
  cases same

variable {records : List Record}

theorem reported_claim {duration : Int} {after : World}
    (served : (reconciler faults).serve (.base (.sql epoch (.claim kind owner duration limit))) world
      (.ok records) after marks) (evolves : after.Evolves later) :
    Reported ceiling kind (.ok records) later marks := by
  intro reported same
  obtain rfl : records = reported := Except.ok.inj same
  obtain ⟨reports, marked⟩ := served
  cases reports
  refine ⟨fun record member => ?_, fun unknown id => ?_⟩
  · obtain ⟨row, _, _, claimed, same⟩ := Database.applyClaim_reported member
    refine Held.evolves ?_ evolves
    refine ⟨_, claimed, ?_, fun _ => ?_⟩
    · rw [same]
      exact Int.le_refl _
    · cases kind <;> rfl
  · subst unknown
    rw [marked]
    show _ ≤ (List.map (fun record : Record =>
      Lookup.claimed record.executionID record.reconcileAttempt) _).countP _
    rw [List.countP_map]
    exact Nat.le_refl _

theorem claimBatch_reported {batchSize : Int} {claimDuration : Duration} :
    (reconciler faults).Safe (fun _ _ _ => True) (Reported ceiling kind)
      (asReconciler (handle.claimBatch kind owner batchSize claimDuration).run) world [] := by
  intro before moved
  refine ⟨trivial, fun reply after marks served => ?_⟩
  cases reply with
  | error text => exact fun _ _ => reported_error
  | ok records =>
    cases records with
    | nil =>
      -- the epoch check reports nothing either
      intro checked further
      refine ⟨trivial, fun epoch final added _ => ?_⟩
      cases epoch with
      | error text => exact fun _ _ => reported_error
      | ok current =>
        show (reconciler faults).Safe _ _ (Program.interpret _ (Program.bind
          (ExceptT.run (ite _ _ _)) _)) _ _
        split_ifs
        · exact fun _ _ => reported_error
        · rintro _ _ _ ⟨⟩
          exact ⟨List.forall_mem_nil _, fun _ _ => Nat.zero_le _⟩
    | cons record rest => exact fun _ further => reported_claim served further

/-- The records in `held` are held, and the claims reported within the ceiling cover the resolver
calls made and one for each such record still `pending`. -/
structure Watched (ceiling : Int) (held pending : List Record) (world : World)
    (log : List Lookup) : Prop where
  claims : ∀ record ∈ held, Held record.executionID record.version world
  covered : ∀ id, log.countP (Lookup.resolves id) + pending.countP (fun record =>
    decide (record.executionID = id ∧ record.reconcileAttempt ≤ ceiling)) ≤
      log.countP (Lookup.within ceiling id)

variable {held pending : List Record}

theorem Watched.moved (watched : Watched ceiling held pending world log)
    (evolves : world.Evolves later) (silent : ∀ id, marks.countP (Lookup.resolves id) = 0) :
    Watched ceiling held pending later (log ++ marks) := by
  refine ⟨fun record member => (watched.claims record member).evolves evolves, fun id => ?_⟩
  have covered := watched.covered id
  have none := silent id
  rw [List.countP_append, List.countP_append]
  omega

theorem Watched.evolves (watched : Watched ceiling held pending world log)
    (evolves : world.Evolves later) : Watched ceiling held pending later log :=
  ⟨fun record member => (watched.claims record member).evolves evolves, watched.covered⟩

theorem Watched.dropped (watched : Watched ceiling held (record :: pending) world log) :
    Watched ceiling held pending world log := by
  refine ⟨watched.claims, fun id => ?_⟩
  have covered := watched.covered id
  rw [List.countP_cons] at covered
  omega

/-- A worker's program over a handle, under the condition on its operations. -/
abbrev Worker.Conducts (faults : Bool) (platform : Platform) (handle : SQLiteStore) (ceiling : Int)
    {Result : Type} (post : World → List Lookup → Prop) (program : Program WorkerOp Result)
    (world : World) (log : List Lookup) : Prop :=
  ((reconciler faults).through (WorkerOp.implement platform handle)).Safe (WorkerConduct ceiling)
    (fun _ => post) program world log

variable {Other : Type} {post : World → List Lookup → Prop}

theorem conducts_store {call : EffectStore Other}
    {next : Except StoreError Other → Program WorkerOp Result}
    (watched : Watched ceiling held pending world log)
    (allowed : ∀ world log, (∀ record ∈ held, Held record.executionID record.version world) →
      WorkerConduct ceiling (.store call) world log)
    (continues : ∀ reply later log', Watched ceiling held pending later log' →
      Worker.Conducts faults platform handle ceiling post (next reply) later log') :
    Worker.Conducts faults platform handle ceiling post (.issue (.store call) next) world log := by
  intro before moved
  have before' := watched.evolves moved
  refine ⟨allowed before log before'.claims, fun reply after marks served => continues reply _ _ ?_⟩
  have evolved : before.Evolves after := Machine.Follows.relied served fun step => step.1.evolves
  exact before'.moved evolved fun id => Follows.resolves served id

theorem conducts_done {result : Result} (watched : Watched ceiling held pending world log) :
    Worker.Conducts faults platform handle ceiling (Watched ceiling held pending)
      (.done result) world log :=
  fun _ moved => watched.evolves moved

theorem conducts_lift {program : Program WorkerOp Other} {next : Other → WorkerM Result}
    {middle : World → List Lookup → Prop}
    (first : Worker.Conducts faults platform handle ceiling middle program world log)
    (continues : ∀ result later log', middle later log' →
      Worker.Conducts faults platform handle ceiling post (next result).run later log') :
    Worker.Conducts faults platform handle ceiling post (ExceptT.lift program >>= next).run world
      log := by
  apply Machine.Safe.except_bind
  apply Machine.Safe.bind
  apply first.lasting.mono (fun _ _ _ allowed => allowed)
  exact fun result later log' lasting final moved => continues result final log' (lasting final moved)

theorem conducts_sign {binding : Binding} {next : Except String RawMessage → Program WorkerOp Result}
    (watched : Watched ceiling held pending world log)
    (continues : ∀ signed later log', Watched ceiling held pending later log' →
      Worker.Conducts faults platform handle ceiling post (next signed) later log') :
    Worker.Conducts faults platform handle ceiling post (.issue (.sign binding) next) world log := by
  intro before moved
  refine ⟨trivial, fun signed after marks served => continues signed _ _ ?_⟩
  have evolved : before.Evolves after := Machine.Follows.relied served fun step => step.1.evolves
  have lifted : (reconciler faults).Follows
      (asReconciler (.perform (.host (.sign binding)))) before [] (.done signed) after marks := served
  exact (watched.evolves moved).moved evolved fun id => Follows.resolves lifted id

theorem conducts_resolve {next : Except String Recovery → Program WorkerOp Result}
    (within : record.reconcileAttempt ≤ ceiling)
    (watched : Watched ceiling held (record :: pending) world log)
    (continues : ∀ resolved later log', Watched ceiling held pending later log' →
      Worker.Conducts faults platform handle ceiling post (next resolved) later log') :
    Worker.Conducts faults platform handle ceiling post (.issue (.resolve record) next) world log := by
  have pendingAt (id : String) : (record :: pending).countP (fun record =>
      decide (record.executionID = id ∧ record.reconcileAttempt ≤ ceiling)) =
        pending.countP (fun record =>
          decide (record.executionID = id ∧ record.reconcileAttempt ≤ ceiling)) +
            if record.executionID = id then 1 else 0 := by
    rw [List.countP_cons]
    simp only [within, and_true, decide_eq_true_eq]
  intro before moved
  constructor
  · have covered := watched.covered record.executionID
    rw [pendingAt, if_pos rfl] at covered
    show log.countP _ < log.countP _
    omega
  · intro resolved after marks served
    have logged : (reconciler faults).Safe (fun _ _ _ => True)
        (fun _ later marks => before.Evolves later ∧ marks = [.resolved record.executionID])
        (.perform (.resolve record)) before [] :=
      fun start moved => ⟨trivial, fun _ _ _ step _ further =>
        ⟨(moved.trans step.1.evolves).trans further, step.2⟩⟩
    obtain ⟨evolved, rfl⟩ := (Machine.safe_iff_follows.mp logged).2 _ _ _ served
    apply continues
    refine ⟨fun record member => (watched.claims record member).evolves (moved.trans evolved), ?_⟩
    intro id
    have covered := watched.covered id
    rw [pendingAt] at covered
    rw [List.countP_append, List.countP_append, List.countP_singleton, List.countP_singleton]
    simp only [Lookup.resolves, Lookup.within, decide_eq_true_eq, Bool.false_eq_true, if_false]
    omega

namespace Worker

variable {worker : Worker} {sha256 : List UInt8 → String}

theorem resolve_conducts (within : record.reconcileAttempt ≤ ceiling)
    (watched : Watched ceiling held (record :: pending) world log) :
    Conducts faults platform handle ceiling (Watched ceiling held pending)
      (worker.resolve record) world log := by
  unfold resolve
  split_ifs
  · exact conducts_resolve within watched fun _ _ _ watched => conducts_done watched
  · exact conducts_done watched.dropped

theorem releaseClaim_conducts (resolveErr : Option String) (member : record ∈ held)
    (watched : Watched ceiling held pending world log) :
    Conducts faults platform handle ceiling (Watched ceiling held pending)
      (worker.releaseClaim record resolveErr).run world log := by
  unfold releaseClaim
  split_ifs
  · refine conducts_store watched (fun _ _ _ => trivial) fun reply later log' watched => ?_
    cases reply with
    | error error => exact conducts_done watched
    | ok _ => cases resolveErr <;> exact conducts_done watched
  · refine conducts_store watched (fun _ _ claims => claims record member)
      fun reply later log' watched => ?_
    cases reply with
    | error error => exact conducts_done watched
    | ok _ => cases resolveErr <;> exact conducts_done watched

section

variable (member : record ∈ held) (watched : Watched ceiling held pending world log)
include member watched

variable {result : Recovery}

theorem commitResolution_conducts :
    Conducts faults platform handle ceiling (Watched ceiling held pending)
      (worker.commitResolution record result).run world log := by
  refine conducts_store watched ?_ ?_
  · exact fun _ _ _ => trivial
  · intro reply later log' watched
    cases reply with
    | error error => exact releaseClaim_conducts _ member watched
    | ok _ => exact conducts_done watched

theorem settleResolution_conducts :
    Conducts faults platform handle ceiling (Watched ceiling held pending)
      (worker.settleResolution sha256 record result).run world log := by
  unfold settleResolution
  dsimp only
  split_ifs
  · exact releaseClaim_conducts _ member watched
  · exact releaseClaim_conducts _ member watched
  · apply conducts_sign watched
    intro signed later log' watched
    cases signed with
    | error failure => exact releaseClaim_conducts _ member watched
    | ok receipt => exact commitResolution_conducts member watched
  · exact commitResolution_conducts member watched

theorem concludeResolution_conducts {resolved : Except String Recovery} :
    Conducts faults platform handle ceiling (Watched ceiling held pending)
      (worker.concludeResolution sha256 record resolved).run world log := by
  cases resolved with
  | error failure => exact releaseClaim_conducts _ member watched
  | ok result =>
    unfold concludeResolution
    dsimp only
    split_ifs
    · exact releaseClaim_conducts _ member watched
    · exact settleResolution_conducts member watched

end

theorem reconcileOne_conducts (ceilinged : worker.maxAttempts = ceiling) (positive : 0 < ceiling)
    (member : record ∈ held) (watched : Watched ceiling held (record :: pending) world log) :
    Conducts faults platform handle ceiling (Watched ceiling held pending)
      (worker.reconcileOne sha256 record).run world log := by
  unfold reconcileOne
  split_ifs with exhausted
  · refine conducts_store watched.dropped ?_ ?_
    · exact fun _ _ _ => trivial
    · intro reply later log' watched
      cases reply <;> exact conducts_done watched
  · have within : record.reconcileAttempt ≤ ceiling := by
      simp only [Worker.exhausted, ceilinged, positive, decide_true, Bool.true_and,
        decide_eq_true_eq, not_lt] at exhausted
      exact exhausted
    refine conducts_store watched ?_ ?_
    · exact fun _ _ _ => trivial
    intro reply later log' watched
    cases reply with
    | error error => exact conducts_done watched.dropped
    | ok _ =>
      exact conducts_lift (resolve_conducts within watched) fun _ _ _ watched =>
        concludeResolution_conducts member watched

theorem reconcileEach_conducts (ceilinged : worker.maxAttempts = ceiling) (positive : 0 < ceiling)
    (included : ∀ record ∈ pending, record ∈ held)
    (watched : Watched ceiling held pending world log) :
    Conducts faults platform handle ceiling (Watched ceiling held [])
      (worker.reconcileEach sha256 pending) world log := by
  induction pending generalizing world log with
  | nil => exact conducts_done watched
  | cons record rest ih =>
    apply Machine.Safe.bind
    have one : Conducts faults platform handle ceiling (Watched ceiling held rest)
        (worker.reconcileOne sha256 record).run world log :=
      reconcileOne_conducts ceilinged positive (included record List.mem_cons_self) watched
    apply one.mono (fun _ _ _ allowed => allowed)
    intro _ later log' watched
    exact ih (fun other member => included other (List.mem_cons_of_mem _ member)) watched

theorem recoverCrashed_conducts (member : record ∈ held)
    (watched : Watched ceiling held pending world log) :
    Conducts faults platform handle ceiling (Watched ceiling held pending)
      (recoverCrashed record) world log := by
  have released {world : World} {log : List Lookup}
      (watched : Watched ceiling held pending world log) :
      Conducts faults platform handle ceiling (Watched ceiling held pending)
        (tryStore (.releaseReconcileClaim record.executionID record.version 0 "")) world log := by
    refine conducts_store watched ?_ ?_
    · exact fun _ _ claims => claims record member
    · exact fun _ _ _ watched => conducts_done watched
  unfold recoverCrashed
  cases record.state with
  | prepared | executing =>
    refine conducts_store watched ?_ ?_
    · exact fun _ _ _ => trivial
    · exact fun _ _ _ watched => released watched
  | inFlight =>
    refine conducts_store watched ?_ ?_
    · exact fun _ _ _ => trivial
    · exact fun _ _ _ watched => conducts_done watched
  | _ => exact released watched

theorem recoverEach_conducts (included : ∀ record ∈ records, record ∈ held)
    (watched : Watched ceiling held pending world log) :
    Conducts faults platform handle ceiling (Watched ceiling held pending)
      (recoverEach records) world log := by
  induction records generalizing world log with
  | nil => exact conducts_done watched
  | cons record rest ih =>
    apply Machine.Safe.bind
    apply (recoverCrashed_conducts (included record List.mem_cons_self) watched).mono
      (fun _ _ _ allowed => allowed)
    intro _ later log' watched
    exact ih (fun other member => included other (List.mem_cons_of_mem _ member)) watched

/-- A cycle, from an empty log. -/
theorem reconcileAllOnce_conducts (ceilinged : worker.maxAttempts = ceiling)
    (positive : 0 < ceiling) : Conducts faults platform handle ceiling (fun _ _ => True)
      (worker.reconcileAllOnce sha256).run world [] := by
  intro before moved
  refine ⟨trivial, fun claimed after marks served => ?_⟩
  have reported : Reported ceiling .unknown claimed after marks :=
    (Machine.safe_iff_follows.mp claimBatch_reported).2 _ _ _ served
  cases claimed with
  | error error => exact fun _ _ => trivial
  | ok records =>
    have none := Follows.resolves served
    have watched : Watched ceiling records records after ([] ++ marks) := by
      refine ⟨(reported records rfl).1, fun id => ?_⟩
      have covered := (reported records rfl).2 rfl id
      have silent := none id
      rw [List.countP_nil] at silent
      rw [List.nil_append, silent]
      omega
    refine conducts_lift (reconcileEach_conducts ceilinged positive (fun _ member => member)
      watched) ?_
    intro _ later log' watched before moved
    refine ⟨trivial, fun expired after marks served => ?_⟩
    have reported : Reported ceiling .expired expired after marks :=
      (Machine.safe_iff_follows.mp claimBatch_reported).2 _ _ _ served
    cases expired with
    | error error => exact fun _ _ => trivial
    | ok crashed =>
      have evolved : before.Evolves after :=
        Machine.Follows.relied served fun step => step.1.evolves
      have covered := ((watched.evolves moved).moved evolved (Follows.resolves served)).covered
      have watched : Watched ceiling crashed [] after (log' ++ marks) :=
        ⟨(reported crashed rfl).1, covered⟩
      refine conducts_lift (recoverEach_conducts (fun _ member => member) watched) ?_
      intro _ last log'' watched
      split_ifs
      · refine conducts_store watched ?_ ?_
        · exact fun _ _ _ => trivial
        · exact fun _ _ _ _ _ _ => trivial
      · exact fun _ _ => trivial

end Worker

end Worker

theorem participant_conducts {faults : Bool} {platform : DispatchPlatform}
    {participant : Participant} (positive : 0 < ceiling) (admitted : participant.Admitted ceiling)
    (world : World) : (reconciler faults).Safe (Conduct ceiling) (fun _ _ _ => True)
      (participant.program platform) world [] := by
  cases participant with
  | call caller =>
    have emits := asReconciler_emits (@caller_releases platform ceiling caller admitted)
    exact Machine.safe_of_emits (emits.bind fun _ => trivial) fun _ world log other =>
      conduct_of_releases world log other
  | cycle handle worker =>
    apply Machine.Safe.bind
    have cycle : Worker.Conducts faults platform.toPlatform handle ceiling (fun _ _ => True)
        (worker.reconcileAllOnce platform.sha256).run world [] :=
      Worker.reconcileAllOnce_conducts admitted positive
    have safe := Machine.Safe.interpret
      (fun operation _ _ allowed => implement_conduct operation allowed) cycle
    exact safe.mono (fun _ _ _ allowed => allowed) fun _ _ _ _ _ _ => trivial

end Crabedence
