import Crabedence.Reasoning

/-!
# Footprints of store methods

Which operations a method of the store may issue, whatever it reads.  Its transactions carry the
epoch of the handle, it asks the host for identifiers only, and `EffectStore.updates` lists the
statements of each method with the arguments they present.
-/

namespace Crabedence

open Resumption StoreM

def Host.isIdentifier : {Reply : Type} → Host Reply → Bool
  | _, .generateLeaseToken | _, .generateExecutionID | _, .currentPID => true
  | _, _ => false

/-- The writes a method is allowed: single-row updates, insertions, and the claims and scrubs that
update many rows at once.  Contention may always be noted. -/
structure Footprint where
  updates : Mutation → Prop
  inserts : NewRequest → Prop
  bulk : Prop

def Footprint.none : Footprint := ⟨fun _ => False, fun _ => False, False⟩

def Transaction.isQuiet : {Reply : Type} → Transaction Reply → Bool
  | _, .apply _ | _, .insert _ | _, .claim .. | _, .scrubLocators _ | _, .noteContention .. => false
  | _, _ => true

def Footprint.Permits (footprint : Footprint) : {Reply : Type} → Transaction Reply → Prop
  | _, .apply mutation => footprint.updates mutation
  | _, .insert request => footprint.inserts request
  | _, .claim .. | _, .scrubLocators _ => footprint.bulk
  | _, .noteContention _ eventType _ => eventType.isContention = true
  | _, _ => True

variable {Reply : Type}

theorem Footprint.permits_quiet {footprint : Footprint}
    {transaction : Transaction Reply} (quiet : transaction.isQuiet = true) :
    footprint.Permits transaction := by
  cases transaction <;> first | exact trivial | cases quiet

def Operation.Within (epoch : Int) (footprint : Footprint) :
    {Reply : Type} → Operation Reply → Prop
  | _, .sql own transaction => own = epoch ∧ footprint.Permits transaction
  | _, .host request => request.isIdentifier = true

def Mutation.acquires : Mutation → Bool
  | .acquireUnleased .. | .reclaimExpiredLease .. | .markInFlightExpiredAsUnknown .. => true
  | _ => false

def Mutation.honest : Mutation → Bool
  | .reclaimExpiredLease _ _ _ _ _ previous _ => previous.isPreDispatch
  | _ => true

namespace SQLiteStore

variable {Result Other : Type} (platform : Platform) (store : SQLiteStore)

def Issues (footprint : Footprint) (method : StoreM Result) : Prop :=
  method.run.Emits (Operation.Within store.epoch footprint)

variable {store} {footprint : Footprint}

theorem issues_pure (result : Result) : store.Issues footprint (pure result) := trivial

theorem issues_throw (error : StoreError) : store.Issues footprint (throw error : StoreM Result) :=
  trivial

theorem issues_lift (reply : Except StoreError Result) : store.Issues footprint (liftM reply) := trivial

variable {transaction : Transaction Result} {next : Other → StoreM Result} {executionID : String}

theorem issues_sql (permitted : footprint.Permits transaction) :
    store.Issues footprint (store.sql transaction) :=
  ⟨⟨rfl, permitted⟩, fun _ => trivial⟩

theorem issues_query (quiet : transaction.isQuiet = true) :
    store.Issues footprint (store.sql transaction) :=
  issues_sql (Footprint.permits_quiet quiet)

theorem issues_host {request : Host Result} (identifier : request.isIdentifier = true) :
    store.Issues footprint (StoreM.host request) :=
  ⟨identifier, fun _ => trivial⟩

theorem issues_bind {first : StoreM Other} (issues : store.Issues footprint first)
    (rest : ∀ result, store.Issues footprint (next result)) :
    store.Issues footprint (first >>= next) := by
  apply Program.Emits.bind issues
  intro outcome
  cases outcome with
  | ok result => exact rest result
  | error error => exact trivial

theorem issues_checked {check : Except StoreError Other}
    (rest : ∀ result, check = .ok result → store.Issues footprint (next result)) :
    store.Issues footprint (liftM check >>= next) := by
  cases checked : check with
  | error error => exact trivial
  | ok result => exact rest result checked

theorem issues_attempt {method : StoreM Result} (issues : store.Issues footprint method) :
    store.Issues footprint method.attempt :=
  Program.Emits.bind issues fun _ => trivial

theorem issues_apply {mutation : Mutation} {hit missed : StoreM Result}
    (permitted : footprint.updates mutation) (onHit : store.Issues footprint hit)
    (onMiss : store.Issues footprint missed) :
    store.Issues footprint (do if ← store.sql (.apply mutation) then hit else missed) := by
  have updates : store.Issues footprint (store.sql (.apply mutation)) := issues_sql permitted
  apply issues_bind updates
  intro applied
  cases applied with
  | true => exact onHit
  | false => exact onMiss

theorem issues_checkEpoch : store.Issues footprint store.checkEpoch := by
  apply issues_bind (issues_query rfl)
  intro current
  split_ifs
  · exact issues_throw _
  · exact issues_pure _

theorem issues_checkRecoveryMode : store.Issues footprint store.checkRecoveryMode := by
  apply issues_bind (issues_query rfl)
  intro recovering
  split_ifs
  · exact issues_throw _
  · exact issues_pure _

theorem issues_lookup : store.Issues footprint (store.lookup executionID) := by
  apply issues_bind (issues_query rfl)
  intro found
  cases found with
  | none => exact issues_throw _
  | some record => exact issues_pure _

theorem issues_lookupByKey {key : RequestKey} : store.Issues footprint (store.lookupByKey key) := by
  apply issues_bind (issues_query rfl)
  intro found
  cases found with
  | none => exact issues_throw _
  | some record => exact issues_pure _

theorem issues_noteContentionEvent {eventType : EventType} {metadata : String}
    (contention : eventType.isContention = true) :
    store.Issues footprint (store.noteContentionEvent executionID eventType metadata) :=
  issues_bind (issues_attempt (issues_sql contention)) fun _ => issues_pure _

section Acquisition

variable {key : RequestKey} {record : Record} {leaseToken leaseOwner : String}
variable {leaseDuration : Duration}
variable (updates : ∀ mutation : Mutation, mutation.acquires = true → mutation.honest = true →
  footprint.updates mutation)

include updates in
theorem issues_acquirePrepared :
    store.Issues footprint (store.acquirePrepared key leaseToken leaseOwner leaseDuration record) := by
  unfold acquirePrepared
  split_ifs
  · apply issues_bind
    · apply issues_apply (updates _ rfl rfl) (issues_pure _)
      exact issues_bind issues_checkEpoch fun _ => issues_pure _
    · intro tried
      cases tried with
      | some acquired => exact issues_pure _
      | none => exact issues_bind issues_lookupByKey fun _ => issues_pure _
  · exact issues_pure _

theorem issues_reconsidered {next : Record → StoreM AcquireResult}
    (continues : ∀ current, store.Issues footprint (next current)) : store.Issues footprint (do
      let current ← store.lookupByKey key
      match settled current with
      | some result => return result
      | none => next current) := by
  apply issues_bind issues_lookupByKey
  intro current
  cases settled current with
  | some result => exact issues_pure _
  | none => exact continues current

include updates in
theorem issues_acquireInFlight :
    store.Issues footprint (store.acquireInFlight key leaseToken leaseOwner leaseDuration record) := by
  unfold acquireInFlight
  split_ifs
  · apply issues_bind
    · apply issues_apply (updates _ rfl rfl) (issues_pure _)
      exact issues_bind issues_checkEpoch fun _ => issues_pure _
    · intro tried
      cases tried with
      | some marked => exact issues_pure _
      | none => exact issues_reconsidered fun _ => issues_acquirePrepared updates
  · exact issues_acquirePrepared updates

include updates in
theorem issues_acquireLeased :
    store.Issues footprint (store.acquireLeased key leaseToken leaseOwner leaseDuration record) := by
  unfold acquireLeased
  split_ifs with waiting
  · have previous : record.state.isPreDispatch = true := by
      rcases waiting.1 with state | state <;> rw [state] <;> rfl
    apply issues_bind
    · refine issues_apply (updates _ rfl ?_) (issues_pure _) ?_
      · exact previous
      apply issues_bind issues_checkEpoch
      exact fun _ => issues_bind issues_checkRecoveryMode fun _ => issues_pure _
    · intro tried
      cases tried with
      | some reclaimed => exact issues_pure _
      | none => exact issues_reconsidered fun _ => issues_acquireInFlight updates
  · exact issues_acquireInFlight updates

variable {digest : String}

include updates in
theorem issues_acquireExisting :
    store.Issues footprint (store.acquireExisting key digest leaseToken leaseOwner leaseDuration
      record) := by
  unfold acquireExisting
  split_ifs
  · exact issues_pure _
  · cases settled record with
    | some result => exact issues_pure _
    | none => exact issues_acquireLeased updates

include updates in
theorem issues_acquireWithAuthority {authority : AuthorityBinding} {executionClass : String}
    (inserts : ∀ executionID leaseOwner leaseToken, footprint.inserts {
      executionID, key, digest, authority, executionClass, leaseOwner, leaseToken
      leaseDuration := msDuration leaseDuration }) :
    store.Issues footprint (store.acquireWithAuthority key digest authority executionClass
      leaseDuration) := by
  apply issues_bind (issues_lift _)
  intro _
  apply issues_bind (issues_host rfl)
  intro token
  cases token with
  | error reason => exact issues_throw _
  | ok leaseToken =>
    apply issues_bind (issues_host rfl)
    intro pid
    apply issues_bind (issues_host rfl)
    intro generated
    cases generated with
    | error reason => exact issues_throw _
    | ok executionID =>
      apply issues_bind
      · apply issues_sql
        exact inserts executionID _ leaseToken
      intro inserted
      cases inserted with
      | inserted createdAt => exact issues_pure _
      | violation => exact issues_throw _
      | nothing =>
        apply issues_bind (issues_query rfl)
        intro looked
        cases looked with
        | none =>
          apply issues_bind issues_checkEpoch
          exact fun _ => issues_bind issues_checkRecoveryMode fun _ => issues_throw _
        | some found => exact issues_acquireExisting updates

end Acquisition

variable {observation : ProviderObservation} {lease : Lease}

section Fenced

theorem issues_classifyLease {action : String} {record : Record} :
    store.Issues footprint (store.classifyLease action lease record) := by
  unfold classifyLease
  split_ifs
  · exact issues_bind (issues_noteContentionEvent rfl) fun _ => issues_throw _
  · exact issues_bind (issues_noteContentionEvent rfl) fun _ => issues_throw _
  · exact issues_throw _

theorem issues_classified {found : Record → StoreM Unit}
    {missing : StoreError → StoreError} (classifies : ∀ record, store.Issues footprint (found record)) :
    store.Issues footprint (do
      store.checkEpoch
      match ← (store.lookup executionID).attempt with
      | .error reason => throw (missing reason)
      | .ok record => found record) := by
  apply issues_bind issues_checkEpoch
  intro _
  apply issues_bind (issues_attempt issues_lookup)
  intro looked
  cases looked with
  | error reason => exact issues_throw _
  | ok record => exact classifies record

theorem issues_classifyTransitionFailure {expectedState : State} :
    store.Issues footprint (store.classifyTransitionFailure lease expectedState) := by
  apply issues_classified
  intro record
  split_ifs
  · exact issues_throw _
  · exact issues_throw _
  · exact issues_classifyLease

theorem issues_beginExecution (begins : footprint.updates (.beginExecution lease)) :
    store.Issues footprint (store.beginExecution lease) := by
  apply issues_apply begins (issues_pure _)
  exact issues_classifyTransitionFailure

theorem issues_markInFlight {providerID : String} {recoveryLocator : RawMessage}
    (crosses : ∀ persisted, footprint.updates (.markInFlight lease providerID persisted)) :
    store.Issues footprint (store.markInFlight platform lease providerID recoveryLocator) := by
  apply issues_bind (issues_lift _)
  intro persisted
  dsimp only
  split_ifs
  · exact issues_throw _
  · apply issues_apply (crosses persisted) (issues_pure _)
    exact issues_classifyTransitionFailure

theorem issues_renewLease {duration : Duration}
    (renews : footprint.updates (.renewLease lease (msDuration duration))) :
    store.Issues footprint (store.renewLease lease duration) := by
  apply issues_bind (issues_lift _)
  intro _
  apply issues_apply renews (issues_pure _)
  apply issues_classified
  intro record
  split_ifs
  · exact issues_throw _
  · exact issues_classifyLease

theorem issues_abandonPreDispatch (abandons : footprint.updates (.abandonPreDispatch lease)) :
    store.Issues footprint (store.abandonPreDispatch lease) := by
  apply issues_apply abandons (issues_pure _)
  apply issues_classified
  intro record
  split_ifs
  · exact issues_throw _
  · exact issues_throw _
  · exact issues_classifyLease

theorem issues_recordProviderObservation
    (observes : ∀ material, observationMaterial platform observation = .ok material →
      footprint.updates (.recordProviderObservation lease material)) :
    store.Issues footprint (store.recordProviderObservation platform lease observation) := by
  apply issues_checked
  intro material made
  apply issues_apply (observes material made) (issues_pure _)
  apply issues_bind issues_checkEpoch
  intro _
  apply issues_bind issues_lookup
  intro record
  split_ifs
  · exact issues_bind (issues_noteContentionEvent rfl) fun _ => issues_throw _
  · exact issues_throw _
  · exact issues_throw _

end Fenced

variable {expectedVersion : Int} {expectedState : State}

section Recovery

theorem issues_enterRecovery (enters : ∀ legal, footprint.updates
      (.enterRecovery executionID expectedState expectedVersion legal)) :
    store.Issues footprint (store.enterRecovery executionID expectedState expectedVersion) := by
  unfold enterRecovery
  split_ifs with legal
  · apply issues_apply (enters legal) (issues_pure _)
    exact issues_bind issues_checkEpoch fun _ => issues_throw _
  · exact issues_throw _

theorem issues_enterRecoveryWithObservation
    (enters : ∀ material legal, observationMaterial platform observation = .ok material →
      footprint.updates (.enterRecoveryWithObservation executionID expectedState expectedVersion
        material legal)) :
    store.Issues footprint (store.enterRecoveryWithObservation platform executionID expectedState
      expectedVersion observation) := by
  unfold enterRecoveryWithObservation
  split_ifs with legal
  · apply issues_checked
    intro material made
    apply issues_apply (enters material legal made) (issues_pure _)
    apply issues_bind issues_checkEpoch
    intro _
    apply issues_bind issues_lookup
    intro record
    split_ifs
    · exact issues_throw _
    · exact issues_throw _
  · exact issues_throw _

theorem issues_recoverExpiredPreDispatch
    (recovers : footprint.updates (.recoverExpiredPreDispatch executionID expectedVersion)) :
    store.Issues footprint (store.recoverExpiredPreDispatch executionID expectedVersion) := by
  apply issues_apply recovers (issues_pure _)
  exact issues_bind issues_checkEpoch fun _ => issues_throw _

theorem issues_claimLost {metadata message : String} :
    store.Issues footprint (store.claimLost executionID metadata message) := by
  apply issues_bind issues_checkEpoch
  exact fun _ => issues_bind (issues_noteContentionEvent rfl) fun _ => issues_throw _

theorem issues_claimBatch {kind : ClaimKind} {owner : String} {batchSize : Int}
    {claimDuration : Duration} (bulk : footprint.bulk) :
    store.Issues footprint (store.claimBatch kind owner batchSize claimDuration) := by
  apply issues_bind
  · apply issues_sql
    exact bulk
  intro records
  cases records with
  | nil => exact issues_bind issues_checkEpoch fun _ => issues_pure _
  | cons record rest => exact issues_pure _

theorem issues_scrubStaleRecoveryLocators {olderThan : Duration} (bulk : footprint.bulk) :
    store.Issues footprint (store.scrubStaleRecoveryLocators olderThan) := by
  unfold scrubStaleRecoveryLocators
  split_ifs
  · exact issues_throw _
  · apply issues_bind issues_checkEpoch
    intro _
    apply issues_sql
    exact bulk

end Recovery

section Terminal

variable {result : RecoveryResult}

theorem issues_classifyFinalizeFailure {write : TerminalWrite} :
    store.Issues footprint (store.classifyFinalizeFailure lease expectedState write) := by
  apply issues_bind (issues_attempt issues_lookup)
  intro looked
  cases looked with
  | error reason => exact issues_classifyTransitionFailure
  | ok current =>
    dsimp only
    split_ifs
    · exact issues_lift _
    · exact issues_throw _
    · exact issues_classifyTransitionFailure

theorem issues_finalize {receipt : TerminalReceipt}
    (terminal : ∀ existing version write final legal,
      write.receipt = receipt.bindTo lease.executionID existing →
      terminalReceiptDigest platform write.receipt = .ok write.receiptDigest →
      footprint.updates (.finalize lease expectedState version write final legal)) :
    store.Issues footprint (store.finalize platform lease expectedState receipt) := by
  unfold finalize
  split_ifs with final legal
  · apply issues_bind (issues_lift _)
    intro _
    apply issues_bind (issues_attempt issues_lookup)
    intro looked
    cases looked with
    | error reason => exact issues_throw _
    | ok existing =>
      apply issues_bind (issues_lift _)
      intro _
      dsimp only
      split
      · exact issues_throw _
      · next receiptDigest digested =>
        split_ifs
        · exact issues_lift _
        · apply issues_bind (issues_lift _)
          intro _
          apply issues_apply (terminal existing _ _ _ _ rfl digested) (issues_pure _)
          exact issues_classifyFinalizeFailure
  · exact issues_bind (issues_lift _) fun _ => issues_throw _
  · exact issues_throw _

theorem issues_classifyResolveFailure :
    store.Issues footprint (store.classifyResolveFailure executionID expectedVersion) := by
  apply issues_classified
  intro record
  split_ifs
  · exact issues_throw _
  · exact issues_throw _

section

variable (terminal : ∀ existing newState write material legal, write.receipt = result.receipt
    executionID existing newState → terminalReceiptDigest platform write.receipt = .ok
    write.receiptDigest → footprint.updates (.resolveRecovery executionID expectedVersion write
    material legal))
include terminal

theorem issues_resolveDefinitively {newState : State}
    {legal : isLegalTransition .unknown newState = true} :
    store.Issues footprint (store.resolveDefinitively platform executionID expectedVersion result
      newState legal) := by
  unfold resolveDefinitively
  split_ifs
  · exact issues_throw _
  · apply issues_bind (issues_lift _)
    intro material
    apply issues_bind (issues_attempt issues_lookup)
    intro looked
    cases looked with
    | error reason => exact issues_throw _
    | ok existing =>
      apply issues_bind (issues_lift _)
      intro _
      split
      · exact issues_throw _
      · next receiptDigest digested =>
        apply issues_apply (terminal existing _ _ _ _ rfl digested) (issues_pure _)
        exact issues_classifyResolveFailure

theorem issues_resolveRecovery (touches : result.decision = .unknown →
      footprint.updates (.touchUnknown executionID expectedVersion)) :
    store.Issues footprint (store.resolveRecovery platform executionID expectedVersion result) := by
  unfold resolveRecovery
  cases decided : result.decision with
  | committed | failed => exact issues_resolveDefinitively platform terminal
  | unknown =>
    apply issues_apply (touches decided) (issues_pure _)
    exact issues_bind issues_checkEpoch fun _ => issues_throw _
  | retryable | conflict | other decision => exact issues_throw _

end

end Terminal

end SQLiteStore

variable (platform : Platform)

/-- The single-row updates of each call. -/
def EffectStore.updates {Result : Type} (call : EffectStore Result) (mutation : Mutation) : Prop :=
  match call with
  | .acquireWithAuthority .. => mutation.acquires = true
  | .beginExecution lease => mutation = .beginExecution lease
  | .markInFlight lease providerID _ =>
    ∃ persisted, mutation = .markInFlight lease providerID persisted
  | .renewLease lease duration => mutation = .renewLease lease (msDuration duration)
  | .abandonPreDispatch lease => mutation = .abandonPreDispatch lease
  | .finalize lease expectedState receipt =>
    ∃ existing version write final legal,
      write.receipt = receipt.bindTo lease.executionID existing ∧
      terminalReceiptDigest platform write.receipt = .ok write.receiptDigest ∧
      mutation = .finalize lease expectedState version write final legal
  | .recordProviderObservation lease observation =>
    ∃ material, SQLiteStore.observationMaterial platform observation = .ok material ∧
      mutation = .recordProviderObservation lease material
  | .enterRecovery executionID expectedState version =>
    ∃ legal, mutation = .enterRecovery executionID expectedState version legal
  | .enterRecoveryWithObservation executionID expectedState version observation =>
    ∃ material legal, SQLiteStore.observationMaterial platform observation = .ok material ∧
      mutation = .enterRecoveryWithObservation executionID expectedState version material legal
  | .resolveRecovery executionID version result =>
    (∃ existing newState write material legal,
      write.receipt = result.receipt executionID existing newState ∧
      terminalReceiptDigest platform write.receipt = .ok write.receiptDigest ∧
      mutation = .resolveRecovery executionID version write material legal) ∨
    (result.decision = .unknown ∧ mutation = .touchUnknown executionID version)
  | .recoverExpiredPreDispatch executionID version =>
    mutation = .recoverExpiredPreDispatch executionID version
  | .releaseReconcileClaim executionID version backoff lastError =>
    mutation = .releaseReconcileClaim executionID version (msDuration backoff) lastError
  | .suspendReconciliation executionID version reason =>
    mutation = .suspendReconciliation executionID version reason
  | .renewReconcileClaim executionID version duration =>
    mutation = .renewReconcileClaim executionID version (msDuration duration)
  | _ => False

def EffectStore.footprint {Result : Type} (call : EffectStore Result) :
    Footprint where
  updates := call.updates platform
  inserts request :=
    match call with
    | .acquireWithAuthority key digest _ executionClass _ =>
      request.key = key ∧ request.digest = digest ∧ request.executionClass = executionClass
    | _ => False
  bulk :=
    match call with
    | .scrubStaleRecoveryLocators _ | .claimUnknownBatch .. | .claimExpiredBatch .. => True
    | _ => False

variable (store : SQLiteStore) {Result : Type}

open SQLiteStore in
/-- The footprint of every call of the store. -/
theorem serve_issues (call : EffectStore Result) :
    store.Issues (call.footprint platform) (store.serve platform call) := by
  cases call with
  | acquireWithAuthority =>
    exact issues_acquireWithAuthority (fun _ acquires _ => acquires) fun _ _ _ => ⟨rfl, rfl, rfl⟩
  | beginExecution => exact issues_beginExecution rfl
  | markInFlight => exact issues_markInFlight platform fun persisted => ⟨persisted, rfl⟩
  | renewLease => exact issues_renewLease rfl
  | abandonPreDispatch => exact issues_abandonPreDispatch rfl
  | finalize =>
    exact issues_finalize platform fun existing version write final legal bound digested =>
      ⟨existing, version, write, final, legal, bound, digested, rfl⟩
  | recordProviderObservation =>
    exact issues_recordProviderObservation platform fun material made => ⟨material, made, rfl⟩
  | enterRecovery => exact issues_enterRecovery fun legal => ⟨legal, rfl⟩
  | enterRecoveryWithObservation =>
    exact issues_enterRecoveryWithObservation platform fun material legal made =>
      ⟨material, legal, made, rfl⟩
  | resolveRecovery =>
    exact issues_resolveRecovery platform
      (fun existing newState write material legal bound digested =>
        .inl ⟨existing, newState, write, material, legal, bound, digested, rfl⟩)
      (fun undecided => .inr ⟨undecided, rfl⟩)
  | recoverExpiredPreDispatch => exact issues_recoverExpiredPreDispatch rfl
  | scrubStaleRecoveryLocators => exact issues_scrubStaleRecoveryLocators trivial
  | claimUnknownBatch | claimExpiredBatch => exact issues_claimBatch trivial
  | releaseReconcileClaim | suspendReconciliation | renewReconcileClaim =>
    apply issues_apply _ (issues_pure _) issues_claimLost
    rfl
  | lookup => exact issues_lookup
  | lookupByKey => exact issues_lookupByKey
  | listStuck =>
    apply issues_bind (issues_query rfl)
    exact fun _ => issues_bind (issues_query rfl) fun _ => issues_pure _
  | advanceClusterEpoch =>
    apply issues_bind (issues_query rfl)
    intro advanced
    cases advanced with
    | true => exact issues_pure _
    | false => exact issues_bind (issues_query rfl) fun _ => issues_throw _
  | completeClusterRecovery =>
    apply issues_bind (issues_query rfl)
    intro completed
    cases completed with
    | true => exact issues_pure _
    | false => exact issues_bind (issues_query rfl) fun _ => issues_throw _
  | _ => exact issues_query rfl

def Operation.Honest : {Reply : Type} → Operation Reply → Prop
  | _, .sql _ (.apply mutation) => mutation.honest = true
  | _, _ => True

open SQLiteStore in
theorem serve_honest (call : EffectStore Result) :
    (store.serve platform call).run.Emits Operation.Honest := by
  have within {footprint : Footprint}
      (issues : store.Issues footprint (store.serve platform call))
      (honest : ∀ mutation, footprint.updates mutation → mutation.honest = true) :
      (store.serve platform call).run.Emits Operation.Honest := by
    apply issues.mono
    intro Reply operation permitted
    cases operation with
    | host request => exact trivial
    | sql epoch transaction =>
      cases transaction with
      | apply mutation => exact honest mutation permitted.2
      | _ => exact trivial
  cases call with
  | acquireWithAuthority key digest authority executionClass leaseDuration =>
    apply @within ⟨fun mutation => mutation.honest = true, fun _ => True, True⟩
    · exact issues_acquireWithAuthority (fun _ _ honest => honest) fun _ _ _ => trivial
    · exact fun _ honest => honest
  | _ =>
    apply within (serve_issues platform store _)
    intro mutation updates
    cases mutation <;> first | rfl | simp [EffectStore.footprint, EffectStore.updates] at updates

/-- What every method of the handle emits, and every question to the host, is what a caller
emits. -/
theorem call_program_emits {platform : DispatchPlatform} {call : Call}
    {allowed : ∀ {Reply : Type}, Operation Reply → Prop}
    (methods : ∀ {Result : Type} (method : EffectStore Result),
      (call.handle.serve platform.toPlatform method).run.Emits allowed)
    (hosts : ∀ {Reply : Type} (request : Host Reply), allowed (.host request)) :
    (call.program platform).Emits allowed := by
  cases call with
  | store handle method => exact (methods method).bind fun _ => trivial
  | execute handle executor request descriptor =>
    apply Program.Emits.bind
    · apply Program.Emits.interpret
      intro Reply operation
      cases operation with
      | store method => exact methods method
      | host request => exact ⟨hosts request, fun _ => trivial⟩
    · exact fun _ => trivial

theorem Footprint.exec_row {footprint : Footprint} {transaction : Transaction Reply}
    {epoch now : Int} {database : Database} {id : String} {row : Row}
    (permits : footprint.Permits transaction) (single : ¬ footprint.bulk)
    (found : database.find id = some row) :
    ∃ after, (transaction.exec epoch now database).2.find id = some after ∧
      (after = row ∨ ∃ mutation, footprint.updates mutation ∧
        mutation.guard now database.cluster row = true ∧ after = mutation.assign now row) := by
  obtain ⟨after, afterFound, step⟩ := Transaction.exec_row found
  refine ⟨after, afterFound, ?_⟩
  cases step with
  | kept => exact .inl rfl
  | mutated mutation issued target allowed current =>
    cases transaction with
    | apply applied =>
      cases issued
      exact .inr ⟨mutation, permits, allowed, rfl⟩
    | _ => cases issued
  | claimed kind owner duration issued allowed current | scrubbed issued waiting current =>
    cases transaction with
    | claim | scrubLocators => exact (single permits).elim
    | _ => cases issued

end Crabedence
