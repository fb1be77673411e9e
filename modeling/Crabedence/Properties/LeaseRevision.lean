import Mathlib.Data.Prod.Lex
import Crabedence.Worker.LeaseRepository

/-!
# Optimistic concurrency of leases

A committed transition raises the revision of its lease by one.  A provisioning transaction leaves the
revision as it is, and moves the state, if it does, further from `provisioning` towards `released`.  A
lease therefore ages with every transition and with every write that moves its state, and a transition
from a younger record is refused.
-/

namespace Crabedence.Worker.Provisioning

open Utf16 (Str str)

variable {library : ProvisioningLibrary} {storage after : Storage} {lease next : LeaseRecord}
  {operation : LeaseProvisioningOperation} {decision : Decision} {op : Op} {leaseID key : Str}

def LeaseState.rank : LeaseState → ℕ
  | .provisioning => 0
  | .active | .failed | .expired => 1
  | .released => 2

def LeaseRecord.age (lease : LeaseRecord) : ℤ ×ₗ ℕ := toLex (lease.revision, lease.state.rank)

/-- A write of a lease keeps its id, and what a transition compares unless the lease ages. -/
def Follows (lease next : LeaseRecord) : Prop :=
  next.id = lease.id ∧
    (next.revision = lease.revision ∧ next.state = lease.state ∨ lease.age < next.age)

theorem Follows.refl (lease : LeaseRecord) : Follows lease lease := ⟨rfl, .inl ⟨rfl, rfl⟩⟩

theorem Follows.age_le (follows : Follows lease next) : lease.age ≤ next.age := by
  obtain ⟨revision, state⟩ | older := follows.2
  · unfold LeaseRecord.age
    rw [revision, state]
  · exact older.le

theorem age_lt_of_rank (revision : next.revision = lease.revision)
    (older : lease.state.rank < next.state.rank) : lease.age < next.age :=
  Prod.Lex.toLex_lt_toLex.mpr (.inr ⟨revision.symm, older⟩)

theorem follows_cleanup (follows : Follows lease next) (phase : Phase) (now : ℚ) :
    Follows lease (updateCleanupMetadata library next phase now) := by
  unfold updateCleanupMetadata
  split_ifs <;> exact follows

theorem follows_released (released : next.state = .released) (same : next.id = lease.id)
    (kept : next.revision = lease.revision) : Follows lease next := by
  refine ⟨same, ?_⟩
  by_cases already : lease.state = .released
  · exact .inl ⟨kept, released.trans already.symm⟩
  · refine .inr (age_lt_of_rank kept ?_)
    rw [released]
    revert already
    cases lease.state <;> decide

theorem state_of_isCanceled {now : ℚ}
    (canceled : isCanceled library storage leaseID operation lease now = false) :
    lease.state = .provisioning := by
  unfold isCanceled at canceled
  simp_all

theorem follows_exhausted {marked : LeaseRecord} (same : marked.id = lease.id)
    (kept : marked.revision = lease.revision) (now : ℚ) :
    Follows lease (exhaustedProvisioningLease library marked
      (isCanceled library storage leaseID operation lease now) now) := by
  cases canceled : isCanceled library storage leaseID operation lease now with
  | true => exact follows_released rfl same kept
  | false =>
    refine ⟨same, .inr (age_lt_of_rank kept ?_)⟩
    rw [state_of_isCanceled canceled]
    exact Nat.one_pos

theorem cleanup_same (phase : Phase) (now : ℚ) :
    (updateCleanupMetadata library lease phase now).id = lease.id ∧
      (updateCleanupMetadata library lease phase now).revision = lease.revision := by
  unfold updateCleanupMetadata
  split_ifs <;> exact ⟨rfl, rfl⟩

/-- Every lease is stored under its id. -/
def Filed (storage : Storage) : Prop :=
  ∀ key lease, storage.leases key = some lease → lease.id = key

theorem Decides.follows (decides : Decides library storage op leaseID operation decision)
    (filed : Filed storage) (puts : decision.lease = some next) :
    ∃ lease, storage.leases leaseID = some lease ∧ Follows lease next := by
  cases decides with
  | blocked => cases puts
  | @claimed _ _ now lease _ runs held =>
    refine ⟨lease, held, ?_⟩
    have ended : Follows lease (canceledProvisioningClaimLease library lease now) :=
      follows_released rfl rfl rfl
    unfold claimDecision at puts
    dsimp only at puts
    split_ifs at puts with _ _ publishes <;> cases puts
    · exact follows_cleanup ended _ _
    · refine ⟨rfl, .inr (age_lt_of_rank rfl ?_)⟩
      rw [state_of_isCanceled publishes.2.1]
      exact Nat.one_pos
    · exact follows_cleanup ended _ _
  | @settled _ _ now lease _ _ _ held =>
    refine ⟨lease, held, ?_⟩
    unfold resultDecision at puts
    dsimp only at puts
    split_ifs at puts <;> cases puts
    all_goals first
      | exact follows_cleanup (.refl lease) _ _
      | exact follows_exhausted (cleanup_same _ _).1 (cleanup_same _ _).2 _
      | exact follows_exhausted rfl rfl _
  | @canceled _ _ _ _ lease _ held live matched =>
    cases puts
    refine ⟨lease, filed _ _ held ▸ held, follows_cleanup ?_ _ _⟩
    exact follows_released rfl rfl rfl

/-- One record of the leases is replaced by one that follows it. -/
theorem follows_update (filed : Filed storage) (held : storage.leases key = some lease)
    (follows : Follows lease next)
    (replaced : after.leases = Function.update storage.leases key (some next)) :
    Filed after ∧ ∀ other lease, storage.leases other = some lease →
      ∃ next, after.leases other = some next ∧ Follows lease next := by
  refine ⟨fun other found read => ?_, fun other found read => ?_⟩
  all_goals
    rw [replaced] at *
    by_cases moved : other = key
  · subst moved
    rw [Function.update_self] at read
    cases read
    exact follows.1.trans (filed _ _ held)
  · rw [Function.update_of_ne moved] at read
    exact filed other found read
  · subst moved
    cases held.symm.trans read
    exact ⟨next, Function.update_self .., follows⟩
  · exact ⟨found, by rw [Function.update_of_ne moved, read], .refl found⟩

theorem perform_follows (filed : Filed storage) (op : Op) :
    Filed (perform library storage op) ∧ ∀ key lease, storage.leases key = some lease →
      ∃ next, (perform library storage op).leases key = some next ∧ Follows lease next := by
  generalize known : perform library storage op = after
  have performed := performed library storage op
  rw [known] at performed
  cases performed with
  | idle => exact ⟨filed, fun key lease held => ⟨lease, held, .refl lease⟩⟩
  | quarantined => exact ⟨filed, fun key lease held => ⟨lease, held, .refl lease⟩⟩
  | @committed leaseID _ _ decision _ found load decides done =>
    obtain ⟨stored, put, rfl⟩ := Option.map_eq_some_iff.mp done
    cases puts : decision.lease with
    | none => exact ⟨filed, fun key lease held => ⟨lease, held, .refl lease⟩⟩
    | some next =>
      obtain ⟨lease, held, follows⟩ := decides.follows filed puts
      exact follows_update filed held follows rfl

theorem transition_ok {expected : LeaseRecord} {operation : RepositoryOperation}
    (done : transition storage expected operation = .ok after) :
    ∃ current next, storage.leases expected.id = some current ∧ current.state = expected.state ∧
      current.revision = expected.revision ∧ next.id = current.id ∧
      next.revision = current.revision + 1 ∧
      after.leases = Function.update storage.leases next.id (some next) := by
  unfold transition at done
  dsimp only at done
  split at done
  · cases done
  · next current held =>
    split_ifs at done with incarnation state revision legal
    all_goals cases done
    exact ⟨current, { operation.apply current with storageRevision := some (current.revision + 1) },
      held, not_not.mp state, not_not.mp revision, operation.keepsID current, rfl, rfl⟩

/-- The write is a committed transition of the lease, or moves its state. -/
def Supersedes (library : ProvisioningLibrary) (key : Str) (storage : Storage) (op : LeaseOp) : Prop :=
  (∃ expected operation after, op = .transition expected operation ∧ expected.id = key ∧
    transition storage expected operation = .ok after) ∨
  ((write library storage op).leases key).map (·.state) ≠ (storage.leases key).map (·.state)

theorem write_follows (filed : Filed storage) (op : LeaseOp) :
    Filed (write library storage op) ∧ ∀ key lease, storage.leases key = some lease →
      ∃ next, (write library storage op).leases key = some next ∧ Follows lease next := by
  cases op with
  | provisioning op => exact perform_follows filed op
  | transition expected operation =>
    rw [write]
    cases done : transition storage expected operation with
    | error reason => exact ⟨filed, fun key lease held => ⟨lease, held, .refl lease⟩⟩
    | ok after =>
      obtain ⟨current, next, read, -, -, same, raised, replaced⟩ := transition_ok done
      rw [same, filed _ _ read] at replaced
      have older : current.age < next.age :=
        Prod.Lex.toLex_lt_toLex.mpr (.inl (raised ▸ lt_add_one current.revision))
      exact follows_update filed read ⟨same, .inr older⟩ replaced

theorem write_ages (filed : Filed storage) (held : storage.leases key = some lease) (op : LeaseOp) :
    ∃ next, (write library storage op).leases key = some next ∧ lease.age ≤ next.age ∧
      (Supersedes library key storage op → lease.age < next.age) := by
  obtain ⟨next, wrote, follows⟩ := (write_follows filed op).2 key lease held
  refine ⟨next, wrote, follows.age_le, fun supersedes => follows.2.resolve_left ?_⟩
  rintro ⟨revision, state⟩
  obtain ⟨expected, operation, after, rfl, rfl, done⟩ | moved := supersedes
  · obtain ⟨current, raisedTo, read, -, -, same, raised, replaced⟩ := transition_ok done
    rw [same, filed _ _ read] at replaced
    cases held.symm.trans read
    have reached : some next = some raisedTo := by
      rw [← wrote, write, done, Except.toOption, Option.getD_some, replaced, Function.update_self]
    cases reached
    omega
  · rw [wrote, held] at moved
    exact moved (congrArg some state)

def Superseded (library : ProvisioningLibrary) (key : Str) : Storage → List LeaseOp → Prop
  | _, [] => False
  | storage, op :: rest =>
    Supersedes library key storage op ∨ Superseded library key (write library storage op) rest

theorem writes_age (ops : List LeaseOp) (filed : Filed storage)
    (held : storage.leases key = some lease) :
    ∃ next, (ops.foldl (write library) storage).leases key = some next ∧ lease.age ≤ next.age ∧
      (Superseded library key storage ops → lease.age < next.age) := by
  induction ops generalizing storage lease with
  | nil => exact ⟨lease, held, le_rfl, False.elim⟩
  | cons op rest ih =>
    obtain ⟨next, held, older, strict⟩ := write_ages filed held op
    obtain ⟨last, held, later, stricter⟩ := ih (write_follows filed op).1 held
    refine ⟨last, held, older.trans later, ?_⟩
    rintro (first | second)
    · exact (strict first).trans_le later
    · exact older.trans_lt (stricter second)

/-- A transition from a record loaded before another transition of the lease, or a write that moved its
state, is refused. -/
theorem stale_transition_refused (library : ProvisioningLibrary) (storage : Storage)
    (filed : Filed storage) (expected : LeaseRecord)
    (loaded : storage.leases expected.id = some expected) (ops : List LeaseOp)
    (superseded : Superseded library expected.id storage ops) (operation : RepositoryOperation) :
    ∃ reason, transition (ops.foldl (write library) storage) expected operation = .error reason := by
  cases done : transition (ops.foldl (write library) storage) expected operation with
  | error reason => exact ⟨reason, rfl⟩
  | ok after =>
    obtain ⟨current, next, held, state, revision, -⟩ := transition_ok done
    obtain ⟨last, reached, -, older⟩ := writes_age ops filed loaded
    cases held.symm.trans reached
    have same : current.age = expected.age := by
      unfold LeaseRecord.age
      rw [state, revision]
    exact absurd same (older superseded).ne'

section Rewritten

theorem update_only {Record : Type} {record found : Record} {other : Str}
    (read : Function.update (fun _ => none) key (some record) other = some found) :
    other = key ∧ record = found := by
  by_cases same : other = key
  · rw [same, Function.update_self] at read
    exact ⟨same, Option.some_inj.mp read⟩
  · rw [Function.update_of_ne same] at read
    cases read

def plainLibrary : ProvisioningLibrary := ⟨fun _ => [], fun _ => none, fun _ => true, fun _ => true⟩

/-- A canceled lease whose server is retained. -/
def retainedLease : LeaseRecord :=
  { id := str "l", owner := str "o", org := str "g", provider := str "p", providerScope := some (str "s")
    createAttemptGeneration := some (str "n"), state := .released, releaseDeletesServer := some false }

def retainedOperation : LeaseProvisioningOperation :=
  { schema := 1, leaseID := str "l", operationID := str "q", generation := str "n", scope := str "s"
    owner := str "o", org := str "g", provider := str "p", createdAt := 0, deadline := 1, revision := 0
    step := { phase := .retained, attempt := 0, state := .document .null, nextWake := 0 }
    canceledAt := some 0, retain := some true }

def retainedStorage : Storage :=
  { operations := Function.update (fun _ => none) (str "l") (some retainedOperation)
    journals := fun _ => none, due := fun _ => none, quarantined := fun _ => false
    leases := Function.update (fun _ => none) (str "l") (some retainedLease)
    attempts := fun _ => none, locks := fun _ => none }

def kept : RepositoryOperation := ⟨id, fun _ => rfl⟩

theorem stale_transition_refused_repeated :
    ∃ reason, transition (write plainLibrary retainedStorage (.transition retainedLease kept))
      retainedLease kept = .error reason := by
  refine stale_transition_refused plainLibrary retainedStorage ?_ retainedLease rfl
    [.transition retainedLease kept] ?_ kept
  · intro key lease held
    obtain ⟨rfl, rfl⟩ := update_only held
    rfl
  · exact .inl (.inl ⟨retainedLease, kept, _, rfl, rfl, rfl⟩)

/-- A cancellation that deletes the server of a released lease is not seen by a transition from the
record before. -/
theorem stale_transition_accepted :
    let canceled := write plainLibrary retainedStorage (.provisioning (.cancel (str "l") 1 true none))
    retainedStorage.leases (str "l") = some retainedLease ∧
      canceled.leases (str "l") ≠ some retainedLease ∧
      ∃ after, transition canceled retainedLease kept = .ok after := by
  refine ⟨rfl, fun same => ?_, _, rfl⟩
  have deleted := congrArg (·.bind LeaseRecord.releaseDeletesServer) same
  cases deleted

end Rewritten

end Crabedence.Worker.Provisioning
