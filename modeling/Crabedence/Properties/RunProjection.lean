import Crabedence.Transition
import Crabedence.Worker.RunRepository

/-!
# The projection of a terminal run

What late events and telemetry leave of a terminal run.  The summary of an event no longer touches
the record, but the attribution to the current lease is still applied.
-/

namespace Crabedence.Worker

open Transition
open Utf16 (Str str)

/-- Every run record is stored under its own id. -/
def Filed (storage : RunStorage) : Prop :=
  ∀ key run, storage.runs key = some run → run.id = key

theorem putRun_runs (storage : RunStorage) (run : RunRecord) (event : Option RunEventRecord)
    (key : Str) :
    (putRun storage run event).runs key = if key = run.id then some run else storage.runs key :=
  Function.update_apply _ _ _ _

theorem filed_putRun {storage : RunStorage} (filed : Filed storage) (run : RunRecord)
    (event : Option RunEventRecord) : Filed (putRun storage run event) := by
  intro key stored held
  rw [putRun_runs] at held
  split_ifs at held with own
  · rw [own, ← Option.some_inj.mp held]
  · exact filed key stored held

/-- The record apart from its counters, the time of its last event and its telemetry. -/
def projection (run : RunRecord) : RunRecord :=
  { run with eventCount := none, lastEventAt := none, storageRevision := none, telemetry := none }

/-- An attribution to the current lease would add nothing. -/
def Attributed (storage : RunStorage) (run : RunRecord) : Prop :=
  isCanonicalLeaseID run.leaseID → run.leaseID ∉ run.leaseIDs.getD [] →
    ∀ lease, storage.leases run.leaseID = some lease →
      lease.id ∈ run.leaseIDs.getD [] ∧ (lease.owner, lease.org) ∈ run.leaseOwners.getD []

theorem appended_ne {α : Type} (items : Option (List α)) (item : α) :
    some (items.getD [] ++ [item]) ≠ items := by
  cases items <;> simp

theorem applyLeaseAttribution_iff (run : RunRecord) (lease : LeaseRecord) :
    projection (applyLeaseAttribution run lease) = projection run ↔
      lease.id ∈ run.leaseIDs.getD [] ∧ (lease.owner, lease.org) ∈ run.leaseOwners.getD [] := by
  have ids := appended_ne run.leaseIDs lease.id
  have owners := appended_ne run.leaseOwners (lease.owner, lease.org)
  simp only [projection, applyLeaseAttribution, RunRecord.mk.injEq, true_and, and_true]
  split_ifs <;> simp [*]

theorem attributeCurrentLease_iff (storage : RunStorage) (run : RunRecord) :
    projection (attributeCurrentLease storage run) = projection run ↔ Attributed storage run := by
  unfold attributeCurrentLease Attributed
  split_ifs with due
  · cases held : storage.leases run.leaseID with
    | none => simp
    | some lease =>
      rw [applyLeaseAttribution_iff]
      simp [due.1, due.2]
  · exact iff_of_true rfl fun valid fresh => absurd ⟨valid, fresh⟩ due

variable {run next : RunRecord} {event : Option RunEventRecord}

theorem projection_congr {other : RunRecord} (same : projection run = projection other) :
    run.leaseID = other.leaseID ∧ run.leaseIDs = other.leaseIDs ∧
      run.leaseOwners = other.leaseOwners ∧ run.state = other.state := by
  simp only [projection, RunRecord.mk.injEq] at same
  simp only [same, and_self]

/-- If an event is delivered to the run, an attribution would add nothing. -/
def Harmless (runID : Str) (storage : RunStorage) : Delivery → Prop
  | .event id _ _ => id = runID → ∀ run, storage.runs runID = some run → Attributed storage run
  | .telemetry _ _ => True
  | .lease _ _ => True

/-- The run is stored with the projection of the first record. -/
def Frozen (runID : Str) (first : RunRecord) (storage : RunStorage) : Prop :=
  ∃ run, storage.runs runID = some run ∧ projection run = projection first

variable {library : RunLibrary} {storage : RunStorage} {runID : Str} {first : RunRecord}

theorem putRun_frozen (own : next.id = runID) :
    Frozen runID first (putRun storage next event) ↔ projection next = projection first := by
  subst own
  simp [Frozen, putRun_runs]

theorem putRun_frozen_of_ne (other : next.id ≠ runID) :
    Frozen runID first (putRun storage next event) ↔ Frozen runID first storage := by
  simp [Frozen, putRun_runs, other.symm]

theorem recordEvent_id (run : RunRecord) (event : RunEventRecord) :
    (recordEvent storage run event).id = run.id := by
  have summary : (applyRunEventSummary run event).id = run.id := by
    unfold applyRunEventSummary
    split_ifs <;> rfl
  unfold recordEvent attributeCurrentLease
  split_ifs
  · cases storage.leases _ <;> exact summary
  · exact summary

theorem filed_deliver (library : RunLibrary) (storage : RunStorage) (op : Delivery)
    (filed : Filed storage) : Filed (deliver library storage op) := by
  cases op with
  | event id template now =>
    rw [deliver, appendRunEvent]
    cases storage.runs id with
    | none => exact filed
    | some current => exact filed_putRun filed _ _
  | telemetry id sample =>
    rw [deliver, appendRunTelemetry]
    cases storage.runs id with
    | none => exact filed
    | some current => exact filed_putRun filed _ _
  | lease leaseID lease => exact filed

theorem appendRunEvent_frozen (template : RunEventTemplate) (now : Str)
    (stored : storage.runs runID = some run) (own : run.id = runID)
    (terminal : isTerminalRunState run.state = true) (same : projection run = projection first) :
    Frozen runID first (appendRunEvent storage runID template now) ↔ Attributed storage run := by
  simp only [appendRunEvent, stored]
  rw [putRun_frozen (by rw [revised, recordEvent_id, own]), ← same]
  simp only [recordEvent, applyRunEventSummary, terminal, Bool.or_true, if_true]
  exact attributeCurrentLease_iff storage { run with
    eventCount := some (run.eventCount.getD 0 + 1), lastEventAt := some now }

theorem frozen_deliver (terminal : isTerminalRunState first.state = true) (storage : RunStorage)
    (op : Delivery) (filed : Filed storage) (frozen : Frozen runID first storage) :
    Frozen runID first (deliver library storage op) ↔ Harmless runID storage op := by
  obtain ⟨run, stored, same⟩ := frozen
  have kept : Frozen runID first storage := ⟨run, stored, same⟩
  have own := filed runID run stored
  cases op with
  | lease leaseID lease => exact iff_of_true kept trivial
  | telemetry id sample =>
    refine iff_of_true ?_ trivial
    rw [deliver, appendRunTelemetry]
    cases held : storage.runs id with
    | none => exact kept
    | some current =>
      by_cases here : id = runID
      · subst here
        rw [stored, Option.some_inj] at held
        subst held
        refine (putRun_frozen ?_).mpr ?_
        · exact own
        · exact same
      · exact (putRun_frozen_of_ne (by rwa [revised, filed id current held])).mpr kept
  | event id template now =>
    by_cases here : id = runID
    · subst here
      have ended : isTerminalRunState run.state = true := by
        rwa [(projection_congr same).2.2.2]
      rw [deliver, appendRunEvent_frozen template now stored own ended same]
      simp [Harmless, stored]
    · refine iff_of_true ?_ fun named => absurd named here
      rw [deliver, appendRunEvent]
      cases held : storage.runs id with
      | none => exact kept
      | some current =>
        refine (putRun_frozen_of_ne ?_).mpr kept
        rw [revised, recordEvent_id, filed id current held]
        exact here

/-- Late deliveries leave a terminal run as it was, apart from its counters, the time of its last event
and its telemetry, exactly if no event comes while the run's own lease is stored and adds to its
attribution. -/
theorem terminal_projection_frozen (library : RunLibrary) (storage : RunStorage) (run : RunRecord)
    (filed : Filed storage) (stored : storage.runs run.id = some run)
    (terminal : isTerminalRunState run.state = true) (ops : List Delivery) :
    Always (deliver library) (Frozen run.id run) storage ops ↔
      Meets (deliver library) (Harmless run.id) storage ops :=
  always_iff_meets (filed_deliver library) (frozen_deliver terminal) filed ⟨run, stored, rfl⟩ ops

def endedRun : RunRecord :=
  { id := str "run", leaseID := str "cbx_0123456789ab", owner := [], org := [], provider := [],
    class_ := [], serverType := [], command := [], state := .failed, logBytes := 0,
    logTruncated := false, startedAt := [] }

def emptyStorage : RunStorage := ⟨fun _ => none, fun _ => none, []⟩

theorem filed_emptyStorage : Filed emptyStorage := fun _ _ held => by cases held

def storageOf (run : RunRecord) : RunStorage := putRun emptyStorage run none

theorem filed_storageOf (run : RunRecord) : Filed (storageOf run) :=
  filed_putRun filed_emptyStorage run none

theorem runs_storageOf (run : RunRecord) : (storageOf run).runs run.id = some run := by
  rw [storageOf, putRun_runs, if_pos rfl]

def idleLibrary : RunLibrary := ⟨fun _ _ => true⟩

def lateLease : LeaseRecord := ⟨endedRun.leaseID, str "owner", str "org"⟩

def lateEvent : Delivery := .event endedRun.id { type := str "stdout" } []

theorem terminal_projection_frozen_ended :
    Always (deliver idleLibrary) (Frozen endedRun.id endedRun) (storageOf endedRun) [lateEvent] :=
  (terminal_projection_frozen idleLibrary (storageOf endedRun) endedRun (filed_storageOf endedRun)
    (runs_storageOf endedRun) rfl [lateEvent]).mpr
    ⟨fun _ _ _ _ _ _ held => (by cases held), trivial⟩

/-- The lease is stored after the run ended, and the next event attributes the run to its owner. -/
theorem terminal_projection_attributed :
    ¬ Always (deliver idleLibrary) (Frozen endedRun.id endedRun) (storageOf endedRun)
      [.lease endedRun.leaseID (some lateLease), lateEvent] := by
  intro always
  obtain ⟨_, later, last⟩ := always
  have filed := filed_deliver idleLibrary _ (.lease endedRun.leaseID (some lateLease))
    (filed_storageOf endedRun)
  have harmless := (frozen_deliver rfl _ lateEvent filed later).mp last
  have attributed := harmless rfl endedRun (runs_storageOf endedRun) (by decide) List.not_mem_nil
    lateLease (by simp [deliver])
  exact List.not_mem_nil attributed.1

end Crabedence.Worker
