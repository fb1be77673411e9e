import Mathlib.Logic.Function.Basic
import Crabedence.Worker.RunLifecycle

/-!
# The run repository

The transactions of `DurableObjectRunRepository` that append to a run, over one table for each kind
of key; the kinds differ before the first colon.  An event is stored under the run id and the sequence
it carries.
-/

namespace Crabedence.Worker

open Utf16 (Str str)

structure RunStorage where
  runs : Str → Option RunRecord
  leases : Str → Option LeaseRecord
  events : List RunEventRecord

/-- Two events are stored under one key. -/
abbrev SameKey (event other : RunEventRecord) : Prop :=
  event.runID = other.runID ∧ event.seq = other.seq

def storeEvent (events : List RunEventRecord) (event : RunEventRecord) : List RunEventRecord :=
  if ∃ stored ∈ events, SameKey stored event then
    events.map fun stored => if SameKey stored event then event else stored
  else events ++ [event]

/-- The puts of a run record and of an event, if there is one. -/
def putRun (storage : RunStorage) (run : RunRecord) (event : Option RunEventRecord) : RunStorage :=
  { storage with
    runs := Function.update storage.runs run.id (some run)
    events := event.elim storage.events (storeEvent storage.events) }

def isLowercaseHexUnit (unit : UInt16) : Bool :=
  decide (0x30 ≤ unit ∧ unit ≤ 0x39 ∨ 0x61 ≤ unit ∧ unit ≤ 0x66)

def hexRun (count : Nat) (text : Str) : Bool :=
  decide (text.length = count) && text.all isLowercaseHexUnit

def isCanonicalLeaseID (value : Str) : Bool :=
  decide (str "cbx_" <+: value) && (hexRun 12 (value.drop 4) || hexRun 32 (value.drop 4))

variable (library : RunLibrary) (storage : RunStorage) (run : RunRecord)

def applyLeaseAttribution (lease : LeaseRecord) : RunRecord :=
  { run with
    leaseIDs :=
      if lease.id ∈ run.leaseIDs.getD [] then run.leaseIDs
      else some (run.leaseIDs.getD [] ++ [lease.id])
    leaseOwners :=
      if (lease.owner, lease.org) ∈ run.leaseOwners.getD [] then run.leaseOwners
      else some (run.leaseOwners.getD [] ++ [(lease.owner, lease.org)]) }

/-- The attribution to the current lease, if the run does not carry it and the lease is stored. -/
def attributeCurrentLease : RunRecord :=
  if isCanonicalLeaseID run.leaseID ∧ run.leaseID ∉ run.leaseIDs.getD [] then
    match storage.leases run.leaseID with
    | some lease => applyLeaseAttribution run lease
    | none => run
  else run

def revised (current next : RunRecord) : RunRecord :=
  { next with storageRevision := some (current.storageRevision.getD 0 + 1) }

def recordEvent (current : RunRecord) (event : RunEventRecord) : RunRecord :=
  attributeCurrentLease storage { applyRunEventSummary current event with
    eventCount := some event.seq, lastEventAt := some event.createdAt }

def appendRunEvent (runID : Str) (template : RunEventTemplate) (now : Str) : RunStorage :=
  match storage.runs runID with
  | none => storage
  | some current =>
    let event := buildRunEvent current.id (current.eventCount.getD 0 + 1) now template
    putRun storage (revised current (recordEvent storage current event)) (some event)

def appendRunTelemetry (runID : Str) (sample : LeaseTelemetry) : RunStorage :=
  match storage.runs runID with
  | none => storage
  | some current =>
    let next := { current with
      telemetry := some (appendRunTelemetrySample library current.telemetry sample) }
    putRun storage (revised current next) none

/-- A late delivery, or another writer's change of a lease. -/
inductive Delivery where
  | event (runID : Str) (template : RunEventTemplate) (now : Str)
  | telemetry (runID : Str) (sample : LeaseTelemetry)
  | lease (leaseID : Str) (lease : Option LeaseRecord)

def deliver (storage : RunStorage) : Delivery → RunStorage
  | .event runID template now => appendRunEvent storage runID template now
  | .telemetry runID sample => appendRunTelemetry library storage runID sample
  | .lease leaseID lease => { storage with leases := Function.update storage.leases leaseID lease }

end Crabedence.Worker
