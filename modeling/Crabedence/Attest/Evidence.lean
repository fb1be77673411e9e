import Crabedence.Attest.Receipt
import Crabedence.Script.Fields

/-!
# Run evidence

`RunEvidenceV1` and its canonical JSON.  A nil slice and an empty one are one list: every function of
the source only looks at the length and the items.
-/

namespace Crabedence.Attest

open Go Json
open Script (Fields)

section Records

structure RunnerPhase where
  name : Str
  ms : Int64
  opaqueTime : Bool
  reason : Str
  provider : Str
  leaseID : Str
  slug : Str
  runID : Str
  machineType : Str
  transferCount : Int64
  transferBytes : Int64
deriving DecidableEq

structure TimingPhase where
  name : Str
  ms : Int64
  skipped : Bool
  reason : Str
deriving DecidableEq

structure RunEvidenceArtifact where
  kind : Str
  path : Str
  bytes : Int64
  sha256 : Str
deriving DecidableEq

structure RunEvidenceStartupConfirm where
  stage : Str
  durationMs : Int64
  ready : Bool
  processExited : Bool
  retryable : Bool
deriving DecidableEq

structure RunEvidenceV1 where
  schemaVersion : Int64
  evidenceType : Str
  provider : Str
  leaseID : Str
  slug : Str
  runID : Str
  label : Str
  machineType : Str
  exitCode : Int64
  runStatus : Str
  errorKind : Str
  commandText : Str
  totalMs : Int64
  commandMs : Int64
  syncMs : Int64
  runnerTotalMs : Int64
  endToEndMs : Int64
  leaseMs : Int64
  bootstrapMs : Int64
  hydrateMs : Int64
  probeMs : Int64
  syncDelegated : Bool
  syncSkipped : Bool
  syncMode : Str
  syncTransferFiles : Int64
  syncTransferBytes : Int64
  syncFallbackReason : Str
  runnerPhases : List RunnerPhase
  syncPhases : List TimingPhase
  commandPhases : List TimingPhase
  blockedStage : Str
  resourceExhaustion : Str
  retryLikely : Str
  failureHint : Str
  artifacts : List RunEvidenceArtifact
  startupConfirm : Option RunEvidenceStartupConfirm
  startedAt : Str
  endedAt : Str
  digest : Str
deriving DecidableEq

end Records

section Names

inductive RunnerPhaseField where
  | name | ms | opaqueTime | reason | provider | leaseID | slug | runID | machineType
  | transferCount | transferBytes
deriving DecidableEq

def RunnerPhaseField.key : RunnerPhaseField → String
  | .name => "name"
  | .ms => "ms"
  | .opaqueTime => "opaque"
  | .reason => "reason"
  | .provider => "provider"
  | .leaseID => "lease_id"
  | .slug => "slug"
  | .runID => "run_id"
  | .machineType => "machine_type"
  | .transferCount => "transfer_count"
  | .transferBytes => "transfer_bytes"

def runnerPhaseFields : Fields RunnerPhaseField where
  key := RunnerPhaseField.key
  all :=
    [.name, .ms, .opaqueTime, .reason, .provider, .leaseID, .slug, .runID, .machineType,
      .transferCount, .transferBytes]
  sorted :=
    [.leaseID, .machineType, .ms, .name, .opaqueTime, .provider, .reason, .runID, .slug,
      .transferBytes, .transferCount]
  complete := fun field => by cases field <;> decide
  distinct := by decide
  perm := by decide
  keys := by decide
  goOrder := by decide
  scriptOrder := by decide
  named := by decide

inductive TimingPhaseField where
  | name | ms | skipped | reason
deriving DecidableEq

def TimingPhaseField.key : TimingPhaseField → String
  | .name => "name"
  | .ms => "ms"
  | .skipped => "skipped"
  | .reason => "reason"

def timingPhaseFields : Fields TimingPhaseField where
  key := TimingPhaseField.key
  all :=
    [.name, .ms, .skipped, .reason]
  sorted :=
    [.ms, .name, .reason, .skipped]
  complete := fun field => by cases field <;> decide
  distinct := by decide
  perm := by decide
  keys := by decide
  goOrder := by decide
  scriptOrder := by decide
  named := by decide

inductive ArtifactField where
  | kind | path | bytes | sha256
deriving DecidableEq

def ArtifactField.key : ArtifactField → String
  | .kind => "kind"
  | .path => "path"
  | .bytes => "bytes"
  | .sha256 => "sha256"

def artifactFields : Fields ArtifactField where
  key := ArtifactField.key
  all :=
    [.kind, .path, .bytes, .sha256]
  sorted :=
    [.bytes, .kind, .path, .sha256]
  complete := fun field => by cases field <;> decide
  distinct := by decide
  perm := by decide
  keys := by decide
  goOrder := by decide
  scriptOrder := by decide
  named := by decide

inductive StartupConfirmField where
  | stage | durationMs | ready | processExited | retryable
deriving DecidableEq

def StartupConfirmField.key : StartupConfirmField → String
  | .stage => "stage"
  | .durationMs => "duration_ms"
  | .ready => "ready"
  | .processExited => "process_exited"
  | .retryable => "retryable"

def startupConfirmFields : Fields StartupConfirmField where
  key := StartupConfirmField.key
  all :=
    [.stage, .durationMs, .ready, .processExited, .retryable]
  sorted :=
    [.durationMs, .processExited, .ready, .retryable, .stage]
  complete := fun field => by cases field <;> decide
  distinct := by decide
  perm := by decide
  keys := by decide
  goOrder := by decide
  scriptOrder := by decide
  named := by decide

inductive EvidenceField where
  | schemaVersion | evidenceType | provider | leaseID | slug | runID | label | machineType
  | exitCode | runStatus | errorKind | commandText | totalMs | commandMs | syncMs | runnerTotalMs
  | endToEndMs | leaseMs | bootstrapMs | hydrateMs | probeMs | syncDelegated | syncSkipped
  | syncMode | syncTransferFiles | syncTransferBytes | syncFallbackReason | runnerPhases
  | syncPhases | commandPhases | blockedStage | resourceExhaustion | retryLikely | failureHint
  | artifacts | startupConfirm | startedAt | endedAt | digest
deriving DecidableEq

def EvidenceField.key : EvidenceField → String
  | .schemaVersion => "schema_version"
  | .evidenceType => "evidence_type"
  | .provider => "provider"
  | .leaseID => "lease_id"
  | .slug => "slug"
  | .runID => "run_id"
  | .label => "label"
  | .machineType => "machine_type"
  | .exitCode => "exit_code"
  | .runStatus => "run_status"
  | .errorKind => "error_kind"
  | .commandText => "command_text"
  | .totalMs => "total_ms"
  | .commandMs => "command_ms"
  | .syncMs => "sync_ms"
  | .runnerTotalMs => "runner_total_ms"
  | .endToEndMs => "end_to_end_ms"
  | .leaseMs => "lease_ms"
  | .bootstrapMs => "bootstrap_ms"
  | .hydrateMs => "hydrate_ms"
  | .probeMs => "probe_ms"
  | .syncDelegated => "sync_delegated"
  | .syncSkipped => "sync_skipped"
  | .syncMode => "sync_mode"
  | .syncTransferFiles => "sync_transfer_files"
  | .syncTransferBytes => "sync_transfer_bytes"
  | .syncFallbackReason => "sync_fallback_reason"
  | .runnerPhases => "runner_phases"
  | .syncPhases => "sync_phases"
  | .commandPhases => "command_phases"
  | .blockedStage => "blocked_stage"
  | .resourceExhaustion => "resource_exhaustion"
  | .retryLikely => "retry_likely"
  | .failureHint => "failure_hint"
  | .artifacts => "artifacts"
  | .startupConfirm => "startup_confirm"
  | .startedAt => "started_at"
  | .endedAt => "ended_at"
  | .digest => "digest"

def evidenceFields : Fields EvidenceField where
  key := EvidenceField.key
  all :=
    [.schemaVersion, .evidenceType, .provider, .leaseID, .slug, .runID, .label, .machineType,
      .exitCode, .runStatus, .errorKind, .commandText, .totalMs, .commandMs, .syncMs, .runnerTotalMs,
      .endToEndMs, .leaseMs, .bootstrapMs, .hydrateMs, .probeMs, .syncDelegated, .syncSkipped,
      .syncMode, .syncTransferFiles, .syncTransferBytes, .syncFallbackReason, .runnerPhases,
      .syncPhases, .commandPhases, .blockedStage, .resourceExhaustion, .retryLikely, .failureHint,
      .artifacts, .startupConfirm, .startedAt, .endedAt, .digest]
  sorted :=
    [.artifacts, .blockedStage, .bootstrapMs, .commandMs, .commandPhases, .commandText, .digest,
      .endToEndMs, .endedAt, .errorKind, .evidenceType, .exitCode, .failureHint, .hydrateMs, .label,
      .leaseID, .leaseMs, .machineType, .probeMs, .provider, .resourceExhaustion, .retryLikely,
      .runID, .runStatus, .runnerPhases, .runnerTotalMs, .schemaVersion, .slug, .startedAt,
      .startupConfirm, .syncDelegated, .syncFallbackReason, .syncMode, .syncMs, .syncPhases,
      .syncSkipped, .syncTransferBytes, .syncTransferFiles, .totalMs]
  complete := fun field => by cases field <;> decide
  distinct := by decide +kernel
  perm := by decide +kernel
  keys := by decide +kernel
  goOrder := by decide +kernel
  scriptOrder := by decide +kernel
  named := by decide +kernel

end Names

section Members

def omitZero (value : Int64) : Option (Node ℤ Str) :=
  if value = 0 then none else some (.number value.toInt)

def omitFalse (value : Bool) : Option (Node ℤ Str) := if value then some (.bool true) else none

def omitNil {A : Type} (canonical : A → Node ℤ Str) (items : List A) : Option (Node ℤ Str) :=
  if items = [] then none else some (.array (items.map canonical))

def sortedOrderedMap {F : Type} (fields : Fields F) (member : F → Option (Node ℤ Str)) :
    Node ℤ Str :=
  .object (sortMembers (listed fields.goKey fields.all member))

def RunnerPhase.member (p : RunnerPhase) : RunnerPhaseField → Option (Node ℤ Str)
  | .name => some (.string p.name)
  | .ms => some (.number p.ms.toInt)
  | .opaqueTime => omitFalse p.opaqueTime
  | .reason => omitEmpty p.reason
  | .provider => omitEmpty p.provider
  | .leaseID => omitEmpty p.leaseID
  | .slug => omitEmpty p.slug
  | .runID => omitEmpty p.runID
  | .machineType => omitEmpty p.machineType
  | .transferCount => omitZero p.transferCount
  | .transferBytes => omitZero p.transferBytes

def runnerPhaseCanonical (p : RunnerPhase) : Node ℤ Str :=
  sortedOrderedMap runnerPhaseFields p.member

def TimingPhase.member (p : TimingPhase) : TimingPhaseField → Option (Node ℤ Str)
  | .name => some (.string p.name)
  | .ms => omitZero p.ms
  | .skipped => omitFalse p.skipped
  | .reason => omitEmpty p.reason

def timingPhaseCanonical (p : TimingPhase) : Node ℤ Str :=
  sortedOrderedMap timingPhaseFields p.member

def RunEvidenceArtifact.member (a : RunEvidenceArtifact) : ArtifactField → Option (Node ℤ Str)
  | .kind => some (.string a.kind)
  | .path => some (.string a.path)
  | .bytes => omitZero a.bytes
  | .sha256 => omitEmpty a.sha256

def runEvidenceArtifactCanonical (a : RunEvidenceArtifact) : Node ℤ Str :=
  sortedOrderedMap artifactFields a.member

def RunEvidenceStartupConfirm.member (sc : RunEvidenceStartupConfirm) :
    StartupConfirmField → Option (Node ℤ Str)
  | .stage => some (.string sc.stage)
  | .durationMs => some (.number sc.durationMs.toInt)
  | .ready => some (.bool sc.ready)
  | .processExited => omitFalse sc.processExited
  | .retryable => omitFalse sc.retryable

def startupConfirmCanonical (sc : RunEvidenceStartupConfirm) : Node ℤ Str :=
  sortedOrderedMap startupConfirmFields sc.member

def RunEvidenceV1.member (ev : RunEvidenceV1) : EvidenceField → Option (Node ℤ Str)
  | .schemaVersion => some (.number ev.schemaVersion.toInt)
  | .evidenceType => some (.string ev.evidenceType)
  | .provider => some (.string ev.provider)
  | .leaseID => omitEmpty ev.leaseID
  | .slug => omitEmpty ev.slug
  | .runID => omitEmpty ev.runID
  | .label => omitEmpty ev.label
  | .machineType => omitEmpty ev.machineType
  | .exitCode => some (.number ev.exitCode.toInt)
  | .runStatus => some (.string ev.runStatus)
  | .errorKind => omitEmpty ev.errorKind
  | .commandText => omitEmpty ev.commandText
  | .totalMs => some (.number ev.totalMs.toInt)
  | .commandMs => some (.number ev.commandMs.toInt)
  | .syncMs => some (.number ev.syncMs.toInt)
  | .runnerTotalMs => omitZero ev.runnerTotalMs
  | .endToEndMs => omitZero ev.endToEndMs
  | .leaseMs => omitZero ev.leaseMs
  | .bootstrapMs => omitZero ev.bootstrapMs
  | .hydrateMs => omitZero ev.hydrateMs
  | .probeMs => omitZero ev.probeMs
  | .syncDelegated => omitFalse ev.syncDelegated
  | .syncSkipped => omitFalse ev.syncSkipped
  | .syncMode => omitEmpty ev.syncMode
  | .syncTransferFiles => omitZero ev.syncTransferFiles
  | .syncTransferBytes => omitZero ev.syncTransferBytes
  | .syncFallbackReason => omitEmpty ev.syncFallbackReason
  | .runnerPhases => omitNil runnerPhaseCanonical ev.runnerPhases
  | .syncPhases => omitNil timingPhaseCanonical ev.syncPhases
  | .commandPhases => omitNil timingPhaseCanonical ev.commandPhases
  | .blockedStage => omitEmpty ev.blockedStage
  | .resourceExhaustion => omitEmpty ev.resourceExhaustion
  | .retryLikely => omitEmpty ev.retryLikely
  | .failureHint => omitEmpty ev.failureHint
  | .artifacts => omitNil runEvidenceArtifactCanonical ev.artifacts
  | .startupConfirm => ev.startupConfirm.map startupConfirmCanonical
  | .startedAt => omitEmpty ev.startedAt
  | .endedAt => omitEmpty ev.endedAt
  | .digest => some (.string ev.digest)

def evidenceToOrderedMap (ev : RunEvidenceV1) : Node ℤ Str :=
  sortedOrderedMap evidenceFields ev.member

end Members

section Digest

variable (crypto : Crypto) (ev : RunEvidenceV1)

def canonicalEvidenceJSON : List UInt8 :=
  Utf8.encode (marshalNoEscape (evidenceToOrderedMap ev))

/-- The bytes `runEvidenceDigest` hashes. -/
def RunEvidenceV1.hashedBytes : List UInt8 :=
  canonicalEvidenceJSON { ev with digest := [] }

def runEvidenceDigest : Str :=
  hexEncode (crypto.sha256 ev.hashedBytes)

def verifyRunEvidenceDigest : Bool :=
  decide (ev.digest = runEvidenceDigest crypto ev) && decide (ev.digest ≠ [])

def RunEvidenceV1.withDigest : RunEvidenceV1 :=
  if ev.digest = [] then { ev with digest := runEvidenceDigest crypto ev } else ev

def RunEvidenceV1.marshalJSON : List UInt8 :=
  canonicalEvidenceJSON (ev.withDigest crypto)

end Digest

end Crabedence.Attest
