import Crabedence.Script.Json

/-!
# The run lifecycle

How an event or a telemetry sample changes the record of a run, apart from storage.  Counts, exit
codes and times are integers; results, receipts and evidence are documents no rule looks into, and of
a telemetry sample only the capture time is read.
-/

namespace Crabedence.Worker

open Utf16 (Str str)

/-- The functions of the script runtime the run lifecycle rests on. -/
structure RunLibrary where
  /-- `left.localeCompare(right) <= 0`. -/
  localeOrder : Str → Str → Bool

inductive RunState where
  | running
  | succeeded
  | failed
deriving DecidableEq

structure LeaseTelemetry where
  capturedAt : Option Str
deriving DecidableEq

structure RunTelemetrySummary where
  start : Option LeaseTelemetry
  end_ : Option LeaseTelemetry
  samples : Option (List LeaseTelemetry)
deriving DecidableEq

structure LeaseRecord where
  id : Str
  owner : Str
  org : Str

structure RunRecord where
  id : Str
  leaseID : Str
  leaseIDs : Option (List Str) := none
  slug : Option Str := none
  owner : Str
  org : Str
  leaseOwners : Option (List (Str × Str)) := none
  provider : Str
  target : Option Str := none
  windowsMode : Option Str := none
  class_ : Str
  serverType : Str
  command : List Str
  label : Option Str := none
  state : RunState
  phase : Option Str := none
  exitCode : Option ℤ := none
  syncMs : Option ℤ := none
  commandMs : Option ℤ := none
  durationMs : Option ℤ := none
  logBytes : ℤ
  logTruncated : Bool
  blockedStage : Option Str := none
  retryLikely : Option Str := none
  results : Option Script.Value := none
  telemetry : Option RunTelemetrySummary := none
  startedAt : Str
  lastEventAt : Option Str := none
  eventCount : Option Nat := none
  endedAt : Option Str := none
  storageRevision : Option Nat := none
  terminalReceipt : Option Script.Value := none
  terminalFinishSHA256 : Option Str := none
  terminalLogPrefix : Option Str := none
  evidence : Option Script.Value := none

/-- What a run event carries apart from the fields the repository assigns. -/
structure RunEventTemplate where
  type : Str
  phase : Option Str := none
  stream : Option Str := none
  message : Option Str := none
  data : Option Str := none
  leaseID : Option Str := none
  slug : Option Str := none
  provider : Option Str := none
  target : Option Str := none
  windowsMode : Option Str := none
  class_ : Option Str := none
  serverType : Option Str := none
  exitCode : Option ℤ := none

structure RunEventRecord extends RunEventTemplate where
  runID : Str
  seq : Nat
  createdAt : Str

section Events

def truthy (text : Option Str) : Option Str := text.filter fun value => decide (value ≠ [])

/-- `if (value) field = value`. -/
def orKeep (value : Option Str) (kept : Str) : Str := (truthy value).getD kept

def buildRunEvent (runID : Str) (seq : Nat) (createdAt : Str) (template : RunEventTemplate) :
    RunEventRecord :=
  { template with runID, seq, createdAt }

def isTerminalRunState (state : RunState) : Bool := decide (state ≠ .running)

def phaseForRunEvent (type : Str) : Str :=
  if type = str "leasing.started" then str "leasing"
  else if type = str "lease.created" then str "leased"
  else if type = str "bootstrap.waiting" then str "bootstrap"
  else if type = str "sync.started" then str "sync"
  else if type = str "sync.finished" then str "synced"
  else if type = str "command.started" ∨ type = str "stdout" ∨ type = str "stderr" then
    str "command"
  else if type = str "lease.released" then str "released"
  else []

def applyRunEventSummary (run : RunRecord) (event : RunEventRecord) : RunRecord :=
  if (truthy run.terminalFinishSHA256).isSome || isTerminalRunState run.state then run
  else
    let run := { run with
      phase := truthy event.phase <|> truthy (some (phaseForRunEvent event.type)) <|> run.phase
      leaseID := orKeep event.leaseID run.leaseID
      slug := truthy event.slug <|> run.slug
      provider := orKeep event.provider run.provider
      target := truthy event.target <|> run.target
      windowsMode := truthy event.windowsMode <|> run.windowsMode
      class_ := orKeep event.class_ run.class_
      serverType := orKeep event.serverType run.serverType }
    if event.type = str "run.failed" then
      { run with state := .failed, phase := some (str "failed"), endedAt := some event.createdAt }
    else run

end Events

section Telemetry

variable (library : RunLibrary)

def maxRunTelemetrySamples : Nat := 60

/-- `Map.set`: a key that is there keeps its place. -/
def setEntry {V : Type} (entries : List (Str × V)) (key : Str) (value : V) : List (Str × V) :=
  if key ∈ entries.map Prod.fst then
    entries.map fun entry => if entry.1 = key then (key, value) else entry
  else entries ++ [(key, value)]

def boundedTelemetrySamples (samples : List LeaseTelemetry) (max : Nat) : List LeaseTelemetry :=
  let byTime := samples.foldl (fun byTime sample =>
    match truthy sample.capturedAt with
    | some time => setEntry byTime time sample
    | none => byTime) []
  let sorted := byTime.mergeSort fun left right => library.localeOrder left.1 right.1
  (sorted.map Prod.snd).drop (sorted.length - max)

def appendRunTelemetrySample (telemetry : Option RunTelemetrySummary) (sample : LeaseTelemetry) :
    RunTelemetrySummary :=
  { start := telemetry.bind (·.start) <|> some sample
    end_ := telemetry.bind (·.end_)
    samples := some (boundedTelemetrySamples library
      ((telemetry.bind (·.samples)).getD [] ++ [sample]) maxRunTelemetrySamples) }

end Telemetry

end Crabedence.Worker
