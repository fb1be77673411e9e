import Mathlib.Logic.Function.Basic
import Crabedence.Transition

/-!
# The provider gate

`ProviderGate` of the executor: dispatch slots, wedged calls and the circuit of each provider.  Every
operation runs under the gate's lock, except that `MarkWedged` sets the flag of its lease before it
takes the lock; the two parts are two operations here.  The zero `time.Time` is `none`, and no clock
reads it.  Durations are nanoseconds: `Sub` saturates beyond any cooldown, so it is a difference.
-/

namespace Crabedence.Gate

structure ProviderGateConfig where
  maxConcurrent : Int
  degradedAfter : Int
  openAfter : Int
  openCooldown : Int
  deriving DecidableEq, Repr

def defaultProviderGateConfig : ProviderGateConfig where
  maxConcurrent := 64
  degradedAfter := 5
  openAfter := 10
  openCooldown := 30000000000

def ProviderGateConfig.withDefaults (c : ProviderGateConfig) : ProviderGateConfig :=
  let d := defaultProviderGateConfig
  { maxConcurrent := if c.maxConcurrent ≤ 0 then d.maxConcurrent else c.maxConcurrent
    degradedAfter := if c.degradedAfter ≤ 0 then d.degradedAfter else c.degradedAfter
    openAfter := if c.openAfter ≤ 0 then d.openAfter else c.openAfter
    openCooldown := if c.openCooldown ≤ 0 then d.openCooldown else c.openCooldown }

structure ProviderState where
  inFlight : Nat
  wedged : Nat
  consecutiveFailures : Nat
  openedAt : Option Int
  probeInFlight : Bool
  lastFailure : String
  deriving DecidableEq, Repr

structure ProviderLease where
  providerID : String
  probe : Bool
  /-- `once` has run. -/
  released : Bool
  wedged : Bool
  /-- The `MarkWedged` that set the flag has gone on to raise the count. -/
  counted : Bool
  deriving DecidableEq, Repr

structure ProviderGate where
  cfg : ProviderGateConfig
  providers : String → ProviderState
  leases : List ProviderLease

def newProviderGate (cfg : ProviderGateConfig) : ProviderGate where
  cfg := cfg.withDefaults
  providers := fun _ => ⟨0, 0, 0, none, false, ""⟩
  leases := []

inductive GateError where
  | saturated (text : String)
  | circuitOpen (text : String)
  deriving DecidableEq, Repr

inductive ProviderHealth where
  | healthy
  | degraded
  | open
  deriving DecidableEq, Repr

def healthLocked (cfg : ProviderGateConfig) (st : ProviderState) : ProviderHealth :=
  if cfg.openAfter ≤ st.consecutiveFailures then .open
  else if cfg.degradedAfter ≤ st.consecutiveFailures then .degraded
  else .healthy

def saturated (providerID : String) (st : ProviderState) : GateError :=
  .saturated ("provider dispatch capacity exhausted: " ++ providerID ++ " (" ++
    toString st.inFlight ++ " in flight)")

def circuitOpen (providerID reason : String) : GateError :=
  .circuitOpen ("provider circuit is open: " ++ providerID ++ " (" ++ reason ++ ")")

/-- Whether the call is a probe, and the state that admits it. -/
def admitLocked (cfg : ProviderGateConfig) (now : Int) (providerID : String) (st : ProviderState) :
    Except GateError (Bool × ProviderState) :=
  if st.consecutiveFailures < cfg.openAfter then
    if cfg.maxConcurrent ≤ st.inFlight then .error (saturated providerID st)
    else .ok (false, st)
  else if st.probeInFlight then .error (circuitOpen providerID "probe in flight")
  else
    match st.openedAt with
    | none => .error (circuitOpen providerID st.lastFailure)
    | some openedAt =>
      if cfg.openCooldown ≤ now - openedAt then
        if cfg.maxConcurrent ≤ st.inFlight then .error (saturated providerID st)
        else .ok (true, { st with probeInFlight := true })
      else .error (circuitOpen providerID st.lastFailure)

namespace ProviderGate

variable (gate : ProviderGate)

def setState (providerID : String) (st : ProviderState) : ProviderGate :=
  { gate with providers := Function.update gate.providers providerID st }

def setLease (index : Nat) (lease : ProviderLease) : ProviderGate :=
  { gate with leases := gate.leases.set index lease }

def acquire (now : Int) (providerID : String) : Except GateError ProviderLease × ProviderGate :=
  match admitLocked gate.cfg now providerID (gate.providers providerID) with
  | .error refused => (.error refused, gate)
  | .ok (probe, st) =>
    let lease := ⟨providerID, probe, false, false, false⟩
    (.ok lease,
      { gate.setState providerID { st with inFlight := st.inFlight + 1 } with
        leases := gate.leases ++ [lease] })

def recordSuccess (providerID : String) : ProviderGate :=
  gate.setState providerID { gate.providers providerID with
    consecutiveFailures := 0
    openedAt := none
    probeInFlight := false }

def recordAmbiguous (now : Int) (providerID reason : String) : ProviderGate :=
  let st := gate.providers providerID
  gate.setState providerID { st with
    consecutiveFailures := st.consecutiveFailures + 1
    lastFailure := reason
    probeInFlight := false
    openedAt :=
      if gate.cfg.openAfter ≤ (st.consecutiveFailures + 1 : Nat) then some now else st.openedAt }

/-- The body of `Release`, which `once` guards. -/
def releaseLease (index : Nat) (lease : ProviderLease) : ProviderGate :=
  let st := gate.providers lease.providerID
  (gate.setState lease.providerID { st with
    inFlight := st.inFlight - 1
    wedged := if lease.wedged then st.wedged - 1 else st.wedged
    probeInFlight := if lease.probe then false else st.probeInFlight }).setLease index
      { lease with released := true }

def release (index : Nat) : ProviderGate :=
  match gate.leases[index]? with
  | none => gate
  | some lease => if lease.released then gate else gate.releaseLease index lease

/-- `MarkWedged` up to the lock. -/
def markWedged (index : Nat) : ProviderGate :=
  match gate.leases[index]? with
  | none => gate
  | some lease => gate.setLease index { lease with wedged := true }

/-- `MarkWedged` under the lock, run once by the call that set the flag. -/
def countWedged (index : Nat) : ProviderGate :=
  match gate.leases[index]? with
  | none => gate
  | some lease =>
    if lease.wedged && !lease.counted then
      let st := gate.providers lease.providerID
      (gate.setState lease.providerID { st with wedged := st.wedged + 1 }).setLease index
        { lease with counted := true }
    else gate

end ProviderGate

inductive GateOperation where
  | acquire (now : Int) (providerID : String)
  | release (index : Nat)
  | markWedged (index : Nat)
  | countWedged (index : Nat)
  | recordSuccess (providerID : String)
  | recordAmbiguous (now : Int) (providerID reason : String)

def ProviderGate.step (gate : ProviderGate) : GateOperation → ProviderGate
  | .acquire now providerID => (gate.acquire now providerID).2
  | .release index => gate.release index
  | .markWedged index => gate.markWedged index
  | .countWedged index => gate.countWedged index
  | .recordSuccess providerID => gate.recordSuccess providerID
  | .recordAmbiguous now providerID reason => gate.recordAmbiguous now providerID reason

end Crabedence.Gate
