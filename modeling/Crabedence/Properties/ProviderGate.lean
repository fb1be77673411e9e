import Mathlib.Algebra.Order.Ring.Int
import Mathlib.Tactic.Cases
import Crabedence.ProviderGate

/-!
# Accounting and probes of the provider gate

What holds of the counts without a condition is one invariant; the wedged count and the exclusivity
of probes need one on the order of the operations.
-/

namespace Crabedence.Gate

open Transition ProviderGate

section Counting

variable {Item : Type} {items : List Item} {index : Nat} {item : Item}

theorem countP_set_add (kind : Item → Bool) (found : items[index]? = some item) (other : Item) :
    (items.set index other).countP kind + (kind item).toNat =
      items.countP kind + (kind other).toNat := by
  induction items generalizing index with
  | nil => simp at found
  | cons first rest ih =>
    cases index with
    | zero =>
      rw [List.getElem?_cons_zero] at found
      rw [Option.some.inj found, List.set_cons_zero, List.countP_cons, List.countP_cons]
      cases kind item <;> cases kind other <;> simp
    | succ index =>
      have tail := ih (by simpa using found)
      rw [List.set_cons_succ, List.countP_cons, List.countP_cons]
      omega

end Counting

section Leases

variable (providerID : String) (lease : ProviderLease)

def held : Bool := decide (lease.providerID = providerID) && !lease.released

/-- An unreleased lease that `MarkWedged` has marked. -/
def stuck : Bool := held providerID lease && lease.counted

def heldProbe : Bool := held providerID lease && lease.probe

def probing : Bool := heldProbe providerID lease && !lease.counted

end Leases

variable {gate : ProviderGate} {lease : ProviderLease} {index : Nat} {providerID : String}

section Steps

/-- The circuit is open and its cooldown is over. -/
def Cooled (cfg : ProviderGateConfig) (now : Int) (st : ProviderState) : Prop :=
  cfg.openAfter ≤ st.consecutiveFailures ∧
    ∃ openedAt, st.openedAt = some openedAt ∧ cfg.openCooldown ≤ now - openedAt

theorem admitLocked_ok {cfg : ProviderGateConfig} {now : Int} {st after : ProviderState}
    {probe : Bool} (admitted : admitLocked cfg now providerID st = .ok (probe, after)) :
    (st.inFlight : Int) < cfg.maxConcurrent ∧
      (probe = true → st.probeInFlight = false ∧ Cooled cfg now st) ∧
      after = { st with probeInFlight := probe || st.probeInFlight } := by
  unfold admitLocked at admitted
  split_ifs at admitted with closed full flagged full
  · cases admitted
    exact ⟨Int.not_le.mp full, by simp⟩
  · split at admitted
    · cases admitted
    · split_ifs at admitted
  · split at admitted
    · cases admitted
    · next openedAt opened =>
      split_ifs at admitted with cooled
      cases admitted
      exact ⟨Int.not_le.mp full, fun _ => ⟨by simpa using flagged, Int.not_lt.mp closed, openedAt,
        opened, cooled⟩, rfl⟩

def admitted (gate : ProviderGate) (providerID : String) (probe : Bool) : ProviderGate :=
  { gate.setState providerID { gate.providers providerID with
      inFlight := (gate.providers providerID).inFlight + 1
      probeInFlight := probe || (gate.providers providerID).probeInFlight } with
    leases := gate.leases ++ [⟨providerID, probe, false, false, false⟩] }

/-- The gate after the locked part of `MarkWedged`. -/
def counted (gate : ProviderGate) (index : Nat) (lease : ProviderLease) : ProviderGate :=
  (gate.setState lease.providerID { gate.providers lease.providerID with
    wedged := (gate.providers lease.providerID).wedged + 1 }).setLease index
      { lease with counted := true }

/-- A lease inside `MarkWedged` is not released while the count is above zero, and the count is not
raised for a released lease. -/
def Timely (gate : ProviderGate) : GateOperation → Prop
  | .release index => ∀ lease ∈ gate.leases[index]?, lease.released = false → lease.wedged = true →
    lease.counted = false → (gate.providers lease.providerID).wedged = 0
  | .countWedged index => ∀ lease ∈ gate.leases[index]?, lease.wedged = true →
    lease.counted = false → lease.released = false
  | _ => True

/-- What an operation makes of the gate. -/
inductive Moves (gate : ProviderGate) : GateOperation → ProviderGate → Prop
  | idle {op : GateOperation} (timely : Timely gate op) : Moves gate op gate
  | acquire {now : Int} {providerID : String} {probe : Bool}
      (free : ((gate.providers providerID).inFlight : Int) < gate.cfg.maxConcurrent)
      (single : probe = true → (gate.providers providerID).probeInFlight = false ∧
        Cooled gate.cfg now (gate.providers providerID)) :
      Moves gate (.acquire now providerID) (admitted gate providerID probe)
  | release {index : Nat} {lease : ProviderLease} (found : gate.leases[index]? = some lease)
      (unreleased : lease.released = false) :
      Moves gate (.release index) (gate.releaseLease index lease)
  | mark {index : Nat} {lease : ProviderLease} (found : gate.leases[index]? = some lease) :
      Moves gate (.markWedged index) (gate.setLease index { lease with wedged := true })
  | count {index : Nat} {lease : ProviderLease} (found : gate.leases[index]? = some lease)
      (wedged : lease.wedged = true) (uncounted : lease.counted = false) :
      Moves gate (.countWedged index) (counted gate index lease)
  | success {providerID : String} :
      Moves gate (.recordSuccess providerID) (gate.recordSuccess providerID)
  | ambiguous {now : Int} {providerID reason : String} :
      Moves gate (.recordAmbiguous now providerID reason)
        (gate.recordAmbiguous now providerID reason)

theorem moves_step (gate : ProviderGate) (op : GateOperation) : Moves gate op (gate.step op) := by
  cases op with
  | acquire now providerID =>
    rw [ProviderGate.step, ProviderGate.acquire]
    split
    · exact .idle trivial
    · next probe st admits =>
      obtain ⟨free, single, rfl⟩ := admitLocked_ok admits
      exact .acquire free single
  | release index =>
    rw [ProviderGate.step, ProviderGate.release]
    cases found : gate.leases[index]? with
    | none => exact .idle (by simp [Timely, found])
    | some lease =>
      dsimp only
      split_ifs with released
      · exact .idle (by simp [Timely, found, released])
      · exact .release found (by simpa using released)
  | markWedged index =>
    rw [ProviderGate.step, ProviderGate.markWedged]
    cases found : gate.leases[index]? with
    | none => exact .idle trivial
    | some lease => exact .mark found
  | countWedged index =>
    rw [ProviderGate.step, ProviderGate.countWedged]
    cases found : gate.leases[index]? with
    | none => exact .idle (by simp [Timely, found])
    | some lease =>
      dsimp only
      split_ifs with due
      · rw [Bool.and_eq_true, Bool.not_eq_true'] at due
        exact .count found due.1 due.2
      · refine .idle ?_
        rintro _ held wedged uncounted
        cases found.symm.trans held
        rw [wedged, uncounted] at due
        exact absurd rfl due
  | recordSuccess providerID => exact .success
  | recordAmbiguous now providerID reason => exact .ambiguous

end Steps

section Counts

/-- What holds of one provider in every run. -/
structure Fair (gate : ProviderGate) (providerID : String) : Prop where
  inFlight : (gate.providers providerID).inFlight = gate.leases.countP (held providerID)
  bounded : ((gate.providers providerID).inFlight : Int) ≤ gate.cfg.maxConcurrent
  opened : gate.cfg.openAfter ≤ (gate.providers providerID).consecutiveFailures →
    (gate.providers providerID).openedAt.isSome
  probed : (gate.providers providerID).probeInFlight = true →
    0 < gate.leases.countP (heldProbe providerID)

structure Sound (gate : ProviderGate) : Prop where
  slots : 0 < gate.cfg.maxConcurrent
  threshold : 0 < gate.cfg.openAfter
  flagged : ∀ lease ∈ gate.leases, lease.counted = true → lease.wedged = true
  fair : ∀ providerID, Fair gate providerID

theorem sound_newProviderGate (cfg : ProviderGateConfig) : Sound (newProviderGate cfg) := by
  have slots : 0 < (newProviderGate cfg).cfg.maxConcurrent := by
    simp only [newProviderGate, ProviderGateConfig.withDefaults, defaultProviderGateConfig]
    split_ifs <;> omega
  have threshold : 0 < (newProviderGate cfg).cfg.openAfter := by
    simp only [newProviderGate, ProviderGateConfig.withDefaults, defaultProviderGateConfig]
    split_ifs <;> omega
  refine ⟨slots, threshold, fun _ member => (List.not_mem_nil member).elim, fun _ => ?_⟩
  exact ⟨rfl, slots.le, fun reached => absurd (threshold.trans_le reached) (Int.lt_irrefl 0),
    fun flag => absurd flag Bool.false_ne_true⟩

theorem fair_step (sound : Sound gate) {op : GateOperation} {next : ProviderGate}
    (moves : Moves gate op next) (providerID : String) : Fair next providerID := by
  obtain ⟨inFlight, bounded, opened, probed⟩ := sound.fair providerID
  have threshold := sound.threshold
  cases moves with
  | idle timely => exact ⟨inFlight, bounded, opened, probed⟩
  | acquire free single =>
    constructor <;> simp only [admitted, setState, Function.update_apply] <;>
      grind [held, heldProbe]
  | @release index lease found unreleased =>
    have out := countP_set_add (held providerID) found { lease with released := true }
    have probes := countP_set_add (heldProbe providerID) found { lease with released := true }
    constructor <;> simp only [releaseLease, setLease, setState, Function.update_apply] <;>
      grind [held, heldProbe]
  | @mark index lease found =>
    have out := countP_set_add (held providerID) found { lease with wedged := true }
    have probes := countP_set_add (heldProbe providerID) found { lease with wedged := true }
    constructor <;> simp only [setLease] <;> grind [held, heldProbe]
  | @count index lease found wedged uncounted =>
    have out := countP_set_add (held providerID) found { lease with counted := true }
    have probes := countP_set_add (heldProbe providerID) found { lease with counted := true }
    constructor <;> simp only [counted, setLease, setState, Function.update_apply] <;>
      grind [held, heldProbe]
  | success =>
    constructor <;> simp only [recordSuccess, setState, Function.update_apply] <;> grind
  | ambiguous =>
    constructor <;> simp only [recordAmbiguous, setState, Function.update_apply] <;> grind

theorem sound_step (gate : ProviderGate) (op : GateOperation) (sound : Sound gate) :
    Sound (gate.step op) := by
  have moves := moves_step gate op
  generalize gate.step op = next at moves
  have fair := fair_step sound moves
  obtain ⟨slots, threshold, flagged, -⟩ := sound
  cases moves with
  | idle _ | success | ambiguous => exact ⟨slots, threshold, flagged, fair⟩
  | acquire _ _ | release _ _ | mark _ | count _ _ _ =>
    refine ⟨slots, threshold, ?_, fair⟩
    simp only [admitted, counted, releaseLease, setLease, setState]
    grind

end Counts

section Accounting

def Accounted (gate : ProviderGate) : Prop :=
  ∀ providerID,
    (gate.providers providerID).inFlight = gate.leases.countP (held providerID) ∧
    ((gate.providers providerID).inFlight : Int) ≤ gate.cfg.maxConcurrent ∧
    (gate.providers providerID).wedged = gate.leases.countP (stuck providerID) ∧
    (gate.leases.countP (held providerID) = 0 →
      (gate.providers providerID).inFlight = 0 ∧ (gate.providers providerID).wedged = 0)

theorem accounted_iff (sound : Sound gate) : Accounted gate ↔
    ∀ providerID, (gate.providers providerID).wedged = gate.leases.countP (stuck providerID) := by
  constructor
  · exact fun accounted providerID => (accounted providerID).2.2.1
  · intro wedged providerID
    have fewer : gate.leases.countP (stuck providerID) ≤ gate.leases.countP (held providerID) :=
      List.countP_mono_left fun lease _ => by
        rw [stuck, Bool.and_eq_true]
        exact And.left
    have inFlight := (sound.fair providerID).inFlight
    have stuckOnes := wedged providerID
    exact ⟨inFlight, (sound.fair providerID).bounded, stuckOnes, fun none => by omega⟩

theorem wedged_step (sound : Sound gate)
    (wedged : ∀ providerID, (gate.providers providerID).wedged =
      gate.leases.countP (stuck providerID)) (op : GateOperation) :
    (∀ providerID, ((gate.step op).providers providerID).wedged =
      (gate.step op).leases.countP (stuck providerID)) ↔ Timely gate op := by
  have moves := moves_step gate op
  generalize gate.step op = next at moves
  cases moves with
  | idle untouched => exact iff_of_true wedged untouched
  | @acquire now name probe free single =>
    refine iff_of_true (fun p => ?_) trivial
    have before := wedged p
    simp only [admitted, setState, Function.update_apply]
    grind [stuck]
  | @release index lease found unreleased =>
    have counts := fun p => countP_set_add (stuck p) found { lease with released := true }
    simp only [releaseLease, setLease, setState, Function.update_apply, Timely, found]
    have marked := sound.flagged lease (List.mem_of_getElem? found)
    constructor
    · intro after other same _ flagged uncounted
      have here := after lease.providerID
      have before := wedged lease.providerID
      have change := counts lease.providerID
      grind [stuck]
    · intro timely p
      have before := wedged p
      have change := counts p
      have zero := timely lease rfl unreleased
      grind [stuck, held]
  | @mark index lease found =>
    refine iff_of_true (fun p => ?_) trivial
    have before := wedged p
    have change := countP_set_add (stuck p) found { lease with wedged := true }
    simp only [setLease]
    grind [stuck, held]
  | @count index lease found flagged uncounted =>
    have counts := fun p => countP_set_add (stuck p) found { lease with counted := true }
    simp only [counted, setLease, setState, Function.update_apply, Timely, found]
    constructor
    · intro after other same _ _
      have here := after lease.providerID
      have before := wedged lease.providerID
      have change := counts lease.providerID
      grind [stuck, held]
    · intro timely p
      have before := wedged p
      have change := counts p
      have open_ := timely lease rfl flagged uncounted
      grind [stuck, held]
  | success =>
    refine iff_of_true (fun p => ?_) trivial
    have before := wedged p
    simp only [recordSuccess, setState, Function.update_apply]
    grind
  | ambiguous =>
    refine iff_of_true (fun p => ?_) trivial
    have before := wedged p
    simp only [recordAmbiguous, setState, Function.update_apply]
    grind

/-- The counts are right all through a run exactly if every operation is timely. -/
theorem gate_accounting (cfg : ProviderGateConfig) (ops : List GateOperation) :
    Always ProviderGate.step Accounted (newProviderGate cfg) ops ↔
      Meets ProviderGate.step Timely (newProviderGate cfg) ops := by
  refine always_iff_meets sound_step (fun gate op sound accounted => ?_) (sound_newProviderGate cfg) ?_ ops
  · rw [accounted_iff (sound_step gate op sound)]
    exact wedged_step sound ((accounted_iff sound).mp accounted) op
  · exact (accounted_iff (sound_newProviderGate cfg)).mpr fun _ => rfl

/-- A call that ends as its ceiling fires stays counted for good. -/
theorem gate_accounting_late : ¬ Accounted ([.acquire 0 "prov", .release 0, .markWedged 0,
    .countWedged 0].foldl ProviderGate.step (newProviderGate ⟨1, 1, 1, 1⟩)) := by
  intro accounted
  have last := (accounted "prov").2.2.1
  revert last
  decide

end Accounting

section Probes

def AdmitsProbe (gate : ProviderGate) (providerID : String) : Prop :=
  ∃ bound, ∀ now, bound ≤ now →
    ∃ lease, (gate.acquire now providerID).1 = .ok lease ∧ lease.probe = true

/-- At most one probe runs while the circuit is open; with a free slot and without an unreleased
probe, an open circuit admits one at every later time from some time on. -/
def HalfOpen (gate : ProviderGate) : Prop :=
  ∀ providerID,
    (healthLocked gate.cfg (gate.providers providerID) = .open →
      gate.leases.countP (probing providerID) ≤ 1) ∧
    (gate.cfg.openAfter ≤ (gate.providers providerID).consecutiveFailures →
      ((gate.providers providerID).inFlight : Int) < gate.cfg.maxConcurrent →
      gate.leases.countP (heldProbe providerID) = 0 → AdmitsProbe gate providerID)

/-- The operation clears the provider's probe flag, whoever holds the probe: a report, or the release
of a probe that was given up as wedged. -/
def Clears (gate : ProviderGate) (providerID : String) : GateOperation → Prop
  | .recordSuccess name | .recordAmbiguous _ name _ => name = providerID
  | .release index => ∃ lease, gate.leases[index]? = some lease ∧ lease.released = false ∧
    lease.probe = true ∧ lease.counted = true ∧ lease.providerID = providerID
  | _ => False

/-- A call asks for the provider while its circuit is open and the cooldown is over. -/
def AsksProbe (providerID : String) (gate : ProviderGate) : GateOperation → Prop
  | .acquire now name => name = providerID ∧ Cooled gate.cfg now (gate.providers name)
  | _ => False

/-- No call asks for a probe of the provider before its running ones are released or given up. -/
abbrev Quiet (providerID : String) : ProviderGate → List GateOperation → Prop :=
  AvoidsUntil ProviderGate.step (AsksProbe providerID) fun gate =>
    gate.leases.countP (probing providerID) = 0

/-- Once the flag of a provider was cleared, no call asks for a probe of it before the running ones
are released or given up. -/
def Undisturbed : ProviderGate → List GateOperation → Prop
  | _, [] => True
  | gate, op :: rest => (∀ providerID, Clears gate providerID op →
      Quiet providerID (gate.step op) rest) ∧ Undisturbed (gate.step op) rest

/-- A running probe holds the flag, or nobody asks for another one until it ends. -/
def Exclusive (gate : ProviderGate) (rest : List GateOperation) : Prop :=
  ∀ providerID, gate.leases.countP (probing providerID) ≤
      ((gate.providers providerID).probeInFlight).toNat ∨
    gate.leases.countP (probing providerID) ≤ 1 ∧ Quiet providerID gate rest

/-- What an operation does to the running probes of a provider and to its flag. -/
theorem probing_moves {op : GateOperation} {next : ProviderGate} (moves : Moves gate op next)
    (providerID : String) :
    AsksProbe providerID gate op ∧ (gate.providers providerID).probeInFlight = false ∧
        (next.providers providerID).probeInFlight = true ∧
        next.leases.countP (probing providerID) = gate.leases.countP (probing providerID) + 1 ∨
      next.leases.countP (probing providerID) ≤ gate.leases.countP (probing providerID) ∧
        ((next.providers providerID).probeInFlight = (gate.providers providerID).probeInFlight ∨
          Clears gate providerID op ∨
          next.leases.countP (probing providerID) < gate.leases.countP (probing providerID)) := by
  cases moves with
  | idle timely => exact .inr ⟨le_rfl, .inl rfl⟩
  | @acquire now name probe free single =>
    simp only [admitted, setState, Function.update_apply, AsksProbe]
    grind [probing, heldProbe, held]
  | @release index lease found unreleased =>
    have change := countP_set_add (probing providerID) found { lease with released := true }
    simp only [releaseLease, setLease, setState, Function.update_apply, Clears]
    grind [probing, heldProbe, held]
  | @mark index lease found =>
    have change := countP_set_add (probing providerID) found { lease with wedged := true }
    simp only [setLease]
    grind [probing, heldProbe, held]
  | @count index lease found flagged uncounted =>
    have change := countP_set_add (probing providerID) found { lease with counted := true }
    simp only [counted, setLease, setState, Function.update_apply]
    grind [probing, heldProbe, held]
  | @success name =>
    simp only [recordSuccess, setState, Function.update_apply, Clears]
    grind
  | @ambiguous now name reason =>
    simp only [recordAmbiguous, setState, Function.update_apply, Clears]
    grind

theorem exclusive_step {op : GateOperation} {rest : List GateOperation}
    (exclusive : Exclusive gate (op :: rest)) (undisturbed : Undisturbed gate (op :: rest)) :
    Exclusive (gate.step op) rest := by
  intro providerID
  have split : gate.leases.countP (probing providerID) ≤
        ((gate.providers providerID).probeInFlight).toNat ∨
      gate.leases.countP (probing providerID) ≤ 1 ∧ ¬ AsksProbe providerID gate op ∧
        Quiet providerID (gate.step op) rest := by
    rcases exclusive providerID with held | ⟨one, ended | avoided⟩
    · exact .inl held
    · exact .inl (ended ▸ Nat.zero_le _)
    · exact .inr ⟨one, avoided⟩
  rcases split with held | ⟨one, unasked, quiet⟩
  · rcases probing_moves (moves_step gate op) providerID with ⟨_, free, taken, more⟩ | ⟨fewer, flag⟩
    · left
      rw [free, Bool.toNat_false] at held
      rw [taken, Bool.toNat_true]
      omega
    · have single := held.trans (Bool.toNat_le (gate.providers providerID).probeInFlight)
      rcases flag with same | cleared | ended
      · exact .inl (same ▸ fewer.trans held)
      · exact .inr ⟨fewer.trans single, undisturbed.1 providerID cleared⟩
      · exact .inl (by omega)
  · rcases probing_moves (moves_step gate op) providerID with ⟨asked, _⟩ | ⟨fewer, _⟩
    · exact (unasked asked).elim
    · exact .inr ⟨fewer.trans one, quiet⟩

theorem admitsProbe_of_free (sound : Sound gate)
    (open_ : gate.cfg.openAfter ≤ (gate.providers providerID).consecutiveFailures)
    (free : ((gate.providers providerID).inFlight : Int) < gate.cfg.maxConcurrent)
    (none_ : gate.leases.countP (heldProbe providerID) = 0) : AdmitsProbe gate providerID := by
  have unflagged : (gate.providers providerID).probeInFlight = false := by
    by_contra flagged
    have probes := (sound.fair providerID).probed (by simpa using flagged)
    omega
  obtain ⟨openedAt, opened⟩ := Option.isSome_iff_exists.mp ((sound.fair providerID).opened open_)
  refine ⟨openedAt + gate.cfg.openCooldown, fun now late => ?_⟩
  have cooled : gate.cfg.openCooldown ≤ now - openedAt := by omega
  rw [ProviderGate.acquire, admitLocked, if_neg (by omega), unflagged, if_neg Bool.false_ne_true,
    opened]
  dsimp only
  rw [if_pos cooled, if_neg (by omega)]
  exact ⟨_, rfl, rfl⟩

/-- The circuit is half open at most once in every run in which nobody asks for another probe between
an operation that clears the flag and the end of the running probes. -/
theorem probe_exclusive (cfg : ProviderGateConfig) (ops : List GateOperation)
    (undisturbed : Undisturbed (newProviderGate cfg) ops) :
    Always ProviderGate.step HalfOpen (newProviderGate cfg) ops := by
  refine @always_of_rest _ _ _ _ _ _ (fun gate rest => Sound gate ∧ Exclusive gate rest ∧
    Undisturbed gate rest) ?_ ?_ ⟨sound_newProviderGate cfg, fun _ => .inl (Nat.zero_le _), undisturbed⟩
  · rintro gate op rest ⟨sound, exclusive, undisturbed⟩
    exact ⟨sound_step gate op sound, exclusive_step exclusive undisturbed, undisturbed.2⟩
  · rintro gate rest ⟨sound, exclusive, -⟩ providerID
    refine ⟨fun _ => ?_, admitsProbe_of_free sound⟩
    rcases exclusive providerID with held | one
    · exact held.trans (Bool.toNat_le _)
    · exact one.1

/-- A probe reports before it is released, and the next one is admitted after that. -/
def sampleProbe : List GateOperation :=
  [.recordAmbiguous 0 "prov" "lost", .acquire 5 "prov", .acquire 6 "prov",
    .recordAmbiguous 7 "prov" "lost", .acquire 7 "prov", .release 0, .acquire 9 "prov"]

theorem probe_exclusive_probed :
    Undisturbed (newProviderGate ⟨2, 1, 1, 1⟩) sampleProbe ∧
    Always ProviderGate.step HalfOpen (newProviderGate ⟨2, 1, 1, 1⟩) sampleProbe := by
  have undisturbed : Undisturbed (newProviderGate ⟨2, 1, 1, 1⟩) sampleProbe := by
    refine ⟨fun _ _ => .inl rfl, fun _ => False.elim, fun _ => False.elim, ?_, fun _ => False.elim,
      ?_, fun _ => False.elim, trivial⟩
    · rintro _ rfl
      have early : ¬ Cooled ⟨2, 1, 1, 1⟩ 7 ⟨1, 0, 2, some 7, false, "lost"⟩ := by
        rintro ⟨-, openedAt, opened, late⟩
        cases opened
        revert late
        decide
      exact .inr ⟨fun asks => early asks.2, .inr ⟨id, .inl rfl⟩⟩
    · rintro _ ⟨lease, found, -, -, counted, -⟩
      cases found
      cases counted
  exact ⟨undisturbed, probe_exclusive _ _ undisturbed⟩

/-- The report of a call that started before the circuit opened admits a second probe.  Where a
wedged call keeps the only slot, no time admits one. -/
theorem probe_exclusive_stale :
    ¬ HalfOpen ([.acquire 0 "prov", .acquire 0 "prov", .recordAmbiguous 1 "prov" "lost",
      .release 0, .acquire 2 "prov", .recordAmbiguous 3 "prov" "lost", .release 1,
      .acquire 4 "prov"].foldl ProviderGate.step (newProviderGate ⟨4, 1, 1, 1⟩)) ∧
    ¬ AdmitsProbe ([.acquire 0 "prov", .markWedged 0, .countWedged 0,
      .recordAmbiguous 1 "prov" "lost"].foldl ProviderGate.step
        (newProviderGate ⟨1, 1, 1, 1⟩)) "prov" := by
  constructor
  · intro halfOpen
    have probes := (halfOpen "prov").1
    revert probes
    decide
  · rintro ⟨bound, admits⟩
    obtain ⟨lease, admitted, -⟩ := admits bound le_rfl
    rw [ProviderGate.acquire] at admitted
    split at admitted
    · cases admitted
    · next admits => exact absurd (admitLocked_ok admits).1 (by decide)

end Probes

end Crabedence.Gate
