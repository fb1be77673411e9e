import Crabedence.Locator
import Crabedence.Runs

/-!
# Names in persisted locators

The ledger stores a recovery locator only after the scan let it pass, in every run.  Whether the text
it stores names a credential is another matter: the scan sees the decoded tree.  The two agree on a
locator exactly if a forbidden name, where the text has one, is still there after decoding and no
number of the text ends the decode.
-/

namespace Crabedence

open Json Relational Resumption

def DispatchPlatform.withLocatorScan (platform : DispatchPlatform) (unicode : Unicode) :
    DispatchPlatform :=
  { platform with toPlatform := platform.toPlatform.withLocatorScan unicode }

def Operation.Scanned (platform : Platform) : {Reply : Type} → Operation Reply → Prop
  | _, .sql _ (.apply (.markInFlight _ _ persisted)) => platform.forbiddenLocatorField persisted = ""
  | _, _ => True

variable {platform : Platform} {store : SQLiteStore} {providerID : String} {lease : Lease}

open SQLiteStore in
theorem issues_scanned {recoveryLocator : RawMessage} :
    store.Issues ⟨fun mutation => ∃ persisted, platform.forbiddenLocatorField persisted = "" ∧
        mutation = .markInFlight lease providerID persisted, fun _ => False, False⟩
      (store.markInFlight platform lease providerID recoveryLocator) := by
  apply issues_bind (issues_lift _)
  intro persisted
  dsimp only
  split_ifs with found
  · exact issues_throw _
  · exact issues_apply ⟨persisted, not_not.mp found, rfl⟩ (issues_pure _)
      issues_classifyTransitionFailure

theorem serve_scanned (platform : Platform) (store : SQLiteStore) {Result : Type}
    (call : EffectStore Result) :
    (store.serve platform call).run.Emits (Operation.Scanned platform) := by
  have within {footprint : Footprint}
      (issues : store.Issues footprint (store.serve platform call))
      (scanned : ∀ lease providerID persisted,
        footprint.updates (.markInFlight lease providerID persisted) →
          platform.forbiddenLocatorField persisted = "") :
      (store.serve platform call).run.Emits (Operation.Scanned platform) := by
    apply issues.mono
    intro Reply operation permitted
    cases operation with
    | host request => exact trivial
    | sql epoch transaction =>
      cases transaction with
      | apply mutation =>
        cases mutation with
        | markInFlight lease providerID persisted =>
          exact scanned lease providerID persisted permitted.2
        | _ => exact trivial
      | _ => exact trivial
  cases call with
  | markInFlight lease providerID recoveryLocator =>
    apply within issues_scanned
    rintro _ _ persisted ⟨_, clean, same⟩
    cases same
    exact clean
  | _ =>
    apply within (serve_issues platform store _)
    intro lease providerID persisted updates
    simp [EffectStore.footprint, EffectStore.updates, Mutation.acquires] at updates

def Row.Scanned (platform : Platform) (row : Row) : Prop :=
  ∀ raw, row.recoveryLocator = some raw → platform.forbiddenLocatorField raw = ""

variable {row : Row}

theorem Mutation.assign_scanned {mutation : Mutation} {epoch now : Int}
    (scanned : (Operation.sql epoch (.apply mutation)).Scanned platform)
    (held : row.Scanned platform) : (mutation.assign now row).Scanned platform := by
  cases mutation with
  | markInFlight lease providerID persisted =>
    intro raw stored
    have same : nullIf persisted [] = some raw := stored
    unfold nullIf at same
    split_ifs at same
    cases same
    exact scanned
  | finalize | resolveRecovery =>
    intro raw stored
    cases stored
  | _ => exact held

theorem Reachable.scanned {platform : DispatchPlatform} {faults : Bool} {admitted : Call → Prop}
    {state : SystemState} (reachable : Reachable platform faults admitted state) {id : String}
    (found : state.world.find id = some row) : row.Scanned platform.toPlatform := by
  obtain ⟨start, reaches⟩ := reachable
  induction reaches generalizing id row with
  | refl => cases found
  | @tail state next before step ih =>
    cases step_row step found with
    | fresh request epoch absent =>
      intro raw stored
      cases stored
    | kept earlier => exact ih earlier
    | mutated call epoch mutation current commits hits target =>
      obtain ⟨index, continue_, log, scheduled⟩ := commits.scheduled
      have emits := Reachable.emits (fun call => call_program_emits
        (serve_scanned platform.toPlatform call.handle) fun _ => trivial) ⟨start, before⟩ scheduled
      exact Mutation.assign_scanned emits.1 (ih hits.found)
    | claimed kind owner duration current earlier allowed =>
      have held := ih earlier
      cases kind <;> exact held
    | scrubbed current earlier waiting =>
      intro raw stored
      cases stored

def NamesClean (unicode : Unicode) (document : Value Number) : Prop :=
  ∀ name ∈ document.names, isForbiddenKey unicode name = false

/-- If the document names a forbidden field, then its numbers are in range and some forbidden name
is left in the tree it decodes to. -/
def Scannable (unicode : Unicode) (document : Value Number) : Prop :=
  ¬ NamesClean unicode document →
    (∀ number ∈ document.numbers, ¬ ParseFloatOverflows number) ∧
      ¬ NamesClean unicode document.collect

variable {raw : RawMessage} {document : Value Number} {unicode : Unicode}

theorem namesClean_of_scannable
    (holds : Holds raw document) (scannable : Scannable unicode document)
    (passed : forbiddenLocatorField unicode raw = "") : NamesClean unicode document := by
  by_contra named
  obtain ⟨inRange, visible⟩ := scannable named
  rcases (forbiddenLocatorField_eq_empty unicode holds).mp passed with overflow | clean
  · obtain ⟨number, member, overflows⟩ := overflow
    exact inRange number member overflows
  · exact visible clean

theorem passes_of_not_scannable
    (holds : Holds raw document) (hidden : ¬ Scannable unicode document) :
    forbiddenLocatorField unicode raw = "" ∧ ¬ NamesClean unicode document := by
  unfold Scannable at hidden
  push Not at hidden
  obtain ⟨named, evades⟩ := hidden
  refine ⟨(forbiddenLocatorField_eq_empty unicode holds).mpr ?_, named⟩
  by_cases inRange : ∀ number ∈ document.numbers, ¬ ParseFloatOverflows number
  · exact .inr (evades inRange)
  · push Not at inRange
    exact .inl inRange

section Sample

def sampleBegun : List Choice :=
  Choice.complete (sampleAcquire "digest") 0 "token" "execution" ++
  Choice.complete (.store sampleHandle (.beginExecution sampleLease)) 1 "" ""

def sampleIdle : HostReplies := { leaseToken := "", executionID := "" }

def sampleLocated (raw : RawMessage) : Call :=
  .store sampleHandle (.markInFlight sampleLease "provider" raw)

theorem markInFlight_issues {persisted : RawMessage}
    (redacted : store.redactLocator raw = .ok persisted)
    (passed : platform.forbiddenLocatorField persisted = "") :
    store.markInFlight platform lease providerID raw =
      (do if ← store.sql (.apply (.markInFlight lease providerID persisted)) then return
          else store.classifyTransitionFailure lease .executing) := by
  unfold SQLiteStore.markInFlight
  rw [redacted]
  show (if platform.forbiddenLocatorField persisted ≠ "" then _ else _) = _
  rw [if_neg (not_not.mpr passed)]

variable {platform other : DispatchPlatform}

theorem choose_congr {choice : Choice}
    (same : ∀ call, choice = .start call → call.program platform = call.program other)
    (state : SystemState) : state.choose platform choice = state.choose other choice := by
  cases choice with
  | wait milliseconds => rfl
  | start call => simp only [SystemState.choose, same call rfl]
  | serve index replies => simp only [SystemState.choose]

theorem follow_congr {schedule : List Choice}
    (same : ∀ call, Choice.start call ∈ schedule → call.program platform = call.program other)
    (state : SystemState) : state.follow platform schedule = state.follow other schedule :=
  List.foldl_ext _ _ state fun state _ member =>
    choose_congr (fun call started => same call (started ▸ member)) state

theorem sampleBegun_eq (unicode : Unicode) :
    (SystemState.initial 0).follow (samplePlatform.withLocatorScan unicode) sampleBegun =
      (SystemState.initial 0).follow samplePlatform sampleBegun := by
  apply follow_congr
  intro call member
  simp only [sampleBegun, Choice.complete, List.mem_append, List.mem_cons, List.mem_replicate,
    Choice.start.injEq, reduceCtorEq, and_false, or_false] at member
  rcases member with rfl | rfl
  · rfl
  · rfl

theorem sampleBegun_state : ∃ row,
      ((SystemState.initial 0).follow samplePlatform sampleBegun).world.find "execution" = some row ∧
      (∀ raw, (Mutation.markInFlight sampleLease "provider" raw).guard
        ((SystemState.initial 0).follow samplePlatform sampleBegun).world.now
        ((SystemState.initial 0).follow samplePlatform sampleBegun).world.database.cluster
          row = true) ∧
      ((SystemState.initial 0).follow samplePlatform sampleBegun).world.database.cluster.epoch = 1 :=
  ⟨_, rfl, fun _ => rfl, rfl⟩

theorem persisted_after {begun : SystemState}
    (reached : Pool.Reaches (scheduler platform false fun _ => True) (SystemState.initial 0) begun)
    (fits : raw.length ≤ maxRecoveryLocatorBytes) (supplied : raw ≠ [])
    (passed : platform.forbiddenLocatorField raw = "")
    (found : begun.world.find "execution" = some row)
    (allowed : (Mutation.markInFlight sampleLease "provider" raw).guard begun.world.now
      begun.world.database.cluster row = true) (current : begun.world.database.cluster.epoch = 1) :
    ∃ state row, Reachable platform false (fun _ => True) state ∧
      state.world.find "execution" = some row ∧ row.recoveryLocator = some raw := by
  let started := begun.choose platform (.start (sampleLocated raw))
  have redacted : sampleHandle.redactLocator raw = .ok raw := by
    unfold SQLiteStore.redactLocator
    rw [if_neg (by omega)]
    rfl
  obtain ⟨next, issues⟩ : ∃ next, (sampleLocated raw).program platform =
      .issue (.sql 1 (.apply (.markInFlight sampleLease "provider" raw))) next := by
    show ∃ next, ((sampleHandle.markInFlight platform.toPlatform sampleLease "provider" raw).run.bind
      fun reply => .done (Outcome.written reply)) = _
    rw [markInFlight_issues redacted passed]
    exact ⟨_, rfl⟩
  have scheduled : started.threads[begun.threads.length]? = some ⟨sampleLocated raw,
      .issue (.sql 1 (.apply (.markInFlight sampleLease "provider" raw))) next, []⟩ := by
    rw [← issues]
    exact List.getElem?_concat_length
  have served : Pool.Reaches (scheduler platform false fun _ => True) (SystemState.initial 0)
      (started.choose platform (.serve begun.threads.length sampleIdle)) :=
    (reached.tail (choose_step platform false begun _ fun _ _ => trivial)).tail
      (choose_step platform false started _ fun _ _ => trivial)
  have committed : (started.choose platform (.serve begun.threads.length sampleIdle)).world =
      begun.world.commit 1 (.apply (.markInFlight sampleLease "provider" raw)) := by
    simp only [SystemState.choose, scheduled]
    rfl
  refine ⟨_, (Mutation.markInFlight sampleLease "provider" raw).assign begun.world.now row,
    ⟨0, served⟩, ?_, nullableBytes_some supplied⟩
  rw [committed]
  exact World.commit_hit found allowed current

theorem exists_persisted (unicode : Unicode)
    (fits : raw.length ≤ maxRecoveryLocatorBytes) (supplied : raw ≠ [])
    (passed : forbiddenLocatorField unicode raw = "") :
    ∃ state row, Reachable (samplePlatform.withLocatorScan unicode) false (fun _ => True) state ∧
      state.world.find "execution" = some row ∧ row.recoveryLocator = some raw := by
  have reaches := follow_reaches (samplePlatform.withLocatorScan unicode) false sampleBegun
    (SystemState.initial 0)
  rw [sampleBegun_eq] at reaches
  obtain ⟨row, found, allowed, current⟩ := sampleBegun_state
  exact persisted_after reaches fits supplied passed found (allowed raw) current

end Sample

/-- The ledger never holds this JSON locator with a forbidden name in it, in any run, exactly if the
locator is scannable. -/
theorem persisted_names_clean_iff (unicode : Unicode) {raw : RawMessage} {document : Value Number}
    (fits : raw.length ≤ maxRecoveryLocatorBytes) (holds : Holds raw document) :
    (∀ (platform : DispatchPlatform) faults admitted state id row,
      Reachable (platform.withLocatorScan unicode) faults admitted state →
      state.world.find id = some row → row.recoveryLocator = some raw →
      NamesClean unicode document) ↔ Scannable unicode document := by
  constructor
  · intro clean
    by_contra hidden
    obtain ⟨passed, named⟩ := passes_of_not_scannable holds hidden
    obtain ⟨state, row, reachable, found, stored⟩ :=
      exists_persisted unicode fits holds.nonempty passed
    exact named (clean _ _ _ state "execution" row reachable found stored)
  · intro scannable platform faults admitted state id row reachable found stored
    exact namesClean_of_scannable holds scannable (reachable.scanned found raw stored)

/-- `{"a":{"token":null},"a":null}`: the second occurrence of `a` replaces the first. -/
def sampleRepeated : Value Number :=
  .object [([some 'a'], .object [("token".toList.map some, .null)]), ([some 'a'], .null)]

/-- `{"run":null}` -/
def sampleNamed : Value Number := .object [("run".toList.map some, .null)]

/-- `{"run":{"Api-Token":null}}` -/
def sampleDenied : Value Number :=
  .object [("run".toList.map some, .object [("Api-Token".toList.map some, .null)])]

theorem sampleRepeated_holds : Holds (Utf8.encode sampleRepeated.text) sampleRepeated :=
  holds_text (Value.within_iff.mpr ⟨by decide, by decide⟩)

theorem sampleNamed_holds : Holds (Utf8.encode sampleNamed.text) sampleNamed :=
  holds_text (Value.within_iff.mpr ⟨by decide, by decide⟩)

theorem sampleDenied_holds : Holds (Utf8.encode sampleDenied.text) sampleDenied :=
  holds_text (Value.within_iff.mpr ⟨by decide, by decide⟩)

/-- A locator without forbidden names is stored; one with a token below an ordinary name never is. -/
theorem persisted_names_clean_run :
    (∃ state row, Reachable (samplePlatform.withLocatorScan .ascii) false (fun _ => True) state ∧
      state.world.find "execution" = some row ∧
      row.recoveryLocator = some (Utf8.encode sampleNamed.text) ∧ NamesClean .ascii sampleNamed) ∧
    ∀ (platform : DispatchPlatform) faults admitted state id row,
      Reachable (platform.withLocatorScan .ascii) faults admitted state →
      state.world.find id = some row →
      row.recoveryLocator ≠ some (Utf8.encode sampleDenied.text) := by
  have clean : NamesClean .ascii sampleNamed := by
    unfold NamesClean
    decide
  have passed : forbiddenLocatorField .ascii (Utf8.encode sampleNamed.text) = "" := by
    apply (forbiddenLocatorField_eq_empty .ascii sampleNamed_holds).mpr
    right
    decide
  obtain ⟨state, row, reachable, found, stored⟩ :=
    exists_persisted .ascii (by decide) sampleNamed_holds.nonempty passed
  have denied : ¬ NamesClean .ascii sampleDenied := by
    unfold NamesClean
    decide
  have seen : Scannable .ascii sampleDenied := fun _ => ⟨by decide, denied⟩
  refine ⟨⟨state, row, reachable, found, stored, ?_⟩, ?_⟩
  · exact (persisted_names_clean_iff .ascii (by decide) sampleNamed_holds).mpr
      (fun named => absurd clean named) _ _ _ state "execution" row reachable found stored
  · intro platform faults admitted state id row reachable found stored
    exact denied ((persisted_names_clean_iff .ascii (by decide) sampleDenied_holds).mpr seen
      platform faults admitted state id row reachable found stored)

/-- The locator with a token below the first occurrence of a repeated key is in the ledger of a run. -/
theorem repeated_key_hides_token :
    ∃ state row,
      Reachable (samplePlatform.withLocatorScan .ascii) false (fun _ => True) state ∧
      state.world.find "execution" = some row ∧
      row.recoveryLocator = some (Utf8.encode sampleRepeated.text) ∧
      Holds (Utf8.encode sampleRepeated.text) sampleRepeated ∧
      "token".toList.map some ∈ sampleRepeated.names ∧
      isForbiddenKey .ascii ("token".toList.map some) = true := by
  have passed : forbiddenLocatorField .ascii (Utf8.encode sampleRepeated.text) = "" := by
    apply (forbiddenLocatorField_eq_empty .ascii sampleRepeated_holds).mpr
    right
    decide
  obtain ⟨state, row, reachable, found, stored⟩ :=
    exists_persisted .ascii (by decide) sampleRepeated_holds.nonempty passed
  exact ⟨state, row, reachable, found, stored, sampleRepeated_holds, by decide, by decide⟩

end Crabedence
