import Crabedence.Digest.Receipt
import Crabedence.Properties.Observation
import Crabedence.Properties.ReconcileClaims

/-!
# Digests of provider results

`canonicalizeObservation` computes the digest of a result and never trusts the caller's, but it
passes an observation without a result through with whatever digest it names.  The columns
`provider_result` and `provider_result_digest` therefore match in a run exactly as long as no such
observation reaches a row that stores no digest yet.
-/

namespace Crabedence

open Relational Resumption StoreM

def Row.Digested (platform : Platform) (row : Row) : Prop :=
  ∀ digest, row.provider.resultDigest = some digest → ∃ stored canonical,
    row.provider.result = some stored ∧ canonicalizeJSON platform stored = .ok canonical ∧
      digest = platform.sha256 canonical

/-- The result is stored in canonical form, and its digest with it. -/
structure Row.Paired (platform : Platform) (row : Row) : Prop where
  canonical : ∀ stored, row.provider.result = some stored →
    canonicalizeJSON platform stored = .ok stored
  digest : row.provider.resultDigest =
    row.provider.result.bind fun stored => nullableString (platform.sha256 stored)

/-- What `canonicalizeObservation` leaves of an observation that has a result. -/
def ProviderObservation.Digested (platform : Platform) (observation : ProviderObservation) : Prop :=
  observation.result ≠ [] → canonicalizeJSON platform observation.result = .ok observation.result ∧
    observation.resultDigest = platform.sha256 observation.result

variable {texts : ErrorTexts}

section Columns

variable {platform : Platform} {row after : Row} {observation : ProviderObservation}

theorem Row.Paired.digested (paired : row.Paired platform) : row.Digested platform := by
  intro digest stored
  rw [paired.digest, Option.bind_eq_some_iff] at stored
  obtain ⟨bytes, found, digested⟩ := stored
  exact ⟨bytes, bytes, found, paired.canonical bytes found, (nullableString_eq_some digested).symm⟩

theorem Row.Paired.of_columns (result : after.provider.result = row.provider.result)
    (digest : after.provider.resultDigest = row.provider.resultDigest)
    (paired : row.Paired platform) : after.Paired platform := by
  constructor
  · rw [result]
    exact paired.canonical
  · rw [digest, result]
    exact paired.digest

/-- An admitted observation that brings no bare digest to a row without one keeps the two columns
paired. -/
theorem Row.Paired.observe {now : Int} (paired : row.Paired platform)
    (admitted : row.admits observation = true) (digested : observation.Digested platform)
    (whole : row.provider.resultDigest = none → observation.result = [] →
      observation.resultDigest = "") : (row.observe now observation).Paired platform := by
  simp only [Row.admits, Bool.and_eq_true] at admitted
  obtain ⟨⟨⟨⟨⟨_, fitsResult⟩, fitsDigest⟩, _⟩, _⟩, _⟩ := admitted
  by_cases empty : observation.result = []
  · -- nothing new: a digest without a result was refused or is the stored one
    have result : (row.observe now observation).provider.result = row.provider.result := by
      simp only [Row.observe, nullableBytes, nullIf, empty, if_true, coalesce, Option.none_or]
    have digest : (row.observe now observation).provider.resultDigest =
        row.provider.resultDigest := by
      cases stored : row.provider.resultDigest with
      | none =>
        simp only [Row.observe, stored, whole stored empty]
        rfl
      | some digest => exact fills_coalesce fitsDigest digest stored
    exact paired.of_columns result digest
  · obtain ⟨canonical, computed⟩ := digested empty
    have supplied := nullableBytes_some empty
    have result : (row.observe now observation).provider.result = some observation.result :=
      coalesce_fills observation.result supplied
    constructor
    · intro stored found
      rw [result, Option.some_inj] at found
      exact found ▸ canonical
    · rw [result, Option.bind_some, ← computed]
      simp only [Row.observe]
      cases given : nullableString observation.resultDigest with
      | some digest => exact coalesce_fills digest rfl
      | none =>
        -- the hash is the empty text, so it was not stored with an equal result either
        rw [coalesce, Option.none_or, paired.digest]
        cases earlier : row.provider.result with
        | none => rfl
        | some stored =>
          have same : some observation.result = some stored :=
            result.symm.trans (fills_coalesce fitsResult stored earlier)
          rw [Option.bind_some, ← Option.some_inj.mp same, ← computed, given]

def Mutation.observation? : Mutation → Option ProviderObservation
  | .recordProviderObservation _ material | .enterRecoveryWithObservation _ _ _ material _ =>
    some material.observation
  | _ => none

variable {mutation : Mutation} {now : Int} {given : ProviderObservation}

theorem Mutation.assign_observes {cluster : ClusterMeta}
    (observes : mutation.observation? = some observation)
    (allowed : mutation.guard now cluster row = true) : row.admits observation = true ∧
      (mutation.assign now row).provider = (row.observe now observation).provider := by
  cases mutation with
  | recordProviderObservation lease material
  | enterRecoveryWithObservation executionID expectedState version material legal =>
    cases observes
    simp only [guard, Bool.and_eq_true] at allowed
    exact ⟨allowed.2, rfl⟩
  | _ => cases observes

/-- Updates merge only what `canonicalizeObservation` accepted. -/
def Operation.Canonicalized (platform : Platform) : {Reply : Type} → Operation Reply → Prop
  | _, .sql _ (.apply mutation) => ∀ observation, mutation.observation? = some observation →
      ∃ given, canonicalizeObservation platform given = .ok observation
  | _, _ => True

theorem EffectStore.updates_canonicalized {Result : Type} {call : EffectStore Result}
    (updates : call.updates platform mutation) (observes : mutation.observation? = some observation) :
    ∃ given, canonicalizeObservation platform given = .ok observation := by
  cases call with
  | recordProviderObservation lease given =>
    obtain ⟨material, made, rfl⟩ := updates
    cases observes
    exact ⟨given, SQLiteStore.observationMaterial_ok made⟩
  | enterRecoveryWithObservation executionID expectedState version given =>
    obtain ⟨material, legal, made, rfl⟩ := updates
    cases observes
    exact ⟨given, SQLiteStore.observationMaterial_ok made⟩
  | _ =>
    cases mutation with
    | recordProviderObservation | enterRecoveryWithObservation =>
      simp [EffectStore.updates, Mutation.acquires] at updates
    | _ => cases observes

theorem call_canonicalizes (platform : DispatchPlatform) (call : Call) :
    (call.program platform).Emits (Operation.Canonicalized platform.toPlatform) := by
  apply call_program_emits
  · intro Result method
    apply Program.Emits.mono (serve_issues platform.toPlatform call.handle method)
    intro Reply operation within
    cases operation with
    | host request => exact trivial
    | sql epoch transaction =>
      cases transaction with
      | apply mutation =>
        intro observation observes
        exact EffectStore.updates_canonicalized within.2 observes
      | _ => exact trivial
  · exact fun _ => trivial

theorem canonicalizeObservation_digested
    (accepted : canonicalizeObservation (platform.withJSON texts) given = .ok observation) :
    observation.Digested (platform.withJSON texts) := by
  intro present
  rcases canonicalizeObservation_ok _ accepted with ⟨empty, rfl⟩ | ⟨_, bytes, canonicalized, rfl⟩
  · exact (present empty).elim
  · exact ⟨canonicalizeJSON_idempotent canonicalized, rfl⟩

theorem canonicalizeObservation_empty
    (accepted : canonicalizeObservation (platform.withJSON texts) given = .ok observation)
    (empty : observation.result = []) : given = observation := by
  rcases canonicalizeObservation_ok _ accepted with ⟨_, rfl⟩ | ⟨present, bytes, canonicalized, rfl⟩
  · rfl
  · exact (canonicalizeJSON_ne_nil canonicalized present empty).elim

end Columns

section Runs

variable {platform : DispatchPlatform} {faults : Bool} {admitted : Call → Prop}
  {state next : SystemState}

def SystemState.Digested (platform : Platform) (state : SystemState) : Prop :=
  ∀ id row, state.world.find id = some row → row.Digested platform

def SystemState.Paired (platform : Platform) (state : SystemState) : Prop :=
  ∀ id row, state.world.find id = some row → row.Paired platform

/-- No observation the step merges into a row that stores no result digest names a digest without a
result; `given` is the observation as the caller passed it. -/
def MergesWhole (platform : Platform) (state next : SystemState) : Prop :=
  ∀ (call : Call) (epoch : Int) (mutation : Mutation) (row : Row)
    (given observation : ProviderObservation),
    Commits state next call epoch (.apply mutation) → state.Hits epoch mutation row →
    mutation.observation? = some observation →
    canonicalizeObservation platform given = .ok observation →
    row.provider.resultDigest = none → given.result = [] → given.resultDigest = ""

theorem Commits.canonicalized {call : Call} {epoch : Int}
    {mutation : Mutation} {observation : ProviderObservation}
    (commits : Commits state next call epoch (.apply mutation))
    (reachable : Reachable platform faults admitted state)
    (observes : mutation.observation? = some observation) :
    ∃ given, canonicalizeObservation platform.toPlatform given = .ok observation := by
  obtain ⟨index, continue_, log, scheduled⟩ := commits.scheduled
  exact (Reachable.emits (call_canonicalizes platform) reachable scheduled).1 observation observes

theorem SystemState.Paired.step
    (step : Pool.Step (scheduler (platform.withJSON texts) faults admitted) state next)
    (reachable : Reachable (platform.withJSON texts) faults admitted state)
    (condition : MergesWhole (platform.withJSON texts).toPlatform state next)
    (paired : state.Paired (platform.withJSON texts).toPlatform) :
    next.Paired (platform.withJSON texts).toPlatform := by
  intro id row found
  cases step_row step found with
  | fresh request epoch absent => exact ⟨fun _ absent => (nomatch absent), rfl⟩
  | kept earlier => exact paired id row earlier
  | claimed kind owner duration current earlier allowed =>
    have columns := paired id current earlier
    cases kind <;> exact ⟨columns.canonical, columns.digest⟩
  | scrubbed current earlier waiting =>
    have columns := paired id current earlier
    exact ⟨columns.canonical, columns.digest⟩
  | mutated call epoch mutation current commits hits target =>
    have columns := paired _ current hits.found
    cases observes : mutation.observation? with
    | none =>
      cases mutation <;> first | exact columns.of_columns (by rfl) (by rfl) | cases observes
    | some observation =>
      obtain ⟨given, accepted⟩ := commits.canonicalized reachable observes
      obtain ⟨admits, provider⟩ := Mutation.assign_observes observes hits.allowed
      have whole : current.provider.resultDigest = none → observation.result = [] →
          observation.resultDigest = "" := by
        intro undigested empty
        obtain rfl := canonicalizeObservation_empty accepted empty
        exact condition call epoch mutation current _ _ commits hits observes accepted
          undigested empty
      have merged := @columns.observe _ _ _ state.world.now admits
        (canonicalizeObservation_digested accepted) whole
      exact merged.of_columns (by rw [provider]) (by rw [provider])

theorem mergesWhole_of_digested (paired : state.Paired (platform.withJSON texts).toPlatform)
    (digested : next.Digested (platform.withJSON texts).toPlatform) :
    MergesWhole (platform.withJSON texts).toPlatform state next := by
  intro call epoch mutation row given observation commits hits observes accepted undigested empty
  by_contra named
  rcases canonicalizeObservation_ok _ accepted with ⟨_, rfl⟩ | ⟨present, _⟩
  · have columns := paired _ row hits.found
    have provider := (Mutation.assign_observes observes hits.allowed).2
    have digest : (mutation.assign state.world.now row).provider.resultDigest =
        some observation.resultDigest := by
      rw [provider]
      exact coalesce_fills _ (nullableString_some named)
    obtain ⟨stored, canonical, result, canonicalized, same⟩ :=
      digested _ _ (commits.hit hits) _ digest
    have kept : row.provider.result = some stored := by
      rw [← result, provider]
      simp only [Row.observe, nullableBytes, nullIf, empty, if_true, coalesce, Option.none_or]
    -- the stored result has no digest, so its hash is the empty text
    have hash := columns.digest
    rw [undigested, kept, Option.bind_some] at hash
    rw [columns.canonical stored kept, Except.ok.injEq] at canonicalized
    rw [same, ← canonicalized] at named
    exact named (nullableString_eq_none.mp hash.symm)
  · exact present empty

/-- From paired columns on, every state of a run is digested exactly if every step merges only whole
observations. -/
theorem digested_iff_mergesWhole {run : List SystemState}
    (reachable : Reachable (platform.withJSON texts) faults admitted state)
    (paired : state.Paired (platform.withJSON texts).toPlatform) (steps : (state :: run).IsChain
      (Pool.Step (scheduler (platform.withJSON texts) faults admitted))) :
    (∀ next ∈ run, next.Digested (platform.withJSON texts).toPlatform) ↔
      (state :: run).IsChain (MergesWhole (platform.withJSON texts).toPlatform) := by
  induction run generalizing state with
  | nil => exact ⟨fun _ => .singleton state, fun _ => List.forall_mem_nil _⟩
  | cons next rest ih =>
    rw [List.isChain_cons_cons] at steps ⊢
    obtain ⟨start, reaches⟩ := reachable
    have later : Reachable (platform.withJSON texts) faults admitted next :=
      ⟨start, reaches.tail steps.1⟩
    have kept (whole : MergesWhole (platform.withJSON texts).toPlatform state next) :=
      paired.step steps.1 ⟨start, reaches⟩ whole
    rw [List.forall_mem_cons]
    constructor
    · rintro ⟨digested, others⟩
      have whole := mergesWhole_of_digested paired digested
      exact ⟨whole, (ih later (kept whole) steps.2).mp others⟩
    · rintro ⟨whole, others⟩
      refine ⟨fun id row found => (kept whole id row found).digested, ?_⟩
      exact (ih later (kept whole) steps.2).mpr others

/-- Over every run, with the source's own JSON functions: in every state each stored
`provider_result_digest` is the hash of the canonical form of the stored `provider_result`, exactly
when no step merges an observation that names a digest without a result into a row that stores no
digest. -/
theorem result_digests_match (platform : DispatchPlatform) (texts : ErrorTexts) (faults : Bool)
    (admitted : Call → Prop) (start : Int) (run : List SystemState)
    (steps : (SystemState.initial start :: run).IsChain
      (Pool.Step (scheduler (platform.withJSON texts) faults admitted))) :
    (∀ state ∈ SystemState.initial start :: run,
        state.Digested (platform.withJSON texts).toPlatform) ↔
      (SystemState.initial start :: run).IsChain
        (MergesWhole (platform.withJSON texts).toPlatform) := by
  have initially : (SystemState.initial start).Paired (platform.withJSON texts).toPlatform :=
    fun _ _ absent => by cases absent
  rw [List.forall_mem_cons, ← digested_iff_mergesWhole ⟨start, .refl⟩ initially steps]
  exact and_iff_right fun id row found => (initially id row found).digested

def mergesWhole {Reply : Type} (transaction : Transaction Reply) : Bool :=
  (transaction.mutation?.bind Mutation.observation?).all fun observation =>
    decide (observation.result ≠ [] ∨ observation.resultDigest = "")

theorem mergesWhole_of_awaits {platform : Platform} (whole : state.awaits mergesWhole = true) :
    MergesWhole platform state next := by
  intro call epoch mutation row given observation commits _ observes accepted _ empty
  have held := commits.awaited whole
  simp only [mergesWhole, Transaction.mutation?, Option.bind_some, observes, Option.all_some,
    decide_eq_true_eq] at held
  rcases canonicalizeObservation_ok _ accepted with ⟨_, rfl⟩ | ⟨present, _⟩
  · exact held.resolve_left fun present => present empty
  · exact (present empty).elim

def sampleRecorded (observation : ProviderObservation) : List Choice :=
  sampleCrossing ++
    Choice.complete (.store sampleHandle (.recordProviderObservation sampleLease observation)) 3 "" ""

def sampleJSON : DispatchPlatform := samplePlatform.withJSON sampleTexts

set_option maxRecDepth 8192 in
/-- An observation with a result leaves both columns, and they match. -/
theorem result_digests_match_recorded :
    ∃ row, ((SystemState.initial 0).follow sampleJSON (sampleRecorded (sampleObservation [123, 125]))).world.find
        "execution" = some row ∧
      row.provider.result = some [123, 125] ∧ row.provider.resultDigest.isSome = true ∧
      row.Digested sampleJSON.toPlatform := by
  have steps := trace_isChain sampleJSON false (sampleRecorded (sampleObservation [123, 125]))
    (SystemState.initial 0)
  have digested := (result_digests_match samplePlatform sampleTexts false (fun _ => True) 0 _
    steps).mpr (trace_isChain_of mergesWhole_of_awaits (by rfl))
  exact ⟨_, rfl, rfl, rfl, digested _ (follow_mem_trace _ _ _) "execution" _ rfl⟩

set_option maxRecDepth 8192 in
/-- A digest recorded without a result is stored as it is, beside no result. -/
theorem bare_digest_is_stored :
    ∃ row, Reachable sampleJSON false (fun _ => True) ((SystemState.initial 0).follow sampleJSON
        (sampleRecorded { sampleObservation [] with resultDigest := "digest" })) ∧
      ((SystemState.initial 0).follow sampleJSON (sampleRecorded { sampleObservation [] with
        resultDigest := "digest" })).world.find "execution" = some row ∧
      row.provider.resultDigest = some "digest" ∧ row.provider.result = none :=
  ⟨_, follow_reachable _ _ _ _, rfl, rfl, rfl⟩

end Runs

end Crabedence
