import Crabedence.Store.Acquire

/-!
# Lease-fenced lifecycle, observation and finalisation

The methods of the embedded store a lease holder calls, from `BeginExecution` to `Finalize`, and the
transitions into recovery.  A fenced write that hit no row is classified by separate reads, which is
where a contention event may be noted.
-/

namespace Crabedence

open Resumption

namespace SQLiteStore

variable (platform : Platform) (store : SQLiteStore) (lease : Lease) (executionID : String)
  (expectedState : State) (expectedVersion : Int) (observation : ProviderObservation)

/-- `noteContentionEvent`: its own transaction, without an epoch guard; errors are dropped. -/
def noteContentionEvent (eventType : EventType) (metadata : String) :
    StoreM Unit := do
  let _ ← (store.sql (.noteContention executionID eventType metadata)).attempt

def execution (executionID message : String) : String :=
  "execution " ++ executionID ++ " " ++ message

/-- The last part of the three lease classifications, with the verb the contention metadata and
nothing else differs by. -/
def classifyLease (action : String) (lease : Lease) (record : Record) : StoreM Unit := do
  if record.leaseToken ≠ lease.token then
    store.noteContentionEvent lease.executionID .leaseLost
      (action ++ " fenced: lease token held by another owner")
    throw (.lease .leaseTokenMismatch (execution lease.executionID "token mismatch"))
  else if record.leaseGeneration ≠ lease.generation then
    store.noteContentionEvent lease.executionID .leaseLost
      (action ++ " fenced: lease generation advanced")
    throw (.lease .leaseGenerationMismatch (execution lease.executionID ("generation " ++
      toString record.leaseGeneration ++ " != " ++ toString lease.generation)))
  else throw (.lease .leaseExpired (execution lease.executionID "lease expired"))

def classifyTransitionFailure : StoreM Unit := do
  store.checkEpoch
  match ← (store.lookup lease.executionID).attempt with
  | .error reason =>
    throw (.lease .leaseLost (execution lease.executionID
      ("transition failed (lookup error: " ++ reason.text ++ ")")))
  | .ok record =>
    if record.state ≠ expectedState then
      if record.state.isDurablyFinal then
        throw (.lease .leaseStateConflict (execution lease.executionID
          ("is durably final (" ++ record.state.text ++ ")")))
      else
        throw (.lease .leaseStateConflict (execution lease.executionID
          ("expected " ++ expectedState.text ++ " but is " ++ record.state.text)))
    else store.classifyLease "transition" lease record

/-- `BeginExecution`, through `leaseFencedTransition`. -/
def beginExecution : StoreM Unit := do
  if !isLegalTransition .prepared .executing then
    throw (.lease .leaseStateConflict ("illegal transition " ++ State.prepared.text ++ " → " ++
      State.executing.text))
  else if ← store.sql (.apply (.beginExecution lease)) then return
  else store.classifyTransitionFailure lease .prepared

/-- The locator as `MarkInFlight` persists it: bounded, redacted, bounded again. -/
def redactLocator (recoveryLocator : RawMessage) : Except StoreError RawMessage := do
  if maxRecoveryLocatorBytes < recoveryLocator.length then
    throw (.lease .locatorTooLarge ("recovery locator exceeds " ++
      toString maxRecoveryLocatorBytes ++ " bytes (got " ++ toString recoveryLocator.length ++
      ")"))
  match store.locatorRedactor with
  | none => return recoveryLocator
  | some redactor =>
    if recoveryLocator.length = 0 then return recoveryLocator
    match redactor recoveryLocator with
    | .error reason =>
      throw (.wrapped "recovery locator redaction failed" (.message reason))
    | .ok redacted =>
      if maxRecoveryLocatorBytes < redacted.length then
        throw (.lease .locatorTooLarge ("redacted recovery locator exceeds " ++
          toString maxRecoveryLocatorBytes ++ " bytes (got " ++ toString redacted.length ++
          ")"))
      return redacted

def markInFlight (providerID : String) (recoveryLocator : RawMessage) :
    StoreM Unit := do
  let persisted ← store.redactLocator recoveryLocator
  let field := platform.forbiddenLocatorField persisted
  if field ≠ "" then
    throw (.lease .locatorContainsSecret
      ("recovery locator contains forbidden field " ++ platform.quote field))
  else if ← store.sql (.apply (.markInFlight lease providerID persisted)) then return
  else store.classifyTransitionFailure lease .executing

def classifyRenewalFailure : StoreM Unit := do
  store.checkEpoch
  match ← (store.lookup lease.executionID).attempt with
  | .error reason =>
    throw (.lease .leaseLost (execution lease.executionID
      ("renewal failed (lookup error: " ++ reason.text ++ ")")))
  | .ok record =>
    if record.state.isDurablyFinal ∨ record.state = .unknown then
      throw (.lease .leaseStateConflict (execution lease.executionID
        ("is terminal (" ++ record.state.text ++ ")")))
    else store.classifyLease "renewal" lease record

def renewLease (duration : Duration) : StoreM Unit := do
  store.leaseConfig.validate duration
  if ← store.sql (.apply (.renewLease lease (msDuration duration))) then return
  else store.classifyRenewalFailure lease

def classifyAbandonFailure : StoreM Unit := do
  store.checkEpoch
  match ← (store.lookup lease.executionID).attempt with
  | .error reason =>
    throw (.lease .leaseLost (execution lease.executionID
      ("abandon failed (lookup error: " ++ reason.text ++ ")")))
  | .ok record =>
    if record.state ≠ .prepared ∧ record.state ≠ .executing then
      if record.state.isDurablyFinal then
        throw (.lease .leaseStateConflict (execution lease.executionID
          ("is durably final (" ++ record.state.text ++ ")")))
      else
        throw (.lease .leaseStateConflict (execution lease.executionID
          ("cannot abandon from " ++ record.state.text ++ " (dispatch boundary crossed)")))
    else store.classifyLease "abandon" lease record

def abandonPreDispatch : StoreM Unit := do
  if ← store.sql (.apply (.abandonPreDispatch lease)) then return
  else store.classifyAbandonFailure lease

def enterRecovery :
    StoreM Unit := do
  if legal : isLegalTransition expectedState .unknown then
    if ← store.sql (.apply (.enterRecovery executionID expectedState expectedVersion legal)) then
      return
    else
      store.checkEpoch
      throw (.lease .leaseStateConflict (execution executionID
        "enter recovery CAS failed (state/version mismatch)"))
  else
    throw (.lease .leaseStateConflict ("illegal recovery transition " ++ expectedState.text ++
      " → UNKNOWN (only IN_FLIGHT may enter recovery)"))

def classifyEnterRecoveryFailure : StoreM Unit := do
  store.checkEpoch
  let record ← store.lookup executionID
  if record.state ≠ expectedState ∨ record.version ≠ expectedVersion then
    throw (.lease .leaseStateConflict (execution executionID
      "enter recovery with observation CAS failed (state/version mismatch)"))
  else
    throw (.lease .providerObservationConflict (execution executionID
      "observation contradicts stored provider data"))

def observationMaterial :
    Except StoreError ObservationMaterial := do
  let canonical ← canonicalizeObservation platform observation
  return { observation := canonical, rawResult := observation.result
           rawSHA256 := sha256Hex platform observation.result }

variable {platform} in
theorem observationMaterial_ok {observation : ProviderObservation} {material : ObservationMaterial}
    (made : observationMaterial platform observation = .ok material) :
    canonicalizeObservation platform observation = .ok material.observation := by
  unfold observationMaterial at made
  cases canonicalized : canonicalizeObservation platform observation with
  | error error =>
    rw [canonicalized] at made
    cases made
  | ok canonical =>
    rw [canonicalized] at made
    cases made
    rfl

variable {platform} in
theorem observationMaterial_observation {observation canonical : ProviderObservation}
    {material : ObservationMaterial} (made : observationMaterial platform observation = .ok material)
    (canonicalized : canonicalizeObservation platform observation = .ok canonical) :
    material.observation = canonical :=
  Except.ok.inj ((observationMaterial_ok made).symm.trans canonicalized)

def enterRecoveryWithObservation : StoreM Unit := do
  if legal : isLegalTransition expectedState .unknown then
    let material ← observationMaterial platform observation
    if ← store.sql (.apply (.enterRecoveryWithObservation executionID expectedState
        expectedVersion material legal)) then return
    else store.classifyEnterRecoveryFailure executionID expectedState expectedVersion
  else
    throw (.lease .leaseStateConflict ("illegal recovery transition " ++ expectedState.text ++
      " → UNKNOWN (only IN_FLIGHT may enter recovery)"))

def classifyObservationFailure : StoreM Unit := do
  store.checkEpoch
  let record ← store.lookup lease.executionID
  if record.state = .inFlight ∧
      (record.leaseToken ≠ lease.token ∨ record.leaseGeneration ≠ lease.generation) then
    store.noteContentionEvent lease.executionID .leaseLost
      "observation fenced: lease held by another owner"
    throw (.lease .leaseStateConflict (execution lease.executionID
      "observation rejected (lease token/generation mismatch)"))
  else if record.state ≠ .inFlight ∧ record.state ≠ .unknown then
    throw (.lease .leaseStateConflict (execution lease.executionID
      ("observation rejected (state " ++ record.state.text ++ ")")))
  else
    throw (.lease .providerObservationConflict (execution lease.executionID
      "observation contradicts stored provider observation"))

def recordProviderObservation :
    StoreM Unit := do
  let material ← observationMaterial platform observation
  if ← store.sql (.apply (.recordProviderObservation lease material)) then return
  else store.classifyObservationFailure lease

end SQLiteStore

end Crabedence
