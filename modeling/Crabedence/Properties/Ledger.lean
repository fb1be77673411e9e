import Crabedence.Properties.Epoch

/-!
# The event ledger

Every execution has a history in `effect_events`.  An event is inserted in the transaction that
changes the row, numbered one above the highest number its execution has, and stamped with the row's
version and, where the operation names no state, with the row's state.  `Row.Notes` says what one
inserted event looks like; the history of an execution is a list of such events.
-/

namespace Crabedence

open Relational Resumption

def Database.history (database : Database) (id : String) : List EffectEvent :=
  database.events.filter fun event => decide (event.executionID = id)

def EffectEvent.Legal (event : EffectEvent) : Prop :=
  ∀ previous new, event.previousState = some previous → event.newState = some new →
    previous ≠ new → isLegalTransition previous new = true

/-- An event as it is appended to a history while the row is in this state. -/
structure Row.Notes (row : Row) (history : List EffectEvent) (event : EffectEvent) : Prop where
  sequence : event.sequence = nextNumber (history.map EffectEvent.sequence)
  version : event.recordVersion = row.version
  state : event.newState = some row.state
  legal : event.Legal

def Row.NotesAll (row : Row) (history : List EffectEvent) : List EffectEvent → Prop
  | [] => True
  | event :: rest => row.Notes history event ∧ row.NotesAll (history ++ [event]) rest

/-- A history in order: numbered from one without gaps, versions never falling and never ahead of
the row, legal transitions. -/
structure Row.Ledgered (row : Row) (history : List EffectEvent) : Prop where
  sequences : history.map EffectEvent.sequence = List.range' 1 history.length
  versions : (history.map EffectEvent.recordVersion).Pairwise (· ≤ ·)
  bounded : ∀ event ∈ history, event.recordVersion ≤ row.version
  legal : ∀ event ∈ history, event.Legal

def Row.LastNoted (row : Row) (history : List EffectEvent) : Prop :=
  (history.filterMap EffectEvent.newState).getLast? = some row.state

section Histories

variable {row after : Row} {history first second : List EffectEvent} {event : EffectEvent}

theorem Row.Ledgered.moved (ledgered : row.Ledgered history) (grown : row.version ≤ after.version) :
    after.Ledgered history :=
  ⟨ledgered.sequences, ledgered.versions,
    fun event member => Int.le_trans (ledgered.bounded event member) grown, ledgered.legal⟩

theorem Row.Ledgered.append (ledgered : row.Ledgered history) (notes : row.Notes history event) :
    row.Ledgered (history ++ [event]) := by
  constructor
  · rw [List.map_append, List.map_singleton, notes.sequence, ledgered.sequences, nextNumber_range,
      List.length_append, List.length_singleton, List.range'_1_concat, Nat.add_comm]
  · simp only [List.map_append, List.map_singleton, List.pairwise_append, List.mem_map,
      List.mem_singleton, forall_eq, List.pairwise_singleton, notes.version]
    refine ⟨ledgered.versions, trivial, ?_⟩
    rintro version ⟨earlier, member, rfl⟩
    exact ledgered.bounded earlier member
  · simp only [List.mem_append, List.mem_singleton]
    rintro earlier (member | rfl)
    · exact ledgered.bounded earlier member
    · exact Int.le_of_eq notes.version
  · simp only [List.mem_append, List.mem_singleton]
    rintro earlier (member | rfl)
    · exact ledgered.legal earlier member
    · exact notes.legal

variable {added : List EffectEvent}

theorem Row.Ledgered.appendAll (ledgered : row.Ledgered history)
    (notes : row.NotesAll history added) : row.Ledgered (history ++ added) := by
  induction added generalizing history with
  | nil => simpa using ledgered
  | cons event rest ih => simpa using ih (ledgered.append notes.1) notes.2

theorem Row.Notes.last (notes : row.Notes history event) : row.LastNoted (history ++ [event]) := by
  unfold Row.LastNoted
  simp [notes.state]

theorem Row.NotesAll.last (notes : row.NotesAll history added)
    (current : added ≠ [] ∨ row.LastNoted history) : row.LastNoted (history ++ added) := by
  induction added generalizing history with
  | nil => simpa using current
  | cons event rest ih => simpa using ih notes.2 (.inr notes.1.last)

theorem Row.NotesAll.state
    (notes : row.NotesAll history added) : ∀ event ∈ added, event.newState = some row.state := by
  induction added generalizing history with
  | nil => exact List.forall_mem_nil _
  | cons event rest ih => exact List.forall_mem_cons.mpr ⟨notes.1.state, ih notes.2⟩

end Histories

section Insertions

variable {database : Database} {now : Int} {id executionID : String} {row : Row}
  {payload : EventPayload}

/-- What a payload may say about the row it is inserted for. -/
structure EventPayload.Fits (payload : EventPayload) (row : Row) : Prop where
  state : payload.newState.or (some row.state) = some row.state
  legal : ∀ previous, payload.previousState = some previous → previous ≠ row.state →
    isLegalTransition previous row.state = true

theorem Database.insertEffectEvent_history (found : database.find id = some row)
    (fits : payload.Fits row) : ∃ event, (database.insertEffectEvent now id payload).history id =
      database.history id ++ [event] ∧ row.Notes (database.history id) event := by
  unfold insertEffectEvent history
  rw [found]
  simp only [List.filter_append, List.filter_cons, decide_true, if_true, List.filter_nil]
  refine ⟨_, rfl, rfl, rfl, fits.state, ?_⟩
  intro previous new reported carried differ
  have same : new = row.state := Option.some_inj.mp (carried.symm.trans fits.state)
  rw [same] at differ ⊢
  exact fits.legal previous reported differ

theorem Database.insertEffectEvent_history_ne (other : executionID ≠ id) :
    (database.insertEffectEvent now executionID payload).history id = database.history id := by
  unfold insertEffectEvent history
  split
  · rfl
  · simp [other]

theorem Database.insertEntry_history_ne {entry : LedgerEntry} (other : executionID ≠ id) :
    (database.insertEntry now executionID entry).history id = database.history id := by
  cases entry with
  | event payload => exact insertEffectEvent_history_ne other
  | observation kind material =>
    simp only [insertEntry, insertObservationRow]
    split <;> rfl

def Database.insertAll (now : Int) (database : Database) (entries : List (String × LedgerEntry)) :
    Database :=
  entries.foldl (fun database entry => database.insertEntry now entry.1 entry.2) database

variable {entries : List (String × LedgerEntry)}

theorem Database.insertAll_find : (database.insertAll now entries).find id = database.find id := by
  unfold insertAll
  induction entries generalizing database with
  | nil => rfl
  | cons entry rest ih => rw [List.foldl_cons, ih, find, find, insertEntry_requests]

theorem Database.insertAll_history_absent (absent : database.find id = none) :
    (database.insertAll now entries).history id = database.history id := by
  unfold insertAll
  induction entries generalizing database with
  | nil => rfl
  | cons entry rest ih =>
    obtain ⟨executionID, entry⟩ := entry
    rw [List.foldl_cons, ih (by rw [find, insertEntry_requests]; exact absent)]
    by_cases own : executionID = id
    · subst own
      cases entry with
      | event payload => rw [insertEntry, insertEffectEvent, absent]
      | observation kind material =>
        simp only [insertEntry, insertObservationRow]
        split <;> rfl
    · exact insertEntry_history_ne own

theorem Database.insertAll_history (found : database.find id = some row)
    (fits : ∀ payload, (id, .event payload) ∈ entries → payload.Fits row) :
    ∃ added, (database.insertAll now entries).history id = database.history id ++ added ∧
      row.NotesAll (database.history id) added ∧
      ((∃ payload, (id, .event payload) ∈ entries) → added ≠ []) := by
  unfold insertAll
  induction entries generalizing database with
  | nil => exact ⟨[], by simp, trivial, by simp⟩
  | cons entry rest ih =>
    obtain ⟨executionID, entry⟩ := entry
    have kept : (database.insertEntry now executionID entry).find id = some row := by
      rw [find, insertEntry_requests]
      exact found
    obtain ⟨added, appended, notes, grows⟩ :=
      ih kept fun payload member => fits payload (List.mem_cons_of_mem _ member)
    rw [List.foldl_cons, appended]
    by_cases silent : ∃ payload, (id, LedgerEntry.event payload) = (executionID, entry)
    · obtain ⟨payload, same⟩ := silent
      cases same
      obtain ⟨event, grown, noted⟩ :=
        @insertEffectEvent_history database now id row payload found
          (fits payload List.mem_cons_self)
      rw [insertEntry, grown] at notes ⊢
      exact ⟨event :: added, by simp, ⟨noted, notes⟩, by simp⟩
    · have same : (database.insertEntry now executionID entry).history id =
          database.history id := by
        by_cases own : executionID = id
        · subst own
          cases entry with
          | event payload => exact (silent ⟨payload, rfl⟩).elim
          | observation kind material =>
            simp only [insertEntry, insertObservationRow]
            split <;> rfl
        · exact insertEntry_history_ne own
      rw [same] at notes ⊢
      refine ⟨added, rfl, notes, fun held => grows ?_⟩
      obtain ⟨payload, member⟩ := held
      exact ⟨payload, (List.mem_cons.mp member).resolve_left fun same => silent ⟨payload, same⟩⟩

end Insertions

variable {mutation : Mutation}

section Statements

variable {now : Int} {cluster : ClusterMeta} {row : Row}

/-- The events of a statement fit the row it leaves. -/
theorem Mutation.ledger_fits (allowed : mutation.guard now cluster row = true)
    (honest : mutation.honest = true) {payload : EventPayload}
    (listed : .event payload ∈ mutation.ledger (mutation.assign now row)) :
    payload.Fits (mutation.assign now row) := by
  have kept {payload : EventPayload} {after : Row} (silent : payload.previousState = none)
      (state : payload.newState.or (some after.state) = some after.state) : payload.Fits after := by
    refine ⟨state, fun previous reported => ?_⟩
    rw [silent] at reported
    cases reported
  have moved {payload : EventPayload} {after : Row} {source : State}
      (reported : payload.previousState = some source)
      (state : payload.newState.or (some after.state) = some after.state)
      (legal : source ≠ after.state → isLegalTransition source after.state = true) :
      payload.Fits after := by
    refine ⟨state, fun previous same differs => ?_⟩
    rw [reported, Option.some_inj] at same
    subst same
    exact legal differs
  cases mutation with
  | acquireUnleased executionID version duration owner token generation =>
    have source := List.mem_singleton.mp (guard_sources allowed rfl)
    simp only [ledger, List.mem_singleton, LedgerEntry.event.injEq] at listed
    subst listed
    exact moved rfl (congrArg some source.symm) fun differs => (differs source.symm).elim
  | reclaimExpiredLease executionID version duration owner token previous generation =>
    simp only [ledger, List.mem_singleton, LedgerEntry.event.injEq] at listed
    subst listed
    refine moved rfl rfl fun differs => ?_
    rcases isPreDispatch_iff.mp honest with source | source <;> rw [source]
    · exact (differs source).elim
    · rfl
  | markInFlightExpiredAsUnknown | beginExecution | markInFlight =>
    simp only [ledger, List.mem_singleton, LedgerEntry.event.injEq] at listed
    subst listed
    exact moved rfl rfl fun _ => rfl
  | finalize lease expectedState version write final legal =>
    simp only [ledger, List.mem_singleton, LedgerEntry.event.injEq] at listed
    subst listed
    exact moved rfl rfl fun _ => legal
  | enterRecovery executionID expectedState version legal =>
    simp only [ledger, List.mem_singleton, LedgerEntry.event.injEq] at listed
    subst listed
    exact moved rfl rfl fun _ => legal
  | enterRecoveryWithObservation executionID expectedState version material legal =>
    simp only [ledger, List.mem_cons, List.not_mem_nil, or_false, reduceCtorEq, false_or,
      LedgerEntry.event.injEq] at listed
    subst listed
    exact moved rfl rfl fun _ => legal
  | resolveRecovery executionID version write material legal =>
    have resolved : payload.previousState = some .unknown ∧
        payload.newState = some write.receipt.terminalStatus := by
      simp only [ledger] at listed
      split_ifs at listed <;>
        simp only [List.mem_cons, List.not_mem_nil, or_false, reduceCtorEq, false_or,
          LedgerEntry.event.injEq] at listed <;>
        subst listed <;> exact ⟨rfl, rfl⟩
    refine moved resolved.1 ?_ fun _ => legal
    rw [resolved.2]
    rfl
  | recordProviderObservation lease material =>
    simp only [ledger, List.mem_cons, List.not_mem_nil, or_false, reduceCtorEq, false_or,
      LedgerEntry.event.injEq] at listed
    subst listed
    exact kept rfl rfl
  | touchUnknown => cases listed
  | renewLease | abandonPreDispatch | recoverExpiredPreDispatch | releaseReconcileClaim
  | suspendReconciliation | renewReconcileClaim =>
    simp only [ledger, List.mem_singleton, LedgerEntry.event.injEq] at listed
    subst listed
    exact kept rfl rfl

theorem Mutation.ledger_notes (moved : (mutation.assign now row).state ≠ row.state) :
    ∃ payload, .event payload ∈ mutation.ledger (mutation.assign now row) := by
  cases mutation with
  | enterRecoveryWithObservation => exact ⟨_, List.mem_cons_of_mem _ (List.mem_singleton.mpr rfl)⟩
  | resolveRecovery executionID version write material legal =>
    simp only [ledger]
    split_ifs
    · exact ⟨_, List.mem_cons_of_mem _ (List.mem_singleton.mpr rfl)⟩
    · exact ⟨_, List.mem_singleton.mpr rfl⟩
  | _ => first | exact (moved rfl).elim | exact ⟨_, List.mem_singleton.mpr rfl⟩

end Statements

variable {Reply : Type}

section Transactions

variable {transaction : Transaction Reply} {epoch now : Int} {database : Database} {id : String}
  {row : Row}

/-- What a transaction may append to the history of a row it found as `row` and left as `after`. -/
structure Database.Records (before after : Database) (id : String) (row row' : Row) : Prop where
  version : row.version ≤ row'.version
  appends : ∃ added, after.history id = before.history id ++ added ∧
    row'.NotesAll (before.history id) added ∧ (row'.state ≠ row.state → added ≠ [])

/-- A transaction as a change of rows followed by insertions: what is inserted fits the rows as they
are left, and a row that is new or changes its state has an event among it. -/
def Database.Noted (now : Int) (database after : Database) : Prop :=
  ∃ (updated : Database) (entries : List (String × LedgerEntry)),
    after = updated.insertAll now entries ∧ updated.events = database.events ∧
    (∀ id payload row, (id, .event payload) ∈ entries → after.find id = some row →
      payload.Fits row) ∧
    ∀ id row, after.find id = some row → (database.find id).map Row.state ≠ some row.state →
      ∃ payload, (id, .event payload) ∈ entries

theorem Database.Noted.silent {after : Database} (events : after.events = database.events)
    (states : ∀ id row, after.find id = some row →
      (database.find id).map Row.state = some row.state) : Noted now database after :=
  ⟨after, [], rfl, events, by simp, fun id row found moved => (moved (states id row found)).elim⟩

theorem Database.Noted.same : Noted now database database :=
  .silent rfl fun _ _ found => congrArg (Option.map Row.state) found

theorem Database.applyMutation_hit (found : database.find mutation.target = some row)
    (allowed : mutation.guard now database.cluster row = true)
    (current : database.cluster.epoch = epoch) :
    ∃ updated : Database, updated.events = database.events ∧
      updated.find mutation.target = some (mutation.assign now row) ∧
      (database.applyMutation epoch now mutation).2 =
        updated.appendLedger now mutation.target (mutation.ledger (mutation.assign now row)) := by
  have target : row.executionID = mutation.target := (Table.find_some_iff.mp found).2
  have selected : database.selects epoch now mutation row = true := by
    simp only [selects, target, allowed, current, decide_true, Bool.and_self]
  have counted : database.requests.count (database.selects epoch now mutation) ≠ 0 := by
    rw [ne_eq, Table.count_eq_zero_iff]
    exact fun none => none row (Table.find_some_iff.mp found).1 selected
  have updates : ({ database with
      requests := database.requests.update (database.selects epoch now mutation)
        (mutation.assign now) (mutation.assign_keys now) } : Database).find mutation.target =
      some (mutation.assign now row) := by
    have before : database.requests.find mutation.target = some row := found
    rw [find, Table.find_update (mutation.assign_keys now), before, Option.map_some,
      if_pos selected]
  refine ⟨_, ?_, updates, ?_⟩
  · rfl
  · unfold applyMutation
    simp only [counted, if_false]
    rw [updates]

theorem Database.applyMutation_noted (honest : mutation.honest = true) :
    Noted now database (database.applyMutation epoch now mutation).2 := by
  cases hit : (database.applyMutation epoch now mutation).1 with
  | false =>
    rw [applyMutation_miss hit]
    exact .same
  | true =>
    obtain ⟨before, beforeFound, allowed, current⟩ := applyMutation_hit_iff.mp hit
    obtain ⟨updated, events, updatedFound, applied⟩ := applyMutation_hit beforeFound allowed current
    refine ⟨updated, (mutation.ledger (mutation.assign now before)).map (mutation.target, ·), ?_,
      events, ?_, ?_⟩
    · rw [insertAll, List.foldl_map]
      exact applied
    · intro id payload row listed found
      obtain ⟨entry, member, same⟩ := List.mem_map.mp listed
      cases same
      rw [applied, find, appendLedger_requests] at found
      cases updatedFound.symm.trans found
      exact Mutation.ledger_fits allowed honest member
    · intro id row found moved
      rw [applyMutation_find] at found
      obtain ⟨prior, priorFound, rfl⟩ := Option.map_eq_some_iff.mp found
      rw [priorFound] at moved
      split_ifs at moved with selected
      · simp only [selects, Bool.and_eq_true, decide_eq_true_eq] at selected
        have target := selected.1.1.symm.trans (Table.find_some_iff.mp priorFound).2
        subst target
        cases beforeFound.symm.trans priorFound
        obtain ⟨payload, listed⟩ :=
          Mutation.ledger_notes fun same => moved (congrArg some same.symm)
        exact ⟨payload, List.mem_map_of_mem listed⟩
      · exact (moved rfl).elim

section Claims

variable {kind : ClaimKind} {owner : String} {duration : Int} {limit : Nat}

theorem ClaimKind.event_fits (allowed : kind.eligible now row = true) :
    (kind.event owner (kind.assign now duration owner row)).Fits
      (kind.assign now duration owner row) := by
  refine ⟨by cases kind <;> rfl, ?_⟩
  intro previous reported differs
  cases kind with
  | unknown =>
    simp only [eligible, Bool.and_eq_true, decide_eq_true_eq] at allowed
    cases reported
    exact (differs allowed.1.1.symm).elim
  | expired =>
    cases reported
    exact (differs rfl).elim

theorem Database.applyClaim_hit
    (counted : database.requests.count (database.claimSelects epoch now kind limit) ≠ 0) :
    ∃ updated : Database, updated.events = database.events ∧
      (∀ id, updated.find id =
        (database.applyClaim epoch now kind owner duration limit).2.find id) ∧
      (database.applyClaim epoch now kind owner duration limit).2 =
        (updated.requests.rows.filter fun row =>
            decide (row.executionID ∈ database.claimCandidates now kind limit)).foldl
          (fun database row =>
            database.insertEffectEvent now row.executionID (kind.event owner row)) updated := by
  unfold applyClaim
  simp only [counted, if_false]
  refine ⟨_, ?_, ?_, rfl⟩
  · rfl
  · intro id
    unfold find
    rw [(foldl_insertEffectEvent _ _ _).1]

theorem Database.applyClaim_noted :
    Noted now database (database.applyClaim epoch now kind owner duration limit).2 := by
  by_cases counted : database.requests.count (database.claimSelects epoch now kind limit) = 0
  · have same : (database.applyClaim epoch now kind owner duration limit).2 = database := by
      unfold applyClaim
      simp only [counted, if_true]
    rw [same]
    exact .same
  · obtain ⟨updated, events, finds, applied⟩ :=
      @applyClaim_hit epoch now database kind owner duration limit counted
    have current : database.cluster.epoch = epoch := by
      rw [Table.count_eq_zero_iff] at counted
      push Not at counted
      obtain ⟨other, _, chosen⟩ := counted
      simp only [claimSelects, Bool.and_eq_true, decide_eq_true_eq] at chosen
      exact chosen.2
    refine ⟨updated, (updated.requests.rows.filter fun row =>
        decide (row.executionID ∈ database.claimCandidates now kind limit)).map
          fun row => (row.executionID, .event (kind.event owner row)), ?_, events, ?_, ?_⟩
    · rw [insertAll, List.foldl_map]
      exact applied
    · intro id payload row listed found
      obtain ⟨item, member, same⟩ := List.mem_map.mp listed
      cases same
      obtain ⟨inside, candidate⟩ := List.mem_filter.mp member
      have itemFound : updated.find item.executionID = some item :=
        Table.find_some_iff.mpr ⟨inside, rfl⟩
      cases itemFound.symm.trans ((finds _).trans found)
      rw [applyClaim_find] at found
      obtain ⟨prior, priorFound, assigned⟩ := Option.map_eq_some_iff.mp found
      have candidate := of_decide_eq_true candidate
      have selected : database.claimSelects epoch now kind limit prior = true := by
        simp only [claimSelects, (Table.find_some_iff.mp priorFound).2, candidate, current,
          decide_true, Bool.and_self]
      rw [if_pos selected] at assigned
      rw [← assigned]
      exact ClaimKind.event_fits (eligible_of_candidate priorFound candidate)
    · intro id row found moved
      rw [applyClaim_find] at found
      obtain ⟨prior, priorFound, rfl⟩ := Option.map_eq_some_iff.mp found
      rw [priorFound] at moved
      refine (moved (congrArg some ?_)).elim
      split_ifs
      · cases kind <;> rfl
      · rfl

end Claims

def Transaction.Honest (transaction : Transaction Reply) : Prop :=
  ∀ mutation, transaction.mutation? = some mutation → mutation.honest = true

/-- An `INSERT` that succeeds appends the first event of its row. -/
theorem Database.insertRequest_noted {request : NewRequest} :
    Noted now database (database.insertRequest epoch now request).2 := by
  rcases database.insertRequest_cases with ⟨same, _⟩ | ⟨_, current, open_, absent, free, finds, _⟩
  · rw [same]
    exact .same
  · have own : (database.insertRequest epoch now request).2.find request.executionID =
        some (request.row epoch now) := (finds request.executionID).trans (if_pos rfl)
    obtain ⟨updated, events, inserted⟩ : ∃ updated : Database, updated.events = database.events ∧
        (database.insertRequest epoch now request).2 =
          updated.insertEffectEvent now request.executionID
            { eventType := .acquired, actor := request.leaseOwner, newState := some .prepared,
              claimGeneration := 1 } := by
      unfold insertRequest at own ⊢
      rw [if_pos ⟨current, open_⟩] at own ⊢
      cases tried : database.requests.insert (request.row epoch now) with
      | error conflict =>
        rw [tried] at own
        cases conflict <;> exact absurd (own.symm.trans absent) (by simp)
      | ok requests => exact ⟨{ database with requests := requests }, rfl, rfl⟩
    refine ⟨updated, [(request.executionID, .event _)], inserted, events, ?_, ?_⟩
    · intro id payload row listed found
      cases List.mem_singleton.mp listed
      cases own.symm.trans found
      exact ⟨rfl, fun _ reported => by cases reported⟩
    · intro id row found moved
      rw [finds] at found
      split_ifs at found with same
      · subst same
        exact ⟨_, List.mem_singleton.mpr rfl⟩
      · exact (moved (congrArg (Option.map Row.state) found)).elim

theorem Transaction.exec_noted (honest : transaction.Honest) :
    Database.Noted now database (transaction.exec epoch now database).2 := by
  cases transaction with
  | apply mutation => exact Database.applyMutation_noted (honest mutation rfl)
  | claim kind owner duration limit => exact Database.applyClaim_noted
  | insert request => exact Database.insertRequest_noted
  | scrubLocators retention =>
    refine .silent rfl fun id row found => ?_
    have scrubs : (exec epoch now (scrubLocators retention) database).2.find id =
        (database.find id).map _ := Table.find_update Row.scrubLocator_keys
    obtain ⟨prior, priorFound, rfl⟩ := Option.map_eq_some_iff.mp (scrubs.symm.trans found)
    rw [priorFound]
    split_ifs <;> rfl
  | noteContention executionID eventType metadata =>
    refine ⟨database, [(executionID, .event { eventType, metadata })], rfl, rfl, ?_, ?_⟩
    · intro id payload row listed found
      cases List.mem_singleton.mp listed
      exact ⟨rfl, fun _ reported => by cases reported⟩
    · intro id row found moved
      rw [exec, Database.find, Database.insertEffectEvent_requests] at found
      exact (moved (congrArg (Option.map Row.state) found)).elim
  | advanceEpoch expected reason =>
    simp only [exec, Database.advanceEpoch]
    split_ifs <;> exact .silent rfl fun _ _ found => congrArg (Option.map Row.state) found
  | completeRecovery expected resolution =>
    simp only [exec, Database.completeRecovery]
    split_ifs <;> exact .silent rfl fun _ _ found => congrArg (Option.map Row.state) found
  | _ => exact .same

/-- What an honest transaction records of an execution. -/
theorem Transaction.exec_records (honest : transaction.Honest) (id : String) :
    ∃ added, (transaction.exec epoch now database).2.history id = database.history id ++ added ∧
      ((transaction.exec epoch now database).2.find id = none → added = []) ∧
      ∀ row, (transaction.exec epoch now database).2.find id = some row →
        row.NotesAll (database.history id) added ∧
          ((database.find id).map Row.state ≠ some row.state → added ≠ []) := by
  obtain ⟨updated, entries, applied, events, fits, notes⟩ :=
    @exec_noted Reply transaction epoch now database honest
  have history : updated.history id = database.history id := by
    unfold Database.history
    rw [events]
  have finds : (transaction.exec epoch now database).2.find id = updated.find id := by
    rw [applied, Database.insertAll_find]
  cases found : updated.find id with
  | none =>
    refine ⟨[], ?_, fun _ => rfl, fun row afterFound => ?_⟩
    · rw [applied, Database.insertAll_history_absent found, history, List.append_nil]
    · cases found.symm.trans (finds.symm.trans afterFound)
  | some row =>
    obtain ⟨added, appended, noted, grows⟩ := @Database.insertAll_history updated now id row entries
      found fun payload listed => fits id payload row listed (finds.trans found)
    rw [history] at appended noted
    refine ⟨added, applied ▸ appended, fun absent => ?_, fun after afterFound => ?_⟩
    · cases found.symm.trans (finds.symm.trans absent)
    · cases found.symm.trans (finds.symm.trans afterFound)
      exact ⟨noted, fun moved => grows (notes id row afterFound moved)⟩

end Transactions

section Runs

/-- Every row has its history in order and its state noted last, and no row means no history. -/
structure World.Ledgered (world : World) : Prop where
  rows : ∀ id row, world.find id = some row →
    row.Ledgered (world.database.history id) ∧ row.LastNoted (world.database.history id)
  absent : ∀ id, world.find id = none → world.database.history id = []

theorem Database.Records.ledgered {before after : Database} {id : String} {row row' : Row}
    (records : before.Records after id row row')
    (holds : row.Ledgered (before.history id) ∧ row.LastNoted (before.history id)) :
    row'.Ledgered (after.history id) ∧ row'.LastNoted (after.history id) := by
  obtain ⟨version, added, appended, notes, grows⟩ := records
  rw [appended]
  refine ⟨(holds.1.moved version).appendAll notes, notes.last ?_⟩
  by_cases same : row'.state = row.state
  · right
    unfold Row.LastNoted
    rw [same]
    exact holds.2
  · exact .inl (grows same)

theorem Row.Ledgered.nil (row : Row) : row.Ledgered [] :=
  ⟨rfl, .nil, List.forall_mem_nil _, List.forall_mem_nil _⟩

variable {epoch : Int}

theorem World.Ledgered.commit {world : World}
    {transaction : Transaction Reply} (honest : transaction.Honest) (ledgered : world.Ledgered) :
    (world.commit epoch transaction).Ledgered := by
  have kept {id : String} {row : Row} (found : world.find id = some row) :=
    @Transaction.exec_row Reply transaction epoch world.now world.database id row found
  constructor
  · intro id row found
    obtain ⟨added, appended, _, records⟩ :=
      @Transaction.exec_records Reply transaction epoch world.now world.database honest id
    obtain ⟨notes, grows⟩ := records row found
    cases earlier : world.find id with
    | none =>
      have grown : (world.commit epoch transaction).database.history id =
          world.database.history id ++ added := appended
      rw [ledgered.absent id earlier] at grown notes
      rw [grown]
      refine ⟨(Row.Ledgered.nil row).appendAll notes, notes.last (.inl (grows ?_))⟩
      exact (congrArg (Option.map Row.state) earlier).trans_ne (Option.some_ne_none _).symm
    | some before =>
      obtain ⟨after, afterFound, step⟩ := kept earlier
      cases found.symm.trans afterFound
      have records : world.database.Records (world.commit epoch transaction).database id before row :=
        ⟨step.monotone.1, added, appended, notes, fun moved => grows fun same =>
          moved (Option.some_inj.mp ((congrArg (Option.map Row.state) earlier).symm.trans same)).symm⟩
      exact records.ledgered (ledgered.rows id before earlier)
  · intro id absent
    obtain ⟨added, appended, silent, _⟩ :=
      @Transaction.exec_records Reply transaction epoch world.now world.database honest id
    rw [silent absent, List.append_nil] at appended
    cases earlier : world.find id with
    | none => exact appended.trans (ledgered.absent id earlier)
    | some before =>
      obtain ⟨after, afterFound, _⟩ := kept earlier
      cases absent.symm.trans afterFound

variable {platform : DispatchPlatform} {faults : Bool} {admitted : Call → Prop}
  {state next : SystemState}

theorem Operation.Honest.transaction {transaction : Transaction Reply}
    (honest : (Operation.sql epoch transaction).Honest) : transaction.Honest := by
  intro mutation issued
  cases transaction with
  | apply own =>
    cases issued
    exact honest
  | _ => cases issued

theorem call_honest (call : Call) : (call.program platform).Emits Operation.Honest :=
  call_program_emits (serve_honest platform.toPlatform call.handle) fun _ => trivial

theorem Reachable.ledgered (reachable : Reachable platform faults admitted state) :
    state.world.Ledgered := by
  obtain ⟨start, reaches⟩ := reachable
  have safe (call : Call) (world : World) :
      (system faults).Safe (fun operation _ _ => operation.Honest) (fun _ _ _ => True)
        (call.program platform) world [] :=
    Machine.safe_of_emits (call_honest call) fun _ _ _ honest => honest
  apply Pool.Reaches.preserves World.Ledgered .refl reaches rfl fun call world _ _ => safe call world
  · intro before after drift ledgered
    constructor
    · intro id row found
      unfold World.find at found
      rw [drift.1] at found ⊢
      exact ledgered.rows id row found
    · intro id absent
      unfold World.find at absent
      rw [drift.1] at absent ⊢
      exact ledgered.absent id absent
  · intro Reply operation before after reply marks log honest served ledgered
    obtain ⟨served, _⟩ := served
    cases operation with
    | host request =>
      rw [served.1]
      exact ledgered
    | sql epoch transaction =>
      cases served with
      | committed => exact ledgered.commit honest.transaction
      | refused faulty error => exact ledgered
      | unacknowledged faulty error => exact ledgered.commit honest.transaction
  · exact ⟨fun _ _ absent => (nomatch absent), fun _ _ => rfl⟩

/-- What one step adds to the history of an execution: events that end in the state the step left,
and at least one if the step changed the state. -/
def LedgerStep (state next : SystemState) (id : String) : Prop :=
  ∃ added, next.world.database.history id = state.world.database.history id ++ added ∧
    ∀ row row', state.world.find id = some row → next.world.find id = some row' →
      row'.state ≠ row.state → ∃ event ∈ added, event.newState = some row'.state

theorem Commits.ledgerStep {call : Call} {transaction : Transaction Reply}
    (commits : Commits state next call epoch transaction) (honest : transaction.Honest)
    (id : String) : LedgerStep state next id := by
  unfold LedgerStep
  rw [commits.committed]
  obtain ⟨added, appended, _, records⟩ :=
    @Transaction.exec_records Reply transaction epoch state.world.now state.world.database honest id
  refine ⟨added, appended, fun row row' found found' moved => ?_⟩
  obtain ⟨notes, grows⟩ := records row' found'
  have filled : added ≠ [] := grows fun same =>
    moved (Option.some_inj.mp ((congrArg (Option.map Row.state) found).symm.trans same)).symm
  obtain ⟨event, member⟩ := List.exists_mem_of_ne_nil added filled
  exact ⟨event, member, notes.state event member⟩

/-- In every reachable state, the events of an execution are numbered from one without gaps, their
record versions never fall and never exceed the row's version, every transition they report is
legal, and the last state they carry is the row's; an execution without a row has no events.  And
every step only appends, and appends an event with the new state when it changes the state of a
row. -/
theorem ledger_is_complete (platform : DispatchPlatform) (faults : Bool) {state : SystemState}
    (reachable : Reachable platform faults (fun _ => True) state) (id : String) :
    (∀ row, state.world.find id = some row →
      row.Ledgered (state.world.database.history id) ∧
        row.LastNoted (state.world.database.history id)) ∧
    (state.world.find id = none → state.world.database.history id = []) ∧
    ∀ next, Pool.Step (scheduler platform faults fun _ => True) state next →
      LedgerStep state next id := by
  refine ⟨reachable.ledgered.rows id, reachable.ledgered.absent id, fun next step => ?_⟩
  rcases step_commits step with drift | ⟨call, epoch, Reply, transaction, commits⟩
  · refine ⟨[], by rw [drift.1, List.append_nil], fun row row' found found' moved => ?_⟩
    unfold World.find at found found'
    rw [drift.1, found, Option.some_inj] at found'
    exact (moved (congrArg Row.state found'.symm)).elim
  · obtain ⟨index, continue_, log, scheduled⟩ := commits.scheduled
    have honest : (Operation.sql epoch transaction).Honest :=
      (Reachable.emits call_honest reachable scheduled).1
    exact commits.ledgerStep honest.transaction id

/-- The history of a committed execution. -/
theorem ledger_is_complete_committed :
    ∃ row, ((SystemState.initial 0).follow samplePlatform sampleCommit).world.find "execution" =
        some row ∧
      (((SystemState.initial 0).follow samplePlatform sampleCommit).world.database.history
        "execution").map (fun event => (event.sequence, event.eventType, event.newState)) =
        [(1, .acquired, some .prepared), (2, .executionBegun, some .executing),
          (3, .dispatchStarted, some .inFlight), (4, .terminalResolved, some .committed)] ∧
      row.Ledgered (((SystemState.initial 0).follow samplePlatform
        sampleCommit).world.database.history "execution") :=
  ⟨_, rfl, rfl, ((ledger_is_complete samplePlatform false
    (follow_reachable samplePlatform false sampleCommit 0) "execution").1 _ rfl).1⟩

end Runs

end Crabedence
