import Crabedence.Store.Transaction

/-!
# What a transaction does to a row

`RowStep` lists everything one transaction can do to one row of `execution_requests`, guards
included, and `Transaction.exec_row` says the list is complete.  Rows are never deleted and a new
row is the one of an admitted `INSERT`.  Facts about whole runs of the store are derived from this
list and from nothing else about the statements.
-/

namespace Crabedence

open Relational

namespace Database

variable (now : Int) (executionID : String) (database : Database)

@[simp] theorem insertEffectEvent_requests (payload : EventPayload) :
    (database.insertEffectEvent now executionID payload).requests = database.requests := by
  unfold insertEffectEvent
  split <;> rfl

@[simp] theorem insertEffectEvent_cluster (payload : EventPayload) :
    (database.insertEffectEvent now executionID payload).cluster = database.cluster := by
  unfold insertEffectEvent
  split <;> rfl

@[simp] theorem insertEntry_requests (entry : LedgerEntry) :
    (database.insertEntry now executionID entry).requests = database.requests := by
  cases entry with
  | event payload => exact database.insertEffectEvent_requests now executionID payload
  | observation kind material =>
    simp only [insertEntry, insertObservationRow]
    split <;> rfl

@[simp] theorem insertEntry_cluster (entry : LedgerEntry) :
    (database.insertEntry now executionID entry).cluster = database.cluster := by
  cases entry with
  | event payload => exact database.insertEffectEvent_cluster now executionID payload
  | observation kind material =>
    simp only [insertEntry, insertObservationRow]
    split <;> rfl

@[simp] theorem appendLedger_requests (entries : List LedgerEntry) :
    (database.appendLedger now executionID entries).requests = database.requests := by
  unfold appendLedger
  induction entries generalizing database with
  | nil => rfl
  | cons entry rest ih => rw [List.foldl_cons, ih, insertEntry_requests]

@[simp] theorem appendLedger_cluster (entries : List LedgerEntry) :
    (database.appendLedger now executionID entries).cluster = database.cluster := by
  unfold appendLedger
  induction entries generalizing database with
  | nil => rfl
  | cons entry rest ih => rw [List.foldl_cons, ih, insertEntry_cluster]

variable {now executionID database}

theorem foldl_insertEffectEvent {Item : Type} (items : List Item) (key : Item → String)
    (payload : Item → EventPayload) : (items.foldl (fun database item =>
        database.insertEffectEvent now (key item) (payload item)) database).requests =
        database.requests ∧
      (items.foldl (fun database item =>
        database.insertEffectEvent now (key item) (payload item)) database).cluster =
        database.cluster := by
  induction items generalizing database with
  | nil => exact ⟨rfl, rfl⟩
  | cons item rest ih =>
    rw [List.foldl_cons, ih.1, ih.2]
    exact ⟨database.insertEffectEvent_requests now _ _,
      database.insertEffectEvent_cluster now _ _⟩

section Update

variable {epoch : Int} {mutation : Mutation}

theorem applyMutation_find (id : String) : (database.applyMutation epoch now mutation).2.find id =
      (database.find id).map fun row =>
        if database.selects epoch now mutation row then mutation.assign now row else row := by
  unfold applyMutation
  by_cases missed : database.requests.count (database.selects epoch now mutation) = 0
  · simp only [missed, if_true]
    exact Table.find_of_count_eq_zero missed
  · simp only [missed, if_false]
    split
    · exact Table.find_update (mutation.assign_keys now)
    · simp only [find, appendLedger_requests]
      exact Table.find_update (mutation.assign_keys now)

theorem applyMutation_cluster :
    (database.applyMutation epoch now mutation).2.cluster = database.cluster := by
  unfold applyMutation
  by_cases missed : database.requests.count (database.selects epoch now mutation) = 0
  · simp only [missed, if_true]
  · simp only [missed, if_false]
    split
    · rfl
    · simp

/-- The rows-affected count is positive exactly when the target row passes the whole `WHERE`. -/
theorem applyMutation_hit_iff : (database.applyMutation epoch now mutation).1 = true ↔
      ∃ row, database.find mutation.target = some row ∧
        mutation.guard now database.cluster row = true ∧ database.cluster.epoch = epoch := by
  have reply : (database.applyMutation epoch now mutation).1 =
      decide (database.requests.count (database.selects epoch now mutation) ≠ 0) := by
    unfold applyMutation
    by_cases missed : database.requests.count (database.selects epoch now mutation) = 0
    · simp [missed]
    · simp only [missed, if_false]
      split <;> simp [missed]
  rw [reply, decide_eq_true_eq, ne_eq, Table.count_eq_zero_iff]
  push Not
  constructor
  · rintro ⟨row, member, selected⟩
    simp only [selects, Bool.and_eq_true, decide_eq_true_eq] at selected
    obtain ⟨⟨target, allowed⟩, current⟩ := selected
    exact ⟨row, Table.find_some_iff.mpr ⟨member, target⟩, allowed, current⟩
  · rintro ⟨row, found, allowed, current⟩
    obtain ⟨member, target⟩ := Table.find_some_iff.mp found
    exact ⟨row, member, by simp [selects, target, allowed, current]⟩

theorem applyMutation_miss (missed : (database.applyMutation epoch now mutation).1 = false) :
    (database.applyMutation epoch now mutation).2 = database := by
  unfold applyMutation at missed ⊢
  by_cases unselected : database.requests.count (database.selects epoch now mutation) = 0
  · simp only [unselected, if_true]
  · simp only [unselected, if_false] at missed
    split at missed <;> cases missed

end Update

section Claim

variable {epoch duration : Int} {kind : ClaimKind} {owner : String} {limit : Nat}

theorem eligible_of_candidate {row : Row} {id : String} (found : database.find id = some row)
    (candidate : id ∈ database.claimCandidates now kind limit) : kind.eligible now row = true := by
  obtain ⟨chosen, taken, sameID⟩ := List.mem_map.mp candidate
  have sorted := List.mem_of_mem_take taken
  rw [List.mem_insertionSort, List.mem_filter] at sorted
  have chosenFound : database.find id = some chosen :=
    Table.find_some_iff.mpr ⟨sorted.1, sameID⟩
  rw [chosenFound, Option.some_inj] at found
  exact found ▸ sorted.2

theorem applyClaim_find (id : String) :
    (database.applyClaim epoch now kind owner duration limit).2.find id =
      (database.find id).map fun row =>
        if database.claimSelects epoch now kind limit row then kind.assign now duration owner row
        else row := by
  unfold applyClaim
  by_cases missed : database.requests.count (database.claimSelects epoch now kind limit) = 0
  · simp only [missed, if_true]
    exact Table.find_of_count_eq_zero missed
  · simp only [missed, if_false, find]
    rw [(foldl_insertEffectEvent _ _ _).1]
    exact Table.find_update (kind.assign_keys now duration owner)

theorem applyClaim_reported {record : Record}
    (reported : record ∈ (database.applyClaim epoch now kind owner duration limit).1) :
    ∃ row, database.find record.executionID = some row ∧ kind.eligible now row = true ∧
      (database.applyClaim epoch now kind owner duration limit).2.find record.executionID =
        some (kind.assign now duration owner row) ∧
      record = (kind.assign now duration owner row).scan := by
  simp only [applyClaim] at reported
  split_ifs at reported with missed
  · cases reported
  rw [List.mem_map] at reported
  obtain ⟨claimed, member, rfl⟩ := reported
  rw [List.mem_filter, decide_eq_true_eq] at member
  obtain ⟨member, candidate⟩ := member
  obtain ⟨row, stored, updated⟩ := List.mem_map.mp member
  have sameID : row.executionID = claimed.executionID := by
    rw [← updated]
    split_ifs
    · exact (kind.assign_keys now duration owner row).1.symm
    · rfl
  have selected : database.claimSelects epoch now kind limit row = true := by
    rw [Table.count_eq_zero_iff] at missed
    push Not at missed
    obtain ⟨other, _, chosen⟩ := missed
    simp only [claimSelects, Bool.and_eq_true, decide_eq_true_eq] at chosen ⊢
    exact ⟨sameID ▸ candidate, chosen.2⟩
  rw [if_pos selected] at updated
  have found : database.find claimed.executionID = some row :=
    Table.find_some_iff.mpr ⟨stored, sameID⟩
  have after : (database.applyClaim epoch now kind owner duration limit).2.find
      claimed.executionID = some (kind.assign now duration owner row) := by
    rw [applyClaim_find, found, Option.map_some, if_pos selected]
  exact ⟨row, found, eligible_of_candidate found candidate, after, congrArg Row.scan updated.symm⟩

theorem applyClaim_distinct :
    ((database.applyClaim epoch now kind owner duration limit).1.map Record.executionID).Nodup := by
  unfold applyClaim
  dsimp only
  split_ifs
  · exact List.nodup_nil
  · rw [List.map_map]
    exact ((List.filter_sublist.map Row.executionID).nodup
      (Table.primary_nodup _))

theorem applyClaim_cluster :
    (database.applyClaim epoch now kind owner duration limit).2.cluster = database.cluster := by
  unfold applyClaim
  by_cases missed : database.requests.count (database.claimSelects epoch now kind limit) = 0
  · simp only [missed, if_true]
  · simp only [missed, if_false]
    exact (foldl_insertEffectEvent _ _ _).2

end Claim

section Insert

variable {epoch : Int} {request : NewRequest}

/-- An `INSERT` either leaves requests alone or adds the new row under a fresh id and a fresh
request key, which takes the handle's epoch and an open admission. -/
theorem insertRequest_cases : ((database.insertRequest epoch now request).2 = database ∧
        ∀ createdAt, (database.insertRequest epoch now request).1 ≠ .inserted createdAt) ∨
      ((database.insertRequest epoch now request).1 = .inserted now ∧
        database.cluster.epoch = epoch ∧ database.cluster.recoveryRequired = false ∧
        database.find request.executionID = none ∧ database.findByKey request.key = none ∧
        (∀ id, (database.insertRequest epoch now request).2.find id =
          if request.executionID = id then some (request.row epoch now) else database.find id) ∧
        (database.insertRequest epoch now request).2.cluster = database.cluster) := by
  unfold insertRequest
  split_ifs with admitted
  · cases inserted : database.requests.insert (request.row epoch now) with
    | error conflict => cases conflict <;> exact .inl ⟨rfl, fun _ => by simp⟩
    | ok requests =>
      obtain ⟨freshKey, freshID, _⟩ := Table.insert_ok_rows inserted
      refine .inr ⟨rfl, admitted.1, admitted.2, lookupBy_none_iff.mpr freshID,
        lookupBy_none_iff.mpr freshKey, fun id => ?_, insertEffectEvent_cluster ..⟩
      simp only [find, insertEffectEvent_requests]
      exact Table.find_insert inserted
  · exact .inl ⟨rfl, fun _ => by simp⟩

theorem insertRequest_taken {row : Row} (taken : database.findByKey request.key = some row) :
    database.insertRequest epoch now request = (.nothing, database) := by
  have present : (request.row epoch now).requestKey ∈ database.requests.rows.map Row.requestKey := by
    obtain ⟨member, sameKey⟩ := Table.findUnique_some_iff.mp taken
    exact List.mem_map.mpr ⟨row, member, sameKey⟩
  unfold insertRequest Table.insert
  rw [dif_pos present]
  split_ifs <;> rfl

theorem findByKey_of_find {id : String} {row : Row} (found : database.find id = some row) :
    database.findByKey row.requestKey = some row :=
  Table.findUnique_some_iff.mpr ⟨(Table.find_some_iff.mp found).1, rfl⟩

theorem find_of_findByKey {key : RequestKey} {row : Row}
    (found : database.findByKey key = some row) :
    database.find row.executionID = some row ∧ row.requestKey = key := by
  obtain ⟨member, sameKey⟩ := Table.findUnique_some_iff.mp found
  exact ⟨Table.find_some_iff.mpr ⟨member, rfl⟩, sameKey⟩

end Insert

end Database

def Transaction.mutation? {Reply : Type} : Transaction Reply → Option Mutation
  | .apply mutation => some mutation
  | _ => none

def Transaction.isBulk {Reply : Type} : Transaction Reply → Bool
  | .claim .. | .scrubLocators _ => true
  | _ => false

def Transaction.isRead {Reply : Type} : Transaction Reply → Bool
  | .lookup _ | .lookupByKey _ | .listByStates _ | .listExpiredLeases | .reconciliationBacklog
  | .listEffectEvents _ | .listProviderObservations _ | .readEpoch | .readRecoveryRequired => true
  | _ => false

def Transaction.inserts? {Reply : Type} : Transaction Reply → Option NewRequest
  | .insert request => some request
  | _ => none

/-- The epoch an `AdvanceClusterEpoch` or a `CompleteClusterRecovery` transaction expects. -/
def Transaction.advances? {Reply : Type} : Transaction Reply → Option Int
  | .advanceEpoch expected _ => some expected
  | _ => none

def Transaction.completes? {Reply : Type} : Transaction Reply → Option Int
  | .completeRecovery expected _ => some expected
  | _ => none

def Transaction.notes? {Reply : Type} : Transaction Reply → Option String
  | .noteContention executionID _ _ => some executionID
  | _ => none

/-- Everything a transaction can do to the cluster row. -/
inductive ClusterStep {Reply : Type} (transaction : Transaction Reply) (now : Int)
    (cluster : ClusterMeta) : ClusterMeta → Prop where
  | kept : ClusterStep transaction now cluster cluster
  | advanced (expected : Int) (reason : String) (issued : transaction.advances? = some expected)
      (current : cluster.epoch = expected) :
      ClusterStep transaction now cluster {
        epoch := cluster.epoch + 1
        recoveryRequired := true
        recoveryCompletedAt := none
        recoveryResolution := none
        advancedAt := some now
        advanceReason := nullableString reason }
  | completed (expected : Int) (resolution : String)
      (issued : transaction.completes? = some expected) (current : cluster.epoch = expected) :
      ClusterStep transaction now cluster { cluster with
        recoveryRequired := false
        recoveryCompletedAt := some now
        recoveryResolution := nullableString resolution }

/-- Everything a transaction can do to a row it finds in the table. -/
inductive RowStep {Reply : Type} (transaction : Transaction Reply) (epoch now : Int)
    (cluster : ClusterMeta) (row : Row) : Row → Prop where
  | kept : RowStep transaction epoch now cluster row row
  | mutated (mutation : Mutation) (issued : transaction.mutation? = some mutation)
      (target : mutation.target = row.executionID)
      (allowed : mutation.guard now cluster row = true) (current : cluster.epoch = epoch) :
      RowStep transaction epoch now cluster row (mutation.assign now row)
  | claimed (kind : ClaimKind) (owner : String) (duration : Int)
      (issued : transaction.isBulk = true) (allowed : kind.eligible now row = true)
      (current : cluster.epoch = epoch) :
      RowStep transaction epoch now cluster row (kind.assign now duration owner row)
  | scrubbed (issued : transaction.isBulk = true) (waiting : row.state = .unknown)
      (current : cluster.epoch = epoch) :
      RowStep transaction epoch now cluster row row.scrubLocator

namespace Transaction

variable {Reply : Type} {transaction : Transaction Reply} {epoch now : Int} {database : Database}
  {id : String} {row : Row}

/-- A transaction either inserts the row of an admitted `INSERT` for a key without a row, or takes a
`RowStep` with the row it finds. -/
theorem exec_find (id : String) :
    (∃ request : NewRequest, transaction.inserts? = some request ∧ request.executionID = id ∧
      database.find id = none ∧ database.findByKey request.key = none ∧
      database.cluster.epoch = epoch ∧ database.cluster.recoveryRequired = false ∧
      (transaction.exec epoch now database).2.find id = some (request.row epoch now)) ∨
    ∃ step : Row → Row, (transaction.exec epoch now database).2.find id = (database.find id).map step ∧
      ∀ row, database.find id = some row →
        RowStep transaction epoch now database.cluster row (step row) := by
  have unchanged (same : (transaction.exec epoch now database).2.find id = database.find id) :
      ∃ step : Row → Row,
        (transaction.exec epoch now database).2.find id = (database.find id).map step ∧
        ∀ row, database.find id = some row →
          RowStep transaction epoch now database.cluster row (step row) :=
    ⟨fun row => row, by rw [same, Option.map_id'], fun _ _ => .kept⟩
  cases transaction with
  | insert request =>
    rcases database.insertRequest_cases with ⟨same, _⟩ | ⟨_, current, open_, absent, free, finds, _⟩
    · exact .inr (unchanged (congrArg (Database.find · id) same))
    · by_cases own : request.executionID = id
      · subst own
        exact .inl ⟨request, rfl, rfl, absent, free, current, open_, (finds _).trans (if_pos rfl)⟩
      · exact .inr (unchanged ((finds id).trans (if_neg own)))
  | apply mutation =>
    refine .inr ⟨_, Database.applyMutation_find id, fun row found => ?_⟩
    split_ifs with selected
    · simp only [Database.selects, Bool.and_eq_true, decide_eq_true_eq] at selected
      exact .mutated mutation rfl selected.1.1.symm selected.1.2 selected.2
    · exact .kept
  | claim kind owner duration limit =>
    refine .inr ⟨_, Database.applyClaim_find id, fun row found => ?_⟩
    split_ifs with selected
    · simp only [Database.claimSelects, Bool.and_eq_true, decide_eq_true_eq] at selected
      have rowID : row.executionID = id := (Table.find_some_iff.mp found).2
      have allowed := Database.eligible_of_candidate found (rowID ▸ selected.1)
      exact .claimed kind owner duration rfl allowed selected.2
    · exact .kept
  | scrubLocators retention =>
    refine .inr ⟨_, Table.find_update Row.scrubLocator_keys, fun row found => ?_⟩
    split_ifs with selected
    · simp only [Database.scrubSelects, Bool.and_eq_true, decide_eq_true_eq] at selected
      exact .scrubbed rfl selected.1.1.1 selected.2
    · exact .kept
  | noteContention executionID eventType metadata =>
    refine .inr (unchanged ?_)
    simp only [exec, Database.find, Database.insertEffectEvent_requests]
  | advanceEpoch expected reason =>
    refine .inr (unchanged ?_)
    simp only [exec, Database.advanceEpoch]
    split_ifs <;> rfl
  | completeRecovery expected resolution =>
    refine .inr (unchanged ?_)
    simp only [exec, Database.completeRecovery]
    split_ifs <;> rfl
  | _ => exact .inr (unchanged rfl)

/-- No transaction deletes a row, and what it does to one is a `RowStep`. -/
theorem exec_row (found : database.find id = some row) :
    ∃ after, (transaction.exec epoch now database).2.find id = some after ∧
      RowStep transaction epoch now database.cluster row after := by
  rcases @exec_find _ transaction epoch now database id with ⟨_, _, _, absent, _⟩ | ⟨step, finds, steps⟩
  · cases found.symm.trans absent
  · exact ⟨step row, by rw [finds, found, Option.map_some], steps row found⟩

/-- A row that was not there before is the one of an `INSERT`. -/
theorem exec_new {after : Row} (absent : database.find id = none)
    (appears : (transaction.exec epoch now database).2.find id = some after) :
    ∃ request : NewRequest, after = request.row epoch now := by
  rcases @exec_find _ transaction epoch now database id with
    ⟨request, _, _, _, _, _, _, finds⟩ | ⟨step, finds, _⟩
  · exact ⟨request, Option.some_inj.mp (appears.symm.trans finds)⟩
  · rw [finds, absent] at appears
    cases appears

theorem exec_cluster :
    ClusterStep transaction now database.cluster (transaction.exec epoch now database).2.cluster := by
  cases transaction with
  | insert request =>
    rcases database.insertRequest_cases with ⟨same, _⟩ | ⟨_, _, _, _, _, _, same⟩
    · rw [exec, same]
      exact .kept
    · rw [exec, same]
      exact .kept
  | apply mutation =>
    rw [exec, Database.applyMutation_cluster]
    exact .kept
  | claim kind owner duration limit =>
    rw [exec, Database.applyClaim_cluster]
    exact .kept
  | noteContention executionID eventType metadata =>
    rw [exec, Database.insertEffectEvent_cluster]
    exact .kept
  | advanceEpoch expected reason =>
    simp only [exec, Database.advanceEpoch]
    split_ifs with current
    · exact .advanced expected reason rfl current
    · exact .kept
  | completeRecovery expected resolution =>
    simp only [exec, Database.completeRecovery]
    split_ifs with current
    · exact .completed expected resolution rfl current
    · exact .kept
  | _ => exact .kept

end Transaction

end Crabedence
