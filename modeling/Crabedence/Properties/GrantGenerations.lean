import Crabedence.Authority.Decoding
import Crabedence.Authority.System

/-!
# Grant generations

What a committed transaction does to a reference is one of three changes: it issues the next
generation, revokes some generations or closes the reference.  The locks make every interleaving of
the stores' statements a sequence of such changes.  So the generations of a reference are numbered
from one without gaps and the head has the next number, issued material stays as it is, revocation and
closure are final, and what `Resolve` returns was the latest generation when it was read.
-/

namespace Crabedence.Authority

open Go Capability Json Relational Resumption

variable {row : GrantRow}

section Changes

/-- The effect of one committed transaction on its reference. -/
inductive Reference.Change (reference : Reference) : Reference → Prop where
  | issue {head : Head} {row : GrantRow} {grants : GrantTable}
      (found : reference.ensureHead.head = some head) (allowed : head.closed = false)
      (numbered : row.generation = head.nextGeneration)
      (inserted : reference.ensureHead.grants.insert row = .ok grants) :
      Change reference ({ reference.ensureHead with grants } : Reference).advanceHead
  | revoke (selected : GrantRow → Bool) :
      Change reference (reference.ensureHead.revoke selected)
  | close : Change reference reference.ensureHead.closeHead

abbrev Reference.Evolves : Reference → Reference → Prop := Relation.ReflTransGen Reference.Change

variable {reference later : Reference} {count : Nat} {head : Head}

/-- The generations are one to `count`, in order, and a head has the next number. -/
structure Reference.Numbered (reference : Reference) (count : Nat) : Prop where
  generations : reference.grants.rows.map GrantRow.generation =
    (List.range' 1 count).map Int.ofNat
  next : ∀ head, reference.head = some head → head.nextGeneration = count + 1
  unused : reference.head = none → count = 0

/-- What stays of a reference: the material of every generation, revocation, and a closed head. -/
structure Reference.Keeps (earlier later : Reference) : Prop where
  material : ∀ generation row, earlier.grants.find generation = some row →
    ∃ revoked, later.grants.find generation = some { row with revoked } ∧
      (row.revoked = true → revoked = true)
  closed : ∀ head, earlier.head = some head → head.closed = true → later.head = some head

section Head

theorem ensureHead_grants (reference : Reference) :
    reference.ensureHead.grants = reference.grants := by
  unfold Reference.ensureHead
  cases reference.head <;> rfl

theorem ensureHead_of_head (stored : reference.head = some head) :
    reference.ensureHead = reference := by
  unfold Reference.ensureHead
  rw [stored]

end Head

section Numbers

theorem Reference.Numbered.ensureHead (numbered : reference.Numbered count) :
    reference.ensureHead.Numbered count := by
  cases stored : reference.head with
  | some head =>
    rw [ensureHead_of_head stored]
    exact numbered
  | none =>
    have zero := numbered.unused stored
    subst zero
    have seed : reference.seed = 1 := by
      rw [Reference.seed, numbered.generations]
      rfl
    unfold Reference.ensureHead
    rw [stored]
    refine ⟨numbered.generations, ?_, nofun⟩
    intro head held
    cases held
    exact seed

theorem Reference.Numbered.revoke (numbered : reference.Numbered count)
    (selected : GrantRow → Bool) : (reference.revoke selected).Numbered count where
  generations := by
    change (reference.grants.rows.map _).map GrantRow.generation = _
    rw [List.map_map, ← numbered.generations]
    apply List.map_congr_left
    intro row _
    rw [Function.comp_apply]
    split_ifs <;> rfl
  next := numbered.next
  unused := numbered.unused

theorem Reference.Numbered.closeHead (numbered : reference.Numbered count) :
    reference.closeHead.Numbered count where
  generations := numbered.generations
  next := by
    intro head held
    obtain ⟨stored, present, rfl⟩ := Option.map_eq_some_iff.mp held
    exact numbered.next stored present
  unused absent := numbered.unused (Option.map_eq_none_iff.mp absent)

theorem Reference.Numbered.issue {grants : GrantTable} (numbered : reference.Numbered count)
    (found : reference.head = some head) (sequel : row.generation = head.nextGeneration)
    (inserted : reference.grants.insert row = .ok grants) :
    ({ reference with grants } : Reference).advanceHead.Numbered (count + 1) where
  generations := by
    have next : row.generation = Int.ofNat (1 + count) := by
      rw [sequel, numbered.next head found, Int.ofNat_eq_natCast]
      omega
    change grants.rows.map GrantRow.generation = _
    rw [(Table.insert_ok_rows inserted).2.2, List.map_append, numbered.generations,
      List.range'_1_concat, List.map_append, List.map_singleton, List.map_singleton, next]
  next := by
    intro advanced held
    obtain ⟨stored, present, rfl⟩ := Option.map_eq_some_iff.mp held
    change stored.nextGeneration + 1 = _
    rw [numbered.next stored present]
    omega
  unused := by
    intro absent
    have none := Option.map_eq_none_iff.mp absent
    rw [found] at none
    cases none

theorem Reference.Change.numbered (change : reference.Change later)
    (numbered : reference.Numbered count) : ∃ count, later.Numbered count := by
  cases change with
  | issue found allowed sequel inserted =>
    exact ⟨_, numbered.ensureHead.issue found sequel inserted⟩
  | revoke selected => exact ⟨_, numbered.ensureHead.revoke selected⟩
  | close => exact ⟨_, numbered.ensureHead.closeHead⟩

theorem Reference.Evolves.numbered (evolves : reference.Evolves later)
    (numbered : reference.Numbered count) : ∃ count, later.Numbered count := by
  induction evolves with
  | refl => exact ⟨count, numbered⟩
  | tail _ change ih =>
    obtain ⟨_, numbered⟩ := ih
    exact change.numbered numbered

theorem numbered_empty : Reference.empty.Numbered 0 := ⟨rfl, nofun, fun _ => rfl⟩

theorem Reference.Numbered.find_isSome_iff (numbered : reference.Numbered count) (generation : Int) :
    (reference.grants.find generation).isSome = true ↔ 1 ≤ generation ∧ generation ≤ count := by
  have stored : (reference.grants.find generation).isSome = true ↔
      generation ∈ reference.grants.rows.map GrantRow.generation := by
    rw [← not_iff_not, ← lookupBy_none_iff, Bool.not_eq_true, Option.isSome_eq_false_iff,
      Option.isNone_iff_eq_none]
    rfl
  rw [stored, numbered.generations, List.mem_map]
  constructor
  · rintro ⟨number, listed, rfl⟩
    have bounds := List.mem_range'_1.mp listed
    rw [Int.ofNat_eq_natCast]
    omega
  · rintro ⟨lower, upper⟩
    refine ⟨generation.toNat, List.mem_range'_1.mpr ?_, ?_⟩
    · omega
    · rw [Int.ofNat_eq_natCast]
      omega

theorem latest_spec (latest : reference.latest = some row) :
    row ∈ reference.grants.rows ∧ ∀ other ∈ reference.grants.rows, other.generation ≤ row.generation := by
  have total : Std.Total fun row other : GrantRow => other.generation ≤ row.generation :=
    ⟨fun first second => Int.le_total second.generation first.generation⟩
  have trans : IsTrans GrantRow fun row other => other.generation ≤ row.generation :=
    ⟨fun _ _ _ first second => Int.le_trans second first⟩
  have sorted := List.pairwise_insertionSort
    (fun row other : GrantRow => other.generation ≤ row.generation) reference.grants.rows
  have perm := List.perm_insertionSort
    (fun row other : GrantRow => other.generation ≤ row.generation) reference.grants.rows
  obtain ⟨rest, split⟩ := List.head?_eq_some_iff.mp latest
  rw [split] at sorted perm
  refine ⟨perm.mem_iff.mp List.mem_cons_self, ?_⟩
  intro other held
  rcases List.mem_cons.mp (perm.mem_iff.mpr held) with same | listed
  · rw [same]
  · exact (List.pairwise_cons.mp sorted).1 other listed

theorem Reference.Numbered.latest (numbered : reference.Numbered count)
    (latest : reference.latest = some row) :
    row.generation = count ∧ reference.grants.find count = some row := by
  obtain ⟨held, highest⟩ := latest_spec latest
  have stored : reference.grants.find row.generation = some row := Table.find_some_iff.mpr ⟨held, rfl⟩
  have bounds := (numbered.find_isSome_iff row.generation).mp (by rw [stored]; rfl)
  obtain ⟨last, found⟩ := Option.isSome_iff_exists.mp
    ((numbered.find_isSome_iff count).mpr ⟨by omega, Int.le_refl _⟩)
  have lastRow := Table.find_some_iff.mp found
  have above := highest last lastRow.1
  have same : row.generation = count := by omega
  rw [← same]
  exact ⟨rfl, stored⟩

end Numbers

section Kept

theorem Reference.Keeps.refl (reference : Reference) : reference.Keeps reference where
  material _ row stored := ⟨row.revoked, stored, id⟩
  closed _ stored _ := stored

theorem Reference.Keeps.trans {earlier middle : Reference} (first : earlier.Keeps middle)
    (second : middle.Keeps later) : earlier.Keeps later where
  material := by
    intro generation row stored
    obtain ⟨revoked, kept, final⟩ := first.material generation row stored
    obtain ⟨revoked', kept', final'⟩ := second.material generation _ kept
    exact ⟨revoked', kept', fun wasRevoked => final' (final wasRevoked)⟩
  closed := by
    intro head stored final
    exact second.closed head (first.closed head stored final) final

theorem keeps_ensureHead (reference : Reference) : reference.Keeps reference.ensureHead where
  material := by
    intro generation row stored
    rw [ensureHead_grants]
    exact ⟨row.revoked, stored, id⟩
  closed := by
    intro head stored _
    rw [ensureHead_of_head stored, stored]

theorem keeps_revoke (reference : Reference) (selected : GrantRow → Bool) :
    reference.Keeps (reference.revoke selected) where
  material := by
    intro generation row stored
    unfold Reference.revoke
    rw [Table.find_update, stored, Option.map_some]
    split_ifs with chosen
    · exact ⟨true, rfl, fun _ => rfl⟩
    · exact ⟨row.revoked, rfl, id⟩
  closed _ stored _ := stored

theorem keeps_closeHead (reference : Reference) : reference.Keeps reference.closeHead where
  material _ row stored := ⟨row.revoked, stored, id⟩
  closed := by
    intro head stored final
    unfold Reference.closeHead
    rw [stored, Option.map_some, ← final]

theorem keeps_issue {row : GrantRow} {grants : GrantTable} (found : reference.head = some head)
    (allowed : head.closed = false) (inserted : reference.grants.insert row = .ok grants) :
    reference.Keeps ({ reference with grants } : Reference).advanceHead where
  material := by
    intro generation held stored
    have new : row.generation ≠ generation := by
      intro same
      have absent := (Table.insert_ok_rows inserted).2.1
      have member := Table.find_some_iff.mp stored
      exact absent (List.mem_map.mpr ⟨held, member.1, member.2.trans same.symm⟩)
    refine ⟨held.revoked, ?_, id⟩
    change grants.find generation = some held
    rw [Table.find_insert inserted, if_neg new, stored]
  closed := by
    intro stored present final
    rw [found] at present
    cases present
    rw [allowed] at final
    cases final

theorem Reference.Change.keeps (change : reference.Change later) : reference.Keeps later := by
  have ensured := keeps_ensureHead reference
  cases change with
  | issue found allowed sequel inserted => exact ensured.trans (keeps_issue found allowed inserted)
  | revoke selected => exact ensured.trans (keeps_revoke _ selected)
  | close => exact ensured.trans (keeps_closeHead _)

theorem Reference.Evolves.keeps (evolves : reference.Evolves later) : reference.Keeps later := by
  induction evolves with
  | refl => exact .refl reference
  | tail _ change ih => exact ih.trans change.keeps

end Kept

end Changes

variable {grantID : Str}

section Methods

variable {engine : Engine} {Result Other : Type} {good : Result → World → List Commit → Prop}
  {world : World} {tx : Nat}

def changesOnly : Machine.Guard Operation World Commit
  | _, .commit tx grantID own, world, _ =>
    tx ∈ world.store.active → world.store.locks grantID = some tx →
      (world.reference grantID).Change own
  | _, _, _, _ => True

/-- Whatever the others do, the method commits nothing else, and what it returns is `good` with the
commits that were reported to it. -/
def Ensures (engine : Engine) (good : Result → World → List Commit → Prop) (method : Method Result)
    (world : World) : Prop :=
  ∀ log, (machine engine).Safe changesOnly
    (fun reply world log => ∀ result, reply = .ok result → good result world log) method.run world log

section Rules

theorem ensures_pure {result : Result} (holds : ∀ later log, world.Rely later → good result later log) :
    Ensures engine good (pure result) world := by
  intro log later moved other same
  cases same
  exact holds later log moved

theorem ensures_throw (failure : Str) :
    Ensures engine good (throw failure : Method Result) world := by
  intro log later moved result same
  cases same

theorem ensures_bind {method : Method Result} {next : Result → Method Other}
    {final : Other → World → List Commit → Prop} (first : Ensures engine good method world)
    (rest : ∀ result later log, good result later log → Ensures engine final (next result) later) :
    Ensures engine final (method >>= next) world := by
  intro log
  apply Machine.Safe.except_bind
  refine (first log).mono (fun _ _ _ allowed => allowed) ?_
  intro reply later marks reached
  cases reply with
  | ok result => exact rest result later marks (reached result rfl) marks
  | error failure =>
    intro further moved result same
    cases same

theorem Ensures.imp {method : Method Result} {weaker : Result → World → List Commit → Prop}
    (ensures : Ensures engine good method world)
    (implies : ∀ result world log, good result world log → weaker result world log) :
    Ensures engine weaker method world :=
  fun log => (ensures log).mono (fun _ _ _ allowed => allowed)
    fun _ _ _ returned result same => implies _ _ _ (returned result same)

variable {operation : Operation (Except Str Result)}

theorem ensures_perform {wrap : Str → Str}
    (allowed : ∀ log before, world.Rely before → changesOnly operation before log)
    (answers : ∀ before result after, world.Rely before →
      Serves engine operation before (.ok result) after → ∀ later log, after.Rely later →
        good result later (log ++ operation.noted (.ok result))) :
    Ensures engine good (ExceptT.mk ((Program.perform operation).bind fun reply =>
      .done (reply.mapError wrap))) world := by
  intro log before moved
  refine ⟨allowed log before moved, ?_⟩
  rintro reply after _ ⟨served, rfl⟩ later further result same
  cases reply with
  | ok answer =>
    cases same
    exact answers before _ after moved served later log further
  | error failure => cases same

theorem call_eq (operation : Operation (Except Str Result)) :
    call operation = ExceptT.mk ((Program.perform operation).bind fun reply =>
      .done (reply.mapError id)) := by
  unfold call Program.perform
  rw [Program.issue_bind]
  congr 2
  funext reply
  cases reply <;> rfl

theorem ensures_call (allowed : ∀ log before, world.Rely before → changesOnly operation before log)
    (answers : ∀ before result after, world.Rely before →
      Serves engine operation before (.ok result) after → ∀ later log, after.Rely later →
        good result later (log ++ operation.noted (.ok result))) : Ensures engine good (call operation) world := by
  rw [call_eq]
  exact ensures_perform allowed answers

theorem ensures_now {next : Time → Method Result}
    (ensures : ∀ now later, world.Rely later → Ensures engine good (next now) later) :
    Ensures engine good (ExceptT.lift (Program.perform .now) >>= next) world := by
  intro log before moved
  refine ⟨trivial, ?_⟩
  intro now after marks served
  obtain ⟨rfl, rfl⟩ := served
  exact ensures now _ moved _

theorem ensures_transact {body : Nat → Method Result} {noted : Result → List Commit → Prop}
    (ensures : ∀ tx world, tx < world.store.fresh →
      Ensures engine (fun result _ log => noted result log) (body tx) world) :
    Ensures engine (fun result _ log => noted result log) (transact body) world := by
  have begins : Ensures engine (fun tx world _ => tx < world.store.fresh) (call .begin) world := by
    refine ensures_call (fun _ _ _ => trivial) ?_
    intro before tx after _ served later log moved
    cases served with
    | done answered =>
      obtain ⟨-, rfl, rfl⟩ := answered
      exact Nat.lt_of_lt_of_le (Nat.lt_succ_self _) moved.fresh
  refine ensures_bind begins ?_
  intro tx later _ begun log
  apply Machine.Safe.bind
  refine (ensures tx later begun log).mono (fun _ _ _ allowed => allowed) ?_
  intro reply reached marks returned further _
  refine ⟨trivial, ?_⟩
  rintro _ after _ ⟨-, rfl⟩ final _ result same
  -- the rollback is not noted
  rw [show Operation.noted (.rollback tx) _ = [] from rfl, List.append_nil]
  exact returned result same

end Rules

/-- The transaction has locked the reference: its copy is the reference with a head, unless it has
been ended. -/
def Locked (tx : Nat) (grantID : Str) (answer : Head × Reference) (world : World) : Prop :=
  answer.2.head = some answer.1 ∧
    ∃ reference, answer.2 = reference.ensureHead ∧ world.store.Holds tx grantID reference

variable {answer : Head × Reference} {own : Reference}

theorem Locked.relied {later : World} (locked : Locked tx grantID answer world)
    (moved : world.Rely later) : Locked tx grantID answer later := by
  obtain ⟨found, reference, copied, holds⟩ := locked
  exact ⟨found, reference, copied, holds.tolerated moved⟩

def HeadEnsured (tx : Nat) (grantID : Str) (own : Option Reference) (world : World) : Prop :=
  tx < world.store.fresh ∧ ∀ copy, own = some copy →
    ∃ reference : Reference, copy = reference.ensureHead ∧ world.store.Holds tx grantID reference

/-- Either statement of `lockAuthorityHead` may be the one that locks. -/
theorem ensures_lockAuthorityHead (begun : tx < world.store.fresh) :
    Ensures engine (fun answer world _ => Locked tx grantID answer world)
      (lockAuthorityHead tx grantID) world := by
  have ensured : Ensures engine (fun own world _ => HeadEnsured tx grantID own world)
      (callWrapping "failed to ensure authority head" (.ensureHead tx grantID)) world := by
    refine ensures_perform (fun _ _ _ => trivial) ?_
    intro before own after moved served later _ further
    have older : tx < before.store.fresh := Nat.lt_of_lt_of_le begun moved.fresh
    cases served with
    | done answered =>
      cases answered.2 with
      | present found => exact ⟨Nat.lt_of_lt_of_le older further.fresh, nofun⟩
      | inserted absent free =>
        have holds : (before.store.acquire tx grantID).Holds tx grantID
            (before.reference grantID) := Locking.Store.holds_acquire older
        refine ⟨Nat.lt_of_lt_of_le older further.fresh, ?_⟩
        intro copy same
        cases same
        exact ⟨_, rfl, holds.tolerated further⟩
  refine ensures_bind ensured ?_
  intro own later _ ⟨older, copied⟩
  refine ensures_perform (fun _ _ _ => trivial) ?_
  intro before answer after moved served final _ further
  cases served with
  | done answered =>
    cases answered.2 with
    | inserted found =>
      obtain ⟨reference, same, holds⟩ := copied _ rfl
      exact ⟨found, reference, same, (holds.tolerated moved).tolerated further⟩
    | acquired found free =>
      have holds : (before.store.acquire tx grantID).Holds tx grantID
          (before.reference grantID) :=
        Locking.Store.holds_acquire (Nat.lt_of_lt_of_le older moved.fresh)
      exact ⟨found, _, (ensureHead_of_head found).symm, holds.tolerated further⟩

theorem Locked.allows (locked : Locked tx grantID answer world)
    (changes : ∀ reference : Reference, answer.2 = reference.ensureHead → reference.Change own) :
    ∀ log before, world.Rely before → changesOnly (.commit tx grantID own) before log := by
  intro log before moved active holder
  obtain ⟨found, reference, copied, holds⟩ := locked.relied moved
  have stored := (holds.2 active).2
  rw [World.reference, stored]
  exact changes reference copied

section Statements

variable {Reply : Type} {statement : Statement Reply}

def Applied (tx : Nat) (grantID : Str) (answer : Head × Reference) (statement : Statement Reply)
    (own : Reference) (reply : Reply × Reference) (world : World) : Prop :=
  statement.apply own = some reply ∧ Locked tx grantID answer world

variable (locked : Locked tx grantID answer world)
include locked

theorem applied_of_serves {before after later : World} {reply : Reply × Reference} (moved : world.Rely before)
    (served : Serves engine (.execute tx statement own) before (.ok reply) after)
    (further : after.Rely later) : Applied tx grantID answer statement own reply later := by
  cases served with
  | done answered =>
    obtain ⟨-, applied, rfl⟩ := answered
    exact ⟨applied, (locked.relied moved).relied further⟩

theorem ensures_execute :
    Ensures engine (fun reply world _ => Applied tx grantID answer statement own reply world)
      (call (.execute tx statement own)) world :=
  ensures_call (fun _ _ _ => trivial) fun _ _ _ moved served _ _ further =>
    applied_of_serves locked moved served further

theorem ensures_executeWrapping (context : String) :
    Ensures engine (fun reply world _ => Applied tx grantID answer statement own reply world)
      (callWrapping context (.execute tx statement own)) world :=
  ensures_perform (fun _ _ _ => trivial) fun _ _ _ moved served _ _ further =>
    applied_of_serves locked moved served further

theorem ensures_commit (changes : ∀ reference : Reference, answer.2 = reference.ensureHead → reference.Change own) :
    Ensures engine (fun _ _ log => (grantID, own) ∈ log) (call (.commit tx grantID own)) world :=
  ensures_call (locked.allows changes) fun _ _ _ _ _ _ _ _ =>
    List.mem_append_right _ List.mem_cons_self

end Statements

/-- The chosen generations are revoked. -/
def Reference.Flagged (reference : Reference) (chosen : Int → Bool) : Prop :=
  ∀ generation row, reference.grants.find generation = some row → chosen generation = true →
    row.revoked = true

theorem flagged_revoke (reference : Reference) (chosen : Int → Bool) :
    (reference.revoke fun row => chosen row.generation).Flagged chosen := by
  intro generation row stored wanted
  unfold Reference.revoke at stored
  rw [Table.find_update] at stored
  obtain ⟨before, held, rfl⟩ := Option.map_eq_some_iff.mp stored
  rw [(Table.find_some_iff.mp held).2, if_pos wanted]

theorem ensures_revokeWhere (chosen : Int → Bool) (missing : Str) :
    Ensures engine (fun _ _ log => ∃ own, (grantID, own) ∈ log ∧ own.Flagged chosen)
      (revokeWhere grantID (fun row => chosen row.generation) missing) world := by
  refine ensures_transact ?_
  intro tx world begun
  refine ensures_bind (ensures_lockAuthorityHead begun) ?_
  rintro ⟨head, own⟩ later _ locked
  refine ensures_bind (ensures_execute locked) ?_
  rintro ⟨rows, revoked⟩ final _ ⟨applied, held⟩
  cases applied
  dsimp only
  split_ifs with none
  · exact ensures_throw missing
  · refine (ensures_commit held ?_).imp fun _ _ _ noted => ⟨_, noted, flagged_revoke _ chosen⟩
    rintro reference rfl
    exact .revoke _

theorem ensures_closeAuthorityRef :
    Ensures engine (fun _ _ log => ∃ own head, (grantID, own) ∈ log ∧ own.head = some head ∧
      head.closed = true) (closeAuthorityRef grantID) world := by
  refine ensures_transact ?_
  intro tx world begun
  refine ensures_bind (ensures_lockAuthorityHead begun) ?_
  rintro ⟨head, own⟩ later _ locked
  refine ensures_bind (ensures_execute locked) ?_
  rintro ⟨_, closed⟩ final _ ⟨applied, held⟩
  cases applied
  refine (ensures_commit held ?_).imp fun _ _ _ noted =>
    ⟨_, _, noted, (congrArg (Option.map _) held.1 : own.closeHead.head = _), rfl⟩
  rintro reference rfl
  exact .close

theorem insertGrant_applied {issued : Reference} {reply : Unit}
    (applied : (Statement.insertGrant row).apply own = some (reply, issued)) :
    ∃ grants, own.grants.insert row = .ok grants ∧ issued = { own with grants } := by
  unfold Statement.apply at applied
  dsimp only at applied
  cases added : own.grants.insert row with
  | error conflict =>
    rw [added] at applied
    cases applied
  | ok grants =>
    rw [added] at applied
    cases applied
    exact ⟨grants, rfl, rfl⟩

theorem issued_generation {storage : Storage} {sha256 : List UInt8 → Str} {principal : Str}
    {capabilities : Option (List Str)} {constraints : Map (Option (List Str))}
    {expiresAt now : Time} {generation : Int}
    (stored : storage.row (issuedGrant sha256 grantID principal capabilities constraints expiresAt now
      generation) capabilities constraints expiresAt = .ok row) : row.generation = generation := by
  cases storage with
  | sqlite =>
    cases stored
    rfl
  | postgres textArray jsonb =>
    unfold Storage.row at stored
    dsimp only [bind, Except.bind] at stored
    split at stored
    · cases stored
    split at stored
    · cases stored
    split at stored
    · cases stored
    split at stored
    · cases stored
    cases stored
    rfl

variable (storage : Storage)

theorem ensures_issueGrantWithConstraints (sha256 : List UInt8 → Str)
    (principal : Str) (capabilities : Option (List Str)) (constraints : Map (Option (List Str)))
    (expiresAt : Time) :
    Ensures engine (fun _ _ _ => True) (issueGrantWithConstraints storage sha256 grantID principal
      capabilities constraints expiresAt) world := by
  refine ensures_transact ?_
  intro tx world begun
  refine ensures_bind (ensures_lockAuthorityHead begun) ?_
  rintro ⟨head, own⟩ later _ locked
  dsimp only
  split_ifs with closed
  · exact ensures_throw _
  refine ensures_now ?_
  intro now later' moved
  cases stored : storage.row (issuedGrant sha256 grantID principal capabilities constraints expiresAt
      now head.nextGeneration) capabilities constraints expiresAt with
  | error failure => exact ensures_throw _
  | ok row =>
    refine ensures_bind (ensures_executeWrapping (locked.relied moved) _) ?_
    rintro ⟨_, issued⟩ final _ ⟨applied, held⟩
    refine ensures_bind (ensures_executeWrapping held _) ?_
    rintro ⟨_, advanced⟩ final' _ ⟨applied', held'⟩
    cases applied'
    obtain ⟨grants, added, rfl⟩ := insertGrant_applied applied
    refine ensures_bind (ensures_commit held' ?_) fun _ _ _ _ => ensures_pure fun _ _ _ => trivial
    rintro reference rfl
    exact .issue held'.1 (Bool.eq_false_of_not_eq_true closed) (issued_generation stored) added

variable (printing : Printing)

theorem ensures_resolveGrant (sha256 : List UInt8 → Str) (principal : Str) :
    Ensures engine (fun _ _ _ => True) (resolveGrant storage printing sha256 grantID principal)
      world := by
  unfold resolveGrant
  split_ifs
  · exact ensures_pure fun _ _ _ => trivial
  · have looked : Ensures engine (fun _ _ _ => True)
        (callWrapping "authority lookup failed" (.latest grantID)) world :=
      ensures_perform (fun _ _ _ => trivial) fun _ _ _ _ _ _ _ _ => trivial
    exact ensures_bind looked fun _ _ _ _ _ _ _ _ _ => trivial

/-- What a call that returned without an error has stored. -/
def Call.Stored : Call → Outcome → List Commit → Prop
  | .revokeGeneration grantID generation, .changed (.ok ()), log =>
    ∃ own, (grantID, own) ∈ log ∧ own.Flagged fun other => decide (other = generation)
  | .revokeGrant grantID, .changed (.ok ()), log =>
    ∃ own, (grantID, own) ∈ log ∧ own.Flagged fun _ => true
  | .closeAuthorityRef grantID, .changed (.ok ()), log =>
    ∃ own head, (grantID, own) ∈ log ∧ own.head = some head ∧ head.closed = true
  | _, _, _ => True

theorem Ensures.program {Outcome : Type} {method : Method Result} {wrap : Except Str Result → Outcome}
    {stored : Outcome → List Commit → Prop} (ensures : Ensures engine good method world)
    (failed : ∀ failure log, stored (wrap (.error failure)) log)
    (returned : ∀ result later log, good result later log → stored (wrap (.ok result)) log) :
    (machine engine).Safe changesOnly (fun outcome _ log => stored outcome log)
      (method.run.bind fun reply => .done (wrap reply)) world [] := by
  apply Machine.Safe.bind
  refine (ensures []).mono (fun _ _ _ allowed => allowed) fun reply later log reached _ _ => ?_
  cases reply with
  | ok result => exact returned result later log (reached result rfl)
  | error failure => exact failed failure log

theorem call_safe (sha256 : List UInt8 → Str) (call : Call) :
    (machine engine).Safe changesOnly (fun outcome _ log => call.Stored outcome log)
      (call.program storage printing sha256) world [] := by
  cases call with
  | issueGrantWithConstraints grantID principal capabilities constraints expiresAt =>
    exact (ensures_issueGrantWithConstraints storage sha256 principal capabilities constraints
      expiresAt).program (fun _ _ => trivial) fun _ _ _ _ => trivial
  | revokeGeneration grantID generation =>
    exact (ensures_revokeWhere (fun other => decide (other = generation)) _).program
      (fun _ _ => trivial) fun _ _ _ stored => stored
  | revokeGrant grantID =>
    exact (ensures_revokeWhere (fun _ => true) _).program (fun _ _ => trivial)
      fun _ _ _ stored => stored
  | closeAuthorityRef grantID =>
    exact ensures_closeAuthorityRef.program (fun _ _ => trivial) fun _ _ _ stored => stored
  | resolve grantID principal =>
    exact (ensures_resolveGrant storage printing sha256 principal).program (fun _ _ => trivial)
      fun _ _ _ _ => trivial

end Methods

section Histories

variable {storage : Storage} {printing : Printing} {sha256 : List UInt8 → Str}
  {state later : SystemState} {log : List Commit} {principal : Str}

/-- What a guarded operation does to a reference. -/
theorem serves_evolves {engine : Engine} {Reply : Type} {operation : Operation Reply}
    {before after : World} {reply : Reply} (guarded : changesOnly operation before log)
    (served : Serves engine operation before reply after) :
    (before.reference grantID).Evolves (after.reference grantID) := by
  cases operation with
  | begin =>
    cases served with
    | done answered =>
      obtain ⟨-, -, rfl⟩ := answered
      exact .refl
    | failed failure => exact .refl
  | ensureHead tx key | lockHead tx key own =>
    cases served with
    | done answered => cases answered.2 <;> exact .refl
    | failed failure => exact .refl
  | execute tx statement own =>
    cases served with
    | done answered =>
      obtain ⟨-, -, rfl⟩ := answered
      exact .refl
    | failed failure => exact .refl
  | commit tx key own =>
    cases served with
    | committed active holder reply =>
      have change := guarded active holder
      by_cases same : grantID = key
      · subst same
        have written : (before.store.commit tx grantID own).parts grantID = own :=
          Function.update_self _ _ _
        change (before.reference grantID).Evolves
          ((before.store.commit tx grantID own).parts grantID)
        rw [written]
        exact .single change
      · have kept : (before.store.commit tx key own).parts grantID = before.store.parts grantID :=
          Function.update_of_ne same _ _
        unfold World.reference
        rw [kept]
    | failed failure => exact .refl
  | rollback tx =>
    cases served
    exact .refl
  | latest key =>
    cases served with
    | done answered =>
      obtain ⟨-, rfl⟩ := answered
      exact .refl
    | failed failure => exact .refl
  | now =>
    cases served
    exact .refl

theorem reaches_evolves (reachable : Reachable storage printing sha256 state)
    (reaches : Pool.Reaches (scheduler storage printing sha256) state later) :
    (state.world.reference grantID).Evolves (later.world.reference grantID) := by
  obtain ⟨now, earlier⟩ := reachable
  refine Pool.Reaches.preserves (fun world =>
    (state.world.reference grantID).Evolves (world.reference grantID)) earlier reaches rfl
    (fun call _ _ _ => (call_safe storage printing sha256 call).mono (fun _ _ _ allowed => allowed)
      fun _ _ _ _ => trivial) ?_ ?_ .refl
  · intro before after drift evolved
    cases drift <;> exact evolved
  · intro Reply operation before after reply marks log guarded served evolved
    exact evolved.trans (serves_evolves guarded served.1)

theorem Serves.stored {engine : Engine} {Reply : Type} {operation : Operation Reply}
    {before after : World} {reply : Reply} {own : Reference}
    (served : Serves engine operation before reply after)
    (noted : (grantID, own) ∈ operation.noted reply) : after.reference grantID = own := by
  cases operation with
  | commit tx key part =>
    cases served with
    | committed active holder reply =>
      cases reply with
      | error failure => cases noted
      | ok done =>
        cases List.mem_singleton.mp noted
        exact Function.update_self _ _ _
    | failed failure => cases noted
  | _ => cases noted

/-- What a caller committed was stored at some point of the run, and is kept from there on. -/
theorem committed_kept {own : Reference} {index : Nat}
    {thread : Thread Operation Call Outcome Commit} (reachable : Reachable storage printing sha256 state)
    (reaches : Pool.Reaches (scheduler storage printing sha256) state later)
    (beyond : state.threads.length ≤ index) (found : later.threads[index]? = some thread)
    (noted : (grantID, own) ∈ thread.log) :
    (state.world.reference grantID).Keeps own ∧ own.Keeps (later.world.reference grantID) := by
  obtain ⟨_, _, _, _, moment, after, sofar, stepped, since, ⟨served, rfl⟩, written⟩ :=
    Pool.Reaches.marked reaches found beyond noted
  obtain ⟨now, earlier⟩ := reachable
  have stored : after.world.reference grantID = own := served.stored written
  rw [← stored]
  exact ⟨(reaches_evolves ⟨now, earlier⟩ (sofar.tail stepped)).keeps,
    (reaches_evolves ⟨now, earlier.trans (sofar.tail stepped)⟩ since).keeps⟩

theorem Reference.Flagged.kept {earlier own : Reference} {chosen : Int → Bool} {generation : Int}
    (flagged : own.Flagged chosen) (first : earlier.Keeps own) (last : own.Keeps reference)
    (stored : earlier.grants.find generation = some row) (wanted : chosen generation = true) :
    reference.grants.find generation = some { row with revoked := true } := by
  obtain ⟨revoked, held, -⟩ := first.material generation row stored
  obtain ⟨revoked', found, final⟩ := last.material generation _ held
  have set : revoked' = true := final (flagged generation _ held wanted)
  rw [found, set]

/-- What a call did before it returned without an error lasts: the generations that were there when
it was called are revoked, and a reference is closed, in every later state. -/
theorem changes_last {call : Call} {index : Nat} (reachable : Reachable storage printing sha256 state)
    (reaches : Pool.Reaches (scheduler storage printing sha256) state later)
    (beyond : state.threads.length ≤ index)
    (returned : later.threads[index]? = some ⟨call, .done (.changed (.ok ())), log⟩) :
    match call with
    | .revokeGeneration grantID generation =>
      ∀ row, (state.world.reference grantID).grants.find generation = some row →
        (later.world.reference grantID).grants.find generation = some { row with revoked := true }
    | .revokeGrant grantID =>
      ∀ generation row, (state.world.reference grantID).grants.find generation = some row →
        (later.world.reference grantID).grants.find generation = some { row with revoked := true }
    | .closeAuthorityRef grantID =>
      ∃ head, (later.world.reference grantID).head = some head ∧ head.closed = true
    | _ => True := by
  obtain ⟨start, -, follows⟩ := Pool.Reaches.started reaches returned beyond
  have stored : call.Stored (.changed (.ok ())) log := (Machine.safe_iff_follows.mp
    (call_safe storage printing sha256 call)).2 _ _ _ follows
  cases call with
  | revokeGeneration grantID generation =>
    obtain ⟨own, noted, flagged⟩ := stored
    obtain ⟨first, last⟩ := committed_kept reachable reaches beyond returned noted
    exact fun row found => flagged.kept first last found (decide_eq_true rfl)
  | revokeGrant grantID =>
    obtain ⟨own, noted, flagged⟩ := stored
    obtain ⟨first, last⟩ := committed_kept reachable reaches beyond returned noted
    exact fun generation row found => flagged.kept first last found rfl
  | closeAuthorityRef grantID =>
    obtain ⟨own, head, noted, found, closed⟩ := stored
    have kept := (committed_kept reachable reaches beyond returned noted).2
    exact ⟨head, kept.closed head found closed, closed⟩
  | _ => trivial

theorem Reachable.numbered (reachable : Reachable storage printing sha256 state) (grantID : Str) :
    ∃ count, (state.world.reference grantID).Numbered count := by
  obtain ⟨now, reaches⟩ := reachable
  have evolves : Reference.empty.Evolves (state.world.reference grantID) :=
    reaches_evolves ⟨now, .refl⟩ reaches
  exact evolves.numbered numbered_empty

theorem Reference.Keeps.count_le {earlier later : Reference} {count count' : Nat}
    (keeps : earlier.Keeps later) (numbered : earlier.Numbered count)
    (numbered' : later.Numbered count') : count ≤ count' := by
  by_cases none : count = 0
  · omega
  · obtain ⟨row, stored⟩ := Option.isSome_iff_exists.mp
      ((numbered.find_isSome_iff count).mpr ⟨by omega, Int.le_refl _⟩)
    obtain ⟨revoked, kept, -⟩ := keeps.material count row stored
    have bounds := (numbered'.find_isSome_iff count).mp (by rw [kept]; rfl)
    omega

/-- What `Resolve` makes of the answer to its query. -/
def resolveReply (storage : Storage) (printing : Printing) (sha256 : List UInt8 → Str)
    (grantID principal : Str) :
    Except Str (Option GrantRow × Int64) → Except Str (Option Grant)
  | .ok (latest, now) => resolve storage.engine printing sha256 grantID principal latest now
  | .error failure => .error (wrapping "authority lookup failed" failure)

theorem program_resolve (named : grantID ≠ []) :
    Call.program storage printing sha256 (.resolve grantID principal) =
      .issue (.latest grantID) fun reply =>
        .done (.resolved (resolveReply storage printing sha256 grantID principal reply)) := by
  unfold Call.program resolveGrant
  dsimp only
  rw [if_neg named]
  change Program.issue _ _ = Program.issue _ _
  congr 1
  funext reply
  cases reply <;> rfl

/-- What `Resolve` returns was resolved from the latest row at some moment of the call. -/
theorem resolved_moment {g : Grant} {index : Nat}
    (reaches : Pool.Reaches (scheduler storage printing sha256) state later)
    (beyond : state.threads.length ≤ index) (returned : later.threads[index]? =
      some ⟨.resolve grantID principal, .done (.resolved (.ok (some g))), log⟩) :
    ∃ moment, Pool.Reaches (scheduler storage printing sha256) state moment ∧
      Pool.Reaches (scheduler storage printing sha256) moment later ∧
      resolve storage.engine printing sha256 grantID principal
        (moment.world.reference grantID).latest moment.world.now = .ok (some g) := by
  by_cases unnamed : grantID = []
  · -- without a reference nothing is read, and nothing is returned
    obtain ⟨start, -, follows⟩ := Pool.Reaches.started reaches returned beyond
    subst unnamed
    have stopped : Program.done (Outcome.resolved (.ok (some g))) =
        Program.done (Outcome.resolved (.ok none)) := follows.of_done
    cases stopped
  · rcases Pool.Reaches.served_first reaches returned beyond (program_resolve unnamed) with
      waiting | ⟨moment, reply, after, marks, sofar, since, served, log', follows⟩
    · cases waiting
    · have stopped := follows.of_done
      have answered : resolveReply storage printing sha256 grantID principal reply =
          .ok (some g) := by
        injection stopped with same
        injection same with same
        exact same.symm
      refine ⟨moment, sofar, since, ?_⟩
      cases served.1 with
      | done answer =>
        obtain ⟨rfl, rfl⟩ := answer
        exact answered
      | failed failure => cases answered

/-- The generations of a reference, in every state of every run and from there on. -/
theorem grant_generations (reachable : Reachable storage printing sha256 state) (grantID : Str) :
    ∃ count, (state.world.reference grantID).Numbered count ∧
      ∀ later, Pool.Reaches (scheduler storage printing sha256) state later →
        (state.world.reference grantID).Keeps (later.world.reference grantID) ∧
        (∀ head, (state.world.reference grantID).head = some head → head.closed = true →
          (later.world.reference grantID).Numbered count) ∧
        ∀ (index : Nat) (principal : Str) (g : Grant) (log : List Commit),
          state.threads.length ≤ index →
          later.threads[index]? =
            some ⟨.resolve grantID principal, .done (.resolved (.ok (some g))), log⟩ →
          ∃ moment last row, Pool.Reaches (scheduler storage printing sha256) state moment ∧
            Pool.Reaches (scheduler storage printing sha256) moment later ∧
            count ≤ last ∧ (moment.world.reference grantID).Numbered last ∧
            (moment.world.reference grantID).grants.find last = some row ∧
            row.revoked = false ∧ row.unexpired moment.world.now = true ∧ row.principal = principal ∧
            g.generation = last ∧
            ∃ caps constraints, g = row.grant storage.engine grantID caps constraints := by
  obtain ⟨count, numbered⟩ := reachable.numbered grantID
  refine ⟨count, numbered, ?_⟩
  intro later reaches
  have keeps : (state.world.reference grantID).Keeps (later.world.reference grantID) :=
    (reaches_evolves reachable reaches).keeps
  have stays : Reachable storage printing sha256 later := by
    obtain ⟨now, earlier⟩ := reachable
    exact ⟨now, earlier.trans reaches⟩
  refine ⟨keeps, ?_, ?_⟩
  · intro head stored closed
    obtain ⟨count', numbered'⟩ := stays.numbered grantID
    have next := numbered.next head stored
    have next' := numbered'.next head (keeps.closed head stored closed)
    have same : count' = count := by omega
    rw [← same]
    exact numbered'
  · intro index principal g log beyond returned
    obtain ⟨moment, sofar, since, resolved⟩ := resolved_moment reaches beyond returned
    have reachedMoment : Reachable storage printing sha256 moment := by
      obtain ⟨now, earlier⟩ := reachable
      exact ⟨now, earlier.trans sofar⟩
    obtain ⟨last, numbered'⟩ := reachedMoment.numbered grantID
    have grown := (reaches_evolves reachable sofar).keeps.count_le numbered numbered'
    cases latest : (moment.world.reference grantID).latest with
    | none =>
      rw [latest] at resolved
      unfold resolve at resolved
      split_ifs at resolved <;> cases resolved
    | some row =>
      rw [latest] at resolved
      obtain ⟨⟨bound, unrevoked⟩, unexpired, -, caps, constraints, rfl⟩ := resolve_some resolved
      obtain ⟨generation, stored⟩ := numbered'.latest latest
      exact ⟨moment, last, row, sofar, since, grown, numbered', stored, unrevoked, unexpired, bound,
        generation, caps, constraints, rfl⟩

end Histories

section Samples

def sampleIssue : Call :=
  .issueGrantWithConstraints (str "grant") (str "alice") none .empty .zero

def sampleGrant (generation : Int) : Grant :=
  issuedGrant id (str "grant") (str "alice") none .empty .zero (.ofUnixMilli 1000) generation

def sampleIssuedRow (generation : Int) (revoked : Bool) : GrantRow where
  generation := generation
  principal := str "alice"
  capabilities := marshal ((stringsValue none).map integerText)
  constraints := marshal ((constraintsValue .empty).map integerText)
  grantDigest := (sampleGrant generation).digest
  issuedAt := some 1000
  expiresAt := none
  revoked := revoked

theorem sampleIssuedRow_resolves {printing : Printing} {generation : Int} :
    resolve .sqlite printing id (str "grant") (str "alice")
      (some (sampleIssuedRow generation false)) 0 = .ok (some (sampleGrant generation)) := by
  have written : (sampleIssuedRow generation false).grant .sqlite (str "grant") [] .empty =
      sampleGrant generation := rfl
  have verified : verifyGrantDigest id (sampleGrant generation) = true := by
    unfold verifyGrantDigest
    rw [Bool.and_eq_true, decide_eq_true_iff, decide_eq_true_iff]
    exact ⟨hashedBytes_ne_nil _, rfl⟩
  rw [← written] at verified ⊢
  exact @resolve_written printing id (str "grant") (sampleIssuedRow generation false) 0 none
    (by decide) rfl rfl nofun rfl rfl verified

/-- Two generations are issued, the first is revoked, and `Resolve` returns the second. -/
theorem grant_generations_issued : ∃ state,
    Reachable .sqlite ⟨⟨id, fun _ => "malformed"⟩, id⟩ id state ∧
      state.threads[3]?.map (·.program) = some (.done (.resolved (.ok (some (sampleGrant 2))))) ∧
      (state.world.reference (str "grant")).Numbered 2 ∧
      (state.world.reference (str "grant")).grants.find 1 = some (sampleIssuedRow 1 true) := by
  have called : Pool.Reaches (scheduler .sqlite ⟨⟨id, fun _ => "malformed"⟩, id⟩ id)
      ⟨World.initial 0, []⟩ _ := .single (.spawn sampleIssue trivial)
  have begun := called.served 0 rfl _ ⟨.done ⟨fun _ => rfl, rfl, rfl⟩, rfl⟩
  have ensured := begun.served 0 rfl _ ⟨.done ⟨.head _, .inserted rfl rfl⟩, rfl⟩
  have locked := ensured.served 0 rfl _ ⟨.done ⟨.head _, .inserted rfl⟩, rfl⟩
  have timed := locked.served 0 rfl (.ofUnixMilli 1000) ⟨rfl, rfl⟩
  have inserted := timed.served 0 rfl _ ⟨.done ⟨.head _, rfl, rfl⟩, rfl⟩
  have advanced := inserted.served 0 rfl _ ⟨.done ⟨.head _, rfl, rfl⟩, rfl⟩
  have committed := advanced.served 0 rfl _ ⟨.committed (.head _) rfl (.ok ()), rfl⟩
  have first := committed.served 0 rfl () ⟨rfl, rfl⟩
  have called' : Pool.Reaches _ _ _ := first.tail (.spawn sampleIssue trivial)
  have begun' := called'.served 1 rfl _ ⟨.done ⟨fun _ => rfl, rfl, rfl⟩, rfl⟩
  have ensured' := begun'.served 1 rfl _ ⟨.done ⟨.head _, .present rfl⟩, rfl⟩
  have locked' := ensured'.served 1 rfl _ ⟨.done ⟨.head _, .acquired rfl rfl⟩, rfl⟩
  have timed' := locked'.served 1 rfl (.ofUnixMilli 1000) ⟨rfl, rfl⟩
  have inserted' := timed'.served 1 rfl _ ⟨.done ⟨.head _, rfl, rfl⟩, rfl⟩
  have advanced' := inserted'.served 1 rfl _ ⟨.done ⟨.head _, rfl, rfl⟩, rfl⟩
  have committed' := advanced'.served 1 rfl _ ⟨.committed (.head _) rfl (.ok ()), rfl⟩
  have second := committed'.served 1 rfl () ⟨rfl, rfl⟩
  have called'' : Pool.Reaches _ _ _ :=
    second.tail (.spawn (.revokeGeneration (str "grant") 1) trivial)
  have begun'' := called''.served 2 rfl _ ⟨.done ⟨fun _ => rfl, rfl, rfl⟩, rfl⟩
  have ensured'' := begun''.served 2 rfl _ ⟨.done ⟨.head _, .present rfl⟩, rfl⟩
  have locked'' := ensured''.served 2 rfl _ ⟨.done ⟨.head _, .acquired rfl rfl⟩, rfl⟩
  have revoked := locked''.served 2 rfl _ ⟨.done ⟨.head _, rfl, rfl⟩, rfl⟩
  have committed'' := revoked.served 2 rfl _ ⟨.committed (.head _) rfl (.ok ()), rfl⟩
  have third := committed''.served 2 rfl () ⟨rfl, rfl⟩
  have asked : Pool.Reaches _ _ _ :=
    third.tail (.spawn (.resolve (str "grant") (str "alice")) trivial)
  have answered := asked.served 3 rfl (.ok (some (sampleIssuedRow 2 false), 0)) ⟨.done ⟨rfl, rfl⟩, rfl⟩
  obtain ⟨count, numbered, -⟩ := grant_generations ⟨0, answered⟩ (str "grant")
  have next : (3 : Int) = count + 1 := numbered.next ⟨3, false⟩ rfl
  obtain rfl : count = 2 := by omega
  have resolves := congrArg (fun reply => some (.done (.resolved reply) : Program Operation Outcome))
    (@sampleIssuedRow_resolves ⟨⟨id, fun _ => "malformed"⟩, id⟩ 2)
  exact ⟨_, ⟨0, answered⟩, resolves, numbered, rfl⟩

end Samples

end Crabedence.Authority
