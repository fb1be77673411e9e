import Crabedence.Properties.Admission
import Crabedence.Refusal

/-!
# Reasoning about the executor

The rules by which facts about a run of the executor are derived from what each store call ensures,
and what the calls it makes ensure.  As for the store's methods, all of this quantifies over what the
environment does in between and over the faults a transaction may suffer; a fact may be confined to
the runs that get certain replies.
-/

namespace Crabedence

open Resumption StoreM

/-- The replies a run of the executor may get. -/
abbrev Replies : Type 1 := ∀ {Reply : Type}, DispatchOp Reply → Reply → Prop

def anyReply : Replies := fun _ _ => True

/-- Whatever the environment does, the executor's program over this handle makes its requests under
`guard` and can only answer in `post`, as long as it gets no other replies than these. -/
def DispatchM.EnsuresIn (environment : Environment) (faults : Bool) (replies : Replies)
    (platform : Platform) (handle : SQLiteStore) (guard : Machine.Guard DispatchOp World Mark)
    {Result : Type} (post : Result → World → List Mark → Prop) (program : DispatchM Result)
    (world : World) (log : List Mark) : Prop :=
  (((systemIn environment faults).through (DispatchOp.implement platform handle)).answering
    replies).Safe guard post program world log

variable {environment : Environment} {faults : Bool} {replies : Replies} {platform : Platform}
  {handle : SQLiteStore} {Result : Type} {world : World} {log : List Mark}

namespace DispatchM

variable {guard : Machine.Guard DispatchOp World Mark} {Other : Type}
  {post : Result → World → List Mark → Prop}

theorem EnsuresIn.through {program : DispatchM Result}
    (ensured : EnsuresIn environment faults anyReply platform handle guard post program world log) :
    ((systemIn environment faults).through (DispatchOp.implement platform handle)).Safe guard post
      program world log :=
  Machine.Safe.restrict ensured (fun served => ⟨served, trivial⟩) fun moved => moved

theorem ensures_answer {result : Result}
    (holds : ∀ later, environment.rely world later → post result later log) :
    EnsuresIn environment faults replies platform handle guard post (pure result) world log :=
  holds

theorem ensures_then {first : DispatchM Other} {next : Other → DispatchM Result}
    {middle : Other → World → List Mark → Prop}
    (ensured : EnsuresIn environment faults replies platform handle guard middle first world log)
    (continues : ∀ result later log', middle result later log' →
      EnsuresIn environment faults replies platform handle guard post (next result) later log') :
    EnsuresIn environment faults replies platform handle guard post (first >>= next) world log := by
  apply Machine.Safe.bind
  exact Machine.Safe.mono ensured (fun _ _ _ allowed => allowed) continues

/-- One call of the store: it is made under the guard, and what follows may rely on what the call
ensures. -/
theorem ensures_call {call : EffectStore Other} {next : Except StoreError Other → DispatchM Result}
    (spec : World → Except StoreError Other → World → List Mark → Prop)
    (allowed : ∀ before, environment.rely world before → guard (.store call) before log)
    (ensured : ∀ before, environment.rely world before →
      StoreM.EnsuresIn environment faults unguarded (spec before) (handle.serve platform call)
        before []) (continues : ∀ before reply after marks, environment.rely world before →
      spec before reply after marks → replies (.store call) reply →
      EnsuresIn environment faults replies platform handle guard post (next reply) after
        (log ++ marks)) :
    EnsuresIn environment faults replies platform handle guard post (callStore call >>= next) world
      log := by
  intro before moved
  refine ⟨allowed before moved, fun reply after marks served => ?_⟩
  have holds := (Machine.safe_iff_follows.mp (ensured before moved)).2 reply after marks served.1
  exact continues before reply after marks moved holds served.2

theorem ensures_ask {request : Host Other} {next : Other → DispatchM Result}
    (allowed : ∀ before, environment.rely world before → guard (.host request) before log)
    (continues : ∀ reply after, environment.rely world after → replies (.host request) reply →
      EnsuresIn environment faults replies platform handle guard post (next reply) after
        (log ++ (Operation.host request).marks reply)) :
    EnsuresIn environment faults replies platform handle guard post (askHost request >>= next) world
      log := by
  intro before moved
  refine ⟨allowed before moved, fun reply after marks served => ?_⟩
  have asked : (systemIn environment faults).Safe unguarded (fun reply later log' =>
      environment.rely before later ∧ log' = (Operation.host request).marks reply)
      (.issue (.host request) .done) before [] := by
    intro asking since
    refine ⟨trivial, fun answer answered marks answering later further => ?_⟩
    obtain ⟨⟨same, -⟩, rfl⟩ := answering
    rw [same] at further
    exact ⟨environment.trans since further, List.nil_append _⟩
  obtain ⟨further, rfl⟩ := (Machine.safe_iff_follows.mp asked).2 reply after marks served.1
  exact continues reply after (environment.trans moved further) served.2

end DispatchM

section Logs

def Mutation.crosses : Mutation → Bool
  | .markInFlight .. => true
  | _ => false

theorem Operation.Within.unmarked {Reply : Type} {operation : Operation Reply} {epoch : Int}
    {footprint : Footprint} (within : operation.Within epoch footprint)
    (quiet : ∀ mutation, footprint.updates mutation → mutation.crosses = false) (reply : Reply) :
    operation.marks reply = [] := by
  cases operation with
  | host request => cases request <;> first | rfl | cases within
  | sql own transaction =>
    cases transaction with
    | apply mutation =>
      have uncrossed := quiet mutation within.2
      cases mutation <;> first | rfl | cases uncrossed
    | _ => rfl

theorem ensures_unmarked {method : StoreM Result} {footprint : Footprint}
    (issues : handle.Issues footprint method)
    (quiet : ∀ mutation, footprint.updates mutation → mutation.crosses = false) :
    StoreM.EnsuresIn environment faults unguarded (fun _ _ log' => log' = log) method world log := by
  apply Machine.safe_iff_follows.mpr
  refine ⟨fun _ _ _ _ _ => trivial, fun reply later log' follows => ?_⟩
  apply follows.unmarked issues
  intro Reply operation before after answer marks within served
  rw [served.2]
  exact within.unmarked quiet answer

/-- Of the store's calls, only `MarkInFlight` crosses the boundary. -/
def EffectStore.crosses : EffectStore Result → Bool
  | .markInFlight .. => true
  | _ => false

theorem EffectStore.crosses_updates {call : EffectStore Result} (quiet : call.crosses = false)
    {mutation : Mutation} (issued : call.updates platform mutation) : mutation.crosses = false := by
  cases mutation with
  | markInFlight lease providerID recoveryLocator =>
    cases call <;>
      simp only [EffectStore.updates, Mutation.acquires, reduceCtorEq, and_false, or_false,
        exists_false, Bool.false_eq_true] at issued
    cases quiet
  | _ => rfl

theorem serve_unmarked {call : EffectStore Result} (quiet : call.crosses = false) :
    StoreM.EnsuresIn environment faults unguarded (fun _ _ log' => log' = log)
      (handle.serve platform call) world log :=
  ensures_unmarked (serve_issues platform handle call) fun _ issued =>
    EffectStore.crosses_updates quiet issued

/-- What a `MarkInFlight` that was answered has logged. -/
def crossingOf (id : String) : Except StoreError Unit → List Mark
  | .ok _ => [.crossed id]
  | .error _ => []

/-- `MarkInFlight` logs the crossing when it reports success, and only then. -/
theorem serve_marked {lease : Lease} {providerID : String} {recoveryLocator : RawMessage} :
    StoreM.EnsuresIn environment faults unguarded
      (fun reply _ log' => log' = log ++ crossingOf lease.executionID reply)
      (handle.serve platform (.markInFlight lease providerID recoveryLocator)) world log := by
  show StoreM.EnsuresIn environment faults unguarded _
    (handle.markInFlight platform lease providerID recoveryLocator) world log
  apply ensures_bind
  apply ensures_lift
  intro redacted _
  cases handle.redactLocator recoveryLocator with
  | error error => exact fun _ _ => (List.append_nil log).symm
  | ok persisted =>
    dsimp only
    split_ifs with forbidden
    · exact ensures_throw fun _ _ => (List.append_nil log).symm
    · apply ensures_bind
      apply ensuresIn_sql
      intro before _
      refine ⟨trivial, fun later _ => ?_, fun _ _ _ _ _ _ => (List.append_nil log).symm⟩
      cases ((Transaction.apply (.markInFlight lease providerID persisted)).exec handle.epoch
          before.now before.database).1 with
      | true => exact ensures_pure fun _ _ => rfl
      | false =>
        have issues : handle.Issues Footprint.none
            (handle.classifyTransitionFailure lease .executing) :=
          SQLiteStore.issues_classifyTransitionFailure
        have silent : StoreM.EnsuresIn environment faults unguarded
            (fun _ _ log' => log' = log ++ []) (handle.classifyTransitionFailure lease .executing)
            later (log ++ []) := ensures_unmarked issues fun _ none => none.elim
        have fails : Fails faults (handle.classifyTransitionFailure lease .executing) :=
          fails_classifyTransitionFailure
        apply (((fails later _).restrict environment).and silent).mono
        intro reply _ log' ended
        obtain ⟨⟨error, rfl⟩, same⟩ := ended
        exact same

end Logs

end Crabedence
