import Mathlib.Logic.Relation

/-!
# Programs that issue operations to a shared world

A program is a finite tree.  It either stops with a result or issues one atomic operation and
continues with whatever reply that operation produces.  Between two operations of one program the
world may move: a machine states which moves of the environment a program has to tolerate (its
`rely`), which replies an operation may give, and which marks a served operation leaves in the
program's own log.

`Follows` is the program's-eye view of an execution: everything one program may have done so far,
with arbitrary environment moves in between.  `Safe` is the matching proof rule.  It asks for a
guard before every operation and for a postcondition at the end, and `safe_iff_follows` says that
these are exactly the facts which hold along every execution, finished or not.
-/

namespace Resumption

universe u v

/-- A finite resumption over operations `Op`, indexed by the type of their reply. -/
inductive Program (Op : Type → Type u) (Result : Type) : Type (max 1 u) where
  | done (result : Result) : Program Op Result
  | issue {Reply : Type} (operation : Op Reply) (next : Reply → Program Op Result) :
      Program Op Result

namespace Program

variable {Op : Type → Type u} {Inner : Type → Type v} {Result Other : Type}

def bind : Program Op Result → (Result → Program Op Other) → Program Op Other
  | .done result, continue_ => continue_ result
  | .issue operation next, continue_ => .issue operation fun reply => (next reply).bind continue_

instance : Monad (Program Op) where
  pure := .done
  bind := bind

def perform (operation : Op Result) : Program Op Result :=
  .issue operation .done

def interpret (implement : ∀ {Reply : Type}, Op Reply → Program Inner Reply) :
    Program Op Result → Program Inner Result
  | .done result => .done result
  | .issue operation next =>
    (implement operation).bind fun reply => (next reply).interpret implement

def execute {World : Type} (serve : ∀ {Reply : Type}, Op Reply → World → Reply × World) :
    Program Op Result → World → Result × World
  | .done result, world => (result, world)
  | .issue operation next, world =>
    let served := serve operation world
    (next served.1).execute serve served.2

@[simp] theorem issue_bind {Reply : Type} (operation : Op Reply)
    (next : Reply → Program Op Result) (continue_ : Result → Program Op Other) :
    (Program.issue operation next).bind continue_ =
      .issue operation fun reply => (next reply).bind continue_ := rfl

theorem bind_assoc {Last : Type} (program : Program Op Result)
    (continue_ : Result → Program Op Other) (last : Other → Program Op Last) :
    (program.bind continue_).bind last = program.bind fun result => (continue_ result).bind last := by
  induction program with
  | done result => rfl
  | issue operation next ih => simp only [issue_bind, ih]

theorem execute_bind {World : Type} (serve : ∀ {Reply : Type}, Op Reply → World → Reply × World)
    (program : Program Op Result) (continue_ : Result → Program Op Other) (world : World) :
    (program.bind continue_).execute serve world =
      (continue_ (program.execute serve world).1).execute serve
        (program.execute serve world).2 := by
  induction program generalizing world with
  | done result => rfl
  | issue operation next ih => exact ih _ _

/-- Whatever the replies, the program issues no other operations than the `allowed` ones. -/
def Emits (allowed : ∀ {Reply : Type}, Op Reply → Prop) : Program Op Result → Prop
  | .done _ => True
  | .issue operation next => allowed operation ∧ ∀ reply, (next reply).Emits allowed

variable {allowed : ∀ {Reply : Type}, Op Reply → Prop} {program : Program Op Result}
  {implement : ∀ {Reply : Type}, Op Reply → Program Inner Reply}

theorem Emits.bind {next : Result → Program Op Other} (first : program.Emits allowed)
    (rest : ∀ result, (next result).Emits allowed) : (program.bind next).Emits allowed := by
  induction program with
  | done result => exact rest result
  | issue operation continue_ ih => exact ⟨first.1, fun reply => ih reply (first.2 reply)⟩

theorem Emits.mono {weaker : ∀ {Reply : Type}, Op Reply → Prop} (emits : program.Emits allowed)
    (implies : ∀ {Reply : Type} (operation : Op Reply), allowed operation → weaker operation) :
    program.Emits weaker := by
  induction program with
  | done result => exact trivial
  | issue operation next ih =>
    exact ⟨implies operation emits.1, fun reply => ih reply (emits.2 reply)⟩

variable {allowed : ∀ {Reply : Type}, Inner Reply → Prop}

theorem Emits.implemented {outer : ∀ {Reply : Type}, Op Reply → Prop} (emits : program.Emits outer)
    (implements : ∀ {Reply : Type} (operation : Op Reply), outer operation →
      (implement operation).Emits allowed) : (program.interpret implement).Emits allowed := by
  induction program with
  | done result => exact trivial
  | issue operation next ih =>
    exact (implements operation emits.1).bind fun reply => ih reply (emits.2 reply)

theorem emits_any (program : Program Op Result) : program.Emits fun _ => True := by
  induction program with
  | done result => exact trivial
  | issue operation next ih => exact ⟨trivial, ih⟩

theorem Emits.interpret
    (implements : ∀ {Reply : Type} (operation : Op Reply), (implement operation).Emits allowed)
    (program : Program Op Result) : (program.interpret implement).Emits allowed :=
  (emits_any program).implemented fun operation _ => implements operation

end Program

/-- What a program may assume about the world it runs in. -/
structure Machine (Op : Type → Type u) (World Mark : Type) where
  /-- `serve operation before reply after marks`: one atomic execution of the operation.  The
  marks go into the log of the program that issued it. -/
  serve : ∀ {Reply : Type}, Op Reply → World → Reply → World → List Mark → Prop
  /-- The moves of the environment between two operations of the program. -/
  rely : World → World → Prop
  rely_refl : ∀ world, rely world world
  rely_trans : ∀ {first second third}, rely first second → rely second third → rely first third

namespace Machine

variable {Op : Type → Type u} {Inner : Type → Type v} {World Mark Result Other Failure : Type}
  (machine : Machine Op World Mark)

/-- `Follows program world log rest world' log'`: started in `world` with `log`, the program may
have reached `rest` in `world'` with `log'`. -/
inductive Follows (program : Program Op Result) (world : World) (log : List Mark) :
    Program Op Result → World → List Mark → Prop where
  | start {later : World} (moved : machine.rely world later) :
      Follows program world log program later log
  | step {Reply : Type} {operation : Op Reply} {next : Reply → Program Op Result}
      {before after later : World} {reply : Reply} {sofar marks : List Mark}
      (reached : Follows program world log (.issue operation next) before sofar)
      (served : machine.serve operation before reply after marks)
      (moved : machine.rely after later) :
      Follows program world log (next reply) later (sofar ++ marks)

/-- The condition under which an operation may be issued. -/
abbrev Guard (Op : Type → Type u) (World Mark : Type) : Type (max 1 u) :=
  ∀ {Reply : Type}, Op Reply → World → List Mark → Prop

/-- Every operation of the program is issued under `guard`, and the program can only stop in
`post`, whatever the environment does. -/
def Safe (guard : Guard Op World Mark) (post : Result → World → List Mark → Prop) :
    Program Op Result → World → List Mark → Prop
  | .done result, world, log => ∀ later, machine.rely world later → post result later log
  | .issue operation next, world, log => ∀ before, machine.rely world before →
      guard operation before log ∧
        ∀ reply after marks, machine.serve operation before reply after marks →
          Safe guard post (next reply) after (log ++ marks)

variable {machine} {guard : Guard Op World Mark} {post : Result → World → List Mark → Prop}
  {program : Program Op Result} {world : World} {log : List Mark} {later : World}
  {post' : Result → World → List Mark → Prop} {next : Result → Program Op Other}
  {rest : Program Op Result} {log' : List Mark} {allowed : ∀ {Reply : Type}, Op Reply → Prop}
  {fact : Program Op Result → World → Prop}

theorem Safe.moved (safe : machine.Safe guard post program world log)
    (moved : machine.rely world later) : machine.Safe guard post program later log := by
  cases program with
  | done result => exact fun final further => safe final (machine.rely_trans moved further)
  | issue operation next =>
    exact fun before further => safe before (machine.rely_trans moved further)

theorem Follows.moved {further : World}
    (reached : machine.Follows program world log rest later log')
    (moved : machine.rely later further) : machine.Follows program world log rest further log' := by
  cases reached with
  | start before => exact .start (machine.rely_trans before moved)
  | step sofar served before => exact .step sofar served (machine.rely_trans before moved)

theorem Safe.follows (safe : machine.Safe guard post program world log)
    (reached : machine.Follows program world log rest later log') :
    machine.Safe guard post rest later log' := by
  induction reached with
  | start moved => exact safe.moved moved
  | step _ served moved ih =>
    exact ((ih _ (machine.rely_refl _)).2 _ _ _ served).moved moved

theorem Follows.head {Reply : Type} {operation : Op Reply} {next : Reply → Program Op Result}
    {before after : World} {reply : Reply} {marks : List Mark} (moved : machine.rely world before)
    (served : machine.serve operation before reply after marks)
    (reached : machine.Follows (next reply) after (log ++ marks) rest later log') :
    machine.Follows (.issue operation next) world log rest later log' := by
  induction reached with
  | start further => exact .step (.start moved) served further
  | step _ servedNext further ih => exact .step ih servedNext further

theorem safe_iff_follows : machine.Safe guard post program world log ↔
      (∀ {Reply : Type} (operation : Op Reply) next later log',
        machine.Follows program world log (.issue operation next) later log' →
          guard operation later log') ∧
      (∀ result later log', machine.Follows program world log (.done result) later log' →
        post result later log') := by
  constructor
  · intro safe
    constructor
    · intro Reply operation next later log' reached
      exact ((safe.follows reached) later (machine.rely_refl later)).1
    · intro result later log' reached
      exact safe.follows reached later (machine.rely_refl later)
  · rintro ⟨guards, posts⟩
    induction program generalizing world log with
    | done result => exact fun later moved => posts result later log (.start moved)
    | issue operation next ih =>
      intro before moved
      refine ⟨guards operation next before log (.start moved), ?_⟩
      intro reply after marks served
      apply ih reply
      · intro Reply operation' next' later log' reached
        exact guards operation' next' later log' (.head moved served reached)
      · intro result later log' reached
        exact posts result later log' (.head moved served reached)

theorem Safe.mono {weaker : Guard Op World Mark} (safe : machine.Safe guard post program world log)
    (guards : ∀ {Reply : Type} (operation : Op Reply) world log,
      guard operation world log → weaker operation world log)
    (posts : ∀ result world log, post result world log → post' result world log) :
    machine.Safe weaker post' program world log := by
  rw [safe_iff_follows] at safe ⊢
  exact ⟨fun operation next later log' reached => guards _ _ _ (safe.1 operation next _ _ reached),
    fun result later log' reached => posts _ _ _ (safe.2 result _ _ reached)⟩

theorem Safe.lasting (safe : machine.Safe guard post program world log) :
    machine.Safe guard (fun result world log => ∀ later, machine.rely world later →
      post result later log) program world log := by
  rw [safe_iff_follows] at safe ⊢
  exact ⟨safe.1, fun result later log' reached final further =>
    safe.2 result final log' (reached.moved further)⟩

theorem Safe.bind {post : Other → World → List Mark → Prop}
    (safe : machine.Safe guard (fun result world log => machine.Safe guard post (next result)
      world log) program world log) : machine.Safe guard post (program.bind next) world log := by
  induction program generalizing world log with
  | done result => exact safe world (machine.rely_refl world)
  | issue operation rest ih =>
    intro before moved
    obtain ⟨allowed, continues⟩ := safe before moved
    exact ⟨allowed, fun reply after marks served => ih reply (continues reply after marks served)⟩

theorem Safe.except_bind {first : ExceptT Failure (Program Op) Result}
    {next : Result → ExceptT Failure (Program Op) Other}
    {post : Except Failure Other → World → List Mark → Prop}
    (safe : machine.Safe guard (fun outcome world log =>
      match outcome with
      | .ok result => machine.Safe guard post (next result).run world log
      | .error failure => machine.Safe guard post (.done (.error failure)) world log)
        first.run world log) : machine.Safe guard post (first >>= next).run world log := by
  apply Safe.bind
  refine safe.mono (fun _ _ _ allowed => allowed) ?_
  intro outcome later marks reached
  cases outcome with
  | ok result | error failure => exact reached

section

variable (reached : machine.Follows program world log rest later log')
include reached

theorem Follows.relied
    (relies : ∀ {Reply : Type} {operation : Op Reply} {before after : World} {reply : Reply}
      {marks : List Mark}, machine.serve operation before reply after marks →
        machine.rely before after) : machine.rely world later := by
  induction reached with
  | start moved => exact moved
  | step _ served moved ih =>
    exact machine.rely_trans ih (machine.rely_trans (relies served) moved)

theorem Follows.emits (emits : program.Emits allowed) : rest.Emits allowed := by
  induction reached with
  | start moved => exact emits
  | step _ served moved ih => exact ih.2 _

theorem Follows.unmarked (emits : program.Emits allowed)
    (silent : ∀ {Reply : Type} {operation : Op Reply} {before after : World} {reply : Reply}
      {marks : List Mark}, allowed operation → machine.serve operation before reply after marks →
        marks = []) : log' = log := by
  induction reached with
  | start moved => rfl
  | step sofar served moved ih =>
    have allowed := (sofar.emits emits).1
    rw [ih, silent allowed served, List.append_nil]

theorem Follows.of_log :
    ∃ marks, log' = log ++ marks ∧ machine.Follows program world [] rest later marks := by
  induction reached with
  | start moved => exact ⟨[], (List.append_nil log).symm, .start moved⟩
  | @step _ _ _ _ _ _ _ _ added _ served moved ih =>
    obtain ⟨written, rfl, fromEmpty⟩ := ih
    exact ⟨written ++ added, List.append_assoc _ _ _, .step fromEmpty served moved⟩

end

theorem safe_of_emits_while (fact : World → Prop) (emits : program.Emits allowed)
    (relies : ∀ {before after : World}, machine.rely before after → fact before → fact after)
    (serves : ∀ {Reply : Type} {operation : Op Reply} {before after : World} {reply : Reply}
      {marks : List Mark}, machine.serve operation before reply after marks → fact before →
        fact after) (allows : ∀ {Reply : Type} (operation : Op Reply) world log,
      allowed operation → fact world → guard operation world log) (holds : fact world) :
    machine.Safe guard (fun _ _ _ => True) program world log := by
  induction program generalizing world log with
  | done result => exact fun _ _ => trivial
  | issue operation next ih =>
    intro before moved
    have still := relies moved holds
    exact ⟨allows operation before log emits.1 still, fun reply after marks served =>
      ih reply (emits.2 reply) (serves served still)⟩

theorem safe_of_emits (emits : program.Emits allowed)
    (allows : ∀ {Reply : Type} (operation : Op Reply) world log,
      allowed operation → guard operation world log) :
    machine.Safe guard (fun _ _ _ => True) program world log :=
  safe_of_emits_while (fun _ => True) emits (fun _ _ => trivial) (fun _ _ => trivial)
    (fun operation world log permitted _ => allows operation world log permitted) trivial

theorem follows_execute {serve : ∀ {Reply : Type}, Op Reply → World → Reply × World}
    (serves : ∀ {Reply : Type} (operation : Op Reply) (world : World), ∃ marks,
      machine.serve operation world (serve operation world).1 (serve operation world).2 marks) :
    ∃ log', machine.Follows program world log (.done (program.execute serve world).1)
      (program.execute serve world).2 log' := by
  induction program generalizing world log with
  | done result => exact ⟨log, .start (machine.rely_refl world)⟩
  | issue operation next ih =>
    obtain ⟨marks, served⟩ := serves operation world
    obtain ⟨log', reached⟩ := ih (serve operation world).1
    exact ⟨log', .head (machine.rely_refl world) served reached⟩

theorem Safe.and {other : Guard Op World Mark} (safe : machine.Safe guard post program world log)
    (also : machine.Safe other post' program world log) :
    machine.Safe guard (fun result world log => post result world log ∧ post' result world log)
      program world log := by
  rw [safe_iff_follows] at safe also ⊢
  exact ⟨safe.1, fun result later log' reached =>
    ⟨safe.2 result later log' reached, also.2 result later log' reached⟩⟩

/-- What every guarded operation and every move of the environment keep holds of the world and the
log wherever a safe program has got to. -/
theorem Safe.keeps (fact : World → List Mark → Prop)
    (safe : machine.Safe guard post program world log)
    (reached : machine.Follows program world log rest later log')
    (relies : ∀ {before after : World} {sofar : List Mark}, machine.rely before after →
      fact before sofar → fact after sofar)
    (serves : ∀ {Reply : Type} {operation : Op Reply} {before after : World} {reply : Reply}
      {sofar marks : List Mark}, guard operation before sofar →
      machine.serve operation before reply after marks → fact before sofar →
      fact after (sofar ++ marks)) (holds : fact world log) : fact later log' := by
  induction reached with
  | start moved => exact relies moved holds
  | step sofar served moved ih =>
    have allowed := (safe_iff_follows.mp safe).1 _ _ _ _ sofar
    exact relies moved (serves allowed served ih)

/-- The fact holds wherever the program may have got to.  Unlike a guard, it sees what is left of the
program. -/
def Always (machine : Machine Op World Mark) (fact : Program Op Result → World → Prop) :
    Program Op Result → World → Prop
  | .done result, world => ∀ later, machine.rely world later → fact (.done result) later
  | .issue operation next, world => ∀ before, machine.rely world before →
      fact (.issue operation next) before ∧
        ∀ reply after marks, machine.serve operation before reply after marks →
          Always machine fact (next reply) after

theorem Always.moved (always : machine.Always fact program world) (moved : machine.rely world later) :
    machine.Always fact program later := by
  cases program with
  | done result => exact fun final further => always final (machine.rely_trans moved further)
  | issue operation next =>
    exact fun before further => always before (machine.rely_trans moved further)

theorem Always.follows (always : machine.Always fact program world)
    (reached : machine.Follows program world log rest later log') :
    machine.Always fact rest later := by
  induction reached with
  | start moved => exact always.moved moved
  | step _ served moved ih =>
    exact ((ih _ (machine.rely_refl _)).2 _ _ _ served).moved moved

theorem Always.bind {fact : Program Op Other → World → Prop}
    (safe : machine.Safe guard (fun result world _ => machine.Always fact (next result) world)
      program world log) (passes : ∀ {Reply : Type} (operation : Op Reply) continue_ world log,
      guard operation world log → fact (.issue operation continue_) world) :
    machine.Always fact (program.bind next) world := by
  induction program generalizing world log with
  | done result => exact safe world (machine.rely_refl world)
  | issue operation rest ih =>
    intro before moved
    obtain ⟨allowed, continues⟩ := safe before moved
    exact ⟨passes operation _ before log allowed, fun reply after marks served =>
      ih reply (continues reply after marks served)⟩

theorem Safe.restrict {calmer : Machine Op World Mark}
    (safe : machine.Safe guard post program world log)
    (serves : ∀ {Reply : Type} {operation : Op Reply} {before after : World} {reply : Reply}
      {marks : List Mark}, calmer.serve operation before reply after marks →
        machine.serve operation before reply after marks)
    (relies : ∀ {before after : World}, calmer.rely before after → machine.rely before after) :
    calmer.Safe guard post program world log := by
  induction program generalizing world log with
  | done result => exact fun later moved => safe later (relies moved)
  | issue operation next ih =>
    intro before moved
    obtain ⟨allowed, rest⟩ := safe before (relies moved)
    exact ⟨allowed, fun reply after marks served =>
      ih reply (rest reply after marks (serves served))⟩

/-- The machine that gives no other replies than these. -/
def answering (machine : Machine Op World Mark)
    (replies : ∀ {Reply : Type}, Op Reply → Reply → Prop) : Machine Op World Mark where
  serve operation before reply after marks :=
    machine.serve operation before reply after marks ∧ replies operation reply
  rely := machine.rely
  rely_refl := machine.rely_refl
  rely_trans := machine.rely_trans

/-- The machine whose operations are whole programs of another machine, environment moves
between their own operations included. -/
def through (inner : Machine Inner World Mark)
    (implement : ∀ {Reply : Type}, Op Reply → Program Inner Reply) : Machine Op World Mark where
  serve operation before reply after marks :=
    inner.Follows (implement operation) before [] (.done reply) after marks
  rely := inner.rely
  rely_refl := inner.rely_refl
  rely_trans := inner.rely_trans

/-- A program proved safe against the implementations of its operations is safe once they are
substituted. -/
theorem Safe.interpret {inner : Machine Inner World Mark} {guardInner : Guard Inner World Mark}
    {implement : ∀ {Reply : Type}, Op Reply → Program Inner Reply}
    (implements : ∀ {Reply : Type} (operation : Op Reply) world log, guard operation world log →
      inner.Safe guardInner (fun _ _ _ => True) (implement operation) world log)
    (safe : (inner.through implement).Safe guard post program world log) :
    inner.Safe guardInner post (program.interpret implement) world log := by
  induction program generalizing world log with
  | done result => exact safe
  | issue operation next ih =>
    obtain ⟨allowed, continues⟩ := safe world (inner.rely_refl world)
    apply Safe.bind
    rw [safe_iff_follows]
    constructor
    · intro Reply operation' next' later log' reached
      exact (safe_iff_follows.mp (implements operation world log allowed)).1 _ _ _ _ reached
    · intro reply later log' reached
      obtain ⟨marks, rfl, fromEmpty⟩ := reached.of_log
      exact ih reply (continues reply later marks fromEmpty)

end Machine

end Resumption
