import Crabedence.Resumption.Program

/-!
# Interleaved threads over one world

A pool is a world and a list of threads, each a program with the log it has written so far.  A step
lets the environment move, starts a new thread, or serves the next operation of one thread.  A
crashed thread is one that is never run again, so crashes need no step of their own.

`Pool.Reaches.thread` connects the pool to the view of a single program: whatever the other threads
did in between, every thread has followed its own program.
-/

namespace Resumption

universe u v

structure Thread (Op : Type → Type u) (Label : Type v) (Result Mark : Type) :
    Type (max 1 u v) where
  label : Label
  program : Program Op Result
  log : List Mark

structure Pool (Op : Type → Type u) (World : Type) (Label : Type v) (Result Mark : Type) :
    Type (max 1 u v) where
  world : World
  threads : List (Thread Op Label Result Mark)

/-- What a pool runs: the machine that serves operations, the moves of the environment, the
program of each label and the labels that may be started. -/
structure Scheduler (Op : Type → Type u) (World : Type) (Label : Type v) (Result Mark : Type) where
  machine : Machine Op World Mark
  drift : World → World → Prop
  programs : Label → Program Op Result
  admitted : Label → Prop
  drift_relied : ∀ {before after}, drift before after → machine.rely before after
  serve_relied : ∀ {Reply : Type} {operation : Op Reply} {before after : World} {reply : Reply}
    {marks : List Mark}, machine.serve operation before reply after marks →
      machine.rely before after

namespace Machine

variable {Op : Type → Type u} {World Mark Result : Type} {machine : Machine Op World Mark}
  {rest : Program Op Result} {world later : World} {log log' : List Mark}

theorem Follows.of_done {result : Result}
    (reached : machine.Follows (.done result) world log rest later log') : rest = .done result := by
  induction reached with
  | start moved => rfl
  | step _ served moved ih => cases ih

end Machine

namespace Pool

variable {Op : Type → Type u} {World : Type} {Label : Type v} {Result Mark : Type}

inductive Step (scheduler : Scheduler Op World Label Result Mark) :
    Pool Op World Label Result Mark → Pool Op World Label Result Mark → Prop where
  | drift {pool : Pool Op World Label Result Mark} {later : World}
      (moved : scheduler.drift pool.world later) :
      Step scheduler pool { pool with world := later }
  | spawn {pool : Pool Op World Label Result Mark} (label : Label)
      (admitted : scheduler.admitted label) :
      Step scheduler pool
        { pool with threads := pool.threads ++ [⟨label, scheduler.programs label, []⟩] }
  | run {pool : Pool Op World Label Result Mark} {index : Nat} {label : Label} {Reply : Type}
      {operation : Op Reply} {next : Reply → Program Op Result} {log marks : List Mark}
      {reply : Reply} {after : World}
      (scheduled : pool.threads[index]? = some ⟨label, .issue operation next, log⟩)
      (served : scheduler.machine.serve operation pool.world reply after marks) :
      Step scheduler pool
        ⟨after, pool.threads.set index ⟨label, next reply, log ++ marks⟩⟩

def history (pool : Pool Op World Label Result Mark) : List Mark :=
  pool.threads.flatMap Thread.log

/-- A finite interleaving. -/
abbrev Reaches (scheduler : Scheduler Op World Label Result Mark) :
    Pool Op World Label Result Mark → Pool Op World Label Result Mark → Prop :=
  Relation.ReflTransGen (Step scheduler)

variable {scheduler : Scheduler Op World Label Result Mark}
  {pool later : Pool Op World Label Result Mark} {index : Nat}

theorem history_split {thread : Thread Op Label Result Mark}
    (found : pool.threads[index]? = some thread) :
    pool.history = (pool.threads.take index).flatMap Thread.log ++
      (thread.log ++ (pool.threads.drop (index + 1)).flatMap Thread.log) := by
  obtain ⟨inside, same⟩ := List.getElem?_eq_some_iff.mp found
  have split : pool.threads =
      pool.threads.take index ++ thread :: pool.threads.drop (index + 1) := by
    rw [← same, List.getElem_cons_drop, List.take_append_drop]
  have logs := congrArg (List.flatMap Thread.log) split
  rw [List.flatMap_append, List.flatMap_cons] at logs
  exact logs

variable {label : Label} {log marks : List Mark}

theorem history_run {program rest : Program Op Result} {after : World}
    (scheduled : pool.threads[index]? = some ⟨label, program, log⟩) :
    (history (⟨after, pool.threads.set index ⟨label, rest, log ++ marks⟩⟩ :
      Pool Op World Label Result Mark)).Perm (pool.history ++ marks) := by
  have inside := (List.getElem?_eq_some_iff.mp scheduled).1
  rw [history_split scheduled]
  unfold history
  rw [List.set_eq_take_append_cons_drop, if_pos inside, List.flatMap_append, List.flatMap_cons]
  simp only [List.append_assoc]
  apply List.Perm.append_left
  apply List.Perm.append_left
  exact List.perm_append_comm

theorem countP_two_le (counted : Mark → Bool) {first second : Nat}
    {left right : Thread Op Label Result Mark} (leftFound : pool.threads[first]? = some left)
    (rightFound : pool.threads[second]? = some right) (apart : first < second) :
    left.log.countP counted + right.log.countP counted ≤ pool.history.countP counted := by
  have beyond : right ∈ pool.threads.drop (first + 1) := by
    have position : (pool.threads.drop (first + 1))[second - (first + 1)]? = some right := by
      rw [List.getElem?_drop, show first + 1 + (second - (first + 1)) = second by omega]
      exact rightFound
    exact List.mem_of_getElem? position
  have counts : right.log.countP counted ≤
      ((pool.threads.drop (first + 1)).flatMap Thread.log).countP counted := by
    apply List.Sublist.countP_le
    exact List.sublist_flatten_of_mem (List.mem_map_of_mem beyond)
  rw [history_split leftFound, List.countP_append, List.countP_append]
  omega

theorem countP_history_le {counted bounding : Mark → Bool}
    (each : ∀ thread ∈ pool.threads, thread.log.countP counted ≤ thread.log.countP bounding) :
    pool.history.countP counted ≤ pool.history.countP bounding := by
  obtain ⟨world, threads⟩ := pool
  show (threads.flatMap Thread.log).countP counted ≤ (threads.flatMap Thread.log).countP bounding
  replace each : ∀ thread ∈ threads, _ := each
  induction threads with
  | nil => exact Nat.le_refl _
  | cons thread rest ih =>
    rw [List.flatMap_cons, List.countP_append, List.countP_append]
    have first := each thread List.mem_cons_self
    have others := ih fun other member => each other (List.mem_cons_of_mem _ member)
    omega

theorem Step.relied (step : Step scheduler pool later) :
    scheduler.machine.rely pool.world later.world := by
  cases step with
  | drift moved => exact scheduler.drift_relied moved
  | spawn label admitted => exact scheduler.machine.rely_refl _
  | run scheduled served => exact scheduler.serve_relied served

theorem Reaches.relied (reaches : Reaches scheduler pool later) :
    scheduler.machine.rely pool.world later.world := by
  induction reaches with
  | refl => exact scheduler.machine.rely_refl _
  | tail _ step ih => exact scheduler.machine.rely_trans ih step.relied

theorem Reaches.grows (reaches : Reaches scheduler pool later) :
    pool.threads.length ≤ later.threads.length := by
  induction reaches with
  | refl => exact Nat.le_refl _
  | tail _ step ih => cases step <;> simpa using Nat.le_trans ih (by simp)

/-- How a thread of a later pool came about: it was there before and followed its program, or it
was started in between. -/
inductive Descends (scheduler : Scheduler Op World Label Result Mark)
    (pool later : Pool Op World Label Result Mark) (index : Nat) :
    Thread Op Label Result Mark → Prop where
  | continued {earlier thread : Thread Op Label Result Mark}
      (found : pool.threads[index]? = some earlier) (sameLabel : thread.label = earlier.label)
      (follows : scheduler.machine.Follows earlier.program pool.world earlier.log thread.program
        later.world thread.log) :
      Descends scheduler pool later index thread
  | started {thread : Thread Op Label Result Mark} {start : World}
      (beyond : pool.threads.length ≤ index) (admitted : scheduler.admitted thread.label)
      (since : scheduler.machine.rely pool.world start)
      (follows : scheduler.machine.Follows (scheduler.programs thread.label) start []
        thread.program later.world thread.log) :
      Descends scheduler pool later index thread

theorem Descends.moved {further : Pool Op World Label Result Mark}
    {thread : Thread Op Label Result Mark} (descends : Descends scheduler pool later index thread)
    (moved : scheduler.machine.rely later.world further.world) :
    Descends scheduler pool further index thread := by
  cases descends with
  | continued found sameLabel follows => exact .continued found sameLabel (follows.moved moved)
  | started beyond admitted since follows => exact .started beyond admitted since (follows.moved moved)

/-- What holds of a thread when it is started or already there, and is kept by its own steps and by
those of the others, holds of it later on. -/
theorem Reaches.thread_induct
    (fact : Pool Op World Label Result Mark → Thread Op Label Result Mark → Prop)
    (reaches : Reaches scheduler pool later) {thread : Thread Op Label Result Mark}
    (found : later.threads[index]? = some thread)
    (present : ∀ thread, pool.threads[index]? = some thread → fact pool thread)
    (spawned : ∀ {middle : Pool Op World Label Result Mark} {label : Label},
      Reaches scheduler pool middle → pool.threads.length ≤ index → scheduler.admitted label →
      fact middle ⟨label, scheduler.programs label, []⟩)
    (others : ∀ {middle final : Pool Op World Label Result Mark} {thread : Thread Op Label Result Mark},
      Step scheduler middle final → fact middle thread → fact final thread)
    (own : ∀ {middle final : Pool Op World Label Result Mark} {label : Label} {Reply : Type}
      {operation : Op Reply} {next : Reply → Program Op Result} {log marks : List Mark}
      {reply : Reply}, Reaches scheduler pool middle → Step scheduler middle final →
      scheduler.machine.serve operation middle.world reply final.world marks →
      fact middle ⟨label, .issue operation next, log⟩ → fact final ⟨label, next reply, log ++ marks⟩) :
    fact later thread := by
  induction reaches generalizing thread with
  | refl => exact present thread found
  | @tail middle final earlier step ih =>
    have stepped := step
    cases step with
    | drift moved => exact others stepped (ih found)
    | spawn label admitted =>
      by_cases old : index < middle.threads.length
      · rw [List.getElem?_append_left old] at found
        exact others stepped (ih found)
      · rw [List.getElem?_append_right (Nat.le_of_not_lt old)] at found
        cases List.mem_singleton.mp (List.mem_of_getElem? found)
        exact others stepped (spawned earlier
          (Nat.le_trans (Reaches.grows earlier) (Nat.le_of_not_lt old)) admitted)
    | @run position label _ operation next log marks reply after scheduled served =>
      by_cases same : position = index
      · subst same
        have inside := (List.getElem?_eq_some_iff.mp scheduled).1
        rw [List.getElem?_set_self inside, Option.some_inj] at found
        subst found
        exact own earlier stepped served (ih scheduled)
      · rw [List.getElem?_set_ne same] at found
        exact others stepped (ih found)

theorem Reaches.thread (reaches : Reaches scheduler pool later)
    {thread : Thread Op Label Result Mark} (found : later.threads[index]? = some thread) :
    Descends scheduler pool later index thread := by
  refine Reaches.thread_induct (fun later thread => Descends scheduler pool later index thread)
    reaches found ?_ ?_ ?_ ?_
  · exact fun thread found => .continued found rfl (.start (scheduler.machine.rely_refl _))
  · exact fun earlier beyond admitted =>
      .started beyond admitted (Reaches.relied earlier) (.start (scheduler.machine.rely_refl _))
  · exact fun step descends => descends.moved step.relied
  · intro middle final label Reply operation next log marks reply earlier step served descends
    cases descends with
    | continued before sameLabel follows =>
      exact .continued before sameLabel (.step follows served (scheduler.machine.rely_refl _))
    | started beyond admitted since follows =>
      exact .started beyond admitted since (.step follows served (scheduler.machine.rely_refl _))

variable {thread : Thread Op Label Result Mark}

theorem Reaches.started (reaches : Reaches scheduler pool later)
    (found : later.threads[index]? = some thread) (beyond : pool.threads.length ≤ index) :
    ∃ start, scheduler.machine.rely pool.world start ∧
      scheduler.machine.Follows (scheduler.programs thread.label) start [] thread.program
        later.world thread.log := by
  cases Reaches.thread reaches found with
  | continued earlier sameLabel follows =>
    have inside := (List.getElem?_eq_some_iff.mp earlier).1
    omega
  | started _ admitted since follows => exact ⟨_, since, follows⟩

variable {Reply : Type}

section Guarded

variable {guard : Machine.Guard Op World Mark} {post : Result → World → List Mark → Prop}

theorem Reaches.guarded (reaches : Reaches scheduler pool later)
    (safe : ∀ label start, scheduler.admitted label → scheduler.machine.rely pool.world start →
      scheduler.machine.Safe guard post (scheduler.programs label) start []) {operation : Op Reply}
    {next : Reply → Program Op Result} (beyond : pool.threads.length ≤ index)
    (scheduled : later.threads[index]? = some ⟨label, .issue operation next, log⟩) :
    guard operation later.world log := by
  cases Reaches.thread reaches scheduled with
  | continued earlier sameLabel follows =>
    have inside := (List.getElem?_eq_some_iff.mp earlier).1
    omega
  | started _ admitted since follows =>
    exact (Machine.safe_iff_follows.mp (safe label _ admitted since)).1 _ _ _ _ follows

variable (fact : World → Prop)

/-- What guarded operations keep holds later on, if it holds at some point of a run from an empty
pool. -/
theorem Reaches.preserves {middle : Pool Op World Label Result Mark}
    (earlier : Reaches scheduler pool middle) (reaches : Reaches scheduler middle later)
    (idle : pool.threads = [])
    (safe : ∀ label start, scheduler.admitted label → scheduler.machine.rely pool.world start →
      scheduler.machine.Safe guard post (scheduler.programs label) start [])
    (drifts : ∀ {before after}, scheduler.drift before after → fact before → fact after)
    (serves : ∀ {Reply : Type} {operation : Op Reply} {before after : World} {reply : Reply}
      {marks log : List Mark}, guard operation before log →
      scheduler.machine.serve operation before reply after marks → fact before → fact after)
    (holds : fact middle.world) : fact later.world := by
  induction reaches with
  | refl => exact holds
  | tail sofar step ih =>
    cases step with
    | drift moved => exact drifts moved ih
    | spawn label admitted => exact ih
    | run scheduled served =>
      have empty : pool.threads.length = 0 := List.length_eq_zero_iff.mpr idle
      exact serves (Reaches.guarded (earlier.trans sofar) safe (by omega) scheduled) served ih

end Guarded

/-- The first operation of the thread was served at some point of the run, and the thread went on
from there. -/
def Served (scheduler : Scheduler Op World Label Result Mark)
    (pool later : Pool Op World Label Result Mark) (operation : Op Reply)
    (next : Reply → Program Op Result) (thread : Thread Op Label Result Mark) : Prop :=
  ∃ moment reply after marks, Reaches scheduler pool moment ∧ Reaches scheduler moment later ∧
    scheduler.machine.serve operation moment.world reply after marks ∧
    ∃ log, scheduler.machine.Follows (next reply) after log thread.program later.world thread.log

theorem Reaches.served_first (reaches : Reaches scheduler pool later)
    (found : later.threads[index]? = some thread) (beyond : pool.threads.length ≤ index)
    {operation : Op Reply} {next : Reply → Program Op Result}
    (first : scheduler.programs thread.label = .issue operation next) :
    thread.program = .issue operation next ∨ Served scheduler pool later operation next thread := by
  revert first
  refine Reaches.thread_induct (fun later thread =>
    scheduler.programs thread.label = .issue operation next → thread.program = .issue operation next ∨
      Served scheduler pool later operation next thread) reaches found ?_ ?_ ?_ ?_
  · intro thread found
    have inside := (List.getElem?_eq_some_iff.mp found).1
    omega
  · exact fun _ _ _ first => .inl first
  · intro middle final thread step held first
    rcases held first with waiting | ⟨moment, reply, after, marks, sofar, since, served, log, follows⟩
    · exact .inl waiting
    · exact .inr ⟨moment, reply, after, marks, sofar, since.tail step, served, log,
        follows.moved step.relied⟩
  · intro middle final label _ current rest log marks reply earlier step served held first
    rcases held first with
      waiting | ⟨moment, answer, start, written, sofar, since, answered, log', follows⟩
    · cases waiting
      exact .inr ⟨middle, reply, _, marks, earlier, .single step, served, _,
        .start (scheduler.machine.rely_refl _)⟩
    · exact .inr ⟨moment, answer, start, written, sofar, since.tail step, answered, log',
        .step follows served (scheduler.machine.rely_refl _)⟩

/-- The mark was written at some point of the run. -/
def Marked (scheduler : Scheduler Op World Label Result Mark)
    (pool later : Pool Op World Label Result Mark) (mark : Mark) : Prop :=
  ∃ (Reply : Type) (operation : Op Reply) (reply : Reply) (marks : List Mark)
    (moment after : Pool Op World Label Result Mark), Reaches scheduler pool moment ∧
      Step scheduler moment after ∧ Reaches scheduler after later ∧
      scheduler.machine.serve operation moment.world reply after.world marks ∧ mark ∈ marks

theorem Reaches.marked (reaches : Reaches scheduler pool later)
    (found : later.threads[index]? = some thread) (beyond : pool.threads.length ≤ index)
    {mark : Mark} : mark ∈ thread.log → Marked scheduler pool later mark := by
  refine Reaches.thread_induct (fun later thread =>
    mark ∈ thread.log → Marked scheduler pool later mark) reaches found ?_ ?_ ?_ ?_
  · intro thread found
    have inside := (List.getElem?_eq_some_iff.mp found).1
    omega
  · exact fun _ _ _ noted => absurd noted List.not_mem_nil
  · intro middle final thread step held noted
    obtain ⟨Reply, operation, reply, marks, moment, after, sofar, stepped, since, written⟩ := held noted
    exact ⟨Reply, operation, reply, marks, moment, after, sofar, stepped, since.tail step, written⟩
  · intro middle final label Reply operation next log marks reply earlier step served held noted
    rcases List.mem_append.mp noted with before | now
    · obtain ⟨_, _, _, _, moment, after, sofar, stepped, since, written⟩ := held before
      exact ⟨_, _, _, _, moment, after, sofar, stepped, since.tail step, written⟩
    · exact ⟨Reply, operation, reply, marks, middle, final, earlier, step, .refl, served, now⟩

/-- One thread goes on. -/
theorem Reaches.served {world after : World} {operation : Op Reply}
    {next : Reply → Program Op Result} {threads : List (Thread Op Label Result Mark)}
    (reaches : Reaches scheduler pool ⟨world, threads⟩) (index : Nat)
    (scheduled : threads[index]? = some ⟨label, .issue operation next, log⟩) (reply : Reply)
    (served : scheduler.machine.serve operation world reply after marks) :
    Reaches scheduler pool ⟨after, threads.set index ⟨label, next reply, log ++ marks⟩⟩ :=
  reaches.tail (.run scheduled served)

/-- What every served operation keeps of the world and the history holds throughout every run from
an empty pool. -/
theorem Reaches.recorded (fact : World → List Mark → Prop) (reaches : Reaches scheduler pool later)
    (idle : pool.threads = [])
    (reorders : ∀ {world : World} {marks other : List Mark}, marks.Perm other → fact world marks →
      fact world other)
    (drifts : ∀ {before after : World} {marks : List Mark}, scheduler.drift before after →
      fact before marks → fact after marks)
    (serves : ∀ {Reply : Type} {operation : Op Reply} {before after : World} {reply : Reply}
      {sofar marks : List Mark}, scheduler.machine.serve operation before reply after marks →
      fact before sofar → fact after (sofar ++ marks))
    (holds : fact pool.world []) : fact later.world later.history := by
  induction reaches with
  | refl =>
    unfold history
    rw [idle]
    exact holds
  | @tail middle final earlier step ih =>
    cases step with
    | drift moved => exact drifts moved ih
    | spawn label admitted =>
      have same : history { middle with threads := middle.threads ++
          [⟨label, scheduler.programs label, []⟩] } = middle.history := by
        unfold history
        rw [List.flatMap_append, List.flatMap_singleton, List.append_nil]
      rw [same]
      exact ih
    | run scheduled served =>
      exact reorders (history_run scheduled).symm (serves served ih)

end Pool

end Resumption
