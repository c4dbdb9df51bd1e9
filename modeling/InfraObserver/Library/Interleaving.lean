import InfraObserver.Library.Prog
import Mathlib.Data.List.Basic

/-!
# Interleaved programs

Threads run programs against one shared state. One step of the whole system
starts a thread, performs the next request of some thread, ends a thread before
its time, or lets the environment change the shared state. A world keeps the
trace of all requests with their answers and with the shared state in which they
were answered.

A discipline says what a thread knows when it issues a request. What it knows is
a function of its own requests and answers, so it can be read off the trace, and
that every program keeps the discipline is proved for the programs alone.
-/

namespace Interleaving

variable {Call Op : Type} {Res : Op → Type} {Shared Choice Env View : Type}

/-- The programs of a system and the meaning of their requests. -/
structure Machine (Call Op : Type) (Res : Op → Type) (Shared Choice Env : Type) where
  program : Call → Prog Op Res Unit
  /-- Answer a request. The choice stands for what the outside decides. -/
  respond : Shared → (op : Op) → Choice → Res op × Shared
  disturb : Shared → Env → Shared

/-- One answered request. -/
structure Entry (Call Op : Type) (Res : Op → Type) (Shared : Type) where
  thread : ℕ
  call : Call
  op : Op
  answer : Res op
  before : Shared

/-- A call in progress. -/
structure Thread (Call Op : Type) (Res : Op → Type) where
  call : Call
  rest : Prog Op Res Unit

/-- The state of the whole system. -/
structure World (Call Op : Type) (Res : Op → Type) (Shared : Type) where
  shared : Shared
  threads : List (Thread Call Op Res)
  trace : List (Entry Call Op Res Shared)

/-- What the scheduler can choose. -/
inductive Action (Call Choice Env : Type)
  | start (call : Call)
  | step (thread : ℕ) (choice : Choice)
  | crash (thread : ℕ)
  | disturb (env : Env)

namespace World

/-- A world in which nothing has run yet. -/
def initial (shared : Shared) : World Call Op Res Shared where
  shared := shared
  threads := []
  trace := []

/-- The request a thread will issue next. -/
def pending (world : World Call Op Res Shared) (thread : ℕ) : Option Op :=
  match world.threads[thread]? with
  | some ⟨_, .call op _⟩ => some op
  | _ => none

/-- The thread has not ended. -/
def Live (world : World Call Op Res Shared) (thread : ℕ) : Prop :=
  (world.pending thread).isSome = true

instance (world : World Call Op Res Shared) (thread : ℕ) : Decidable (world.Live thread) :=
  inferInstanceAs (Decidable (_ = true))

variable {world : World Call Op Res Shared} {thread : ℕ}

theorem live_of_running
    {call : Call}
    {op : Op}
    {rest : Res op → Prog Op Res Unit}
    (running : world.threads[thread]? = some ⟨call, .call op rest⟩) :
    world.Live thread := by
  simp [Live, pending, running]

theorem running_of_pending
    {op : Op}
    (pending : world.pending thread = some op) :
    ∃ call rest, world.threads[thread]? = some ⟨call, .call op rest⟩ := by
  unfold World.pending at pending
  split at pending
  · next call found rest running =>
      obtain rfl := Option.some.inj pending
      exact ⟨call, rest, running⟩
  · cases pending

theorem Live.started
    (live : world.Live thread) :
    thread < world.threads.length := by
  by_contra beyond
  simp [Live, pending, List.getElem?_eq_none (Nat.le_of_not_lt beyond)] at live

theorem live_congr
    {other : World Call Op Res Shared}
    (same : other.threads[thread]? = world.threads[thread]?) :
    other.Live thread ↔ world.Live thread := by
  rw [Live, Live, pending, pending, same]

theorem live_of_crash
    {crashed thread : ℕ}
    (live : ({ world with threads := world.threads.modify crashed fun old =>
      ⟨old.call, .ret ()⟩ } : World Call Op Res Shared).Live thread) :
    world.Live thread := by
  by_cases same : crashed = thread
  · subst same
    simp only [Live, pending, List.getElem?_modify_eq] at live
    cases found : world.threads[crashed]? <;> simp [found] at live
  · rwa [live_congr (List.getElem?_modify_ne _ _ same)] at live

end World

namespace Machine

variable (machine : Machine Call Op Res Shared Choice Env) (world : World Call Op Res Shared)

/-- The world after a thread performed its next request. -/
def performed
    (thread : ℕ)
    (call : Call)
    (op : Op)
    (rest : Res op → Prog Op Res Unit)
    (choice : Choice) : World Call Op Res Shared where
  shared := (machine.respond world.shared op choice).2
  threads := world.threads.set thread
    ⟨call, rest (machine.respond world.shared op choice).1⟩
  trace :=
    ⟨thread, call, op, (machine.respond world.shared op choice).1, world.shared⟩ :: world.trace

/-- One action of the scheduler. An action on a thread that has ended does
nothing. -/
def next : Action Call Choice Env → World Call Op Res Shared
  | .start call =>
      { world with threads := world.threads ++ [⟨call, machine.program call⟩] }
  | .step thread choice =>
      match world.threads[thread]? with
      | some ⟨call, .call op rest⟩ => machine.performed world thread call op rest choice
      | _ => world
  | .crash thread =>
      { world with threads := world.threads.modify thread fun old => ⟨old.call, .ret ()⟩ }
  | .disturb env => { world with shared := machine.disturb world.shared env }

/-- The world after a list of actions. -/
def run (actions : List (Action Call Choice Env)) :
    World Call Op Res Shared :=
  actions.foldl machine.next world

/-- Everything one action can do. -/
inductive Moves (world : World Call Op Res Shared) :
    Action Call Choice Env → World Call Op Res Shared → Prop
  | started (call : Call) :
      Moves world (.start call)
        { world with threads := world.threads ++ [⟨call, machine.program call⟩] }
  | idle (action : Action Call Choice Env) :
      Moves world action world
  | performed
      (thread : ℕ)
      (call : Call)
      (op : Op)
      (rest : Res op → Prog Op Res Unit)
      (choice : Choice)
      (running : world.threads[thread]? = some ⟨call, .call op rest⟩) :
      Moves world (.step thread choice) (machine.performed world thread call op rest choice)
  | crashed (thread : ℕ) :
      Moves world (.crash thread)
        { world with threads := world.threads.modify thread fun old => ⟨old.call, .ret ()⟩ }
  | disturbed (env : Env) :
      Moves world (.disturb env) { world with shared := machine.disturb world.shared env }

theorem next_moves (action : Action Call Choice Env) :
    machine.Moves world action (machine.next world action) := by
  cases action with
  | start call => exact .started call
  | step thread choice =>
      simp only [next]
      split
      · next call op rest running => exact .performed thread call op rest choice running
      · exact .idle _
  | crash thread => exact .crashed thread
  | disturb env => exact .disturbed env

/-! ## Reachable worlds -/

/-- The worlds reached by actions that were allowed when they were taken. -/
inductive Reaches
    (allowed : World Call Op Res Shared → Action Call Choice Env → Prop)
    (start : World Call Op Res Shared) : World Call Op Res Shared → Prop
  | here : Reaches allowed start start
  | next
      {world : World Call Op Res Shared}
      (action : Action Call Choice Env)
      (reached : Reaches allowed start world)
      (permitted : allowed world action) :
      Reaches allowed start (machine.next world action)

/-- Every action of a list is allowed when it is taken. -/
def Permits (allowed : World Call Op Res Shared → Action Call Choice Env → Prop) :
    World Call Op Res Shared → List (Action Call Choice Env) → Prop
  | _, [] => True
  | world, action :: rest =>
      allowed world action ∧ Permits allowed (machine.next world action) rest

instance decidablePermits
    (allowed : World Call Op Res Shared → Action Call Choice Env → Prop)
    [∀ world action, Decidable (allowed world action)] :
    (world : World Call Op Res Shared) → (actions : List (Action Call Choice Env)) →
      Decidable (machine.Permits allowed world actions)
  | _, [] => isTrue trivial
  | world, action :: rest =>
      have : Decidable (machine.Permits allowed (machine.next world action) rest) :=
        decidablePermits allowed _ rest
      inferInstanceAs (Decidable (_ ∧ _))

variable {machine world}
variable {allowed : World Call Op Res Shared → Action Call Choice Env → Prop}
variable {start later : World Call Op Res Shared}

/-- Any action is allowed. -/
abbrev anyAction : World Call Op Res Shared → Action Call Choice Env → Prop :=
  fun _ _ => True

theorem Reaches.trans
    (first : machine.Reaches allowed start world)
    (second : machine.Reaches allowed world later) :
    machine.Reaches allowed start later := by
  induction second with
  | here => exact first
  | next action _ permitted ih =>
      exact .next action ih permitted

theorem reaches_run
    (actions : List (Action Call Choice Env))
    (permits : machine.Permits allowed start actions) :
    machine.Reaches allowed start (machine.run start actions) := by
  induction actions generalizing start with
  | nil => exact .here
  | cons action rest ih =>
      exact (Reaches.next action .here permits.1).trans (ih permits.2)

theorem reaches_anyRun (actions : List (Action Call Choice Env)) :
    machine.Reaches anyAction start (machine.run start actions) := by
  induction actions generalizing start with
  | nil => exact .here
  | cons action rest ih =>
      exact (Reaches.next action .here trivial).trans ih

/-- What holds at the start and is kept by every allowed action holds in every
reachable world. -/
@[elab_as_elim]
theorem Reaches.invariant
    {motive : World Call Op Res Shared → Prop}
    (reached : machine.Reaches allowed start world)
    (initially : motive start)
    (kept : ∀ world action after, machine.Reaches allowed start world → motive world →
      allowed world action → machine.Moves world action after → motive after) :
    motive world := by
  induction reached with
  | here => exact initially
  | next action reached permitted ih =>
      exact kept _ action _ reached ih permitted (machine.next_moves _ action)

/-- What holds of each request with the trace before it, when the request is
issued, holds of every request in the trace. -/
theorem Reaches.every_entry
    {shared : Shared}
    (property : Entry Call Op Res Shared → List (Entry Call Op Res Shared) → Prop)
    (issued : ∀ (world : World Call Op Res Shared) (thread : ℕ) (call : Call) (op : Op)
      (rest : Res op → Prog Op Res Unit) (choice : Choice),
      machine.Reaches allowed (.initial shared) world →
      world.threads[thread]? = some ⟨call, .call op rest⟩ →
      allowed world (.step thread choice) →
      property ⟨thread, call, op, (machine.respond world.shared op choice).1, world.shared⟩
        world.trace)
    (reached : machine.Reaches allowed (.initial shared) world)
    {later earlier : List (Entry Call Op Res Shared)}
    {entry : Entry Call Op Res Shared}
    (split : world.trace = later ++ entry :: earlier) :
    property entry earlier := by
  suffices kept : ∀ later earlier entry, world.trace = later ++ entry :: earlier →
    property entry earlier from kept later earlier entry split
  refine reached.invariant ?_ ?_
  · intro later earlier entry split
    simp [World.initial] at split
  · intro world action after reached holds permitted moves later earlier entry split
    cases moves with
    | performed thread call op rest choice running =>
        cases later with
        | nil =>
            obtain ⟨rfl, rfl⟩ := List.cons.inj split
            exact issued world thread call op rest choice reached running permitted
        | cons newest later =>
            exact holds later earlier entry (List.cons.inj split).2
    | _ => exact holds later earlier entry split

end Machine

/-! ## Disciplines -/

/-- What a thread knows from its own requests and answers, what it has to know
when it issues a request, and what it may assume about an answer. -/
structure Discipline (Call Op : Type) (Res : Op → Type) (View : Type) where
  init : Call → View
  observe : View → (op : Op) → Res op → View
  pre : View → Op → Prop
  rely : (op : Op) → Res op → Prop

namespace Discipline

variable (discipline : Discipline Call Op Res View)

/-- The discipline as a contract for single programs. -/
def contract : Prog.Contract Op Res View where
  pre := discipline.pre
  post view op answer view' := discipline.rely op answer ∧ view' = discipline.observe view op answer

/-- What a thread knows after a trace. -/
def viewOf (call : Call) (thread : ℕ) : List (Entry Call Op Res Shared) → View
  | [] => discipline.init call
  | entry :: earlier =>
      if entry.thread = thread then
        discipline.observe (viewOf call thread earlier) entry.op entry.answer
      else viewOf call thread earlier

@[simp] theorem viewOf_nil (call : Call) (thread : ℕ) :
    discipline.viewOf call thread ([] : List (Entry Call Op Res Shared)) = discipline.init call :=
  rfl

variable (call : Call)

@[simp] theorem viewOf_cons_self
    (entry : Entry Call Op Res Shared)
    (earlier : List (Entry Call Op Res Shared)) :
    discipline.viewOf call entry.thread (entry :: earlier) =
      discipline.observe (discipline.viewOf call entry.thread earlier) entry.op entry.answer :=
  if_pos rfl

theorem viewOf_cons_ne
    {thread : ℕ}
    {entry : Entry Call Op Res Shared}
    (different : entry.thread ≠ thread)
    (earlier : List (Entry Call Op Res Shared)) :
    discipline.viewOf call thread (entry :: earlier) =
      discipline.viewOf call thread earlier :=
  if_neg different

/-- What holds at the start and is kept by every entry of a trace holds of what a
thread knows after the trace. -/
theorem viewOf_induction
    (thread : ℕ)
    (motive : View → List (Entry Call Op Res Shared) → Prop)
    (init : motive (discipline.init call) [])
    (own : ∀ view caller op answer before earlier, motive view earlier →
      motive (discipline.observe view op answer) (⟨thread, caller, op, answer, before⟩ :: earlier))
    (other : ∀ view entry earlier, Entry.thread entry ≠ thread → motive view earlier →
      motive view (entry :: earlier))
    (trace : List (Entry Call Op Res Shared)) :
    motive (discipline.viewOf call thread trace) trace := by
  induction trace with
  | nil => exact init
  | cons entry earlier ih =>
      rw [viewOf]
      split_ifs with same
      · subst same
        exact own _ entry.call entry.op entry.answer entry.before earlier ih
      · exact other _ entry earlier same ih

theorem viewOf_of_unused
    {thread : ℕ}
    {trace : List (Entry Call Op Res Shared)}
    (unused : ∀ entry ∈ trace, entry.thread ≠ thread) :
    discipline.viewOf call thread trace = discipline.init call := by
  induction trace with
  | nil => rfl
  | cons entry earlier ih =>
      rw [viewOf_cons_ne discipline call (unused entry (List.mem_cons_self ..))]
      exact ih fun other member => unused other (List.mem_cons_of_mem _ member)

/-- Every thread keeps the discipline in whatever it has still to do. -/
structure Obedient (world : World Call Op Res Shared) : Prop where
  known : ∀ entry ∈ world.trace, entry.thread < world.threads.length
  follows : ∀ (thread : ℕ) (running : Thread Call Op Res),
    world.threads[thread]? = some running →
    running.rest.wp discipline.contract (fun _ _ => True)
      (discipline.viewOf running.call thread world.trace)

/-- A discipline that knows and asks more than another one. -/
structure Refines {View' : Type} (fine : Discipline Call Op Res View')
    (coarse : Discipline Call Op Res View) (forget : View' → View) : Prop where
  init : ∀ call, forget (fine.init call) = coarse.init call
  observe : ∀ view op answer,
    forget (fine.observe view op answer) = coarse.observe (forget view) op answer
  pre : ∀ view op, fine.pre view op → coarse.pre (forget view) op
  rely : ∀ op answer, coarse.rely op answer → fine.rely op answer

namespace Refines

variable {discipline}
variable {View' : Type} {fine : Discipline Call Op Res View'} {forget : View' → View}

theorem viewOf
    (refines : fine.Refines discipline forget)
    (call : Call)
    (thread : ℕ)
    (trace : List (Entry Call Op Res Shared)) :
    forget (fine.viewOf call thread trace) = discipline.viewOf call thread trace := by
  induction trace with
  | nil => exact refines.init call
  | cons entry earlier ih =>
      rw [Discipline.viewOf, Discipline.viewOf]
      split_ifs
      · rw [refines.observe, ih]
      · exact ih

/-- A program that keeps the finer discipline keeps the coarser one. -/
theorem wp
    (refines : fine.Refines discipline forget)
    {program : Prog Op Res Unit}
    {view : View'}
    (keeps : program.wp fine.contract (fun _ _ => True) view) :
    program.wp discipline.contract (fun _ _ => True) (forget view) := by
  induction program generalizing view with
  | ret value => trivial
  | call op rest ih =>
      refine ⟨refines.pre view op keeps.1, ?_⟩
      rintro answer _ ⟨relied, rfl⟩
      rw [← refines.observe]
      exact ih answer (keeps.2 answer _ ⟨refines.rely op answer relied, rfl⟩)

theorem obedient
    (refines : fine.Refines discipline forget)
    {world : World Call Op Res Shared}
    (obedient : fine.Obedient world) :
    discipline.Obedient world where
  known := obedient.known
  follows thread running found :=
    refines.viewOf running.call thread world.trace ▸
      refines.wp (obedient.follows thread running found)

end Refines

variable {discipline}
variable {machine : Machine Call Op Res Shared Choice Env}
variable {allowed : World Call Op Res Shared → Action Call Choice Env → Prop}
variable {world after : World Call Op Res Shared}

theorem Obedient.pre
    (obedient : discipline.Obedient world)
    {thread : ℕ}
    {call : Call}
    {op : Op}
    {rest : Res op → Prog Op Res Unit}
    (running : world.threads[thread]? = some ⟨call, .call op rest⟩) :
    discipline.pre (discipline.viewOf call thread world.trace) op :=
  (obedient.follows thread _ running).1

/-- Programs that keep the discipline keep it in every interleaving. -/
theorem Obedient.moves
    (obedient : discipline.Obedient world)
    (programs : ∀ call, (machine.program call).wp discipline.contract (fun _ _ => True)
      (discipline.init call))
    (relies : ∀ op choice, discipline.rely op (machine.respond world.shared op choice).1)
    {action : Action Call Choice Env}
    (moves : machine.Moves world action after) :
    discipline.Obedient after := by
  obtain ⟨known, follows⟩ := obedient
  cases moves with
  | started call =>
      constructor
      · intro entry member
        exact Nat.lt_of_lt_of_le (known entry member) (by simp)
      · intro thread running found
        rcases Nat.lt_trichotomy thread world.threads.length with old | rfl | beyond
        · rw [List.getElem?_append_left old] at found
          exact follows thread running found
        · obtain rfl : ⟨call, machine.program call⟩ = running := by simpa using found
          rw [viewOf_of_unused discipline call fun entry member =>
            Nat.ne_of_lt (known entry member)]
          exact programs call
        · rw [List.getElem?_eq_none (by simp; omega)] at found
          cases found
  | idle => exact ⟨known, follows⟩
  | performed thread call op rest choice running =>
      constructor
      · intro entry member
        simp only [Machine.performed, List.length_set]
        rcases List.mem_cons.mp member with rfl | old
        · exact (List.getElem?_eq_some_iff.mp running).1
        · exact known entry old
      · intro other thread' found
        have within : thread < world.threads.length := (List.getElem?_eq_some_iff.mp running).1
        simp only [Machine.performed] at found ⊢
        by_cases same : thread = other
        · subst same
          rw [List.getElem?_set_self within] at found
          cases found
          rw [viewOf, if_pos rfl]
          exact (follows thread _ running).2 _ _ ⟨relies op choice, rfl⟩
        · rw [List.getElem?_set_ne same] at found
          rw [viewOf, if_neg same]
          exact follows other thread' found
  | crashed thread =>
      constructor
      · intro entry member
        simpa using known entry member
      · intro other thread' found
        rw [List.getElem?_modify] at found
        obtain ⟨old, present, rfl⟩ := Option.map_eq_some_iff.mp found
        split_ifs with same
        · trivial
        · exact follows other old present
  | disturbed env => exact ⟨known, follows⟩

/-- In every reachable world all threads keep the discipline. -/
theorem obedient_of_reaches
    {shared : Shared}
    (programs : ∀ call, (machine.program call).wp discipline.contract (fun _ _ => True)
      (discipline.init call))
    (relies : ∀ world, machine.Reaches allowed (.initial shared) world →
      ∀ op choice, discipline.rely op (machine.respond world.shared op choice).1)
    (reached : machine.Reaches allowed (.initial shared) world) :
    discipline.Obedient world := by
  refine reached.invariant ⟨by simp [World.initial], by simp [World.initial]⟩ ?_
  intro world action after reached obedient _ moves
  exact obedient.moves programs (relies world reached) moves

end Discipline

end Interleaving
