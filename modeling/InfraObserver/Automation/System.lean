import InfraObserver.Automation.Obedience
import InfraObserver.Pipeline.Frame

/-!
# Engines on one store

Any number of engine calls run on one store, one request at a time, next to the
pipeline, the clock and an operator who changes the configuration. An operation
of the store can fail without an effect, the proposer and the adapters answer
anything, and a call can end at any point.

`Advance` lists what one action can do in these terms.
-/

namespace InfraObserver

open Interleaving (World Machine)

/-- What the calls share. -/
structure Shared (F : Type) [Platform] where
  store : MemStore F
  clock : Time
  config : Config

/-- What the outside decides about one request: whether the store fails, in which order
a loop goes through a map, and what the proposer and the adapters answer. -/
structure Choice where
  fault : Option Error
  visit : (params : StringMap String) → params.Visit
  proposal : Except Error (Option Proposal)
  adapter : Except Error Unit
  execution : ActionResult × Option Error

/-- Nothing fails, maps are gone through in order, nothing is proposed, and the adapter
changes nothing. -/
def Choice.plain : Choice where
  fault := none
  visit := StringMap.sortedVisit
  proposal := .ok none
  adapter := .ok ()
  execution := (⟨"", ∅, false⟩, none)

/-- What happens next to the calls. -/
inductive Disturbance (F : Type) [GoFloat F] [Platform]
  | setClock (time : Time)
  | configure (config : Config)
  | process (processor : Processor F) (attempt : Attempt F) (sample : Observation F)

namespace Shared

variable {F : Type} [Platform] (shared : Shared F)

/-- The answer to a request and what it changes. -/
def respond : (op : EngineOp) → Choice → EngineRes op × Shared F
  | .now, _ => (shared.clock, shared)
  | .config, _ => (shared.config, shared)
  | .propose .., choice => (choice.proposal, shared)
  | .store op, choice =>
      match choice.fault with
      | some failure => (.error failure, shared)
      | none =>
          ((op.perform shared.store).1, { shared with store := (op.perform shared.store).2 })
  | .range params, choice => (choice.visit params, shared)
  | .adapterFor .., choice => (choice.adapter, shared)
  | .execute .., choice => (choice.execution, shared)

theorem respond_store (op : AutomationOp) (choice : Choice) :
    ∃ store, (shared.respond (.store op) choice).2 = { shared with store := store } ∧
      op.Effect shared.store (shared.respond (.store op) choice).1 store := by
  simp only [respond]
  cases choice.fault with
  | some failure =>
      refine ⟨shared.store, rfl, .quiet op _ ?_⟩
      cases op <;> simp [AutomationOp.Wrote]
  | none => exact ⟨_, rfl, op.perform_effect shared.store⟩

theorem respond_ok
    {shared : Shared F}
    {op : AutomationOp}
    {choice : Choice}
    {value : op.Answer}
    (succeeds : (shared.respond (.store op) choice).1 = .ok value) :
    (op.perform shared.store).1 = .ok value := by
  simp only [respond] at succeeds
  cases fault : choice.fault with
  | some failure =>
      rw [fault] at succeeds
      cases succeeds
  | none =>
      rw [fault] at succeeds
      exact succeeds

theorem respond_other
    {op : EngineOp}
    (other : ∀ operation, op ≠ .store operation)
    (choice : Choice) :
    (shared.respond op choice).2 = shared := by
  cases op with
  | store operation => exact absurd rfl (other operation)
  | now => rfl
  | config => rfl
  | propose policy event device => rfl
  | range params => rfl
  | adapterFor device action => rfl
  | execute device action => rfl

theorem respond_clock (op : EngineOp) (choice : Choice) :
    (shared.respond op choice).2.clock = shared.clock := by
  cases op with
  | store operation =>
      simp only [respond]
      cases choice.fault <;> rfl
  | _ => rfl

theorem respond_config (op : EngineOp) (choice : Choice) :
    (shared.respond op choice).2.config = shared.config := by
  cases op with
  | store operation =>
      simp only [respond]
      cases choice.fault <;> rfl
  | _ => rfl

variable [GoFloat F]

/-- The shared state after a disturbance. -/
def disturb (shared : Shared F) : Disturbance F → Shared F
  | .setClock time => { shared with clock := time }
  | .configure config => { shared with config := config }
  | .process processor attempt sample =>
      { shared with store := (processor.process attempt sample shared.store).2 }

end Shared

/-- The states of the whole system. -/
abbrev EngineWorld (F : Type) [Platform] := World EngineCall EngineOp EngineRes (Shared F)

/-- The actions of the scheduler. -/
abbrev EngineAction (F : Type) [GoFloat F] [Platform] :=
  Interleaving.Action EngineCall Choice (Disturbance F)

/-- One answered request of a call. -/
abbrev EngineEntry (F : Type) [Platform] :=
  Interleaving.Entry EngineCall EngineOp EngineRes (Shared F)

/-- Engines with the same settings on one store. -/
def system (F : Type) [GoFloat F] [Platform] (engine : Engine) :
    Machine EngineCall EngineOp EngineRes (Shared F) Choice (Disturbance F) where
  program call := call.program engine
  respond := Shared.respond
  disturb := Shared.disturb

/-- The world on an empty store, at an instant and with a configuration. -/
def fresh (F : Type) [Platform] (clock : Time) (config : Config) : EngineWorld F :=
  .initial { store := .new, clock, config }

/-- The thread that an action lets write to the store or read from it, and the
operation. -/
def storing {F : Type} [GoFloat F] [Platform] (world : EngineWorld F) :
    EngineAction F → Option (ℕ × AutomationOp)
  | .step thread _ =>
      match world.pending thread with
      | some (.store op) => some (thread, op)
      | _ => none
  | _ => none

theorem storing_of_running {F : Type} [GoFloat F] [Platform]
    {world : EngineWorld F}
    {thread : ℕ}
    {call : EngineCall}
    {op : AutomationOp}
    {rest : Except Error op.Answer → EngineM Unit}
    (running : world.threads[thread]? = some ⟨call, .call (.store op) rest⟩)
    (choice : Choice) :
    storing world (.step thread choice) = some (thread, op) := by
  simp [storing, World.pending, running]

section Advance

variable {F : Type} [Platform]

/-- What a thread knows after a trace. -/
abbrev viewOf (engine : Engine) (call : EngineCall) (thread : ℕ) (trace : List (EngineEntry F)) :
    View :=
  (protocol engine).viewOf call thread trace

variable [GoFloat F]
variable {engine : Engine} {world after : EngineWorld F} {action : EngineAction F}

/-- What one action can do. -/
inductive Advance (engine : Engine) (world : EngineWorld F) :
    EngineAction F → EngineWorld F → Prop
  | rescheduled
      (action : EngineAction F)
      (threads : List (Interleaving.Thread EngineCall EngineOp EngineRes))
      (fewer : ∀ thread < world.threads.length,
        ({ world with threads } : EngineWorld F).Live thread → world.Live thread) :
      Advance engine world action { world with threads }
  | stored
      (thread : ℕ)
      (choice : Choice)
      (call : EngineCall)
      (op : AutomationOp)
      (rest : Except Error op.Answer → EngineM Unit)
      (answer : Except Error op.Answer)
      (store : MemStore F)
      (running : world.threads[thread]? = some ⟨call, .call (.store op) rest⟩)
      (effect : op.Effect world.shared.store answer store)
      (answered : answer = (world.shared.respond (.store op) choice).1) :
      Advance engine world (.step thread choice)
        { shared := { world.shared with store := store }
          threads := world.threads.set thread ⟨call, rest answer⟩
          trace := ⟨thread, call, .store op, answer, world.shared⟩ :: world.trace }
  | asked
      (thread : ℕ)
      (choice : Choice)
      (call : EngineCall)
      (op : EngineOp)
      (rest : EngineRes op → EngineM Unit)
      (answer : EngineRes op)
      (running : world.threads[thread]? = some ⟨call, .call op rest⟩)
      (other : ∀ operation, op ≠ .store operation)
      (answered : answer = (world.shared.respond op choice).1) :
      Advance engine world (.step thread choice)
        { world with
          threads := world.threads.set thread ⟨call, rest answer⟩
          trace := ⟨thread, call, op, answer, world.shared⟩ :: world.trace }
  | clock (time : Time) :
      Advance engine world (.disturb (.setClock time))
        { world with shared := { world.shared with clock := time } }
  | configured (config : Config) :
      Advance engine world (.disturb (.configure config))
        { world with shared := { world.shared with config := config } }
  | processed (processor : Processor F) (attempt : Attempt F) (sample : Observation F) :
      Advance engine world (.disturb (.process processor attempt sample))
        { world with shared := { world.shared with
            store := (processor.process attempt sample world.shared.store).2 } }

theorem Advance.of_moves (moves : (system F engine).Moves world action after) :
    Advance engine world action after := by
  cases moves with
  | started call =>
      refine .rescheduled _ _ fun thread old live => ?_
      simpa only [World.Live, World.pending, List.getElem?_append_left old] using live
  | idle => exact .rescheduled _ world.threads fun _ _ live => live
  | crashed thread =>
      refine .rescheduled _ _ fun other _ live => ?_
      exact World.live_of_crash live
  | performed thread call op rest choice running =>
      by_cases storing : ∃ operation, op = .store operation
      · obtain ⟨operation, rfl⟩ := storing
        obtain ⟨store, written, effect⟩ := world.shared.respond_store operation choice
        have performed := @Advance.stored F _ _ engine world thread choice call operation rest _
          store running effect rfl
        rw [← written] at performed
        exact performed
      · have other : ∀ operation, op ≠ .store operation := fun operation same =>
          storing ⟨operation, same⟩
        have performed := @Advance.asked F _ _ engine world thread choice call op rest _ running
          other rfl
        have unchanged := world.shared.respond_other other choice
        simp only [Machine.performed, system, unchanged]
        exact performed
  | disturbed env =>
      cases env with
      | setClock time => exact .clock time
      | configure config => exact .configured config
      | process processor attempt sample => exact .processed processor attempt sample

end Advance

end InfraObserver
