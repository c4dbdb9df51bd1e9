import InfraObserver.Pipeline.Consistency
import InfraObserver.Pipeline.Footprint

/-!
# Reachable stores

A store is reached by `Process` and `Sweep` calls of any processors, with any
inventory, definitions and rules, so a store survives changes of the
configuration. What every call of `Process` preserves holds in every store that
is reached.
-/

namespace InfraObserver

variable {F : Type} [GoFloat F] [Platform]

namespace Processor

variable {processor : Processor F} (invariant : MemStore F → Prop) {store : MemStore F}

/-- What the calls of `Process` for its samples preserve, the loop of `Sweep`
preserves. -/
theorem sweepLoop_preserves
    (attempts : ℕ → Attempt F)
    (samples : List (Observation F))
    (preserved : ∀ position, ∀ sample ∈ samples, ∀ store, invariant store →
      invariant (processor.process (attempts position) sample store).2)
    (count : ℕ)
    (holds : invariant store) :
    invariant (processor.sweepLoop attempts samples count store).2 := by
  induction samples generalizing count store with
  | nil => exact holds
  | cons sample rest ih =>
      have kept := preserved count sample (List.mem_cons_self ..) store holds
      unfold sweepLoop
      split
      · next failure after result => rwa [result] at kept
      · next outcome after result =>
          rw [result] at kept
          exact ih
            (fun position other member => preserved position other (List.mem_cons_of_mem _ member))
            (count + 1) kept

/-- What a call of `Process` preserves, every step preserves. -/
theorem Step.apply_preserves
    (preserved : ∀ attempt sample store, invariant store →
      invariant (processor.process attempt sample store).2)
    (next : Step F)
    (holds : invariant store) :
    invariant (next.apply processor store) := by
  cases next with
  | process attempt sample => exact preserved attempt sample store holds
  | sweep now devices listing attempts =>
      cases listing with
      | some failure => exact holds
      | none =>
          exact sweepLoop_preserves invariant attempts _
            (fun position sample _ => preserved _ sample) 0 holds

/-- A sample of a sweep that succeeds has its turn: what the samples before it
preserve holds when it is processed, and what its call establishes the samples
after it preserve. -/
theorem sweepLoop_reaches
    (goal : MemStore F → Prop)
    (attempts : ℕ → Attempt F)
    (earlier : List (Observation F))
    (sample : Observation F)
    (later : List (Observation F))
    (preserved : ∀ position, ∀ other ∈ earlier, ∀ store, invariant store →
      invariant (processor.process (attempts position) other store).2)
    (turn : ∀ position store outcome, invariant store →
      (processor.process (attempts position) sample store).1 = .ok outcome →
        goal (processor.process (attempts position) sample store).2)
    (kept : ∀ position, ∀ other ∈ later, ∀ store, goal store →
      goal (processor.process (attempts position) other store).2)
    (count : ℕ)
    (succeeded : (processor.sweepLoop attempts (earlier ++ sample :: later) count store).1.2 = none)
    (holds : invariant store) :
    goal (processor.sweepLoop attempts (earlier ++ sample :: later) count store).2 := by
  induction earlier generalizing count store with
  | nil =>
      rw [List.nil_append] at succeeded ⊢
      unfold sweepLoop at succeeded ⊢
      split
      · next failure after result =>
          rw [result] at succeeded
          cases succeeded
      · next outcome after result =>
          have reached := turn count store outcome holds (by rw [result])
          rw [result] at reached
          exact sweepLoop_preserves goal attempts later kept (count + 1) reached
  | cons other rest ih =>
      have still := preserved count other (List.mem_cons_self ..) store holds
      rw [List.cons_append] at succeeded ⊢
      unfold sweepLoop at succeeded ⊢
      split
      · next failure after result =>
          rw [result] at succeeded
          cases succeeded
      · next outcome after result =>
          rw [result] at still succeeded
          exact ih
            (fun position another member => preserved position another
              (List.mem_cons_of_mem _ member))
            (count + 1) succeeded still

/-- The store after a run of steps. -/
def runSteps (processor : Processor F) (run : List (Step F)) (store : MemStore F) : MemStore F :=
  run.foldl (fun store next => next.apply processor store) store

/-- The hooks of the step change metadata only. -/
def Step.MetadataOnly : Step F → Prop
  | .process attempt _ => attempt.MetadataOnly
  | .sweep _ _ _ attempts => ∀ position, (attempts position).MetadataOnly

/-- What calls whose hooks change metadata only preserve, runs of such steps
preserve. -/
theorem runSteps_preserves
    (preserved : ∀ attempt sample store, attempt.MetadataOnly → invariant store →
      invariant (processor.process attempt sample store).2)
    (run : List (Step F))
    (faithful : ∀ next ∈ run, next.MetadataOnly)
    (holds : invariant store) :
    invariant (processor.runSteps run store) := by
  induction run generalizing store with
  | nil => exact holds
  | cons next rest ih =>
      rw [List.forall_mem_cons] at faithful
      refine ih faithful.2 ?_
      cases next with
      | process attempt sample => exact preserved attempt sample store faithful.1 holds
      | sweep now devices listing attempts =>
          cases listing with
          | some failure => exact holds
          | none =>
              exact sweepLoop_preserves invariant attempts _
                (fun position sample _ store => preserved _ sample store (faithful.1 position))
                0 holds

/-- No step of the run makes a definition and a rule clash. -/
def ClearSteps (processor : Processor F) : List (Step F) → MemStore F → Prop
  | [], _ => True
  | next :: rest, store =>
      next.Clear processor store ∧ processor.ClearSteps rest (next.apply processor store)

theorem ClearRun.steps
    {start : MemStore F}
    (run : ClearRun processor start store)
    (steps : List (Step F))
    (clear : processor.ClearSteps steps store) :
    ClearRun processor start (processor.runSteps steps store) := by
  induction steps generalizing store with
  | nil => exact run
  | cons next rest ih => exact ih (.step next run clear.1) clear.2

/-- No step clashes when no rule has the id of a definition. -/
theorem clearSteps_of_ids
    (apart : ∀ definition ∈ processor.states.all, ∀ rule ∈ processor.rules.all,
      definition.id ≠ rule.id)
    (steps : List (Step F))
    (store : MemStore F) :
    processor.ClearSteps steps store := by
  have call : ∀ attempt sample store, processor.ClearCall attempt sample store := by
    rintro attempt sample store enriched device - ⟨definition, stated, rule, ruled, same, -⟩
    exact apart definition (List.mem_filter.mp stated).1 rule (List.mem_filter.mp ruled).1 same
  have loop : ∀ attempts samples count store,
      processor.ClearLoop attempts samples count store := by
    intro attempts samples
    induction samples with
    | nil => exact fun _ _ => trivial
    | cons sample rest ih =>
        intro count store
        refine ⟨call _ _ _, ?_⟩
        split
        · trivial
        · exact ih _ _
  induction steps generalizing store with
  | nil => trivial
  | cons next rest ih =>
      refine ⟨?_, ih _⟩
      cases next with
      | process attempt sample => exact call _ _ _
      | sweep now devices listing attempts => exact loop _ _ _ _

end Processor

/-- The stores that calls of `Process` and `Sweep` reach from a store that holds
only devices. -/
inductive Reached : MemStore F → Prop
  | start (devices : StringMap Device) : Reached { (MemStore.new : MemStore F) with devices }
  | step {store : MemStore F} (processor : Processor F) (next : Processor.Step F) :
      Reached store → Reached (next.apply processor store)

namespace Reached

variable {store : MemStore F}

/-- What holds at the start and is preserved by every call of `Process` holds in
every reachable store. -/
theorem invariant
    (invariant : MemStore F → Prop)
    (start : ∀ devices, invariant { (MemStore.new : MemStore F) with devices })
    (preserved : ∀ (processor : Processor F) attempt sample store, invariant store →
      invariant (processor.process attempt sample store).2)
    (reached : Reached store) :
    invariant store := by
  induction reached with
  | start devices => exact start devices
  | step processor next _ ih =>
      exact Processor.Step.apply_preserves _ (preserved processor) next ih

theorem sound {store : MemStore F} (reached : Reached store) : store.Sound := by
  refine reached.invariant MemStore.Sound (fun devices => ⟨?_, ?_⟩)
    fun processor attempt sample store => processor.process_sound attempt sample
  · simp [MemStore.new]
  · simp [MemStore.new]

theorem runSteps
    (reached : Reached store)
    (processor : Processor F)
    (run : List (Processor.Step F)) :
    Reached (processor.runSteps run store) := by
  induction run generalizing store with
  | nil => exact reached
  | cons next rest ih => exact ih (.step processor next reached)

theorem runCalls
    (reached : Reached store)
    (processor : Processor F)
    (calls : List (Call F)) :
    Reached (processor.runCalls calls store) := by
  induction calls generalizing store with
  | nil => exact reached
  | cons call rest ih =>
      exact ih
        (.step processor (.process call.attempt call.sample) reached)

end Reached

end InfraObserver
