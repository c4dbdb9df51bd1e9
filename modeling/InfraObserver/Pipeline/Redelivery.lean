import InfraObserver.Pipeline.Effect

/-!
# Redeliveries and failed attempts leave no trace

The bus delivers at least once and any operation of a transaction may fail.
Neither shows in the store: a failed call is rolled back, and a call for an
observation that was processed before stops at the duplicate gate.
-/

namespace InfraObserver

/-- One call of `Process`: what is delivered, and what happens to the call. -/
structure Call (F : Type) where
  attempt : Attempt F
  sample : Observation F

namespace Processor

variable {F : Type} [GoFloat F] [Platform]

/-- The store after one call. -/
def after (processor : Processor F) (store : MemStore F) (call : Call F) : MemStore F :=
  (processor.process call.attempt call.sample store).2

/-- The store after a run of calls. -/
def runCalls (processor : Processor F) (calls : List (Call F)) (store : MemStore F) :
    MemStore F :=
  calls.foldl processor.after store

/-- The call ended without an error. -/
def Succeeds (processor : Processor F) (store : MemStore F) (call : Call F) : Prop :=
  ∃ outcome, (processor.process call.attempt call.sample store).1 = .ok outcome

/-- A second run in which calls were inserted at any positions: further
deliveries of observations already processed before that position, and calls
that fail. `processed` lists what earlier calls have processed and `store` is
the store that the second run has reached. -/
inductive Padded (processor : Processor F) :
    List (Observation F) → MemStore F → List (Call F) → List (Call F) → Prop
  | nil (processed : List (Observation F)) (store : MemStore F) :
      Padded processor processed store [] []
  | keepSucceeding {processed : List (Observation F)} {store : MemStore F}
      {calls padded : List (Call F)} (call : Call F) :
      processor.Succeeds store call →
        Padded processor (call.sample :: processed) (processor.after store call) calls padded →
          Padded processor processed store (call :: calls) (call :: padded)
  | keepFailing {processed : List (Observation F)} {store : MemStore F}
      {calls padded : List (Call F)} (call : Call F) :
      ¬processor.Succeeds store call →
        Padded processor processed (processor.after store call) calls padded →
          Padded processor processed store (call :: calls) (call :: padded)
  | redeliver {processed : List (Observation F)} {store : MemStore F}
      {calls padded : List (Call F)} (call : Call F) :
      call.sample ∈ processed →
        Padded processor processed (processor.after store call) calls padded →
          Padded processor processed store calls (call :: padded)
  | fail {processed : List (Observation F)} {store : MemStore F}
      {calls padded : List (Call F)} (call : Call F) :
      ¬processor.Succeeds store call →
        Padded processor processed (processor.after store call) calls padded →
          Padded processor processed store calls (call :: padded)

/-! ## What one call does -/

variable {processor : Processor F} {sample : Observation F}
variable {store : MemStore F} {call : Call F}

theorem after_of_fails
    (fails : ¬processor.Succeeds store call) :
    processor.after store call = store := by
  unfold after
  unfold Succeeds at fails
  rcases processor.process_cases call.attempt call.sample store with
    ⟨_, result⟩ | ⟨failure, result⟩ | ⟨enriched, device, _, result⟩
  · rw [result]
  · rw [result]
  · rw [result] at fails ⊢
    cases outcome : (store.transact call.attempt.refused call.attempt.faults
        (processor.body enriched device)).1 with
    | error failure => exact MemStore.transact_error outcome
    | ok value => exact absurd ⟨value, outcome⟩ fails

/-! ## Whole runs -/

theorem settled_of_succeeds
    (succeeds : processor.Succeeds store call) :
    processor.Settled (processor.after store call) call.sample := by
  obtain ⟨outcome, succeeded⟩ := succeeds
  unfold after
  rcases processor.process_effect call.attempt call.sample store with
    ⟨same, reports⟩ | ⟨enriched, device, prepares, _, result, _⟩
  · rw [same]
    exact (reports outcome succeeded).2.2
  · refine Or.inr ?_
    rw [result, (processor.effect_series enriched device store).1, ← prepares.same_id]
    simp [MemStore.withObservation]

theorem Settled.after
    (settled : processor.Settled store sample)
    (call : Call F) :
    processor.Settled (processor.after store call) sample := by
  refine settled.imp_right fun stored => ?_
  unfold Processor.after
  rcases processor.process_effect call.attempt call.sample store with
    ⟨same, _⟩ | ⟨enriched, device, _, _, result, _⟩
  · rwa [same]
  · rw [result, (processor.effect_series enriched device store).1, MemStore.withObservation]
    dsimp only
    rw [StringMap.lookup_insert_ite]
    split
    · rfl
    · exact stored

/-- A further delivery of a settled observation leaves the store as it was,
whatever happens to the call. -/
theorem Settled.redelivered
    (settled : processor.Settled store call.sample) :
    processor.after store call = store := by
  rcases processor.process_effect call.attempt call.sample store with
    ⟨same, _⟩ | ⟨enriched, device, prepares, fresh, _⟩
  · exact same
  · -- The transaction is only reached for a device that is not disabled.
    rcases settled with disabled | stored
    · obtain ⟨attached, found, _⟩ := prepares
      rw [disabled] at found
      cases found
    · rw [← prepares.same_id, fresh] at stored
      cases stored

/-- Redeliveries and failed attempts are invisible: a run with any number of them
inserted ends in the same store, with every table, the outbox and its id counter
equal. -/
theorem padded_run_same_store
    (processor : Processor F)
    (store : MemStore F)
    (calls padded : List (Call F))
    (inserted : Padded processor [] store calls padded) :
    processor.runCalls padded store = processor.runCalls calls store := by
  -- Everything processed so far is settled; the two runs stay in the same store.
  suffices general : ∀ processed store calls padded,
      Padded processor processed store calls padded →
      (∀ sample ∈ processed, processor.Settled store sample) →
        processor.runCalls padded store = processor.runCalls calls store from
    general [] store calls padded inserted (by simp)
  intro processed store calls padded inserted settled
  induction inserted with
  | nil => rfl
  | keepSucceeding call succeeds _ ih =>
      refine ih ?_
      intro sample member
      rcases List.mem_cons.mp member with rfl | earlier
      · exact settled_of_succeeds succeeds
      · exact (settled sample earlier).after call
  | keepFailing call _ _ ih =>
      exact ih fun sample member => (settled sample member).after call
  | redeliver call already _ ih =>
      have unchanged := (settled call.sample already).redelivered
      rw [unchanged] at ih
      simp only [runCalls, List.foldl_cons, unchanged] at ih ⊢
      exact ih settled
  | fail call fails _ ih =>
      have unchanged := after_of_fails fails
      rw [unchanged] at ih
      simp only [runCalls, List.foldl_cons, unchanged] at ih ⊢
      exact ih settled

end Processor

namespace Processor

attribute [local instance] Platform.plain GoFloat.integer

/-- A switch that reports its reachability. -/
def plainSwitch : Device where
  id := "sw-1"
  hostname := "core"
  deviceType := .switch
  vendor := "acme"
  model := "x1"
  site := "lab"
  tags := []
  capabilities := []
  enabled := true
  lastSeen := 0
  protocol := "snmp"
  attributes := ∅

/-- A processor that tracks the reachability of one switch. -/
def plainProcessor : Processor ℤ where
  inventory := (∅ : StringMap Device).insert "sw-1" plainSwitch
  states :=
    { all := [Definition.reachability]
      valid := by
        intro definition member
        rw [List.mem_singleton.mp member, Definition.valid_iff_problems]
        decide +kernel
      distinct := by decide }
  rules := .empty
  staleAfter := .hour
  sweepInterval := .minute
  startedAt := 0

/-- A call whose second operation fails, the call itself and a redelivery leave
what the call alone leaves. -/
theorem padded_run_reachability :
    let call : Call ℤ := ⟨Attempt.plain ℤ, Definition.reachabilitySample "o1" 1 false⟩
    let outage := Error.errorf .dependency "outage"
    let failing : Call ℤ :=
      ⟨{ Attempt.plain ℤ with faults := fun position =>
          if position = 2 then some outage else none }, call.sample⟩
    plainProcessor.runCalls [failing, call, call] .new =
      plainProcessor.runCalls [call] .new := by
  intro call outage failing
  refine padded_run_same_store plainProcessor _ _ _
    (.fail failing ?_ (.keepSucceeding call ?_ (.redeliver call (by simp) (.nil _ _))))
  · rintro ⟨outcome, succeeded⟩
    have failed : (plainProcessor.process failing.attempt failing.sample .new).1 =
        .error outage := by decide +kernel
    rw [failed] at succeeded
    simp at succeeded
  · exact ⟨{ Outcome.zero with transitions := 1 }, by decide +kernel⟩

end Processor

end InfraObserver
