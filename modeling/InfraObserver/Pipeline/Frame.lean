import InfraObserver.Pipeline.Effect

/-!
# What the pipeline leaves alone

`Process` never touches the automation tables, its outbox rows are event
notifications, and it changes alerts only when it records a new event. The rule
`process_preserves` turns this into a principle: to show that `Process` keeps a
property of these tables, look at one recorded event.
-/

namespace InfraObserver

variable {F : Type}

/-- Two stores with the same events, alerts, outbox and automation tables. -/
structure SameLedger (store after : MemStore F) : Prop where
  events : after.events = store.events
  alerts : after.alerts = store.alerts
  outbox : after.outbox = store.outbox
  autoReq : after.autoReq = store.autoReq
  autoOrder : after.autoOrder = store.autoOrder
  autoRes : after.autoRes = store.autoRes
  autoClaim : after.autoClaim = store.autoClaim

theorem SameLedger.refl (store : MemStore F) : SameLedger store store :=
  ⟨rfl, rfl, rfl, rfl, rfl, rfl, rfl⟩

/-- The tables of automation requests agree. -/
structure SameRequests (store after : MemStore F) : Prop where
  autoReq : after.autoReq = store.autoReq
  autoOrder : after.autoOrder = store.autoOrder
  autoRes : after.autoRes = store.autoRes
  autoClaim : after.autoClaim = store.autoClaim

/-- What recording a new event does to these tables. -/
structure Noted (event : Event) (store after : MemStore F) : Prop where
  fresh : store.events.lookup event.eventID = none
  events : after.events = store.events.insert event.eventID event
  outbox : ∃ rows, after.outbox = store.outbox ++ rows ∧ ∀ row ∈ rows,
    row.msg.subject = subjectEventDevice ∨ row.msg.subject = subjectEventAlert
  autoReq : after.autoReq = store.autoReq
  autoOrder : after.autoOrder = store.autoOrder
  autoRes : after.autoRes = store.autoRes
  autoClaim : after.autoClaim = store.autoClaim
  alerts : after.alerts = store.alerts ∨
    after.alerts = store.alerts ++ [Alert.opened event] ∨
    ∃ earlier firing later, store.alerts = earlier ++ firing :: later ∧
      firing.fires event.alertKey = true ∧
      after.alerts = earlier ++ firing.resolvedBy event :: later

variable [GoFloat F] [Platform]

omit [GoFloat F] in
theorem MemStore.withEvent_noted (event : Event) (store : MemStore F) :
    SameLedger store (store.withEvent event) ∨ Noted event store (store.withEvent event) := by
  rcases store.withEvent_notes event with same | ⟨fresh, events, _, ⟨rows, outbox, told⟩, alerts⟩
  · rw [same]
    exact Or.inl (.refl store)
  · obtain ⟨_, _, _, _, _, tables⟩ := store.withEvent_eq event
    refine Or.inr ⟨fresh, events, ⟨rows, outbox, fun row member => ?_⟩, by rw [tables],
      by rw [tables], by rw [tables], by rw [tables], ?_⟩
    · obtain ⟨_, id, device | alert⟩ := told row member
      · exact Or.inl (by rw [device]; rfl)
      · exact Or.inr (by rw [alert]; rfl)
    · rcases alerts with same | ⟨_, opened⟩ | resolved
      · exact Or.inl same
      · exact Or.inr (Or.inl opened)
      · cases found : store.alerts.find? (Alert.fires event.alertKey) with
        | none =>
            rw [FirstMatch.amendFirst_of_none (by simpa using found)] at resolved
            exact Or.inl resolved
        | some firing =>
            obtain ⟨fires, earlier, later, table, before⟩ := List.find?_eq_some_iff_append.mp found
            rw [table, FirstMatch.amendFirst_append (by simpa using before) fires] at resolved
            exact Or.inr (Or.inr ⟨earlier, firing, later, table, fires, resolved⟩)

namespace Processor

section Preserves

variable (invariant : MemStore F → Prop)
variable (same : ∀ store after, SameLedger store after → invariant store → invariant after)
variable (noted : ∀ event store after, Noted event store after → invariant store →
  invariant after)

include same noted

/-- What one recorded event preserves, the turn of a tracker preserves. -/
theorem turn_preserves
    (before : MemStore F)
    (sample : Observation F)
    {store : MemStore F}
    (holds : invariant store)
    (tracker : Tracker F) :
    invariant (tracker.turn before sample store) := by
  unfold Tracker.turn
  dsimp only
  split
  · refine List.foldlRecOn _ _ ?_ fun store holds event _ => ?_
    · refine List.foldlRecOn _ _ (same store _ ⟨rfl, rfl, rfl, rfl, rfl, rfl, rfl⟩ holds)
        fun store holds transition _ => ?_
      obtain ⟨_, _, tables⟩ := store.withTransition_eq transition
      exact same store _ (by rw [tables]; exact ⟨rfl, rfl, rfl, rfl, rfl, rfl, rfl⟩) holds
    · rcases store.withEvent_noted event with unchanged | recorded
      · exact same _ _ unchanged holds
      · exact noted event _ _ recorded holds
  · exact holds

/-- What one recorded event preserves, a call of `Process` preserves. -/
theorem process_preserves
    (processor : Processor F)
    (attempt : Attempt F)
    (sample : Observation F)
    {store : MemStore F}
    (holds : invariant store) :
    invariant (processor.process attempt sample store).2 := by
  rcases processor.process_effect attempt sample store with
    ⟨unchanged, _⟩ | ⟨enriched, device, _, _, result, _⟩
  · rwa [unchanged]
  · rw [result]
    refine List.foldlRecOn _ _ ?_ fun store holds tracker _ =>
      turn_preserves invariant same noted _ enriched holds tracker
    obtain ⟨devices, tables⟩ := (store.withObservation enriched).touched_eq enriched
    exact same store _ (by rw [tables]; exact ⟨rfl, rfl, rfl, rfl, rfl, rfl, rfl⟩) holds

end Preserves

/-- A call of `Process` leaves the tables of automation requests alone. -/
theorem process_sameRequests
    (processor : Processor F)
    (attempt : Attempt F)
    (sample : Observation F)
    (store : MemStore F) :
    SameRequests store (processor.process attempt sample store).2 := by
  refine processor.process_preserves (SameRequests store) ?_ ?_ attempt sample
    ⟨rfl, rfl, rfl, rfl⟩
  · rintro between after same ⟨autoReq, autoOrder, autoRes, autoClaim⟩
    exact ⟨same.autoReq.trans autoReq, same.autoOrder.trans autoOrder,
      same.autoRes.trans autoRes, same.autoClaim.trans autoClaim⟩
  · rintro event between after noted ⟨autoReq, autoOrder, autoRes, autoClaim⟩
    exact ⟨noted.autoReq.trans autoReq, noted.autoOrder.trans autoOrder,
      noted.autoRes.trans autoRes, noted.autoClaim.trans autoClaim⟩

end Processor

end InfraObserver
