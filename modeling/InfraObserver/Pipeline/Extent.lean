import InfraObserver.Pipeline.Frame
import InfraObserver.Pipeline.History

/-!
# The extent of a call

A call of `Process` that takes an observation in writes to six tables. What it
writes is confined: to the observation, to its device, to the records and alerts of
the keys that the definitions and rules derive from it, and to rows at the end of the
logs that it caused. Everything else is as before.
-/

namespace InfraObserver

/-- Only alerts of certain keys differ, and only alerts of such keys are new. -/
structure AlertsWithin (keys : String → Prop) (old new : List Alert) : Prop where
  kept : old.length ≤ new.length
  changed : ∀ position alert, new[position]? = some alert →
    (∃ before, old[position]? = some before ∧ (alert = before ∨
      keys before.alertKey ∧ alert.alertKey = before.alertKey)) ∨
    old.length ≤ position ∧ keys alert.alertKey

namespace AlertsWithin

variable {keys : String → Prop} {old new : List Alert}

theorem refl (keys : String → Prop) (alerts : List Alert) : AlertsWithin keys alerts alerts :=
  ⟨le_rfl, fun _ alert found => Or.inl ⟨alert, found, Or.inl rfl⟩⟩

theorem opened
    (within : AlertsWithin keys old new)
    {event : Event}
    (used : keys event.alertKey) :
    AlertsWithin keys old (new ++ [Alert.opened event]) := by
  refine ⟨by rw [List.length_append]; exact Nat.le_add_right_of_le within.kept, ?_⟩
  intro position alert found
  rcases Nat.lt_or_ge position new.length with earlier | beyond
  · rw [List.getElem?_append_left earlier] at found
    exact within.changed position alert found
  · rw [List.getElem?_append_right beyond] at found
    have newest := List.mem_of_getElem? found
    rw [List.mem_singleton.mp newest]
    exact Or.inr ⟨within.kept.trans beyond, used⟩

theorem resolved
    (within : AlertsWithin keys old new)
    {event : Event}
    (used : keys event.alertKey) :
    AlertsWithin keys old
      (FirstMatch.amendFirst (Alert.fires event.alertKey) (·.resolvedBy event) new) := by
  refine ⟨by rw [FirstMatch.length_amendFirst]; exact within.kept, ?_⟩
  intro position alert found
  rcases FirstMatch.getElem?_amendFirst new position with same | ⟨before, present, fires, amended⟩
  · exact within.changed position alert (same.symm.trans found)
  · obtain rfl := Option.some.inj (amended.symm.trans found)
    have sameKey : before.alertKey = event.alertKey := by
      simp only [Alert.fires, Bool.and_eq_true, decide_eq_true_eq] at fires
      exact fires.1
    rcases within.changed position before present with
      ⟨first, at_, equal | ⟨used, about⟩⟩ | ⟨beyond, used⟩
    · rw [equal] at sameKey
      exact Or.inl ⟨first, at_, Or.inr ⟨sameKey ▸ used, equal ▸ rfl⟩⟩
    · exact Or.inl ⟨first, at_, Or.inr ⟨used, about⟩⟩
    · exact Or.inr ⟨beyond, used⟩

end AlertsWithin

variable {F : Type} [Platform]

/-- The row notifies an event. -/
def OutboxRow.Notifies (event : Event) (row : OutboxRow) : Prop :=
  row.published = false ∧ ∃ id,
    row.msg = { Processor.deviceMessage event (MemStore.payloadOf event) with id } ∨
      row.msg = { Processor.alertMessage event (MemStore.payloadOf event) with id }

/-- The difference between two stores is the extent of one observation. -/
structure Extent
    (keys : String → Prop)
    (sample : Observation F)
    (store after : MemStore F) : Prop where
  observation : after.observation = store.observation.insert sample.observationID sample
  obsOrder : after.obsOrder = store.obsOrder ++ [sample.observationID]
  otherDevices : ∀ id, id ≠ sample.deviceID →
    after.devices.lookup id = store.devices.lookup id
  /-- The device of the observation keeps all but its last-seen instant, which does
  not move backwards. -/
  ownDevice : ∃ seen : Device → Time, (∀ old, old.lastSeen ≤ seen old) ∧
    after.devices.lookup sample.deviceID =
      (store.devices.lookup sample.deviceID).map fun old => { old with lastSeen := seen old }
  states : ∀ key, ¬keys key → after.states.lookup key = store.states.lookup key
  /-- The log keeps its transitions, and the observation caused the new ones. -/
  transitions : StringMap.Grows store.transitions store.trOrder after.transitions after.trOrder
    fun transition => keys transition.key ∧ transition.CausedBy sample
  /-- The events stay, and the observation caused the new ones. -/
  events : StringMap.Grows store.events store.evOrder after.events after.evOrder
    fun event => keys event.alertKey ∧ event.CausedBy sample
  /-- The rows of the outbox stay, and the new ones notify new events. -/
  outbox : ∃ rows, after.outbox = store.outbox ++ rows ∧ ∀ row ∈ rows, ∃ event,
    store.events.lookup event.eventID = none ∧ after.events.lookup event.eventID = some event ∧
      event.CausedBy sample ∧ row.Notifies event
  alerts : AlertsWithin keys store.alerts after.alerts
  automation : SameRequests store after

namespace Extent

variable {keys : String → Prop} {sample : Observation F} {store current : MemStore F}

theorem enter
    (keys : String → Prop)
    (sample : Observation F)
    (store : MemStore F) :
    Extent keys sample store ((store.withObservation sample).touched sample) := by
  have devices : ∃ devices, (store.withObservation sample).touched sample =
        { store.withObservation sample with devices } ∧
      (∀ id, id ≠ sample.deviceID → devices.lookup id = store.devices.lookup id) ∧
      ∃ seen : Device → Time, (∀ old, old.lastSeen ≤ seen old) ∧
        devices.lookup sample.deviceID =
          (store.devices.lookup sample.deviceID).map fun old =>
            { old with lastSeen := seen old } := by
    unfold MemStore.touched
    split
    · refine ⟨_, rfl, fun _ _ => rfl, Device.lastSeen, fun _ => le_rfl, ?_⟩
      exact Option.map_id'.symm
    · obtain ⟨devices, same, lookups⟩ := Tx.touchDevice_eq sample.deviceID sample.observedAt
        (⟨store.withObservation sample, []⟩ : Tx F)
      refine ⟨devices, same, fun id other => (lookups id).trans (if_neg other),
        fun old => if old.lastSeen < sample.observedAt then sample.observedAt else old.lastSeen,
        ?_, ?_⟩
      · intro old
        dsimp only
        split_ifs with later
        · exact later.le
        · exact le_rfl
      · rw [lookups, if_pos rfl]
        refine congrArg (Option.map · _) (funext fun old => ?_)
        dsimp only
        split_ifs <;> rfl
  obtain ⟨devices, same, others, own⟩ := devices
  rw [same]
  exact ⟨rfl, rfl, others, own, fun _ _ => rfl, .refl .., .refl ..,
    ⟨[], (List.append_nil _).symm, nofun⟩,
    .refl .., ⟨rfl, rfl, rfl, rfl⟩⟩

section

variable (extent : Extent keys sample store current)
include extent

theorem withEvent
    {event : Event}
    (used : keys event.alertKey)
    (caused : event.CausedBy sample) :
    Extent keys sample store (current.withEvent event) := by
  rcases current.withEvent_notes event with
    same | ⟨fresh, events, evOrder, ⟨rows, outbox, notifies⟩, alerts⟩
  · rwa [same]
  · have grown := extent.events.insert fresh ⟨used, caused⟩
    rw [← events, ← evOrder] at grown
    have absent : store.events.lookup event.eventID = none := by
      cases found : store.events.lookup event.eventID with
      | none => rfl
      | some old =>
          rw [extent.events.kept _ _ found] at fresh
          cases fresh
    have added : (current.withEvent event).events.lookup event.eventID = some event := by
      rw [events, Finmap.lookup_insert]
    have kept : ∀ id old, current.events.lookup id = some old →
        (current.withEvent event).events.lookup id = some old := by
      intro id old found
      rw [events, Finmap.lookup_insert_of_ne _ fun same => by
        rw [same, fresh] at found
        cases found]
      exact found
    have alertsWithin : AlertsWithin keys store.alerts (current.withEvent event).alerts := by
      rcases alerts with unchanged | ⟨-, opened⟩ | resolved
      · rw [unchanged]
        exact extent.alerts
      · rw [opened]
        exact extent.alerts.opened used
      · rw [resolved]
        exact extent.alerts.resolved used
    obtain ⟨earlier, queued, notified⟩ := extent.outbox
    have rowsAdded : ∃ rows, (current.withEvent event).outbox = store.outbox ++ rows ∧
        ∀ row ∈ rows, ∃ event', store.events.lookup event'.eventID = none ∧
          (current.withEvent event).events.lookup event'.eventID = some event' ∧
          event'.CausedBy sample ∧ row.Notifies event' := by
      refine ⟨earlier ++ rows, by rw [outbox, queued, List.append_assoc], ?_⟩
      intro row member
      rcases List.mem_append.mp member with old | new
      · obtain ⟨other, unknown, stored, cause, about⟩ := notified row old
        exact ⟨other, unknown, kept _ _ stored, cause, about⟩
      · exact ⟨event, absent, added, caused, notifies row new⟩
    obtain ⟨_, _, _, _, _, same⟩ := current.withEvent_eq event
    rw [same] at grown alertsWithin rowsAdded ⊢
    exact ⟨extent.observation, extent.obsOrder, extent.otherDevices, extent.ownDevice,
      extent.states, extent.transitions, grown, rowsAdded, alertsWithin,
      ⟨extent.automation.autoReq, extent.automation.autoOrder, extent.automation.autoRes,
        extent.automation.autoClaim⟩⟩

theorem withTransition
    {transition : Transition}
    (used : keys transition.key)
    (caused : transition.CausedBy sample) :
    Extent keys sample store (current.withTransition transition) := by
  unfold MemStore.withTransition
  cases known : current.transitions.lookup transition.transitionID with
  | some old => exact extent
  | none =>
      have grown := extent.transitions.insert known ⟨used, caused⟩
      exact ⟨extent.observation, extent.obsOrder, extent.otherDevices, extent.ownDevice,
        extent.states, grown, extent.events, extent.outbox, extent.alerts,
        ⟨extent.automation.autoReq, extent.automation.autoOrder, extent.automation.autoRes,
          extent.automation.autoClaim⟩⟩

theorem withState
    {record : StateRecord}
    (used : keys record.key) :
    Extent keys sample store
      { current with states := current.states.insert record.key record } := by
  refine ⟨extent.observation, extent.obsOrder, extent.otherDevices, extent.ownDevice, ?_,
    extent.transitions, extent.events, extent.outbox, extent.alerts,
    ⟨extent.automation.autoReq, extent.automation.autoOrder, extent.automation.autoRes,
      extent.automation.autoClaim⟩⟩
  intro key unused
  have other : key ≠ record.key := by
    rintro rfl
    exact unused used
  exact (Finmap.lookup_insert_of_ne _ other).trans (extent.states key unused)

theorem stored
    {key : String}
    (used : keys key)
    {origin : HealthState}
    {previous : Option StateRecord}
    {update : Update}
    (continues : update.Continues key origin previous sample) :
    Extent keys sample store (update.stored current) := by
  have put := extent.withState (continues.sameKey.symm ▸ used)
  have moved : Extent keys sample store (update.transitions.foldl MemStore.withTransition
      { current with states := current.states.insert update.record.key update.record }) := by
    rcases continues.moves with ⟨silent, -⟩ | ⟨move, only, -, about, -, -, caused⟩
    · rwa [silent]
    · rw [only]
      exact put.withTransition (about.symm ▸ used) caused
  refine List.foldlRecOn _ _ moved fun _ holds event member => ?_
  obtain ⟨about, caused⟩ := continues.events event member
  exact holds.withEvent (about.symm ▸ used) caused

end

theorem effect [GoFloat F]
    (processor : Processor F)
    (sample : Observation F)
    (device : Device)
    {store : MemStore F}
    (sound : store.Sound) :
    Extent (processor.Uses sample device) sample store
      (processor.effect sample device store) := by
  -- A tracker moves an entity on from the record that is stored under its key.
  refine (List.foldlRecOn (motive := fun current =>
    (∀ key record, current.states.lookup key = some record → record.key = key) ∧
      Extent (processor.Uses sample device) sample store current)
    (processor.trackers sample device) (Tracker.turn store sample)
    ⟨?_, .enter _ sample store⟩ ?_).2
  · obtain ⟨devices, same⟩ := (store.withObservation sample).touched_eq sample
    rw [same]
    exact sound.keyed
  · rintro current ⟨keyed, extent⟩ tracker member
    simp only [Tracker.turn]
    split
    · next applied =>
        have continues := Tracker.evaluate_continues (keyed _) applied
        refine ⟨?_, extent.stored (Processor.uses_iff.mpr ⟨tracker, member, rfl⟩) continues⟩
        obtain ⟨_, _, _, _, _, _, _, same⟩ := (tracker.evaluate store sample
          (current.states.lookup (tracker.keyFor sample.deviceID sample.labels))).stored_eq current
        intro key record found
        rw [same, StringMap.lookup_insert_ite] at found
        split_ifs at found with own
        · rw [← Option.some.inj found, own]
        · exact keyed key record found
    · exact ⟨keyed, extent⟩

end Extent

namespace Processor

variable [GoFloat F]

/-- Footprint of one observation. A call that succeeds from a reachable store and
reports neither a duplicate nor a drop changes the store within the extent of its
observation, for the keys that the definitions and rules of its metric and device
derive from it. Scripts may change the metadata of the observation before. -/
theorem observation_extent
    {store : MemStore F}
    (reached : Reached store)
    (processor : Processor F)
    (attempt : Attempt F)
    (faithful : attempt.MetadataOnly)
    (sample : Observation F)
    (outcome : Outcome)
    (succeeded : (processor.process attempt sample store).1 = .ok outcome)
    (single : outcome.duplicate = false)
    (kept : outcome.dropped = "") :
    ∃ device metadata, processor.inventory.lookup sample.deviceID = some device ∧
      store.observation.lookup sample.observationID = none ∧
      Extent (processor.Uses sample device) { sample with metadata } store
        (processor.process attempt sample store).2 := by
  rcases processor.process_effect attempt sample store with
    ⟨-, reports⟩ | ⟨enriched, device, prepares, fresh, result, -⟩
  · rcases (reports outcome succeeded).1 with repeated | dropped
    · rw [single] at repeated
      cases repeated
    · exact absurd kept dropped
  · obtain ⟨same, registered, -⟩ := prepares.same faithful
    rw [same] at fresh
    refine ⟨device, enriched.metadata, registered, fresh, ?_⟩
    rw [result, ← same]
    have uses : processor.Uses enriched device = processor.Uses sample device := by
      rw [same]
      rfl
    rw [← uses]
    exact .effect processor enriched device reached.sound

end Processor

end InfraObserver

namespace InfraObserver.Processor

attribute [local instance] Platform.plain GoFloat.integer

/-- A definition and a rule went down with the first sample. The second brings both
back, with one event each. -/
theorem recovery_extent :
    let first := Definition.reachabilitySample "o1" 1 false
    let second := Definition.reachabilitySample "o2" 2 true
    let store := flapProcessor.runSteps [.process (Attempt.plain ℤ) first] .new
    ((flapProcessor.process (Attempt.plain ℤ) second store).1.toOption.map fun outcome =>
        (outcome.duplicate, outcome.dropped, outcome.events.length)) = some (false, "", 2) ∧
      ∃ device metadata, flapProcessor.inventory.lookup "sw-1" = some device ∧
        store.observation.lookup "o2" = none ∧
        Extent (flapProcessor.Uses second device) { second with metadata } store
          (flapProcessor.process (Attempt.plain ℤ) second store).2 := by
  intro first second store
  have reports : ((flapProcessor.process (Attempt.plain ℤ) second store).1.toOption.map
      fun outcome => (outcome.duplicate, outcome.dropped, outcome.events.length)) =
        some (false, "", 2) := by decide +kernel
  refine ⟨reports, ?_⟩
  obtain ⟨outcome, found, answers⟩ := Option.map_eq_some_iff.mp reports
  obtain ⟨single, kept, -⟩ := by simpa only [Prod.mk.injEq] using answers
  have succeeded : (flapProcessor.process (Attempt.plain ℤ) second store).1 = .ok outcome := by
    cases result : (flapProcessor.process (Attempt.plain ℤ) second store).1 with
    | error failure =>
        rw [result] at found
        cases found
    | ok value =>
        rw [result] at found
        obtain rfl := Option.some.inj found
        rfl
  exact observation_extent (.runSteps (.start ∅) flapProcessor _) flapProcessor (Attempt.plain ℤ)
    Attempt.plain_metadataOnly second outcome succeeded single kept

end InfraObserver.Processor
