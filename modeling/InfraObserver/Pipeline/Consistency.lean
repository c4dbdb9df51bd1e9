import InfraObserver.Pipeline.Redelivery

/-!
# Alerts, states and notifications agree over whole runs

From an empty store, any run of `Process` and `Sweep` calls keeps the books, as
long as no call makes a state definition and a rule emit events with the same
id. That can happen: the id of a rule's event digests the bare id of the rule,
so it collides with the event of a definition of the same id when the
observation itself carries the label `rule_id` with that value.
-/

namespace InfraObserver

variable {F : Type} [GoFloat F] [Platform]

/-- The events of a state definition on a sample, from the state before. -/
def Definition.emits (definition : Definition F) (store : MemStore F) (sample : Observation F) :
    List Event :=
  (definition.evaluate
    (store.states.lookup (definition.keyFor sample.deviceID sample.labels)) sample).events

/-- The events of a rule on a sample, from the state before. -/
def Rule.emits (rule : Rule F) (store : MemStore F) (sample : Observation F) : List Event :=
  (rule.evaluate (store.states.lookup (rule.keyFor sample.deviceID sample.labels))
    (rule.windowSamples store sample) sample).events

namespace Tracker

/-- The events of a tracker on a sample, from the state before. -/
def emits (store : MemStore F) (sample : Observation F) (tracker : Tracker F) : List Event :=
  (tracker.evaluate store sample
    (store.states.lookup (tracker.keyFor sample.deviceID sample.labels))).events

/-- The id of a tracker among those of its kind. -/
def name : Tracker F → String ⊕ String
  | .state definition => .inl definition.id
  | .rule watch => .inr watch.id

/-- What the id of an event digests of its tracker and of the labels. -/
def source (labels : StringMap String) : Tracker F → String × String
  | .state definition => (definition.id, labelsKey labels)
  | .rule watch => (watch.id, labelsKey (watch.eventLabels labels))

variable {store : MemStore F} {sample : Observation F} {previous : Option StateRecord}

theorem evaluate_event_id
    {tracker : Tracker F}
    {event : Event}
    (emits : event ∈ (tracker.evaluate store sample previous).events) :
    event.eventID = stableID ["evt", sample.deviceID, (tracker.source sample.labels).1,
        (tracker.source sample.labels).2, event.type, sample.observationID] ∧
      event.observationID = sample.observationID := by
  cases tracker with
  | state definition => exact Definition.evaluate_event_id emits
  | rule watch => exact Rule.evaluate_event_id emits

theorem not_applies_of_seen
    (tracker : Tracker F)
    {record : StateRecord}
    (seen : record.lastObservationID = sample.observationID) :
    tracker.applies store sample (some record) = false := by
  cases tracker with
  | state definition => simp [applies, evaluate, definition.evaluate_seen seen]
  | rule watch => simp [applies, evaluate, watch.evaluate_seen seen]

theorem evaluate_stamps
    {tracker : Tracker F}
    (applied : tracker.applies store sample previous = true) :
    (tracker.evaluate store sample previous).record.lastObservationID = sample.observationID := by
  simp only [applies, decide_eq_true_eq] at applied
  cases tracker with
  | state definition => exact Definition.evaluate_stamps applied
  | rule watch => exact Rule.evaluate_stamps applied

end Tracker

namespace Processor

/-- On this sample a state definition and a rule of the same id both emit an
event of the same type, and the sample's own labels already name the rule: the
two events have the same id. -/
def Clash
    (processor : Processor F)
    (store : MemStore F)
    (sample : Observation F)
    (device : Device) : Prop :=
  ∃ definition ∈ processor.states.forMetric sample.metric device.deviceType,
    ∃ rule ∈ processor.rules.forMetric sample.metric device,
      definition.id = rule.id ∧
        labelsKey sample.labels = labelsKey (rule.eventLabels sample.labels) ∧
        ∃ first ∈ definition.emits store sample, ∃ second ∈ rule.emits store sample,
          first.type = second.type

/-- A call that makes no definition and rule clash. -/
def ClearCall
    (processor : Processor F)
    (attempt : Attempt F)
    (sample : Observation F)
    (store : MemStore F) : Prop :=
  ∀ enriched device, processor.Prepares attempt sample enriched device →
    ¬processor.Clash store enriched device

/-- No state definition has the key of a rule. -/
def SeparateKeys (processor : Processor F) : Prop :=
  ∀ definition ∈ processor.states.all, ∀ rule ∈ processor.rules.all,
    ∀ deviceID labels deviceID' labels',
      definition.keyFor deviceID labels ≠ rule.keyFor deviceID' labels'

/-! ## Inside one transaction -/

/-- What holds between the steps of the transaction for `sample`, which started
from `before`: the books are kept, the observation is stored, a record is as
before or was written for this sample, and the events of this sample come from
the trackers already done. -/
structure Progress
    (processor : Processor F)
    (before : MemStore F)
    (sample : Observation F)
    (done : List (Tracker F))
    (store : MemStore F) : Prop where
  books : ∃ notified, Books processor store notified
  observation : store.observation = (before.withObservation sample).observation
  obsOrder : store.obsOrder = (before.withObservation sample).obsOrder
  states : ∀ key, store.states.lookup key = before.states.lookup key ∨
    ∃ record, store.states.lookup key = some record ∧
      record.lastObservationID = sample.observationID
  events : ∀ id event, store.events.lookup id = some event →
    event.observationID = sample.observationID →
      ∃ tracker ∈ done, event ∈ tracker.emits before sample

/-- What the loops of `Process` know about an update that is not ignored, before
they store it. -/
structure Fitting
    (processor : Processor F)
    (store : MemStore F)
    (key : String)
    (update : Update) : Prop where
  moves : update.Moves key (alertingBefore (store.states.lookup key))
  hasKey : key ≠ ""
  recovers : update.record.state = .recovering →
    ∃ definition ∈ processor.states.all, ∃ deviceID labels,
      key = definition.keyFor deviceID labels
  fresh : ∀ event ∈ update.events, store.events.lookup event.eventID = none

variable {processor : Processor F} {before : MemStore F} {sample : Observation F}
variable {done : List (Tracker F)} {store : MemStore F} {device : Device} {tracker : Tracker F}

omit [GoFloat F] in
theorem withEvent_records
    {event : Event}
    (fresh : store.events.lookup event.eventID = none)
    (hasKey : event.alertKey ≠ "")
    (fits : store.alerts.any (Alert.fires event.alertKey) = event.resolves) :
    Recorded event store (store.withEvent event) := by
  unfold MemStore.withEvent MemStore.withAlert
  dsimp only [MemStore.enqueue]
  rw [if_neg (by simp [fresh]), if_neg hasKey, if_pos fits]
  refine ⟨rfl, rfl, rfl, rfl, ⟨_, _, List.append_assoc _ _ _, rfl, rfl, rfl, rfl⟩, ?_⟩
  cases direction : event.resolves with
  | false => exact Or.inl ⟨rfl, rfl⟩
  | true =>
      rw [direction, ← List.findIdx?_isSome] at fits
      obtain ⟨index, found⟩ := Option.isSome_iff_exists.mp fits
      obtain ⟨earlier, firing, later, table, _, fires, before⟩ := split_firing found
      refine Or.inr ⟨rfl, earlier, firing, later, table, fires, before, ?_⟩
      rw [if_pos rfl, table]
      exact FirstMatch.amendFirst_append before fires

theorem Progress.previous
    (progress : Progress processor before sample done store)
    (applied : tracker.applies before sample
      (store.states.lookup (tracker.keyFor sample.deviceID sample.labels)) = true) :
    store.states.lookup (tracker.keyFor sample.deviceID sample.labels) =
      before.states.lookup (tracker.keyFor sample.deviceID sample.labels) := by
  rcases progress.states (tracker.keyFor sample.deviceID sample.labels) with
    same | ⟨record, found, stamped⟩
  · exact same
  · rw [found, tracker.not_applies_of_seen stamped] at applied
    cases applied

theorem Progress.turn
    (progress : Progress processor before sample done store)
    (tracker : Tracker F)
    (fitting : let key := tracker.keyFor sample.deviceID sample.labels
      tracker.applies before sample (store.states.lookup key) = true →
        Fitting processor store key (tracker.evaluate before sample (store.states.lookup key))) :
    Progress processor before sample (done ++ [tracker])
      (tracker.turn before sample store) := by
  obtain ⟨notified, books⟩ := progress.books
  have old : ∀ id event, store.events.lookup id = some event →
      event.observationID = sample.observationID →
        ∃ other ∈ done ++ [tracker], event ∈ other.emits before sample := by
    intro id event found same
    obtain ⟨other, member, emits⟩ := progress.events id event found same
    exact ⟨other, List.mem_append_left _ member, emits⟩
  unfold Tracker.turn
  dsimp only at fitting ⊢
  split
  · next applied =>
      obtain ⟨⟨sameKey, moved⟩, hasKey, recovers, fresh⟩ := fitting applied
      have stamped := Tracker.evaluate_stamps applied
      have own : ∀ event ∈ (tracker.evaluate before sample (store.states.lookup
          (tracker.keyFor sample.deviceID sample.labels))).events,
          event ∈ tracker.emits before sample := by
        rw [progress.previous applied]
        exact fun _ emits => emits
      generalize tracker.keyFor sample.deviceID sample.labels = key at *
      generalize tracker.evaluate before sample (store.states.lookup key) = update at *
      unfold Update.stored
      obtain ⟨table, order, middleStore⟩ := MemStore.foldl_withTransition_eq update.transitions
        { store with states := store.states.insert update.record.key update.record }
      generalize update.transitions.foldl MemStore.withTransition
        { store with states := store.states.insert update.record.key update.record } = middle at *
      have written : middle.states = store.states.insert key update.record := by
        rw [middleStore, ← sameKey]
      have newStates : ∀ other, middle.states.lookup other = before.states.lookup other ∨
          ∃ record, middle.states.lookup other = some record ∧
            record.lastObservationID = sample.observationID := by
        intro other
        rw [written, StringMap.lookup_insert_ite]
        split
        · exact Or.inr ⟨_, rfl, stamped⟩
        · exact progress.states other
      have sameEvents : middle.events = store.events := by rw [middleStore]
      have sameAlerts : middle.alerts = store.alerts := by rw [middleStore]
      have sameOutbox : middle.outbox = store.outbox := by rw [middleStore]
      have sameObservation : middle.observation = store.observation := by rw [middleStore]
      have sameOrder : middle.obsOrder = store.obsOrder := by rw [middleStore]
      rcases moved with ⟨silent, sameSide⟩ | ⟨event, emitted, alertKey, resolves, side⟩
      · rw [silent]
        refine ⟨⟨notified, books.silent written sameEvents sameAlerts sameOutbox sameObservation
          sameKey sameSide recovers⟩, sameObservation.trans progress.observation,
          sameOrder.trans progress.obsOrder, newStates, ?_⟩
        rw [List.foldl_nil, sameEvents]
        exact old
      · have member : event ∈ update.events := by rw [emitted]; exact List.mem_singleton_self _
        obtain ⟨digest, sameSample⟩ := Tracker.evaluate_event_id (own event member)
        have recording : Recorded event middle (middle.withEvent event) := by
          apply withEvent_records
          · rw [sameEvents]
            exact fresh event member
          · rw [alertKey]
            exact hasKey
          · rw [sameAlerts, alertKey, books.openness, resolves]
        rw [emitted, List.foldl_cons, List.foldl_nil]
        refine ⟨⟨notified ++ [event], books.recorded written sameEvents sameAlerts sameOutbox
          sameObservation recording sameKey alertKey resolves side recovers
          (fresh event member) ⟨_, _, _, sameSample ▸ digest⟩ ?_⟩,
          recording.observation.trans (sameObservation.trans progress.observation),
          recording.obsOrder.trans (sameOrder.trans progress.obsOrder), ?_, ?_⟩
        · rw [sameSample, progress.observation]
          simp [MemStore.withObservation]
        · rw [recording.states]
          exact newStates
        · intro id other found same
          rw [recording.events, sameEvents, StringMap.lookup_insert_ite] at found
          split at found
          · obtain rfl := Option.some.inj found
            exact ⟨tracker, by simp, own event member⟩
          · exact old id other found same
  · exact { progress with events := old }

/-- An event of the present sample that is stored already has its digest in
common with an event of a tracker already done. -/
theorem Progress.collision
    (injective : Function.Injective stableID)
    (progress : Progress processor before sample done store)
    {event other : Event}
    {first second : String}
    (digest : event.eventID = stableID ["evt", sample.deviceID, first, second, event.type,
      sample.observationID])
    (found : store.events.lookup event.eventID = some other) :
    other.type = event.type ∧ ∃ earlier ∈ done,
      earlier.source sample.labels = (first, second) ∧ other ∈ earlier.emits before sample := by
  obtain ⟨notified, books⟩ := progress.books
  obtain ⟨sameID, ⟨_, _, _, parts⟩, _⟩ := books.identified _ _ found
  have sameParts := injective (digest.symm.trans parts)
  simp only [List.cons.injEq, and_true, true_and] at sameParts
  obtain ⟨_, _, _, sameType, sameSample⟩ := sameParts
  obtain ⟨earlier, member, emits⟩ := progress.events _ _ found sameSample.symm
  obtain ⟨otherID, _⟩ := Tracker.evaluate_event_id emits
  have again := injective (digest.symm.trans (sameID.symm.trans otherID))
  simp only [List.cons.injEq, and_true, true_and] at again
  exact ⟨sameType.symm, earlier, member, Prod.ext again.1.symm again.2.1.symm, emits⟩

/-- Only a definition and a rule that clash emit events with the same digest. -/
theorem clash_of_source
    {first second : Tracker F}
    (listed : first ∈ processor.trackers sample device)
    (listed' : second ∈ processor.trackers sample device)
    (different : first.name ≠ second.name)
    (same : first.source sample.labels = second.source sample.labels)
    {left right : Event}
    (emits : left ∈ first.emits before sample)
    (emits' : right ∈ second.emits before sample)
    (types : left.type = right.type) :
    processor.Clash before sample device := by
  simp only [trackers, List.mem_append, List.mem_map] at listed listed'
  rcases listed with ⟨definition, member, rfl⟩ | ⟨rule, member, rfl⟩ <;>
    rcases listed' with ⟨definition', member', rfl⟩ | ⟨rule', member', rfl⟩ <;>
    obtain ⟨ids, labels⟩ := Prod.mk.inj same
  · exact absurd (congrArg Sum.inl ids) different
  · exact ⟨definition, member, rule', member', ids, labels, left, emits, right, emits', types⟩
  · exact ⟨definition', member', rule, member, ids.symm, labels.symm, right, emits', left, emits,
      types.symm⟩
  · exact absurd (congrArg Sum.inr ids) different

section

variable (injective : Function.Injective stableID) (separate : processor.SeparateKeys)
include injective separate

/-- The update of a tracker whose name is new among those done fits, unless a
definition and a rule clash. -/
theorem Progress.fitting
    (clear : ¬processor.Clash before sample device)
    (progress : Progress processor before sample done store)
    (listed : ∀ earlier ∈ done, earlier ∈ processor.trackers sample device)
    (member : tracker ∈ processor.trackers sample device)
    (distinct : ∀ earlier ∈ done, earlier.name ≠ tracker.name)
    (applied : tracker.applies before sample
      (store.states.lookup (tracker.keyFor sample.deviceID sample.labels)) = true) :
    Fitting processor store (tracker.keyFor sample.deviceID sample.labels)
      (tracker.evaluate before sample
        (store.states.lookup (tracker.keyFor sample.deviceID sample.labels))) := by
  obtain ⟨notified, books⟩ := progress.books
  have fresh : ∀ event ∈ (tracker.evaluate before sample (store.states.lookup
      (tracker.keyFor sample.deviceID sample.labels))).events,
      store.events.lookup event.eventID = none := by
    intro event emits
    cases found : store.events.lookup event.eventID with
    | none => rfl
    | some other =>
        obtain ⟨types, earlier, done, same, emitted⟩ :=
          progress.collision injective (Tracker.evaluate_event_id emits).1 found
        rw [progress.previous applied] at emits
        exact absurd (clash_of_source (listed earlier done) member (distinct earlier done) same
          emitted emits types) clear
  replace applied := of_decide_eq_true applied
  cases tracker with
  | state definition =>
      have known : definition ∈ processor.states.all :=
        processor.states.forMetric_subset _ _ definition (by simpa [trackers] using member)
      exact ⟨Definition.evaluate_moves (fun record => books.keyed _ record) applied,
        definition.keyFor_ne_empty _ _, fun _ => ⟨definition, known, _, _, rfl⟩, fresh⟩
  | rule rule =>
      have known : rule ∈ processor.rules.forMetric sample.metric device := by
        simpa [trackers] using member
      have settled : ∀ record ∈ store.states.lookup (rule.keyFor sample.deviceID sample.labels),
          record.state ≠ .recovering := by
        intro record found recovering
        obtain ⟨definition, member, deviceID, labels, same⟩ :=
          books.recovering _ record found recovering
        exact separate definition member rule (List.mem_filter.mp known).1 _ _ _ _ same.symm
      obtain ⟨moves, neverRecovers⟩ :=
        Rule.evaluate_moves (fun record => books.keyed _ record) settled applied
      exact ⟨moves, rule.keyFor_ne_empty _ _, fun recovers => absurd recovers neverRecovers, fresh⟩

/-- The turns of the trackers make progress, as long as no definition and rule clash. -/
theorem Progress.turns
    (clear : ¬processor.Clash before sample device)
    (rest : List (Tracker F))
    (progress : Progress processor before sample done store)
    (listed : ∀ tracker ∈ done ++ rest, tracker ∈ processor.trackers sample device)
    (distinct : ((done ++ rest).map Tracker.name).Nodup) :
    Progress processor before sample (done ++ rest)
      (rest.foldl (Tracker.turn before sample) store) := by
  induction rest generalizing done store with
  | nil => simpa using progress
  | cons tracker rest ih =>
      have different : ∀ earlier ∈ done, earlier.name ≠ tracker.name := by
        rw [List.map_append, List.nodup_append] at distinct
        exact fun earlier member => distinct.2.2 _ (List.mem_map_of_mem member) _ (by simp)
      have progressed := progress.turn tracker (progress.fitting injective separate clear
        (fun earlier member => listed earlier (List.mem_append_left _ member))
        (listed tracker (by simp)) different)
      have shifted : done ++ tracker :: rest = (done ++ [tracker]) ++ rest := by simp
      rw [shifted] at listed distinct ⊢
      exact ih progressed listed distinct

theorem effect_keeps_books
    {notified : List Event}
    (books : Books processor store notified)
    (clear : ¬processor.Clash store sample device)
    (fresh : store.observation.lookup sample.observationID = none) :
    ∃ notified, Books processor (processor.effect sample device store) notified := by
  obtain ⟨devices, touchedStore⟩ := (store.withObservation sample).touched_eq sample
  have start : Progress processor store sample []
      ((store.withObservation sample).touched sample) := by
    rw [touchedStore]
    refine ⟨⟨notified, books.of_same rfl rfl rfl rfl ?_⟩, rfl, rfl, fun _ => Or.inl rfl, ?_⟩
    · intro id stored
      dsimp only [MemStore.withObservation]
      rw [StringMap.lookup_insert_ite]
      split
      · rfl
      · exact stored
    · -- No event of a new observation is stored yet.
      intro id event found same
      obtain ⟨_, _, stored⟩ := books.identified id event found
      rw [same, fresh] at stored
      simp at stored
  have distinct : ((processor.trackers sample device).map Tracker.name).Nodup := by
    have states := (processor.states.forMetric_distinct sample.metric device.deviceType).map
      (Sum.inl_injective (β := String))
    have rules := (processor.rules.forMetric_distinct sample.metric device).map
      (Sum.inr_injective (α := String))
    rw [List.map_map] at states rules
    simp only [trackers, List.map_append, List.map_map, List.nodup_append]
    exact ⟨states, rules, by simp [Tracker.name]⟩
  exact (start.turns injective separate clear _ (fun _ => id) distinct).books

/-! ## Whole runs -/

theorem process_keeps_books
    (books : ∃ notified, Books processor store notified)
    {attempt : Attempt F}
    (clear : processor.ClearCall attempt sample store) :
    ∃ notified, Books processor (processor.process attempt sample store).2 notified := by
  rcases processor.process_effect attempt sample store with
    ⟨same, _⟩ | ⟨enriched, device, prepares, fresh, result, _⟩
  · rwa [same]
  · obtain ⟨notified, kept⟩ := books
    rw [result]
    exact effect_keeps_books injective separate kept (clear enriched device prepares) fresh

/-- A step of a run: a call of `Process` or of `Sweep`. -/
inductive Step (F : Type)
  | process (attempt : Attempt F) (sample : Observation F)
  | sweep (now : Time) (devices : List Device) (listing : Option Error)
      (attempts : ℕ → Attempt F)

/-- The store after a step. -/
def Step.apply (processor : Processor F) : Step F → MemStore F → MemStore F
  | .process attempt sample, store => (processor.process attempt sample store).2
  | .sweep now devices listing attempts, store =>
      (processor.sweep now devices listing attempts store).2

/-- No call of the loop of `Sweep` makes a definition and a rule clash. -/
def ClearLoop (processor : Processor F) (attempts : ℕ → Attempt F) :
    List (Observation F) → ℕ → MemStore F → Prop
  | [], _, _ => True
  | sample :: rest, count, store =>
      processor.ClearCall (attempts count) sample store ∧
        match processor.process (attempts count) sample store with
        | (.error _, _) => True
        | (.ok _, store) => processor.ClearLoop attempts rest (count + 1) store

/-- No call of the step makes a definition and a rule clash. -/
def Step.Clear (processor : Processor F) : Step F → MemStore F → Prop
  | .process attempt sample, store => processor.ClearCall attempt sample store
  | .sweep now devices _ attempts, store =>
      processor.ClearLoop attempts (processor.sweepSamples now devices store) 0 store

/-- The stores that runs of steps without a clash reach. -/
inductive ClearRun (processor : Processor F) (start : MemStore F) : MemStore F → Prop
  | start : ClearRun processor start start
  | step {store : MemStore F} (next : Step F) :
      ClearRun processor start store → next.Clear processor store →
        ClearRun processor start (next.apply processor store)

theorem sweepLoop_keeps_books
    {attempts : ℕ → Attempt F}
    (samples : List (Observation F))
    {count : ℕ}
    (books : ∃ notified, Books processor store notified)
    (clear : processor.ClearLoop attempts samples count store) :
    ∃ notified, Books processor (processor.sweepLoop attempts samples count store).2
      notified := by
  induction samples generalizing count store with
  | nil => exact books
  | cons sample rest ih =>
      obtain ⟨clearCall, clearRest⟩ := clear
      have kept := process_keeps_books injective separate books clearCall
      unfold sweepLoop
      split
      · next failure after result => rwa [result] at kept
      · next outcome after result =>
          rw [result] at kept clearRest
          exact ih kept clearRest

theorem ClearRun.books
    {devices : StringMap Device}
    (run : ClearRun processor { (MemStore.new : MemStore F) with devices } store) :
    ∃ notified, Books processor store notified := by
  induction run with
  | start => exact ⟨[], Books.empty processor devices⟩
  | step next _ clear ih =>
      cases next with
      | process attempt sample =>
          exact process_keeps_books injective separate ih clear
      | sweep now devices listing attempts =>
          cases listing with
          | some failure => exact ih
          | none => exact sweepLoop_keeps_books injective separate _ ih clear

end

/-- Alerts, state records, events and notifications agree. -/
structure Consistent (processor : Processor F) (store : MemStore F) : Prop where
  firingOnce : ∀ key, (store.alerts.filter (Alert.fires key)).length ≤ 1
  /-- An alert fires exactly for the entities that are DOWN or RECOVERING. -/
  firing_iff : ∀ key, (∃ alert ∈ store.alerts, alert.fires key = true) ↔
    ∃ record, store.states.lookup key = some record ∧
      (record.state = .down ∨ record.state = .recovering)
  /-- For the key of a rule the state is DOWN. -/
  ruleFiring_iff : ∀ rule ∈ processor.rules.all, ∀ deviceID labels,
    (∃ alert ∈ store.alerts, alert.fires (rule.keyFor deviceID labels) = true) ↔
      ∃ record, store.states.lookup (rule.keyFor deviceID labels) = some record ∧
        record.state = .down
  /-- Every stored event has exactly one device row in the outbox. -/
  deviceRows : ∀ id event, store.events.lookup id = some event →
    (store.outbox.filter (OutboxRow.isDevice id)).length = 1
  /-- The alert rows of the outbox are the openings and resolutions of the
  alerts, one row each, and they alternate for each key. -/
  alertRows : ∃ notified : List Event,
    (store.outbox.filter OutboxRow.isAlert).map (·.msg.msgID) =
        notified.map (·.eventID ++ ".alert") ∧
      (∀ event ∈ notified, store.events.lookup event.eventID = some event) ∧
      ∀ key, Lifecycle (eventsOf key notified) (alertsOf key store.alerts) ∧
        Alternating (eventsOf key notified)

/-- Kept books make the tables agree. -/
theorem Consistent.of_books
    (separate : processor.SeparateKeys)
    {notified : List Event}
    (books : Books processor store notified) :
    processor.Consistent store := by
  have firing : ∀ key, (∃ alert ∈ store.alerts, alert.fires key = true) ↔
      ∃ record, store.states.lookup key = some record ∧
        (record.state = .down ∨ record.state = .recovering) := by
    intro key
    have openness := books.openness key
    rw [Bool.eq_iff_iff, List.any_eq_true] at openness
    rw [openness]
    cases store.states.lookup key with
    | none => simp
    | some record => cases state : record.state <;> simp [state, HealthState.alerting]
  refine ⟨fun key => ?_, firing, fun rule member deviceID labels => ?_, books.deviceRows,
    notified, books.alertRows, books.notifiedStored,
    fun key => ⟨books.lifecycle key, (books.lifecycle key).alternating⟩⟩
  · have sameAlerts : store.alerts.filter (Alert.fires key) =
        (alertsOf key store.alerts).filter fun alert => alert.status = .firing := by
      unfold alertsOf
      rw [List.filter_filter]
      apply List.filter_congr
      intro alert _
      rw [Bool.and_comm]
      rfl
    rw [sameAlerts]
    exact (books.lifecycle key).firing_once
  · rw [firing]
    constructor
    · rintro ⟨record, found, down | recovering⟩
      · exact ⟨record, found, down⟩
      · obtain ⟨definition, known, _, _, same⟩ := books.recovering _ record found recovering
        exact absurd same.symm (separate definition known rule member _ _ _ _)
    · rintro ⟨record, found, down⟩
      exact ⟨record, found, Or.inl down⟩

/-- In every run of `Process` and `Sweep` calls from a store without records,
whatever is delivered and whatever fails, the tables agree after every call, as
long as no call makes a definition and a rule emit events with the same id. -/
theorem alerts_consistent
    (injective : Function.Injective (stableID : List String → String))
    (processor : Processor F)
    (separate : processor.SeparateKeys)
    (devices : StringMap Device)
    (store : MemStore F)
    (run : ClearRun processor { (MemStore.new : MemStore F) with devices } store) :
    processor.Consistent store := by
  obtain ⟨notified, books⟩ := run.books injective separate
  exact Consistent.of_books separate books

end Processor

end InfraObserver

namespace InfraObserver.Processor

attribute [local instance] Platform.plain GoFloat.integer

/-! ## A definition and a rule of one id -/

/-- A definition that alerts on the first unreachable sample. -/
def flapDefinition : Definition ℤ :=
  { Definition.reachability with
    id := "flap"
    failAfter := 1
    failFor := .zero
    alert := ⟨"flapping", .critical, ""⟩ }

/-- A rule of the same id. -/
def flapRule : Rule ℤ :=
  { Rule.unreachable with id := "flap" }

/-- A processor with both. -/
def flapProcessor : Processor ℤ :=
  { plainProcessor with
    states :=
      { all := [flapDefinition]
        valid := by
          intro definition member
          rw [List.mem_singleton.mp member, Definition.valid_iff_problems]
          decide +kernel
        distinct := by decide }
    rules :=
      { all := [flapRule]
        valid := by
          intro rule member
          rw [List.mem_singleton.mp member, Rule.valid_iff_problems]
          decide +kernel
        distinct := by decide } }

/-- A sample that carries the label `rule_id` itself. -/
def flapSample : Observation ℤ :=
  { Definition.reachabilitySample "o1" 1 false with
    labels := (∅ : StringMap String).insert "rule_id" "flap" }

theorem flapProcessor_separate : flapProcessor.SeparateKeys := by
  intro definition known rule member deviceID labels deviceID' labels' same
  simp only [flapProcessor, List.mem_singleton] at known member
  subst known member
  have first := congrArg (fun key : String => key.toList.head?) same
  simp [Definition.keyFor, Rule.keyFor, flapDefinition, flapRule] at first

/-- An unreachable sample without labels opens an alert of both, the second sample changes
nothing, and the tables agree. -/
theorem both_alerts_consistent :
    let first := Definition.reachabilitySample "o1" 1 false
    let second := Definition.reachabilitySample "o2" 2 false
    let store := flapProcessor.runCalls
      [⟨Attempt.plain ℤ, first⟩, ⟨Attempt.plain ℤ, second⟩] .new
    store.alerts.any (Alert.fires "flap/sw-1/") = true ∧
      store.alerts.any (Alert.fires "rule:flap/sw-1/") = true ∧
      flapProcessor.Consistent store := by
  intro first second store
  have clear : ∀ id instant store, flapProcessor.ClearCall (Attempt.plain ℤ)
      (Definition.reachabilitySample id instant false) store := by
    rintro id instant store enriched device ⟨attached, found, hooked⟩
      ⟨definition, stated, rule, ruled, -, labels, -⟩
    have unlabelled : attached.labels = ∅ := by
      cases found
      rfl
    cases (Except.ok.inj hooked : attached = enriched)
    rw [List.mem_singleton.mp (List.mem_filter.mp ruled).1, unlabelled] at labels
    exact absurd labels (by decide +kernel)
  refine ⟨by decide +kernel, by decide +kernel, ?_⟩
  exact alerts_consistent plainDigest_injective flapProcessor flapProcessor_separate ∅ store
    (.step (.process _ second) (.step (.process _ first) .start (clear _ _ _)) (clear _ _ _))

/-- One sample from the empty store: the rule goes DOWN, but its event has the id
of the definition's event, so it is taken for a replay and no alert fires. -/
theorem rule_alert_lost :
    Function.Injective (stableID : List String → String) ∧ flapProcessor.SeparateKeys ∧
      let store := (flapProcessor.process (Attempt.plain ℤ) flapSample .new).2
      (store.states.lookup "rule:flap/sw-1/rule_id=flap").map StateRecord.state = some .down ∧
        store.alerts.any (Alert.fires "rule:flap/sw-1/rule_id=flap") = false ∧
        ¬flapProcessor.Consistent store := by
  refine ⟨plainDigest_injective, flapProcessor_separate, ?_⟩
  intro store
  have down : (store.states.lookup "rule:flap/sw-1/rule_id=flap").map StateRecord.state =
      some .down := by decide +kernel
  have quiet : store.alerts.any (Alert.fires "rule:flap/sw-1/rule_id=flap") = false := by
    decide +kernel
  refine ⟨down, quiet, fun consistent => ?_⟩
  obtain ⟨record, found, state⟩ := Option.map_eq_some_iff.mp down
  obtain ⟨alert, member, fires⟩ :=
    (consistent.firing_iff _).mpr ⟨record, found, Or.inl state⟩
  rw [List.any_eq_false] at quiet
  exact quiet alert member fires

end InfraObserver.Processor
