import InfraObserver.Pipeline.Scope

/-!
# The effect of a call, as a function of the store

A call of `Process` that gets past the duplicate gate is a program of many store
operations. When it succeeds, the store that it leaves is a function of the store
before: the observation is added, the device is touched, and every tracker stores
its update in turn. What holds of one stored update then holds of whole calls, by
induction over the trackers.
-/

namespace InfraObserver

variable {F : Type} [GoFloat F] [Platform]

/-! ## The ways in which a call can go -/

namespace Processor

/-- What the transaction of a call is given: the observation after the inventory
and the script hook, and its device. -/
def Prepares
    (processor : Processor F)
    (attempt : Attempt F)
    (sample enriched : Observation F)
    (device : Device) : Prop :=
  ∃ attached, processor.enrich sample = .ok (attached, device) ∧
    extended attempt attached device = .ok enriched

variable {enriched sample : Observation F} {device : Device}

omit [GoFloat F] [Platform] in
theorem extended_id
    {attempt : Attempt F}
    (result : extended attempt sample device = .ok enriched) :
    enriched.observationID = sample.observationID := by
  unfold extended at result
  split at result
  · obtain ⟨rfl⟩ := result
    rfl
  · next extension _ => exact extension.keepsID _ _ _ result

variable {processor : Processor F}

theorem enrich_id
    (result : processor.enrich sample = .ok (enriched, device)) :
    enriched.observationID = sample.observationID := by
  unfold enrich at result
  split at result
  · simp at result
  · split at result
    · simp at result
    · obtain ⟨rfl, rfl⟩ := Prod.mk.inj (Except.ok.inj result)
      rfl

theorem Prepares.same_id
    {attempt : Attempt F}
    (prepares : processor.Prepares attempt sample enriched device) :
    enriched.observationID = sample.observationID := by
  obtain ⟨attached, found, hooked⟩ := prepares
  exact (extended_id hooked).trans (enrich_id found)

/-- The ways in which a call of `Process` can go: it leaves the store alone, or
it runs a transaction for the observation. -/
theorem process_cases
    (processor : Processor F)
    (attempt : Attempt F)
    (sample : Observation F)
    (store : MemStore F) :
    (processor.enrich sample = .error .deviceDisabled ∧
        processor.process attempt sample store =
          (.ok { Outcome.zero with dropped := "device_disabled" }, store)) ∨
      (∃ failure, processor.process attempt sample store = (.error failure, store)) ∨
      ∃ enriched device,
        processor.Prepares attempt sample enriched device ∧
          processor.process attempt sample store =
            store.transact attempt.refused attempt.faults (processor.body enriched device) := by
  unfold process
  split
  · next disabled => exact Or.inl ⟨disabled, rfl⟩
  · exact Or.inr (Or.inl ⟨_, rfl⟩)
  · next enriched device found =>
      split
      · exact Or.inr (Or.inl ⟨_, rfl⟩)
      · next hooked result => exact Or.inr (Or.inr ⟨hooked, device, ⟨enriched, found, result⟩, rfl⟩)

/-- The observation needs no further processing: it is stored, or its device is
disabled. -/
def Settled (processor : Processor F) (store : MemStore F) (sample : Observation F) : Prop :=
  processor.enrich sample = .error .deviceDisabled ∨
    (store.observation.lookup sample.observationID).isSome

end Processor

/-! ## Trackers -/

/-- The store with one more observation. -/
def MemStore.withObservation (store : MemStore F) (sample : Observation F) : MemStore F :=
  { store with
    observation := store.observation.insert sample.observationID sample
    obsOrder := store.obsOrder ++ [sample.observationID] }

/-- The samples of a rule's window, with the present sample among them. -/
def Rule.windowSamples (rule : Rule F) (store : MemStore F) (sample : Observation F) :
    List (Sample F) :=
  (Tx.samples sample.deviceID sample.metric (labelsKey sample.labels)
    (Time.addNeg sample.observedAt rule.window) sample.observedAt
    ⟨store.withObservation sample, []⟩).1

/-- Something that keeps a state record: a state definition or a rule. -/
inductive Tracker (F : Type)
  | state (definition : Definition F)
  | rule (rule : Rule F)
  deriving DecidableEq

namespace Tracker

/-- The key of the record that a tracker keeps for a device and labels. -/
def keyFor : Tracker F → String → StringMap String → String
  | .state definition => definition.keyFor
  | .rule watch => watch.keyFor

/-- What a tracker makes of a sample and of its previous record. A rule looks at
the observations of the store and at the sample. -/
def evaluate
    (store : MemStore F)
    (sample : Observation F)
    (previous : Option StateRecord) : Tracker F → Update
  | .state definition => definition.evaluate previous sample
  | .rule watch => watch.evaluate previous (watch.windowSamples store sample) sample

/-- The tracker does not ignore the sample. -/
def applies
    (store : MemStore F)
    (sample : Observation F)
    (previous : Option StateRecord)
    (tracker : Tracker F) : Bool :=
  (tracker.evaluate store sample previous).ignored = .notIgnored

end Tracker

/-- The state table and the events emitted so far. -/
@[ext] structure Standing where
  states : StringMap StateRecord
  events : List Event

/-- An update that is not ignored writes its record and emits its events. -/
def Update.onto (update : Update) (standing : Standing) : Standing :=
  if update.ignored = .notIgnored then
    { states := standing.states.insert update.record.key update.record
      events := standing.events ++ update.events }
  else standing

/-- A tracker's turn. -/
def Tracker.advance
    (store : MemStore F)
    (sample : Observation F)
    (standing : Standing)
    (tracker : Tracker F) : Standing :=
  (tracker.evaluate store sample
    (standing.states.lookup (tracker.keyFor sample.deviceID sample.labels))).onto standing

namespace Processor

/-- The trackers of a sample, in the order of `Process`. -/
def trackers (processor : Processor F) (sample : Observation F) (device : Device) :
    List (Tracker F) :=
  (processor.states.forMetric sample.metric device.deviceType).map .state ++
    (processor.rules.forMetric sample.metric device).map .rule

/-- The standing after all trackers had their turn. -/
def advance
    (processor : Processor F)
    (sample : Observation F)
    (device : Device)
    (store : MemStore F) : Standing :=
  (processor.trackers sample device).foldl (Tracker.advance store sample) ⟨store.states, []⟩

end Processor

/-! ## The store after each part -/

namespace MemStore

/-- The store with one more transition, unless its id is taken. -/
def withTransition (store : MemStore F) (transition : Transition) : MemStore F :=
  if (store.transitions.lookup transition.transitionID).isSome then store
  else
    { store with
      transitions := store.transitions.insert transition.transitionID transition
      trOrder := store.trOrder ++ [transition.transitionID] }

/-- The store after an event opened or resolved its alert, with the notification.
An event that changes no alert is not notified. -/
def withAlert (store : MemStore F) (event : Event) (payload : String) : MemStore F :=
  if store.alerts.any (Alert.fires event.alertKey) = event.resolves then
    { store with
      alerts :=
        if event.resolves then
          FirstMatch.amendFirst (Alert.fires event.alertKey) (·.resolvedBy event) store.alerts
        else store.alerts ++ [Alert.opened event] }.enqueue
          (Processor.alertMessage event payload)
  else store

/-- The text that an event is published with. -/
def payloadOf (event : Event) : String :=
  (Platform.encodeEvent event).toOption.getD ""

/-- The store with one more event, its notifications and its alert, unless the id
of the event is taken. -/
def withEvent (store : MemStore F) (event : Event) : MemStore F :=
  if (store.events.lookup event.eventID).isSome then store
  else
    let noted :=
      { store with
        events := store.events.insert event.eventID event
        evOrder := store.evOrder ++ [event.eventID] }.enqueue
          (Processor.deviceMessage event (payloadOf event))
    if event.alertKey = "" then noted else noted.withAlert event (payloadOf event)

/-- The store after a sample of a device advanced the last-seen instant. -/
def touched (store : MemStore F) (sample : Observation F) : MemStore F :=
  if sample.source = "sweeper" then store
  else (Tx.touchDevice sample.deviceID sample.observedAt ⟨store, []⟩).2.store

end MemStore

/-- The store after an update that is not ignored. -/
def Update.stored (update : Update) (store : MemStore F) : MemStore F :=
  update.events.foldl MemStore.withEvent
    (update.transitions.foldl MemStore.withTransition
      { store with states := store.states.insert update.record.key update.record })

/-- The store after the turn of a tracker. `before` is the store in which a rule
finds its samples. -/
def Tracker.turn
    (before : MemStore F)
    (sample : Observation F)
    (store : MemStore F)
    (tracker : Tracker F) : MemStore F :=
  let previous := store.states.lookup (tracker.keyFor sample.deviceID sample.labels)
  if tracker.applies before sample previous then
    (tracker.evaluate before sample previous).stored store
  else store

/-! ## What the parts leave alone -/

namespace MemStore

omit [GoFloat F] [Platform] in
theorem withAlert_eq (store : MemStore F) (event : Event) (payload : String) :
    ∃ alerts outbox nextOutbox,
      store.withAlert event payload = { store with alerts, outbox, nextOutbox } := by
  unfold withAlert
  split
  · exact ⟨_, _, _, rfl⟩
  · exact ⟨_, _, _, rfl⟩

omit [GoFloat F] in
theorem withEvent_eq (store : MemStore F) (event : Event) :
    ∃ events evOrder alerts outbox nextOutbox,
      store.withEvent event = { store with events, evOrder, alerts, outbox, nextOutbox } := by
  unfold withEvent
  split
  · exact ⟨_, _, _, _, _, rfl⟩
  · dsimp only
    split
    · exact ⟨_, _, _, _, _, rfl⟩
    · obtain ⟨alerts, outbox, nextOutbox, same⟩ := withAlert_eq
        ({ store with
          events := store.events.insert event.eventID event
          evOrder := store.evOrder ++ [event.eventID] }.enqueue
            (Processor.deviceMessage event (payloadOf event))) event (payloadOf event)
      rw [same]
      exact ⟨_, _, _, _, _, rfl⟩

/-- What a new event adds to the store. -/
structure Notes (event : Event) (store after : MemStore F) : Prop where
  fresh : store.events.lookup event.eventID = none
  events : after.events = store.events.insert event.eventID event
  evOrder : after.evOrder = store.evOrder ++ [event.eventID]
  outbox : ∃ rows, after.outbox = store.outbox ++ rows ∧ ∀ row ∈ rows,
    row.published = false ∧ ∃ id,
      row.msg = { Processor.deviceMessage event (payloadOf event) with id } ∨
        row.msg = { Processor.alertMessage event (payloadOf event) with id }
  alerts : after.alerts = store.alerts ∨
    (event.resolves = false ∧ after.alerts = store.alerts ++ [Alert.opened event]) ∨
    after.alerts =
      FirstMatch.amendFirst (Alert.fires event.alertKey) (·.resolvedBy event) store.alerts

omit [GoFloat F] in
theorem withEvent_notes (store : MemStore F) (event : Event) :
    store.withEvent event = store ∨ Notes event store (store.withEvent event) := by
  unfold withEvent
  cases known : store.events.lookup event.eventID with
  | some old => exact Or.inl rfl
  | none =>
      refine Or.inr ?_
      rw [if_neg (by simp)]
      dsimp only
      split
      · refine ⟨known, rfl, rfl, ⟨_, rfl, ?_⟩, Or.inl rfl⟩
        intro row member
        rw [List.mem_singleton.mp member]
        exact ⟨rfl, _, Or.inl rfl⟩
      · unfold withAlert
        split
        · refine ⟨known, rfl, rfl, ⟨_, List.append_assoc .., ?_⟩, ?_⟩
          · intro row member
            rcases List.mem_append.mp member with device | alert
            · rw [List.mem_singleton.mp device]
              exact ⟨rfl, _, Or.inl rfl⟩
            · rw [List.mem_singleton.mp alert]
              exact ⟨rfl, _, Or.inr rfl⟩
          · refine Or.inr ?_
            cases resolves : event.resolves with
            | true => exact Or.inr rfl
            | false => exact Or.inl ⟨rfl, rfl⟩
        · refine ⟨known, rfl, rfl, ⟨_, rfl, ?_⟩, Or.inl rfl⟩
          intro row member
          rw [List.mem_singleton.mp member]
          exact ⟨rfl, _, Or.inl rfl⟩

omit [GoFloat F] [Platform] in
theorem withTransition_eq (store : MemStore F) (transition : Transition) :
    ∃ transitions trOrder,
      store.withTransition transition = { store with transitions, trOrder } := by
  unfold withTransition
  split
  · exact ⟨_, _, rfl⟩
  · exact ⟨_, _, rfl⟩

omit [GoFloat F] [Platform] in
theorem touched_eq (store : MemStore F) (sample : Observation F) :
    ∃ devices, store.touched sample = { store with devices } := by
  unfold touched
  split
  · exact ⟨_, rfl⟩
  · obtain ⟨devices, same, -⟩ :=
      Tx.touchDevice_eq sample.deviceID sample.observedAt (⟨store, []⟩ : Tx F)
    exact ⟨devices, same⟩

omit [GoFloat F] [Platform] in
theorem foldl_withTransition_eq (transitions : List Transition) (store : MemStore F) :
    ∃ table trOrder, transitions.foldl withTransition store =
      { store with transitions := table, trOrder } := by
  induction transitions generalizing store with
  | nil => exact ⟨_, _, rfl⟩
  | cons transition rest ih =>
      obtain ⟨_, _, first⟩ := store.withTransition_eq transition
      obtain ⟨_, _, others⟩ := ih (store.withTransition transition)
      rw [List.foldl_cons, others, first]
      exact ⟨_, _, rfl⟩

end MemStore

omit [GoFloat F] in
theorem Update.stored_eq (update : Update) (store : MemStore F) :
    ∃ transitions trOrder events evOrder alerts outbox nextOutbox,
      update.stored store =
        { store with
          states := store.states.insert update.record.key update.record
          transitions, trOrder, events, evOrder, alerts, outbox, nextOutbox } := by
  have events : ∀ (events : List Event) (store : MemStore F),
      ∃ table evOrder alerts outbox nextOutbox, events.foldl MemStore.withEvent store =
        { store with events := table, evOrder, alerts, outbox, nextOutbox } := by
    intro events
    induction events with
    | nil => exact fun store => ⟨_, _, _, _, _, rfl⟩
    | cons event rest ih =>
        intro store
        obtain ⟨_, _, _, _, _, first⟩ := store.withEvent_eq event
        obtain ⟨_, _, _, _, _, others⟩ := ih (store.withEvent event)
        rw [List.foldl_cons, others, first]
        exact ⟨_, _, _, _, _, rfl⟩
  unfold stored
  obtain ⟨_, _, moved⟩ := MemStore.foldl_withTransition_eq update.transitions
    { store with states := store.states.insert update.record.key update.record }
  obtain ⟨_, _, _, _, _, noted⟩ := events update.events (update.transitions.foldl
    MemStore.withTransition
      { store with states := store.states.insert update.record.key update.record })
  rw [noted, moved]
  exact ⟨_, _, _, _, _, _, _, rfl⟩

theorem Tracker.turn_series
    (before : MemStore F)
    (sample : Observation F)
    (store : MemStore F)
    (tracker : Tracker F) :
    (tracker.turn before sample store).observation = store.observation ∧
      (tracker.turn before sample store).obsOrder = store.obsOrder := by
  simp only [turn]
  split
  · obtain ⟨_, _, _, _, _, _, _, same⟩ := (tracker.evaluate before sample
      (store.states.lookup (tracker.keyFor sample.deviceID sample.labels))).stored_eq store
    rw [same]
    exact ⟨rfl, rfl⟩
  · exact ⟨rfl, rfl⟩

theorem Tracker.foldl_turn_series
    (before : MemStore F)
    (sample : Observation F)
    (trackers : List (Tracker F))
    (store : MemStore F) :
    (trackers.foldl (Tracker.turn before sample) store).observation = store.observation ∧
      (trackers.foldl (Tracker.turn before sample) store).obsOrder = store.obsOrder := by
  induction trackers generalizing store with
  | nil => exact ⟨rfl, rfl⟩
  | cons tracker rest ih =>
      obtain ⟨own, ownOrder⟩ := tracker.turn_series before sample store
      obtain ⟨others, othersOrder⟩ := ih (tracker.turn before sample store)
      exact ⟨others.trans own, othersOrder.trans ownOrder⟩

/-- Every event can be encoded. -/
def Encodable : Prop :=
  ∀ event, ∃ payload, Platform.encodeEvent event = .ok payload

namespace Processor

/-- The store after a call for a new observation. -/
def effect
    (processor : Processor F)
    (sample : Observation F)
    (device : Device)
    (store : MemStore F) : MemStore F :=
  (processor.trackers sample device).foldl (Tracker.turn store sample)
    ((store.withObservation sample).touched sample)

theorem effect_series
    (processor : Processor F)
    (sample : Observation F)
    (device : Device)
    (store : MemStore F) :
    (processor.effect sample device store).observation =
        (store.withObservation sample).observation ∧
      (processor.effect sample device store).obsOrder =
        (store.withObservation sample).obsOrder := by
  obtain ⟨devices, same⟩ := (store.withObservation sample).touched_eq sample
  obtain ⟨observation, obsOrder⟩ := Tracker.foldl_turn_series store sample
    (processor.trackers sample device) ((store.withObservation sample).touched sample)
  exact ⟨observation.trans (by rw [same]), obsOrder.trans (by rw [same])⟩

/-! ## The transaction has this effect -/

variable {terms : TxM.Terms F} {invariant : MemStore F → Prop}

/-- The operations that record an event may be issued. -/
structure Recordable
    (terms : TxM.Terms F)
    (event : Event)
    (store : MemStore F) : Prop where
  inserts : terms.may store (.insertEvent event)
  notifies : ∀ after payload, terms.may after (.enqueue (deviceMessage event payload)) ∧
    terms.may after (.enqueue (alertMessage event payload))
  encodes : terms.fails ∨ ∃ payload, Platform.encodeEvent event = .ok payload
  alerts : store.events.lookup event.eventID = none → ∀ after, after.alerts = store.alerts →
    terms.may after (.openAlert event) ∧ terms.may after (.resolveAlert event)

/-- The operations that store an update may be issued, and each keeps the invariant. -/
structure Storable
    (terms : TxM.Terms F)
    (invariant : MemStore F → Prop)
    (update : Update)
    (store : MemStore F) : Prop where
  puts : terms.may store (.putState update.record)
  kept : invariant { store with states := store.states.insert update.record.key update.record }
  transitions : ∀ transition ∈ update.transitions, ∀ after, invariant after →
    terms.may after (.insertTransition transition) ∧ invariant (after.withTransition transition)
  events : ∀ event ∈ update.events, ∀ after, invariant after →
    Recordable terms event after ∧ invariant (after.withEvent event)

/-- A tracker may take its turn wherever the invariant holds. -/
structure Permitted
    (terms : TxM.Terms F)
    (invariant : MemStore F → Prop)
    (before : MemStore F)
    (sample : Observation F)
    (tracker : Tracker F) : Prop where
  reads : ∀ store, terms.may store (.getState (tracker.keyFor sample.deviceID sample.labels))
  windows : ∀ store since, invariant store → terms.may store
    (.samples sample.deviceID sample.metric (labelsKey sample.labels) since sample.observedAt)
  stores : ∀ store, invariant store →
    (tracker.evaluate before sample
      (store.states.lookup (tracker.keyFor sample.deviceID sample.labels))).ignored =
        .notIgnored →
      Storable terms invariant (tracker.evaluate before sample
        (store.states.lookup (tracker.keyFor sample.deviceID sample.labels))) store

/-- The transaction of a new observation may run. -/
structure Permits
    (terms : TxM.Terms F)
    (invariant : MemStore F → Prop)
    (processor : Processor F)
    (sample : Observation F)
    (device : Device)
    (store : MemStore F) : Prop where
  touches : terms.may (store.withObservation sample)
    (.touchDevice sample.deviceID sample.observedAt)
  begins : invariant ((store.withObservation sample).touched sample)
  trackers : ∀ tracker ∈ processor.trackers sample device,
    Permitted terms invariant store sample tracker

theorem permits_anything
    {fails : Prop}
    (encodes : fails ∨ Encodable)
    (processor : Processor F)
    (sample : Observation F)
    (device : Device)
    (store : MemStore F) :
    Permits ⟨fun _ _ => True, fails⟩ (fun _ => True) processor sample device store where
  touches := trivial
  begins := trivial
  trackers _ _ :=
    { reads := fun _ => trivial
      windows := fun _ _ _ => trivial
      stores := fun _ _ _ =>
        { puts := trivial
          kept := trivial
          transitions := fun _ _ _ _ => ⟨trivial, trivial⟩
          events := fun event _ _ _ =>
            ⟨⟨trivial, fun _ _ => ⟨trivial, trivial⟩, encodes.imp_right fun all => all event,
              fun _ _ _ => ⟨trivial, trivial⟩⟩, trivial⟩ } }

omit [Platform] in
theorem samples_congr
    {left right : Tx F}
    (observation : left.store.observation = right.store.observation)
    (obsOrder : left.store.obsOrder = right.store.obsOrder)
    (deviceID metric labels : String)
    (since until_ : Time) :
    (Tx.samples deviceID metric labels since until_ left).1 =
      (Tx.samples deviceID metric labels since until_ right).1 := by
  simp only [Tx.samples, observation, obsOrder]

variable {tx : Tx F}

omit [Platform] in
theorem recordAlert_effect
    {event : Event}
    {payload : String}
    (alerts : terms.may tx.store (.openAlert event) ∧ terms.may tx.store (.resolveAlert event))
    (notifies : ∀ after, terms.may after (.enqueue (alertMessage event payload))) :
    TxM.Follows terms (recordAlert event payload) tx fun _ after =>
      after.store = tx.store.withAlert event payload := by
  unfold recordAlert changeAlert MemStore.withAlert
  refine TxM.follows_bind ?_
  cases resolves : event.resolves with
  | true =>
      obtain ⟨changed, resolved⟩ := Tx.resolveAlert_eq event tx
      rw [if_pos rfl]
      refine TxM.follows_perform alerts.2 ?_
      dsimp only [TxOp.perform]
      rw [changed]
      cases firing : tx.store.alerts.any (Alert.fires event.alertKey) with
      | true => exact TxM.follows_perform (notifies _) (congrArg (MemStore.enqueue · _) resolved)
      | false =>
          rw [FirstMatch.amendFirst_of_none firing] at resolved
          exact resolved
  | false =>
      obtain ⟨changed, opened⟩ := Tx.openAlert_eq event tx
      rw [if_neg Bool.false_ne_true]
      refine TxM.follows_perform alerts.1 ?_
      dsimp only [TxOp.perform]
      rw [changed]
      cases firing : tx.store.alerts.any (Alert.fires event.alertKey) with
      | true =>
          rw [firing, if_pos rfl] at opened
          exact opened
      | false =>
          rw [firing, if_neg Bool.false_ne_true] at opened
          exact TxM.follows_perform (notifies _) (congrArg (MemStore.enqueue · _) opened)

theorem recordEvent_effect
    {event : Event}
    (recordable : Recordable terms event tx.store) :
    TxM.Follows terms (recordEvent event) tx fun _ after =>
      after.store = tx.store.withEvent event := by
  unfold recordEvent MemStore.withEvent
  refine TxM.follows_bind (TxM.follows_perform recordable.inserts ?_)
  dsimp only [TxOp.perform]
  cases known : tx.store.events.lookup event.eventID with
  | some old =>
      have kept : Tx.insertEvent event tx = (false, tx) := by simp only [Tx.insertEvent, known]
      rw [kept]
      rfl
  | none =>
      have added : (Tx.insertEvent event tx).1 = true ∧
          (Tx.insertEvent event tx).2.store = { tx.store with
            events := tx.store.events.insert event.eventID event
            evOrder := tx.store.evOrder ++ [event.eventID] } := by
        simp only [Tx.insertEvent, known, and_self]
      rw [added.1, if_pos rfl, if_neg (by simp)]
      cases encoded : Platform.encodeEvent event with
      | error failure =>
          refine recordable.encodes.resolve_right ?_
          rintro ⟨payload, possible⟩
          rw [encoded] at possible
          cases possible
      | ok payload =>
          have text : MemStore.payloadOf event = payload := by
            simp only [MemStore.payloadOf, encoded]
            rfl
          dsimp only
          rw [text, ← added.2]
          refine TxM.follows_bind (TxM.follows_perform (recordable.notifies _ _).1 ?_)
          by_cases keyless : event.alertKey = ""
          · rw [if_neg (not_not.mpr keyless), if_pos keyless]
            rfl
          · rw [if_pos keyless, if_neg keyless]
            have same : (Tx.insertEvent event tx).2.store.alerts = tx.store.alerts := by
              rw [added.2]
            exact recordAlert_effect (recordable.alerts known _ same)
              fun _ => (recordable.notifies _ _).2

omit [Platform] in
theorem recordTransitions_effect
    {transitions : List Transition}
    (permitted : ∀ transition ∈ transitions, ∀ after, invariant after →
      terms.may after (.insertTransition transition) ∧ invariant (after.withTransition transition))
    (holds : invariant tx.store)
    (outcome : Outcome) :
    TxM.Follows terms (recordTransitions transitions outcome) tx fun result after =>
      after.store = transitions.foldl MemStore.withTransition tx.store ∧
        result.events = outcome.events ∧ invariant after.store := by
  induction transitions generalizing outcome tx with
  | nil => exact ⟨rfl, rfl, holds⟩
  | cons transition rest ih =>
      rw [List.forall_mem_cons] at permitted
      obtain ⟨allowed, kept⟩ := permitted.1 _ holds
      have added : (Tx.insertTransition transition tx).2.store =
          tx.store.withTransition transition := by
        rw [MemStore.withTransition, Tx.insertTransition]
        cases tx.store.transitions.lookup transition.transitionID <;> rfl
      refine TxM.follows_bind (TxM.follows_perform allowed ?_)
      rw [List.foldl_cons, ← added]
      rw [← added] at kept
      exact ih permitted.2 kept _

theorem recordEvents_effect
    {events : List Event}
    (permitted : ∀ event ∈ events, ∀ after, invariant after →
      Recordable terms event after ∧ invariant (after.withEvent event))
    (holds : invariant tx.store)
    (outcome : Outcome) :
    TxM.Follows terms (recordEvents events outcome) tx fun result after =>
      after.store = events.foldl MemStore.withEvent tx.store ∧
        result.events = outcome.events ++ events ∧ invariant after.store := by
  induction events generalizing outcome tx with
  | nil => exact ⟨rfl, (List.append_nil _).symm, holds⟩
  | cons event rest ih =>
      rw [List.forall_mem_cons] at permitted
      obtain ⟨recordable, kept⟩ := permitted.1 _ holds
      refine TxM.follows_bind ((recordEvent_effect recordable).mono fun _ middle noted => ?_)
      rw [← noted] at kept
      refine (ih permitted.2 kept _).mono fun _ after done => ⟨?_, ?_, done.2.2⟩
      · rw [done.1, noted, List.foldl_cons]
      · rw [done.2.1, List.append_assoc, List.singleton_append]

theorem applyUpdate_effect
    {update : Update}
    (holds : invariant tx.store)
    (storable : update.ignored = .notIgnored → Storable terms invariant update tx.store)
    (outcome : Outcome) :
    TxM.Follows terms (applyUpdate update outcome) tx fun result after =>
      after.store =
          (if update.ignored = .notIgnored then update.stored tx.store else tx.store) ∧
        Standing.mk after.store.states result.events =
          update.onto ⟨tx.store.states, outcome.events⟩ ∧ invariant after.store := by
  unfold applyUpdate Update.onto
  by_cases applied : update.ignored = .notIgnored
  · have storable := storable applied
    rw [if_neg (not_not.mpr applied), if_pos applied, if_pos applied]
    refine TxM.follows_bind (TxM.follows_perform storable.puts (TxM.follows_bind ?_))
    refine (recordTransitions_effect storable.transitions storable.kept _).mono
      fun _ middle moved => ?_
    refine (recordEvents_effect storable.events moved.2.2 _).mono fun _ after emitted => ?_
    have stored : after.store = update.stored tx.store := by
      rw [emitted.1, moved.1]
      rfl
    obtain ⟨_, _, _, _, _, _, _, same⟩ := update.stored_eq tx.store
    exact ⟨stored, by rw [stored, same, emitted.2.1, moved.2.1], emitted.2.2⟩
  · rw [if_pos applied, if_neg applied, if_neg applied]
    exact ⟨rfl, rfl, holds⟩

omit [Platform] in
theorem touch_effect
    {sample : Observation F}
    (allowed : terms.may tx.store (.touchDevice sample.deviceID sample.observedAt)) :
    TxM.Follows terms (touch sample) tx fun _ after => after.store = tx.store.touched sample := by
  unfold touch MemStore.touched
  by_cases synthetic : sample.source = "sweeper"
  · rw [if_neg (not_not.mpr synthetic), if_pos synthetic]
    rfl
  · rw [if_pos synthetic, if_neg synthetic]
    refine TxM.follows_perform allowed ?_
    simp only [TxOp.perform, Tx.touchDevice]
    cases tx.store.devices.lookup sample.deviceID with
    | none => rfl
    | some old =>
        dsimp only
        split_ifs <;> rfl

/-- What the turns of trackers do to the store and to the events. -/
def Turns
    (invariant : MemStore F → Prop)
    (before : MemStore F)
    (sample : Observation F)
    (trackers : List (Tracker F))
    (tx : Tx F)
    (outcome result : Outcome)
    (after : Tx F) : Prop :=
  after.store = trackers.foldl (Tracker.turn before sample) tx.store ∧
    Standing.mk after.store.states result.events =
      trackers.foldl (Tracker.advance before sample) ⟨tx.store.states, outcome.events⟩ ∧
    invariant after.store

theorem Turns.append
    {before : MemStore F}
    {sample : Observation F}
    {first second : List (Tracker F)}
    {middle after : Tx F}
    {outcome between result : Outcome}
    (earlier : Turns invariant before sample first tx outcome between middle)
    (later : Turns invariant before sample second middle between result after) :
    Turns invariant before sample (first ++ second) tx outcome result after := by
  unfold Turns
  rw [List.foldl_append, List.foldl_append, ← earlier.1, ← earlier.2.1]
  exact later

variable {store : MemStore F} {sample : Observation F}

theorem applyDefinitions_effect
    (definitions : List (Definition F))
    (permitted : ∀ definition ∈ definitions,
      Permitted terms invariant store sample (.state definition))
    (holds : invariant tx.store)
    (outcome : Outcome) :
    TxM.Follows terms (applyDefinitions sample definitions outcome) tx
      (Turns invariant store sample (definitions.map Tracker.state) tx outcome) := by
  induction definitions generalizing outcome tx with
  | nil => exact ⟨rfl, rfl, holds⟩
  | cons definition rest ih =>
      rw [List.forall_mem_cons] at permitted
      refine TxM.follows_bind (TxM.follows_perform (permitted.1.reads _) (TxM.follows_bind ?_))
      refine (applyUpdate_effect holds (permitted.1.stores _ holds) _).mono
        fun between middle turn => ?_
      have turned : Turns invariant store sample [.state definition] tx outcome between
          middle := by
        refine ⟨turn.1.trans ?_, turn.2⟩
        simp only [List.foldl_cons, List.foldl_nil, Tracker.turn, Tracker.applies,
          decide_eq_true_eq]
      exact (ih permitted.2 turn.2.2 _).mono fun _ _ turns => turned.append turns

theorem skipsRule_ignored
    (rule : Rule F)
    {previous : Option StateRecord}
    (samples : List (Sample F))
    (skips : skipsRule previous sample = true) :
    (rule.evaluate previous samples sample).ignored ≠ .notIgnored := by
  cases previous with
  | none => simp [skipsRule] at skips
  | some record =>
      simp only [skipsRule, Option.any_some, Bool.or_eq_true, decide_eq_true_eq,
        Bool.not_eq_true', decide_eq_false_iff_not] at skips
      unfold Rule.evaluate
      dsimp only
      split_ifs with seen old
      · simp [Update.ignore]
      · rcases skips with same | late
        · exact absurd same seen
        · exact absurd old late
      · simp [Update.ignore]

theorem applyRules_effect
    (rules : List (Rule F))
    (permitted : ∀ rule ∈ rules, Permitted terms invariant store sample (.rule rule))
    (holds : invariant tx.store)
    (observation : tx.store.observation = (store.withObservation sample).observation)
    (obsOrder : tx.store.obsOrder = (store.withObservation sample).obsOrder)
    (outcome : Outcome) :
    TxM.Follows terms (applyRules sample rules outcome) tx
      (Turns invariant store sample (rules.map Tracker.rule) tx outcome) := by
  induction rules generalizing outcome tx with
  | nil => exact ⟨rfl, rfl, holds⟩
  | cons rule rest ih =>
      rw [List.forall_mem_cons] at permitted
      have turn : TxM.Follows terms (applyRule sample rule outcome) tx
          (Turns invariant store sample [.rule rule] tx outcome) := by
        unfold Turns
        simp only [List.foldl_cons, List.foldl_nil, Tracker.turn, Tracker.applies,
          decide_eq_true_eq]
        refine TxM.follows_bind (TxM.follows_perform (permitted.1.reads _) ?_)
        split
        · next skips =>
            have ignored := skipsRule_ignored rule (rule.windowSamples store sample) skips
            exact ⟨(if_neg ignored).symm, (if_neg ignored).symm, holds⟩
        · refine TxM.follows_bind (TxM.follows_perform (permitted.1.windows _ _ holds) ?_)
          have window : (Tx.samples sample.deviceID sample.metric (labelsKey sample.labels)
              (Time.addNeg sample.observedAt rule.window) sample.observedAt tx).1 =
                rule.windowSamples store sample :=
            samples_congr observation obsOrder _ _ _ _ _
          dsimp only [TxOp.perform, Tx.getState]
          rw [window]
          exact applyUpdate_effect holds (permitted.1.stores _ holds) _
      refine TxM.follows_bind (turn.mono fun _ middle turned => ?_)
      obtain ⟨sameObservation, sameOrder⟩ := Tracker.turn_series store sample tx.store (.rule rule)
      rw [← show middle.store = Tracker.turn store sample tx.store (.rule rule) from turned.1]
        at sameObservation sameOrder
      exact (ih permitted.2 turned.2.2 (sameObservation.trans observation)
        (sameOrder.trans obsOrder) _).mono fun _ _ turns => turned.append turns

variable (terms) in
theorem body_repeated
    (processor : Processor F)
    (device : Device)
    {old : Observation F}
    (found : store.observation.lookup sample.observationID = some old)
    (inserts : terms.may store (.insertObservation sample)) :
    TxM.Follows terms (processor.body sample device) ⟨store, []⟩ fun outcome after =>
      (outcome.duplicate = true ∧ outcome.events = []) ∧ after.store = store := by
  refine TxM.follows_bind (TxM.follows_perform inserts ?_)
  simp only [TxOp.perform, Tx.insertObservation, found]
  exact ⟨⟨rfl, rfl⟩, rfl⟩

theorem body_effect
    {processor : Processor F}
    {device : Device}
    (fresh : store.observation.lookup sample.observationID = none)
    (inserts : terms.may store (.insertObservation sample))
    (permits : Permits terms invariant processor sample device store) :
    TxM.Follows terms (processor.body sample device) ⟨store, []⟩ fun outcome after =>
      after.store = processor.effect sample device store ∧
        Standing.mk after.store.states outcome.events = processor.advance sample device store := by
  refine TxM.follows_bind (TxM.follows_perform inserts ?_)
  simp only [TxOp.perform, Tx.insertObservation, fresh]
  rw [if_pos trivial]
  refine TxM.follows_bind ((touch_effect permits.touches).mono fun _ middle touched => ?_)
  have arrived : middle.store = (store.withObservation sample).touched sample := touched
  obtain ⟨devices, same⟩ := (store.withObservation sample).touched_eq sample
  refine TxM.follows_bind ?_
  refine (applyDefinitions_effect _ (fun definition member => permits.trackers _
    (List.mem_append_left _ (List.mem_map_of_mem member))) (arrived ▸ permits.begins) _).mono
    fun _ later turned => ?_
  have series : later.store.observation = (store.withObservation sample).observation ∧
      later.store.obsOrder = (store.withObservation sample).obsOrder := by
    rw [turned.1, arrived, same]
    exact Tracker.foldl_turn_series store sample _ _
  refine (applyRules_effect _ (fun rule member => permits.trackers _
    (List.mem_append_right _ (List.mem_map_of_mem member))) turned.2.2 series.1 series.2 _).mono
    fun _ after turns => ?_
  obtain ⟨reached, standing, -⟩ := turned.append turns
  refine ⟨by rw [reached, arrived]; rfl, ?_⟩
  rw [standing, arrived, same]
  rfl

/-- A call leaves the store alone, and then it fails or reports a duplicate or a
drop, or it has the effect of its observation and gives all trackers their turn. -/
theorem process_effect
    (processor : Processor F)
    (attempt : Attempt F)
    (sample : Observation F)
    (store : MemStore F) :
    ((processor.process attempt sample store).2 = store ∧
        ∀ outcome, (processor.process attempt sample store).1 = .ok outcome →
          (outcome.duplicate = true ∨ outcome.dropped ≠ "") ∧ outcome.events = [] ∧
            processor.Settled store sample) ∨
      ∃ enriched device, processor.Prepares attempt sample enriched device ∧
        store.observation.lookup enriched.observationID = none ∧
        (processor.process attempt sample store).2 = processor.effect enriched device store ∧
        ∀ outcome, (processor.process attempt sample store).1 = .ok outcome →
          Standing.mk (processor.process attempt sample store).2.states outcome.events =
            processor.advance enriched device store := by
  rcases processor.process_cases attempt sample store with
    ⟨disabled, result⟩ | ⟨failure, result⟩ | ⟨enriched, device, prepares, result⟩
  · rw [result]
    refine Or.inl ⟨rfl, ?_⟩
    rintro outcome ⟨rfl⟩
    exact ⟨Or.inr (by decide), rfl, Or.inl disabled⟩
  · rw [result]
    exact Or.inl ⟨rfl, nofun⟩
  · rw [result]
    cases answer : (store.transact attempt.refused attempt.faults
        (processor.body enriched device)).1 with
    | error failure => exact Or.inl ⟨MemStore.transact_error answer, nofun⟩
    | ok outcome =>
        cases fresh : store.observation.lookup enriched.observationID with
        | some old =>
            obtain ⟨tx, ⟨⟨repeated, silent⟩, same⟩, storeEq⟩ := MemStore.transact_ok
              (Or.inl trivial)
              (body_repeated ⟨fun _ _ => True, True⟩ processor device fresh trivial) answer
            refine Or.inl ⟨storeEq.trans same, ?_⟩
            rintro _ ⟨rfl⟩
            refine ⟨Or.inl repeated, silent, Or.inr ?_⟩
            rw [← prepares.same_id, fresh]
            rfl
        | none =>
            obtain ⟨tx, ⟨reached, standing⟩, storeEq⟩ := MemStore.transact_ok
              (Or.inl trivial)
              (body_effect fresh trivial (permits_anything (Or.inl trivial) ..)) answer
            rw [← storeEq] at reached standing
            refine Or.inr ⟨enriched, device, prepares, fresh, reached, ?_⟩
            rintro _ ⟨rfl⟩
            exact standing

end Processor

end InfraObserver
