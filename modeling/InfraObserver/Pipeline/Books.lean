import InfraObserver.Persistence.Transaction
import InfraObserver.Pipeline.Process
import InfraObserver.Pipeline.Updates

/-!
# The books of the alerting tables

Four tables tell the story of an alert: the state record, the stored events,
the alerts and the outbox. `Books` says that they tell the same story, and the
lemmas of this module keep it through the three things an update can do: change
a record silently, open an alert, or resolve one.
-/

namespace InfraObserver

/-! ## The life of the alerts of one key -/

/-- The alerts of one key, and the events that opened and resolved them. -/
inductive Lifecycle : List Event → List Alert → Prop
  | nil : Lifecycle [] []
  | opening {events : List Event} {alerts : List Alert} (event : Event) :
      Lifecycle events alerts → (∀ alert ∈ alerts, alert.status = .resolved) →
        event.resolves = false →
          Lifecycle (events ++ [event]) (alerts ++ [Alert.opened event])
  | resolution {events : List Event} {alerts : List Alert} {alert : Alert} (event : Event) :
      Lifecycle events (alerts ++ [alert]) → alert.status = .firing →
        event.resolves = true →
          Lifecycle (events ++ [event]) (alerts ++ [alert.resolvedBy event])

/-- Openings at even positions, resolutions at odd ones. -/
def Alternating (events : List Event) : Prop :=
  ∀ position event, events[position]? = some event →
    (event.resolves = true ↔ position % 2 = 1)

namespace Lifecycle

variable {events : List Event} {alerts : List Alert}

/-- Only the last alert of a key can be firing, and it does after an odd number
of events. -/
theorem shape (life : Lifecycle events alerts) :
    (events.length % 2 = 0 ∧ ∀ alert ∈ alerts, alert.status = .resolved) ∨
      (events.length % 2 = 1 ∧ ∃ earlier last, alerts = earlier ++ [last] ∧
        last.status = .firing ∧ ∀ alert ∈ earlier, alert.status = .resolved) := by
  induction life with
  | nil => exact Or.inl ⟨rfl, by simp⟩
  | @opening events alerts event life allResolved _ ih =>
      refine Or.inr ⟨?_, alerts, Alert.opened event, rfl, rfl, allResolved⟩
      rcases ih with ⟨even, _⟩ | ⟨_, earlier, last, rfl, firing, _⟩
      · rw [List.length_append, List.length_singleton]
        omega
      · rw [allResolved last (by simp)] at firing
        simp at firing
  | @resolution events alerts alert event _ firing _ ih =>
      rcases ih with ⟨_, allResolved⟩ | ⟨odd, earlier, last, same, _, resolved⟩
      · rw [allResolved alert (by simp)] at firing
        simp at firing
      · obtain ⟨rfl, _⟩ := List.append_inj' same rfl
        refine Or.inl ⟨by rw [List.length_append, List.length_singleton]; omega, ?_⟩
        intro other member
        rcases List.mem_append.mp member with old | new
        · exact resolved other old
        · rw [List.mem_singleton.mp new]
          rfl

/-- The events of one key alternate. -/
theorem alternating (life : Lifecycle events alerts) : Alternating events := by
  induction life with
  | nil => simp [Alternating]
  | @opening events alerts event life allResolved opens ih =>
      intro position other found
      rcases life.shape with ⟨even, _⟩ | ⟨_, earlier, last, rfl, firing, _⟩
      · rw [List.getElem?_append] at found
        split at found
        · exact ih position other found
        · rw [List.getElem?_singleton] at found
          split at found
          · obtain rfl := Option.some.inj found
            rw [opens]
            simp only [Bool.false_eq_true, false_iff]
            omega
          · simp at found
      · rw [allResolved last (by simp)] at firing
        simp at firing
  | @resolution events alerts alert event life firing resolves ih =>
      intro position other found
      rcases life.shape with ⟨_, allResolved⟩ | ⟨odd, _⟩
      · rw [allResolved alert (by simp)] at firing
        simp at firing
      · rw [List.getElem?_append] at found
        split at found
        · exact ih position other found
        · rw [List.getElem?_singleton] at found
          split at found
          · obtain rfl := Option.some.inj found
            rw [resolves]
            simp only [true_iff]
            omega
          · simp at found

theorem firing_iff (life : Lifecycle events alerts) :
    (∃ alert ∈ alerts, alert.status = .firing) ↔ events.length % 2 = 1 := by
  rcases life.shape with ⟨even, allResolved⟩ | ⟨odd, earlier, last, rfl, firing, _⟩
  · constructor
    · rintro ⟨alert, member, firing⟩
      rw [allResolved alert member] at firing
      simp at firing
    · intro odd
      omega
  · exact ⟨fun _ => odd, fun _ => ⟨last, by simp, firing⟩⟩

theorem firing_once (life : Lifecycle events alerts) :
    (alerts.filter fun alert => alert.status = .firing).length ≤ 1 := by
  have none : ∀ resolved : List Alert, (∀ alert ∈ resolved, alert.status = .resolved) →
      (resolved.filter fun alert => alert.status = .firing) = [] := by
    intro resolved allResolved
    rw [List.filter_eq_nil_iff]
    intro alert member
    simp [allResolved alert member]
  rcases life.shape with ⟨_, allResolved⟩ | ⟨_, earlier, last, rfl, firing, resolved⟩
  · rw [none alerts allResolved]
    exact Nat.zero_le 1
  · rw [List.filter_append, none earlier resolved]
    simp [firing]

theorem firing_last
    {earlier later : List Alert}
    {firing : Alert}
    (life : Lifecycle events (earlier ++ firing :: later))
    (fires : firing.status = .firing) :
    later = [] := by
  rcases life.shape with ⟨_, allResolved⟩ | ⟨_, before, last, same, _, resolved⟩
  · rw [allResolved firing (by simp)] at fires
    simp at fires
  · -- Anything after the firing alert would put it among the resolved ones.
    cases later using List.reverseRecOn with
    | nil => rfl
    | append_singleton middle final =>
        rw [← List.cons_append, ← List.append_assoc] at same
        obtain ⟨rfl, _⟩ := List.append_inj' same rfl
        rw [resolved firing (by simp)] at fires
        simp at fires

end Lifecycle

/-! ## The books -/

/-- The alerts of one key, oldest first. -/
def alertsOf (key : String) (alerts : List Alert) : List Alert :=
  alerts.filter fun alert => alert.alertKey = key

/-- The events of one key, oldest first. -/
def eventsOf (key : String) (events : List Event) : List Event :=
  events.filter fun event => event.alertKey = key

theorem any_fires_iff
    (key : String)
    (alerts : List Alert) :
    alerts.any (Alert.fires key) = true ↔
      ∃ alert ∈ alertsOf key alerts, alert.status = .firing := by
  simp [alertsOf, Alert.fires, and_assoc]

/-- An alert notification in the outbox. -/
def OutboxRow.isAlert (row : OutboxRow) : Bool :=
  row.msg.subject = subjectEventAlert

/-- The notification of an event in the outbox. -/
def OutboxRow.isDevice (id : String) (row : OutboxRow) : Bool :=
  row.msg.subject = subjectEventDevice && row.msg.msgID = id

variable {F : Type} [GoFloat F] [Platform]

/-- The tables agree. `notified` lists the events whose alert notifications are
in the outbox, in that order. -/
structure Books (processor : Processor F) (store : MemStore F) (notified : List Event) :
    Prop where
  keyed : ∀ key record, store.states.lookup key = some record → record.key = key
  recovering : ∀ key record, store.states.lookup key = some record →
    record.state = .recovering →
      ∃ definition ∈ processor.states.all, ∃ deviceID labels,
        key = definition.keyFor deviceID labels
  openness : ∀ key, store.alerts.any (Alert.fires key) =
    alertingBefore (store.states.lookup key)
  lifecycle : ∀ key, Lifecycle (eventsOf key notified) (alertsOf key store.alerts)
  alertRows : (store.outbox.filter OutboxRow.isAlert).map (·.msg.msgID) =
    notified.map (·.eventID ++ ".alert")
  notifiedStored : ∀ event ∈ notified, store.events.lookup event.eventID = some event
  deviceRows : ∀ id event, store.events.lookup id = some event →
    (store.outbox.filter (OutboxRow.isDevice id)).length = 1
  rowsStored : ∀ row ∈ store.outbox, row.msg.subject = subjectEventDevice →
    (store.events.lookup row.msg.msgID).isSome
  /-- The id of a stored event is the digest of its type, of its observation and
  of three more parts, and the observation is stored. -/
  identified : ∀ id event, store.events.lookup id = some event →
    event.eventID = id ∧
      (∃ deviceID source labels,
        id = stableID ["evt", deviceID, source, labels, event.type, event.observationID]) ∧
      (store.observation.lookup event.observationID).isSome

namespace Books

variable {processor : Processor F} {store after : MemStore F} {notified : List Event}

theorem empty (processor : Processor F) (devices : StringMap Device) :
    Books processor { (MemStore.new : MemStore F) with devices } [] where
  keyed := by simp [MemStore.new]
  recovering := by simp [MemStore.new]
  openness := by simp [MemStore.new]
  lifecycle _ := .nil
  alertRows := rfl
  notifiedStored := by simp
  deviceRows := by simp [MemStore.new]
  rowsStored := by simp [MemStore.new]
  identified := by simp [MemStore.new]

theorem of_same
    (books : Books processor store notified)
    (states : after.states = store.states)
    (events : after.events = store.events)
    (alerts : after.alerts = store.alerts)
    (outbox : after.outbox = store.outbox)
    (observations : ∀ id, (store.observation.lookup id).isSome →
      (after.observation.lookup id).isSome) :
    Books processor after notified where
  keyed := by
    rw [states]
    exact books.keyed
  recovering := by
    rw [states]
    exact books.recovering
  openness := by
    rw [states, alerts]
    exact books.openness
  lifecycle := by
    rw [alerts]
    exact books.lifecycle
  alertRows := by
    rw [outbox]
    exact books.alertRows
  notifiedStored := by
    rw [events]
    exact books.notifiedStored
  deviceRows := by
    rw [outbox, events]
    exact books.deviceRows
  rowsStored := by
    rw [outbox, events]
    exact books.rowsStored
  identified := by
    rw [events]
    intro id event found
    obtain ⟨sameID, digest, stored⟩ := books.identified id event found
    exact ⟨sameID, digest, observations _ stored⟩

theorem states_inserted
    (books : Books processor store notified)
    {key : String}
    {record : StateRecord}
    {states : StringMap StateRecord}
    (written : states = store.states.insert key record)
    (sameKey : record.key = key)
    (recovers : record.state = .recovering →
      ∃ definition ∈ processor.states.all, ∃ deviceID labels,
        key = definition.keyFor deviceID labels) :
    (∀ other found, states.lookup other = some found → found.key = other) ∧
      ∀ other found, states.lookup other = some found → found.state = .recovering →
        ∃ definition ∈ processor.states.all, ∃ deviceID labels,
          other = definition.keyFor deviceID labels := by
  rw [written]
  constructor
  · intro other found lookup
    rw [StringMap.lookup_insert_ite] at lookup
    split at lookup
    · next same =>
        obtain rfl := Option.some.inj lookup
        rw [same, sameKey]
    · exact books.keyed other found lookup
  · intro other found lookup isRecovering
    rw [StringMap.lookup_insert_ite] at lookup
    split at lookup
    · next same =>
        obtain rfl := Option.some.inj lookup
        rw [same]
        exact recovers isRecovering
    · exact books.recovering other found lookup isRecovering

theorem silent
    (books : Books processor store notified)
    {key : String}
    {record : StateRecord}
    (states : after.states = store.states.insert key record)
    (events : after.events = store.events)
    (alerts : after.alerts = store.alerts)
    (outbox : after.outbox = store.outbox)
    (observation : after.observation = store.observation)
    (sameKey : record.key = key)
    (sameSide : record.state.alerting = alertingBefore (store.states.lookup key))
    (recovers : record.state = .recovering →
      ∃ definition ∈ processor.states.all, ∃ deviceID labels,
        key = definition.keyFor deviceID labels) :
    Books processor after notified := by
  obtain ⟨keyed, recovering⟩ := books.states_inserted states sameKey recovers
  refine ⟨keyed, recovering, ?_, by rw [alerts]; exact books.lifecycle,
    by rw [outbox]; exact books.alertRows, by rw [events]; exact books.notifiedStored,
    by rw [outbox, events]; exact books.deviceRows,
    by rw [outbox, events]; exact books.rowsStored,
    by rw [events, observation]; exact books.identified⟩
  intro other
  rw [alerts, states, StringMap.lookup_insert_ite, books.openness]
  split
  · next same => rw [same, alertingBefore_some, sameSide]
  · rfl

end Books

/-! ## Recording an event -/

/-- What recording a new event does to the tables: the event is stored, both
notifications are queued, and its alert is opened or resolved. -/
structure Recorded (event : Event) (store after : MemStore F) : Prop where
  states : after.states = store.states
  observation : after.observation = store.observation
  obsOrder : after.obsOrder = store.obsOrder
  events : after.events = store.events.insert event.eventID event
  outbox : ∃ device alert : OutboxRow, after.outbox = store.outbox ++ [device, alert] ∧
    device.msg.subject = subjectEventDevice ∧ device.msg.msgID = event.eventID ∧
    alert.msg.subject = subjectEventAlert ∧ alert.msg.msgID = event.eventID ++ ".alert"
  alerts : (event.resolves = false ∧ after.alerts = store.alerts ++ [Alert.opened event]) ∨
    (event.resolves = true ∧ ∃ earlier firing later,
      store.alerts = earlier ++ firing :: later ∧ firing.fires event.alertKey = true ∧
        (∀ alert ∈ earlier, alert.fires event.alertKey = false) ∧
        after.alerts = earlier ++ firing.resolvedBy event :: later)

omit [Platform] in
theorem split_firing
    {alerts : List Alert}
    {key : String}
    {index : ℕ}
    (found : alerts.findIdx? (Alert.fires key) = some index) :
    ∃ earlier firing later, alerts = earlier ++ firing :: later ∧
      earlier.length = index ∧ firing.fires key = true ∧
      ∀ alert ∈ earlier, alert.fires key = false := by
  induction alerts generalizing index with
  | nil => simp at found
  | cons head tail ih =>
      rw [List.findIdx?_cons] at found
      split at found
      · next fires =>
          obtain rfl := Option.some.inj found
          exact ⟨[], head, tail, rfl, rfl, fires, by simp⟩
      · next quiet =>
          obtain ⟨position, foundTail, rfl⟩ := Option.map_eq_some_iff.mp found
          obtain ⟨earlier, firing, later, rfl, rfl, fires, before⟩ :=
            ih foundTail
          refine ⟨head :: earlier, firing, later, rfl, rfl, fires, ?_⟩
          intro alert member
          rcases List.mem_cons.mp member with rfl | old
          · simpa using quiet
          · exact before alert old

namespace Books

variable {processor : Processor F} {store middle after : MemStore F} {notified : List Event}

section

variable (books : Books processor store notified)
include books

theorem alerting_iff
    (key : String) :
    alertingBefore (store.states.lookup key) = true ↔
      (eventsOf key notified).length % 2 = 1 := by
  rw [← books.openness, any_fires_iff]
  exact (books.lifecycle key).firing_iff

theorem lifecycle_recorded
    {event : Event}
    (recorded : Recorded event store after)
    (fits : event.resolves = alertingBefore (store.states.lookup event.alertKey))
    (key : String) :
    Lifecycle (eventsOf key (notified ++ [event])) (alertsOf key after.alerts) := by
  have life := books.lifecycle key
  have quiet := books.openness event.alertKey
  rw [← fits] at quiet
  by_cases same : event.alertKey = key
  · subst same
    have events : eventsOf event.alertKey (notified ++ [event]) =
        eventsOf event.alertKey notified ++ [event] := by simp [eventsOf]
    rw [events]
    rcases recorded.alerts with ⟨opens, table⟩ |
      ⟨resolves, earlier, firing, later, table, fires, _, tableAfter⟩
    · have alerts : alertsOf event.alertKey after.alerts =
          alertsOf event.alertKey store.alerts ++ [Alert.opened event] := by
        simp [table, alertsOf, Alert.opened]
      rw [alerts]
      refine .opening event life (fun alert member => ?_) opens
      by_contra notResolved
      have firing : alert.status = .firing := by
        cases status : alert.status with
        | firing => rfl
        | resolved => exact absurd status notResolved
      rw [(any_fires_iff _ _).mpr ⟨alert, member, firing⟩, opens] at quiet
      simp at quiet
    · have fires' : firing.alertKey = event.alertKey ∧ firing.status = .firing := by
        simpa [Alert.fires] using fires
      have before : alertsOf event.alertKey store.alerts =
          alertsOf event.alertKey earlier ++ firing :: alertsOf event.alertKey later := by
        simp [table, alertsOf, fires'.1]
      rw [before] at life
      have last := life.firing_last fires'.2
      have alerts : alertsOf event.alertKey after.alerts =
          alertsOf event.alertKey earlier ++ [firing.resolvedBy event] := by
        have key : (firing.resolvedBy event).alertKey = event.alertKey := fires'.1
        unfold alertsOf at last ⊢
        rw [tableAfter, List.filter_append, List.filter_cons_of_pos (by simpa using key), last]
      rw [alerts]
      rw [last] at life
      exact .resolution event life fires'.2 resolves
  · have events : eventsOf key (notified ++ [event]) = eventsOf key notified := by
      simp [eventsOf, same]
    have alerts : alertsOf key after.alerts = alertsOf key store.alerts := by
      rcases recorded.alerts with ⟨_, table⟩ |
        ⟨_, earlier, firing, later, table, fires, _, tableAfter⟩
      · simp [table, alertsOf, Alert.opened, same]
      · have other : firing.alertKey ≠ key := by
          have firesKey : firing.alertKey = event.alertKey ∧ firing.status = .firing := by
            simpa [Alert.fires] using fires
          rw [firesKey.1]
          exact same
        simp [table, tableAfter, alertsOf, Alert.resolvedBy, other]
    rw [events, alerts]
    exact life

theorem rows_recorded
    {event : Event}
    (recorded : Recorded event store after)
    (fresh : store.events.lookup event.eventID = none) :
    (after.outbox.filter OutboxRow.isAlert).map (·.msg.msgID) =
        (notified ++ [event]).map (·.eventID ++ ".alert") ∧
      (∀ other ∈ notified ++ [event], after.events.lookup other.eventID = some other) ∧
      (∀ id other, after.events.lookup id = some other →
        (after.outbox.filter (OutboxRow.isDevice id)).length = 1) ∧
      ∀ row ∈ after.outbox, row.msg.subject = subjectEventDevice →
        (after.events.lookup row.msg.msgID).isSome := by
  obtain ⟨device, alert, rows, deviceSubject, deviceID, alertSubject, alertID⟩ := recorded.outbox
  have different : subjectEventDevice ≠ subjectEventAlert := by decide
  have lookups : ∀ id, after.events.lookup id =
      if id = event.eventID then some event else store.events.lookup id := by
    intro id
    rw [recorded.events, StringMap.lookup_insert_ite]
  refine ⟨?_, ?_, ?_, ?_⟩
  · have notAlert : device.isAlert = false := by
      simp [OutboxRow.isAlert, deviceSubject, different]
    have isAlert : alert.isAlert = true := by simp [OutboxRow.isAlert, alertSubject]
    have rest := books.alertRows
    simp only [rows, List.filter_append, List.filter_cons, notAlert, isAlert, List.filter_nil,
      Bool.false_eq_true, if_false, if_true, List.map_append, rest, List.map_cons,
      List.map_nil, alertID]
  · intro other member
    rw [lookups]
    rcases List.mem_append.mp member with old | new
    · have stored := books.notifiedStored other old
      split
      · next same =>
          rw [same, fresh] at stored
          simp at stored
      · exact stored
    · rw [List.mem_singleton.mp new]
      simp
  · intro id other found
    rw [lookups] at found
    have alertOther : alert.isDevice id = false := by
      simp [OutboxRow.isDevice, alertSubject, different.symm]
    have split : (after.outbox.filter (OutboxRow.isDevice id)).length =
        (store.outbox.filter (OutboxRow.isDevice id)).length +
          if device.isDevice id then 1 else 0 := by
      rw [rows, List.filter_append, List.length_append]
      simp only [List.filter_cons, alertOther, List.filter_nil]
      split <;> simp
    rw [split]
    split at found
    · next same =>
        -- The event is new, so it had no row.
        subst same
        have none : store.outbox.filter (OutboxRow.isDevice event.eventID) = [] := by
          rw [List.filter_eq_nil_iff]
          intro row member isRow
          simp only [OutboxRow.isDevice, Bool.and_eq_true, decide_eq_true_eq] at isRow
          have stored := books.rowsStored row member isRow.1
          rw [isRow.2, fresh] at stored
          simp at stored
        simp [none, OutboxRow.isDevice, deviceSubject, deviceID]
    · next otherID =>
        rw [books.deviceRows id other found]
        have notDevice : device.isDevice id = false := by
          simp [OutboxRow.isDevice, deviceID, Ne.symm otherID]
        simp [notDevice]
  · intro row member isDevice
    rw [lookups]
    split
    · rfl
    · next otherID =>
        rw [rows] at member
        rcases List.mem_append.mp member with old | new
        · exact books.rowsStored row old isDevice
        · rcases List.mem_cons.mp new with rfl | last
          · exact absurd deviceID otherID
          · rw [List.mem_singleton.mp last, alertSubject] at isDevice
            exact absurd isDevice.symm different

theorem recorded
    {key : String}
    {record : StateRecord}
    {event : Event}
    (states : middle.states = store.states.insert key record)
    (events : middle.events = store.events)
    (alerts : middle.alerts = store.alerts)
    (outbox : middle.outbox = store.outbox)
    (observation : middle.observation = store.observation)
    (recording : Recorded event middle after)
    (sameKey : record.key = key)
    (alertKey : event.alertKey = key)
    (fits : event.resolves = alertingBefore (store.states.lookup key))
    (moved : record.state.alerting = !alertingBefore (store.states.lookup key))
    (recovers : record.state = .recovering →
      ∃ definition ∈ processor.states.all, ∃ deviceID labels,
        key = definition.keyFor deviceID labels)
    (fresh : store.events.lookup event.eventID = none)
    (digest : ∃ deviceID source labels, event.eventID =
      stableID ["evt", deviceID, source, labels, event.type, event.observationID])
    (stored : (store.observation.lookup event.observationID).isSome) :
    Books processor after (notified ++ [event]) := by
  -- Seen without the written record, the event is recorded over the old tables.
  have aside : Recorded event { store with obsOrder := middle.obsOrder }
      { after with states := store.states } :=
    ⟨rfl, recording.observation.trans observation, recording.obsOrder, events ▸ recording.events,
      outbox ▸ recording.outbox, alerts ▸ recording.alerts⟩
  have booksAside : Books processor { store with obsOrder := middle.obsOrder } notified :=
    books.of_same rfl rfl rfl rfl fun _ => id
  subst alertKey
  obtain ⟨keyed, recovering⟩ :=
      books.states_inserted (recording.states.trans states) sameKey recovers
  obtain ⟨alertRows, notifiedStored, deviceRows, rowsStored⟩ := booksAside.rows_recorded aside fresh
  have lifecycle := booksAside.lifecycle_recorded aside fits
  refine ⟨keyed, recovering, ?_, lifecycle, alertRows, notifiedStored, deviceRows, rowsStored, ?_⟩
  · -- One more event of the key flips the side; the other keys keep theirs.
    intro other
    rw [Bool.eq_iff_iff, any_fires_iff, (lifecycle other).firing_iff, recording.states, states,
      StringMap.lookup_insert_ite]
    split
    · next same =>
        subst same
        have side := books.alerting_iff event.alertKey
        have longer : (eventsOf event.alertKey (notified ++ [event])).length =
            (eventsOf event.alertKey notified).length + 1 := by simp [eventsOf]
        rw [longer, alertingBefore_some, moved]
        cases before : alertingBefore (store.states.lookup event.alertKey) with
        | false =>
            rw [before] at side
            simp only [Bool.false_eq_true, false_iff] at side
            simp only [Bool.not_false, iff_true]
            omega
        | true =>
            rw [before] at side
            have odd := side.mp rfl
            simp only [Bool.not_true, Bool.false_eq_true, iff_false]
            omega
    · next different =>
        have unchanged : eventsOf other (notified ++ [event]) = eventsOf other notified := by
          simp [eventsOf, Ne.symm different]
        rw [unchanged, books.alerting_iff other]
  · intro id other found
    rw [recording.events, events, StringMap.lookup_insert_ite] at found
    rw [recording.observation, observation]
    split at found
    · next same =>
        obtain rfl := Option.some.inj found
        exact ⟨same.symm, same ▸ digest, stored⟩
    · exact books.identified id other found

end

end Books

end InfraObserver
