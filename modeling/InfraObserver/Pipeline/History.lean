import InfraObserver.Pipeline.Advance

/-!
# The transition log

Every change of a state record is logged as a transition. Over whole runs of
calls and sweeps the log of a key is a chain: it starts where an entity starts,
each transition leaves from where the last one arrived, later, and the record of
the key is where the last one arrived. What the log and the events say about
their observation is what the stored observation says.
-/

namespace InfraObserver

variable {F : Type} [GoFloat F] [Platform]

/-- The transition says about its observation what the observation says. -/
def Transition.CausedBy (sample : Observation F) (transition : Transition) : Prop :=
  transition.observationID = sample.observationID ∧
    transition.correlationID = sample.correlationID ∧
    transition.deviceID = sample.deviceID ∧ transition.instant = sample.observedAt

/-- The event says about its observation what the observation says. -/
def Event.CausedBy (sample : Observation F) (event : Event) : Prop :=
  event.observationID = sample.observationID ∧ event.correlationID = sample.correlationID ∧
    event.deviceID = sample.deviceID ∧ event.occurredAt = sample.observedAt

/-- The state of an entity before its first record: none for a state definition,
UP for a rule. -/
def Tracker.origin : Tracker F → HealthState
  | .state _ => .unset
  | .rule _ => .up

/-! ## What one update adds to the log -/

/-- The update moves the entity of a key on from its previous record. -/
structure Update.Continues
    (key : String)
    (origin : HealthState)
    (previous : Option StateRecord)
    (sample : Observation F)
    (update : Update) : Prop where
  sameKey : update.record.key = key
  observed : update.record.lastObservedAt = sample.observedAt
  newer : ∀ record ∈ previous, record.lastObservedAt < sample.observedAt
  stamped : update.record.lastObservationID = sample.observationID
  begun : (∀ record ∈ previous, record.state ≠ .unset) → update.record.state ≠ .unset
  moves :
    (update.transitions = [] ∧
        update.record.state = (previous.map StateRecord.state).getD origin) ∨
      ∃ transition, update.transitions = [transition] ∧
        transition.transitionID = stableID ["tr", key, sample.observationID] ∧
        transition.key = key ∧
        transition.fromState = (previous.map StateRecord.state).getD origin ∧
        transition.toState = update.record.state ∧ transition.CausedBy sample
  events : ∀ event ∈ update.events, event.alertKey = key ∧ event.CausedBy sample

namespace Definition

omit [GoFloat F] [Platform] in
theorem step_state
    (definition : Definition F)
    (record : StateRecord)
    (good : Bool)
    (instant : Time) :
    (definition.step record good instant).2.state = record.state ∧
      (definition.step record good instant).1 ≠ .unset := by
  unfold step
  split
  · exact ⟨rfl, fun unset => by cases unset⟩
  · dsimp only
    cases good with
    | true =>
        simp only [if_true, stepGood]
        split
        · split_ifs <;> exact ⟨rfl, fun unset => by cases unset⟩
        · split_ifs <;> exact ⟨rfl, fun unset => by cases unset⟩
        · exact ⟨rfl, fun unset => by cases unset⟩
    | false =>
        simp only [Bool.false_eq_true, if_false, stepBad]
        split
        · exact ⟨rfl, fun unset => by cases unset⟩
        · exact ⟨rfl, fun unset => by cases unset⟩
        · split_ifs <;> exact ⟨rfl, fun unset => by cases unset⟩

theorem applySample_moves_on
    (definition : Definition F)
    (record : StateRecord)
    (good : Bool)
    (sample : Observation F) :
    let update := definition.applySample record good sample
    let key := definition.keyFor sample.deviceID sample.labels
    update.record.state ≠ .unset ∧
      ((update.transitions = [] ∧ update.record.state = record.state) ∨
        update.transitions =
          [definition.makeTransition key record.state update.record.state sample]) ∧
      ∀ event ∈ update.events, event.alertKey = key ∧ event.CausedBy sample := by
  obtain ⟨kept, reached⟩ := definition.step_state (stamp record sample) good sample.observedAt
  rcases outcome : definition.step (stamp record sample) good sample.observedAt
    with ⟨toState, after⟩
  rw [outcome] at kept reached
  rw [applySample_eq definition record after good sample toState outcome kept]
  refine ⟨reached, ?_, ?_⟩
  · by_cases same : toState = record.state
    · exact Or.inl ⟨if_pos same, same⟩
    · exact Or.inr (if_neg same)
  · intro event member
    by_cases same : toState = record.state
    · simp only [same, if_true] at member
      cases member
    · simp only [same, if_false, Option.mem_toList, eventFor] at member
      split_ifs at member <;> obtain ⟨rfl⟩ := member <;> exact ⟨rfl, rfl, rfl, rfl, rfl⟩

theorem evaluate_continues
    {definition : Definition F}
    {previous : Option StateRecord}
    {sample : Observation F}
    (keyed : ∀ record ∈ previous,
      record.key = definition.keyFor sample.deviceID sample.labels)
    (applied : (definition.evaluate previous sample).ignored = .notIgnored) :
    (definition.evaluate previous sample).Continues
      (definition.keyFor sample.deviceID sample.labels) .unset previous sample := by
  have newer : ∀ record ∈ previous, record.lastObservedAt < sample.observedAt := by
    rintro record rfl
    exact evaluate_newer applied
  have stamped := evaluate_stamps applied
  have sameKey := (evaluate_moves keyed applied).sameKey
  obtain ⟨_, _, _, kept⟩ := evaluate_applied applied
  have observed := kept.lastObservedAt
  rcases definition.evaluate_cases previous sample with
    ⟨ignored, _⟩ | ⟨good, judged, result, verdict⟩
  · exact absurd applied ignored
  · have before : judged.state = (previous.map StateRecord.state).getD .unset := by
      rw [judge_keeps verdict]
      cases previous <;> rfl
    rw [result] at stamped sameKey observed ⊢
    obtain ⟨begun, moves, events⟩ := definition.applySample_moves_on judged good sample
    rw [before] at moves
    refine ⟨sameKey, observed, newer, stamped, fun _ => begun, ?_, events⟩
    rcases moves with silent | logged
    · exact Or.inl silent
    · exact Or.inr ⟨_, logged, rfl, rfl, rfl, rfl, rfl, rfl, rfl, rfl⟩

end Definition

variable {previous : Option StateRecord} {sample : Observation F}

theorem Rule.evaluate_continues
    {rule : Rule F}
    {samples : List (Sample F)}
    (keyed : ∀ record ∈ previous, record.key = rule.keyFor sample.deviceID sample.labels)
    (applied : (rule.evaluate previous samples sample).ignored = .notIgnored) :
    (rule.evaluate previous samples sample).Continues
      (rule.keyFor sample.deviceID sample.labels) .up previous sample := by
  have newer : ∀ record ∈ previous, record.lastObservedAt < sample.observedAt := by
    rintro record rfl
    exact evaluate_newer applied
  have about : (rule.evaluate previous samples sample).About
      (rule.keyFor sample.deviceID sample.labels) sample := rule.evaluate_about keyed
  have sameKey := about.record applied
  rcases rule.evaluate_cases previous samples sample with ⟨ignored, _⟩ | result
  · exact absurd applied ignored
  · rw [result] at sameKey ⊢
    have before : (previous.getD (rule.freshRecord sample)).state =
        (previous.map StateRecord.state).getD .up := by
      cases previous <;> rfl
    have begun : (∀ record ∈ previous, record.state ≠ .unset) →
        (previous.getD (rule.freshRecord sample)).state ≠ .unset := by
      cases previous with
      | none => exact fun _ fresh => by cases fresh
      | some record => exact fun set => set record rfl
    simp only [applySamples] at sameKey ⊢
    split_ifs at sameKey ⊢
    · exact ⟨sameKey, rfl, newer, rfl, begun, Or.inl ⟨rfl, before⟩, by simp⟩
    · exact ⟨sameKey, rfl, newer, rfl, begun, Or.inl ⟨rfl, before⟩, by simp⟩
    all_goals
      refine ⟨sameKey, rfl, newer, rfl, (fun _ unset => by cases unset), Or.inr ?_, ?_⟩
      · exact ⟨_, rfl, rfl, rfl, rfl, rfl, rfl, rfl, rfl, rfl⟩
      · intro event member
        obtain rfl := List.mem_singleton.mp member
        exact ⟨rfl, rfl, rfl, rfl, rfl⟩

theorem Tracker.evaluate_continues
    {tracker : Tracker F}
    {store : MemStore F}
    (keyed : ∀ record ∈ previous, record.key = tracker.keyFor sample.deviceID sample.labels)
    (applied : tracker.applies store sample previous = true) :
    (tracker.evaluate store sample previous).Continues
      (tracker.keyFor sample.deviceID sample.labels) tracker.origin previous sample := by
  simp only [applies, decide_eq_true_eq] at applied
  cases tracker with
  | state definition => exact definition.evaluate_continues keyed applied
  | rule watch => exact watch.evaluate_continues keyed applied

/-! ## The log of a key -/

/-- The log of an entity leads from its origin to its record. -/
structure Chronicle
    (origin : HealthState)
    (moves : List Transition)
    (record : StateRecord) : Prop where
  begins : ∀ move ∈ moves.head?, move.fromState = origin
  linked : moves.IsChain fun earlier later => later.fromState = earlier.toState
  ordered : moves.Pairwise fun earlier later => earlier.instant < later.instant
  current : record.state = (moves.getLast?.map Transition.toState).getD origin
  recent : ∀ move ∈ moves, move.instant ≤ record.lastObservedAt
  begun : record.state ≠ .unset

omit [GoFloat F] in
theorem Chronicle.continued
    {key : String}
    {origin : HealthState}
    {moves : List Transition}
    {update : Update}
    (continues : update.Continues key origin previous sample)
    (past : ∀ old ∈ previous, Chronicle origin moves old)
    (blank : previous = none → moves = []) :
    Chronicle origin (moves ++ update.transitions) update.record := by
  obtain ⟨state, begins, linked, ordered, earlier⟩ :
      (previous.map StateRecord.state).getD origin =
          (moves.getLast?.map Transition.toState).getD origin ∧
        (∀ move ∈ moves.head?, move.fromState = origin) ∧
        (moves.IsChain fun earlier later => later.fromState = earlier.toState) ∧
        (moves.Pairwise fun earlier later => earlier.instant < later.instant) ∧
        ∀ move ∈ moves, move.instant < sample.observedAt := by
    cases previous with
    | none =>
        rw [blank rfl]
        exact ⟨rfl, nofun, .nil, .nil, nofun⟩
    | some old =>
        obtain ⟨begins, linked, ordered, current, recent, -⟩ := past old rfl
        refine ⟨current, begins, linked, ordered, fun move member => ?_⟩
        exact lt_of_le_of_lt (recent move member) (continues.newer old rfl)
  have begun : update.record.state ≠ .unset :=
    continues.begun fun old present => (past old present).begun
  have observed := continues.observed
  rcases continues.moves with
    ⟨silent, same⟩ | ⟨move, moved, -, -, left, arrived, -, -, -, instant⟩
  · rw [silent, List.append_nil]
    refine ⟨begins, linked, ordered, same.trans state, ?_, begun⟩
    intro move member
    rw [observed]
    exact (earlier move member).le
  · rw [moved]
    refine ⟨?_, ?_, ?_, ?_, ?_, begun⟩
    · cases moves with
      | nil =>
          rintro first ⟨rfl⟩
          rw [left, state]
          rfl
      | cons first rest => exact begins
    · refine List.isChain_append.mpr ⟨linked, .singleton _, ?_⟩
      rintro last final next ⟨rfl⟩
      rw [left, state, final]
      rfl
    · refine List.pairwise_append.mpr ⟨ordered, List.pairwise_singleton .., ?_⟩
      intro old member new newest
      rw [List.mem_singleton.mp newest, instant]
      exact earlier old member
    · rw [List.getLast?_concat, ← arrived]
      rfl
    · intro other member
      rw [observed]
      rcases List.mem_append.mp member with old | newest
      · exact (earlier other old).le
      · rw [List.mem_singleton.mp newest, instant]

namespace MemStore

/-- The stored transitions of a key, in the order of insertion. -/
def transitionsOf (store : MemStore F) (key : String) : List Transition :=
  (store.trOrder.filterMap store.transitions.lookup).filter fun transition =>
    transition.key = key

omit [GoFloat F] [Platform] in
theorem withTransition_of_fresh
    (store : MemStore F)
    {transition : Transition}
    (fresh : store.transitions.lookup transition.transitionID = none) :
    store.withTransition transition = { store with
      transitions := store.transitions.insert transition.transitionID transition
      trOrder := store.trOrder ++ [transition.transitionID] } := by
  rw [withTransition, fresh]
  rfl

omit [GoFloat F] [Platform] in
theorem transitionsOf_withTransition
    (store : MemStore F)
    (listed : ∀ id ∈ store.trOrder, (store.transitions.lookup id).isSome = true)
    {transition : Transition}
    (fresh : store.transitions.lookup transition.transitionID = none)
    (key : String) :
    (store.withTransition transition).transitionsOf key =
      store.transitionsOf key ++ if transition.key = key then [transition] else [] := by
  have unlisted : transition.transitionID ∉ store.trOrder := by
    intro member
    have found := listed _ member
    rw [fresh] at found
    cases found
  have others : store.trOrder.filterMap
      (store.transitions.insert transition.transitionID transition).lookup =
        store.trOrder.filterMap store.transitions.lookup := by
    refine List.filterMap_congr fun id member => ?_
    exact Finmap.lookup_insert_of_ne _ fun same => unlisted (same ▸ member)
  rw [store.withTransition_of_fresh fresh]
  simp only [transitionsOf, List.filterMap_append, others, List.filter_append]
  congr 1
  simp [Finmap.lookup_insert, List.filter_cons]

end MemStore

/-! ## The log over whole runs -/

theorem Processor.SeparateKeys.origin_eq
    {processor : Processor F}
    (separate : processor.SeparateKeys)
    {left right : Tracker F}
    (tracksLeft : processor.Tracks left)
    (tracksRight : processor.Tracks right)
    {deviceID otherID : String}
    {labels others : StringMap String}
    (shared : left.keyFor deviceID labels = right.keyFor otherID others) :
    left.origin = right.origin := by
  cases left with
  | state definition =>
      cases right with
      | state other => rfl
      | rule watch => exact absurd shared (separate _ tracksLeft _ tracksRight _ _ _ _)
  | rule watch =>
      cases right with
      | state other => exact absurd shared.symm (separate _ tracksRight _ tracksLeft _ _ _ _)
      | rule other => rfl

/-- What holds of the log in every state of a run. -/
structure History (processor : Processor F) (store : MemStore F) : Prop where
  keyed : ∀ key record, store.states.lookup key = some record → record.key = key
  recorded : ∀ key record, store.states.lookup key = some record →
    ∃ tracker, processor.Tracks tracker ∧
      (∃ deviceID labels, key = tracker.keyFor deviceID labels) ∧
      Chronicle tracker.origin (store.transitionsOf key) record
  unrecorded : ∀ key, store.states.lookup key = none → store.transitionsOf key = []
  listed : ∀ id, id ∈ store.trOrder ↔ (store.transitions.lookup id).isSome = true
  transitions : ∀ id transition, store.transitions.lookup id = some transition →
    id = stableID ["tr", transition.key, transition.observationID] ∧
      ∃ sample, store.observation.lookup transition.observationID = some sample ∧
        transition.CausedBy sample
  events : ∀ id event, store.events.lookup id = some event →
    ∃ sample, store.observation.lookup event.observationID = some sample ∧
      event.CausedBy sample
  alerts : ∀ alert ∈ store.alerts, ∃ event,
    store.events.lookup alert.openEventID = some event ∧ event.resolves = false ∧
      event.alertKey = alert.alertKey

/-- What holds of the log while the transaction of a sample is running. -/
structure History.During
    (processor : Processor F)
    (sample : Observation F)
    (store : MemStore F) : Prop where
  history : History processor store
  stored : store.observation.lookup sample.observationID = some sample
  marked : ∀ id transition, store.transitions.lookup id = some transition →
    transition.observationID = sample.observationID →
      ∃ record, store.states.lookup transition.key = some record ∧
        record.lastObservationID = sample.observationID

namespace History

variable {processor : Processor F} {store : MemStore F} {sample : Observation F}

theorem empty (processor : Processor F) (devices : StringMap Device) :
    History processor { (MemStore.new : MemStore F) with devices } where
  keyed := by simp [MemStore.new]
  recorded := by simp [MemStore.new]
  unrecorded _ _ := rfl
  listed := by simp [MemStore.new]
  transitions := by simp [MemStore.new]
  events := by simp [MemStore.new]
  alerts := by simp [MemStore.new]

theorem enter
    (history : History processor store)
    (fresh : store.observation.lookup sample.observationID = none) :
    During processor sample ((store.withObservation sample).touched sample) := by
  obtain ⟨devices, same⟩ := (store.withObservation sample).touched_eq sample
  have kept : ∀ id old, store.observation.lookup id = some old →
      (store.observation.insert sample.observationID sample).lookup id = some old := by
    intro id old found
    rw [Finmap.lookup_insert_of_ne _ fun same => by rw [same, fresh] at found; cases found]
    exact found
  rw [same]
  refine ⟨⟨history.keyed, history.recorded, history.unrecorded, history.listed, ?_, ?_,
    history.alerts⟩, Finmap.lookup_insert _, ?_⟩
  · intro id transition found
    obtain ⟨name, cause, stored, caused⟩ := history.transitions id transition found
    exact ⟨name, cause, kept _ _ stored, caused⟩
  · intro id event found
    obtain ⟨cause, stored, caused⟩ := history.events id event found
    exact ⟨cause, kept _ _ stored, caused⟩
  · intro id transition found own
    obtain ⟨-, cause, stored, -⟩ := history.transitions id transition found
    rw [own, fresh] at stored
    cases stored

namespace During

theorem withEvent
    (during : During processor sample store)
    {event : Event}
    (caused : event.CausedBy sample) :
    During processor sample (store.withEvent event) := by
  rcases store.withEvent_notes event with same | ⟨fresh, events, -, -, alerts⟩
  · rwa [same]
  · obtain ⟨history, stored, marked⟩ := during
    obtain ⟨_, _, _, _, _, same⟩ := store.withEvent_eq event
    have kept : ∀ id old, store.events.lookup id = some old →
        (store.withEvent event).events.lookup id = some old := by
      intro id old found
      rw [events, Finmap.lookup_insert_of_ne _ fun equal => by
        rw [equal, fresh] at found
        cases found]
      exact found
    have added : (store.withEvent event).events.lookup event.eventID = some event := by
      rw [events, Finmap.lookup_insert]
    have refers : ∀ id other, (store.withEvent event).events.lookup id = some other →
        ∃ cause, store.observation.lookup other.observationID = some cause ∧
          other.CausedBy cause := by
      intro id other found
      rw [events, StringMap.lookup_insert_ite] at found
      split_ifs at found
      · obtain rfl := Option.some.inj found
        exact ⟨sample, caused.1 ▸ stored, caused⟩
      · exact history.events id other found
    have opened : ∀ alert ∈ (store.withEvent event).alerts, ∃ opening,
        (store.withEvent event).events.lookup alert.openEventID = some opening ∧
          opening.resolves = false ∧ opening.alertKey = alert.alertKey := by
      have earlier : ∀ alert ∈ store.alerts, ∃ opening,
          (store.withEvent event).events.lookup alert.openEventID = some opening ∧
            opening.resolves = false ∧ opening.alertKey = alert.alertKey := by
        intro alert member
        obtain ⟨opening, found, opens⟩ := history.alerts alert member
        exact ⟨opening, kept _ _ found, opens⟩
      intro alert member
      rcases alerts with unchanged | ⟨opens, new⟩ | resolved
      · exact earlier alert (unchanged ▸ member)
      · rw [new] at member
        rcases List.mem_append.mp member with old | newest
        · exact earlier alert old
        · rw [List.mem_singleton.mp newest]
          exact ⟨event, added, opens, rfl⟩
      · rw [resolved] at member
        rcases FirstMatch.mem_amendFirst member with old | ⟨old, present, -, rfl⟩
        · exact earlier alert old
        · exact earlier old present
    rw [same] at refers opened ⊢
    exact ⟨⟨history.keyed, history.recorded, history.unrecorded, history.listed,
      history.transitions, refers, opened⟩, stored, marked⟩

theorem fresh
    (injective : Function.Injective stableID)
    (during : During processor sample store)
    {key : String}
    (unseen : ∀ record ∈ store.states.lookup key,
      record.lastObservationID ≠ sample.observationID) :
    store.transitions.lookup (stableID ["tr", key, sample.observationID]) = none := by
  cases found : store.transitions.lookup (stableID ["tr", key, sample.observationID]) with
  | none => rfl
  | some transition =>
      obtain ⟨name, -⟩ := during.history.transitions _ _ found
      have parts := injective name
      simp only [List.cons.injEq, true_and, and_true] at parts
      obtain ⟨record, present, seen⟩ := during.marked _ _ found parts.2.symm
      rw [← parts.1] at present
      exact absurd seen (unseen record present)

theorem logged
    (injective : Function.Injective stableID)
    (during : During processor sample store)
    {tracker : Tracker F}
    (tracks : processor.Tracks tracker)
    {key : String}
    (own : ∃ deviceID labels, key = tracker.keyFor deviceID labels)
    (same : ∀ other, processor.Tracks other →
      (∃ deviceID labels, key = other.keyFor deviceID labels) → other.origin = tracker.origin)
    {update : Update}
    (continues : update.Continues key tracker.origin (store.states.lookup key) sample)
    (unseen : ∀ record ∈ store.states.lookup key,
      record.lastObservationID ≠ sample.observationID) :
    During processor sample (update.transitions.foldl MemStore.withTransition
      { store with states := store.states.insert update.record.key update.record }) := by
  have fresh := during.fresh injective unseen
  obtain ⟨history, stored, marked⟩ := during
  have chronicle : Chronicle tracker.origin (store.transitionsOf key ++ update.transitions)
      update.record := by
    refine Chronicle.continued continues ?_ (history.unrecorded key)
    intro old present
    obtain ⟨other, tracked, shared, chronicle⟩ := history.recorded key old present
    rwa [same other tracked shared] at chronicle
  rw [continues.sameKey]
  generalize logged : update.transitions.foldl MemStore.withTransition
    { store with states := store.states.insert key update.record } = after
  -- Whether or not the state moved, the log of the key grows by the transitions of the update.
  obtain ⟨states, observation, events, alerts, logs, listed, found⟩ :
      after.states = store.states.insert key update.record ∧
        after.observation = store.observation ∧ after.events = store.events ∧
        after.alerts = store.alerts ∧
        (∀ other, after.transitionsOf other =
          store.transitionsOf other ++ if key = other then update.transitions else []) ∧
        (∀ id, id ∈ after.trOrder ↔ (after.transitions.lookup id).isSome = true) ∧
        ∀ id transition, after.transitions.lookup id = some transition →
          store.transitions.lookup id = some transition ∨
            transition ∈ update.transitions ∧ id = stableID ["tr", key, sample.observationID] := by
    subst logged
    rcases continues.moves with ⟨silent, -⟩ | ⟨move, moved, name, about, -⟩
    · rw [silent]
      refine ⟨rfl, rfl, rfl, rfl, ?_, history.listed, fun _ _ found => Or.inl found⟩
      intro other
      rw [ite_self, List.append_nil]
      rfl
    · rw [← name] at fresh
      have series := MemStore.transitionsOf_withTransition
        { store with states := store.states.insert key update.record }
        (fun id => (history.listed id).mp) fresh
      have grown := MemStore.withTransition_of_fresh
        { store with states := store.states.insert key update.record } fresh
      rw [moved, List.foldl_cons, List.foldl_nil]
      refine ⟨?_, ?_, ?_, ?_, fun other => about ▸ series other, ?_, ?_⟩ <;> rw [grown]
      · intro id
        rw [List.mem_append, List.mem_singleton, history.listed, StringMap.lookup_insert_ite]
        split_ifs with newest
        · simp [newest]
        · simp [newest]
      · intro id transition found
        rw [StringMap.lookup_insert_ite] at found
        split_ifs at found with newest
        · obtain rfl := Option.some.inj found
          exact Or.inr ⟨List.mem_singleton_self _, newest.trans name⟩
        · exact Or.inl found
  have caused : ∀ transition ∈ update.transitions,
      transition.key = key ∧ transition.CausedBy sample := by
    intro transition member
    rcases continues.moves with ⟨silent, -⟩ | ⟨move, moved, -, about, -, -, caused⟩
    · rw [silent] at member
      cases member
    · rw [moved] at member
      rw [List.mem_singleton.mp member]
      exact ⟨about, caused⟩
  refine ⟨⟨?_, ?_, ?_, listed, ?_, ?_, ?_⟩, observation ▸ stored, ?_⟩
  · intro other record present
    rw [states, StringMap.lookup_insert_ite] at present
    split_ifs at present with equal
    · rw [← Option.some.inj present, equal]
      exact continues.sameKey
    · exact history.keyed other record present
  · intro other record present
    rw [states, StringMap.lookup_insert_ite] at present
    rw [logs]
    split_ifs at present with equal
    · subst equal
      rw [if_pos rfl, ← Option.some.inj present]
      exact ⟨tracker, tracks, own, chronicle⟩
    · rw [if_neg (Ne.symm equal), List.append_nil]
      exact history.recorded other record present
  · intro other absent
    rw [states, StringMap.lookup_insert_ite] at absent
    split_ifs at absent with equal
    rw [logs, if_neg (Ne.symm equal), List.append_nil]
    exact history.unrecorded other absent
  · intro id transition present
    rw [observation]
    rcases found id transition present with old | ⟨new, name⟩
    · exact history.transitions id transition old
    · obtain ⟨about, cause⟩ := caused transition new
      rw [about, cause.1]
      exact ⟨name, sample, stored, cause⟩
  · rw [events, observation]
    exact history.events
  · rw [events, alerts]
    exact history.alerts
  · intro id transition present mine
    rw [states, StringMap.lookup_insert_ite]
    split_ifs with equal
    · exact ⟨_, rfl, continues.stamped⟩
    · rcases found id transition present with old | ⟨new, -⟩
      · exact marked id transition old mine
      · exact absurd (caused transition new).1 equal

theorem turn
    (injective : Function.Injective stableID)
    (separate : processor.SeparateKeys)
    (during : During processor sample store)
    (before : MemStore F)
    {tracker : Tracker F}
    (tracks : processor.Tracks tracker) :
    During processor sample (tracker.turn before sample store) := by
  simp only [Tracker.turn]
  split
  · next applied =>
      have continues := Tracker.evaluate_continues (during.history.keyed _) applied
      have unseen : ∀ record ∈ store.states.lookup
          (tracker.keyFor sample.deviceID sample.labels),
            record.lastObservationID ≠ sample.observationID := by
        intro record present seen
        rw [Option.mem_def] at present
        rw [present, tracker.not_applies_of_seen seen] at applied
        cases applied
      have logged := during.logged injective tracks ⟨_, _, rfl⟩
        (fun other tracked used => by
          obtain ⟨_, _, shared⟩ := used
          exact separate.origin_eq tracked tracks shared.symm) continues unseen
      unfold Update.stored
      exact List.foldlRecOn _ _ logged fun _ holds event member =>
        holds.withEvent (continues.events event member).2
  · exact during

end During

theorem process
    (injective : Function.Injective stableID)
    (separate : processor.SeparateKeys)
    (history : History processor store)
    (attempt : Attempt F)
    (sample : Observation F) :
    History processor (processor.process attempt sample store).2 := by
  rcases processor.process_effect attempt sample store with
    ⟨same, -⟩ | ⟨enriched, device, -, fresh, result, -⟩
  · rwa [same]
  · have during : During processor enriched (processor.effect enriched device store) :=
      List.foldlRecOn _ _ (history.enter fresh) fun _ during tracker member =>
        during.turn injective separate store (Processor.mem_trackers member).1
    rw [result]
    exact during.history

/-- The log holds over every run of calls and sweeps from an empty store. -/
theorem of_run
    (injective : Function.Injective stableID)
    (separate : processor.SeparateKeys)
    (devices : StringMap Device)
    (run : List (Processor.Step F)) :
    History processor (processor.runSteps run { (MemStore.new : MemStore F) with devices }) := by
  refine List.foldlRecOn _ _ (empty processor devices) fun store history next _ => ?_
  exact next.apply_preserves (History processor)
    (fun attempt sample _ holds => holds.process injective separate attempt sample) history

end History

namespace Processor

/-- The transition log is a complete and chained history of the state records. -/
structure Chronicled (processor : Processor F) (store : MemStore F) : Prop where
  /-- The transitions of a key are in the order of time. -/
  ordered : ∀ key, (store.transitionsOf key).Pairwise fun earlier later =>
    earlier.instant < later.instant
  /-- Each transition of a key leaves from where the previous one arrived. -/
  linked : ∀ key, (store.transitionsOf key).IsChain fun earlier later =>
    later.fromState = earlier.toState
  /-- The log of a state definition's key starts from nothing, and its record is
  where the last transition arrived. -/
  definitions : ∀ definition ∈ processor.states.all, ∀ deviceID labels,
    (∀ first ∈ (store.transitionsOf (definition.keyFor deviceID labels)).head?,
      first.fromState = .unset) ∧
    ∀ record, store.states.lookup (definition.keyFor deviceID labels) = some record →
      ∃ last ∈ (store.transitionsOf (definition.keyFor deviceID labels)).getLast?,
        record.state = last.toState
  /-- The log of a rule's key starts from UP, and its record is where the last
  transition arrived, or UP. -/
  rules : ∀ rule ∈ processor.rules.all, ∀ deviceID labels,
    (∀ first ∈ (store.transitionsOf (rule.keyFor deviceID labels)).head?,
      first.fromState = .up) ∧
    ∀ record, store.states.lookup (rule.keyFor deviceID labels) = some record →
      record.state = ((store.transitionsOf (rule.keyFor deviceID labels)).getLast?.map
        Transition.toState).getD .up
  recorded : ∀ key, store.transitionsOf key ≠ [] → (store.states.lookup key).isSome = true
  /-- A stored transition is in the log of its key, and refers to a stored
  observation that says the same. -/
  transitions : ∀ id transition, store.transitions.lookup id = some transition →
    transition ∈ store.transitionsOf transition.key ∧
      ∃ sample, store.observation.lookup transition.observationID = some sample ∧
        transition.CausedBy sample
  /-- A stored event refers to a stored observation that says the same. -/
  events : ∀ id event, store.events.lookup id = some event →
    ∃ sample, store.observation.lookup event.observationID = some sample ∧
      event.CausedBy sample
  /-- The opening event of an alert is stored, does not resolve, and has its key. -/
  alerts : ∀ alert ∈ store.alerts, ∃ event,
    store.events.lookup alert.openEventID = some event ∧ event.resolves = false ∧
      event.alertKey = alert.alertKey

/-- In every run of `Process` and `Sweep` calls from a store without records, whatever
is delivered and whatever fails, the transition log is a complete and chained history
of the state records. -/
theorem transition_log_chained
    (injective : Function.Injective (stableID : List String → String))
    (processor : Processor F)
    (separate : processor.SeparateKeys)
    (devices : StringMap Device)
    (run : List (Step F)) :
    processor.Chronicled
      (processor.runSteps run { (MemStore.new : MemStore F) with devices }) := by
  have history := History.of_run injective separate devices run
  generalize processor.runSteps run { (MemStore.new : MemStore F) with devices } = store at history
  have log : ∀ tracker, processor.Tracks tracker → ∀ deviceID labels record,
      store.states.lookup (tracker.keyFor deviceID labels) = some record →
        Chronicle tracker.origin (store.transitionsOf (tracker.keyFor deviceID labels)) record := by
    intro tracker tracks deviceID labels record found
    obtain ⟨other, tracked, ⟨_, _, shared⟩, chronicle⟩ := history.recorded _ record found
    rwa [separate.origin_eq tracked tracks shared.symm] at chronicle
  have begins : ∀ tracker, processor.Tracks tracker → ∀ deviceID labels,
      ∀ first ∈ (store.transitionsOf (tracker.keyFor deviceID labels)).head?,
        first.fromState = tracker.origin := by
    intro tracker tracks deviceID labels
    cases found : store.states.lookup (tracker.keyFor deviceID labels) with
    | none =>
        rw [history.unrecorded _ found]
        exact nofun
    | some record => exact (log tracker tracks _ _ record found).begins
  have logs : ∀ key,
      ((store.transitionsOf key).Pairwise fun earlier later => earlier.instant < later.instant) ∧
        (store.transitionsOf key).IsChain fun earlier later =>
          later.fromState = earlier.toState := by
    intro key
    cases found : store.states.lookup key with
    | none =>
        rw [history.unrecorded key found]
        exact ⟨.nil, .nil⟩
    | some record =>
        obtain ⟨_, _, _, chronicle⟩ := history.recorded key record found
        exact ⟨chronicle.ordered, chronicle.linked⟩
  refine ⟨fun key => (logs key).1, fun key => (logs key).2, ?_, ?_, ?_, ?_, history.events,
    history.alerts⟩
  · intro definition known deviceID labels
    refine ⟨begins (.state definition) known deviceID labels, fun record found => ?_⟩
    have chronicle := log (.state definition) known deviceID labels record found
    have current : record.state = ((store.transitionsOf
        (definition.keyFor deviceID labels)).getLast?.map Transition.toState).getD .unset :=
      chronicle.current
    cases last : (store.transitionsOf (definition.keyFor deviceID labels)).getLast? with
    | none =>
        rw [last] at current
        exact absurd current chronicle.begun
    | some move =>
        rw [last] at current
        exact ⟨move, rfl, current⟩
  · intro rule known deviceID labels
    refine ⟨begins (.rule rule) known deviceID labels, fun record found => ?_⟩
    exact (log (.rule rule) known deviceID labels record found).current
  · intro key logged
    cases found : store.states.lookup key with
    | none => exact absurd (history.unrecorded key found) logged
    | some record => rfl
  · intro id transition found
    refine ⟨?_, (history.transitions id transition found).2⟩
    refine List.mem_filter.mpr ⟨List.mem_filterMap.mpr ⟨id, ?_, found⟩, decide_eq_true rfl⟩
    exact (history.listed id).mpr (by rw [found]; rfl)

end Processor

end InfraObserver

namespace InfraObserver.Processor

attribute [local instance] Platform.plain GoFloat.integer

/-- A definition and a rule that go down with the first sample and back with the
second: both logs have two transitions. -/
theorem flap_log_chained :
    let store := flapProcessor.runSteps
      [.process (Attempt.plain ℤ) (Definition.reachabilitySample "o1" 1 false),
        .process (Attempt.plain ℤ) (Definition.reachabilitySample "o2" 2 true)] .new
    (store.transitionsOf "flap/sw-1/").length = 2 ∧
      (store.transitionsOf "rule:flap/sw-1/").length = 2 ∧ flapProcessor.Chronicled store := by
  intro store
  refine ⟨by decide +kernel, by decide +kernel, ?_⟩
  exact transition_log_chained plainDigest_injective flapProcessor flapProcessor_separate ∅ _

end InfraObserver.Processor
