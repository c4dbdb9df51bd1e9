import InfraObserver.Pipeline.Runs

/-!
# How a call advances the state records

The state table and the emitted events after a call are a fold over the trackers of
the sample. A key is advanced at most once, by the first of its trackers that does
not ignore the sample, and from the record that was stored before the call.
-/

namespace InfraObserver

variable {F : Type} [GoFloat F] [Platform]

namespace Tracker

/-- The metric that a tracker follows. -/
def metric : Tracker F → String
  | .state definition => definition.metric
  | .rule watch => watch.matchOn.metric

/-- The definition that the records of a tracker name. -/
def definitionID : Tracker F → String
  | .state definition => definition.id
  | .rule watch => "rule:" ++ watch.id

/-- The labels that tell the records of a tracker apart. -/
def labelsOf : Tracker F → StringMap String → StringMap String
  | .state definition, labels => definition.keyLabelsOf labels
  | .rule _, labels => labels

variable {store : MemStore F} {sample : Observation F} {previous : Option StateRecord}

variable {tracker : Tracker F}

section

variable (applied : tracker.applies store sample previous = true)
include applied

theorem evaluate_newer :
    (tracker.evaluate store sample previous).record.lastObservedAt = sample.observedAt ∧
      ∀ record ∈ previous, record.lastObservedAt < sample.observedAt := by
  simp only [applies, decide_eq_true_eq] at applied
  cases tracker with
  | state definition =>
      obtain ⟨_, _, _, kept⟩ := Definition.evaluate_applied applied
      refine ⟨kept.lastObservedAt, ?_⟩
      rintro record rfl
      exact Definition.evaluate_newer applied
  | rule watch =>
      refine ⟨(Rule.evaluate_applied applied).2.2.1, ?_⟩
      rintro record rfl
      exact Rule.evaluate_newer applied

theorem evaluate_identity :
    let record := (tracker.evaluate store sample previous).record
    record.definitionID = (previous.map StateRecord.definitionID).getD tracker.definitionID ∧
      record.deviceID = (previous.map StateRecord.deviceID).getD sample.deviceID := by
  simp only [applies, decide_eq_true_eq] at applied
  cases tracker with
  | state definition =>
      obtain ⟨_, _, _, kept⟩ := Definition.evaluate_applied applied
      cases previous <;> exact ⟨kept.definitionID, kept.deviceID⟩
  | rule watch =>
      obtain ⟨sameID, sameDevice, -⟩ := Rule.evaluate_applied applied
      cases previous <;> exact ⟨sameID, sameDevice⟩

end

end Tracker

theorem Definitions.metric_of_mem
    {definitions : Definitions F}
    {definition : Definition F}
    {metric : String}
    {deviceType : DeviceType}
    (member : definition ∈ definitions.forMetric metric deviceType) :
    definition.metric = metric := by
  have applies := (List.mem_filter.mp member).2
  simp only [Bool.and_eq_true, decide_eq_true_eq] at applies
  exact applies.1

/-! ## The trackers of a sample -/

namespace Processor

/-- The tracker is configured. -/
def Tracks (processor : Processor F) : Tracker F → Prop
  | .state definition => definition ∈ processor.states.all
  | .rule rule => rule ∈ processor.rules.all

/-- The first tracker of a key that does not ignore the sample. -/
def advancer
    (processor : Processor F)
    (sample : Observation F)
    (device : Device)
    (store : MemStore F)
    (key : String) : Option (Tracker F) :=
  (processor.trackers sample device).find? fun tracker =>
    tracker.keyFor sample.deviceID sample.labels = key &&
      tracker.applies store sample (store.states.lookup key)

variable {processor : Processor F} {sample : Observation F}

theorem mem_trackers
    {device : Device}
    {tracker : Tracker F}
    (member : tracker ∈ processor.trackers sample device) :
    processor.Tracks tracker ∧ tracker.metric = sample.metric := by
  rcases List.mem_append.mp member with stated | ruled
  · obtain ⟨definition, listed, rfl⟩ := List.mem_map.mp stated
    exact ⟨processor.states.forMetric_subset _ _ _ listed, Definitions.metric_of_mem listed⟩
  · obtain ⟨rule, listed, rfl⟩ := List.mem_map.mp ruled
    obtain ⟨known, applies⟩ := List.mem_filter.mp listed
    simp only [Bool.and_eq_true, decide_eq_true_eq] at applies
    exact ⟨known, applies.1⟩

theorem uses_iff
    {device : Device}
    {key : String} :
    processor.Uses sample device key ↔ ∃ tracker ∈ processor.trackers sample device,
      key = tracker.keyFor sample.deviceID sample.labels := by
  unfold Uses trackers
  constructor
  · rintro (⟨definition, member, same⟩ | ⟨rule, member, same⟩)
    · exact ⟨.state definition, by simp [member], same⟩
    · exact ⟨.rule rule, by simp [member], same⟩
  · rintro ⟨tracker, member, same⟩
    rcases List.mem_append.mp member with stated | ruled
    · obtain ⟨definition, listed, rfl⟩ := List.mem_map.mp stated
      exact Or.inl ⟨definition, listed, same⟩
    · obtain ⟨rule, listed, rfl⟩ := List.mem_map.mp ruled
      exact Or.inr ⟨rule, listed, same⟩

theorem Uses.tracker
    {device : Device}
    {key : String}
    (used : processor.Uses sample device key) :
    ∃ tracker, processor.Tracks tracker ∧ tracker.metric = sample.metric ∧
      key = tracker.keyFor sample.deviceID sample.labels := by
  obtain ⟨tracker, member, same⟩ := uses_iff.mp used
  obtain ⟨known, metric⟩ := mem_trackers member
  exact ⟨tracker, known, metric, same⟩

end Processor

/-! ## One key of the fold -/

/-- Every record is stored under its own key. -/
def Standing.Keyed (standing : Standing) : Prop :=
  ∀ key record, standing.states.lookup key = some record → record.key = key

/-- The events about one key. -/
def Standing.eventsFor (standing : Standing) (key : String) : List Event :=
  standing.events.filter fun event => event.alertKey = key

namespace Tracker

variable {store : MemStore F} {sample : Observation F} {standing : Standing}
variable {tracker : Tracker F}

theorem advance_of_ignored
    (ignored : tracker.applies store sample
      (standing.states.lookup (tracker.keyFor sample.deviceID sample.labels)) = false) :
    tracker.advance store sample standing = standing := by
  simp only [applies, decide_eq_false_iff_not] at ignored
  simp only [advance, Update.onto, ignored, if_false]

theorem advance_of_applies
    (keyed : standing.Keyed)
    {key : String}
    (own : tracker.keyFor sample.deviceID sample.labels = key)
    (applied : tracker.applies store sample (standing.states.lookup key) = true) :
    let update := tracker.evaluate store sample (standing.states.lookup key)
    tracker.advance store sample standing =
      { states := standing.states.insert key update.record
        events := standing.events ++ update.events } := by
  intro update
  subst own
  have about : update.About (tracker.keyFor sample.deviceID sample.labels) sample :=
    tracker.evaluate_about fun record => keyed _ record
  simp only [applies, decide_eq_true_eq] at applied
  simp only [advance, Update.onto, applied, if_true]
  rw [about.record applied]

theorem advance_keyed
    (store : MemStore F)
    (sample : Observation F)
    (keyed : standing.Keyed)
    (tracker : Tracker F) :
    (tracker.advance store sample standing).Keyed := by
  cases applied : tracker.applies store sample
      (standing.states.lookup (tracker.keyFor sample.deviceID sample.labels)) with
  | false =>
      rw [advance_of_ignored applied]
      exact keyed
  | true =>
      rw [advance_of_applies keyed rfl applied]
      intro key record found
      dsimp only at found
      rw [StringMap.lookup_insert_ite] at found
      split at found
      · next same =>
          rw [← Option.some.inj found, same]
          exact (tracker.evaluate_about fun record => keyed _ record).record
            (of_decide_eq_true applied)
      · exact keyed key record found

theorem advance_other
    (store : MemStore F)
    (keyed : standing.Keyed)
    {key : String}
    (other : tracker.keyFor sample.deviceID sample.labels ≠ key) :
    (tracker.advance store sample standing).states.lookup key = standing.states.lookup key ∧
      (tracker.advance store sample standing).eventsFor key = standing.eventsFor key := by
  cases applied : tracker.applies store sample
      (standing.states.lookup (tracker.keyFor sample.deviceID sample.labels)) with
  | false =>
      rw [advance_of_ignored applied]
      exact ⟨rfl, rfl⟩
  | true =>
      rw [advance_of_applies keyed rfl applied]
      constructor
      · dsimp only
        rw [StringMap.lookup_insert_ite, if_neg (Ne.symm other)]
      · have silent : (tracker.evaluate store sample (standing.states.lookup
            (tracker.keyFor sample.deviceID sample.labels))).events.filter
              (fun event => event.alertKey = key) = [] := by
          rw [List.filter_eq_nil_iff]
          intro event member
          rw [((tracker.evaluate_about fun record => keyed _ record).events event member).1]
          simpa using other
        simp only [Standing.eventsFor, List.filter_append, silent, List.append_nil]

/-- The first tracker of a key that does not ignore the sample decides the record
and the events of the key: it stamps the record, so the trackers after it take
the sample for a duplicate. -/
theorem foldl_advance
    (trackers : List (Tracker F))
    (keyed : standing.Keyed)
    (key : String) :
    let previous := standing.states.lookup key
    let first := trackers.find? fun tracker =>
      tracker.keyFor sample.deviceID sample.labels = key && tracker.applies store sample previous
    let final := trackers.foldl (advance store sample) standing
    final.states.lookup key =
        (first.elim previous fun tracker => some (tracker.evaluate store sample previous).record) ∧
      final.eventsFor key = standing.eventsFor key ++
        first.elim [] fun tracker => (tracker.evaluate store sample previous).events := by
  induction trackers generalizing standing with
  | nil => simp
  | cons tracker rest ih =>
      intro previous first final
      have later := ih (advance_keyed store sample keyed tracker)
      by_cases own : tracker.keyFor sample.deviceID sample.labels = key
      · cases applied : tracker.applies store sample previous with
        | false =>
            have unchanged : tracker.advance store sample standing = standing := by
              refine advance_of_ignored ?_
              rw [own]
              exact applied
            rw [unchanged] at later
            simp only [first, final, List.find?_cons, applied, Bool.and_false, List.foldl_cons,
              unchanged]
            exact later
        | true =>
            have turn := advance_of_applies keyed own applied
            have about : (tracker.evaluate store sample previous).About key sample := by
              rw [← own]
              refine tracker.evaluate_about fun record found => keyed _ record ?_
              rw [own]
              exact found
            have written : (tracker.advance store sample standing).states.lookup key =
                some (tracker.evaluate store sample previous).record := by
              rw [turn]
              dsimp only
              rw [StringMap.lookup_insert_ite, if_pos rfl]
            have settled : rest.find? (fun other =>
                other.keyFor sample.deviceID sample.labels = key && other.applies store sample
                  (some (tracker.evaluate store sample previous).record)) = none := by
              rw [List.find?_eq_none]
              intro other _
              rw [not_applies_of_seen other (evaluate_stamps applied)]
              simp
            have own' : (tracker.evaluate store sample previous).events.filter
                (fun event => event.alertKey = key) =
                  (tracker.evaluate store sample previous).events := by
              rw [List.filter_eq_self]
              intro event member
              simpa using (about.events event member).1
            dsimp only at later
            rw [written, settled] at later
            simp only [first, final, List.find?_cons, own, applied, decide_true, Bool.and_true,
              List.foldl_cons, Option.elim_some]
            refine ⟨later.1, later.2.trans ?_⟩
            rw [turn]
            simp only [Standing.eventsFor, List.filter_append, Option.elim_none, List.append_nil]
            exact congrArg _ own'
      · obtain ⟨sameState, sameEvents⟩ := advance_other store keyed own
        dsimp only at later
        rw [sameState, sameEvents] at later
        simp only [first, final, List.find?_cons, own, decide_false, Bool.false_and,
          List.foldl_cons]
        exact later

end Tracker

/-! ## What a call does -/

namespace Processor

/-- What a call does that gets past the duplicate gate. -/
structure Advances
    (processor : Processor F)
    (sample : Observation F)
    (device : Device)
    (store : MemStore F)
    (events : List Event)
    (after : MemStore F) : Prop where
  fresh : store.observation.lookup sample.observationID = none
  standing : Standing.mk after.states events = processor.advance sample device store
  observation : after.observation = (store.withObservation sample).observation
  obsOrder : after.obsOrder = (store.withObservation sample).obsOrder

variable {processor : Processor F} {store : MemStore F}

/-- A call that succeeds does nothing, because its device is disabled or its
observation is stored, or it gives all trackers their turn. -/
theorem process_advances
    {attempt : Attempt F}
    {sample : Observation F}
    {outcome : Outcome}
    (succeeded : (processor.process attempt sample store).1 = .ok outcome) :
    ((processor.process attempt sample store).2 = store ∧ outcome.events = [] ∧
        processor.Settled store sample) ∨
      ∃ enriched device, processor.Prepares attempt sample enriched device ∧
        processor.Advances enriched device store outcome.events
          (processor.process attempt sample store).2 := by
  rcases processor.process_effect attempt sample store with
    ⟨same, reports⟩ | ⟨enriched, device, prepares, fresh, result, standing⟩
  · obtain ⟨_, silent, settled⟩ := reports outcome succeeded
    exact Or.inl ⟨same, silent, settled⟩
  · obtain ⟨observation, obsOrder⟩ := processor.effect_series enriched device store
    rw [← result] at observation obsOrder
    exact Or.inr ⟨enriched, device, prepares, fresh, standing outcome succeeded, observation,
      obsOrder⟩

theorem advances_of_fresh
    {attempt : Attempt F}
    {sample : Observation F}
    {device : Device}
    (registered : processor.inventory.lookup sample.deviceID = some device)
    (enabled : device.enabled = true)
    (faithful : attempt.MetadataOnly)
    (fresh : store.observation.lookup sample.observationID = none)
    {outcome : Outcome}
    (succeeded : (processor.process attempt sample store).1 = .ok outcome) :
    ∃ enriched, processor.Prepares attempt sample enriched device ∧
      enriched = { sample with metadata := enriched.metadata } ∧
      processor.Advances enriched device store outcome.events
        (processor.process attempt sample store).2 := by
  rcases process_advances succeeded with
    ⟨-, -, disabled | stored⟩ | ⟨enriched, attached, prepares, advances⟩
  · exact absurd disabled (not_disabled registered enabled)
  · rw [fresh] at stored
    cases stored
  · obtain ⟨same, attachedTo, -⟩ := prepares.same faithful
    obtain rfl := Option.some.inj (registered.symm.trans attachedTo)
    exact ⟨enriched, prepares, same, advances⟩

/-- Whether or not it succeeds, a call leaves the store alone or gives all
trackers their turn. -/
theorem after_advances
    (processor : Processor F)
    (store : MemStore F)
    (call : Call F) :
    processor.after store call = store ∨
      ∃ enriched device events, processor.Prepares call.attempt call.sample enriched device ∧
        processor.Advances enriched device store events (processor.after store call) := by
  by_cases succeeds : processor.Succeeds store call
  · obtain ⟨outcome, succeeded⟩ := succeeds
    rcases process_advances succeeded with ⟨same, _⟩ | ⟨enriched, device, prepares, advances⟩
    · exact Or.inl same
    · exact Or.inr ⟨enriched, device, _, prepares, advances⟩
  · exact Or.inl (after_of_fails succeeds)

section Key

variable {processor : Processor F} {sample : Observation F} {device : Device}
variable {store after : MemStore F} {events : List Event}

/-- The record of a key after a call is written by the first tracker of the key
that does not ignore the sample, from the record before the call. -/
theorem Advances.states
    (advances : processor.Advances sample device store events after)
    (sound : store.Sound)
    (key : String) :
    after.states.lookup key =
      (processor.advancer sample device store key).elim (store.states.lookup key)
        fun tracker => some (tracker.evaluate store sample (store.states.lookup key)).record := by
  have keyed : (Standing.mk store.states []).Keyed := sound.keyed
  refine Eq.trans ?_ (Tracker.foldl_advance (processor.trackers sample device) keyed key).1
  exact congrArg (fun standing : Standing => standing.states.lookup key) advances.standing

theorem Advances.eventsFor
    (advances : processor.Advances sample device store events after)
    (sound : store.Sound)
    (key : String) :
    (events.filter fun event => event.alertKey = key) =
      (processor.advancer sample device store key).elim []
        fun tracker => (tracker.evaluate store sample (store.states.lookup key)).events := by
  have keyed : (Standing.mk store.states []).Keyed := sound.keyed
  refine Eq.trans ?_ (Tracker.foldl_advance (processor.trackers sample device) keyed key).2
  exact congrArg (fun standing : Standing => standing.eventsFor key) advances.standing

theorem mem_of_advancer
    {key : String}
    {tracker : Tracker F}
    (found : processor.advancer sample device store key = some tracker) :
    tracker ∈ processor.trackers sample device ∧
      tracker.keyFor sample.deviceID sample.labels = key ∧
      tracker.applies store sample (store.states.lookup key) = true := by
  have satisfied := List.find?_some found
  simp only [Bool.and_eq_true, decide_eq_true_eq] at satisfied
  exact ⟨List.mem_of_find?_eq_some found, satisfied⟩

theorem advancer_of_sole
    {key : String}
    {tracker : Tracker F}
    (member : tracker ∈ processor.trackers sample device)
    (own : tracker.keyFor sample.deviceID sample.labels = key)
    (sole : ∀ other ∈ processor.trackers sample device,
      other.keyFor sample.deviceID sample.labels = key → other = tracker) :
    processor.advancer sample device store key =
      if tracker.applies store sample (store.states.lookup key) = true then some tracker
      else none := by
  cases found : processor.advancer sample device store key with
  | some other =>
      obtain ⟨listed, same, applied⟩ := mem_of_advancer found
      obtain rfl := sole other listed same
      rw [if_pos applied]
  | none =>
      have ignored := List.find?_eq_none.mp found tracker member
      simp only [own, decide_true, Bool.true_and] at ignored
      rw [if_neg ignored]

end Key

theorem after_observation
    (processor : Processor F)
    (call : Call F)
    {id : String}
    (other : id ≠ call.sample.observationID) :
    (processor.after store call).observation.lookup id = store.observation.lookup id := by
  rcases processor.after_advances store call with
    same | ⟨enriched, device, events, prepares, advances⟩
  · rw [same]
  · rw [advances.observation, MemStore.withObservation]
    dsimp only
    rw [StringMap.lookup_insert_ite, prepares.same_id, if_neg other]

theorem after_newer
    (sound : store.Sound)
    {call : Call F}
    (faithful : call.attempt.MetadataOnly)
    {key : String}
    (changed : (processor.after store call).states.lookup key ≠ store.states.lookup key) :
    (∃ record, (processor.after store call).states.lookup key = some record ∧
        record.lastObservedAt = call.sample.observedAt) ∧
      ∀ record ∈ store.states.lookup key, record.lastObservedAt < call.sample.observedAt := by
  rcases processor.after_advances store call with
    same | ⟨enriched, device, events, prepares, advances⟩
  · rw [same] at changed
    exact absurd rfl changed
  · have final := advances.states sound key
    have instant : enriched.observedAt = call.sample.observedAt := by
      rw [(prepares.same faithful).1]
    cases found : processor.advancer enriched device store key with
    | none =>
        rw [found] at final
        exact absurd final changed
    | some tracker =>
        rw [found] at final
        obtain ⟨-, -, applied⟩ := mem_of_advancer found
        obtain ⟨stamped, newer⟩ := Tracker.evaluate_newer applied
        rw [← instant]
        exact ⟨⟨_, final, stamped⟩, newer⟩

end Processor

theorem Reached.recalls
    {store : MemStore F}
    (reached : Reached store)
    {key : String}
    {record : StateRecord}
    (found : store.states.lookup key = some record) :
    (store.observation.lookup record.lastObservationID).isSome = true := by
  refine (reached.invariant (fun store => store.Sound ∧ ∀ key record,
    store.states.lookup key = some record →
      (store.observation.lookup record.lastObservationID).isSome = true)
    (fun devices => ⟨(Reached.start devices).sound, by simp [MemStore.new]⟩) ?_).2 key record found
  rintro processor attempt sample store ⟨sound, recalls⟩
  refine ⟨processor.process_sound _ _ sound, fun key record found => ?_⟩
  rcases processor.after_advances store ⟨attempt, sample⟩ with
    same | ⟨enriched, device, events, prepares, advances⟩
  · rw [Processor.after] at same
    rw [same] at found ⊢
    exact recalls key record found
  · rw [Processor.after] at advances
    rw [advances.observation, MemStore.withObservation]
    dsimp only
    rw [StringMap.lookup_insert_ite]
    split
    · rfl
    · next other =>
        rw [advances.states sound key] at found
        cases advancer : processor.advancer enriched device store key with
        | none =>
            rw [advancer] at found
            exact recalls key record found
        | some tracker =>
            rw [advancer] at found
            obtain ⟨-, -, applied⟩ := Processor.mem_of_advancer advancer
            rw [← Option.some.inj found] at other
            exact absurd (Tracker.evaluate_stamps applied) other

end InfraObserver
