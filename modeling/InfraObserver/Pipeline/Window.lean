import InfraObserver.Pipeline.Advance

/-!
# Rules over a series

The store keeps the observations of a series in the order of their arrival, and
`Samples` reads the points of a window from them. So what a rule decides on a
sample that is newer than all before depends on the samples of its series alone.
-/

namespace InfraObserver

variable {F : Type}

/-- A series: a metric of a device, with the text of its labels. -/
structure Series where
  deviceID : String
  metric : String
  labels : String

/-- The observation belongs to the series. -/
def Series.has (series : Series) (sample : Observation F) : Bool :=
  sample.deviceID = series.deviceID && sample.metric = series.metric &&
    labelsKey sample.labels = series.labels

theorem Series.has_iff
    (series : Series)
    (sample : Observation F) :
    series.has sample = true ↔ sample.deviceID = series.deviceID ∧
      sample.metric = series.metric ∧ labelsKey sample.labels = series.labels := by
  simp [has, and_assoc]

/-- The observation without metadata. -/
def Observation.bare (sample : Observation F) : Observation F :=
  { sample with metadata := ∅ }

/-- The observations of a series in the order of their arrival, without metadata. -/
def MemStore.series (store : MemStore F) (series : Series) : List (Observation F) :=
  (store.rows.filter series.has).map Observation.bare

/-- The key of a rule's record for a series. -/
def Rule.keyOf (rule : Rule F) (series : Series) : String :=
  "rule:" ++ rule.id ++ "/" ++ series.deviceID ++ "/" ++ series.labels

theorem Rule.keyFor_eq_keyOf
    (rule : Rule F)
    {series : Series}
    {sample : Observation F}
    (member : series.has sample = true) :
    rule.keyFor sample.deviceID sample.labels = rule.keyOf series := by
  obtain ⟨device, -, labels⟩ := (series.has_iff sample).mp member
  rw [keyFor, keyOf, device, labels]

variable [GoFloat F]

/-- The points of a rule's window that ends at an instant, in the order of the
observations. -/
def Rule.points (rule : Rule F) (instant : Time) (observations : List (Observation F)) :
    List (Sample F) :=
  (observations.filter fun sample =>
    Time.addNeg instant rule.window < sample.observedAt ∧ sample.observedAt ≤ instant).filterMap
      Tx.samplePoint

/-- The points of a rule's window, oldest first. -/
def Rule.pointsSorted (rule : Rule F) (instant : Time) (observations : List (Observation F)) :
    List (Sample F) :=
  (rule.points instant observations).insertionSort fun left right => left.instant ≤ right.instant

namespace Rule

variable (rule : Rule F) (instant : Time)

theorem points_bare (observations : List (Observation F)) :
    rule.points instant (observations.map Observation.bare) = rule.points instant observations := by
  simp only [points, List.filter_map, List.filterMap_map]
  rfl

theorem points_append (earlier later : List (Observation F)) :
    rule.points instant (earlier ++ later) =
      rule.points instant earlier ++ rule.points instant later := by
  simp only [points, List.filter_append, List.filterMap_append]

theorem points_pairwise
    {relation : Time → Time → Prop}
    {observations : List (Observation F)}
    (ordered : observations.Pairwise fun first second =>
      relation first.observedAt second.observedAt) :
    (rule.points instant observations).Pairwise fun first second =>
      relation first.instant second.instant := by
  have stamped : ∀ {sample : Observation F} {point : Sample F},
      point ∈ Tx.samplePoint sample → point.instant = sample.observedAt := by
    intro sample point found
    obtain ⟨number, -, rfl⟩ := Option.map_eq_some_iff.mp found
    rfl
  unfold points
  rw [List.pairwise_filterMap]
  refine (ordered.filter _).imp fun related point found other foundOther => ?_
  rw [stamped found, stamped foundOther]
  exact related

/-- `Samples` reads the points of the series. -/
theorem windowSamples_eq
    {store : MemStore F}
    (sound : store.Sound)
    {series : Series}
    {sample : Observation F}
    (member : series.has sample = true)
    (fresh : store.observation.lookup sample.observationID = none) :
    rule.windowSamples store sample =
      rule.pointsSorted sample.observedAt (store.series series ++ [sample.bare]) := by
  obtain ⟨device, metric, labels⟩ := (series.has_iff sample).mp member
  have rows : (store.withObservation sample).rows = store.rows ++ [sample] :=
    MemStore.rows_insert sound fresh
  have points : ∀ observations : List (Observation F),
      (observations.filterMap fun other =>
        if other.deviceID ≠ series.deviceID ∨ other.metric ≠ series.metric ∨
            labelsKey other.labels ≠ series.labels then none
        else if ¬Time.addNeg sample.observedAt rule.window < other.observedAt ∨
            sample.observedAt < other.observedAt then none
        else Tx.samplePoint other) =
      rule.points sample.observedAt (observations.filter series.has) := by
    intro observations
    simp only [Rule.points, List.filterMap_filter]
    refine List.filterMap_congr fun other _ => ?_
    by_cases listed : series.has other = true
    · rw [if_neg (by simpa using (series.has_iff other).mp listed), if_pos listed]
      simp only [decide_eq_true_eq, ← not_le, ← not_and_or, ite_not]
    · rw [if_neg listed, if_pos]
      rw [series.has_iff] at listed
      tauto
  unfold windowSamples pointsSorted
  rw [Tx.samples_eq, rows, device, metric, labels, points, List.filter_append,
    List.filter_cons_of_pos member, List.filter_nil, ← rule.points_bare, List.map_append]
  rfl

end Rule

namespace Processor

variable [Platform] (processor : Processor F) (rule : Rule F) (series : Series)

/-- No definition has the key of the rule for the series. -/
def Unshared : Prop :=
  ∀ definition ∈ processor.states.all, ∀ labels,
    definition.keyFor series.deviceID labels ≠ rule.keyOf series

/-- The rule follows the series on a device that is registered and enabled. -/
structure Monitors : Prop where
  known : rule ∈ processor.rules.all
  metric : rule.matchOn.metric = series.metric
  device : ∃ device, processor.inventory.lookup series.deviceID = some device ∧
    device.enabled = true ∧ rule.appliesTo device = true

variable {processor rule series}
variable {store : MemStore F} {call : Call F}

theorem Monitors.advances
    (monitors : processor.Monitors rule series)
    (faithful : call.attempt.MetadataOnly)
    (member : series.has call.sample = true)
    (fresh : store.observation.lookup call.sample.observationID = none)
    {outcome : Outcome}
    (succeeded : (processor.process call.attempt call.sample store).1 = .ok outcome) :
    ∃ enriched device, enriched = { call.sample with metadata := enriched.metadata } ∧
      rule.appliesTo device = true ∧
      processor.Advances enriched device store outcome.events (processor.after store call) := by
  obtain ⟨device, registered, enabled, applies⟩ := monitors.device
  rw [← ((series.has_iff _).mp member).1] at registered
  obtain ⟨enriched, -, same, advances⟩ :=
    advances_of_fresh registered enabled faithful fresh succeeded
  exact ⟨enriched, device, same, applies, advances⟩

theorem Advances.extends
    {enriched : Observation F}
    {device : Device}
    {events : List Event}
    {after : MemStore F}
    (advances : processor.Advances enriched device store events after)
    (sound : store.Sound)
    (member : series.has enriched = true) :
    after.series series = store.series series ++ [enriched.bare] := by
  have rows : after.rows = store.rows ++ [enriched] := by
    rw [← MemStore.rows_insert sound advances.fresh]
    unfold MemStore.rows
    rw [advances.observation, advances.obsOrder]
    rfl
  rw [MemStore.series, rows, List.filter_append, List.filter_cons_of_pos member, List.filter_nil,
    List.map_append]
  rfl

theorem Unshared.sole
    (unshared : processor.Unshared rule series)
    (known : rule ∈ processor.rules.all)
    {sample : Observation F}
    (member : series.has sample = true)
    {tracker : Tracker F}
    (tracked : processor.Tracks tracker)
    (own : tracker.keyFor sample.deviceID sample.labels = rule.keyOf series) :
    tracker = .rule rule := by
  cases tracker with
  | state definition =>
      rw [((series.has_iff _).mp member).1] at own
      exact absurd own (unshared definition tracked _)
  | rule other =>
      rw [← rule.keyFor_eq_keyOf member] at own
      have sameID : other.id = rule.id := by
        simpa [Tracker.keyFor, Rule.keyFor, String.append_left_inj, String.append_right_inj]
          using own
      rw [List.inj_on_of_nodup_map processor.rules.distinct tracked known sameID]

/-! ## Runs that deliver a series -/

/-- The calls deliver observations of the series that the store does not have, each
one once, and succeed. -/
structure Delivers
    (processor : Processor F)
    (series : Series)
    (start : MemStore F)
    (calls : List (Call F)) : Prop where
  faithful : ∀ call ∈ calls, call.attempt.MetadataOnly
  member : ∀ call ∈ calls, series.has call.sample = true
  distinct : (calls.map fun call => call.sample.observationID).Nodup
  fresh : ∀ call ∈ calls, start.observation.lookup call.sample.observationID = none
  succeed : ∀ done call rest, calls = done ++ call :: rest →
    processor.Succeeds (processor.runCalls done start) call

variable {calls : List (Call F)}

theorem succeed_of_positions
    {start : MemStore F}
    (positions : ∀ position : Fin calls.length,
      (processor.process (calls.get position).attempt (calls.get position).sample
        (processor.runCalls (calls.take position) start)).1.toOption.isSome = true)
    (done : List (Call F))
    (call : Call F)
    (rest : List (Call F))
    (split : calls = done ++ call :: rest) :
    processor.Succeeds (processor.runCalls done start) call := by
  subst split
  have succeeded := positions ⟨done.length, by simp⟩
  simp only [List.get_eq_getElem, List.getElem_append_right, le_refl, Nat.sub_self,
    List.getElem_cons_zero, List.take_left] at succeeded
  unfold Succeeds
  cases result : (processor.process call.attempt call.sample
      (processor.runCalls done start)).1 with
  | ok outcome => exact ⟨outcome, rfl⟩
  | error failure =>
      rw [result] at succeeded
      cases succeeded

theorem Delivers.fresh_of_position
    {start : MemStore F}
    (delivers : processor.Delivers series start calls)
    {done rest : List (Call F)}
    {call : Call F}
    (position : calls = done ++ call :: rest) :
    call.sample.observationID ∉ (done.map Call.sample).map Observation.observationID := by
  have distinct := delivers.distinct
  rw [position, List.map_append, List.map_cons, List.nodup_middle, List.nodup_cons] at distinct
  rw [List.map_map]
  exact fun member => distinct.1 (List.mem_append_left _ member)

/-- A sound store that has nothing of the series. -/
structure Blank (rule : Rule F) (series : Series) (start : MemStore F) : Prop where
  sound : start.Sound
  empty : start.series series = []
  unrecorded : start.states.lookup (rule.keyOf series) = none

theorem Blank.start
    (rule : Rule F)
    (series : Series)
    (devices : StringMap Device) :
    Blank rule series { MemStore.new with devices } :=
  ⟨(Reached.start devices).sound, rfl, rfl⟩

/-- What a store has of the series after some observations of it, in any order: these
are its rows, and the rule's record is stamped with one of them. -/
structure Kept
    (rule : Rule F)
    (series : Series)
    (start store : MemStore F)
    (done : List (Observation F)) : Prop where
  sound : store.Sound
  rows : store.series series = done.map Observation.bare
  stamps : ∀ record ∈ store.states.lookup (rule.keyOf series), ∃ sample ∈ done,
    record.lastObservedAt = sample.observedAt ∧ record.lastObservationID = sample.observationID
  others : ∀ id, id ∉ done.map Observation.observationID →
    store.observation.lookup id = start.observation.lookup id

section Step

variable {start : MemStore F} {done : List (Observation F)}

theorem Kept.step
    (kept : Kept rule series start store done)
    (monitors : processor.Monitors rule series)
    (faithful : call.attempt.MetadataOnly)
    (member : series.has call.sample = true)
    (fresh : store.observation.lookup call.sample.observationID = none)
    (succeeds : processor.Succeeds store call) :
    Kept rule series start (processor.after store call) (done ++ [call.sample]) := by
  obtain ⟨outcome, succeeded⟩ := succeeds
  obtain ⟨enriched, device, same, -, advances⟩ :=
    monitors.advances faithful member fresh succeeded
  have bare : enriched.bare = call.sample.bare := by
    rw [same]
    rfl
  refine ⟨processor.process_sound _ _ kept.sound, ?_, ?_, ?_⟩
  · rw [advances.extends kept.sound (by rw [same]; exact member), kept.rows, bare,
      List.map_append, List.map_singleton]
  · intro record found
    rw [Option.mem_def, advances.states kept.sound] at found
    cases advancer : processor.advancer enriched device store (rule.keyOf series) with
    | none =>
        rw [advancer] at found
        obtain ⟨sample, earlier, stamps⟩ := kept.stamps record found
        exact ⟨sample, List.mem_append_left _ earlier, stamps⟩
    | some tracker =>
        rw [advancer] at found
        have written := Option.some.inj found
        obtain ⟨-, -, applied⟩ := mem_of_advancer advancer
        refine ⟨call.sample, by simp, ?_⟩
        rw [← written, Tracker.evaluate_stamps applied, (Tracker.evaluate_newer applied).1, same]
        exact ⟨rfl, rfl⟩
  · intro id other
    rw [List.map_append, List.mem_append, not_or, List.map_singleton, List.mem_singleton] at other
    rw [processor.after_observation call other.2, kept.others id other.1]

/-- An observation that is newer than all before decides the rule by the points of
its window, and the call emits an event exactly when the rule starts or stops to
hold. -/
theorem Kept.judged
    (kept : Kept rule series start store done)
    (monitors : processor.Monitors rule series)
    (unshared : processor.Unshared rule series)
    (faithful : call.attempt.MetadataOnly)
    (member : series.has call.sample = true)
    (fresh : store.observation.lookup call.sample.observationID = none)
    (other : call.sample.observationID ∉ done.map Observation.observationID)
    (newer : ∀ earlier ∈ done, earlier.observedAt < call.sample.observedAt)
    {outcome : Outcome}
    (succeeded : (processor.process call.attempt call.sample store).1 = .ok outcome) :
    let judged :=
      rule.condition.holds (rule.pointsSorted call.sample.observedAt (done ++ [call.sample]))
    let active := (store.states.lookup (rule.keyOf series)).any fun record => record.state = .down
    (∃ record, (processor.after store call).states.lookup (rule.keyOf series) = some record ∧
        record.lastObservedAt = call.sample.observedAt ∧
        decide (record.state = .down) = judged.1) ∧
      ∃ enriched, (outcome.events.filter fun event => event.alertKey = rule.keyOf series) =
        if active = judged.1 then [] else [rule.makeEvent active enriched judged.2] := by
  obtain ⟨enriched, device, same, applies, advances⟩ :=
    monitors.advances faithful member fresh succeeded
  have memberEnriched : series.has enriched = true := by
    rw [same]
    exact member
  have window : rule.windowSamples store enriched =
      rule.pointsSorted call.sample.observedAt (done ++ [call.sample]) := by
    rw [rule.windowSamples_eq kept.sound memberEnriched (by rw [same]; exact fresh), kept.rows,
      same]
    unfold Rule.pointsSorted
    rw [← rule.points_bare _ (done ++ [call.sample]), List.map_append]
    rfl
  have applied : (rule.evaluate (store.states.lookup (rule.keyOf series))
      (rule.windowSamples store enriched) enriched).ignored = .notIgnored := by
    refine Rule.evaluate_news fun record found => ?_
    obtain ⟨sample, earlier, instant, id⟩ := kept.stamps record found
    rw [instant, id, same]
    exact ⟨fun equal => other (equal ▸ List.mem_map_of_mem earlier), newer sample earlier⟩
  have tracked : Tracker.rule rule ∈ processor.trackers enriched device := by
    refine List.mem_append_right _ (List.mem_map_of_mem (List.mem_filter.mpr
      ⟨monitors.known, ?_⟩))
    simp [monitors.metric, ((series.has_iff _).mp memberEnriched).2.1, applies]
  have turn : (Tracker.rule rule).applies store enriched
      (store.states.lookup (rule.keyOf series)) = true := decide_eq_true applied
  have advancer : processor.advancer enriched device store (rule.keyOf series) =
      some (.rule rule) := by
    rw [advancer_of_sole tracked (rule.keyFor_eq_keyOf memberEnriched) fun other listed =>
      unshared.sole monitors.known memberEnriched (mem_trackers listed).1, if_pos turn]
  obtain ⟨-, -, stamp, state, events⟩ := Rule.evaluate_applied applied
  rw [window] at stamp state events
  refine ⟨⟨_, ?_, ?_, state⟩, enriched, ?_⟩
  · rw [advances.states kept.sound, advancer]
    simp only [Option.elim, Tracker.evaluate, window]
  · rw [stamp, same]
  · rw [advances.eventsFor kept.sound, advancer]
    simp only [Option.elim, Tracker.evaluate, window, events]

end Step

theorem Delivers.kept
    (monitors : processor.Monitors rule series)
    {start : MemStore F}
    (blank : Blank rule series start)
    (delivers : processor.Delivers series start calls)
    (done rest : List (Call F))
    (position : calls = done ++ rest) :
    Kept rule series start (processor.runCalls done start) (done.map Call.sample) := by
  induction done using List.reverseRecOn generalizing rest with
  | nil =>
      exact ⟨blank.sound, blank.empty, by simp [runCalls, blank.unrecorded], fun _ _ => rfl⟩
  | append_singleton init last ih =>
      rw [List.append_assoc, List.singleton_append] at position
      have kept := ih (last :: rest) position
      have amongAll : last ∈ calls := by
        rw [position]
        simp
      have fresh := delivers.fresh_of_position position
      rw [runCalls, List.foldl_append, List.map_append]
      exact kept.step monitors (delivers.faithful last amongAll) (delivers.member last amongAll)
        ((kept.others _ fresh).trans (delivers.fresh last amongAll))
        (delivers.succeed init last rest position)

end Processor

end InfraObserver
