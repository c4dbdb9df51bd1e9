import InfraObserver.Pipeline.Outage

/-!
# Entities that are heard from are not swept

As long as every entity that a device reports is heard from less than
`staleAfter` before every sweep, no sweep takes one of them for silent. This
leaves the entities that `Sweep` expects of a device that has never reported them.
It expects one without labels, also of a definition with key labels, whose
entities all have some, and of a device that the definition does not apply to.
-/

namespace InfraObserver

variable {F : Type} [GoFloat F] [Platform]

namespace Definition

omit [GoFloat F] [Platform] in
theorem keyLabelsOf_empty (definition : Definition F) : definition.keyLabelsOf ∅ = ∅ := by
  refine Finmap.ext_lookup fun name => ?_
  rw [lookup_keyLabelsOf, Finmap.lookup_empty, ite_self]

omit [GoFloat F] [Platform] in
theorem keyFor_of_unlabelled
    {definition : Definition F}
    (unlabelled : definition.keyLabels = [])
    (deviceID : String)
    (labels : StringMap String) :
    definition.keyFor deviceID labels = definition.keyFor deviceID ∅ := by
  simp only [keyFor, keyLabelsOf, unlabelled, List.foldl_nil]

theorem judge_isSome_iff
    {definition : Definition F}
    (valid : definition.Valid)
    (record : StateRecord)
    (sample : Observation F) :
    (definition.judge record sample).isSome = true ↔ definition.WellTyped sample := by
  rw [valid_iff_problems] at valid
  simp only [problems, List.append_eq_nil_iff, problemIf_eq_nil] at valid
  have kinds := valid.1.1.1.1.1.1.1.2
  unfold WellTyped judge
  cases kind : definition.goodWhen with
  | some good => cases value : sample.value <;> simp [Value.asBool]
  | none =>
      rw [kind] at kinds
      cases limit : definition.threshold with
      | none =>
          rw [limit] at kinds
          cases kinds
      | some threshold => cases value : sample.value.numeric <;> simp

end Definition

namespace Processor

variable {processor : Processor F} {definition : Definition F} {deviceID : String}

/-- The keys of the definition on the device are keys of nothing else. -/
structure Owns
    (processor : Processor F)
    (definition : Definition F)
    (deviceID : String) : Prop where
  sole : ∀ labels, processor.SoleKey definition (definition.keyFor deviceID labels)
  device : ∀ other labels labels',
    definition.keyFor other labels' = definition.keyFor deviceID labels → other = deviceID

omit [GoFloat F] [Platform] in
theorem device_of_keyFor
    (unlabelled : definition.keyLabels = [])
    {first second : String}
    {labels labels' : StringMap String}
    (same : definition.keyFor first labels = definition.keyFor second labels') :
    first = second := by
  rw [Definition.keyFor_of_unlabelled unlabelled,
    Definition.keyFor_of_unlabelled unlabelled second] at same
  simpa [Definition.keyFor, String.append_left_inj, String.append_right_inj] using same

/-! ## Where the records of a definition are -/

/-- The records of the definition for the device are stored under its keys. -/
def Placed (definition : Definition F) (deviceID : String) (store : MemStore F) : Prop :=
  ∀ key record, store.states.lookup key = some record → record.definitionID = definition.id →
    record.deviceID = deviceID → ∃ labels, key = definition.keyFor deviceID labels

theorem rule_id_ne
    (owns : processor.Owns definition deviceID)
    {rule : Rule F}
    (known : rule ∈ processor.rules.all) :
    "rule:" ++ rule.id ≠ definition.id := by
  intro same
  have shared : (Tracker.rule rule).keyFor deviceID ∅ = definition.keyFor deviceID ∅ := by
    simp only [Tracker.keyFor, Rule.keyFor, Definition.keyFor, ← same,
      Definition.keyLabelsOf_empty]
  cases owns.sole ∅ (.rule rule) known deviceID ∅ shared

theorem Placed.process
    (known : definition ∈ processor.states.all)
    (owns : processor.Owns definition deviceID)
    {store : MemStore F}
    (sound : store.Sound)
    (placed : Placed definition deviceID store)
    (call : Call F) :
    Placed definition deviceID (processor.after store call) := by
  rcases processor.after_advances store call with
    same | ⟨enriched, device, events, prepares, advances⟩
  · rw [same]
    exact placed
  · intro key record found tracked about
    rw [advances.states sound key] at found
    cases advancer : processor.advancer enriched device store key with
    | none =>
        rw [advancer] at found
        exact placed key record found tracked about
    | some tracker =>
        rw [advancer] at found
        obtain ⟨member, own, applied⟩ := mem_of_advancer advancer
        obtain ⟨sameID, sameDevice⟩ := Tracker.evaluate_identity applied
        rw [← Option.some.inj found] at tracked about
        rw [sameID] at tracked
        rw [sameDevice] at about
        cases previous : store.states.lookup key with
        | some before =>
            rw [previous] at tracked about
            exact placed key before previous tracked about
        | none =>
            rw [previous] at tracked about
            cases tracker with
            | state other =>
                obtain rfl := Definitions.eq_of_id (mem_trackers member).1 known tracked
                exact ⟨enriched.labels, about ▸ own.symm⟩
            | rule watch => exact absurd tracked (rule_id_ne owns (mem_trackers member).1)

theorem placed_of_run
    (known : definition ∈ processor.states.all)
    (owns : processor.Owns definition deviceID)
    (devices : StringMap Device)
    (run : List (Step F))
    (faithful : ∀ next ∈ run, next.MetadataOnly) :
    Placed definition deviceID
      (processor.runSteps run { (MemStore.new : MemStore F) with devices }) := by
  let invariant : MemStore F → Prop := fun store =>
    store.Sound ∧ Placed definition deviceID store
  suffices kept : invariant (processor.runSteps run { MemStore.new with devices }) from kept.2
  refine runSteps_preserves invariant ?_ run faithful
    ⟨(Reached.start devices).sound, by simp [Placed, MemStore.new]⟩
  rintro attempt sample store - ⟨sound, placed⟩
  exact ⟨processor.process_sound _ _ sound, placed.process known owns sound ⟨attempt, sample⟩⟩

/-! ## One sweep -/

/-- The definition is the only stale one of its metric. -/
def OnlyStale (processor : Processor F) (definition : Definition F) : Prop :=
  ∀ other ∈ processor.states.all, other.stale = true → other.metric = definition.metric →
    other = definition

/-- A sweep leaves the entities of a device alone: it stores no observation of the
device and metric, and changes neither records nor alerts of the entities. -/
def Spares
    (definition : Definition F)
    (deviceID : String)
    (store swept : MemStore F) : Prop :=
  (∀ id observation, swept.observation.lookup id = some observation →
      store.observation.lookup id = none →
        ¬(observation.deviceID = deviceID ∧ observation.metric = definition.metric)) ∧
    ∀ labels, Untouched (definition.keyFor deviceID labels) store swept

theorem Spares.process
    (owns : processor.Owns definition deviceID)
    {store middle : MemStore F}
    (sound : middle.Sound)
    (call : Call F)
    (faithful : call.attempt.MetadataOnly)
    (other : ¬(call.sample.deviceID = deviceID ∧ call.sample.metric = definition.metric))
    (spares : Spares definition deviceID store middle) :
    Spares definition deviceID store (processor.after middle call) := by
  obtain ⟨stored, untouched⟩ := spares
  constructor
  · intro id observation found missing
    rcases processor.after_advances middle call with
      same | ⟨enriched, device, events, prepares, advances⟩
    · rw [same] at found
      exact stored id observation found missing
    · rw [advances.observation, MemStore.withObservation] at found
      dsimp only at found
      rw [StringMap.lookup_insert_ite] at found
      split at found
      · rw [← Option.some.inj found, (prepares.same faithful).1]
        exact other
      · exact stored id observation found missing
  · intro labels
    have unused : Untouched (definition.keyFor deviceID labels) middle
        (processor.after middle call) := by
      refine process_untouched sound fun enriched device prepares used => ?_
      obtain ⟨tracker, tracked, metric, own⟩ := used.tracker
      rw [(prepares.same faithful).1] at metric own
      obtain rfl := owns.sole labels tracker tracked _ _ own.symm
      exact other ⟨owns.device _ _ _ own.symm, metric.symm⟩
    exact ⟨unused.1.trans (untouched labels).1, unused.2.trans (untouched labels).2⟩

theorem sweep_spares
    (owns : processor.Owns definition deviceID)
    (only : processor.OnlyStale definition)
    {store : MemStore F}
    (sound : store.Sound)
    {now : Time}
    {listed : List Device}
    (listing : Option Error)
    {attempts : ℕ → Attempt F}
    (faithful : ∀ position, (attempts position).MetadataOnly)
    (heard : ∀ record, processor.Watched listed store record →
      record.definitionID = definition.id → record.deviceID = deviceID →
        ¬processor.staleAfter ≤ Time.sub now record.lastSeenAt) :
    Spares definition deviceID store (processor.sweep now listed listing attempts store).2 := by
  have same : Spares definition deviceID store store := by
    refine ⟨fun id observation found missing => ?_, fun _ => ⟨rfl, rfl⟩⟩
    rw [missing] at found
    cases found
  cases listing with
  | some failure => exact same
  | none =>
      refine (sweepLoop_preserves (fun after => after.Sound ∧
        Spares definition deviceID store after) attempts
        (processor.sweepSamples now listed store) ?_ 0 ⟨sound, same⟩).2
      rintro position sample member before ⟨soundBefore, spares⟩
      refine ⟨processor.process_sound _ _ soundBefore,
        spares.process owns soundBefore ⟨attempts position, sample⟩ (faithful position) ?_⟩
      rintro ⟨device, metric⟩
      obtain ⟨watched, other, looked, overdue, rfl⟩ :=
        (mem_sweepSamples sound processor now listed sample).mp member
      obtain rfl := only other overdue.known overdue.stale metric
      exact heard watched looked overdue.tracked.symm device overdue.silent

/-! ## What the entities hear -/

section

variable (processor definition deviceID)

/-- The definition applies to the device, which is registered and enabled. -/
def Answers : Prop :=
  ∃ device, processor.inventory.lookup deviceID = some device ∧ device.enabled = true ∧
    definition.appliesTo device.deviceType = true

/-- A real sample arrives: the call succeeds for a new observation of the device
and metric, of the type that the definition judges. -/
structure Hears
    (store : MemStore F)
    (attempt : Attempt F)
    (sample : Observation F) : Prop where
  device : sample.deviceID = deviceID
  metric : sample.metric = definition.metric
  typed : definition.WellTyped sample
  fresh : store.observation.lookup sample.observationID = none
  succeeds : processor.Succeeds store ⟨attempt, sample⟩

/-- The observations of the device and metric are not marked as synthetic, and the
hooks do not mark them. -/
def Genuine : Step F → Prop
  | .process attempt sample =>
      sample.deviceID = deviceID → sample.metric = definition.metric →
        attempt.KeepsMark ∧ sample.metadata.lookup "stale" ≠ some "true"
  | .sweep .. => True

/-- The records of the entities were last written by real samples. -/
def SeenLast (store : MemStore F) : Prop :=
  ∀ labels, ∀ record ∈ store.states.lookup (definition.keyFor deviceID labels),
    record.lastSeenAt = record.lastObservedAt

end

section Call

variable {store : MemStore F} {attempt : Attempt F} {sample : Observation F}

section

variable (known : definition ∈ processor.states.all) (owns : processor.Owns definition deviceID)
include known owns

theorem hears_of_written
    (sound : store.Sound)
    (faithful : attempt.MetadataOnly)
    {labels : StringMap String}
    (changed : (processor.process attempt sample store).2.states.lookup
      (definition.keyFor deviceID labels) ≠
        store.states.lookup (definition.keyFor deviceID labels)) :
    processor.Hears definition deviceID store attempt sample ∧
      processor.Answers definition deviceID ∧
      definition.keyFor deviceID sample.labels = definition.keyFor deviceID labels ∧
      ∃ enriched device, processor.Prepares attempt sample enriched device ∧
        (definition.evaluate (store.states.lookup (definition.keyFor deviceID labels))
          enriched).ignored = .notIgnored ∧
        (processor.process attempt sample store).2.states.lookup
          (definition.keyFor deviceID labels) =
            some (definition.evaluate (store.states.lookup (definition.keyFor deviceID labels))
              enriched).record := by
  have succeeds : processor.Succeeds store ⟨attempt, sample⟩ := by
    by_contra fails
    have same := after_of_fails fails
    rw [Processor.after] at same
    exact changed (by rw [same])
  have fresh : store.observation.lookup sample.observationID = none := by
    rcases processor.after_advances store ⟨attempt, sample⟩ with
      same | ⟨enriched, device, events, prepares, advances⟩
    · rw [Processor.after] at same
      exact absurd (by rw [same]) changed
    · rw [← prepares.same_id]
      exact advances.fresh
  rcases after_sole (owns.sole labels) sound ⟨attempt, sample⟩ with
    same | ⟨enriched, device, prepares, member, own, applied, written⟩
  · exact absurd same changed
  · obtain ⟨same, registered, enabled⟩ := prepares.same faithful
    have own' : definition.keyFor sample.deviceID sample.labels =
        definition.keyFor deviceID labels := by
      rw [same] at own
      exact own
    obtain rfl := owns.device _ _ _ own'
    obtain ⟨good, judged, verdict, -⟩ := Definition.evaluate_applied applied
    have typed : definition.WellTyped enriched :=
      (Definition.judge_isSome_iff (processor.states.valid definition known) _ _).mp
        (by rw [verdict]; rfl)
    rw [same] at typed
    have metric := Definitions.metric_of_mem member
    rw [same] at metric
    have applies := (List.mem_filter.mp member).2
    rw [Bool.and_eq_true] at applies
    exact ⟨⟨rfl, metric.symm, typed, fresh, succeeds⟩, ⟨device, registered, enabled, applies.2⟩,
      own', enriched, device, prepares, applied, written⟩

/-- A call keeps the staleness clocks of the entities at real samples, and only
moves them forward. -/
theorem SeenLast.process
    (sound : store.Sound)
    (faithful : attempt.MetadataOnly)
    (genuine : Genuine definition deviceID (.process attempt sample))
    (seen : SeenLast definition deviceID store) :
    let after := (processor.process attempt sample store).2
    SeenLast definition deviceID after ∧
      ∀ labels, ∀ record ∈ store.states.lookup (definition.keyFor deviceID labels),
        ∃ next ∈ after.states.lookup (definition.keyFor deviceID labels),
          record.lastSeenAt ≤ next.lastSeenAt := by
  intro after
  rw [SeenLast, ← forall_and]
  intro labels
  by_cases same : after.states.lookup (definition.keyFor deviceID labels) =
      store.states.lookup (definition.keyFor deviceID labels)
  · rw [same]
    exact ⟨seen labels, fun record found => ⟨record, found, le_refl _⟩⟩
  · obtain ⟨hears, -, -, enriched, device, prepares, applied, written⟩ :=
      hears_of_written known owns sound faithful same
    obtain ⟨marks, unmarked⟩ := genuine hears.device hears.metric
    obtain ⟨good, judged, -, kept⟩ := Definition.evaluate_applied applied
    have clock := kept.lastSeenAt
    rw [prepares.mark marks, if_neg unmarked] at clock
    rw [show after.states.lookup _ = _ from written]
    constructor
    · rintro record found
      rw [← Option.some.inj found, clock, kept.lastObservedAt]
    · intro record found
      refine ⟨_, rfl, ?_⟩
      rw [clock, seen labels record found]
      rw [Option.mem_def.mp found] at applied
      exact (Definition.evaluate_newer applied).le

theorem Hears.recorded
    (answers : processor.Answers definition deviceID)
    (reached : Reached store)
    (faithful : attempt.MetadataOnly)
    (genuine : Genuine definition deviceID (.process attempt sample))
    (seen : SeenLast definition deviceID store)
    (hears : processor.Hears definition deviceID store attempt sample) :
    ∃ record ∈ (processor.process attempt sample store).2.states.lookup
      (definition.keyFor deviceID sample.labels), sample.observedAt ≤ record.lastSeenAt := by
  obtain ⟨rfl, metric, typed, fresh, outcome, succeeded⟩ := hears
  obtain ⟨marks, unmarked⟩ := genuine rfl metric
  obtain ⟨device, registered, enabled, applies⟩ := answers
  obtain ⟨enriched, prepares, same, advances⟩ :=
    advances_of_fresh registered enabled faithful fresh succeeded
  have judged : ∀ record, (definition.judge record enriched).isSome = true := by
    intro record
    rw [Definition.judge_isSome_iff (processor.states.valid definition known), same]
    exact typed
  have own : definition.keyFor enriched.deviceID enriched.labels =
      definition.keyFor sample.deviceID sample.labels := by
    rw [same]
  have member : definition ∈ processor.states.forMetric enriched.metric device.deviceType := by
    rw [same]
    exact List.mem_filter.mpr ⟨known, by simp [applies, metric]⟩
  by_cases applied : (definition.evaluate (store.states.lookup
      (definition.keyFor sample.deviceID sample.labels)) enriched).ignored = .notIgnored
  · obtain ⟨_, _, -, kept⟩ := Definition.evaluate_applied applied
    refine ⟨_, advances.sole (owns.sole sample.labels) reached.sound member own applied,
      le_of_eq ?_⟩
    rw [kept.lastSeenAt, prepares.mark marks, if_neg unmarked, same]
  · -- The entity has taken a sample that is as new.
    cases previous : store.states.lookup
        (definition.keyFor sample.deviceID sample.labels) with
    | none =>
        rw [previous] at applied
        obtain ⟨⟨good, after⟩, verdict⟩ :=
          Option.isSome_iff_exists.mp (judged (definition.freshRecord enriched))
        simp only [Definition.evaluate, verdict] at applied
        exact absurd (definition.applySample_stamps after good enriched).1 applied
    | some record =>
        rw [previous] at applied
        have late : sample.observedAt ≤ record.lastObservedAt := by
          by_contra newer
          refine applied (Definition.evaluate_news (fun known => ?_) ?_ (judged record))
          · have recalled := reached.recalls previous
            rw [known, prepares.same_id, fresh] at recalled
            cases recalled
          · rw [same]
            exact not_le.mp newer
        obtain ⟨next, found, later⟩ :=
          (seen.process known owns reached.sound faithful genuine).2 _ record previous
        refine ⟨next, found, le_trans ?_ later⟩
        rw [seen _ record previous]
        exact late

end

end Call

/-! ## Whole runs -/

section

variable (processor definition deviceID) (start : MemStore F) (done : List (Step F))

/-- One of the steps done brought the real sample. -/
def Received (sample : Observation F) : Prop :=
  ∃ before attempt later, done = before ++ .process attempt sample :: later ∧
    processor.Hears definition deviceID (processor.runSteps before start) attempt sample

/-- The steps of a run are done and the clock shows `now`: every entity that was
ever heard from was heard from less than `staleAfter` ago, and when there is none,
the processor started less than `staleAfter` ago. -/
structure Lively (now : Time) : Prop where
  recent : ∀ sample, processor.Received definition deviceID start done sample →
    ∃ last, processor.Received definition deviceID start done last ∧
      definition.keyFor deviceID last.labels = definition.keyFor deviceID sample.labels ∧
      Time.sub now last.observedAt < processor.staleAfter
  young : (∀ sample, ¬processor.Received definition deviceID start done sample) →
    Time.sub now processor.startedAt < processor.staleAfter

/-- What the store knows about the entities after some steps: the real samples are
in their records, and they have no records without real samples. -/
structure Listening : Prop where
  seen : SeenLast definition deviceID (processor.runSteps done start)
  kept : ∀ sample, processor.Received definition deviceID start done sample →
    ∃ record ∈ (processor.runSteps done start).states.lookup
      (definition.keyFor deviceID sample.labels), sample.observedAt ≤ record.lastSeenAt
  founded : ∀ labels, (processor.runSteps done start).states.lookup
      (definition.keyFor deviceID labels) ≠ none →
    ∃ sample, processor.Received definition deviceID start done sample ∧
      definition.keyFor deviceID sample.labels = definition.keyFor deviceID labels

end

section Run

variable {start : MemStore F} {done : List (Step F)}

theorem runSteps_concat
    (processor : Processor F)
    (done : List (Step F))
    (next : Step F)
    (start : MemStore F) :
    processor.runSteps (done ++ [next]) start =
      next.apply processor (processor.runSteps done start) := by
  simp only [runSteps, List.foldl_append, List.foldl_cons, List.foldl_nil]

theorem received_concat
    {next : Step F}
    {sample : Observation F} :
    processor.Received definition deviceID start (done ++ [next]) sample ↔
      processor.Received definition deviceID start done sample ∨
        ∃ attempt, next = .process attempt sample ∧
          processor.Hears definition deviceID (processor.runSteps done start) attempt sample := by
  constructor
  · rintro ⟨before, attempt, later, split, hears⟩
    rcases List.eq_nil_or_concat later with rfl | ⟨middle, last, rfl⟩
    · obtain ⟨rfl, same⟩ := List.append_inj' split rfl
      exact Or.inr ⟨attempt, (List.cons.inj same).1, hears⟩
    · rw [List.concat_eq_append, ← List.cons_append, ← List.append_assoc] at split
      obtain ⟨rfl, -⟩ := List.append_inj' split rfl
      exact Or.inl ⟨before, attempt, middle, rfl, hears⟩
  · rintro (⟨before, attempt, later, rfl, hears⟩ | ⟨attempt, rfl, hears⟩)
    · exact ⟨before, attempt, later ++ [next], by simp, hears⟩
    · exact ⟨done, attempt, [], rfl, hears⟩

theorem Listening.process
    (known : definition ∈ processor.states.all)
    (owns : processor.Owns definition deviceID)
    (answers : processor.Answers definition deviceID)
    (reached : Reached (processor.runSteps done start))
    {attempt : Attempt F}
    {sample : Observation F}
    (faithful : attempt.MetadataOnly)
    (genuine : Genuine definition deviceID (.process attempt sample))
    (listening : processor.Listening definition deviceID start done) :
    processor.Listening definition deviceID start (done ++ [.process attempt sample]) := by
  obtain ⟨seenAfter, later⟩ :=
    listening.seen.process known owns reached.sound faithful genuine
  refine ⟨?_, ?_, ?_⟩
  · rw [runSteps_concat]
    exact seenAfter
  · rw [runSteps_concat]
    intro other heard
    rcases received_concat.mp heard with earlier | ⟨attempt', same, hears⟩
    · obtain ⟨record, found, recent⟩ := listening.kept other earlier
      obtain ⟨next, foundAfter, more⟩ := later _ record found
      exact ⟨next, foundAfter, recent.trans more⟩
    · obtain ⟨rfl, rfl⟩ := Step.process.inj same
      exact hears.recorded known owns answers reached faithful genuine listening.seen
  · rw [runSteps_concat]
    intro labels present
    by_cases same :
        (processor.process attempt sample (processor.runSteps done start)).2.states.lookup
        (definition.keyFor deviceID labels) =
          (processor.runSteps done start).states.lookup (definition.keyFor deviceID labels)
    · obtain ⟨other, heard, own⟩ := listening.founded labels (same ▸ present)
      exact ⟨other, received_concat.mpr (Or.inl heard), own⟩
    · obtain ⟨hears, -, own, -⟩ := hears_of_written known owns reached.sound faithful same
      exact ⟨sample, received_concat.mpr (Or.inr ⟨attempt, rfl, hears⟩), own⟩

theorem Listening.sweep
    {now : Time}
    {listed : List Device}
    {listing : Option Error}
    {attempts : ℕ → Attempt F}
    (spares : Spares definition deviceID (processor.runSteps done start)
      (processor.sweep now listed listing attempts (processor.runSteps done start)).2)
    (listening : processor.Listening definition deviceID start done) :
    processor.Listening definition deviceID start
      (done ++ [.sweep now listed listing attempts]) := by
  have sameRecord : ∀ labels,
      (processor.runSteps (done ++ [.sweep now listed listing attempts]) start).states.lookup
        (definition.keyFor deviceID labels) =
          (processor.runSteps done start).states.lookup (definition.keyFor deviceID labels) := by
    intro labels
    rw [runSteps_concat]
    exact (spares.2 labels).1
  have sameHeard : ∀ sample,
      processor.Received definition deviceID start (done ++ [.sweep now listed listing attempts])
        sample ↔ processor.Received definition deviceID start done sample := by
    intro sample
    rw [received_concat]
    simp
  refine ⟨?_, ?_, ?_⟩
  · intro labels
    rw [sameRecord]
    exact listening.seen labels
  · intro sample
    rw [sameHeard, sameRecord]
    exact listening.kept sample
  · intro labels
    simp only [sameHeard, sameRecord]
    exact listening.founded labels

theorem Listening.not_silent
    (known : definition ∈ processor.states.all)
    (placed : Placed definition deviceID (processor.runSteps done start))
    (listening : processor.Listening definition deviceID start done)
    {now : Time}
    (lively : processor.Lively definition deviceID start done now)
    {listed : List Device}
    (answerable : ∀ device ∈ listed, device.id = deviceID → device.enabled = true →
      device.protocol = "snmp" → definition.keyLabels = [])
    {record : StateRecord}
    (watched : processor.Watched listed (processor.runSteps done start) record)
    (tracked : record.definitionID = definition.id)
    (about : record.deviceID = deviceID) :
    ¬processor.staleAfter ≤ Time.sub now record.lastSeenAt := by
  rw [Duration.le_def, not_le, ← Duration.lt_def]
  rcases watched with
    ⟨key, found⟩ | ⟨device, member, other, otherKnown, enabled, snmp, -, missing, rfl⟩
  · obtain ⟨labels, rfl⟩ := placed key record found tracked about
    obtain ⟨sample, heard, own⟩ := listening.founded labels (by simp [found])
    obtain ⟨last, heardLast, sameKey, recent⟩ := lively.recent sample heard
    obtain ⟨present, foundLast, newer⟩ := listening.kept last heardLast
    rw [sameKey, own, Option.mem_def, found] at foundLast
    obtain rfl := Option.some.inj foundLast
    exact Int.lt_of_le_of_lt (Time.sub_anti now newer) recent
  · obtain rfl := Definitions.eq_of_id otherKnown known tracked
    change device.id = deviceID at about
    have unlabelled := answerable device member about enabled snmp
    refine lively.young fun sample heard => ?_
    obtain ⟨present, found, -⟩ := listening.kept sample heard
    rw [Definition.keyFor_of_unlabelled unlabelled, ← about, Option.mem_def, missing] at found
    cases found

end Run

theorem unrecorded_of_unanswered
    (known : definition ∈ processor.states.all)
    (owns : processor.Owns definition deviceID)
    (unanswered : ¬processor.Answers definition deviceID)
    (devices : StringMap Device)
    (run : List (Step F))
    (faithful : ∀ next ∈ run, next.MetadataOnly)
    (labels : StringMap String) :
    (processor.runSteps run { (MemStore.new : MemStore F) with devices }).states.lookup
      (definition.keyFor deviceID labels) = none := by
  let invariant : MemStore F → Prop := fun store =>
    store.Sound ∧ store.states.lookup (definition.keyFor deviceID labels) = none
  suffices kept : invariant (processor.runSteps run { MemStore.new with devices }) from kept.2
  refine runSteps_preserves invariant ?_ run faithful
    ⟨(Reached.start devices).sound, by simp [MemStore.new]⟩
  rintro attempt sample store hooks ⟨sound, none⟩
  refine ⟨processor.process_sound _ _ sound, ?_⟩
  by_contra present
  have changed : (processor.process attempt sample store).2.states.lookup
      (definition.keyFor deviceID labels) ≠
        store.states.lookup (definition.keyFor deviceID labels) := by
    rw [none]
    exact present
  exact unanswered (hears_of_written known owns sound hooks changed).2.1

/-- The sweeps of the run expect of the device only what it can report: when they
list it as an enabled SNMP device, the definition has no key labels and applies to
it. -/
def Answerable
    (processor : Processor F)
    (definition : Definition F)
    (deviceID : String) : Step F → Prop
  | .process .. => True
  | .sweep _ listed _ _ =>
      ∀ device ∈ listed, device.id = deviceID → device.enabled = true →
        device.protocol = "snmp" →
          definition.keyLabels = [] ∧ processor.Answers definition deviceID

/-- The run has reached a sweep. -/
def SweepsAfter (run done : List (Step F)) (now : Time) : Prop :=
  ∃ listed listing attempts rest, run = done ++ .sweep now listed listing attempts :: rest

section Sweeps

variable {devices : StringMap Device} {run : List (Step F)}

section

variable (known : definition ∈ processor.states.all) (only : processor.OnlyStale definition)
  (owns : processor.Owns definition deviceID)
include known only owns

theorem Listening.spares
    (faithful : ∀ next ∈ run, next.MetadataOnly)
    (answerable : ∀ next ∈ run, processor.Answerable definition deviceID next)
    {done rest : List (Step F)}
    {now : Time}
    {listed : List Device}
    {listing : Option Error}
    {attempts : ℕ → Attempt F}
    (position : run = done ++ .sweep now listed listing attempts :: rest)
    (lively : processor.Lively definition deviceID { MemStore.new with devices } done now)
    (listening : processor.Listening definition deviceID { MemStore.new with devices } done) :
    Spares definition deviceID (processor.runSteps done { MemStore.new with devices })
      (processor.sweep now listed listing attempts
        (processor.runSteps done { MemStore.new with devices })).2 := by
  subst position
  rw [List.forall_mem_append, List.forall_mem_cons] at faithful answerable
  refine sweep_spares owns only ((Reached.start devices).runSteps processor done).sound listing
    faithful.2.1 fun record watched => listening.not_silent known
      (placed_of_run known owns devices done faithful.1) lively ?_ watched
  exact fun device member about enabled snmp =>
    (answerable.2.1 device member about enabled snmp).1

theorem listening_of_lively
    (answers : processor.Answers definition deviceID)
    (faithful : ∀ next ∈ run, next.MetadataOnly)
    (genuine : ∀ next ∈ run, Genuine definition deviceID next)
    (answerable : ∀ next ∈ run, processor.Answerable definition deviceID next)
    (lively : ∀ done now, SweepsAfter run done now →
      processor.Lively definition deviceID { MemStore.new with devices } done now)
    (done rest : List (Step F))
    (position : run = done ++ rest) :
    processor.Listening definition deviceID { MemStore.new with devices } done := by
  induction done using List.reverseRecOn generalizing rest with
  | nil =>
      refine ⟨by simp [SeenLast, runSteps, MemStore.new], ?_, by simp [runSteps, MemStore.new]⟩
      rintro sample ⟨before, attempt, later, split, -⟩
      simp at split
  | append_singleton init last ih =>
      rw [List.append_assoc, List.singleton_append] at position
      have listening := ih (last :: rest) position
      have amongAll : last ∈ run := by
        rw [position]
        simp
      cases last with
      | process attempt sample =>
          exact listening.process known owns answers
            ((Reached.start devices).runSteps processor init) (faithful _ amongAll)
            (genuine _ amongAll)
      | sweep now listed listing attempts =>
          exact listening.sweep (listening.spares known only owns faithful answerable position
            (lively init now ⟨listed, listing, attempts, rest, position⟩))

theorem sweep_spares_unanswered
    (unanswered : ¬processor.Answers definition deviceID)
    (faithful : ∀ next ∈ run, next.MetadataOnly)
    (answerable : ∀ next ∈ run, processor.Answerable definition deviceID next)
    {done rest : List (Step F)}
    {now : Time}
    {listed : List Device}
    {listing : Option Error}
    {attempts : ℕ → Attempt F}
    (position : run = done ++ .sweep now listed listing attempts :: rest) :
    Spares definition deviceID (processor.runSteps done { MemStore.new with devices })
      (processor.sweep now listed listing attempts
        (processor.runSteps done { MemStore.new with devices })).2 := by
  subst position
  rw [List.forall_mem_append, List.forall_mem_cons] at faithful answerable
  refine sweep_spares owns only ((Reached.start devices).runSteps processor done).sound listing
    faithful.2.1 ?_
  rintro record (⟨key, found⟩ | ⟨device, member, other, otherKnown, enabled, snmp, -, -, rfl⟩)
    tracked about
  · obtain ⟨labels, rfl⟩ :=
      placed_of_run known owns devices done faithful.1 key record found tracked about
    rw [unrecorded_of_unanswered known owns unanswered devices done faithful.1] at found
    cases found
  · exact absurd (answerable.2.1 device member about enabled snmp).2 unanswered

end

end Sweeps

/-- Only silent entities are swept. If the entities of the device are lively at
every sweep, or if the definition excludes the device, then every sweep leaves them
alone. -/
theorem lively_not_swept
    (processor : Processor F)
    (definition : Definition F)
    (known : definition ∈ processor.states.all)
    (only : processor.OnlyStale definition)
    (deviceID : String)
    (owns : processor.Owns definition deviceID)
    (devices : StringMap Device)
    (run : List (Step F))
    (faithful : ∀ next ∈ run, next.MetadataOnly)
    (genuine : ∀ next ∈ run, Genuine definition deviceID next)
    (answerable : ∀ next ∈ run, processor.Answerable definition deviceID next)
    (premise :
      (∀ done now, SweepsAfter run done now →
        processor.Lively definition deviceID { MemStore.new with devices } done now) ∨
        ∀ device, processor.inventory.lookup deviceID = some device →
          definition.appliesTo device.deviceType = false)
    (done rest : List (Step F))
    (now : Time)
    (listed : List Device)
    (listing : Option Error)
    (attempts : ℕ → Attempt F)
    (position : run = done ++ .sweep now listed listing attempts :: rest) :
    let store := processor.runSteps done { (MemStore.new : MemStore F) with devices }
    Spares definition deviceID store (processor.sweep now listed listing attempts store).2 := by
  by_cases answers : processor.Answers definition deviceID
  · rcases premise with lively | excluded
    · have listening := listening_of_lively known only owns answers faithful genuine answerable
        lively done _ position
      exact listening.spares known only owns faithful answerable position
        (lively done now ⟨listed, listing, attempts, rest, position⟩)
    · obtain ⟨device, registered, -, applies⟩ := answers
      rw [excluded device registered] at applies
      cases applies
  · exact sweep_spares_unanswered known only owns answers faithful answerable position

end Processor

end InfraObserver

namespace InfraObserver.Processor

attribute [local instance] Platform.plain GoFloat.integer

/-- A time in minutes after the start of the processor. -/
def minutes (count : ℤ) : Time := count * 60000000000

/-- A switch that answered twenty minutes ago is not swept, though the processor
runs for two hours. -/
theorem answering_switch_spared :
    let store := plainProcessor.runSteps
      [.process (Attempt.plain ℤ) (Definition.reachabilitySample "o1" (minutes 100) true)] .new
    (store.states.lookup "reachability/sw-1/").isSome = true ∧
      Spares Definition.reachability "sw-1" store
        (plainProcessor.sweep (minutes 120) [plainSwitch] none (fun _ => Attempt.plain ℤ)
          store).2 := by
  intro store
  refine ⟨by decide +kernel, ?_⟩
  have answers : plainProcessor.Answers Definition.reachability "sw-1" :=
    ⟨plainSwitch, by decide +kernel, rfl, rfl⟩
  refine lively_not_swept plainProcessor Definition.reachability (List.mem_singleton.mpr rfl) ?_
    "sw-1" ⟨?_, fun _ _ _ => device_of_keyFor rfl⟩ ∅
    [.process (Attempt.plain ℤ) (Definition.reachabilitySample "o1" (minutes 100) true),
      .sweep (minutes 120) [plainSwitch] none fun _ => Attempt.plain ℤ] ?_ ?_ ?_
    (Or.inl ?_) _ [] _ _ _ _ rfl
  · intro other member _ _
    exact List.mem_singleton.mp member
  · rintro labels (definition | rule) tracked _ _ _
    · rw [List.mem_singleton.mp tracked]
    · cases tracked
  · simp [Step.MetadataOnly, Attempt.plain_metadataOnly]
  · simp [Genuine, Attempt.plain_keepsMark, Definition.reachabilitySample]
  · simpa [Answerable] using fun _ _ _ => ⟨rfl, answers⟩
  · -- The only sweep comes after the only call.
    rintro done now ⟨listed, listing, attempts, rest, split⟩
    rcases done with _ | ⟨first, _ | ⟨second, _ | ⟨third, more⟩⟩⟩
    · simp at split
    · simp only [List.cons_append, List.nil_append, List.cons.injEq, Step.sweep.injEq] at split
      obtain ⟨rfl, ⟨rfl, -⟩, -⟩ := split
      constructor
      · intro sample heard
        refine ⟨sample, heard, rfl, ?_⟩
        obtain ⟨before, attempt, later, only, -⟩ := heard
        rcases before with _ | ⟨_, _ | _⟩
        · simp only [List.nil_append, List.cons.injEq, Step.process.injEq] at only
          rw [← only.1.2]
          decide +kernel
        · simp at only
        · simp at only
      · intro none
        refine absurd ⟨[], _, [], rfl, rfl, rfl, ⟨true, rfl⟩, rfl, ?_⟩ (none _)
        exact ⟨_, rfl⟩
    · simp at split
    · simp at split

/-! ## Entities that no device reports -/

/-- A stale definition of ports: its entities have an interface. -/
def portDefinition : Definition ℤ :=
  { Definition.reachability with keyLabels := ["interface"], failAfter := 1, failFor := .zero }

/-- The processor that tracks it. -/
def portProcessor : Processor ℤ :=
  singleProcessor portDefinition ((Definition.valid_iff_problems _).mpr (by decide +kernel))

/-- A stale definition of routers. -/
def routerDefinition : Definition ℤ :=
  { Definition.reachability with deviceTypes := ["router"] }

/-- The processor that tracks it. -/
def routerProcessor : Processor ℤ :=
  singleProcessor routerDefinition ((Definition.valid_iff_problems _).mpr (by decide +kernel))

/-- A switch reports its only port every fifty minutes. A sweep after two hours
stores a synthetic observation for a port without an interface, and opens an alert
for it. A switch is also swept for a definition that excludes switches. -/
theorem expected_entities_swept :
    let port : StringMap String := (∅ : StringMap String).insert "interface" "eth0"
    let store := portProcessor.runSteps
      [.process (Attempt.plain ℤ)
          { Definition.reachabilitySample "o1" (minutes 50) true with labels := port },
        .process (Attempt.plain ℤ)
          { Definition.reachabilitySample "o2" (minutes 100) true with labels := port }] .new
    let id := stableID ["stale", "reachability/sw-1/", toString (Time.unix (minutes 120))]
    let swept := (portProcessor.sweep (minutes 120) [plainSwitch] none
      (fun _ => Attempt.plain ℤ) store).2
    let excluded := (routerProcessor.sweep (minutes 120) [plainSwitch] none
      (fun _ => Attempt.plain ℤ) .new).2
    portProcessor.staleAfter = .hour ∧ portProcessor.startedAt = 0 ∧
      store.listStates.map (fun record => (record.key, record.lastSeenAt)) =
        [("reachability/sw-1/interface=eth0", minutes 100)] ∧
      (swept.observation.lookup id).isSome = true ∧
      (swept.states.lookup "reachability/sw-1/").map StateRecord.state = some .down ∧
      swept.alerts.any (Alert.fires "reachability/sw-1/") = true ∧
      routerDefinition.appliesTo plainSwitch.deviceType = false ∧
      (excluded.observation.lookup id).isSome = true := by
  decide +kernel

end InfraObserver.Processor
