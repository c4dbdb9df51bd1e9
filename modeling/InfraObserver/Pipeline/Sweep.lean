import InfraObserver.Library.Keyed
import InfraObserver.Pipeline.Runs

/-!
# What a sweep looks at

`Sweep` watches the stored records and the records it expects of devices that
have never reported. It makes a synthetic sample for each of them that is
overdue.
-/

namespace InfraObserver

variable {F : Type} [GoFloat F] [Platform]

namespace Definitions

theorem get_eq_some_iff
    (definitions : Definitions F)
    (id : String)
    (definition : Definition F) :
    definitions.get id = some definition ↔
      definition ∈ definitions.all ∧ definition.id = id :=
  Keyed.find?_eq_some_iff definitions.distinct id definition

theorem eq_of_id
    {definitions : Definitions F}
    {first second : Definition F}
    (known : first ∈ definitions.all)
    (known' : second ∈ definitions.all)
    (same : first.id = second.id) :
    first = second :=
  List.inj_on_of_nodup_map definitions.distinct known known' same

end Definitions

/-- The synthetic sample of a definition for one of its records. -/
def Definition.synthetic
    (definition : Definition F)
    (now : Time)
    (bucket : Duration)
    (record : StateRecord) : Observation F :=
  let instant := Time.truncate now bucket
  let id := stableID ["stale", record.key, toString (Time.unix instant)]
  { observationID := id
    correlationID := id
    deviceID := record.deviceID
    source := "sweeper"
    metric := definition.metric
    value := .bool (match definition.goodWhen with
      | some good => !good.equals.getD false
      | none => false)
    labels := record.labels
    observedAt := instant
    receivedAt := 0
    metadata := ((∅ : StringMap String).insert "stale" "true").insert
      "last_seen_at" (Platform.rfc3339 record.lastSeenAt) }

namespace Processor

variable {processor : Processor F} {store : MemStore F}

/-- The record of an entity that has never reported. -/
def expected (processor : Processor F) (definition : Definition F) (device : Device) :
    StateRecord :=
  { StateRecord.zero with
    key := definition.keyFor device.id ∅
    deviceID := device.id
    definitionID := definition.id
    labels := definition.keyLabelsOf ∅
    lastSeenAt := processor.startedAt }

/-- The records that `Sweep` looks at: those stored, and one for each enabled SNMP
device and stale definition for which none is stored. -/
def Watched
    (processor : Processor F)
    (devices : List Device)
    (store : MemStore F)
    (record : StateRecord) : Prop :=
  (∃ key, store.states.lookup key = some record) ∨
    ∃ device ∈ devices, ∃ definition ∈ processor.states.all,
      device.enabled = true ∧ device.protocol = "snmp" ∧ definition.stale = true ∧
        store.states.lookup (definition.keyFor device.id ∅) = none ∧
        record = processor.expected definition device

/-- The record belongs to a stale definition, is not DOWN, and its last real
sample is at least `staleAfter` old. -/
structure Overdue
    (processor : Processor F)
    (now : Time)
    (definition : Definition F)
    (record : StateRecord) : Prop where
  known : definition ∈ processor.states.all
  tracked : definition.id = record.definitionID
  stale : definition.stale = true
  notDown : record.state ≠ .down
  silent : processor.staleAfter ≤ Time.sub now record.lastSeenAt

/-- `StaleSamples` makes a sample for a record exactly when it is overdue. -/
theorem staleSample_eq_some_iff
    (processor : Processor F)
    (now : Time)
    (record : StateRecord)
    (sample : Observation F) :
    processor.states.staleSample now processor.staleAfter processor.sweepInterval record =
        some sample ↔
      ∃ definition, processor.Overdue now definition record ∧
        sample = definition.synthetic now processor.sweepInterval record := by
  have ordered : ∀ left right : Duration, ¬left < right ↔ right ≤ left := by
    intro left right
    rw [Duration.lt_def, Duration.le_def, not_lt]
  unfold Definitions.staleSample
  constructor
  · intro made
    split at made
    · simp at made
    · next definition found =>
        obtain ⟨known, tracked⟩ := (processor.states.get_eq_some_iff _ _).mp found
        split_ifs at made with skipped fresh
        simp only [Bool.or_eq_true, Bool.not_eq_true', decide_eq_true_eq, not_or,
          Bool.not_eq_false] at skipped
        exact ⟨definition, ⟨known, tracked, skipped.1, skipped.2, (ordered _ _).mp fresh⟩,
          (Option.some.inj made).symm⟩
  · rintro ⟨definition, ⟨known, tracked, stale, notDown, silent⟩, rfl⟩
    have found := (processor.states.get_eq_some_iff record.definitionID definition).mpr
      ⟨known, tracked⟩
    rw [found]
    simp only [stale, notDown]
    rw [if_neg (by simp), if_neg ((ordered _ _).mpr silent)]
    rfl

omit [GoFloat F] [Platform] in
theorem mem_listStates (store : MemStore F) (record : StateRecord) :
    record ∈ store.listStates ↔ ∃ key, store.states.lookup key = some record := by
  simp [MemStore.listStates]

theorem mem_sweepSamples
    (sound : store.Sound)
    (processor : Processor F)
    (now : Time)
    (devices : List Device)
    (sample : Observation F) :
    sample ∈ processor.sweepSamples now devices store ↔
      ∃ record definition, processor.Watched devices store record ∧
        processor.Overdue now definition record ∧
        sample = definition.synthetic now processor.sweepInterval record := by
  have absent : ∀ key, (store.listStates.any fun record => record.key = key) = false ↔
      store.states.lookup key = none := by
    intro key
    rw [List.any_eq_false]
    constructor
    · intro none
      cases found : store.states.lookup key with
      | none => rfl
      | some record =>
          have listed := none record ((mem_listStates store record).mpr ⟨key, found⟩)
          simp [sound.keyed key record found] at listed
    · intro missing record listed
      obtain ⟨other, found⟩ := (mem_listStates store record).mp listed
      rw [decide_eq_true_eq, sound.keyed other record found]
      rintro rfl
      rw [missing] at found
      cases found
  have watched : ∀ record,
      record ∈ store.listStates ++ processor.missingRecords store.listStates devices ↔
        processor.Watched devices store record := by
    intro record
    rw [List.mem_append, mem_listStates, Watched]
    refine or_congr Iff.rfl ?_
    simp only [missingRecords, List.mem_flatMap]
    refine exists_congr fun device => and_congr_right fun listed => ?_
    split_ifs with skipped
    · simp only [Bool.or_eq_true, Bool.not_eq_true', decide_eq_true_eq] at skipped
      constructor
      · simp
      · rintro ⟨definition, _, enabled, snmp, _⟩
        rcases skipped with disabled | other
        · simp [enabled] at disabled
        · exact absurd snmp other
    · simp only [Bool.or_eq_true, Bool.not_eq_true', decide_eq_true_eq, not_or,
        Bool.not_eq_false, ne_eq, not_not] at skipped
      simp only [List.mem_filterMap]
      refine exists_congr fun definition => and_congr_right fun known => ?_
      rw [← absent]
      constructor
      · intro made
        split_ifs at made with present
        simp only [Bool.or_eq_true, Bool.not_eq_true', not_or, Bool.not_eq_false,
          Bool.not_eq_true] at present
        exact ⟨skipped.1, skipped.2, present.1, present.2, (Option.some.inj made).symm⟩
      · rintro ⟨-, -, stale, missing, rfl⟩
        rw [if_neg (by simp [stale, missing])]
        rfl
  simp only [sweepSamples, Definitions.staleSamples, List.mem_filterMap, watched,
    staleSample_eq_some_iff]
  constructor
  · rintro ⟨record, seen, definition, overdue, made⟩
    exact ⟨record, definition, seen, overdue, made⟩
  · rintro ⟨record, definition, seen, overdue, made⟩
    exact ⟨record, seen, definition, overdue, made⟩

end Processor

end InfraObserver
