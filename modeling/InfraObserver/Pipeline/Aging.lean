import InfraObserver.Pipeline.Advance
import InfraObserver.Pipeline.Sweep

/-!
# How fast silence ages an entity

Sweepers may run concurrently and as often as they like: they all stamp the
synthetic samples of one bucket with the same instant, and a record only takes
samples that are strictly newer. So a bucket advances a record at most once, and
an entity needs as many buckets as its definition asks for failures.
-/

namespace InfraObserver

variable {F : Type} [GoFloat F] [Platform]

namespace Processor

/-- A synthetic sample of a sweep bucket: one that `StaleSamples` makes of some
record, as it was listed at some time, for a clock within the bucket. -/
def SyntheticIn
    (processor : Processor F)
    (bucket : Time)
    (sample : Observation F) : Prop :=
  ∃ now staleAfter record, Time.truncate now processor.sweepInterval = bucket ∧
    processor.states.staleSample now staleAfter processor.sweepInterval record = some sample

/-- The calls of a run that change the record of a key. -/
def advancing (processor : Processor F) (key : String) :
    List (Call F) → MemStore F → List (Call F)
  | [], _ => []
  | call :: rest, store =>
      let after := processor.after store call
      if after.states.lookup key = store.states.lookup key then
        processor.advancing key rest after
      else call :: processor.advancing key rest after

/-- Only the definition has the key. -/
def SoleKey (processor : Processor F) (definition : Definition F) (key : String) : Prop :=
  ∀ tracker, processor.Tracks tracker → ∀ deviceID labels,
    tracker.keyFor deviceID labels = key → tracker = .state definition

variable {processor : Processor F}

theorem SyntheticIn.instant
    {bucket : Time}
    {sample : Observation F}
    (synthetic : processor.SyntheticIn bucket sample) :
    sample.observedAt = bucket := by
  obtain ⟨now, staleAfter, record, rfl, made⟩ := synthetic
  unfold Definitions.staleSample at made
  split at made
  · cases made
  · split_ifs at made
    rw [← Option.some.inj made]

variable {store : MemStore F}

theorem advancing_increasing
    (key : String)
    (calls : List (Call F))
    (faithful : ∀ call ∈ calls, call.attempt.MetadataOnly)
    (sound : store.Sound) :
    (processor.advancing key calls store).Pairwise
        (fun first second => first.sample.observedAt < second.sample.observedAt) ∧
      ∀ call ∈ processor.advancing key calls store, ∀ record ∈ store.states.lookup key,
        record.lastObservedAt < call.sample.observedAt := by
  induction calls generalizing store with
  | nil => exact ⟨.nil, by simp [advancing]⟩
  | cons call rest ih =>
      rw [List.forall_mem_cons] at faithful
      have soundAfter : (processor.after store call).Sound := processor.process_sound _ _ sound
      obtain ⟨increasing, later⟩ := ih faithful.2 soundAfter
      simp only [advancing]
      split
      · next same =>
          rw [same] at later
          exact ⟨increasing, later⟩
      · next changed =>
          obtain ⟨⟨record, written, stamped⟩, newer⟩ := after_newer sound faithful.1 changed
          have beyond : ∀ other ∈ processor.advancing key rest (processor.after store call),
              call.sample.observedAt < other.sample.observedAt := by
            intro other member
            rw [← stamped]
            exact later other member record written
          refine ⟨List.pairwise_cons.mpr ⟨beyond, increasing⟩, ?_⟩
          intro other member old found
          rcases List.mem_cons.mp member with rfl | member
          · exact newer old found
          · exact (newer old found).trans (beyond other member)

theorem advancing_subset
    (key : String)
    (calls : List (Call F))
    (store : MemStore F) :
    processor.advancing key calls store ⊆ calls := by
  induction calls generalizing store with
  | nil => exact List.Subset.refl _
  | cons call rest ih =>
      simp only [advancing]
      split
      · exact List.subset_cons_of_subset _ (ih _)
      · exact List.cons_subset_cons _ (ih _)

variable {definition : Definition F} {key : String}

theorem after_sole
    (sole : processor.SoleKey definition key)
    (sound : store.Sound)
    (call : Call F) :
    (processor.after store call).states.lookup key = store.states.lookup key ∨
      ∃ enriched device, processor.Prepares call.attempt call.sample enriched device ∧
        definition ∈ processor.states.forMetric enriched.metric device.deviceType ∧
        definition.keyFor enriched.deviceID enriched.labels = key ∧
        (definition.evaluate (store.states.lookup key) enriched).ignored = .notIgnored ∧
        (processor.after store call).states.lookup key =
          some (definition.evaluate (store.states.lookup key) enriched).record := by
  rcases processor.after_advances store call with
    same | ⟨enriched, device, events, prepares, advances⟩
  · exact Or.inl (by rw [same])
  · have final := advances.states sound key
    cases found : processor.advancer enriched device store key with
    | none =>
        rw [found] at final
        exact Or.inl final
    | some tracker =>
        rw [found] at final
        obtain ⟨member, own, applied⟩ := mem_of_advancer found
        obtain rfl := sole tracker (mem_trackers member).1 _ _ own
        refine Or.inr ⟨enriched, device, prepares, ?_, own, of_decide_eq_true applied, final⟩
        simpa [trackers] using member

theorem Advances.sole
    (sole : processor.SoleKey definition key)
    {sample : Observation F}
    {device : Device}
    {after : MemStore F}
    {events : List Event}
    (advances : processor.Advances sample device store events after)
    (sound : store.Sound)
    (member : definition ∈ processor.states.forMetric sample.metric device.deviceType)
    (own : definition.keyFor sample.deviceID sample.labels = key)
    (applied : (definition.evaluate (store.states.lookup key) sample).ignored = .notIgnored) :
    after.states.lookup key =
      some (definition.evaluate (store.states.lookup key) sample).record := by
  have tracked : Tracker.state definition ∈ processor.trackers sample device :=
    List.mem_append_left _ (List.mem_map_of_mem member)
  have turn : Tracker.applies store sample (store.states.lookup key) (.state definition) = true :=
    decide_eq_true applied
  rw [advances.states sound key, advancer_of_sole tracked own
    (fun other listed => sole other (mem_trackers listed).1 _ _), if_pos turn]
  rfl

/-- Between UP and DOWN there are as many changes as the definition asks for
failures, less those that the record counts already. -/
theorem failAfter_le_advancing
    (sole : processor.SoleKey definition key)
    (calls : List (Call F))
    (sound : store.Sound)
    {record : StateRecord}
    (found : store.states.lookup key = some record)
    (calm : record.state.alerting = false)
    {final : StateRecord}
    (reached : (processor.runCalls calls store).states.lookup key = some final)
    (down : final.state = .down) :
    definition.failAfter ≤ record.failures + (processor.advancing key calls store).length := by
  induction calls generalizing store record with
  | nil =>
      obtain rfl := Option.some.inj (found.symm.trans reached)
      rw [down] at calm
      cases calm
  | cons call rest ih =>
      have soundAfter : (processor.after store call).Sound := processor.process_sound _ _ sound
      simp only [advancing]
      rcases after_sole sole sound call with same | ⟨enriched, device, -, -, -, applied, written⟩
      · rw [if_pos same]
        exact ih soundAfter (same.trans found) calm reached
      · rw [found] at applied written
        obtain ⟨good, judged, -, kept⟩ := Definition.evaluate_applied applied
        have changed : (processor.after store call).states.lookup key ≠
            store.states.lookup key := by
          rw [written, found]
          intro same
          have newer := Definition.evaluate_newer applied
          rw [← kept.lastObservedAt, Option.some.inj same] at newer
          exact lt_irrefl _ newer
        rw [if_neg changed, List.length_cons]
        dsimp only [Option.getD_some] at kept
        cases good with
        | true =>
            obtain ⟨none, up⟩ := kept.succeeded rfl
            have still := ih soundAfter written (by
              rcases up with up | ⟨-, alerting⟩
              · rw [up]
                rfl
              · rw [calm] at alerting
                cases alerting) reached
            rw [none] at still
            push_cast
            omega
        | false =>
            obtain ⟨more, -, state⟩ := kept.failed rfl
            split at state
            · next enough =>
                rcases enough with alerting | ⟨enough, -⟩
                · rw [calm] at alerting
                  cases alerting
                · push_cast
                  omega
            · have still := ih soundAfter written (by rw [state]; rfl) reached
              push_cast
              omega

theorem failures_of_up
    (sole : processor.SoleKey definition key)
    (devices : StringMap Device)
    (calls : List (Call F)) :
    ∀ record ∈ (processor.runCalls calls { (MemStore.new : MemStore F) with devices }).states.lookup
      key, record.state = .up → record.failures = 0 := by
  suffices general : ∀ store : MemStore F, store.Sound →
      (∀ record ∈ store.states.lookup key, record.state = .up → record.failures = 0) →
      ∀ record ∈ (processor.runCalls calls store).states.lookup key,
        record.state = .up → record.failures = 0 from
    general _ (Reached.start devices).sound (by simp [MemStore.new])
  induction calls with
  | nil => exact fun _ _ counts => counts
  | cons call rest ih =>
      intro store sound counts
      refine ih _ (processor.process_sound _ _ sound) ?_
      rcases after_sole sole sound call with same | ⟨enriched, device, -, -, -, applied, written⟩
      · rw [same]
        exact counts
      · intro record found up
        obtain rfl := Option.some.inj (written.symm.trans found)
        obtain ⟨good, judged, -, kept⟩ := Definition.evaluate_applied applied
        cases good with
        | true => exact (kept.succeeded rfl).1
        | false =>
            obtain ⟨-, -, state⟩ := kept.failed rfl
            rw [up] at state
            split at state <;> cases state

/-- Sweeping more often does not age entities faster. In every run of calls from
a store without records, a bucket advances a record at most once; and an entity
whose key is its definition's own, that goes from UP to DOWN through synthetic
samples alone, was advanced in as many buckets as its definition asks for
failures. -/
theorem buckets_age_once
    (processor : Processor F)
    (devices : StringMap Device)
    (calls : List (Call F))
    (faithful : ∀ call ∈ calls, call.attempt.MetadataOnly)
    (key : String) :
    let start : MemStore F := { MemStore.new with devices }
    ((processor.advancing key calls start).Pairwise fun first second =>
        ∀ bucket, ¬(processor.SyntheticIn bucket first.sample ∧
          processor.SyntheticIn bucket second.sample)) ∧
      ∀ definition, processor.SoleKey definition key →
        ∀ earlier between, calls = earlier ++ between →
          ∀ first last,
            (processor.runCalls earlier start).states.lookup key = some first →
            first.state = .up →
            (processor.runCalls calls start).states.lookup key = some last →
            last.state = .down →
            (∀ call ∈ processor.advancing key between (processor.runCalls earlier start),
              ∃ bucket, processor.SyntheticIn bucket call.sample) →
            ∃ buckets : Finset Time, definition.failAfter ≤ buckets.card ∧
              ∀ bucket ∈ buckets,
                ∃ call ∈ processor.advancing key between (processor.runCalls earlier start),
                  processor.SyntheticIn bucket call.sample := by
  intro start
  have sound : start.Sound := (Reached.start devices).sound
  constructor
  · refine (advancing_increasing key calls faithful sound).1.imp ?_
    rintro first second later bucket ⟨synthetic, synthetic'⟩
    rw [synthetic.instant, synthetic'.instant] at later
    exact lt_irrefl _ later
  · rintro definition sole earlier between rfl first last found up reached down alone
    let middle := processor.runCalls earlier start
    have soundMiddle : middle.Sound := ((Reached.start devices).runCalls processor earlier).sound
    have none := failures_of_up sole devices earlier first found up
    have finished : (processor.runCalls between middle).states.lookup key = some last := by
      rw [← reached]
      simp only [runCalls, List.foldl_append, middle]
    have enough := failAfter_le_advancing sole between soundMiddle found
      (by rw [up]; rfl) finished down
    let instants := (processor.advancing key between middle).map fun call => call.sample.observedAt
    have distinct : instants.Nodup := by
      refine (List.pairwise_map.mpr (advancing_increasing key between (fun call member => ?_)
        soundMiddle).1).imp ?_
      · exact faithful call (List.mem_append_right _ member)
      · exact fun less => ne_of_lt less
    refine ⟨instants.toFinset, ?_, ?_⟩
    · rw [List.toFinset_card_of_nodup distinct, List.length_map]
      rw [none] at enough
      simpa using enough
    · intro bucket member
      obtain ⟨call, listed, rfl⟩ := List.mem_map.mp (List.mem_toFinset.mp member)
      obtain ⟨bucket, synthetic⟩ := alone call listed
      rw [synthetic.instant]
      exact ⟨call, listed, synthetic⟩

end Processor

end InfraObserver

namespace InfraObserver.Processor

attribute [local instance] Platform.plain GoFloat.integer

/-- The record of a switch that answered once, as a sweeper may have listed it. -/
def silentRecord : StateRecord :=
  { StateRecord.zero with
    key := "reachability/sw-1/"
    deviceID := "sw-1"
    definitionID := "reachability"
    state := .up
    lastSeenAt := 1 }

/-- A sweeper's call for the switch, with the clock at an instant. -/
def silentCall (now : Time) : Call ℤ :=
  ⟨Attempt.plain ℤ,
    Definition.reachability.synthetic now plainProcessor.sweepInterval silentRecord⟩

/-- Four sweepers, three of them in one bucket, age the switch by two samples. -/
theorem four_sweepers_two_buckets :
    let hours : Time := 7200000000000
    let answered : List (Call ℤ) :=
      [⟨Attempt.plain ℤ, Definition.reachabilitySample "o1" 1 true⟩]
    let swept := [silentCall hours, silentCall (hours + 1), silentCall (hours + 2),
      silentCall (hours + 60000000000)]
    ∃ buckets : Finset Time, Definition.reachability.failAfter ≤ buckets.card ∧
      ∀ bucket ∈ buckets, ∃ call ∈ plainProcessor.advancing "reachability/sw-1/" swept
        (plainProcessor.runCalls answered .new),
        plainProcessor.SyntheticIn bucket call.sample := by
  intro hours answered swept
  have made : ∀ now : Time, plainProcessor.staleAfter ≤ Time.sub now 1 →
      ∃ bucket, plainProcessor.SyntheticIn bucket (silentCall now).sample := by
    intro now silent
    refine ⟨_, now, plainProcessor.staleAfter, silentRecord, rfl, ?_⟩
    exact (plainProcessor.staleSample_eq_some_iff now _ _).mpr ⟨Definition.reachability,
      ⟨List.mem_singleton.mpr rfl, rfl, rfl, by decide, silent⟩, rfl⟩
  have synthetic : ∀ call ∈ swept, ∃ bucket, plainProcessor.SyntheticIn bucket call.sample := by
    simp only [swept, List.forall_mem_cons, List.not_mem_nil, false_implies, implies_true,
      and_true]
    exact ⟨made _ (by decide), made _ (by decide), made _ (by decide), made _ (by decide)⟩
  obtain ⟨first, found, up⟩ := Option.map_eq_some_iff.mp
    (show ((plainProcessor.runCalls answered .new).states.lookup "reachability/sw-1/").map
      StateRecord.state = some .up by decide +kernel)
  obtain ⟨last, reached, down⟩ := Option.map_eq_some_iff.mp
    (show ((plainProcessor.runCalls (answered ++ swept) .new).states.lookup
      "reachability/sw-1/").map StateRecord.state = some .down by decide +kernel)
  refine (buckets_age_once plainProcessor ∅ (answered ++ swept) ?_ _).2 _ ?_ _ _ rfl first last
    found up reached down ?_
  · simp only [answered, swept, List.cons_append, List.nil_append, List.forall_mem_cons,
      List.not_mem_nil, false_implies, implies_true, and_true]
    exact ⟨Attempt.plain_metadataOnly, Attempt.plain_metadataOnly, Attempt.plain_metadataOnly,
      Attempt.plain_metadataOnly, Attempt.plain_metadataOnly⟩
  · rintro (definition | rule) known deviceID labels _
    · rw [List.mem_singleton.mp known]
    · cases known
  · intro call member
    exact synthetic call (advancing_subset _ _ _ member)

/-! ## A shared record -/

/-- A definition whose key for a device is the key of the rule `flap`. -/
def sharedDefinition : Definition ℤ :=
  { flapDefinition with id := "rule:flap", failAfter := 2 }

/-- A processor with the definition and the rule. -/
def sharedProcessor : Processor ℤ :=
  { flapProcessor with
    states :=
      { all := [sharedDefinition]
        valid := by
          intro definition member
          rw [List.mem_singleton.mp member, Definition.valid_iff_problems]
          decide +kernel
        distinct := by decide } }

/-- The rule takes the record to DOWN and back to UP, and the failure that the
definition counted stays: one synthetic sample then brings the entity down,
though the definition asks for two failures. -/
theorem shared_record_ages_twice :
    let number : String → Time → ℤ → Call ℤ := fun id instant value =>
      ⟨Attempt.plain ℤ,
        { Definition.reachabilitySample id instant true with value := .float64 value }⟩
    let store := sharedProcessor.runCalls
      [⟨Attempt.plain ℤ, Definition.reachabilitySample "o1" 1 false⟩, number "o2" 2 0,
        number "o3" 3 5] .new
    let record := (store.states.lookup "rule:flap/sw-1/").getD .zero
    let sample := sharedDefinition.synthetic 7200000000000 sharedProcessor.sweepInterval record
    sharedProcessor.states.staleSample 7200000000000 sharedProcessor.staleAfter
        sharedProcessor.sweepInterval record = some sample ∧
      record.state = .up ∧ sharedDefinition.failAfter = 2 ∧
      ((sharedProcessor.runCalls [⟨Attempt.plain ℤ, sample⟩] store).states.lookup
        "rule:flap/sw-1/").map StateRecord.state = some .down := by
  decide +kernel

end InfraObserver.Processor
