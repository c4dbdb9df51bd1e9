import Mathlib
import InfraObserver.Pipeline.Aging

/-!
# Prolonged silence

An entity that stays silent is given one failed sample in every sweep bucket, so
after enough buckets it is DOWN and its alert fires. This holds for entities
with a boolean verdict whose key is their definition's own; a definition with a
threshold takes the synthetic sample for one of the wrong type.
-/

namespace InfraObserver

variable {F : Type} [GoFloat F] [Platform]

namespace Definition

/-- The value of the definition's synthetic samples. -/
def silentValue (definition : Definition F) : Bool :=
  match definition.goodWhen with
  | some good => !good.equals.getD false
  | none => false

omit [GoFloat F] [Platform] in
theorem keyFor_keyLabelsOf
    (definition : Definition F)
    (deviceID : String)
    (labels : StringMap String) :
    definition.keyFor deviceID (definition.keyLabelsOf labels) =
      definition.keyFor deviceID labels := by
  have same : definition.keyLabelsOf (definition.keyLabelsOf labels) =
      definition.keyLabelsOf labels := by
    refine Finmap.ext_lookup fun name => ?_
    simp only [lookup_keyLabelsOf]
    split <;> rfl
  rw [keyFor, keyFor, same]

omit [Platform] in
theorem judge_silent
    {definition : Definition F}
    (boolean : definition.goodWhen.isSome = true)
    (record : StateRecord)
    {sample : Observation F}
    (value : sample.value = .bool definition.silentValue) :
    definition.judge record sample = some (false, record) := by
  obtain ⟨good, given⟩ := Option.isSome_iff_exists.mp boolean
  unfold judge
  rw [value, silentValue, given]
  simp [Value.asBool]

/-- The record after a failed synthetic sample of an instant. -/
def Aged
    (definition : Definition F)
    (instant : Time)
    (before after : StateRecord) : Prop :=
  before.lastObservedAt < instant ∧ ∃ sample : Observation F, sample.observedAt = instant ∧
    sample.metadata.lookup "stale" = some "true" ∧ definition.Applied sample before after false

end Definition

namespace Processor

variable {processor : Processor F} {definition : Definition F} {key : String}

/-! ## The record of a definition's own key -/

/-- The record is one that the definition made, on a device that it applies to. -/
structure Own
    (processor : Processor F)
    (definition : Definition F)
    (key : String)
    (record : StateRecord) : Prop where
  keyFor : definition.keyFor record.deviceID record.labels = key
  definitionID : record.definitionID = definition.id
  device : ∃ device, processor.inventory.lookup record.deviceID = some device ∧
    device.enabled = true ∧
    definition ∈ processor.states.forMetric definition.metric device.deviceType
  badSince : 0 < record.failures → record.badSince ≤ record.lastObservedAt

theorem Own.applied
    {before after : StateRecord}
    (own : processor.Own definition key before)
    {sample : Observation F}
    {good : Bool}
    (applied : definition.Applied sample before after good)
    (newer : 0 < before.failures → before.lastObservedAt < sample.observedAt) :
    processor.Own definition key after where
  keyFor := by
    rw [applied.deviceID, applied.labels]
    exact own.keyFor
  definitionID := applied.definitionID.trans own.definitionID
  device := by
    rw [applied.deviceID]
    exact own.device
  badSince := by
    intro counted
    rw [applied.lastObservedAt]
    cases good with
    | true =>
        rw [(applied.succeeded rfl).1] at counted
        cases counted
    | false =>
        obtain ⟨-, since, -⟩ := applied.failed rfl
        rw [since]
        split
        · exact le_refl _
        · next earlier =>
            have before := Nat.pos_of_ne_zero earlier
            exact (own.badSince before).trans (newer before).le

theorem own_of_run
    (sole : processor.SoleKey definition key)
    (devices : StringMap Device)
    (run : List (Step F))
    (faithful : ∀ next ∈ run, next.MetadataOnly)
    {record : StateRecord}
    (found : (processor.runSteps run { (MemStore.new : MemStore F) with devices }).states.lookup
      key = some record) :
    processor.Own definition key record := by
  let invariant : MemStore F → Prop := fun store => store.Sound ∧
    ∀ record ∈ store.states.lookup key, processor.Own definition key record
  suffices kept : invariant (processor.runSteps run { MemStore.new with devices }) from
    kept.2 record found
  refine runSteps_preserves invariant ?_ run faithful
    ⟨(Reached.start devices).sound, by simp [MemStore.new]⟩
  rintro attempt sample store faithful ⟨sound, owned⟩
  refine ⟨processor.process_sound _ _ sound, ?_⟩
  rcases after_sole sole sound ⟨attempt, sample⟩ with
    same | ⟨enriched, device, prepares, member, own, applied, written⟩
  · rw [after] at same
    rw [same]
    exact owned
  · intro record found
    obtain rfl := Option.some.inj (written.symm.trans found)
    obtain ⟨good, judged, -, kept⟩ := Definition.evaluate_applied applied
    cases previous : store.states.lookup key with
    | some before =>
        rw [previous] at applied kept
        exact (owned before previous).applied kept fun _ => Definition.evaluate_newer applied
    | none =>
        obtain ⟨same, registered, enabled⟩ := prepares.same faithful
        have fresh : processor.Own definition key (definition.freshRecord enriched) := by
          refine ⟨(definition.keyFor_keyLabelsOf _ _).trans own, rfl, ⟨device, ?_, enabled, ?_⟩, ?_⟩
          · rw [← registered, same]
            rfl
          · rw [Definitions.metric_of_mem member]
            exact member
          · exact fun counted => absurd counted (Nat.lt_irrefl 0)
        rw [previous] at kept
        exact fresh.applied kept fun counted => absurd counted (Nat.lt_irrefl 0)

/-! ## One sweep -/

/-- A sample of a sweep: it carries the instant of the bucket and the mark, and if
the definition follows its metric it is a bad one. -/
structure Failing
    (definition : Definition F)
    (instant : Time)
    (sample : Observation F) : Prop where
  observedAt : sample.observedAt = instant
  marked : sample.metadata.lookup "stale" = some "true"
  value : sample.metric = definition.metric → sample.value = .bool definition.silentValue

/-- The stale definitions of the metric agree on the value of silence. -/
def Agreeing (processor : Processor F) (definition : Definition F) : Prop :=
  ∀ other ∈ processor.states.all, other.stale = true → other.metric = definition.metric →
    other.silentValue = definition.silentValue

section

variable (definition key) (instant : Time) (record : StateRecord) (store : MemStore F)

/-- The record of the key is as it was, or one failed sample of the instant
older. -/
def Within : Prop :=
  ∃ present, store.states.lookup key = some present ∧
    (present = record ∨ definition.Aged instant record present)

/-- The record of the key is one failed sample of the instant older. -/
def Beyond : Prop :=
  ∃ present, store.states.lookup key = some present ∧ definition.Aged instant record present

end

variable {store : MemStore F} {now instant : Time} {listed : List Device}
variable {record : StateRecord} {attempt : Attempt F} {sample : Observation F}

theorem failing_of_mem
    (sound : store.Sound)
    (agreeing : processor.Agreeing definition)
    (member : sample ∈ processor.sweepSamples now listed store) :
    Failing definition (Time.truncate now processor.sweepInterval) sample := by
  obtain ⟨watched, other, -, overdue, rfl⟩ :=
    (mem_sweepSamples sound processor now listed sample).mp member
  refine ⟨rfl, ?_, fun metric => ?_⟩
  · simp [Definition.synthetic]
  · rw [← agreeing other overdue.known overdue.stale metric]
    rfl

section

variable (sole : processor.SoleKey definition key) (boolean : definition.goodWhen.isSome = true)
  (sound : store.Sound) (faithful : attempt.MetadataOnly) (marks : attempt.KeepsMark)
  (failing : Failing definition instant sample)
include sole boolean sound faithful marks failing

theorem process_ages
    (found : store.states.lookup key = some record) :
    Within definition key instant record (processor.process attempt sample store).2 := by
  rcases after_sole sole sound ⟨attempt, sample⟩ with
    same | ⟨enriched, device, prepares, member, own, applied, written⟩
  · exact ⟨record, same.trans found, Or.inl rfl⟩
  · obtain ⟨same, -⟩ := prepares.same faithful
    have stamp : enriched.observedAt = instant := by
      rw [same]
      exact failing.observedAt
    have value : enriched.value = .bool definition.silentValue := by
      rw [same]
      refine failing.value ?_
      rw [Definitions.metric_of_mem member, same]
    rw [found] at applied written
    obtain ⟨good, judged, verdict, kept⟩ := Definition.evaluate_applied applied
    rw [Definition.judge_silent boolean _ value] at verdict
    obtain ⟨rfl, -⟩ := Prod.mk.inj (Option.some.inj verdict)
    have newer := Definition.evaluate_newer applied
    rw [stamp] at newer
    exact ⟨_, written, Or.inr ⟨newer, enriched, stamp, (prepares.mark marks).trans failing.marked,
      kept⟩⟩

theorem Beyond.process
    (beyond : Beyond definition key instant record store) :
    Beyond definition key instant record (processor.process attempt sample store).2 := by
  obtain ⟨present, found, aged⟩ := beyond
  obtain ⟨next, written, rfl | ⟨newer, -⟩⟩ :=
    process_ages sole boolean sound faithful marks failing found
  · exact ⟨next, written, aged⟩
  · obtain ⟨-, earlier, rfl, -, applied⟩ := aged
    rw [applied.lastObservedAt] at newer
    exact absurd newer (lt_irrefl _)

theorem Within.process
    (within : Within definition key instant record store) :
    Within definition key instant record (processor.process attempt sample store).2 := by
  obtain ⟨present, found, rfl | aged⟩ := within
  · exact process_ages sole boolean sound faithful marks failing found
  · obtain ⟨next, written, aged⟩ : Beyond definition key instant record _ :=
      Beyond.process sole boolean sound faithful marks failing ⟨present, found, aged⟩
    exact ⟨next, written, Or.inr aged⟩

end

/-- The entity's own synthetic sample ages it, unless another sample of the sweep
did. -/
theorem own_sample_ages
    (sole : processor.SoleKey definition key)
    (boolean : definition.goodWhen.isSome = true)
    (reached : Reached store)
    (faithful : attempt.MetadataOnly)
    (marks : attempt.KeepsMark)
    (agreeing : Failing definition (Time.truncate now processor.sweepInterval)
      (definition.synthetic now processor.sweepInterval record))
    (own : processor.Own definition key record)
    (newer : record.lastObservedAt < Time.truncate now processor.sweepInterval)
    (fresh : store.observation.lookup
      (definition.synthetic now processor.sweepInterval record).observationID = none)
    (within : Within definition key (Time.truncate now processor.sweepInterval) record store)
    {outcome : Outcome}
    (succeeded : (processor.process attempt
      (definition.synthetic now processor.sweepInterval record) store).1 = .ok outcome) :
    Beyond definition key (Time.truncate now processor.sweepInterval) record
      (processor.process attempt
        (definition.synthetic now processor.sweepInterval record) store).2 := by
  obtain ⟨device, registered, enabled, member⟩ := own.device
  obtain ⟨present, found, rfl | aged⟩ := within
  · obtain ⟨next, written, rfl | aged⟩ :=
      process_ages sole boolean reached.sound faithful marks agreeing found
    · exfalso
      obtain ⟨enriched, prepares, same, advances⟩ :=
        advances_of_fresh registered enabled faithful fresh succeeded
      have applied : (definition.evaluate (some next) enriched).ignored = .notIgnored := by
        refine Definition.evaluate_news (fun seen => ?_) ?_ ?_
        · have recalled := reached.recalls found
          rw [seen, prepares.same_id, fresh] at recalled
          cases recalled
        · rw [same]
          exact newer
        · rw [Definition.judge_silent boolean _ (by rw [same]; exact agreeing.value rfl)]
          rfl
      have final := advances.sole sole reached.sound (by rw [same]; exact member)
        (by rw [same]; exact own.keyFor) (by rw [found]; exact applied)
      rw [found, written] at final
      obtain ⟨_, _, -, kept⟩ := Definition.evaluate_applied applied
      have stamped := kept.lastObservedAt
      rw [← Option.some.inj final, same] at stamped
      exact absurd newer (not_lt.mpr (le_of_eq stamped.symm))
    · exact ⟨next, written, aged⟩
  · exact Beyond.process sole boolean reached.sound faithful marks agreeing ⟨present, found, aged⟩

/-- A call of `Sweep`. -/
structure Sweeping (F : Type) where
  now : Time
  devices : List Device
  attempts : ℕ → Attempt F

namespace Sweeping

/-- The call as a step of a run, when the state records can be listed. -/
def step (sweep : Sweeping F) : Step F :=
  .sweep sweep.now sweep.devices none sweep.attempts

/-- The stamp of the call's bucket. -/
def bucket (sweep : Sweeping F) (processor : Processor F) : Time :=
  Time.truncate sweep.now processor.sweepInterval

/-- The hooks of the call change metadata only, and not the mark. -/
def Faithful (sweep : Sweeping F) : Prop :=
  ∀ position, (sweep.attempts position).MetadataOnly ∧ (sweep.attempts position).KeepsMark

/-- The call returns no error. -/
def Succeeds (sweep : Sweeping F) (processor : Processor F) (store : MemStore F) : Prop :=
  (processor.sweep sweep.now sweep.devices none sweep.attempts store).1.2 = none

instance (sweep : Sweeping F) (processor : Processor F) (store : MemStore F) :
    Decidable (sweep.Succeeds processor store) :=
  decidable_of_iff _ Option.isNone_iff_eq_none

end Sweeping

/-- The id of the synthetic observations of a key in a bucket. -/
def staleID (key : String) (bucket : Time) : String :=
  stableID ["stale", key, toString (Time.unix bucket)]

theorem staleID_injective
    (injective : Function.Injective (stableID : List String → String))
    {first second : String}
    {early late : Time}
    (same : staleID first early = staleID second late) :
    first = second ∧ Time.unix early = Time.unix late := by
  have parts := injective same
  simp only [List.cons.injEq, true_and, and_true] at parts
  exact ⟨parts.1, Int.repr_inj.mp parts.2⟩

variable {sweep : Sweeping F}

theorem sweep_within
    (sole : processor.SoleKey definition key)
    (boolean : definition.goodWhen.isSome = true)
    (agreeing : processor.Agreeing definition)
    (sound : store.Sound)
    (faithful : sweep.Faithful)
    (found : store.states.lookup key = some record) :
    Within definition key (sweep.bucket processor) record (sweep.step.apply processor store) := by
  have kept := sweepLoop_preserves (fun after => after.Sound ∧
    Within definition key (sweep.bucket processor) record after) sweep.attempts
    (processor.sweepSamples sweep.now sweep.devices store)
    (fun position sample member before ⟨soundBefore, within⟩ =>
      ⟨processor.process_sound _ _ soundBefore,
        within.process sole boolean soundBefore (faithful position).1 (faithful position).2
          (failing_of_mem sound agreeing member)⟩)
    0 ⟨sound, record, found, Or.inl rfl⟩
  exact kept.2

section

variable (injective : Function.Injective (stableID : List String → String))
include injective

theorem sweep_unstored
    (sound : store.Sound)
    {bucket : Time}
    (other : Time.unix bucket ≠ Time.unix (sweep.bucket processor))
    (unstored : store.observation.lookup (staleID key bucket) = none) :
    (sweep.step.apply processor store).observation.lookup (staleID key bucket) = none := by
  refine sweepLoop_preserves (fun after => after.observation.lookup (staleID key bucket) = none)
    sweep.attempts (processor.sweepSamples sweep.now sweep.devices store)
    (fun position sample member before none => ?_) 0 unstored
  obtain ⟨watched, tracked, -, -, rfl⟩ :=
    (mem_sweepSamples sound processor sweep.now sweep.devices sample).mp member
  refine Eq.trans (processor.after_observation ⟨sweep.attempts position, _⟩ ?_) none
  exact fun same => other (staleID_injective injective same).2

theorem sweepSamples_unique
    (sound : store.Sound)
    (found : store.states.lookup key = some record)
    (overdue : processor.Overdue now definition record)
    (member : sample ∈ processor.sweepSamples now listed store)
    (same : sample.observationID = staleID key (Time.truncate now processor.sweepInterval)) :
    sample = definition.synthetic now processor.sweepInterval record := by
  obtain ⟨watched, tracked, looked, due, rfl⟩ :=
    (mem_sweepSamples sound processor _ _ _).mp member
  have sameKey : watched.key = key := (staleID_injective injective same).1
  have sameRecord : watched = record := by
    rcases looked with ⟨stored, lookup⟩ | ⟨device, -, expecting, -, -, -, -, missing, rfl⟩
    · rw [sound.keyed stored watched lookup] at sameKey
      rw [sameKey, found] at lookup
      exact (Option.some.inj lookup).symm
    · change expecting.keyFor device.id ∅ = key at sameKey
      rw [sameKey, found] at missing
      cases missing
  subst sameRecord
  rw [Definitions.eq_of_id due.known overdue.known (due.tracked.trans overdue.tracked.symm)]

theorem sweep_ages
    (sole : processor.SoleKey definition key)
    (known : definition ∈ processor.states.all)
    (stale : definition.stale = true)
    (boolean : definition.goodWhen.isSome = true)
    (agreeing : processor.Agreeing definition)
    (reached : Reached store)
    (faithful : sweep.Faithful)
    (found : store.states.lookup key = some record)
    (own : processor.Own definition key record)
    (notDown : record.state ≠ .down)
    (silent : processor.staleAfter ≤ Time.sub sweep.now record.lastSeenAt)
    (newer : record.lastObservedAt < sweep.bucket processor)
    (fresh : store.observation.lookup (staleID key (sweep.bucket processor)) = none)
    (succeeds : sweep.Succeeds processor store) :
    Beyond definition key (sweep.bucket processor) record (sweep.step.apply processor store) := by
  have sound := reached.sound
  have keyEq := sound.keyed key record found
  let sample := definition.synthetic sweep.now processor.sweepInterval record
  have ownID : sample.observationID = staleID key (sweep.bucket processor) := by
    rw [← keyEq]
    rfl
  have overdue : processor.Overdue sweep.now definition record :=
    ⟨known, own.definitionID.symm, stale, notDown, silent⟩
  have member : sample ∈ processor.sweepSamples sweep.now sweep.devices store :=
    (mem_sweepSamples sound processor _ _ _).mpr
      ⟨record, definition, Or.inl ⟨key, found⟩, overdue, rfl⟩
  have failing : ∀ other ∈ processor.sweepSamples sweep.now sweep.devices store,
      Failing definition (sweep.bucket processor) other :=
    fun other listed => failing_of_mem sound agreeing listed
  have unique : ∀ other ∈ processor.sweepSamples sweep.now sweep.devices store,
      other.observationID = sample.observationID → other = sample :=
    fun other listed same => sweepSamples_unique injective sound found overdue listed
      (same.trans ownID)
  obtain ⟨earlier, later, listed, notEarlier⟩ := List.eq_append_cons_of_mem member
  let started : MemStore F → Prop := fun after => Reached after ∧
    Within definition key (sweep.bucket processor) record after ∧
    after.observation.lookup sample.observationID = none
  let finished : MemStore F → Prop := fun after => Reached after ∧
    Beyond definition key (sweep.bucket processor) record after
  suffices reaches : finished (sweep.step.apply processor store) from reaches.2
  unfold Sweeping.Succeeds at succeeds
  simp only [Sweeping.step, Step.apply, Processor.sweep] at succeeds ⊢
  rw [listed] at succeeds failing unique ⊢
  refine sweepLoop_reaches started finished sweep.attempts earlier sample later ?_ ?_ ?_ 0
    succeeds ⟨reached, ⟨record, found, Or.inl rfl⟩, ownID ▸ fresh⟩
  · rintro position other member before ⟨reachedBefore, within, unstored⟩
    have amongAll := List.mem_append_left (sample :: later) member
    refine ⟨.step processor (.process _ _) reachedBefore,
      within.process sole boolean reachedBefore.sound (faithful position).1 (faithful position).2
        (failing other amongAll), ?_⟩
    refine Eq.trans (processor.after_observation ⟨sweep.attempts position, other⟩ ?_)
      unstored
    intro same
    rw [unique other amongAll same.symm] at member
    exact notEarlier member
  · rintro position before outcome ⟨reachedBefore, within, unstored⟩ succeeded
    exact ⟨.step processor (.process _ _) reachedBefore,
      own_sample_ages sole boolean reachedBefore (faithful position).1 (faithful position).2
        (failing sample (by simp)) own newer unstored within succeeded⟩
  · rintro position other member before ⟨reachedBefore, beyond⟩
    exact ⟨.step processor (.process _ _) reachedBefore,
      beyond.process sole boolean reachedBefore.sound (faithful position).1
        (faithful position).2 (failing other (by simp [member]))⟩

end

/-! ## Many sweeps -/

/-- Every call of the sequence returns no error. -/
def AllSucceed (processor : Processor F) : List (Sweeping F) → MemStore F → Prop
  | [], _ => True
  | sweep :: rest, store =>
      sweep.Succeeds processor store ∧
        processor.AllSucceed rest (sweep.step.apply processor store)

instance AllSucceed.decidable (processor : Processor F) :
    (sweeps : List (Sweeping F)) → (store : MemStore F) →
      Decidable (processor.AllSucceed sweeps store)
  | [], _ => isTrue trivial
  | _ :: rest, _ => @instDecidableAnd _ _ inferInstance (AllSucceed.decidable processor rest _)

/-- The store after a sequence of sweeps. -/
def runSweeps (processor : Processor F) (sweeps : List (Sweeping F)) (store : MemStore F) :
    MemStore F :=
  processor.runSteps (sweeps.map Sweeping.step) store

theorem sweeps_keep_down
    (sole : processor.SoleKey definition key)
    (boolean : definition.goodWhen.isSome = true)
    (agreeing : processor.Agreeing definition)
    (sweeps : List (Sweeping F))
    (faithful : ∀ sweep ∈ sweeps, sweep.Faithful)
    (reached : Reached store)
    (found : store.states.lookup key = some record)
    (down : record.state = .down) :
    ∃ last, (processor.runSweeps sweeps store).states.lookup key = some last ∧
      last.state = .down := by
  induction sweeps generalizing store record with
  | nil => exact ⟨record, found, down⟩
  | cons sweep rest ih =>
      rw [List.forall_mem_cons] at faithful
      obtain ⟨present, written, same | ⟨-, sample, -, -, applied⟩⟩ :=
        sweep_within sole boolean agreeing reached.sound faithful.1 found
      · exact ih faithful.2 (.step processor _ reached) written (same ▸ down)
      · refine ih faithful.2 (.step processor _ reached) written ?_
        obtain ⟨-, -, state⟩ := applied.failed rfl
        rw [state, if_pos (Or.inl (by rw [down]; rfl))]

/-- How far the failures of an entity have come when it was swept in some
buckets. -/
def Progressed
    (definition : Definition F)
    (buckets : Finset Time)
    (record : StateRecord) : Prop :=
  record.state = .down ∨ buckets = ∅ ∨
    buckets.card ≤ record.failures ∧ record.failures < definition.failAfter

/-- One more bucket is one more failure, and enough failures are DOWN. -/
theorem Progressed.aged
    (noDelay : definition.failFor = .zero)
    (own : processor.Own definition key record)
    (notDown : record.state ≠ .down)
    {buckets : Finset Time}
    (progressed : Progressed definition buckets record)
    {present : StateRecord}
    (aged : definition.Aged instant record present) :
    Progressed definition (insert instant buckets) present := by
  obtain ⟨newer, sample, rfl, -, applied⟩ := aged
  obtain ⟨more, since, state⟩ := applied.failed rfl
  split at state
  · exact Or.inl state
  · next few =>
      have counted : buckets.card ≤ record.failures := by
        rcases progressed with down | none | ⟨counted, -⟩
        · exact absurd down notDown
        · rw [none]
          exact Nat.zero_le _
        · exact counted
      have begun : present.badSince ≤ sample.observedAt := by
        rw [since]
        split
        · exact le_refl _
        · next earlier => exact (own.badSince (Nat.pos_of_ne_zero earlier)).trans newer.le
      have lasted : definition.failFor ≤ Time.sub sample.observedAt present.badSince := by
        rw [noDelay, Time.le_sub_iff (by decide)]
        exact sub_nonneg.mpr begun
      refine Or.inr (Or.inr ⟨?_, ?_⟩)
      · have grown := Finset.card_insert_le sample.observedAt buckets
        omega
      · by_contra enough
        exact few (Or.inr ⟨not_lt.mp enough, lasted⟩)

theorem sweeps_progress
    (injective : Function.Injective (stableID : List String → String))
    (sole : processor.SoleKey definition key)
    (known : definition ∈ processor.states.all)
    (stale : definition.stale = true)
    (boolean : definition.goodWhen.isSome = true)
    (agreeing : processor.Agreeing definition)
    (noDelay : definition.failFor = .zero)
    (seconds : 1000000000 ≤ processor.sweepInterval.ns)
    (sweeps : List (Sweeping F))
    (faithful : ∀ sweep ∈ sweeps, sweep.Faithful)
    (ordered : sweeps.Pairwise fun first second => first.bucket processor ≤ second.bucket processor)
    (reached : Reached store)
    (succeed : processor.AllSucceed sweeps store)
    (found : store.states.lookup key = some record)
    (own : processor.Own definition key record)
    (silent : ∀ sweep ∈ sweeps, processor.staleAfter ≤ Time.sub sweep.now record.lastSeenAt)
    (buckets : Finset Time)
    (past : ∀ bucket ∈ buckets, bucket ≤ record.lastObservedAt)
    (ahead : ∀ sweep ∈ sweeps, record.lastObservedAt < sweep.bucket processor ∨
      record.lastObservedAt = sweep.bucket processor ∧ sweep.bucket processor ∈ buckets)
    (unswept : ∀ sweep ∈ sweeps, sweep.bucket processor ∉ buckets →
      store.observation.lookup (staleID key (sweep.bucket processor)) = none)
    (progressed : Progressed definition buckets record) :
    ∃ last, (processor.runSweeps sweeps store).states.lookup key = some last ∧
      Progressed definition
        (buckets ∪ (sweeps.map fun sweep => sweep.bucket processor).toFinset) last := by
  induction sweeps generalizing store record buckets with
  | nil => exact ⟨record, found, by simpa using progressed⟩
  | cons sweep rest ih =>
      have faithfulAll := faithful
      rw [List.forall_mem_cons] at faithful silent ahead unswept
      rw [List.pairwise_cons] at ordered
      have reachedAfter : Reached (sweep.step.apply processor store) := .step processor _ reached
      have stillUnswept : ∀ later ∈ rest, later.bucket processor ∉ buckets →
          later.bucket processor ≠ sweep.bucket processor →
          (sweep.step.apply processor store).observation.lookup
            (staleID key (later.bucket processor)) = none := by
        intro later member missing other
        refine sweep_unstored injective reached.sound (fun same => other ?_)
          (unswept.2 later member missing)
        exact Time.unix_truncate_injective seconds same
      rcases ahead.1 with newer | ⟨same, swept⟩
      · by_cases down : record.state = .down
        · obtain ⟨last, final, still⟩ := sweeps_keep_down sole boolean agreeing (sweep :: rest)
            faithfulAll reached found down
          exact ⟨last, final, Or.inl still⟩
        · have missing : sweep.bucket processor ∉ buckets :=
            fun member => absurd newer (not_lt.mpr (past _ member))
          obtain ⟨present, written, aged⟩ := sweep_ages injective sole known stale boolean
            agreeing reached faithful.1 found own down silent.1 newer (unswept.1 missing)
            succeed.1
          have grown := progressed.aged noDelay own down aged
          obtain ⟨-, sample, stamp, mark, applied⟩ := aged
          have seen : present.lastSeenAt = record.lastSeenAt := by
            rw [applied.lastSeenAt, if_pos mark]
          have stamped : present.lastObservedAt = sweep.bucket processor :=
            applied.lastObservedAt.trans stamp
          obtain ⟨last, final, progress⟩ := ih faithful.2 ordered.2 reachedAfter
            succeed.2 written (own.applied applied fun _ => stamp ▸ newer)
            (by rw [seen]; exact silent.2) (insert (sweep.bucket processor) buckets)
            (by
              rw [stamped, Finset.forall_mem_insert]
              exact ⟨le_refl _, fun bucket member => (past bucket member).trans newer.le⟩)
            (by
              intro later member
              rw [stamped]
              rcases (ordered.1 later member).lt_or_eq with less | equal
              · exact Or.inl less
              · exact Or.inr ⟨equal, equal ▸ Finset.mem_insert_self _ _⟩)
            (by
              intro later member absent
              rw [Finset.mem_insert, not_or] at absent
              exact stillUnswept later member absent.2 absent.1)
            grown
          refine ⟨last, final, ?_⟩
          rw [List.map_cons, List.toFinset_cons, Finset.union_insert, ← Finset.insert_union]
          exact progress
      · obtain ⟨present, written, rfl | ⟨newer, -⟩⟩ :=
          sweep_within sole boolean agreeing reached.sound faithful.1 found
        · obtain ⟨last, final, progress⟩ := ih faithful.2 ordered.2 reachedAfter
            succeed.2 written own silent.2 buckets past ahead.2
            (fun later member absent => stillUnswept later member absent
              fun equal => absent (equal ▸ swept)) progressed
          refine ⟨last, final, ?_⟩
          rw [List.map_cons, List.toFinset_cons, Finset.union_insert, ← Finset.insert_union,
            Finset.insert_eq_of_mem swept]
          exact progress
        · rw [same] at newer
          exact absurd newer (lt_irrefl _)

/-- Prolonged silence brings an entity down. After successful sweeps in as many
buckets as the definition asks for failures, the entity is DOWN and exactly one
alert fires for its key, whatever run led to its record. -/
theorem silence_brings_down
    (injective : Function.Injective (stableID : List String → String))
    (processor : Processor F)
    (separate : processor.SeparateKeys)
    (devices : StringMap Device)
    (run : List (Step F))
    (faithful : ∀ next ∈ run, next.MetadataOnly)
    (definition : Definition F)
    (known : definition ∈ processor.states.all)
    (stale : definition.stale = true)
    (noDelay : definition.failFor = .zero)
    (boolean : definition.goodWhen.isSome = true)
    (agreeing : processor.Agreeing definition)
    (key : String)
    (sole : processor.SoleKey definition key)
    (record : StateRecord)
    (found : (processor.runSteps run { (MemStore.new : MemStore F) with devices }).states.lookup
      key = some record)
    (sweeps : List (Sweeping F))
    (hooks : ∀ sweep ∈ sweeps, sweep.Faithful)
    (seconds : 1000000000 ≤ processor.sweepInterval.ns)
    (ordered : sweeps.Pairwise fun first second => first.bucket processor ≤ second.bucket processor)
    (buckets : definition.failAfter ≤
      (sweeps.map fun sweep => sweep.bucket processor).toFinset.card)
    (silent : ∀ sweep ∈ sweeps, processor.staleAfter ≤ Time.sub sweep.now record.lastSeenAt)
    (later : ∀ sweep ∈ sweeps, record.lastObservedAt < sweep.bucket processor)
    (unswept : ∀ sweep ∈ sweeps,
      (processor.runSteps run { (MemStore.new : MemStore F) with devices }).observation.lookup
        (staleID key (sweep.bucket processor)) = none)
    (succeed : processor.AllSucceed sweeps
      (processor.runSteps run { (MemStore.new : MemStore F) with devices }))
    (clear : processor.ClearSteps (run ++ sweeps.map Sweeping.step)
      { (MemStore.new : MemStore F) with devices }) :
    let final := processor.runSweeps sweeps
      (processor.runSteps run { (MemStore.new : MemStore F) with devices })
    (∃ last, final.states.lookup key = some last ∧ last.state = .down) ∧
      (final.alerts.filter (Alert.fires key)).length = 1 := by
  intro final
  have down : ∃ last, final.states.lookup key = some last ∧ last.state = .down := by
    obtain ⟨last, reached, progressed⟩ := sweeps_progress injective sole known stale boolean
      agreeing noDelay seconds sweeps hooks ordered ((Reached.start devices).runSteps processor run)
      succeed found (own_of_run sole devices run faithful found) silent ∅ (by simp)
      (fun sweep member => Or.inl (later sweep member))
      (fun sweep member _ => unswept sweep member) (Or.inr (Or.inl rfl))
    refine ⟨last, reached, ?_⟩
    rw [Finset.empty_union] at progressed
    have positive := (processor.states.valid definition known).bounds.1
    rcases progressed with down | none | ⟨few, more⟩
    · exact down
    · rw [none, Finset.card_empty] at buckets
      push_cast at buckets
      omega
    · omega
  refine ⟨down, ?_⟩
  have whole : final = processor.runSteps (run ++ sweeps.map Sweeping.step)
      { (MemStore.new : MemStore F) with devices } := by
    simp only [final, runSweeps, runSteps, List.foldl_append]
  have consistent : processor.Consistent final := by
    obtain ⟨notified, books⟩ := (ClearRun.start.steps _ clear).books injective separate
    rw [whole]
    exact Consistent.of_books separate books
  obtain ⟨last, lookup, state⟩ := down
  obtain ⟨alert, member, fires⟩ := (consistent.firing_iff key).mpr ⟨last, lookup, Or.inl state⟩
  have once := consistent.firingOnce key
  have some : 0 < (final.alerts.filter (Alert.fires key)).length :=
    List.length_pos_of_mem (List.mem_filter.mpr ⟨member, fires⟩)
  omega

end Processor

end InfraObserver

namespace InfraObserver.Processor

attribute [local instance] Platform.plain GoFloat.integer

/-- A processor with one definition. -/
def singleProcessor
    (definition : Definition ℤ)
    (valid : definition.Valid) : Processor ℤ :=
  { plainProcessor with
    states :=
      { all := [definition]
        valid := by
          intro other member
          rw [List.mem_singleton.mp member]
          exact valid
        distinct := List.nodup_singleton _ } }

/-- Reachability without a delay: two failures are an outage. -/
def outageDefinition : Definition ℤ :=
  { Definition.reachability with failFor := .zero }

/-- The processor that tracks it. -/
def outageProcessor : Processor ℤ :=
  singleProcessor outageDefinition ((Definition.valid_iff_problems _).mpr (by decide +kernel))

/-- A sweep of a processor without hooks. -/
def plainSweep (now : Time) : Sweeping ℤ :=
  ⟨now, [], fun _ => Attempt.plain ℤ⟩

/-- Two buckets of silence bring a switch down that answered once. -/
theorem two_buckets_bring_down :
    let store := outageProcessor.runSteps
      [.process (Attempt.plain ℤ) (Definition.reachabilitySample "o1" 1 true)] .new
    let final := outageProcessor.runSweeps
      [plainSweep 7200000000000, plainSweep 7260000000000] store
    (store.states.lookup "reachability/sw-1/").map StateRecord.state = some .up ∧
      (∃ last, final.states.lookup "reachability/sw-1/" = some last ∧ last.state = .down) ∧
      (final.alerts.filter (Alert.fires "reachability/sw-1/")).length = 1 := by
  intro store final
  refine ⟨by decide +kernel, ?_⟩
  have only : ∀ definition ∈ outageProcessor.states.all, definition = outageDefinition :=
    fun definition member => List.mem_singleton.mp member
  refine silence_brings_down plainDigest_injective outageProcessor ?_ ∅ _ ?_ outageDefinition
    (List.mem_singleton.mpr rfl) rfl rfl rfl ?_ "reachability/sw-1/" ?_
    ((store.states.lookup "reachability/sw-1/").getD .zero) (by decide +kernel) _ ?_
    (by decide +kernel) (by decide +kernel) (by decide +kernel) (by decide +kernel)
    (by decide +kernel) (by decide +kernel) (by decide +kernel) ?_
  · intro definition _ rule member
    cases member
  · simp [Step.MetadataOnly, Attempt.plain_metadataOnly]
  · intro other member _ _
    rw [only other member]
  · rintro (definition | rule) tracked _ _ _
    · rw [only definition tracked]
    · cases tracked
  · simp [plainSweep, Sweeping.Faithful, Attempt.plain_metadataOnly, Attempt.plain_keepsMark]
  · refine clearSteps_of_ids (fun definition _ rule member => ?_) _ _
    cases member

/-! ## Thresholds -/

/-- A stale definition with a threshold. -/
def loadDefinition : Definition ℤ :=
  { outageDefinition with
    goodWhen := none
    threshold := some
      { breachAbove := some 90, clearBelow := some 80, breachBelow := none, clearAbove := none } }

/-- The processor that tracks it. -/
def loadProcessor : Processor ℤ :=
  singleProcessor loadDefinition ((Definition.valid_iff_problems _).mpr (by decide +kernel))

/-- A definition with a threshold takes synthetic samples for samples of the wrong
type: the entity stays UP, though every sweep succeeds and processes one. -/
theorem threshold_ignores_silence :
    let store := loadProcessor.runCalls
      [⟨Attempt.plain ℤ,
        { Definition.reachabilitySample "o1" 1 true with value := .float64 50 }⟩] .new
    let sweeps := [plainSweep 7200000000000, plainSweep 7260000000000, plainSweep 7320000000000]
    let final := loadProcessor.runSweeps sweeps store
    loadProcessor.AllSucceed sweeps store ∧ loadDefinition.failAfter = 2 ∧
      final.observation.keys.card = 4 ∧
      (store.states.lookup "reachability/sw-1/").map StateRecord.state = some .up ∧
      (final.states.lookup "reachability/sw-1/").map StateRecord.state = some .up ∧
      final.alerts = [] := by
  decide +kernel

end InfraObserver.Processor
