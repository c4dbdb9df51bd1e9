import InfraObserver.Pipeline.Devices
import InfraObserver.Pipeline.Sweep

/-!
# Rebuilding the store while the sweeper runs

A processor that catches up on a retained stream sees old observations while its
clock is ahead. A sweep in between feeds synthetic samples with present instants
to the entities that look silent, and the observations that follow them are then
taken for late ones. The events of the log are those of a run without sweeps as
long as no entity looks silent that the log still has observations for.
-/

namespace InfraObserver

variable {F : Type} [GoFloat F] [Platform]

namespace Processor

/-! ## Runs with sweeps -/

/-- The calls of `Process` in a run. -/
def logOf (run : List (Step F)) : List (Call F) :=
  run.filterMap fun
    | .process attempt sample => some ⟨attempt, sample⟩
    | .sweep .. => none

variable (processor : Processor F)

/-- Distinct trackers, or the same for different registered devices, have distinct
keys. -/
def KeysApart : Prop :=
  ∀ first second, processor.Tracks first → processor.Tracks second →
    ∀ deviceID deviceID', (processor.inventory.lookup deviceID).isSome = true →
      (processor.inventory.lookup deviceID').isSome = true →
        ∀ labels labels', first.keyFor deviceID labels = second.keyFor deviceID' labels' →
          first = second ∧ deviceID = deviceID'

/-- To a sweep an entity of the device looks silent that a stale definition of the
metric tracks. -/
def Silent
    (now : Time)
    (devices : List Device)
    (store : MemStore F)
    (deviceID metric : String) : Prop :=
  ∃ record definition, processor.Watched devices store record ∧
    processor.Overdue now definition record ∧
    record.deviceID = deviceID ∧ definition.metric = metric

theorem silent_iff
    {store : MemStore F}
    (sound : store.Sound)
    (processor : Processor F)
    (now : Time)
    (devices : List Device)
    (deviceID metric : String) :
    processor.Silent now devices store deviceID metric ↔
      ∃ sample ∈ processor.sweepSamples now devices store,
        sample.deviceID = deviceID ∧ sample.metric = metric := by
  constructor
  · rintro ⟨record, definition, watched, overdue, device, metric⟩
    exact ⟨_, (mem_sweepSamples sound processor now devices _).mpr
      ⟨record, definition, watched, overdue, rfl⟩, device, metric⟩
  · rintro ⟨sample, made, device, metric⟩
    obtain ⟨record, definition, watched, overdue, rfl⟩ :=
      (mem_sweepSamples sound processor now devices sample).mp made
    exact ⟨record, definition, watched, overdue, device, metric⟩

/-- At every sweep of the run, no entity looks silent of a device and metric for
which there are observations to come. -/
def Heard (processor : Processor F) : List (Step F) → MemStore F → Prop
  | [], _ => True
  | .process attempt sample :: rest, store =>
      processor.Heard rest (processor.process attempt sample store).2
  | .sweep now devices listing attempts :: rest, store =>
      (∀ call ∈ logOf rest,
        ¬processor.Silent now devices store call.sample.deviceID call.sample.metric) ∧
      processor.Heard rest (processor.sweep now devices listing attempts store).2

/-! ## The parts of the store that the log depends on -/

/-- The ids of events caused by some observations. -/
def EventFrom (ids : String → Prop) (id : String) : Prop :=
  ∃ deviceID source labels type observationID, ids observationID ∧
    id = stableID ["evt", deviceID, source, labels, type, observationID]

/-- The observations of the log and the events that they cause. -/
def logScope (ids : String → Prop) : Scope F where
  keys _ := False
  rows _ := false
  ids := ids
  events := EventFrom ids
  transitions _ := False
  devices _ := False
  messages _ := false

/-- The series of a device and a metric, and the records they drive. -/
def seriesScope (deviceID metric : String) : Scope F where
  keys key := (processor.inventory.lookup deviceID).isSome = true ∧
    ∃ tracker labels, processor.Tracks tracker ∧ tracker.metric = metric ∧
      key = tracker.keyFor deviceID labels
  rows row := row.deviceID = deviceID && row.metric = metric
  ids _ := False
  events _ := False
  transitions _ := False
  devices _ := False
  messages _ := false

/-- Both together: what a call for an observation of the log reads. -/
def callScope (ids : String → Prop) (deviceID metric : String) :
    Scope F :=
  { processor.seriesScope deviceID metric with ids, events := EventFrom ids }

variable {processor} {ids : String → Prop} {deviceID metric : String}
variable {left right : MemStore F}

theorem agree_callScope_iff :
    Agree (processor.callScope ids deviceID metric) left right ↔
      Agree (logScope ids) left right ∧
        Agree (processor.seriesScope deviceID metric) left right := by
  constructor
  · intro agree
    exact ⟨{ agree with
        states := fun _ impossible => impossible.elim
        alerts := fun _ impossible => impossible.elim
        rows := by simp [logScope] },
      { agree with
        observation := fun _ impossible => impossible.elim
        events := fun _ impossible => impossible.elim }⟩
  · rintro ⟨log, series⟩
    exact { series with observation := log.observation, events := log.events }

variable {attempt : Attempt F} {enriched sample : Observation F} {device : Device}

theorem callScope_holds
    (faithful : attempt.MetadataOnly)
    (logged : ids sample.observationID)
    (prepares : processor.Prepares attempt sample enriched device) :
    (processor.callScope ids sample.deviceID sample.metric).Holds
      (processor.Uses enriched device) enriched := by
  obtain ⟨same, found, -⟩ := prepares.same faithful
  rw [same]
  refine ⟨fun key used => ?_, logged, fun row device metric _ => ?_, ?_⟩
  · obtain ⟨tracker, known, follows, keyEq⟩ := used.tracker
    exact ⟨by simp [found], tracker, _, known, follows, keyEq⟩
  · simpa [callScope, seriesScope] using ⟨device, metric⟩
  · rintro event ⟨-, -, source, labels, digest⟩
    exact ⟨_, source, labels, _, _, logged, digest⟩

theorem logScope_misses
    (injective : Function.Injective (stableID : List String → String))
    (faithful : attempt.MetadataOnly)
    (unlogged : ¬ids sample.observationID)
    (prepares : processor.Prepares attempt sample enriched device) :
    (logScope ids).Misses (processor.Uses enriched device) enriched := by
  obtain ⟨same, -⟩ := prepares.same faithful
  rw [same]
  refine ⟨fun _ _ => id, unlogged, rfl, ?_, fun _ _ => id, id, fun _ _ _ _ => rfl⟩
  rintro event ⟨-, -, source, labels, digest⟩ ⟨deviceID, source', labels', type, id, logged, named⟩
  have parts := injective (digest.symm.trans named)
  simp only [List.cons.injEq, true_and, and_true] at parts
  exact unlogged (parts.2.2.2.2 ▸ logged)

theorem seriesScope_misses
    (apart : processor.KeysApart)
    (faithful : attempt.MetadataOnly)
    (other : ¬(sample.deviceID = deviceID ∧ sample.metric = metric))
    (prepares : processor.Prepares attempt sample enriched device) :
    (processor.seriesScope deviceID metric).Misses (processor.Uses enriched device) enriched := by
  obtain ⟨same, found, -⟩ := prepares.same faithful
  rw [same]
  refine ⟨?_, id, ?_, fun _ _ => id, fun _ _ => id, id, fun _ _ _ _ => rfl⟩
  · rintro key used ⟨registered, tracker, labels, known, follows, keyEq⟩
    obtain ⟨first, firstKnown, firstFollows, firstKey⟩ := used.tracker
    obtain ⟨rfl, sameDevice⟩ := apart first tracker firstKnown known _ _ (by simp [found])
      registered _ _ (firstKey.symm.trans keyEq)
    exact other ⟨sameDevice, firstFollows.symm.trans follows⟩
  · rw [← Bool.not_eq_true]
    simpa [seriesScope] using other

/-! ## The two runs side by side -/

/-- What holds between a run with sweeps and the run of its log, when `rest` is
still to be processed. -/
structure Alongside
    (processor : Processor F)
    (ids : String → Prop)
    (rest : List (Call F))
    (left right : MemStore F) : Prop where
  soundLeft : left.Sound
  soundRight : right.Sound
  log : Agree (logScope ids) left right
  series : ∀ call ∈ rest,
    Agree (processor.seriesScope call.sample.deviceID call.sample.metric) left right

theorem Alongside.process
    (apart : processor.KeysApart)
    {call : Call F}
    {rest : List (Call F)}
    (alongside : processor.Alongside ids (call :: rest) left right)
    (faithful : call.attempt.MetadataOnly)
    (logged : ids call.sample.observationID) :
    processor.Alongside ids rest (processor.after left call) (processor.after right call) := by
  obtain ⟨soundLeft, soundRight, log, series⟩ := alongside
  rw [List.forall_mem_cons] at series
  have together := agree_callScope_iff.mpr ⟨log, series.1⟩
  obtain ⟨-, after⟩ := process_agrees
    (fun enriched device => callScope_holds faithful logged) soundLeft soundRight together
  obtain ⟨logAfter, own⟩ := agree_callScope_iff.mp after
  refine ⟨processor.process_sound _ _ soundLeft, processor.process_sound _ _ soundRight,
    logAfter, fun other member => ?_⟩
  by_cases same : call.sample.deviceID = other.sample.deviceID ∧
      call.sample.metric = other.sample.metric
  · rw [← same.1, ← same.2]
    exact own
  · have spared : ∀ store : MemStore F, store.Sound →
        Agree (processor.seriesScope other.sample.deviceID other.sample.metric) store
          (processor.after store call) :=
      fun store => process_spares fun enriched device => seriesScope_misses apart faithful same
    exact ((spared left soundLeft).symm.trans (series.2 other member)).trans
      (spared right soundRight)

section

variable (injective : Function.Injective (stableID : List String → String))
  (apart : processor.KeysApart)
include injective apart

/-- A sweep to which no series of the rest looks silent keeps the runs side by
side. -/
theorem Alongside.sweep
    {rest : List (Call F)}
    (alongside : processor.Alongside ids rest left right)
    (real : ∀ key seconds, ¬ids (stableID ["stale", key, seconds]))
    (now : Time)
    (devices : List Device)
    (listing : Option Error)
    {attempts : ℕ → Attempt F}
    (faithful : ∀ position, (attempts position).MetadataOnly)
    (heard : ∀ call ∈ rest,
      ¬processor.Silent now devices left call.sample.deviceID call.sample.metric) :
    processor.Alongside ids rest (processor.sweep now devices listing attempts left).2 right := by
  cases listing with
  | some failure => exact alongside
  | none =>
      refine sweepLoop_preserves (fun store => processor.Alongside ids rest store right) attempts _
        (fun position sample made store kept => ?_) 0 alongside
      obtain ⟨soundStore, soundRight, log, series⟩ := kept
      refine ⟨processor.process_sound _ _ soundStore, soundRight, ?_, fun call member => ?_⟩
      · obtain ⟨record, definition, -, -, same⟩ :=
          (mem_sweepSamples alongside.soundLeft processor now devices sample).mp made
        have unlogged : ¬ids sample.observationID := same ▸ real _ _
        exact (process_spares (fun enriched device =>
          logScope_misses injective (faithful position) unlogged) soundStore).symm.trans log
      · have other : ¬(sample.deviceID = call.sample.deviceID ∧
            sample.metric = call.sample.metric) := fun same =>
          heard call member ((silent_iff alongside.soundLeft processor _ _ _ _).mpr
            ⟨sample, made, same⟩)
        exact (process_spares (fun enriched device =>
          seriesScope_misses apart (faithful position) other) soundStore).symm.trans
            (series call member)

theorem Alongside.run
    (real : ∀ key seconds, ¬ids (stableID ["stale", key, seconds]))
    (run : List (Step F))
    (logged : ∀ call ∈ logOf run, ids call.sample.observationID)
    (faithful : ∀ next ∈ run, next.MetadataOnly)
    (alongside : processor.Alongside ids (logOf run) left right)
    (heard : processor.Heard run left) :
    processor.Alongside ids [] (processor.runSteps run left)
      (processor.runCalls (logOf run) right) := by
  induction run generalizing left right with
  | nil => exact alongside
  | cons next rest ih =>
      rw [List.forall_mem_cons] at faithful
      cases next with
      | process attempt sample =>
          have split : logOf (.process attempt sample :: rest) = ⟨attempt, sample⟩ :: logOf rest :=
            rfl
          rw [split] at alongside logged
          rw [List.forall_mem_cons] at logged
          exact ih logged.2 faithful.2
            (alongside.process apart faithful.1 logged.1) heard
      | sweep now devices listing attempts =>
          exact ih logged faithful.2
            (alongside.sweep injective apart real now devices listing faithful.1 heard.1) heard.2

end

/-- The id of every stored event is a digest of its observation, with more. -/
def Digested (store : MemStore F) : Prop :=
  ∀ id event, store.events.lookup id = some event →
    ∃ deviceID source labels,
      id = stableID ["evt", deviceID, source, labels, event.type, event.observationID]

theorem digested_of_reached {store : MemStore F} (reached : Reached store) :
    store.Sound ∧ Digested store := by
  refine reached.invariant (fun store => store.Sound ∧ Digested store)
    (fun devices => ⟨(Reached.start devices).sound, by simp [Digested, MemStore.new]⟩) ?_
  rintro processor attempt sample store ⟨sound, digested⟩
  refine ⟨processor.process_sound attempt sample sound, fun id event found => ?_⟩
  rcases process_event sound found with old | ⟨enriched, device, -, ofSample, rfl⟩
  · exact digested id event old
  · obtain ⟨-, sameSample, source, labels, digest⟩ := ofSample
    exact ⟨_, source, labels, sameSample ▸ digest⟩

/-- Processing a log with sweeps in between yields the events of the log without
them, when no entity looks silent to a sweep that the log still has observations
for. -/
theorem rebuild_faithful
    (injective : Function.Injective (stableID : List String → String))
    (processor : Processor F)
    (apart : processor.KeysApart)
    (devices : StringMap Device)
    (run : List (Step F))
    (faithful : ∀ next ∈ run, next.MetadataOnly)
    (real : ∀ call ∈ logOf run, ∀ key seconds,
      call.sample.observationID ≠ stableID ["stale", key, seconds])
    (heard : processor.Heard run { (MemStore.new : MemStore F) with devices })
    (event : Event)
    (caused : ∃ call ∈ logOf run, call.sample.observationID = event.observationID)
    (id : String) :
    let start : MemStore F := { MemStore.new with devices }
    (processor.runSteps run start).events.lookup id = some event ↔
      (processor.runCalls (logOf run) start).events.lookup id = some event := by
  intro start
  let ids : String → Prop := fun id => ∃ call ∈ logOf run, call.sample.observationID = id
  have sound : start.Sound := (Reached.start devices).sound
  have begins : processor.Alongside ids (logOf run) start start :=
    ⟨sound, sound, .refl _ _, fun _ _ => .refl _ _⟩
  have ends := begins.run injective apart
    (fun key seconds ⟨call, member, same⟩ => real call member key seconds same) run
    (fun call member => ⟨call, member, rfl⟩) faithful heard
  have named : ∀ store : MemStore F, Digested store → store.events.lookup id = some event →
      EventFrom ids id := by
    intro store digested found
    obtain ⟨deviceID, source, labels, digest⟩ := digested id event found
    exact ⟨deviceID, source, labels, _, _, caused, digest⟩
  have left := (digested_of_reached ((Reached.start devices).runSteps processor run)).2
  have right := (digested_of_reached ((Reached.start devices).runCalls processor (logOf run))).2
  constructor
  · intro found
    rw [← ends.log.events id (named _ left found)]
    exact found
  · intro found
    rw [ends.log.events id (named _ right found)]
    exact found

end Processor

end InfraObserver

namespace InfraObserver.Processor

attribute [local instance] Platform.plain GoFloat.integer

/-- The log of a switch that does not answer twice, with a sweep in between. -/
def rebuildRun (now : Time) : List (Step ℤ) :=
  [.process (Attempt.plain ℤ) (Definition.reachabilitySample "o1" 1 false),
    .sweep now [plainSwitch] none fun _ => Attempt.plain ℤ,
    .process (Attempt.plain ℤ) (Definition.reachabilitySample "o2" 2 false)]

/-- The event that the second observation causes. -/
def rebuiltID : String :=
  stableID ["evt", "sw-1", "reachability", "", "device_down", "o2"]

/-- A sweep while the switch is still heard from changes nothing: the second
observation causes its event. -/
theorem rebuild_while_heard :
    let event := Definition.reachability.makeEvent "reachability/sw-1/"
      Definition.reachability.alert false (Definition.reachabilitySample "o2" 2 false)
    (plainProcessor.runSteps (rebuildRun 10) .new).events.lookup rebuiltID = some event := by
  intro event
  have silent : plainProcessor.sweepSamples 10 [plainSwitch]
      (plainProcessor.runSteps ((rebuildRun 10).take 1) .new) = [] := by decide +kernel
  refine (rebuild_faithful plainDigest_injective plainProcessor ?_ ∅ (rebuildRun 10) ?_ ?_ ?_
    event ⟨⟨Attempt.plain ℤ, Definition.reachabilitySample "o2" 2 false⟩, ?_, rfl⟩ rebuiltID).mpr
    (by decide +kernel)
  · intro first second known known' deviceID deviceID' registered registered' labels labels' same
    have only : ∀ tracker : Tracker ℤ, plainProcessor.Tracks tracker →
        tracker = .state Definition.reachability := by
      rintro (definition | rule) listed
      · rw [List.mem_singleton.mp listed]
      · cases listed
    have one : ∀ id, (plainProcessor.inventory.lookup id).isSome = true → id = "sw-1" := by
      intro id found
      by_contra other
      simp [plainProcessor, other] at found
    rw [only first known, only second known', one _ registered, one _ registered']
    exact ⟨rfl, rfl⟩
  · intro next member
    simp only [rebuildRun, List.mem_cons, List.not_mem_nil, or_false] at member
    rcases member with rfl | rfl | rfl <;>
      simp [Step.MetadataOnly, Attempt.MetadataOnly, Attempt.plain]
  · have first : ∀ key seconds, (plainDigest ["stale", key, seconds]).toList.head? = some 's' := by
      intro key seconds
      simp [plainDigest, marked]
    intro call member key seconds same
    have head := congrArg (fun text : String => text.toList.head?) same
    rw [show (stableID ["stale", key, seconds] : String) = plainDigest ["stale", key, seconds]
      from rfl] at head
    simp only [first] at head
    simp only [logOf, rebuildRun, List.filterMap_cons, List.filterMap_nil, List.mem_cons,
      List.not_mem_nil, or_false] at member
    rcases member with rfl | rfl <;> simp [Definition.reachabilitySample] at head
  · refine ⟨fun call _ looks => ?_, trivial⟩
    obtain ⟨sample, made, -⟩ := (silent_iff (Reached.runSteps (.start ∅) plainProcessor
      ((rebuildRun 10).take 1)).sound plainProcessor _ _ _ _).mp looks
    exact absurd (silent ▸ made) (by simp)
  · simp [logOf, rebuildRun]

/-- A sweep whose clock is ahead of the log takes the switch for silent: its
synthetic sample brings the switch down, and the second observation of the log,
now out of order, causes no event. -/
theorem rebuild_loses_event :
    let direct := plainProcessor.runCalls (logOf (rebuildRun 7200000000000)) .new
    let swept := plainProcessor.runSteps (rebuildRun 7200000000000) .new
    (direct.events.lookup rebuiltID).map Event.observationID = some "o2" ∧
      swept.events.lookup rebuiltID = none := by
  decide +kernel

end InfraObserver.Processor
