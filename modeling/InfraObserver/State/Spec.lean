import InfraObserver.State.Engine

/-!
# What the state engine is for

The engine keeps counters and instants in a record. Its purpose is a property
of whole histories: an alert opens when enough consecutive bad samples have
lasted long enough, and it resolves when enough consecutive good samples have.
This module states that purpose over the list of all samples of one entity,
newest first, without counters, and proves that folding `evaluate` over the
samples emits exactly the events it asks for.
-/

namespace InfraObserver

namespace Threshold

variable {F : Type} [GoFloat F]

/-- The number is past the limit beyond which a good metric becomes bad. -/
def pastBreach (threshold : Threshold F) (number : F) : Bool :=
  threshold.breachAbove.any (fun limit => limit < number) ||
    threshold.breachBelow.any fun limit => number < limit

/-- The number is past the limit beyond which a bad metric becomes good. -/
def pastClear (threshold : Threshold F) (number : F) : Bool :=
  threshold.clearBelow.any (fun limit => number < limit) ||
    threshold.clearAbove.any fun limit => limit < number

/-- On a validated threshold the engine's hysteresis is the intended one: bad
once past the breach limit, and bad until past the clear limit. -/
theorem breachedAfter_eq
    {threshold : Threshold F}
    (valid : threshold.problems = [])
    (breached : Bool)
    (number : F) :
    threshold.breachedAfter breached number =
      if breached then !threshold.pastClear number else threshold.pastBreach number := by
  obtain ⟨breachAbove, clearBelow, breachBelow, clearAbove⟩ := threshold
  -- Validation leaves exactly the pairs above and below the band.
  cases breachAbove <;> cases clearBelow <;> cases breachBelow <;> cases clearAbove <;>
    simp_all [problems, breachedAfter, pastBreach, pastClear]

end Threshold

namespace Definition

variable {F : Type} [GoFloat F] (definition : Definition F)

/-- The value has the type that the definition judges. -/
def WellTyped (sample : Observation F) : Prop :=
  match definition.goodWhen with
  | some _ => ∃ flag, sample.value = .bool flag
  | none => ∃ number, sample.value.numeric = some number

/-- The newest sample of a history is bad. -/
def bad (definition : Definition F) : List (Observation F) → Bool
  | [] => false
  | sample :: earlier =>
      match definition.goodWhen, definition.threshold with
      | some good, _ => sample.value.asBool ≠ good.equals
      | none, some threshold =>
          match sample.value.numeric with
          | some number =>
              if definition.bad earlier then !threshold.pastClear number
              else threshold.pastBreach number
          | none => false
      | none, none => false

/-- The maximal run of consecutive bad samples at the newest end. -/
def badRun (definition : Definition F) : List (Observation F) → List (Observation F)
  | [] => []
  | sample :: earlier =>
      if definition.bad (sample :: earlier) then sample :: definition.badRun earlier else []

/-- The maximal run of consecutive good samples at the newest end. -/
def goodRun (definition : Definition F) : List (Observation F) → List (Observation F)
  | [] => []
  | sample :: earlier =>
      if definition.bad (sample :: earlier) then [] else sample :: definition.goodRun earlier

/-- A run, newest first, that is long enough in samples and in time. -/
def Sustained (count : ℤ) (span : Duration) (run : List (Observation F)) : Prop :=
  count ≤ run.length ∧
    ∃ newest ∈ run.head?, ∃ oldest ∈ run.getLast?,
      span.ns ≤ newest.observedAt - oldest.observedAt

/-! ## The record tracks the history -/

/-- The sample at the head of a history opens an alert. -/
def Opens (isOpen : Bool) (history : List (Observation F)) : Prop :=
  isOpen = false ∧
    Sustained definition.failAfter definition.failFor (definition.badRun history)

/-- The sample at the head of a history resolves the open alert. -/
def Resolves (isOpen : Bool) (history : List (Observation F)) : Prop :=
  isOpen = true ∧
    Sustained definition.recoverAfter definition.recoverFor (definition.goodRun history)

/-- The counters and instants of a record say about a history, newest first,
what they are meant to say. -/
structure Counts
    (definition : Definition F)
    (history : List (Observation F))
    (isOpen : Bool)
    (record : StateRecord) : Prop where
  failures : record.failures = (definition.badRun history).length
  badSince : ∀ oldest ∈ (definition.badRun history).getLast?,
    record.badSince = oldest.observedAt
  openState : isOpen = true ↔ record.state = .down ∨ record.state = .recovering
  successes : record.successes = if isOpen then (definition.goodRun history).length else 0
  goodSince : isOpen = true → ∀ oldest ∈ (definition.goodRun history).getLast?,
    record.goodSince = oldest.observedAt

/-- A record that remembers a whole history as far as the engine needs it. -/
structure Tracks
    (definition : Definition F)
    (history : List (Observation F))
    (isOpen : Bool)
    (record : StateRecord) : Prop extends Counts definition history isOpen record where
  breached : definition.goodWhen = none → record.breached = definition.bad history

omit [GoFloat F] in
/-- A counter and an instant that describe a run decide whether the run with
one more sample is sustained. -/
theorem sustained_cons_iff
    {span : Duration}
    (nonnegative : Duration.zero ≤ span)
    (count : ℤ)
    (newest : Observation F)
    (run : List (Observation F))
    (since : Time)
    (oldestSince : ∀ oldest ∈ run.getLast?, since = oldest.observedAt) :
    Sustained count span (newest :: run) ↔
      count ≤ (run.length + 1 : ℕ) ∧
        span ≤ Time.sub newest.observedAt
          (if run.length = 0 then newest.observedAt else since) := by
  rw [Time.le_sub_iff nonnegative]
  unfold Sustained
  cases run using List.reverseRecOn with
  | nil => simp
  | append_singleton earlier oldest =>
      have sinceEq := oldestSince oldest (by simp)
      simp [sinceEq, List.getLast?_cons]

theorem Tracks.fresh (sample : Observation F) :
    Tracks definition [] false (definition.freshRecord sample) where
  breached _ := rfl
  failures := rfl
  badSince := by simp [badRun]
  openState := by simp [freshRecord, StateRecord.zero]
  successes := rfl
  goodSince := by simp

variable {definition} {history : List (Observation F)} {isOpen : Bool}
    {record : StateRecord}

theorem Counts.of_bad
    {nowOpen : Bool}
    {after : StateRecord}
    (counts : Counts definition history isOpen record)
    (sample : Observation F)
    (isBad : definition.bad (sample :: history) = true)
    (failures : after.failures = record.failures + 1)
    (badSince : after.badSince =
      if record.failures = 0 then sample.observedAt else record.badSince)
    (successes : after.successes = 0)
    (openState : nowOpen = true ↔ after.state = .down ∨ after.state = .recovering) :
    Counts definition (sample :: history) nowOpen after where
  failures := by simp [badRun, isBad, failures, counts.failures]
  badSince := by
    intro oldest last
    rw [badSince, counts.failures]
    have earlierSince := counts.badSince
    simp only [badRun, isBad, if_true] at last
    cases run : definition.badRun history with
    | nil => simp_all
    | cons newest rest =>
        rw [run] at last earlierSince
        have lastEarlier : oldest ∈ (newest :: rest).getLast? := by
          simpa [List.getLast?_cons_cons] using last
        simp [earlierSince oldest lastEarlier]
  openState := openState
  successes := by simp [goodRun, isBad, successes]
  goodSince := by simp [goodRun, isBad]

theorem Counts.of_good
    {nowOpen : Bool}
    {after : StateRecord}
    (counts : Counts definition history isOpen record)
    (sample : Observation F)
    (isGood : definition.bad (sample :: history) = false)
    (failures : after.failures = 0)
    (openState : nowOpen = true ↔ after.state = .down ∨ after.state = .recovering)
    (stillOpen : nowOpen = true → isOpen = true)
    (successes : after.successes = if nowOpen then record.successes + 1 else 0)
    (goodSince : nowOpen = true → after.goodSince =
      if record.successes = 0 then sample.observedAt else record.goodSince) :
    Counts definition (sample :: history) nowOpen after where
  failures := by simp [badRun, isGood, failures]
  badSince := by simp [badRun, isGood]
  openState := openState
  successes := by
    cases nowOpen with
    | false => simpa using successes
    | true => simp [goodRun, isGood, successes, counts.successes, stillOpen rfl]
  goodSince := by
    intro open_ oldest last
    rw [goodSince open_, counts.successes, if_pos (stillOpen open_)]
    have earlierSince := counts.goodSince (stillOpen open_)
    simp only [goodRun, isGood, Bool.false_eq_true, if_false] at last
    cases run : definition.goodRun history with
    | nil => simp_all
    | cons newest rest =>
        rw [run] at last earlierSince
        have lastEarlier : oldest ∈ (newest :: rest).getLast? := by
          simpa [List.getLast?_cons_cons] using last
        simp [earlierSince oldest lastEarlier]

/-! ## The outcome of one sample -/

omit [GoFloat F] in
section

variable (definition : Definition F) (record : StateRecord) (instant : Time)

/-- The outcome of a bad sample: DOWN when an alert is open already or when the
bad run is long enough. -/
theorem step_bad_eq : definition.step record false instant =
      (if record.state = .down ∨ record.state = .recovering ∨
          definition.failAfter ≤ (failed record instant).failures ∧
            definition.failFor ≤ Time.sub instant (failed record instant).badSince then .down
        else .suspect,
        failed record instant) := by
  cases state : record.state <;> simp [step, stepBad, state, Prod.ext_iff, apply_ite]

omit [GoFloat F] in
theorem step_good_open (isOpen : record.state = .down ∨ record.state = .recovering) :
    definition.step record true instant =
      if definition.recoverAfter ≤ (succeeded record instant).successes ∧
          definition.recoverFor ≤ Time.sub instant (succeeded record instant).goodSince then
        (.up, { succeeded record instant with successes := 0, goodSince := 0 })
      else (.recovering, succeeded record instant) := by
  rcases isOpen with state | state <;> simp [step, stepGood, state]

omit [GoFloat F] in
theorem step_good_closed
    (notDown : record.state ≠ .down)
    (notRecovering : record.state ≠ .recovering) :
    ∃ badSince successes,
      definition.step record true instant =
        (.up, { record with failures := 0, badSince, successes }) ∧
      (record.successes = 0 → successes = 0) := by
  cases state : record.state with
  | down => exact absurd state notDown
  | recovering => exact absurd state notRecovering
  | unset => exact ⟨record.badSince, 0, by simp [step, state], fun _ => rfl⟩
  | up => exact ⟨0, record.successes, by simp [step, stepGood, state], fun none => none⟩
  | suspect => exact ⟨0, record.successes, by simp [step, stepGood, state], fun none => none⟩

end

variable [Platform] {sample : Observation F}

/-- The verdict of `judge` on a well-typed sample, and the only field it may
change. -/
theorem judge_eq
    (valid : definition.Valid)
    (typed : definition.WellTyped sample)
    (breached : definition.goodWhen = none → record.breached = definition.bad history) :
    ∃ side,
      definition.judge record sample =
        some (!definition.bad (sample :: history), { record with breached := side }) ∧
      (definition.goodWhen = none → side = definition.bad (sample :: history)) := by
  rw [valid_iff_problems] at valid
  simp only [problems, List.append_eq_nil_iff, problemIf_eq_nil] at valid
  obtain ⟨⟨⟨⟨⟨⟨⟨⟨⟨_, _⟩, oneKind⟩, equalsSet⟩, thresholdValid⟩, _⟩, _⟩, _⟩, _⟩, _⟩ := valid
  unfold WellTyped at typed
  cases kind : definition.goodWhen with
  | some good =>
      rw [kind] at typed equalsSet
      obtain ⟨flag, value⟩ := typed
      obtain ⟨equals⟩ := good
      cases equals with
      | none => simp at equalsSet
      | some expected =>
          refine ⟨record.breached, ?_, by simp⟩
          cases flag <;> cases expected <;>
            simp [judge, bad, kind, value, Value.asBool]
  | none =>
      rw [kind] at typed
      obtain ⟨number, value⟩ := typed
      cases limits : definition.threshold with
      | none => simp [kind, limits] at oneKind
      | some threshold =>
          have sound : threshold.problems = [] := by simpa [limits] using thresholdValid
          refine ⟨definition.bad (sample :: history), ?_, fun _ => rfl⟩
          simp [judge, bad, kind, limits, value, breached kind,
            Threshold.breachedAfter_eq sound]

theorem applySample_eq
    (definition : Definition F)
    (record after : StateRecord)
    (good : Bool)
    (sample : Observation F)
    (toState : HealthState)
    (outcome : definition.step (stamp record sample) good sample.observedAt =
      (toState, after))
    (kept : after.state = record.state) :
    definition.applySample record good sample =
      { record := { after with
          state := toState
          lastTransitionAt :=
            if toState = record.state then after.lastTransitionAt else sample.observedAt }
        transitions :=
          if toState = record.state then []
          else [definition.makeTransition (definition.keyFor sample.deviceID sample.labels)
            record.state toState sample]
        events :=
          if toState = record.state then []
          else (definition.eventFor (definition.keyFor sample.deviceID sample.labels)
            record.state toState sample).toList
        ignored := .notIgnored } := by
  simp only [applySample, outcome]
  split
  · next same =>
      obtain ⟨⟩ := same
      simp [← kept]
  · simp

/-- What a sample does to an alert: it opens one, it resolves one, or it stays
silent, and the counters describe the longer history. -/
def Follows
    (definition : Definition F)
    (isOpen : Bool)
    (sample : Observation F)
    (history : List (Observation F))
    (update : Update) : Prop :=
  let key := definition.keyFor sample.deviceID sample.labels
  (definition.Opens isOpen (sample :: history) ∧
      update.events = [definition.makeEvent key definition.alert false sample] ∧
      Counts definition (sample :: history) true update.record) ∨
    (definition.Resolves isOpen (sample :: history) ∧
      update.events = [definition.makeEvent key definition.recovery true sample] ∧
      Counts definition (sample :: history) false update.record) ∨
    (¬definition.Opens isOpen (sample :: history) ∧
      ¬definition.Resolves isOpen (sample :: history) ∧
      update.events = [] ∧
      Counts definition (sample :: history) isOpen update.record)

theorem applySample_bad
    (valid : definition.Valid)
    (counts : Counts definition history isOpen record)
    (sample : Observation F)
    (isBad : definition.bad (sample :: history) = true) :
    definition.Follows isOpen sample history
      (definition.applySample record false sample) := by
  obtain ⟨_, recoverAfter, failFor, _⟩ := valid.bounds
  have silent : ¬definition.Resolves isOpen (sample :: history) := by
    rintro ⟨_, long, _⟩
    simp [goodRun, isBad] at long
    omega
  have sustained := sustained_cons_iff failFor definition.failAfter sample
    (definition.badRun history) record.badSince counts.badSince
  have run : definition.badRun (sample :: history) =
      sample :: definition.badRun history := by simp [badRun, isBad]
  rw [← run, ← counts.failures] at sustained
  have outcome := step_bad_eq definition (stamp record sample) sample.observedAt
  have openState := counts.openState
  cases isOpen with
  | true =>
      rw [if_pos (by exact or_assoc.mp (Or.inl (openState.mp rfl)))] at outcome
      rw [applySample_eq definition record _ false sample _ outcome rfl]
      refine Or.inr (Or.inr ⟨fun opens => by simp [Opens] at opens, silent, ?_,
        counts.of_bad sample isBad rfl rfl rfl (by simp)⟩)
      rcases openState.mp rfl with state | state <;> simp [state, eventFor]
  | false =>
      have notDown : record.state ≠ .down := fun state => by simp [state] at openState
      have notRecovering : record.state ≠ .recovering := fun state => by
        simp [state] at openState
      by_cases opens : Sustained definition.failAfter definition.failFor
          (definition.badRun (sample :: history))
      · rw [if_pos (by exact Or.inr (Or.inr (sustained.mp opens)))] at outcome
        rw [applySample_eq definition record _ false sample _ outcome rfl]
        refine Or.inl ⟨⟨rfl, opens⟩, ?_, counts.of_bad sample isBad rfl rfl rfl (by simp)⟩
        simp [notDown.symm, notRecovering, eventFor]
      · rw [if_neg (by exact not_or.mpr ⟨notDown, not_or.mpr
          ⟨notRecovering, mt sustained.mpr opens⟩⟩)] at outcome
        rw [applySample_eq definition record _ false sample _ outcome rfl]
        refine Or.inr (Or.inr ⟨fun claimed => opens claimed.2, silent, ?_,
          counts.of_bad sample isBad rfl rfl rfl (by simp)⟩)
        simp [eventFor]

theorem applySample_good
    (valid : definition.Valid)
    (counts : Counts definition history isOpen record)
    (sample : Observation F)
    (isGood : definition.bad (sample :: history) = false) :
    definition.Follows isOpen sample history
      (definition.applySample record true sample) := by
  obtain ⟨failAfter, _, _, recoverFor⟩ := valid.bounds
  have silent : ¬definition.Opens isOpen (sample :: history) := by
    rintro ⟨_, long, _⟩
    simp [badRun, isGood] at long
    omega
  have openState := counts.openState
  have successes := counts.successes
  cases isOpen with
  | true =>
      have sustained := sustained_cons_iff recoverFor definition.recoverAfter sample
        (definition.goodRun history) record.goodSince (counts.goodSince rfl)
      have run : definition.goodRun (sample :: history) =
          sample :: definition.goodRun history := by simp [goodRun, isGood]
      simp only [if_true] at successes
      rw [← run, ← successes] at sustained
      have outcome := step_good_open definition (stamp record sample) sample.observedAt
        (openState.mp rfl)
      by_cases resolves : Sustained definition.recoverAfter definition.recoverFor
          (definition.goodRun (sample :: history))
      · rw [if_pos (by exact sustained.mp resolves)] at outcome
        rw [applySample_eq definition record _ true sample _ outcome rfl]
        refine Or.inr (Or.inl ⟨⟨rfl, resolves⟩, ?_,
          counts.of_good sample isGood rfl (by simp) (by simp) rfl (by simp)⟩)
        rcases openState.mp rfl with state | state <;> simp [state, eventFor]
      · rw [if_neg (by exact mt sustained.mpr resolves)] at outcome
        rw [applySample_eq definition record _ true sample _ outcome rfl]
        refine Or.inr (Or.inr ⟨silent, fun claimed => resolves claimed.2, ?_,
          counts.of_good sample isGood rfl (by simp) (by simp) rfl fun _ => rfl⟩)
        rcases openState.mp rfl with state | state <;> simp [state, eventFor]
  | false =>
      have notDown : record.state ≠ .down := fun state => by simp [state] at openState
      have notRecovering : record.state ≠ .recovering := fun state => by
        simp [state] at openState
      obtain ⟨badSince, counted, outcome, stillNone⟩ :=
        step_good_closed definition (stamp record sample) sample.observedAt notDown notRecovering
      rw [applySample_eq definition record _ true sample _ outcome rfl]
      refine Or.inr (Or.inr ⟨silent, fun claimed => by simp [Resolves] at claimed, ?_,
        counts.of_good sample isGood rfl (by simp) (by simp) (stillNone successes) (by simp)⟩)
      simp [notDown, notRecovering, eventFor]

/-- An applied sample stamps the record and leaves the hysteresis memory to
`judge`. -/
theorem applySample_stamps
    (definition : Definition F)
    (record : StateRecord)
    (good : Bool)
    (sample : Observation F) :
    let update := definition.applySample record good sample
    update.ignored = .notIgnored ∧
      update.record.breached = record.breached ∧
      update.record.lastObservationID = sample.observationID ∧
      update.record.lastObservedAt = sample.observedAt := by
  cases good with
  | false =>
      rw [applySample_eq definition record _ false sample _ (step_bad_eq definition _ _) rfl]
      exact ⟨rfl, rfl, rfl, rfl⟩
  | true =>
      by_cases isOpen : record.state = .down ∨ record.state = .recovering
      · have outcome := step_good_open definition (stamp record sample) sample.observedAt isOpen
        split at outcome <;> rw [applySample_eq definition record _ true sample _ outcome rfl] <;>
          exact ⟨rfl, rfl, rfl, rfl⟩
      · obtain ⟨notDown, notRecovering⟩ := not_or.mp isOpen
        obtain ⟨_, _, outcome, _⟩ := step_good_closed definition (stamp record sample)
          sample.observedAt notDown notRecovering
        rw [applySample_eq definition record _ true sample _ outcome rfl]
        exact ⟨rfl, rfl, rfl, rfl⟩

/-- What a stored record, or its absence, remembers of a history. -/
def Remembers
    (definition : Definition F)
    (history : List (Observation F))
    (isOpen : Bool) : Option StateRecord → Prop
  | none => history = [] ∧ isOpen = false
  | some record =>
      Tracks definition history isOpen record ∧
        ∃ newest ∈ history.head?,
          record.lastObservationID = newest.observationID ∧
            record.lastObservedAt = newest.observedAt

/-- The sample is news to an entity whose newest sample is `newest`. -/
def News (sample newest : Observation F) : Prop :=
  newest.observationID ≠ sample.observationID ∧ newest.observedAt < sample.observedAt

/-- Judging and applying a well-typed sample follows the specification and
tracks the longer history. -/
theorem judge_applySample
    (valid : definition.Valid)
    (tracks : Tracks definition history isOpen record)
    (typed : definition.WellTyped sample) :
    ∃ good judged,
      definition.judge record sample = some (good, judged) ∧
        definition.Follows isOpen sample history (definition.applySample judged good sample) ∧
        (definition.goodWhen = none →
          (definition.applySample judged good sample).record.breached =
            definition.bad (sample :: history)) := by
  obtain ⟨side, judged, sideEq⟩ := judge_eq valid typed tracks.breached
  have counts : Counts definition history isOpen { record with breached := side } :=
    { tracks.toCounts with }
  refine ⟨_, _, judged, ?_, fun kind => ?_⟩
  · cases verdict : definition.bad (sample :: history) with
    | true => exact applySample_bad valid counts sample verdict
    | false => exact applySample_good valid counts sample verdict
  · exact (applySample_stamps definition _ _ sample).2.1.trans (sideEq kind)

variable {previous : Option StateRecord}

/-- One sample of a run: `evaluate` follows the specification and the record it
returns remembers the longer history. -/
theorem evaluate_follows
    (valid : definition.Valid)
    (remembers : definition.Remembers history isOpen previous)
    (typed : definition.WellTyped sample)
    (news : ∀ newest ∈ history.head?, News sample newest) :
    let update := definition.evaluate previous sample
    update.ignored = .notIgnored ∧
      definition.Follows isOpen sample history update ∧
      (definition.goodWhen = none →
        update.record.breached = definition.bad (sample :: history)) ∧
      update.record.lastObservationID = sample.observationID ∧
      update.record.lastObservedAt = sample.observedAt := by
  cases previous with
  | none =>
      obtain ⟨rfl, rfl⟩ := remembers
      obtain ⟨good, judged, judgedEq, follows, breached⟩ :=
        judge_applySample valid (Tracks.fresh definition sample) typed
      obtain ⟨applied, _, stampedID, stampedAt⟩ :=
        applySample_stamps definition judged good sample
      simp only [evaluate, judgedEq]
      exact ⟨applied, follows, breached, stampedID, stampedAt⟩
  | some record =>
      obtain ⟨tracks, newest, isNewest, sameID, sameInstant⟩ := remembers
      obtain ⟨otherID, newer⟩ := news newest isNewest
      obtain ⟨good, judged, judgedEq, follows, breached⟩ := judge_applySample valid tracks typed
      obtain ⟨applied, _, stampedID, stampedAt⟩ :=
        applySample_stamps definition judged good sample
      rw [← sameID] at otherID
      rw [← sameInstant] at newer
      simp only [evaluate, otherID, newer, judgedEq, if_false, not_true_eq_false]
      exact ⟨applied, follows, breached, stampedID, stampedAt⟩

/-! ## Whole runs -/

section

variable (definition : Definition F) (previous : Option StateRecord)

/-- Record kept after a sample: an ignored sample leaves it alone. -/
def advance (sample : Observation F) : Option StateRecord :=
  if (definition.evaluate previous sample).ignored = .notIgnored then
    some (definition.evaluate previous sample).record
  else previous

/-- Record kept after a list of samples, oldest first. -/
def finalRecord (samples : List (Observation F)) : Option StateRecord :=
  samples.foldl definition.advance previous

/-- Events emitted along a list of samples, oldest first. -/
def emitted (definition : Definition F) : Option StateRecord → List (Observation F) → List Event
  | _, [] => []
  | previous, sample :: rest =>
      (definition.evaluate previous sample).events ++
        definition.emitted (definition.advance previous sample) rest

/-- An alert is open when the last event so far was an opening one. -/
def alertOpen (events : List Event) : Bool :=
  events.getLast?.any fun event => !event.resolves

@[simp] theorem emitted_append (first second : List (Observation F)) :
    definition.emitted previous (first ++ second) =
      definition.emitted previous first ++
        definition.emitted (definition.finalRecord previous first) second := by
  induction first generalizing previous with
  | nil => rfl
  | cons sample rest ih =>
      simp [emitted, finalRecord, ih, List.append_assoc]

end

/-- Opening and resolving events decide whether an alert is open afterwards. -/
theorem Follows.remembers
    {events : List Event}
    (follows : definition.Follows (alertOpen events) sample history
      (definition.evaluate previous sample))
    (applied : (definition.evaluate previous sample).ignored = .notIgnored)
    (breached : definition.goodWhen = none →
      (definition.evaluate previous sample).record.breached =
        definition.bad (sample :: history))
    (stampedID : (definition.evaluate previous sample).record.lastObservationID =
      sample.observationID)
    (stampedAt : (definition.evaluate previous sample).record.lastObservedAt =
      sample.observedAt) :
    definition.Remembers (sample :: history)
      (alertOpen (events ++ (definition.evaluate previous sample).events))
      (definition.advance previous sample) := by
  rw [advance, if_pos applied]
  refine ⟨⟨?_, breached⟩, sample, rfl, stampedID, stampedAt⟩
  rcases follows with ⟨_, emitted, counts⟩ | ⟨_, emitted, counts⟩ | ⟨_, _, emitted, counts⟩ <;>
    simpa [alertOpen, emitted, makeEvent] using counts

theorem run_remembers
    (valid : definition.Valid)
    (samples : List (Observation F))
    (typed : ∀ sample ∈ samples, definition.WellTyped sample)
    (ordered : samples.Pairwise fun older newer => News newer older) :
    definition.Remembers samples.reverse (alertOpen (definition.emitted none samples))
      (definition.finalRecord none samples) := by
  -- Induction on the newest sample, since the history grows at that end.
  induction samples using List.reverseRecOn with
  | nil => exact ⟨rfl, rfl⟩
  | append_singleton earlier sample ih =>
      rw [List.pairwise_append] at ordered
      obtain ⟨earlierOrdered, _, newer⟩ := ordered
      have remembers := ih
        (fun older member => typed older (List.mem_append_left _ member)) earlierOrdered
      obtain ⟨applied, follows, breached, stampedID, stampedAt⟩ :=
        evaluate_follows valid remembers (typed sample (by simp)) (fun newest isNewest =>
          newer newest (List.mem_reverse.mp (List.mem_of_mem_head? isNewest)) sample (by simp))
      have longer := follows.remembers applied breached stampedID stampedAt
      simpa [emitted, finalRecord] using longer

/-! ## Samples that do not count -/

/-- A second list of samples in which samples that do not count were inserted:
repetitions of the last applied sample, samples not newer than it, or samples of
the wrong type. -/
inductive Padded (definition : Definition F) :
    Option (Observation F) → List (Observation F) → List (Observation F) → Prop
  | nil (last : Option (Observation F)) : Padded definition last [] []
  | keep {last : Option (Observation F)} {samples padded : List (Observation F)}
      (sample : Observation F) :
      Padded definition (some sample) samples padded →
        Padded definition last (sample :: samples) (sample :: padded)
  | insert {last : Option (Observation F)} {samples padded : List (Observation F)}
      (extra : Observation F) :
      ¬definition.WellTyped extra ∨
          (∃ applied ∈ last, applied.observationID = extra.observationID ∨
            extra.observedAt ≤ applied.observedAt) →
        Padded definition last samples padded →
          Padded definition last samples (extra :: padded)

omit [Platform] in
theorem judge_wrongType
    (wrong : ¬definition.WellTyped sample)
    (record : StateRecord) :
    definition.judge record sample = none := by
  unfold WellTyped at wrong
  unfold judge
  cases kind : definition.goodWhen with
  | some good =>
      rw [kind] at wrong
      cases value : sample.value <;> simp_all [Value.asBool]
  | none =>
      rw [kind] at wrong
      cases number : sample.value.numeric with
      | none => rfl
      | some given => exact absurd ⟨given, number⟩ wrong

theorem evaluate_ignores
    {extra : Observation F}
    (noise : ¬definition.WellTyped extra ∨
      ∃ record ∈ previous, record.lastObservationID = extra.observationID ∨
        extra.observedAt ≤ record.lastObservedAt) :
    (definition.evaluate previous extra).events = [] ∧
      definition.advance previous extra = previous := by
  suffices ignored : (definition.evaluate previous extra).ignored ≠ .notIgnored ∧
      (definition.evaluate previous extra).events = [] from
    ⟨ignored.2, if_neg ignored.1⟩
  unfold evaluate
  cases previous with
  | none =>
      obtain wrong | ⟨record, stored, _⟩ := noise
      · simp [judge_wrongType wrong, Update.ignore]
      · simp at stored
  | some record =>
      dsimp only
      split_ifs with duplicate newer
      · simp [Update.ignore]
      · obtain wrong | ⟨stored, isStored, reason⟩ := noise
        · simp [judge_wrongType wrong, Update.ignore]
        · simp only [Option.mem_def, Option.some.injEq] at isStored
          subst isStored
          exact absurd reason (not_or.mpr ⟨duplicate, not_le.mpr newer⟩)
      · simp [Update.ignore]

omit [Platform] in
theorem Remembers.noise
    (remembers : definition.Remembers history isOpen previous)
    {extra : Observation F}
    (noise : ¬definition.WellTyped extra ∨
      ∃ applied ∈ history.head?, applied.observationID = extra.observationID ∨
        extra.observedAt ≤ applied.observedAt) :
    ¬definition.WellTyped extra ∨
      ∃ record ∈ previous, record.lastObservationID = extra.observationID ∨
        extra.observedAt ≤ record.lastObservedAt := by
  refine noise.imp_right ?_
  rintro ⟨applied, isNewest, reason⟩
  cases previous with
  | none =>
      obtain ⟨rfl, _⟩ := remembers
      simp at isNewest
  | some record =>
      obtain ⟨_, newest, alsoNewest, sameID, sameInstant⟩ := remembers
      obtain rfl := Option.mem_unique isNewest alsoNewest
      exact ⟨record, rfl, by rwa [sameID, sameInstant]⟩

/-- Inserted samples that do not count change neither the events nor the final
record. -/
theorem Padded.invisible
    (valid : definition.Valid)
    {last : Option (Observation F)}
    {samples padded : List (Observation F)}
    (inserted : Padded definition last samples padded)
    (typed : ∀ sample ∈ samples, definition.WellTyped sample)
    (ordered : samples.Pairwise fun older newer => News newer older)
    {events : List Event}
    (remembers : definition.Remembers history (alertOpen events) previous)
    (isLast : history.head? = last)
    (news : ∀ newest ∈ last, ∀ sample ∈ samples, News sample newest) :
    definition.emitted previous padded = definition.emitted previous samples ∧
      definition.finalRecord previous padded = definition.finalRecord previous samples := by
  induction inserted generalizing history events previous with
  | nil => exact ⟨rfl, rfl⟩
  | keep sample _ ih =>
      subst isLast
      rw [List.pairwise_cons] at ordered
      obtain ⟨applied, follows, breached, stampedID, stampedAt⟩ :=
        evaluate_follows valid remembers (typed sample (by simp)) fun newest isNewest =>
          news newest isNewest sample (by simp)
      have longer := follows.remembers applied breached stampedID stampedAt
      have rest := ih (fun later member => typed later (by simp [member]))
        ordered.2 longer rfl (by simpa using ordered.1)
      exact ⟨by rw [emitted, emitted, rest.1], rest.2⟩
  | insert extra noise _ ih =>
      obtain ⟨silent, kept⟩ := evaluate_ignores (remembers.noise (by rwa [isLast]))
      have rest := ih typed ordered remembers isLast news
      refine ⟨?_, ?_⟩
      · rw [emitted, silent, kept, List.nil_append, rest.1]
      · rw [← rest.2, finalRecord, List.foldl_cons, kept, finalRecord]

omit [GoFloat F] [Platform] in
theorem news_of_increasing
    {samples : List (Observation F)}
    (increasing : samples.Pairwise fun older newer => older.observedAt < newer.observedAt)
    (distinct : (samples.map (·.observationID)).Nodup) :
    samples.Pairwise fun older newer => News newer older := by
  rw [List.Nodup, List.pairwise_map] at distinct
  exact distinct.and increasing

/-- The state engine meets its specification. On well-typed samples in order, a
sample opens an alert exactly when none is open and the bad run that ends in it
is sustained, it resolves the alert exactly when one is open and the good run
that ends in it is sustained, and there is no other event. Samples that do not
count may be inserted anywhere without a trace. -/
theorem evaluate_meets_specification
    (definition : Definition F)
    (valid : definition.Valid)
    (samples : List (Observation F))
    (typed : ∀ sample ∈ samples, definition.WellTyped sample)
    (increasing : samples.Pairwise fun older newer => older.observedAt < newer.observedAt)
    (distinct : (samples.map (·.observationID)).Nodup) :
    (∀ earlier sample later, samples = earlier ++ sample :: later →
      let events := (definition.evaluate (definition.finalRecord none earlier) sample).events
      let isOpen := alertOpen (definition.emitted none earlier)
      let key := definition.keyFor sample.deviceID sample.labels
      ((∃ event ∈ events, event.resolves = false) ↔
        isOpen = false ∧ Sustained definition.failAfter definition.failFor
          (definition.badRun (sample :: earlier.reverse))) ∧
      ((∃ event ∈ events, event.resolves = true) ↔
        isOpen = true ∧ Sustained definition.recoverAfter definition.recoverFor
          (definition.goodRun (sample :: earlier.reverse))) ∧
      (events = [] ∨
        events = [definition.makeEvent key definition.alert false sample] ∨
        events = [definition.makeEvent key definition.recovery true sample])) ∧
    ∀ padded, Padded definition none samples padded →
      definition.emitted none padded = definition.emitted none samples ∧
        definition.finalRecord none padded = definition.finalRecord none samples := by
  have ordered := news_of_increasing increasing distinct
  refine ⟨?_, fun padded inserted => ?_⟩
  · rintro earlier sample later rfl events isOpen key
    rw [List.pairwise_append] at ordered
    have remembers := run_remembers valid earlier
      (fun older member => typed older (List.mem_append_left _ member)) ordered.1
    obtain ⟨_, follows, _⟩ :=
      evaluate_follows valid remembers (typed sample (by simp)) fun newest isNewest =>
        ordered.2.2 newest (List.mem_reverse.mp (List.mem_of_mem_head? isNewest)) sample (by simp)
    rcases follows with ⟨opens, emits, _⟩ | ⟨resolves, emits, _⟩ | ⟨quiet, silent, emits, _⟩
    · replace emits : events = [definition.makeEvent key definition.alert false sample] := emits
      refine ⟨iff_of_true ⟨_, by rw [emits]; exact List.mem_singleton_self _, rfl⟩ opens,
        iff_of_false ?_ fun resolves => ?_, Or.inr (Or.inl emits)⟩
      · simp [emits, makeEvent]
      · exact absurd (opens.1.symm.trans resolves.1) (by simp)
    · replace emits : events = [definition.makeEvent key definition.recovery true sample] := emits
      refine ⟨iff_of_false ?_ fun opens => ?_,
        iff_of_true ⟨_, by rw [emits]; exact List.mem_singleton_self _, rfl⟩ resolves,
        Or.inr (Or.inr emits)⟩
      · simp [emits, makeEvent]
      · exact absurd (opens.1.symm.trans resolves.1) (by simp)
    · exact ⟨iff_of_false (by simp [events, emits]) quiet,
        iff_of_false (by simp [events, emits]) silent, Or.inl emits⟩
  · have start : definition.Remembers [] (alertOpen []) none := ⟨rfl, rfl⟩
    exact inserted.invisible valid typed ordered start rfl (by simp)

end Definition

namespace Definition

attribute [local instance] Platform.plain GoFloat.integer

/-- A definition that alerts on two unreachable samples at least one nanosecond
apart. -/
def reachability : Definition ℤ where
  id := "reachability"
  metric := "device.reachable"
  keyLabels := []
  deviceTypes := []
  goodWhen := some ⟨some true⟩
  threshold := none
  failAfter := 2
  failFor := ⟨1, by decide, by decide⟩
  recoverAfter := 1
  recoverFor := .zero
  stale := true
  alert := ⟨"device_down", .critical, "unreachable"⟩
  recovery := ⟨"device_up", .info, "reachable"⟩

/-- A reachability sample of one device. -/
def reachabilitySample (id : String) (instant : Time) (reachable : Bool) : Observation ℤ where
  observationID := id
  correlationID := id
  deviceID := "sw-1"
  source := "collector"
  metric := "device.reachable"
  value := .bool reachable
  labels := ∅
  observedAt := instant
  receivedAt := instant
  metadata := ∅

/-- The second unreachable sample opens the alert, also when a repetition comes
between the two. -/
theorem reachability_opens :
    let up := reachabilitySample "o1" 1 true
    let down := reachabilitySample "o2" 2 false
    let again := reachabilitySample "o3" 3 false
    (∃ event ∈ (reachability.evaluate (reachability.finalRecord none [up, down]) again).events,
        event.resolves = false) ∧
      reachability.finalRecord none [up, down, down, again] =
        reachability.finalRecord none [up, down, again] := by
  intro up down again
  have specification := evaluate_meets_specification reachability
    ((valid_iff_problems _).mpr (by decide +kernel)) [up, down, again]
    (by
      intro sample member
      simp only [List.mem_cons, List.not_mem_nil, or_false] at member
      rcases member with rfl | rfl | rfl <;> exact ⟨_, rfl⟩)
    (by decide) (by decide)
  constructor
  · exact (specification.1 [up, down] again [] rfl).1.mpr
      ⟨by decide +kernel, by decide, again, rfl, down, rfl, by decide⟩
  · refine (specification.2 _ (.keep up (.keep down (.insert down ?_ (.keep again (.nil _)))))).2
    exact Or.inr ⟨down, rfl, Or.inl rfl⟩

end Definition

end InfraObserver
