import InfraObserver.Rules.Rule
import InfraObserver.State.Spec

/-!
# What an update says about alerts

A state definition and a rule agree on one thing: an update carries an event
exactly when the entity starts or stops to alert, and the event says which.
This module states that once, as `Update.Moves`, and shows it of both engines.
-/

namespace InfraObserver

/-- The states of an entity for which an alert fires. -/
def HealthState.alerting : HealthState → Bool
  | .down | .recovering => true
  | _ => false

/-- Whether the entity of a stored record alerts; an unknown entity does not. -/
def alertingBefore (previous : Option StateRecord) : Bool :=
  previous.any fun record => record.state.alerting

@[simp] theorem alertingBefore_none : alertingBefore none = false := rfl

@[simp] theorem alertingBefore_some (record : StateRecord) :
    alertingBefore (some record) = record.state.alerting := rfl

namespace Update

/-- An update of the record `key` that carries an event exactly when the entity
starts or stops to alert. -/
structure Moves (key : String) (before : Bool) (update : Update) : Prop where
  sameKey : update.record.key = key
  events : (update.events = [] ∧ update.record.state.alerting = before) ∨
    ∃ event, update.events = [event] ∧ event.alertKey = key ∧
      event.resolves = before ∧ update.record.state.alerting = !before

end Update

namespace Definition

variable {F : Type} [GoFloat F] [Platform]

theorem applySample_moves
    (definition : Definition F)
    (record : StateRecord)
    (good : Bool)
    (sample : Observation F)
    (sameKey : record.key = definition.keyFor sample.deviceID sample.labels) :
    (definition.applySample record good sample).Moves
      (definition.keyFor sample.deviceID sample.labels) record.state.alerting := by
  cases good with
  | false =>
      rw [applySample_eq definition record _ false sample _ (step_bad_eq definition _ _) rfl]
      refine ⟨sameKey, ?_⟩
      -- A bad sample leads to DOWN, or to SUSPECT from a state without alert.
      split_ifs with reached same same
      · exact Or.inl ⟨rfl, by simp [← same]⟩
      · cases state : record.state <;> simp_all [eventFor, makeEvent, HealthState.alerting]
      · exact Or.inl ⟨rfl, by simp [← same]⟩
      · have notDown : record.state ≠ .down := fun down => reached (Or.inl down)
        have notRecovering : record.state ≠ .recovering :=
          fun recovering => reached (Or.inr (Or.inl recovering))
        cases state : record.state <;> simp_all [eventFor, HealthState.alerting]
  | true =>
      by_cases isOpen : record.state = .down ∨ record.state = .recovering
      · have outcome := step_good_open definition (stamp record sample) sample.observedAt isOpen
        split at outcome <;> rw [applySample_eq definition record _ true sample _ outcome rfl] <;>
          refine ⟨sameKey, ?_⟩ <;> rcases isOpen with state | state <;>
          simp [state, eventFor, makeEvent, HealthState.alerting]
      · obtain ⟨notDown, notRecovering⟩ := not_or.mp isOpen
        obtain ⟨_, _, outcome, _⟩ := step_good_closed definition (stamp record sample)
          sample.observedAt notDown notRecovering
        rw [applySample_eq definition record _ true sample _ outcome rfl]
        refine ⟨sameKey, ?_⟩
        cases state : record.state <;> simp_all [eventFor, HealthState.alerting]

variable {definition : Definition F} {record : StateRecord} {sample : Observation F}

omit [Platform] in
theorem judge_keeps
    {judged : StateRecord}
    {good : Bool}
    (result : definition.judge record sample = some (good, judged)) :
    judged = { record with breached := judged.breached } := by
  unfold judge at result
  split at result
  · obtain ⟨flag, _, same⟩ := Option.map_eq_some_iff.mp result
    obtain ⟨_, rfl⟩ := Prod.mk.inj same
    rfl
  · split at result
    · obtain ⟨_, rfl⟩ := Prod.mk.inj (Option.some.inj result)
      rfl
    · simp at result

theorem evaluate_cases
    (definition : Definition F)
    (previous : Option StateRecord)
    (sample : Observation F) :
    ((definition.evaluate previous sample).ignored ≠ .notIgnored ∧
        (definition.evaluate previous sample).events = []) ∨
      ∃ good judged,
        definition.evaluate previous sample = definition.applySample judged good sample ∧
          definition.judge (previous.getD (definition.freshRecord sample)) sample =
            some (good, judged) := by
  unfold evaluate
  cases previous with
  | none =>
      dsimp only
      split
      · next good judged result => exact Or.inr ⟨good, judged, rfl, result⟩
      · exact Or.inl ⟨by simp [Update.ignore], rfl⟩
  | some record =>
      dsimp only
      split_ifs
      · exact Or.inl ⟨by simp [Update.ignore], rfl⟩
      · split
        · next good judged result => exact Or.inr ⟨good, judged, rfl, result⟩
        · exact Or.inl ⟨by simp [Update.ignore], rfl⟩
      · exact Or.inl ⟨by simp [Update.ignore], rfl⟩

variable {previous : Option StateRecord}

theorem evaluate_moves
    (keyed : ∀ record ∈ previous,
      record.key = definition.keyFor sample.deviceID sample.labels)
    (applied : (definition.evaluate previous sample).ignored = .notIgnored) :
    (definition.evaluate previous sample).Moves
      (definition.keyFor sample.deviceID sample.labels) (alertingBefore previous) := by
  rcases definition.evaluate_cases previous sample with
    ⟨ignored, _⟩ | ⟨good, judged, result, verdict⟩
  · exact absurd applied ignored
  · have kept := judge_keeps verdict
    have keyEq : judged.key = definition.keyFor sample.deviceID sample.labels := by
      rw [kept]
      cases previous with
      | none => rfl
      | some record => exact keyed record rfl
    have before : judged.state.alerting = alertingBefore previous := by
      rw [kept]
      cases previous <;> rfl
    rw [result, ← before]
    exact applySample_moves definition judged good sample keyEq

theorem evaluate_event_id
    {event : Event}
    (emits : event ∈ (definition.evaluate previous sample).events) :
    event.eventID = stableID ["evt", sample.deviceID, definition.id,
        labelsKey sample.labels, event.type, sample.observationID] ∧
      event.observationID = sample.observationID := by
  have made : ∀ record good, event ∈ (definition.applySample record good sample).events →
      event.eventID = stableID ["evt", sample.deviceID, definition.id,
          labelsKey sample.labels, event.type, sample.observationID] ∧
        event.observationID = sample.observationID := by
    intro record good member
    simp only [applySample] at member
    split at member
    · simp at member
    · simp only [Option.mem_toList, eventFor] at member
      split_ifs at member <;> obtain ⟨rfl⟩ := member <;> exact ⟨rfl, rfl⟩
  rcases definition.evaluate_cases previous sample with
    ⟨_, silent⟩ | ⟨good, judged, result, _⟩
  · simp [silent] at emits
  · rw [result] at emits
    exact made _ _ emits

theorem evaluate_stamps
    (applied : (definition.evaluate previous sample).ignored = .notIgnored) :
    (definition.evaluate previous sample).record.lastObservationID = sample.observationID := by
  rcases definition.evaluate_cases previous sample with ⟨ignored, _⟩ | ⟨good, judged, result, _⟩
  · exact absurd applied ignored
  · rw [result]
    exact (applySample_stamps definition judged good sample).2.2.1

/-- What applying a sample does to the record of an entity. -/
structure Applied
    (definition : Definition F)
    (sample : Observation F)
    (before after : StateRecord)
    (good : Bool) : Prop where
  key : after.key = before.key
  deviceID : after.deviceID = before.deviceID
  definitionID : after.definitionID = before.definitionID
  labels : after.labels = before.labels
  lastObservedAt : after.lastObservedAt = sample.observedAt
  lastSeenAt : after.lastSeenAt =
    if sample.metadata.lookup "stale" = some "true" then before.lastSeenAt
    else sample.observedAt
  succeeded : good = true → after.failures = 0 ∧
    (after.state = .up ∨ after.state = .recovering ∧ before.state.alerting = true)
  failed : good = false → after.failures = before.failures + 1 ∧
    after.badSince = (if before.failures = 0 then sample.observedAt else before.badSince) ∧
    after.state =
      if before.state.alerting = true ∨ definition.failAfter ≤ after.failures ∧
          definition.failFor ≤ Time.sub sample.observedAt after.badSince then .down
      else .suspect

theorem applySample_applied
    (definition : Definition F)
    (record : StateRecord)
    (good : Bool)
    (sample : Observation F) :
    definition.Applied sample record (definition.applySample record good sample).record good := by
  cases good with
  | false =>
      rw [applySample_eq definition record _ false sample _ (step_bad_eq definition _ _) rfl]
      refine ⟨rfl, rfl, rfl, rfl, rfl, rfl, by simp, fun _ => ⟨rfl, rfl, ?_⟩⟩
      cases state : record.state <;> simp [stamp, state, HealthState.alerting, failed]
  | true =>
      by_cases isOpen : record.state = .down ∨ record.state = .recovering
      · have alerting : record.state.alerting = true := by
          rcases isOpen with state | state <;> rw [state] <;> rfl
        have outcome := step_good_open definition (stamp record sample) sample.observedAt isOpen
        split at outcome
        · rw [applySample_eq definition record _ true sample _ outcome rfl]
          exact ⟨rfl, rfl, rfl, rfl, rfl, rfl, fun _ => ⟨rfl, Or.inl rfl⟩, by simp⟩
        · rw [applySample_eq definition record _ true sample _ outcome rfl]
          exact ⟨rfl, rfl, rfl, rfl, rfl, rfl, fun _ => ⟨rfl, Or.inr ⟨rfl, alerting⟩⟩, by simp⟩
      · obtain ⟨notDown, notRecovering⟩ := not_or.mp isOpen
        obtain ⟨_, _, outcome, _⟩ := step_good_closed definition (stamp record sample)
          sample.observedAt notDown notRecovering
        rw [applySample_eq definition record _ true sample _ outcome rfl]
        exact ⟨rfl, rfl, rfl, rfl, rfl, rfl, fun _ => ⟨rfl, Or.inl rfl⟩, by simp⟩

theorem evaluate_applied
    (applied : (definition.evaluate previous sample).ignored = .notIgnored) :
    let before := previous.getD (definition.freshRecord sample)
    ∃ good judged, definition.judge before sample = some (good, judged) ∧
      definition.Applied sample before (definition.evaluate previous sample).record good := by
  intro before
  rcases definition.evaluate_cases previous sample with
    ⟨ignored, _⟩ | ⟨good, judged, result, verdict⟩
  · exact absurd applied ignored
  · refine ⟨good, judged, verdict, ?_⟩
    have kept := definition.applySample_applied judged good sample
    rw [← result, judge_keeps verdict] at kept
    exact ⟨kept.key, kept.deviceID, kept.definitionID, kept.labels, kept.lastObservedAt,
      kept.lastSeenAt, kept.succeeded, kept.failed⟩

theorem evaluate_news
    (unseen : record.lastObservationID ≠ sample.observationID)
    (newer : record.lastObservedAt < sample.observedAt)
    (judged : (definition.judge record sample).isSome = true) :
    (definition.evaluate (some record) sample).ignored = .notIgnored := by
  obtain ⟨⟨good, after⟩, verdict⟩ := Option.isSome_iff_exists.mp judged
  simp only [evaluate, unseen, newer, if_false, not_true_eq_false, verdict]
  exact (definition.applySample_stamps after good sample).1

theorem evaluate_newer
    (applied : (definition.evaluate (some record) sample).ignored = .notIgnored) :
    record.lastObservedAt < sample.observedAt := by
  by_contra late
  unfold evaluate at applied
  dsimp only at applied
  split_ifs at applied
  · simp [Update.ignore] at applied
  · simp [Update.ignore] at applied

theorem evaluate_seen
    (definition : Definition F)
    (seen : record.lastObservationID = sample.observationID) :
    (definition.evaluate (some record) sample).ignored = .duplicate := by
  simp [evaluate, seen, Update.ignore]

omit [GoFloat F] [Platform] in
theorem keyFor_ne_empty
    (definition : Definition F)
    (deviceID : String)
    (labels : StringMap String) :
    definition.keyFor deviceID labels ≠ "" := by
  simp [keyFor]

end Definition

namespace Rule

variable {F : Type} [GoFloat F] [Platform]

theorem evaluate_cases
    (rule : Rule F)
    (previous : Option StateRecord)
    (samples : List (Sample F))
    (sample : Observation F) :
    ((rule.evaluate previous samples sample).ignored ≠ .notIgnored ∧
        (rule.evaluate previous samples sample).events = []) ∨
      rule.evaluate previous samples sample = rule.applySamples previous samples sample := by
  unfold evaluate
  cases previous with
  | none => exact Or.inr rfl
  | some record =>
      dsimp only
      split_ifs
      · exact Or.inl ⟨by simp [Update.ignore], rfl⟩
      · exact Or.inr rfl
      · exact Or.inl ⟨by simp [Update.ignore], rfl⟩

variable {rule : Rule F} {previous : Option StateRecord} {samples : List (Sample F)}
    {sample : Observation F}

/-- An update of a rule that is not ignored moves its entity, and the entity of a
rule never recovers. -/
theorem evaluate_moves
    (keyed : ∀ record ∈ previous, record.key = rule.keyFor sample.deviceID sample.labels)
    (settled : ∀ record ∈ previous, record.state ≠ .recovering)
    (applied : (rule.evaluate previous samples sample).ignored = .notIgnored) :
    (rule.evaluate previous samples sample).Moves
        (rule.keyFor sample.deviceID sample.labels) (alertingBefore previous) ∧
      (rule.evaluate previous samples sample).record.state ≠ .recovering := by
  have active : (previous.any fun record => record.state = .down) = alertingBefore previous := by
    cases previous with
    | none => rfl
    | some record =>
        have notRecovering := settled record rfl
        cases state : record.state <;> simp_all [HealthState.alerting]
  have sameKey : (previous.getD (rule.freshRecord sample)).key =
      rule.keyFor sample.deviceID sample.labels := by
    cases previous with
    | none => rfl
    | some record => exact keyed record rfl
  have sameState : (previous.getD (rule.freshRecord sample)).state.alerting =
      alertingBefore previous := by
    cases previous <;> rfl
  have neverRecovers : (previous.getD (rule.freshRecord sample)).state ≠ .recovering := by
    cases previous with
    | none => simp [freshRecord]
    | some record => exact settled record rfl
  have moves : (rule.applySamples previous samples sample).Moves
        (rule.keyFor sample.deviceID sample.labels) (alertingBefore previous) ∧
      (rule.applySamples previous samples sample).record.state ≠ .recovering := by
    simp only [applySamples, active]
    split
    · split <;> exact ⟨⟨sameKey, Or.inl ⟨rfl, sameState⟩⟩, neverRecovers⟩
    · next changed =>
        refine ⟨⟨sameKey, Or.inr ⟨_, rfl, rfl, rfl, ?_⟩⟩, ?_⟩
        · cases before : alertingBefore previous <;>
            cases holds : (rule.condition.holds samples).1 <;>
            simp_all [HealthState.alerting]
        · dsimp only
          split <;> simp
  rcases rule.evaluate_cases previous samples sample with ⟨ignored, _⟩ | result
  · exact absurd applied ignored
  · rw [result]
    exact moves

theorem evaluate_event_id
    {event : Event}
    (emits : event ∈ (rule.evaluate previous samples sample).events) :
    event.eventID = stableID ["evt", sample.deviceID, rule.id,
        labelsKey (rule.eventLabels sample.labels), event.type, sample.observationID] ∧
      event.observationID = sample.observationID := by
  rcases rule.evaluate_cases previous samples sample with ⟨_, silent⟩ | result
  · simp [silent] at emits
  · rw [result] at emits
    simp only [applySamples] at emits
    split at emits
    · simp at emits
    · obtain rfl := List.mem_singleton.mp emits
      exact ⟨rfl, rfl⟩

theorem evaluate_stamps
    (applied : (rule.evaluate previous samples sample).ignored = .notIgnored) :
    (rule.evaluate previous samples sample).record.lastObservationID =
      sample.observationID := by
  rcases rule.evaluate_cases previous samples sample with ⟨ignored, _⟩ | result
  · exact absurd applied ignored
  · rw [result]
    simp only [applySamples]
    split
    · split <;> rfl
    · rfl

/-- An update that is not ignored makes the rule DOWN exactly when its condition
holds, keeps the other fields of the record, and carries an event exactly when
the rule starts or stops to hold. -/
theorem evaluate_applied
    (applied : (rule.evaluate previous samples sample).ignored = .notIgnored) :
    let update := rule.evaluate previous samples sample
    let active := previous.any fun record => record.state = .down
    let judged := rule.condition.holds samples
    update.record.definitionID = (previous.getD (rule.freshRecord sample)).definitionID ∧
      update.record.deviceID = (previous.getD (rule.freshRecord sample)).deviceID ∧
      update.record.lastObservedAt = sample.observedAt ∧
      decide (update.record.state = .down) = judged.1 ∧
      update.events =
        if active = judged.1 then [] else [rule.makeEvent active sample judged.2] := by
  intro update active judged
  have result : update = rule.applySamples previous samples sample := by
    rcases rule.evaluate_cases previous samples sample with ⟨ignored, _⟩ | result
    · exact absurd applied ignored
    · exact result
  have before : decide ((previous.getD (rule.freshRecord sample)).state = .down) = active := by
    cases previous <;> rfl
  rw [result]
  simp only [applySamples]
  by_cases same : active = (rule.condition.holds samples).1
  · rw [if_pos same, if_pos same, ← same]
    split <;> exact ⟨rfl, rfl, rfl, before, rfl⟩
  · rw [if_neg same, if_neg same]
    refine ⟨rfl, rfl, rfl, ?_, rfl⟩
    dsimp only
    cases (rule.condition.holds samples).1 <;> rfl

theorem evaluate_newer
    {record : StateRecord}
    (applied : (rule.evaluate (some record) samples sample).ignored = .notIgnored) :
    record.lastObservedAt < sample.observedAt := by
  by_contra late
  unfold evaluate at applied
  dsimp only at applied
  split_ifs at applied
  · simp [Update.ignore] at applied
  · simp [Update.ignore] at applied

theorem evaluate_news
    (news : ∀ record ∈ previous, record.lastObservationID ≠ sample.observationID ∧
      record.lastObservedAt < sample.observedAt) :
    (rule.evaluate previous samples sample).ignored = .notIgnored := by
  have applied : (rule.applySamples previous samples sample).ignored = .notIgnored := by
    simp only [applySamples]
    split <;> rfl
  cases previous with
  | none => exact applied
  | some record =>
      obtain ⟨other, newer⟩ := news record rfl
      simp only [evaluate]
      rw [if_neg other, if_neg (not_not.mpr newer)]
      exact applied

theorem evaluate_seen
    (rule : Rule F)
    {record : StateRecord}
    (seen : record.lastObservationID = sample.observationID) :
    (rule.evaluate (some record) samples sample).ignored = .duplicate := by
  simp [evaluate, seen, Update.ignore]

omit [GoFloat F] [Platform] in
theorem keyFor_ne_empty
    (rule : Rule F)
    (deviceID : String)
    (labels : StringMap String) :
    rule.keyFor deviceID labels ≠ "" := by
  simp [keyFor]

end Rule

end InfraObserver
