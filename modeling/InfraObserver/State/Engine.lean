import InfraObserver.State.Definition

/-!
# The state engine

`evaluate` applies one observation to a definition and to the previous record
of the entity. It is a pure function: it reads no clock and performs no I/O.
-/

namespace InfraObserver

/-- Why a sample did not change anything. -/
inductive IgnoreReason
  | notIgnored
  | duplicate
  | stale
  | wrongType
  deriving DecidableEq

/-- Result of applying one observation to one definition or rule. -/
structure Update where
  record : StateRecord
  transitions : List Transition
  events : List Event
  ignored : IgnoreReason
  deriving DecidableEq

namespace StateRecord

/-- The zero value of a record. -/
def zero : StateRecord where
  key := ""
  deviceID := ""
  definitionID := ""
  labels := ∅
  state := .unset
  failures := 0
  successes := 0
  breached := false
  badSince := 0
  goodSince := 0
  lastObservedAt := 0
  lastSeenAt := 0
  lastObservationID := ""
  lastTransitionAt := 0
  lastValue := ""

end StateRecord

/-- An update that leaves the previous record alone. -/
def Update.ignore (previous : StateRecord) (reason : IgnoreReason) : Update where
  record := previous
  transitions := []
  events := []
  ignored := reason

namespace Threshold

variable {F : Type} [GoFloat F]

/-- Side of the hysteresis band after one more value. -/
def breachedAfter (threshold : Threshold F) (breached : Bool) (number : F) : Bool :=
  match threshold.breachAbove with
  | some limit =>
      if breached then !(number < threshold.clearBelow.getD 0) else limit < number
  | none =>
      if breached then !(threshold.clearAbove.getD 0 < number)
      else number < threshold.breachBelow.getD 0

end Threshold

namespace Definition

variable {F : Type} [GoFloat F] [Platform] (definition : Definition F)

/-- The key labels that are present among the labels of a sample. -/
def keyLabelsOf (labels : StringMap String) : StringMap String :=
  definition.keyLabels.foldl (fun kept name =>
    match labels.lookup name with
    | some value => kept.insert name value
    | none => kept) ∅

omit [GoFloat F] [Platform] in
theorem lookup_keyLabelsOf
    (labels : StringMap String)
    (name : String) :
    (definition.keyLabelsOf labels).lookup name =
      if name ∈ definition.keyLabels then labels.lookup name else none := by
  suffices general : ∀ (names : List String) (kept : StringMap String),
      (names.foldl (fun kept name =>
        match labels.lookup name with
        | some value => kept.insert name value
        | none => kept) kept).lookup name =
        if name ∈ names ∧ (labels.lookup name).isSome = true then labels.lookup name
        else kept.lookup name by
    refine (general _ _).trans ?_
    cases labels.lookup name <;> simp
  intro names
  induction names with
  | nil => simp
  | cons head rest ih =>
      intro kept
      rw [List.foldl_cons, ih]
      by_cases same : name = head
      · subst same
        cases found : labels.lookup name <;> simp
      · cases labels.lookup head <;> simp [same]

/-- `KeyFor`: the definition, the device and the definition's key labels. -/
def keyFor (deviceID : String) (labels : StringMap String) :
    String :=
  definition.id ++ "/" ++ deviceID ++ "/" ++ labelsKey (definition.keyLabelsOf labels)

section

variable (record : StateRecord)

/-- `judge`: classify a sample as good or bad, with the record's hysteresis
memory after it. No result means that the value has the wrong type. The
default values stand for nil pointers, which validation excludes. -/
def judge (sample : Observation F) :
    Option (Bool × StateRecord) :=
  match definition.goodWhen with
  | some good =>
      sample.value.asBool.map fun flag => (flag == good.equals.getD false, record)
  | none =>
      match sample.value.numeric, definition.threshold with
      | some number, some threshold =>
          let breached := threshold.breachedAfter record.breached number
          some (!breached, { record with breached })
      | _, _ => none

/-- Counters after one more good sample while an alert is open. -/
def succeeded (instant : Time) : StateRecord :=
  { record with
    failures := 0
    badSince := 0
    goodSince := if record.successes = 0 then instant else record.goodSince
    successes := record.successes + 1 }

/-- Counters after one more bad sample. -/
def failed (instant : Time) : StateRecord :=
  { record with
    successes := 0
    goodSince := 0
    badSince := if record.failures = 0 then instant else record.badSince
    failures := record.failures + 1 }

/-- The good branch of `step` from the state `current`. -/
def stepGood
    (current : HealthState)
    (instant : Time) : HealthState × StateRecord :=
  match current with
  | .down | .recovering =>
      let record := succeeded record instant
      if definition.recoverAfter ≤ record.successes ∧
          definition.recoverFor ≤ Time.sub instant record.goodSince then
        (.up, { record with successes := 0, goodSince := 0 })
      else
        (.recovering, record)
  -- From SUSPECT it was a false alarm: nothing was ever reported.
  | _ => (.up, { record with failures := 0, badSince := 0 })

/-- The bad branch of `step` from the state `current`. -/
def stepBad
    (current : HealthState)
    (instant : Time) : HealthState × StateRecord :=
  let record := failed record instant
  match current with
  -- Still or again down: the alert opened earlier is still open.
  | .down | .recovering => (.down, record)
  | _ =>
      if definition.failAfter ≤ record.failures ∧
          definition.failFor ≤ Time.sub instant record.badSince then
        (.down, record)
      else
        (.suspect, record)

/-- `step`: advance the health machine by one sample. -/
def step
    (good : Bool)
    (instant : Time) : HealthState × StateRecord :=
  -- The first sight of an entity is adopted without alerting; a bad first
  -- sample is judged like any bad sample from UP.
  if record.state = .unset ∧ good = true then
    (.up, { record with failures := 0, successes := 0 })
  else
    let current := if record.state = .unset then .up else record.state
    if good then definition.stepGood record current instant
    else definition.stepBad record current instant

end

/-- `render`: substitute `{device}`, `{value}` and `{<label>}` placeholders. -/
def render (template : String) (sample : Observation F) : String :=
  if template = "" then ""
  else
    let hostname := (sample.metadata.lookup "hostname").getD ""
    Text.replace
      ([("\x7bdevice\x7d", sample.deviceID), ("\x7bvalue\x7d", sample.value.format)] ++
        labelPairs sample.labels ++
        if hostname = "" then [] else [("\x7bhostname\x7d", hostname)])
      template

/-- The event of a transition that opens or resolves an alert. -/
def makeEvent
    (key : String)
    (spec : EventSpec)
    (resolves : Bool)
    (sample : Observation F) : Event where
  eventID := stableID ["evt", sample.deviceID, definition.id, labelsKey sample.labels,
    spec.event, sample.observationID]
  correlationID := sample.correlationID
  deviceID := sample.deviceID
  type := spec.event
  severity := spec.severity
  message := render spec.message sample
  labels := sample.labels
  occurredAt := sample.observedAt
  observationID := sample.observationID
  source := definition.id
  alertKey := key
  resolves := resolves

section

variable (key : String) (fromState toState : HealthState) (sample : Observation F)

/-- `eventFor`: only entering DOWN and returning to UP after it are events. -/
def eventFor : Option Event :=
  if toState = .down ∧ fromState ≠ .recovering then
    some (definition.makeEvent key definition.alert false sample)
  else if toState = .up ∧ (fromState = .recovering ∨ fromState = .down) then
    some (definition.makeEvent key definition.recovery true sample)
  else
    none

/-- The transition recorded by a state change. -/
def makeTransition : Transition where
  transitionID := stableID ["tr", key, sample.observationID]
  key := key
  deviceID := sample.deviceID
  definitionID := definition.id
  labels := definition.keyLabelsOf sample.labels
  fromState := fromState
  toState := toState
  instant := sample.observedAt
  observationID := sample.observationID
  correlationID := sample.correlationID

end

/-- The record of an entity before its first sample. -/
def freshRecord (sample : Observation F) : StateRecord :=
  { StateRecord.zero with
    key := definition.keyFor sample.deviceID sample.labels
    deviceID := sample.deviceID
    definitionID := definition.id
    labels := definition.keyLabelsOf sample.labels }

/-- The fields every applied sample sets. Synthetic samples must not reset the
staleness clock. -/
def stamp (record : StateRecord) (sample : Observation F) : StateRecord :=
  { record with
    lastObservedAt := sample.observedAt
    lastObservationID := sample.observationID
    lastValue := sample.value.format
    lastSeenAt :=
      if sample.metadata.lookup "stale" = some "true" then record.lastSeenAt
      else sample.observedAt }

/-- The part of `Evaluate` after the sample was judged. -/
def applySample
    (record : StateRecord)
    (good : Bool)
    (sample : Observation F) : Update :=
  let key := definition.keyFor sample.deviceID sample.labels
  let fromState := record.state
  let (toState, record) := definition.step (stamp record sample) good sample.observedAt
  if toState = fromState then
    { record, transitions := [], events := [], ignored := .notIgnored }
  else
    { record := { record with state := toState, lastTransitionAt := sample.observedAt }
      transitions := [definition.makeTransition key fromState toState sample]
      events := (definition.eventFor key fromState toState sample).toList
      ignored := .notIgnored }

/-- `Evaluate`: apply one observation to a definition and the entity's previous
record, if it has one. -/
def evaluate
    (previous : Option StateRecord)
    (sample : Observation F) : Update :=
  match previous with
  | none =>
      match definition.judge (definition.freshRecord sample) sample with
      | some (good, record) => definition.applySample record good sample
      | none => .ignore .zero .wrongType
  | some record =>
      if record.lastObservationID = sample.observationID then .ignore record .duplicate
      else if ¬ record.lastObservedAt < sample.observedAt then .ignore record .stale
      else
        match definition.judge record sample with
        | some (good, judged) => definition.applySample judged good sample
        | none => .ignore record .wrongType

end Definition

namespace Definitions

variable {F : Type} [GoFloat F] [Platform]

/-- The synthetic sample of `StaleSamples` for one record, when it is due. -/
def staleSample
    (definitions : Definitions F)
    (now : Time)
    (staleAfter bucket : Duration)
    (record : StateRecord) : Option (Observation F) :=
  match definitions.get record.definitionID with
  | none => none
  | some definition =>
      if !definition.stale || record.state = .down then none
      else if Time.sub now record.lastSeenAt < staleAfter then none
      else
        let instant := Time.truncate now bucket
        let id := stableID ["stale", record.key, toString (Time.unix instant)]
        some
          { observationID := id
            correlationID := id
            deviceID := record.deviceID
            source := "sweeper"
            metric := definition.metric
            value := .bool (match definition.goodWhen with
              | some good => !good.equals.getD false
              | none => false)
            labels := record.labels
            observedAt := instant
            receivedAt := 0
            metadata := ((∅ : StringMap String).insert "stale" "true").insert
              "last_seen_at" (Platform.rfc3339 record.lastSeenAt) }

/-- `StaleSamples`: failed samples for stale-tracked entities that have not been
heard from for `staleAfter`. -/
def staleSamples
    (definitions : Definitions F)
    (records : List StateRecord)
    (now : Time)
    (staleAfter bucket : Duration) : List (Observation F) :=
  records.filterMap (definitions.staleSample now staleAfter bucket)

end Definitions

end InfraObserver
