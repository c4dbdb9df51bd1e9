import InfraObserver.State.Engine

/-!
# Monitoring rules

A rule asks a question about a series over a window: how often a boolean
changed, or whether an aggregate passes a limit. Only validated rules enter a
rule set.
-/

namespace InfraObserver

/-- Selects which observations a rule looks at. -/
structure Match where
  deviceType : List String
  metric : String
  site : String
  tags : List String
  deriving DecidableEq

/-- A transition count, or a windowed aggregate compared against a limit. -/
structure Condition (F : Type) where
  transitions : ℤ
  within : Duration
  averageOver : Duration
  maxOver : Duration
  minOver : Duration
  greaterThan : Option F
  lessThan : Option F
  /-- An aggregate over fewer samples is no data. -/
  minSamples : ℤ
  deriving DecidableEq

/-- One monitoring rule. -/
structure Rule (F : Type) where
  id : String
  matchOn : Match
  condition : Condition F
  severity : Severity
  event : String
  clearEvent : String
  message : String
  deriving DecidableEq

namespace Condition

variable {F : Type}

/-- The aggregate windows, in the order of the source. -/
def aggregates (condition : Condition F) : List Duration :=
  [condition.averageOver, condition.maxOver, condition.minOver]

/-- The problems of a condition, in the order in which `validate` finds them. -/
def problems (condition : Condition F) : List String :=
  let counting := 0 < condition.transitions || Duration.zero < condition.within
  let used := condition.aggregates.filter fun window => window.ns ≠ 0
  let kinds := (if counting then 1 else 0) + if used.length = 1 then 1 else 0
  problemIf (counting && (condition.transitions < 1 || condition.within ≤ Duration.zero))
      "transitions needs both a count >= 1 and a within window" ++
    (used.filter fun window => window < Duration.zero).map
      (fun _ => "aggregate windows must be positive") ++
    problemIf (1 < used.length) "use only one of average_over, max_over, min_over" ++
    (if used.length = 1 then
      problemIf (condition.greaterThan.isNone == condition.lessThan.isNone)
        "an aggregate needs exactly one of greater_than or less_than"
    else
      problemIf (condition.greaterThan.isSome || condition.lessThan.isSome)
        "greater_than/less_than need average_over, max_over or min_over") ++
    problemIf (kinds ≠ 1)
      "condition must be exactly one of transitions+within or an aggregate" ++
    problemIf (condition.minSamples < 0) "min_samples must not be negative"

end Condition

namespace Rule

variable {F : Type} (rule : Rule F)

/-- `Rule.Window`: how far back the rule needs samples. -/
def window : Duration :=
  if 0 < rule.condition.transitions then rule.condition.within
  else if Duration.zero < rule.condition.averageOver then rule.condition.averageOver
  else if Duration.zero < rule.condition.maxOver then rule.condition.maxOver
  else rule.condition.minOver

/-- `eventName`, with its default. -/
def eventName : String :=
  if rule.event ≠ "" then rule.event else "rule.triggered"

/-- `clearEventName`, with its default. -/
def clearEventName : String :=
  if rule.clearEvent ≠ "" then rule.clearEvent else "rule.cleared"

variable [Platform]

/-- The problems `validate` collects, in its order. -/
def problems : List String :=
  problemIf (rule.id = "") "id is required" ++
    problemIf (rule.matchOn.metric = "") "match.metric is required" ++
    ((rule.matchOn.deviceType.filter fun text => !DeviceType.valid text).map fun text =>
      "unknown device type " ++ quote text) ++
    problemIf (!rule.severity.valid) "severity must be info, warning or critical" ++
    rule.condition.problems

/-- `Rule.validate`. -/
def validate : Except Error Unit :=
  match rule.problems with
  | [] => .ok ()
  | found => .error (Error.errorf .validation
      ("rule " ++ quote rule.id ++ ": " ++ String.intercalate "; " found))

/-- A rule that validation accepts. -/
def Valid : Prop :=
  rule.validate = .ok ()

theorem valid_iff_problems : rule.Valid ↔ rule.problems = [] := by
  unfold Valid validate
  split
  · next none => simp [none]
  · next some => simpa using some

/-- Whether a rule applies to a device, once the metric matches. -/
def appliesTo (device : Device) : Bool :=
  (rule.matchOn.deviceType.isEmpty ||
      rule.matchOn.deviceType.contains device.deviceType.name) &&
    (rule.matchOn.site = "" || rule.matchOn.site = device.site) &&
    rule.matchOn.tags.all device.hasTag

end Rule

/-- A validated set of rules with distinct ids, in file order. -/
structure Rules (F : Type) [Platform] where
  all : List (Rule F)
  valid : ∀ rule ∈ all, rule.Valid
  distinct : (all.map Rule.id).Nodup

namespace Rules

variable {F : Type} [Platform]

/-- The loop of `Parse` over the decoded rules. -/
def parse : List (Rule F) → Rules F → Except Error (Rules F)
  | [], kept => .ok kept
  | rule :: rest, kept =>
      match accepted : rule.validate with
      | .error failure => .error failure
      | .ok _ =>
          if taken : rule.id ∈ kept.all.map Rule.id then
            .error (Error.errorf .validation ("duplicate rule id " ++ quote rule.id))
          else
            parse rest
              { all := kept.all ++ [rule]
                valid := List.forall_mem_append.mpr
                  ⟨kept.valid, List.forall_mem_singleton.mpr accepted⟩
                distinct := Keyed.nodup_map_concat kept.distinct taken }

/-- No rules: what a nil rule set answers. -/
def empty : Rules F := ⟨[], by simp, by simp⟩

/-- `Rules.For`: the rules that apply to a metric observed on a device. -/
def forMetric (rules : Rules F) (metric : String) (device : Device) : List (Rule F) :=
  rules.all.filter fun rule => rule.matchOn.metric = metric && rule.appliesTo device

theorem forMetric_distinct
    (rules : Rules F)
    (metric : String)
    (device : Device) :
    ((rules.forMetric metric device).map Rule.id).Nodup :=
  rules.distinct.sublist (List.filter_sublist.map _)

end Rules

namespace Condition

variable {F : Type} [GoFloat F]

/-- `truthy`. -/
def truthy (sample : Sample F) : Bool :=
  match sample.bool with
  | some flag => flag
  | none => sample.num ≠ 0

/-- How often neighbouring samples differ. -/
def flips : List (Sample F) → ℕ
  | earlier :: later :: rest =>
      (if truthy later ≠ truthy earlier then 1 else 0) + flips (later :: rest)
  | _ => 0

/-- The aggregate of a series that is not empty. -/
def aggregate (condition : Condition F) (samples : List (Sample F)) : F :=
  let first := (samples.head?.map Sample.num).getD 0
  if Duration.zero < condition.averageOver then
    samples.foldl (fun sum sample => sum + sample.num) 0 / (samples.length : F)
  else if Duration.zero < condition.maxOver then
    samples.foldl (fun measured sample => max measured sample.num) first
  else
    samples.foldl (fun measured sample => min measured sample.num) first

/-- `condition`: whether the condition holds over the samples, and the measured
number. The default limit stands for a nil pointer, which validation excludes. -/
def holds (condition : Condition F) (samples : List (Sample F)) : Bool × F :=
  if 0 < condition.transitions then
    (condition.transitions ≤ flips samples, (flips samples : F))
  else if (samples.length : ℤ) <
      (if condition.minSamples = 0 then 3 else condition.minSamples) then
    -- Not enough data is not a breach.
    (false, 0)
  else
    let measured := condition.aggregate samples
    match condition.greaterThan with
    | some limit => (limit < measured, measured)
    | none => (measured < condition.lessThan.getD 0, measured)

end Condition

namespace Rule

variable {F : Type} [GoFloat F] [Platform] (rule : Rule F)

/-- `KeyFor`: one activation per rule, device and full label set. -/
def keyFor (deviceID : String) (labels : StringMap String) : String :=
  "rule:" ++ rule.id ++ "/" ++ deviceID ++ "/" ++ labelsKey labels

/-- `render` of a rule message. -/
def render (clear : Bool) (sample : Observation F) (measured : F) : String :=
  if rule.message = "" then
    if clear then "rule " ++ rule.id ++ " cleared on " ++ sample.deviceID
    else "rule " ++ rule.id ++ " triggered on " ++ sample.deviceID
  else
    Text.replace
      ([("\x7bdevice\x7d", sample.deviceID),
          ("\x7bvalue\x7d", GoFloat.formatGeneral measured), ("\x7brule\x7d", rule.id)] ++
        labelPairs sample.labels)
      rule.message

/-- The labels of a rule's events. -/
def eventLabels (labels : StringMap String) : StringMap String :=
  labels.insert "rule_id" rule.id

/-- The event of a rule that starts or stops to hold. -/
def makeEvent
    (resolves : Bool)
    (sample : Observation F)
    (measured : F) : Event where
  eventID := stableID ["evt", sample.deviceID, rule.id,
    labelsKey (rule.eventLabels sample.labels),
    if resolves then rule.clearEventName else rule.eventName, sample.observationID]
  correlationID := sample.correlationID
  deviceID := sample.deviceID
  type := if resolves then rule.clearEventName else rule.eventName
  severity := if resolves then .info else rule.severity
  message := rule.render resolves sample measured
  labels := rule.eventLabels sample.labels
  occurredAt := sample.observedAt
  observationID := sample.observationID
  source := "rule:" ++ rule.id
  alertKey := rule.keyFor sample.deviceID sample.labels
  resolves := resolves

/-- The transition of a rule that starts or stops to hold. -/
def makeTransition
    (fromState : HealthState)
    (key : String)
    (record : StateRecord)
    (sample : Observation F) : Transition where
  transitionID := stableID ["tr", key, sample.observationID]
  key := key
  deviceID := sample.deviceID
  definitionID := record.definitionID
  labels := record.labels
  fromState := fromState
  toState := record.state
  instant := sample.observedAt
  observationID := sample.observationID
  correlationID := sample.correlationID

/-- The record of a rule before its first sample. -/
def freshRecord (sample : Observation F) : StateRecord :=
  { StateRecord.zero with
    key := rule.keyFor sample.deviceID sample.labels
    deviceID := sample.deviceID
    definitionID := "rule:" ++ rule.id
    labels := sample.labels
    state := .up }

/-- The part of `Evaluate` after the sample was found to be news. -/
def applySamples
    (previous : Option StateRecord)
    (samples : List (Sample F))
    (sample : Observation F) : Update :=
  let key := rule.keyFor sample.deviceID sample.labels
  let active := previous.any fun record => record.state = .down
  let (holds, measured) := rule.condition.holds samples
  let record :=
    { previous.getD (rule.freshRecord sample) with
      lastObservedAt := sample.observedAt
      lastObservationID := sample.observationID
      lastSeenAt := sample.observedAt
      lastValue := GoFloat.formatGeneral measured }
  if active = holds then
    { record :=
        if previous.isNone then { record with lastTransitionAt := sample.observedAt } else record
      transitions := []
      events := []
      ignored := .notIgnored }
  else
    let record :=
      { record with
        state := if holds then .down else .up
        lastTransitionAt := sample.observedAt }
    let fromState := (previous.map StateRecord.state).getD .up
    { record
      transitions := [makeTransition fromState key record sample]
      events := [rule.makeEvent active sample measured]
      ignored := .notIgnored }

/-- `Evaluate`: apply a rule at the time of an observation, given the samples of
the series up to and including it. -/
def evaluate
    (previous : Option StateRecord)
    (samples : List (Sample F))
    (sample : Observation F) : Update :=
  match previous with
  | some record =>
      if record.lastObservationID = sample.observationID then .ignore record .duplicate
      else if ¬ record.lastObservedAt < sample.observedAt then .ignore record .stale
      else rule.applySamples previous samples sample
  | none => rule.applySamples none samples sample

/-- A rule that holds while the last value of a minute is unreachable. -/
def unreachable : Rule ℤ where
  id := "unreachable"
  matchOn := { deviceType := [], metric := "device.reachable", site := "", tags := [] }
  condition :=
    { transitions := 0
      within := .zero
      averageOver := .zero
      maxOver := .minute
      minOver := .zero
      greaterThan := none
      lessThan := some 1
      minSamples := 1 }
  severity := .warning
  event := "flapping"
  clearEvent := ""
  message := ""

end Rule

end InfraObserver
