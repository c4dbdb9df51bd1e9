import InfraObserver.Domain.Ids
import InfraObserver.Library.Keyed

/-!
# State definitions

A definition declares one tracked state: which metric is observed, how a sample
is judged good or bad, and how many samples it takes to change state. Only
validated definitions enter a definition set.
-/

namespace InfraObserver

/-- An event emitted on a transition. -/
structure EventSpec where
  event : String
  severity : Severity
  message : String
  deriving DecidableEq

/-- Classifies a boolean metric. -/
structure GoodWhen where
  equals : Option Bool
  deriving DecidableEq

/-- Classifies a numeric metric with hysteresis. -/
structure Threshold (F : Type) where
  breachAbove : Option F
  clearBelow : Option F
  breachBelow : Option F
  clearAbove : Option F
  deriving DecidableEq

/-- One tracked state. -/
structure Definition (F : Type) where
  id : String
  metric : String
  keyLabels : List String
  /-- Device types the definition is restricted to; none means all. -/
  deviceTypes : List String
  goodWhen : Option GoodWhen
  threshold : Option (Threshold F)
  failAfter : ℤ
  failFor : Duration
  recoverAfter : ℤ
  recoverFor : Duration
  stale : Bool
  alert : EventSpec
  recovery : EventSpec
  deriving DecidableEq

/-- A problem text, when a condition holds. -/
def problemIf (condition : Bool) (text : String) : List String :=
  if condition then [text] else []

@[simp] theorem problemIf_eq_nil
    (condition : Bool)
    (text : String) :
    problemIf condition text = [] ↔ condition = false := by
  cases condition <;> simp [problemIf]

namespace Threshold

variable {F : Type} [GoFloat F]

/-- The problems of a threshold. As in the source, only the first one that
applies is reported. -/
def problems (threshold : Threshold F) : List String :=
  let above := threshold.breachAbove.isSome || threshold.clearBelow.isSome
  let below := threshold.breachBelow.isSome || threshold.clearAbove.isSome
  if above == below then
    ["threshold needs either breach_above+clear_below or breach_below+clear_above"]
  else if above then
    match threshold.breachAbove, threshold.clearBelow with
    | some breach, some clear =>
        problemIf (breach < clear) "clear_below must not exceed breach_above"
    | _, _ => ["threshold needs both breach_above and clear_below"]
  else
    match threshold.breachBelow, threshold.clearAbove with
    | some breach, some clear =>
        problemIf (clear < breach) "clear_above must not be less than breach_below"
    | _, _ => ["threshold needs both breach_below and clear_above"]

end Threshold

namespace Definition

variable {F : Type} [GoFloat F] [Platform]
variable (definition : Definition F)

/-- The problems `validate` collects, in its order. -/
def problems : List String :=
  problemIf (definition.id = "") "id is required" ++
    problemIf (definition.metric = "") "metric is required" ++
    problemIf (definition.goodWhen.isNone == definition.threshold.isNone)
      "exactly one of good_when or threshold is required" ++
    problemIf (definition.goodWhen.any fun good => good.equals.isNone)
      "good_when.equals is required" ++
    (definition.threshold.map Threshold.problems).getD [] ++
    problemIf (definition.failAfter < 1 || definition.recoverAfter < 1)
      "fail_after and recover_after must be at least 1" ++
    problemIf (definition.failFor < Duration.zero || definition.recoverFor < Duration.zero)
      "fail_for and recover_for must not be negative" ++
    problemIf (definition.alert.event = "" || !definition.alert.severity.valid)
      "alert.event and a valid alert.severity are required" ++
    problemIf (definition.recovery.event = "" || !definition.recovery.severity.valid)
      "recovery.event and a valid recovery.severity are required" ++
    (definition.deviceTypes.filter fun text => !DeviceType.valid text).map fun text =>
      "unknown device type " ++ quote text

/-- `Definition.validate`. -/
def validate : Except Error Unit :=
  match definition.problems with
  | [] => .ok ()
  | found => .error (Error.errorf .validation
      ("state definition " ++ quote definition.id ++ ": " ++ String.intercalate "; " found))

/-- A definition that validation accepts. -/
def Valid : Prop :=
  definition.validate = .ok ()

theorem valid_iff_problems : definition.Valid ↔ definition.problems = [] := by
  unfold Valid validate
  split
  · next none => simp [none]
  · next some => simpa using some

theorem Valid.bounds
    {definition : Definition F}
    (valid : definition.Valid) :
    1 ≤ definition.failAfter ∧ 1 ≤ definition.recoverAfter ∧
      Duration.zero ≤ definition.failFor ∧ Duration.zero ≤ definition.recoverFor := by
  rw [valid_iff_problems] at valid
  simp only [problems, List.append_eq_nil_iff, problemIf_eq_nil,
    Bool.or_eq_false_iff, decide_eq_false_iff_not, Duration.lt_def] at valid
  simp only [Duration.le_def]
  omega

/-- `Definition.appliesTo`. -/
def appliesTo (deviceType : DeviceType) : Bool :=
  definition.deviceTypes.isEmpty ||
    definition.deviceTypes.any fun text => text = deviceType.name

end Definition

/-- A validated set of definitions with distinct ids, in file order. -/
structure Definitions (F : Type) [GoFloat F] [Platform] where
  all : List (Definition F)
  valid : ∀ definition ∈ all, definition.Valid
  distinct : (all.map Definition.id).Nodup

namespace Definitions

variable {F : Type} [GoFloat F] [Platform]

/-- The loop of `Parse` over the decoded definitions. Ids already taken are
those of the definitions kept so far. -/
def parse : List (Definition F) → Definitions F → Except Error (Definitions F)
  | [], kept => .ok kept
  | definition :: rest, kept =>
      match accepted : definition.validate with
      | .error failure => .error failure
      | .ok _ =>
          if taken : definition.id ∈ kept.all.map Definition.id then
            .error (Error.errorf .validation
              ("duplicate state definition " ++ quote definition.id))
          else
            parse rest
              { all := kept.all ++ [definition]
                valid := List.forall_mem_append.mpr
                  ⟨kept.valid, List.forall_mem_singleton.mpr accepted⟩
                distinct := Keyed.nodup_map_concat kept.distinct taken }

variable (definitions : Definitions F)

/-- `Definitions.For`: the definitions that track a metric on a device type. -/
def forMetric (metric : String) (deviceType : DeviceType) :
    List (Definition F) :=
  definitions.all.filter fun definition =>
    definition.metric = metric && definition.appliesTo deviceType

/-- `Definitions.Get`. -/
def get (id : String) : Option (Definition F) :=
  definitions.all.find? fun definition => definition.id = id

theorem forMetric_subset
    (metric : String)
    (deviceType : DeviceType) :
    ∀ definition ∈ definitions.forMetric metric deviceType,
      definition ∈ definitions.all := by
  intro definition member
  exact (List.mem_filter.mp member).1

theorem forMetric_distinct
    (metric : String)
    (deviceType : DeviceType) :
    ((definitions.forMetric metric deviceType).map Definition.id).Nodup :=
  definitions.distinct.sublist (List.filter_sublist.map _)

end Definitions

end InfraObserver
