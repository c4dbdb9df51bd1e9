import InfraObserver.Domain.Time
import InfraObserver.Library.Json
import InfraObserver.Library.StringMap

/-!
# Records of the monitoring pipeline

Devices, observations, state records, transitions, events and alerts, with the
fields that the modelled functions read or write. Numeric observation values
range over a type `F` that stands for `float64`.
-/

namespace InfraObserver

/-! ## Failures -/

/-- Classes of failures; only some are worth retrying. -/
inductive Category
  | transient
  | permanent
  | validation
  | authentication
  | unsupported
  | timeout
  | dependency
  | script
  deriving DecidableEq

namespace Category

/-- The text of a category. -/
def name : Category → String
  | .transient => "transient"
  | .permanent => "permanent"
  | .validation => "validation"
  | .authentication => "authentication"
  | .unsupported => "unsupported"
  | .timeout => "timeout"
  | .dependency => "dependency"
  | .script => "script"

/-- Whether an operation that failed with this category may be tried again. -/
def retryable : Category → Bool
  | .transient | .timeout | .dependency => true
  | _ => false

end Category

/-- An error: the category `CategoryOf` reports and the text of `Error()`. -/
structure Error where
  category : Category
  text : String
  deriving DecidableEq

namespace Error

/-- `domain.Errorf`. -/
def errorf (category : Category) (message : String) : Error :=
  ⟨category, category.name ++ ": " ++ message⟩

/-- `domain.IsRetryable`. -/
def isRetryable (failure : Error) : Bool :=
  failure.category.retryable

end Error

/-! ## Devices -/

/-- The coarse class of a registered device. -/
inductive DeviceType
  | switch
  | accessPoint
  | router
  | server
  | workstation
  | printer
  | ups
  | generic
  deriving DecidableEq

namespace DeviceType

/-- The text of a device type. -/
def name : DeviceType → String
  | .switch => "switch"
  | .accessPoint => "access_point"
  | .router => "router"
  | .server => "server"
  | .workstation => "workstation"
  | .printer => "printer"
  | .ups => "ups"
  | .generic => "generic"

/-- The supported device types, in the source's order. -/
def all : List DeviceType :=
  [switch, accessPoint, router, server, workstation, printer, ups, generic]

/-- `DeviceType.Valid` on a configured text. -/
def valid (text : String) : Bool :=
  all.any fun deviceType => deviceType.name = text

end DeviceType

/-- An inventory record. -/
structure Device where
  id : String
  hostname : String
  deviceType : DeviceType
  vendor : String
  model : String
  site : String
  tags : List String
  capabilities : List String
  enabled : Bool
  lastSeen : Time
  protocol : String
  attributes : StringMap String
  deriving DecidableEq

namespace Device

/-- Whether the device carries a tag. -/
def hasTag (device : Device) (tag : String) : Bool :=
  device.tags.contains tag

/-- Whether the device advertises a capability. -/
def hasCapability (device : Device) (capability : String) : Bool :=
  device.capabilities.contains capability

end Device

/-! ## Observations -/

/-- A measured value. Numbers are kept as converted to `float64`, with the Go
type they had, since some readers accept fewer types than others. -/
inductive Value (F : Type)
  | float64 (number : F)
  | float32 (number : F)
  | int (number : F)
  | int32 (number : F)
  | int64 (number : F)
  | uint32 (number : F)
  | uint64 (number : F)
  | bool (flag : Bool)
  | string (text : String)
  | null
  /-- A value of any other type: the name of the type, and the JSON value that it
  marshals to, if it does. -/
  | other (typeName : String) (encoding : Option Json.Shallow)
  deriving DecidableEq

/-- One measured fact about a device, at one instant. -/
structure Observation (F : Type) where
  observationID : String
  correlationID : String
  deviceID : String
  source : String
  metric : String
  value : Value F
  labels : StringMap String
  observedAt : Time
  receivedAt : Time
  metadata : StringMap String
  deriving DecidableEq

/-- One stored point of a series, as read back for rule windows. -/
structure Sample (F : Type) where
  instant : Time
  num : F
  /-- Set when the stored value was boolean. -/
  bool : Option Bool
  deriving DecidableEq

/-! ## States, events and alerts -/

/-- Position of an entity in the health machine; `unset` is the empty text of a
record that no sample has reached. -/
inductive HealthState
  | unset
  | up
  | suspect
  | down
  | recovering
  deriving DecidableEq

/-- Current derived state of one entity. -/
structure StateRecord where
  key : String
  deviceID : String
  definitionID : String
  labels : StringMap String
  state : HealthState
  failures : ℕ
  /-- Consecutive good samples while down or recovering. -/
  successes : ℕ
  /-- Side of a hysteresis band a numeric metric is on. -/
  breached : Bool
  badSince : Time
  goodSince : Time
  /-- Last sample applied, real or synthetic. -/
  lastObservedAt : Time
  /-- Last real sample. -/
  lastSeenAt : Time
  lastObservationID : String
  lastTransitionAt : Time
  lastValue : String
  deriving DecidableEq

/-- One change of health state. -/
structure Transition where
  transitionID : String
  key : String
  deviceID : String
  definitionID : String
  labels : StringMap String
  fromState : HealthState
  toState : HealthState
  instant : Time
  observationID : String
  correlationID : String
  deriving DecidableEq

/-- How much attention an event deserves. -/
inductive Severity
  | info
  | warning
  | critical
  | unknown (text : String)
  deriving DecidableEq

namespace Severity

/-- Order of severities; unknown ones rank lowest. -/
def rank : Severity → ℕ
  | .info => 1
  | .warning => 2
  | .critical => 3
  | .unknown _ => 0

/-- Whether a severity is known. -/
def valid (severity : Severity) : Bool :=
  0 < severity.rank

end Severity

/-- Something meaningful that happened: a state transition or a rule firing. -/
structure Event where
  eventID : String
  correlationID : String
  deviceID : String
  type : String
  severity : Severity
  message : String
  labels : StringMap String
  occurredAt : Time
  observationID : String
  source : String
  /-- Groups an opening event with its recovery; empty for events that never
  open an alert. -/
  alertKey : String
  resolves : Bool
  deriving DecidableEq

/-- Lifecycle of an alert. -/
inductive AlertStatus
  | firing
  | resolved
  deriving DecidableEq

/-- A long-lived record opened by an event and closed by its recovery. -/
structure Alert where
  alertKey : String
  deviceID : String
  source : String
  severity : Severity
  status : AlertStatus
  summary : String
  labels : StringMap String
  openEventID : String
  openedAt : Time
  resolvedAt : Time
  deriving DecidableEq

/-! ## Automation -/

/-- Lifecycle of an automation request. -/
inductive AutomationStatus
  | pending
  | awaitingApproval
  | approved
  | executing
  | succeeded
  | failed
  | dryRun
  | denied
  | expired
  deriving DecidableEq

namespace AutomationStatus

/-- No further processing will happen. -/
def terminal : AutomationStatus → Bool
  | .succeeded | .failed | .dryRun | .denied | .expired => true
  | _ => false

/-- The statuses of requests that reached an adapter. -/
def executed : AutomationStatus → Bool
  | .succeeded | .failed | .dryRun => true
  | _ => false

end AutomationStatus

/-- The audited intent to perform one action. -/
structure AutomationRequest where
  requestID : String
  correlationID : String
  policyID : String
  eventID : String
  alertKey : String
  deviceID : String
  action : String
  target : String
  params : StringMap String
  reason : String
  proposer : String
  dryRun : Bool
  status : AutomationStatus
  notBefore : Time
  createdAt : Time
  approvedBy : String
  deriving DecidableEq

/-- The audited outcome of a request. -/
structure AutomationResult where
  requestID : String
  correlationID : String
  status : AutomationStatus
  dryRun : Bool
  message : String
  details : StringMap String
  startedAt : Time
  finishedAt : Time
  deriving DecidableEq

end InfraObserver
