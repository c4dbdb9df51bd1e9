import InfraObserver.Persistence.MemStore
import InfraObserver.Rules.Rule

/-!
# Processing one observation

`process` is the second stage of the pipeline: enrich, evaluate the state
definitions and the rules, and store everything in one transaction. `sweep`
feeds synthetic samples of silent entities through the same function.
-/

namespace InfraObserver

/-- The subject of device events. -/
def subjectEventDevice : String := "events.device"

/-- The subject of alert notifications. -/
def subjectEventAlert : String := "events.alert"

/-- Script hook that may add context to an observation. It never changes which
observation it is: a result that changes anything but metadata is refused. -/
structure Extension (F : Type) where
  enrich : Observation F → Device → Except Error (Observation F)
  keepsID : ∀ sample device enriched,
    enrich sample device = .ok enriched → enriched.observationID = sample.observationID

/-- The parts of the processor that stay fixed. -/
structure Processor (F : Type) [GoFloat F] [Platform] where
  inventory : StringMap Device
  states : Definitions F
  rules : Rules F
  staleAfter : Duration
  sweepInterval : Duration
  startedAt : Time

/-- What the outside does to one call: the script hook, if one is configured,
the error with which the store refuses the transaction, if it does, and the
failures of single operations. -/
structure Attempt (F : Type) where
  extension : Option (Extension F)
  refused : Option Error
  faults : ℕ → Option Error

/-- A call in which nothing fails and no hook is configured. -/
def Attempt.plain (F : Type) : Attempt F where
  extension := none
  refused := none
  faults _ := none

/-- What processing one observation did. -/
structure Outcome where
  duplicate : Bool
  dropped : String
  transitions : ℕ
  events : List Event
  ignored : ℕ
  deriving DecidableEq

/-- The zero value of an outcome. -/
def Outcome.zero : Outcome where
  duplicate := false
  dropped := ""
  transitions := 0
  events := []
  ignored := 0

/-- Why `Enrich` gave no observation. -/
inductive EnrichFailure
  | deviceDisabled
  | unregistered (failure : Error)

namespace Processor

variable {F : Type} [GoFloat F] [Platform]

/-- Set a metadata entry unless the value is empty. -/
def setMetadata (metadata : StringMap String) (entry : String × String) : StringMap String :=
  if entry.2 = "" then metadata else metadata.insert entry.1 entry.2

variable (processor : Processor F)

/-- `Enricher.Enrich`: attach inventory context to the metadata. -/
def enrich (sample : Observation F) :
    Except EnrichFailure (Observation F × Device) :=
  match processor.inventory.lookup sample.deviceID with
  | none =>
      .error (.unregistered (Error.errorf .validation ("observation " ++ sample.observationID ++
        " references unregistered device " ++ quote sample.deviceID)))
  | some device =>
      if !device.enabled then .error .deviceDisabled
      else
        let interface := (sample.labels.lookup "interface").getD ""
        let entries :=
          [("hostname", device.hostname), ("device_type", device.deviceType.name),
            ("site", device.site), ("vendor", device.vendor), ("model", device.model),
            ("tags", String.intercalate "," device.tags)] ++
          if interface = "" then []
          else [("interface_description",
            (device.attributes.lookup ("interface." ++ interface ++ ".description")).getD "")]
        .ok ({ sample with metadata := entries.foldl setMetadata sample.metadata }, device)

variable (event : Event)

/-- The headers of an event's messages. -/
def eventHeaders : StringMap String :=
  ((∅ : StringMap String).insert "X-Schema" "event.v1").insert
    "X-Correlation-Id" event.correlationID

/-- The message on the device subject; the store assigns its id. -/
def deviceMessage (payload : String) : OutboxMessage where
  id := 0
  subject := subjectEventDevice
  msgID := event.eventID
  payload := payload
  headers := eventHeaders event

/-- The message on the alert subject; the store assigns its id. -/
def alertMessage (payload : String) : OutboxMessage where
  id := 0
  subject := subjectEventAlert
  msgID := event.eventID ++ ".alert"
  payload := payload
  headers := eventHeaders event

/-- Resolve or open the alert of an event. -/
def changeAlert : TxM F Bool :=
  if event.resolves then TxM.resolveAlert event else TxM.openAlert event

/-- The alert part of `recordEvent`: notify when the alert changed. -/
def recordAlert (payload : String) : TxM F Unit := do
  let changed ← changeAlert event
  if changed then
    TxM.enqueue (alertMessage event payload)

/-- `recordEvent`: persist an event and, only if it is new, queue its
notifications. -/
def recordEvent : TxM F Unit := do
  let inserted ← TxM.insertEvent event
  if inserted then
    match Platform.encodeEvent event with
    | .error failure => throw failure
    | .ok payload =>
        TxM.enqueue (deviceMessage event payload)
        if event.alertKey ≠ "" then
          recordAlert event payload

/-- Record the transitions of an update. -/
def recordTransitions : List Transition → Outcome → TxM F Outcome
  | [], outcome => pure outcome
  | transition :: rest, outcome => do
      TxM.insertTransition transition
      recordTransitions rest { outcome with transitions := outcome.transitions + 1 }

/-- Record the events of an update. -/
def recordEvents : List Event → Outcome → TxM F Outcome
  | [], outcome => pure outcome
  | event :: rest, outcome => do
      recordEvent event
      recordEvents rest { outcome with events := outcome.events ++ [event] }

/-- The closure `apply` of `Process`: store an update that was not ignored. -/
def applyUpdate (update : Update) (outcome : Outcome) : TxM F Outcome :=
  if update.ignored ≠ .notIgnored then
    pure { outcome with ignored := outcome.ignored + 1 }
  else do
    TxM.putState update.record
    let outcome ← recordTransitions update.transitions outcome
    recordEvents update.events outcome

/-- The loop of `Process` over the state definitions. -/
def applyDefinitions (sample : Observation F) : List (Definition F) → Outcome → TxM F Outcome
  | [], outcome => pure outcome
  | definition :: rest, outcome => do
      let previous ← TxM.getState (definition.keyFor sample.deviceID sample.labels)
      let outcome ← applyUpdate (definition.evaluate previous sample) outcome
      applyDefinitions sample rest outcome

/-- A rule skips the window query for a duplicate or an out-of-order sample. -/
def skipsRule (previous : Option StateRecord) (sample : Observation F) : Bool :=
  previous.any fun record =>
    record.lastObservationID = sample.observationID ||
      !(record.lastObservedAt < sample.observedAt)

/-- One turn of the loop of `Process` over the rules. -/
def applyRule (sample : Observation F) (rule : Rule F) (outcome : Outcome) : TxM F Outcome := do
  let previous ← TxM.getState (rule.keyFor sample.deviceID sample.labels)
  if skipsRule previous sample then
    pure { outcome with ignored := outcome.ignored + 1 }
  else
    let samples ← TxM.samples sample.deviceID sample.metric (labelsKey sample.labels)
      (Time.addNeg sample.observedAt rule.window) sample.observedAt
    applyUpdate (rule.evaluate previous samples sample) outcome

/-- The loop of `Process` over the rules. -/
def applyRules (sample : Observation F) : List (Rule F) → Outcome → TxM F Outcome
  | [], outcome => pure outcome
  | rule :: rest, outcome => do
      let outcome ← applyRule sample rule outcome
      applyRules sample rest outcome

/-- Synthetic samples are not evidence that the device is alive. -/
def touch (sample : Observation F) : TxM F Unit :=
  if sample.source ≠ "sweeper" then TxM.touchDevice sample.deviceID sample.observedAt
  else pure ()

/-- The body of the transaction of `Process`. -/
def body (sample : Observation F) (device : Device) :
    TxM F Outcome := do
  let inserted ← TxM.insertObservation sample
  if inserted then
    touch sample
    let outcome ← applyDefinitions sample
      (processor.states.forMetric sample.metric device.deviceType) .zero
    applyRules sample (processor.rules.forMetric sample.metric device) outcome
  else
    pure { Outcome.zero with duplicate := true }

/-- The script hook applied to an enriched observation. -/
def extended (attempt : Attempt F) (sample : Observation F) (device : Device) :
    Except Error (Observation F) :=
  match attempt.extension with
  | none => .ok sample
  | some extension => extension.enrich sample device

/-- `Process`: all side effects of one observation in one transaction. -/
def process
    (attempt : Attempt F)
    (sample : Observation F)
    (store : MemStore F) : Except Error Outcome × MemStore F :=
  match processor.enrich sample with
  | .error .deviceDisabled => (.ok { Outcome.zero with dropped := "device_disabled" }, store)
  | .error (.unregistered failure) => (.error failure, store)
  | .ok (enriched, device) =>
      match extended attempt enriched device with
      | .error failure => (.error failure, store)
      | .ok enriched =>
          store.transact attempt.refused attempt.faults (processor.body enriched device)

/-! ## The stale sweep -/

/-- Records of entities that `Sweep` expects and that the store does not have. -/
def missingRecords
    (records : List StateRecord)
    (devices : List Device) : List StateRecord :=
  devices.flatMap fun device =>
    if !device.enabled || device.protocol ≠ "snmp" then []
    else
      processor.states.all.filterMap fun definition =>
        let key := definition.keyFor device.id ∅
        if !definition.stale || records.any (fun record => record.key = key) then none
        else
          some { StateRecord.zero with
            key
            deviceID := device.id
            definitionID := definition.id
            labels := definition.keyLabelsOf ∅
            lastSeenAt := processor.startedAt }

/-- The synthetic samples of one sweep. -/
def sweepSamples
    (now : Time)
    (devices : List Device)
    (store : MemStore F) : List (Observation F) :=
  let records := store.listStates
  processor.states.staleSamples (records ++ processor.missingRecords records devices)
    now processor.staleAfter processor.sweepInterval

/-- The loop of `Sweep`: process the samples in order and stop at the first
error. The n-th sample is processed by the n-th attempt. -/
def sweepLoop (processor : Processor F) (attempts : ℕ → Attempt F) :
    List (Observation F) → ℕ → MemStore F → (ℕ × Option Error) × MemStore F
  | [], count, store => ((count, none), store)
  | sample :: rest, count, store =>
      match processor.process (attempts count) sample store with
      | (.error failure, store) => ((count, some failure), store)
      | (.ok _, store) => processor.sweepLoop attempts rest (count + 1) store

/-- `Sweep`: returns how many synthetic samples were processed and the error that
ended it, if any. -/
def sweep
    (now : Time)
    (devices : List Device)
    (listing : Option Error)
    (attempts : ℕ → Attempt F)
    (store : MemStore F) : (ℕ × Option Error) × MemStore F :=
  match listing with
  | some failure => ((0, some failure), store)
  | none => processor.sweepLoop attempts (processor.sweepSamples now devices store) 0 store

end Processor

end InfraObserver
