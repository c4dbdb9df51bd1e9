import InfraObserver.Automation.Engine
import InfraObserver.Domain.Wire

/-!
# Device adapters

An adapter performs catalog actions against one class of device. Each `execute`
is a program over the requests that leave the adapter: reads of the device,
commands to the controller, events for the recorder, extensions, secrets, web
requests, the clock, and the tables that the mock adapters keep.
-/

namespace InfraObserver

/-! ## What an adapter talks to -/

/-- `InterfaceState`: the current status of one interface. -/
structure InterfaceState where
  index : String
  name : String
  oper : String
  admin : String
  deriving DecidableEq

/-- `HostFacts`: a diagnostic snapshot of a server or workstation. -/
structure HostFacts where
  name : String
  uptimeSecs : ℤ
  cpuPercent : List String
  memPercent : String
  deriving DecidableEq

/-- `config.Endpoint`. -/
structure Endpoint where
  urlRef : String
  timeout : Duration
  deriving DecidableEq

/-- A request that leaves an adapter. -/
inductive AdapterOp
  | readInterface (device : Device) (name : String)
  | readClients (device : Device)
  | readHost (device : Device)
  /-- `Ctl.Do`. -/
  | command (device event : String) (args : StringMap String)
  | record (event : Event)
  | invoke (script : String) (device : Device) (action : Action)
  | resolve (reference : String)
  /-- `client.Do`; the answer is the status code unless the request failed. -/
  | send (request : OutgoingRequest)
  | now
  /-- Replace a stored description, which answers the old one. -/
  | swapDescription (key description : String)
  | readConfig (key : String)
  | writeConfig (key value : String)
  deriving DecidableEq

/-- The answer to a request. -/
@[reducible] def AdapterRes : AdapterOp → Type
  | .readInterface .. => Except Error InterfaceState
  | .readClients _ => Except Error ℤ
  | .readHost _ => Except Error HostFacts
  | .command .. => Option Error
  | .record _ => Option Error
  | .invoke .. => Except Error String
  | .resolve _ => Except Error (StringMap String)
  | .send _ => Option ℕ
  | .now => Time
  | .swapDescription .. => String
  | .readConfig _ => String
  | .writeConfig .. => Unit

/-- Programs of an adapter; an error ends them. -/
abbrev AdapterM (α : Type) := Fallible AdapterOp AdapterRes Error α

namespace AdapterM

/-- Issue a request. -/
def ask (op : AdapterOp) : AdapterM (AdapterRes op) :=
  ExceptT.lift (Prog.request op)

/-- Issue a request whose error is the error of the program. -/
def try_ {α : Type} (asked : AdapterM (Except Error α)) : AdapterM α := do
  match ← asked with
  | .error failure => throw failure
  | .ok value => pure value

/-- Issue a request that only reports an error. -/
def check (asked : AdapterM (Option Error)) : AdapterM Unit := do
  match ← asked with
  | some failure => throw failure
  | none => pure ()

end AdapterM

open AdapterM (ask try_ check)

/-- `detail`: pairs of names and values, later ones over earlier ones. -/
def detail (pairs : List (String × String)) : StringMap String :=
  pairs.foldl (fun details pair => details.insert pair.1 pair.2) ∅

/-- A parameter of an action, empty when it is missing. -/
def Action.param (action : Action) (name : String) : String :=
  (action.params.lookup name).getD ""

/-- `unsupported`. -/
def unsupported (kind : String) (action : Action) : Error :=
  Error.errorf .unsupported (kind ++ " adapter does not implement " ++ action.type)

/-- The severity that a text names. -/
def Severity.ofText (text : String) : Severity :=
  if text = "info" then .info
  else if text = "warning" then .warning
  else if text = "critical" then .critical
  else .unknown text

/-! ## Switches and routers -/

namespace Switch

/-- `interfaceState`: without a reader the answer is fixed. -/
def interfaceState (reader : Bool) (device : Device) (iface : String) :
    AdapterM InterfaceState :=
  if reader then try_ (ask (.readInterface device iface))
  else pure ⟨"", iface, "unknown", "unknown"⟩

/-- What `mutate` reports after its commands. -/
def completed (device : Device) (action : Action) (details : StringMap String) : ActionResult where
  message := action.type ++ " completed for " ++ action.target ++ " on " ++ device.id
  details := details
  changed := true

/-- `mutate`: a dry run stops after reading the port. -/
def mutate (reader : Bool) (device : Device) (action : Action) : AdapterM ActionResult := do
  let state ← interfaceState reader device action.target
  let details := detail [("interface", action.target), ("before_oper", state.oper),
    ("before_admin", state.admin)]
  if action.dryRun then
    return { message := "dry-run: would " ++ Text.replace [("_", " ")] action.type ++ " " ++
               action.target ++ " on " ++ device.id ++ " (currently oper=" ++ state.oper ++
               " admin=" ++ state.admin ++ ")"
             details, changed := false }
  let args := detail [("interface", action.target)]
  match action.type with
  | "disable_interface" =>
      check (ask (.command device.id "interface-admin-down" args))
      return completed device action details
  | "enable_interface" =>
      check (ask (.command device.id "interface-admin-up" args))
      return completed device action details
  | "bounce_interface" =>
      check (ask (.command device.id "interface-admin-down" args))
      check (ask (.command device.id "interface-admin-up" args))
      return completed device action details
  | "set_interface_description" =>
      let before ← ask (.swapDescription (device.id ++ "/" ++ action.target)
        (action.param "description"))
      return { message := "set description of " ++ action.target ++ " on " ++ device.id
               details := details.insert "before_description" before, changed := true }
  | _ => return completed device action details

/-- `Switch.Execute`. -/
def execute (reader : Bool) (device : Device) (action : Action) : AdapterM ActionResult :=
  match action.type with
  | "query_interface_state" => do
      let state ← interfaceState reader device action.target
      return { message := device.id ++ " " ++ action.target ++ " is operationally " ++ state.oper ++
                 ", administratively " ++ state.admin
               details := detail [("interface", action.target), ("oper_status", state.oper),
                 ("admin_status", state.admin), ("if_index", state.index), ("source", "snmp")]
               changed := false }
  | "query_vlan_state" =>
      pure { message := "VLAN state is not modelled by the simulator; mock response"
             details := detail [("vlans", "1,10,20"), ("source", "mock")], changed := false }
  | "disable_interface" | "enable_interface" | "bounce_interface" | "set_interface_description" =>
      mutate reader device action
  | _ => throw (unsupported "switch" action)

end Switch

/-! ## Access points -/

/-- `AccessPoint.Execute`. -/
def AccessPoint.execute (reader : Bool) (device : Device) (action : Action) :
    AdapterM ActionResult :=
  match action.type with
  | "query_ap_clients" =>
      if reader then do
        let count ← try_ (ask (.readClients device))
        return { message := device.id ++ " has " ++ toString count ++ " associated clients"
                 details := detail [("clients", toString count), ("source", "snmp")]
                 changed := false }
      else
        pure { message := "client count unavailable without an SNMP reader"
               details := detail [("source", "mock")], changed := false }
  | "query_interface_state" =>
      if reader then do
        let state ← try_ (ask (.readInterface device action.target))
        return { message := device.id ++ " " ++ action.target ++ " is " ++ state.oper
                 details := detail [("oper_status", state.oper), ("admin_status", state.admin),
                   ("source", "snmp")]
                 changed := false }
      else throw (unsupported "access point (no reader)" action)
  | "restart_ap_service" =>
      if action.dryRun then
        pure { message := "dry-run: would restart service " ++ action.param "service" ++ " on " ++
                 device.id
               details := detail [("service", action.param "service")], changed := false }
      else do
        check (ask (.command device.id "online" ∅))
        return { message := "restarted service " ++ action.param "service" ++ " on " ++ device.id
                 details := detail [("service", action.param "service")], changed := true }
  | "update_ap_config" => do
      let key := device.id ++ "/" ++ action.param "key"
      let before ← ask (.readConfig key)
      if action.dryRun then
        return { message := "dry-run: would set " ++ action.param "key" ++ "=" ++
                   action.param "value" ++ " on " ++ device.id
                 details := detail [("before", before)], changed := false }
      ask (.writeConfig key (action.param "value"))
      return { message := "set " ++ action.param "key" ++ " on " ++ device.id
               details := detail [("before", before), ("after", action.param "value"),
                 ("source", "mock")]
               changed := true }
  | _ => throw (unsupported "access point" action)

/-! ## Servers and workstations -/

namespace Host

/-- `DefaultTasks`: the built-in maintenance tasks. -/
def defaultTasks : StringMap String :=
  detail [("rotate-logs", "rotate and compress application logs"),
    ("clear-tmp", "remove stale files from the temporary directory"),
    ("refresh-cache", "rebuild the package metadata cache")]

/-- `Host.Execute`. -/
def execute [Platform] (reader : Bool) (tasks : Option (StringMap String)) (device : Device)
    (action : Action) : AdapterM ActionResult :=
  match action.type with
  | "restart_service" =>
      let service := action.param "service"
      if action.dryRun then
        pure { message := "dry-run: would restart service " ++ service ++ " on " ++ device.id
               details := detail [("service", service)], changed := false }
      else do
        check (ask (.command device.id "online" ∅))
        return { message := "restarted service " ++ service ++ " on " ++ device.id
                 details := detail [("service", service)], changed := true }
  | "collect_diagnostics" =>
      if reader then do
        let facts ← try_ (ask (.readHost device))
        return { message := "collected diagnostics from " ++ device.id ++ ": up " ++
                   toString facts.uptimeSecs ++ "s, cpu " ++
                   String.intercalate "/" facts.cpuPercent ++
                     "%, memory " ++ facts.memPercent ++ "%"
                 details := detail [("hostname", facts.name),
                   ("uptime_seconds", toString facts.uptimeSecs),
                   ("cpu_percent", String.intercalate "," facts.cpuPercent),
                   ("memory_percent", facts.memPercent), ("source", "snmp")]
                 changed := false }
      else
        pure { message := "no diagnostics available without an SNMP reader"
               details := detail [("source", "mock")], changed := false }
  | "run_maintenance_task" =>
      let known := tasks.getD defaultTasks
      let task := action.param "task"
      match known.lookup task with
      | none =>
          throw (Error.errorf .unsupported ("task " ++ quote task ++
            " is not a predefined maintenance task (" ++
            String.intercalate ", " known.sortedKeys ++ ")"))
      | some description =>
          if action.dryRun then
            pure { message := "dry-run: would run " ++ task ++ " (" ++ description ++ ") on " ++
                     device.id
                   details := detail [("task", task)], changed := false }
          else
            pure { message := "ran " ++ task ++ " (" ++ description ++ ") on " ++ device.id
                   details := detail [("task", task), ("source", "mock")], changed := true }
  | _ => throw (unsupported "host" action)

end Host

/-! ## Actions without a device class -/

/-- `Generic`: its endpoints, and which of its dependencies are configured. -/
structure Generic where
  endpoints : StringMap Endpoint
  hasSecrets : Bool
  hasRecord : Bool
  hasInvoke : Bool

namespace Generic

variable [Platform] [Wire]

/-- The request of `webhook` for an endpoint whose secret was resolved. -/
def webhookRequest (secret : StringMap String) (device : Device) (action : Action) :
    Except Error OutgoingRequest :=
  let name := action.param "endpoint"
  let url := (secret.lookup "url").getD ""
  let base := if url = "" then (secret.lookup "value").getD "" else url
  match Wire.parseURL base with
  | none => .error (Error.errorf .permanent ("endpoint " ++ quote name ++ " is misconfigured"))
  | some parsed =>
      if parsed.web = false then
        .error (Error.errorf .permanent ("endpoint " ++ quote name ++ " is misconfigured"))
      else
        let body := Wire.encodeFields (detail [("device", device.id),
          ("message", action.param "message"), ("request_id", action.requestID),
          ("correlation_id", action.correlationID)])
        let target := Wire.renderURL { parsed with path := parsed.path ++ "/v1/automation" }
        let headers := detail [("Content-Type", "application/json"),
          ("Idempotency-Key", action.requestID)]
        let token := (secret.lookup "token").getD ""
        (newRequest "POST" target (some body)).map fun request =>
          { request with
            headers := if token = "" then headers
              else headers.insert "Authorization" ("Bearer " ++ token) }

/-- `webhook`: post a notification to a named endpoint. -/
def webhook (generic : Generic) (device : Device) (action : Action) : AdapterM ActionResult :=
  let name := action.param "endpoint"
  if action.dryRun then
    pure { message := "dry-run: would notify endpoint " ++ name ++ " about " ++ device.id
           details := detail [("endpoint", name)], changed := false }
  else
    match generic.endpoints.lookup name with
    | none => throw (Error.errorf .unsupported ("endpoint " ++ quote name ++ " is not configured"))
    | some endpoint =>
        if generic.hasSecrets = false then
          throw (Error.errorf .unsupported ("endpoint " ++ quote name ++ " is not configured"))
        else do
          let secret ← try_ (ask (.resolve endpoint.urlRef))
          let request ← try_ (pure (webhookRequest secret device action))
          match ← ask (.send request) with
          | none =>
              throw (Error.errorf .transient
                ("webhook: request to endpoint " ++ quote name ++ " failed"))
          | some status =>
              if 500 ≤ status then
                throw (Error.errorf .transient
                  ("endpoint " ++ quote name ++ " answered " ++ toString status))
              else if 300 ≤ status then
                throw (Error.errorf .permanent
                  ("endpoint " ++ quote name ++ " answered " ++ toString status))
              else
                return { message := "notified endpoint " ++ name ++ " (" ++ toString status ++ ")"
                         details := detail [("endpoint", name), ("status", toString status)]
                         changed := true }

/-- `Generic.Execute`. -/
def execute (generic : Generic) (device : Device) (action : Action) : AdapterM ActionResult :=
  match action.type with
  | "noop" =>
      pure { message := "noop on " ++ device.id ++ " (dry_run=" ++
               (if action.dryRun then "true" else "false") ++ ")"
             details := ∅, changed := false }
  | "create_event_record" =>
      let severity := Severity.ofText (action.param "severity")
      if action.dryRun then
        pure { message := "dry-run: would record event: " ++ action.param "message"
               details := ∅, changed := false }
      else if generic.hasRecord = false then
        throw (Error.errorf .unsupported "no event recorder configured")
      else do
        let occurredAt ← ask .now
        let id := stableID ["evt", "automation", action.requestID]
        check (ask (.record
          { eventID := id
            correlationID := action.correlationID
            deviceID := device.id
            type := "automation.recorded"
            severity := if severity = .unknown "" then .info else severity
            message := action.param "message"
            labels := ∅
            occurredAt
            observationID := ""
            source := "automation"
            alertKey := ""
            resolves := false }))
        return { message := "recorded event " ++ id
                 details := detail [("event_id", id)], changed := true }
  | "invoke_extension" =>
      let script := action.param "script"
      if action.dryRun then
        pure { message := "dry-run: would invoke extension " ++ script ++ " for " ++ device.id
               details := ∅, changed := false }
      else if generic.hasInvoke = false then
        throw (Error.errorf .unsupported "extensions are not available in this process")
      else do
        let message ← try_ (ask (.invoke script device action))
        return { message, details := detail [("script", script)], changed := true }
  | "send_webhook" => generic.webhook device action
  | _ => throw (unsupported "generic" action)

end Generic

/-! ## The standard set -/

/-- The adapters of the standard set, with the dependencies they have. -/
inductive DeviceAdapter
  | switch (reader : Bool)
  | accessPoint (reader : Bool)
  | host (reader : Bool) (tasks : Option (StringMap String))
  | generic (settings : Generic)

section Set

variable [Platform] [Wire]

/-- `Execute` of an adapter. -/
def DeviceAdapter.execute (adapter : DeviceAdapter) (device : Device) (action : Action) :
    AdapterM ActionResult :=
  match adapter with
  | .switch reader => Switch.execute reader device action
  | .accessPoint reader => AccessPoint.execute reader device action
  | .host reader tasks => Host.execute reader tasks device action
  | .generic settings => settings.execute device action

end Set

/-- `Set`: the adapters by device type, and the one for other actions. -/
structure AdapterSet where
  byType : DeviceType → Option DeviceAdapter
  generic : Option Generic

namespace AdapterSet

/-- `NewSet`: the standard set. -/
def newSet (reader : Bool) (generic : Option Generic) : AdapterSet where
  byType
    | .switch => some (.switch reader)
    | .router => some (.switch reader)
    | .accessPoint => some (.accessPoint reader)
    | .server => some (.host reader none)
    | .workstation => some (.host reader none)
    | _ => none
  generic := generic

/-- `genericActions`. -/
def genericActions : List String :=
  ["send_webhook", "create_event_record", "invoke_extension", "noop"]

/-- `Set.For`. -/
def adapterFor (set : AdapterSet) (device : Device) (action : String) :
    Except Error DeviceAdapter :=
  if genericActions.contains action then
    match set.generic with
    | none => .error (Error.errorf .unsupported "no generic adapter configured")
    | some settings => .ok (.generic settings)
  else
    match set.byType device.deviceType with
    | some adapter => .ok adapter
    | none =>
        .error (Error.errorf .unsupported
          ("no adapter for " ++ device.deviceType.name ++ " devices"))

end AdapterSet

/-! ## Running an adapter -/

/-- What the mock adapters store. -/
structure AdapterState where
  descriptions : StringMap String
  config : StringMap String
  deriving DecidableEq

/-- A run of an adapter: what it stores and what it has asked of others. -/
structure AdapterRun where
  state : AdapterState
  asked : List AdapterOp
  deriving DecidableEq

/-- What everybody else answers, by the number of requests before. -/
abbrev Answers := ℕ → (op : AdapterOp) → AdapterRes op

namespace AdapterRun

/-- Answer a request of an adapter. -/
def respond (answers : Answers) : (op : AdapterOp) → AdapterRun → AdapterRes op × AdapterRun
  | .swapDescription key description, run =>
      ((run.state.descriptions.lookup key).getD "",
        { run with state := { run.state with
            descriptions := run.state.descriptions.insert key description } })
  | .readConfig key, run => ((run.state.config.lookup key).getD "", run)
  | .writeConfig key value, run =>
      ((), { run with state := { run.state with config := run.state.config.insert key value } })
  | op, run => (answers run.asked.length op, { run with asked := run.asked ++ [op] })

end AdapterRun

/-- What `Execute` returns: an error comes with an empty result. -/
def ActionResult.returned : Except Error ActionResult → ActionResult × Option Error
  | .ok result => (result, none)
  | .error failure => (⟨"", ∅, false⟩, some failure)

/-- Run an adapter on an action: what it returns, and what it stores and has asked
afterwards. -/
def DeviceAdapter.run [Platform] [Wire]
    (adapter : DeviceAdapter)
    (device : Device)
    (action : Action)
    (state : AdapterState)
    (answers : Answers) : (ActionResult × Option Error) × AdapterRun :=
  let (result, after) :=
    Prog.exec (AdapterRun.respond answers) (adapter.execute device action) ⟨state, []⟩
  (ActionResult.returned result, after)

end InfraObserver
