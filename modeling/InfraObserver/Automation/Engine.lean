import InfraObserver.Automation.Policy
import InfraObserver.Domain.Registry
import InfraObserver.Persistence.Automation

/-!
# The automation engine

`handleEvent` records requests, `tick` works through the due ones and `approve`
records a human approval. All three are programs over the requests that leave
the engine: the clock, the configuration, the store, the proposer and the
adapters. Calls that run at the same time interleave at these requests.
-/

namespace InfraObserver

/-! ## What the engine talks to -/

/-- What an adapter is asked to perform. -/
structure Action where
  type : String
  target : String
  params : StringMap String
  dryRun : Bool
  requestID : String
  correlationID : String
  deriving DecidableEq

/-- What an adapter reports back. -/
structure ActionResult where
  message : String
  details : StringMap String
  changed : Bool
  deriving DecidableEq

/-- The fields of an engine that an operator changes: the policies, the
inventory, the global switch, and whether a proposer is configured. -/
structure Config [Platform] where
  policies : Policies
  devices : Registry
  globalDryRun : Bool
  hasProposer : Bool

/-- `Engine.dryRun`. -/
def Config.dryRun [Platform] (config : Config) (policy : Policy) : Bool :=
  config.globalDryRun || policy.dryRun

/-- The fields of an engine that stay fixed. -/
structure Engine where
  configuredLease : Duration
  batchSize : ℤ
  deriving DecidableEq

namespace Engine

/-- `lease`: how long a claimed request may run before it counts as abandoned. -/
def lease (engine : Engine) : Duration :=
  if Duration.zero < engine.configuredLease then engine.configuredLease
  else Duration.fiveMinutes

/-- The batch size of `Tick` with its default. -/
def batch (engine : Engine) : ℤ :=
  if engine.batchSize ≤ 0 then 50 else engine.batchSize

end Engine

/-- A request that leaves the engine. -/
inductive EngineOp
  | now
  | config
  | propose (policy : Policy) (event : Event) (device : Device)
  | store (op : AutomationOp)
  /-- The order in which a loop over a map goes through it is up to the runtime. -/
  | range (params : StringMap String)
  | adapterFor (device : Device) (action : String)
  | execute (device : Device) (action : Action)

/-- The answer to a request. -/
@[reducible] def EngineRes [Platform] : EngineOp → Type
  | .now => Time
  | .config => Config
  | .propose .. => Except Error (Option Proposal)
  | .store op => Except Error op.Answer
  | .range params => params.Visit
  | .adapterFor .. => Except Error Unit
  | .execute .. => ActionResult × Option Error

/-- Programs of the engine. -/
abbrev EngineM [Platform] (α : Type) := Prog EngineOp EngineRes α

namespace EngineM

variable [Platform]

/-- `e.now()`. -/
def now : EngineM Time := Prog.request EngineOp.now

/-- The configuration, read once. -/
def config : EngineM Config := Prog.request EngineOp.config

/-- `e.Proposer.Propose`. -/
def proposeBy (policy : Policy) (event : Event) (device : Device) :
    EngineM (Except Error (Option Proposal)) :=
  Prog.request (EngineOp.propose policy event device)

/-- One operation of the store. -/
def store (op : AutomationOp) : EngineM (Except Error op.Answer) :=
  Prog.request (EngineOp.store op)

/-- The order of a loop over a map. -/
def range (params : StringMap String) : EngineM params.Visit :=
  Prog.request (EngineOp.range params)

/-- `e.Adapters.For`. -/
def adapterFor (device : Device) (action : String) : EngineM (Except Error Unit) :=
  Prog.request (EngineOp.adapterFor device action)

/-- `adapter.Execute`. -/
def executeBy (device : Device) (action : Action) : EngineM (ActionResult × Option Error) :=
  Prog.request (EngineOp.execute device action)

end EngineM

/-! ## Messages -/

/-- The subject of request notifications. -/
def subjectAutomationRequest : String := "automation.request"

/-- The subject of result notifications. -/
def subjectAutomationResult : String := "automation.result"

/-- `requestID`: redelivered events find their request already recorded. -/
def requestID [Platform] (policyID eventID : String) : String :=
  stableID ["auto", policyID, eventID]

/-- The headers of a message: its schema and its correlation. -/
def messageHeaders (schema correlationID : String) : StringMap String :=
  ((∅ : StringMap String).insert "X-Schema" schema).insert "X-Correlation-Id" correlationID

section Messages

variable [Platform]

/-- `requestMessage`; the store assigns the id. -/
def requestMessage (request : AutomationRequest) : Except Error OutboxMessage :=
  (Platform.encodeRequest request).map fun payload =>
    { id := 0
      subject := subjectAutomationRequest
      msgID := request.requestID
      payload
      headers := messageHeaders "automation.request.v1" request.correlationID }

/-- `resultMessage`; the store assigns the id. -/
def resultMessage (result : AutomationResult) : Except Error OutboxMessage :=
  (Platform.encodeResult result).map fun payload =>
    { id := 0
      subject := subjectAutomationResult
      msgID := result.requestID ++ ".result"
      payload
      headers := messageHeaders "automation.result.v1" result.correlationID }

theorem requestMessage_address
    {request : AutomationRequest}
    {message : OutboxMessage}
    (encoded : requestMessage request = .ok message) :
    message.subject = subjectAutomationRequest ∧ message.msgID = request.requestID := by
  unfold requestMessage at encoded
  cases payload : Platform.encodeRequest request with
  | error failure => simp [payload, Except.map] at encoded
  | ok text =>
      simp only [payload, Except.map, Except.ok.injEq] at encoded
      subst encoded
      exact ⟨rfl, rfl⟩

theorem resultMessage_address
    {result : AutomationResult}
    {message : OutboxMessage}
    (encoded : resultMessage result = .ok message) :
    message.subject = subjectAutomationResult ∧
      message.msgID = result.requestID ++ ".result" := by
  unfold resultMessage at encoded
  cases payload : Platform.encodeResult result with
  | error failure => simp [payload, Except.map] at encoded
  | ok text =>
      simp only [payload, Except.map, Except.ok.injEq] at encoded
      subst encoded
      exact ⟨rfl, rfl⟩

end Messages

/-- The details that name the gate a request did not pass. -/
def gateDetails (gate : String) : StringMap String :=
  (∅ : StringMap String).insert "gate" gate

namespace Engine

variable [Platform] (config : Config)

/-- The result `finish` records. -/
def resultOf
    (request : AutomationRequest)
    (status : AutomationStatus)
    (message : String)
    (details : StringMap String)
    (started finished : Time) : AutomationResult where
  requestID := request.requestID
  correlationID := request.correlationID
  status := status
  dryRun := request.dryRun || config.globalDryRun
  message := message
  details := details
  startedAt := started
  finishedAt := finished

/-- `finish`: record a terminal outcome and its notification. -/
def finish (result : AutomationResult) : EngineM (Except Error Bool) :=
  match resultMessage result with
  | .error failure => pure (.error failure)
  | .ok message => EngineM.store (.completeAutomation result message)

/-- `finish` for callers that only look at the error. -/
def finishErr (result : AutomationResult) : EngineM (Option Error) := do
  match ← finish result with
  | .error failure => pure (some failure)
  | .ok _ => pure none

/-! ## Stage one: recording requests -/

/-- The parameters of a static action, expanded for an event. -/
def expandParams (params : StringMap String) (event : Event) : StringMap String :=
  params.toSortedList.foldl
    (fun expanded entry => expanded.insert entry.1 (expand entry.2 event)) ∅

/-- `propose`. -/
def propose (policy : Policy) (event : Event) (device : Device) :
    EngineM (Except Error (Option Proposal)) :=
  match policy.action with
  | some action =>
      pure (.ok (some
        { action := action.type
          target := expand action.target event
          params := expandParams action.params event
          reason := "policy " ++ policy.id ++ " reacting to " ++ event.type }))
  | none =>
      if !config.hasProposer then
        pure (.error (Error.errorf .unsupported
          ("policy " ++ policy.id ++ " needs a script proposer but none is configured")))
      else EngineM.proposeBy policy event device

/-- A script policy does not list the action. -/
def notAmongAllowed (policy : Policy) (action : String) : Bool :=
  policy.proposal.any fun delegate => !delegate.allowedActions.contains action

/-- `checkProposal`: the validation every proposal must pass. -/
def checkProposal
    (policy : Policy)
    (proposal : Proposal)
    (device : Device)
    (visit : proposal.params.Visit) : Except Error Unit :=
  if notAmongAllowed policy proposal.action then
    .error (Error.errorf .validation ("action " ++ quote proposal.action ++
      " is not among the actions policy " ++ policy.id ++ " allows a script to propose"))
  else validate proposal device visit

/-- The request of a policy before its proposal is filled in. -/
def blankRequest
    (event : Event)
    (device : Device)
    (policy : Policy)
    (created : Time) : AutomationRequest where
  requestID := requestID policy.id event.eventID
  correlationID := event.correlationID
  policyID := policy.id
  eventID := event.eventID
  alertKey := event.alertKey
  deviceID := device.id
  action := ""
  target := ""
  params := ∅
  reason := ""
  proposer := match policy.proposal with
    | some delegate => "script:" ++ delegate.script
    | none => "policy"
  dryRun := config.dryRun policy
  status := .pending
  notBefore := Time.add event.occurredAt policy.conditions.duration
  createdAt := created
  approvedBy := ""

/-- Fill in what was proposed. -/
def withProposal (request : AutomationRequest) : Except Error Proposal → AutomationRequest
  | .error _ => request
  | .ok proposal =>
      { request with
        action := proposal.action
        target := proposal.target
        params := proposal.params
        reason := proposal.reason }

/-- Why a proposal is rejected, if it is. -/
def rejection
    (policy : Policy)
    (device : Device)
    (proposal : Proposal)
    (visit : proposal.params.Visit) : Option String :=
  match checkProposal policy proposal device visit with
  | .error failure => some ("proposal rejected: " ++ failure.text)
  | .ok _ => none

/-- Why a request is denied, if it is. -/
def denial (policy : Policy) (device : Device) : Except Error Proposal → EngineM (Option String)
  | .error failure => pure (some ("proposal failed: " ++ failure.text))
  | .ok proposal => do
      let visit ← EngineM.range proposal.params
      pure (rejection policy device proposal visit)

/-- A denied request is still audited. -/
def deniedRequest (request : AutomationRequest) (now : Time) : AutomationRequest :=
  { request with
    status := .denied
    notBefore := now
    action := if request.action = "" then "none" else request.action }

/-- Store a request; a new one that was denied is finished at once. Returns the
requests created and the error that ends the call, if any. -/
def submit (request : AutomationRequest) (denied : Option String) :
    EngineM (List AutomationRequest × Option Error) :=
  match requestMessage request with
  | .error failure => pure ([], some failure)
  | .ok message => do
      match ← EngineM.store (.insertAutomationRequest request message) with
      | .error failure => pure ([], some failure)
      -- Already recorded: this event was delivered before.
      | .ok false => pure ([], none)
      | .ok true =>
          match denied with
          | none => pure ([request], none)
          | some text =>
              let started ← EngineM.now
              let finished ← EngineM.now
              let failure ← finishErr
                (resultOf config request .denied text (gateDetails "proposal") started finished)
              pure ([request], failure)

/-- Store a request as it was drafted, or as a denied one. -/
def file (request : AutomationRequest) :
    Option String → EngineM (List AutomationRequest × Option Error)
  | none => submit config request none
  | some text => do
      let now ← EngineM.now
      submit config (deniedRequest request now) (some text)

section

variable (event : Event) (device : Device) (policy : Policy)

/-- Record the request of one policy. -/
def record
    (proposed : Except Error Proposal) : EngineM (List AutomationRequest × Option Error) := do
  let created ← EngineM.now
  let request := withProposal (blankRequest config event device policy created) proposed
  let denied ← denial policy device proposed
  file config request denied

/-- What `HandleEvent` does with the answer of `propose`. -/
def handleProposal :
    Except Error (Option Proposal) → EngineM (List AutomationRequest × Option Error)
  | .error failure =>
      -- The platform failed, not the script: the delivery is retried.
      if failure.isRetryable then pure ([], some failure)
      else record config event device policy (.error failure)
  | .ok none => pure ([], none)
  | .ok (some proposal) => record config event device policy (.ok proposal)

/-- One turn of the loop of `HandleEvent`. -/
def handlePolicy : EngineM (List AutomationRequest × Option Error) :=
  propose config policy event device >>= handleProposal config event device policy

end

/-- The loop of `HandleEvent`. -/
def handlePolicies (config : Config) (event : Event) (device : Device) :
    List Policy → List AutomationRequest → EngineM (List AutomationRequest × Option Error)
  | [], created => pure (created, none)
  | policy :: rest, created => do
      let (new, failure) ← handlePolicy config event device policy
      match failure with
      | some failure => pure (created ++ new, some failure)
      | none => handlePolicies config event device rest (created ++ new)

/-- `HandleEvent`: record a request for each policy that reacts to an event. -/
def handleEvent (event : Event) : EngineM (List AutomationRequest × Option Error) :=
  if event.resolves || event.alertKey = "" then pure ([], none)
  else do
    let config ← EngineM.config
    match config.devices.get event.deviceID with
    | none => pure ([], none)
    | some device =>
        handlePolicies config event device (config.policies.matching event device) []

/-! ## Stage two: gates -/

/-- The closure `deny` of `process`. -/
def deny
    (request : AutomationRequest)
    (now : Time)
    (gate message : String) : EngineM (Option Error) := do
  let finished ← EngineM.now
  finishErr (resultOf config request .denied message (gateDetails gate) now finished)

/-- `release`: put a claimed request back after a platform failure. -/
def release (request : AutomationRequest) (cause : Error) : EngineM (Option Error) := do
  let back := if request.approvedBy = "" then AutomationStatus.pending else .approved
  let _ ← EngineM.store (.setAutomationStatus request.requestID [.executing] back)
  pure (some cause)

/-- The proposal that a request carries. -/
def proposalOf (request : AutomationRequest) : Proposal where
  action := request.action
  target := request.target
  params := request.params
  reason := request.reason

/-- The request, the configuration or the policy asks for a dry run. -/
def dry (policy : Policy) (request : AutomationRequest) : Bool :=
  request.dryRun || config.globalDryRun || policy.dryRun

variable (policy : Policy) (device : Device) (request : AutomationRequest)

/-- The gates of `process` that ask nobody else, in its order: the gate that
refuses the request, with its message. -/
def refusal
    (visit : request.params.Visit)
    (now : Time) : Option (String × String) :=
  match validate (proposalOf request) device visit with
  | .error failure => some ("validation", failure.text)
  | .ok _ =>
      let spec := (catalogSpec request.action).getD .zero
      let script := (request.params.lookup "script").getD ""
      if notAmongAllowed policy request.action then
        some ("policy", "policy no longer allows " ++ request.action)
      else if request.action = "invoke_extension" ∧
          config.policies.extensionApproved script = false then
        some ("extension",
          "script " ++ quote script ++ " is not on the approved extension list")
      else if device.hasTag policy.safety.requireTag = false then
        some ("tag", "device lacks the required tag " ++ quote policy.safety.requireTag)
      else if spec.capability ≠ "" ∧ device.hasCapability spec.capability = false then
        some ("capability", "device does not advertise capability " ++ quote spec.capability)
      else if dry config policy request = false ∧ spec.disruptive = true ∧
          config.policies.allowlisted device.id = false then
        some ("allowlist",
          "live mutation requires the device to be on the automation allowlist")
      else
        (config.policies.inMaintenance now device).map fun id =>
          ("maintenance", "device is in maintenance window " ++ quote id)

/-- The details of an outcome with one more entry. -/
def withDetail (result : ActionResult) (name value : String) : StringMap String :=
  result.details.insert name value

/-- `execute`. -/
def execute (request : AutomationRequest) (device : Device) (dry : Bool) :
    EngineM (Option Error) := do
  let started ← EngineM.now
  match ← EngineM.adapterFor device request.action with
  | .error failure =>
      let finished ← EngineM.now
      finishErr (resultOf config request .denied ("no adapter: " ++ failure.text)
        (gateDetails "adapter") started finished)
  | .ok _ =>
      let (result, failure) ← EngineM.executeBy device
        { type := request.action
          target := request.target
          params := request.params
          dryRun := dry
          requestID := request.requestID
          correlationID := request.correlationID }
      let finished ← EngineM.now
      match failure with
      | some failure =>
          finishErr (resultOf config request .failed failure.text
            (withDetail result "error_category" failure.category.name) started finished)
      | none =>
          finishErr (resultOf config request (if dry then .dryRun else .succeeded) result.message
            (withDetail result "changed" (if result.changed then "true" else "false"))
            started finished)

/-- The approval gate, the last one. -/
def approvalGate : EngineM (Option Error) :=
  if policy.safety.requireApproval ∧ request.approvedBy = "" then do
    match ← EngineM.store
        (.setAutomationStatus request.requestID [.executing] .awaitingApproval) with
    | .error failure => pure (some failure)
    | .ok _ => pure none
  else execute config request device (dry config policy request)

/-- The gate that caps executed attempts per alert. -/
def retryGate (now : Time) : EngineM (Option Error) :=
  if 0 < policy.conditions.retriesBelow ∧ request.alertKey ≠ "" then do
    match ← EngineM.store (.attemptsForAlert policy.id request.alertKey) with
    | .error failure => release request failure
    | .ok attempts =>
        if policy.conditions.retriesBelow ≤ (attempts : ℤ) then
          deny config request now "retries" ("already attempted " ++ toString attempts ++
            " time(s) for this alert (limit " ++ toString policy.conditions.retriesBelow ++ ")")
        else approvalGate config policy device request
  else approvalGate config policy device request

/-- The gate that keeps executions of a policy on a device and target apart. -/
def cooldownGate (now : Time) : EngineM (Option Error) :=
  if Duration.zero < policy.safety.cooldown then do
    match ← EngineM.store (.automationHistory policy.id device.id request.target
        (Time.addNeg now policy.safety.cooldown)) with
    | .error failure => release request failure
    | .ok prior =>
        match prior.getLast? with
        | some last =>
            deny config request now "cooldown"
              ("cooldown of " ++ Platform.durationText policy.safety.cooldown ++
                " has not elapsed since request " ++ last.requestID)
        | none => retryGate config policy device request now
  else retryGate config policy device request now

/-- The gates after the alert was found firing. -/
def gates (now : Time) : EngineM (Option Error) := do
  let visit ← EngineM.range request.params
  match refusal config policy device request visit now with
  | some (gate, message) => deny config request now gate message
  | none => cooldownGate config policy device request now

/-- The alert that justified acting must still be firing. -/
def alertGate (now : Time) : EngineM (Option Error) :=
  if request.alertKey ≠ "" then do
    match ← EngineM.store (.alertFiring request.alertKey) with
    | .error failure => release request failure
    | .ok false =>
        let finished ← EngineM.now
        finishErr (resultOf config request .expired
          "the alert resolved before the action was due" (gateDetails "alert") now finished)
    | .ok true => gates config policy device request now
  else gates config policy device request now

/-- `process`: apply the gates and, if all pass, execute. -/
def process (request : AutomationRequest) : EngineM (Option Error) := do
  let now ← EngineM.now
  let config ← EngineM.config
  match config.policies.get request.policyID with
  | none => deny config request now "policy" "policy no longer exists"
  | some policy =>
      match (config.devices.get request.deviceID).filter Device.enabled with
      | none => deny config request now "device" "device is unknown or disabled"
      | some device => alertGate config policy device request now

/-! ## Ticks and approvals -/

/-- How long a request waits for an approval. -/
def approvalTimeout (request : AutomationRequest) : Duration :=
  match config.policies.get request.policyID with
  | some policy =>
      if Duration.zero < policy.safety.approvalTimeout then policy.safety.approvalTimeout
      else defaultApprovalTimeout
  | none => defaultApprovalTimeout

/-- The loop of `expireApprovals`. -/
def expireLoop (config : Config) (now : Time) : List AutomationRequest → EngineM (Option Error)
  | [] => pure none
  | request :: rest =>
      if approvalTimeout config request ≤ Time.sub now request.createdAt then do
        match ← finishErr (resultOf config request .expired "approval not granted in time"
            (gateDetails "approval") now now) with
        | some failure => pure (some failure)
        | none => expireLoop config now rest
      else expireLoop config now rest

/-- `expireApprovals`. -/
def expireApprovals (now : Time) : EngineM (Option Error) := do
  match ← EngineM.store (.awaitingApprovalBefore now) with
  | .error failure => pure (some failure)
  | .ok waiting =>
      let config ← EngineM.config
      expireLoop config now waiting

/-- The loop of `Tick` over the due requests; `now` is the clock reading of the
whole batch. -/
def workThrough (engine : Engine) (now : Time) :
    List AutomationRequest → ℕ → EngineM (ℕ × Option Error)
  | [], count => pure (count, none)
  | request :: rest, count => do
      match ← EngineM.store (.claimAutomation request.requestID now engine.lease) with
      | .error failure => pure (count, some failure)
      -- Another worker has it.
      | .ok false => workThrough engine now rest count
      | .ok true =>
          match ← process request with
          | some failure => pure (count, some failure)
          | none => workThrough engine now rest (count + 1)

/-- `Tick`: work through due requests. -/
def tick (engine : Engine) : EngineM (ℕ × Option Error) := do
  let now ← EngineM.now
  match ← expireApprovals now with
  | some failure => pure (0, some failure)
  | none =>
      match ← EngineM.store (.dueAutomation now engine.lease engine.batch) with
      | .error failure => pure (0, some failure)
      | .ok due => workThrough engine now due 0

/-- `Approve`: record a human approval. -/
def approve (id by_ : String) : EngineM (Option Error) :=
  if Text.blank by_ then
    pure (some (Error.errorf .validation "an approver identity is required"))
  else do
    match ← EngineM.store (.approveAutomation id by_) with
    | .error failure => pure (some failure)
    | .ok false =>
        pure (some (Error.errorf .validation ("request " ++ id ++ " is not awaiting approval")))
    | .ok true => pure none

end Engine

end InfraObserver
