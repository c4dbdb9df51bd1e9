import InfraObserver.Automation.Engine
import InfraObserver.Library.Interleaving

/-!
# What a call of the engine knows

A call knows only what its own requests were answered. `View` is that knowledge:
the snapshot it works from, the claim it holds, the gates it saw pass. The
protocol says what a call knows whenever it asks the store to write or an adapter
to act, and every program of the engine keeps it.
-/

namespace InfraObserver

/-- The calls of the engine. -/
inductive EngineCall
  | handleEvent (event : Event)
  | tick
  | approve (id by_ : String)

/-- What a worker knows about the request that it claimed. -/
structure Claim where
  request : AutomationRequest
  gateTime : Option Time
  firing : Bool
  cleared : Bool
  executed : Bool
  finished : Option Time
  deriving DecidableEq

namespace Claim

/-- The claim after the adapter was asked to act. -/
def act (claim : Claim) : Claim :=
  { claim with executed := true, finished := none }

/-- The claim after an alert was found firing. -/
def alertSeen (alertKey : String) (claim : Claim) : Claim :=
  { claim with firing := claim.firing || claim.request.alertKey = alertKey }

/-- The claim after the cooldown was found over. -/
def cooled (claim : Claim) : Claim :=
  { claim with cleared := true }

/-- A claim just made. -/
def new (request : AutomationRequest) : Claim where
  request := request
  gateTime := none
  firing := false
  cleared := false
  executed := false
  finished := none

/-- The claim after a clock reading. -/
def readClock (claim : Claim) (time : Time) : Claim :=
  { claim with
    gateTime := some (claim.gateTime.getD time)
    finished := if claim.executed then some (claim.finished.getD time) else claim.finished }

end Claim

/-- A request as an opening event causes it under a policy. -/
structure Drafted [Platform] (request : AutomationRequest) (event : Event) (policy : Policy) :
    Prop where
  opening : event.resolves = false
  alertKey : event.alertKey ≠ "" ∧ request.alertKey = event.alertKey
  ids : request.requestID = requestID policy.id event.eventID ∧
    request.policyID = policy.id ∧ request.eventID = event.eventID
  unapproved : request.approvedBy = ""
  delayed : request.status = .pending ∧
      request.notBefore = Time.add event.occurredAt policy.conditions.duration ∨
    request.status = .denied

/-- What a call knows. -/
structure View [Platform] where
  call : EngineCall
  time : Option Time
  config : Option Config
  waiting : List AutomationRequest
  due : List AutomationRequest
  stamp : Option Time
  claim : Option Claim
  refused : Option String

namespace View

variable [Platform]

/-- What a call knows at the start. -/
def init (call : EngineCall) : View where
  call := call
  time := none
  config := none
  waiting := []
  due := []
  stamp := none
  claim := none
  refused := none

/-- What an answer of the store adds. -/
def observeStore (view : View) : (op : AutomationOp) → Except Error op.Answer → View
  | .awaitingApprovalBefore _, .ok waiting => { view with waiting := waiting }
  | .dueAutomation now _ _, .ok due => { view with due := due, stamp := some now }
  | .claimAutomation id _ _, .ok true =>
      { view with
        claim := (view.due.find? fun request => request.requestID = id).map Claim.new
        config := none }
  | .alertFiring alertKey, .ok true =>
      { view with claim := view.claim.map (Claim.alertSeen alertKey) }
  | .automationHistory .., .ok [] => { view with claim := view.claim.map Claim.cooled }
  | .setAutomationStatus .., _ => { view with claim := none }
  | .completeAutomation .., _ => { view with claim := none, refused := none }
  | .insertAutomationRequest request _, .ok true =>
      { view with
        refused := if request.status = .denied then some request.requestID else none }
  | _, _ => view

/-- What an answer adds. -/
def observe (view : View) : (op : EngineOp) → EngineRes op → View
  | .now, time =>
      { view with time := some time, claim := view.claim.map fun claim => claim.readClock time }
  | .config, config => { view with config := some config }
  | .store op, answer => view.observeStore op answer
  | .execute .., _ =>
      { view with claim := view.claim.map Claim.act }
  | _, _ => view

theorem observeStore_call (view : View) (op : AutomationOp) (answer : Except Error op.Answer) :
    (view.observeStore op answer).call = view.call := by
  unfold observeStore
  split <;> rfl

theorem observe_call (view : View) (op : EngineOp) (answer : EngineRes op) :
    (view.observe op answer).call = view.call := by
  unfold observe
  split
  · rfl
  · rfl
  · exact view.observeStore_call _ _
  · rfl
  · rfl

variable {view : View} {op : EngineOp} {answer : EngineRes op}

theorem observe_config
    {config : Config}
    (known : (view.observe op answer).config = some config) :
    view.config = some config ∨ (op = .config ∧ HEq answer config) := by
  unfold observe at known
  split at known
  · exact Or.inl known
  · exact Or.inr ⟨rfl, heq_of_eq (Option.some.inj known)⟩
  · next op answer =>
      refine Or.inl ?_
      unfold observeStore at known
      split at known
      all_goals first | exact known | cases known
  · exact Or.inl known
  · exact Or.inl known

theorem observe_recall (view : View) (call : EngineCall) (op : EngineOp) (answer : EngineRes op) :
    ({ view with call } : View).observe op answer = { view.observe op answer with call } := by
  cases op with
  | store op =>
      cases op <;> rcases answer with failure | value <;> try rfl
      all_goals cases value <;> rfl
  | _ => rfl

theorem observe_due (view : View) (op : EngineOp) (answer : EngineRes op) :
    ((view.observe op answer).due = view.due ∧ (view.observe op answer).stamp = view.stamp) ∨
      ∃ now lease limit due, op = .store (.dueAutomation now lease limit) ∧
        HEq answer (Except.ok due : Except Error (List AutomationRequest)) ∧
        (view.observe op answer).due = due ∧ (view.observe op answer).stamp = some now := by
  unfold observe
  split
  · exact Or.inl ⟨rfl, rfl⟩
  · exact Or.inl ⟨rfl, rfl⟩
  · unfold observeStore
    split
    case h_2 now lease limit due =>
      exact Or.inr ⟨now, lease, limit, due, rfl, HEq.rfl, rfl, rfl⟩
    all_goals exact Or.inl ⟨rfl, rfl⟩
  · exact Or.inl ⟨rfl, rfl⟩
  · exact Or.inl ⟨rfl, rfl⟩

theorem observe_time (view : View) (op : EngineOp) (answer : EngineRes op) :
    (view.observe op answer).time = view.time ∨
      ∃ time, op = .now ∧ HEq answer time ∧ (view.observe op answer).time = some (time : Time) := by
  unfold observe
  split
  · next time => exact Or.inr ⟨time, rfl, HEq.rfl, rfl⟩
  · exact Or.inl rfl
  · unfold observeStore
    split
    all_goals exact Or.inl rfl
  · exact Or.inl rfl
  · exact Or.inl rfl

theorem observe_refused
    {id : String}
    (refused : (view.observe op answer).refused = some id) :
    view.refused = some id ∨ ∃ request message,
      op = .store (.insertAutomationRequest request message) ∧
        HEq answer (Except.ok true : Except Error Bool) ∧ request.status = .denied ∧
        request.requestID = id := by
  unfold observe at refused
  split at refused
  · exact Or.inl refused
  · exact Or.inl refused
  · unfold observeStore at refused
    split at refused
    case h_7 => cases refused
    case h_8 request message =>
      split_ifs at refused with denied
      exact Or.inr ⟨request, message, rfl, HEq.rfl, denied, Option.some.inj refused⟩
    all_goals exact Or.inl refused
  · exact Or.inl refused
  · exact Or.inl refused

/-- Where a claim that is known after an answer comes from. -/
inductive ClaimStep (view : View) : (op : EngineOp) → EngineRes op → Claim → Prop
  | made
      (id : String)
      (now : Time)
      (lease : Duration)
      (request : AutomationRequest)
      (found : view.due.find? (fun other => other.requestID = id) = some request) :
      ClaimStep view (.store (.claimAutomation id now lease)) (.ok true) (Claim.new request)
  | kept
      (op : EngineOp)
      (answer : EngineRes op)
      (claim : Claim)
      (held : view.claim = some claim) :
      ClaimStep view op answer claim
  | read (time : Time) (claim : Claim) (held : view.claim = some claim) :
      ClaimStep view .now time (claim.readClock time)
  | alerted (alertKey : String) (claim : Claim) (held : view.claim = some claim) :
      ClaimStep view (.store (.alertFiring alertKey)) (.ok true) (claim.alertSeen alertKey)
  | cooled
      (policyID deviceID target : String)
      (since : Time)
      (claim : Claim)
      (held : view.claim = some claim) :
      ClaimStep view (.store (.automationHistory policyID deviceID target since)) (.ok [])
        claim.cooled
  | acted
      (device : Device)
      (action : Action)
      (answer : ActionResult × Option Error)
      (claim : Claim)
      (held : view.claim = some claim) :
      ClaimStep view (.execute device action) answer claim.act

variable {claim : Claim}

theorem claimStep_of_observe
    (held : (view.observe op answer).claim = some claim) :
    view.ClaimStep op answer claim := by
  unfold observe at held
  split at held
  · obtain ⟨old, known, rfl⟩ := Option.map_eq_some_iff.mp held
    exact .read _ old known
  · exact .kept _ _ claim held
  · next op answer =>
      unfold observeStore at held
      split at held
      · exact .kept _ _ claim held
      · exact .kept _ _ claim held
      · obtain ⟨request, found, rfl⟩ := Option.map_eq_some_iff.mp held
        exact .made _ _ _ request found
      · obtain ⟨old, known, rfl⟩ := Option.map_eq_some_iff.mp held
        exact .alerted _ old known
      · obtain ⟨old, known, rfl⟩ := Option.map_eq_some_iff.mp held
        exact .cooled _ _ _ _ old known
      · cases held
      · cases held
      · exact .kept _ _ claim held
      · exact .kept _ _ claim held
  · obtain ⟨old, known, rfl⟩ := Option.map_eq_some_iff.mp held
    exact .acted _ _ _ old known
  · exact .kept _ _ claim held

theorem ClaimStep.cleared
    (step : view.ClaimStep op answer claim)
    (cleared : claim.cleared = true) :
    ∃ old, view.claim = some old ∧ claim.request = old.request ∧
      (∀ gate, old.gateTime = some gate → claim.gateTime = some gate) ∧
      (old.cleared = true ∨ ∃ policyID deviceID target since,
        op = .store (.automationHistory policyID deviceID target since) ∧
          HEq answer (Except.ok [] : Except Error (List AutomationRequest))) := by
  cases step with
  | made id now lease request found => cases cleared
  | kept _ _ _ held => exact ⟨claim, held, rfl, fun _ same => same, Or.inl cleared⟩
  | read time old held =>
      refine ⟨old, held, rfl, ?_, Or.inl cleared⟩
      intro gate same
      simp [Claim.readClock, same]
  | alerted alertKey old held => exact ⟨old, held, rfl, fun _ same => same, Or.inl cleared⟩
  | cooled policyID deviceID target since old held =>
      exact ⟨old, held, rfl, fun _ same => same,
        Or.inr ⟨policyID, deviceID, target, since, rfl, HEq.rfl⟩⟩
  | acted device action answer old held =>
      exact ⟨old, held, rfl, fun _ same => same, Or.inl cleared⟩

theorem ClaimStep.firing
    (step : view.ClaimStep op answer claim)
    (firing : claim.firing = true) :
    ∃ old, view.claim = some old ∧ claim.request = old.request ∧
      (claim.executed = false → old.executed = false) ∧
      (old.firing = true ∨ ∃ alertKey, op = .store (.alertFiring alertKey) ∧
        HEq answer (Except.ok true : Except Error Bool)) := by
  cases step with
  | made id now lease request found => cases firing
  | kept _ _ _ held => exact ⟨claim, held, rfl, fun same => same, Or.inl firing⟩
  | read time old held => exact ⟨old, held, rfl, fun same => same, Or.inl firing⟩
  | alerted alertKey old held =>
      exact ⟨old, held, rfl, fun same => same, Or.inr ⟨alertKey, rfl, HEq.rfl⟩⟩
  | cooled policyID deviceID target since old held =>
      exact ⟨old, held, rfl, fun same => same, Or.inl firing⟩
  | acted device action answer old held =>
      exact ⟨old, held, rfl, fun impossible => (by cases impossible), Or.inl firing⟩

/-- The requests that a call works from, as it has read them. -/
def snapshots (view : View) : List AutomationRequest :=
  view.waiting ++ view.due ++ view.claim.toList.map Claim.request

theorem mem_snapshots (view : View) (request : AutomationRequest) :
    request ∈ view.snapshots ↔ request ∈ view.waiting ∨ request ∈ view.due ∨
      ∃ claim, view.claim = some claim ∧ claim.request = request := by
  simp [snapshots]

/-- The requests that an answer of the store lists. -/
def listed : (op : AutomationOp) → Except Error op.Answer → List AutomationRequest
  | .awaitingApprovalBefore _, .ok waiting => waiting
  | .dueAutomation .., .ok due => due
  | _, _ => []

theorem snapshots_map
    (view : View)
    (learn : Claim → Claim)
    (kept : ∀ claim, (learn claim).request = claim.request) :
    ({ view with claim := view.claim.map learn } : View).snapshots = view.snapshots := by
  cases held : view.claim <;> simp [snapshots, held, kept]

theorem observeStore_snapshots
    {op : AutomationOp}
    {answer : Except Error op.Answer}
    {request : AutomationRequest}
    (member : request ∈ (view.observeStore op answer).snapshots) :
    request ∈ view.snapshots ∨ request ∈ listed op answer := by
  unfold observeStore at member
  split at member
  · rw [mem_snapshots] at member ⊢
    exact member.elim Or.inr fun rest => Or.inl (Or.inr rest)
  · rw [mem_snapshots] at member ⊢
    rcases member with old | new | claimed
    · exact Or.inl (Or.inl old)
    · exact Or.inr new
    · exact Or.inl (Or.inr (Or.inr claimed))
  · rw [mem_snapshots] at member ⊢
    rcases member with old | old | ⟨claim, made, rfl⟩
    · exact Or.inl (Or.inl old)
    · exact Or.inl (Or.inr (Or.inl old))
    · obtain ⟨found, searched, rfl⟩ := Option.map_eq_some_iff.mp made
      exact Or.inl (Or.inr (Or.inl (List.mem_of_find?_eq_some searched)))
  · next alertKey =>
    rw [snapshots_map view (Claim.alertSeen alertKey) fun _ => rfl] at member
    exact Or.inl member
  · rw [snapshots_map view Claim.cooled fun _ => rfl] at member
    exact Or.inl member
  · exact Or.inl (List.mem_append_left _ (by simpa [snapshots] using member))
  · exact Or.inl (List.mem_append_left _ (by simpa [snapshots] using member))
  · exact Or.inl member
  · exact Or.inl member

theorem observe_snapshots
    (other : ∀ operation, op ≠ .store operation)
    (answer : EngineRes op) :
    (view.observe op answer).snapshots = view.snapshots := by
  cases op with
  | store operation => exact absurd rfl (other operation)
  | now => exact snapshots_map { view with time := some answer } _ fun _ => rfl
  | execute device action => exact snapshots_map view _ fun _ => rfl
  | config => rfl
  | propose policy event device => rfl
  | range params => rfl
  | adapterFor device action => rfl

/-! ## What is known at each request -/

/-- What is known when a request is stored. -/
def MayInsert (view : View) (request : AutomationRequest) (message : OutboxMessage) : Prop :=
  view.claim = none ∧ message.subject = subjectAutomationRequest ∧
    message.msgID = request.requestID ∧
    ∃ event config device policy, view.call = .handleEvent event ∧ view.config = some config ∧
      policy ∈ config.policies.matching event device ∧ Drafted request event policy

/-- What is known when a claimed request is parked or released. -/
def MayMove
    (view : View)
    (id : String)
    (sources : List AutomationStatus)
    (status : AutomationStatus) : Prop :=
  sources = [.executing] ∧ ∃ claim, view.claim = some claim ∧ claim.request.requestID = id ∧
    claim.executed = false ∧
    ((claim.request.approvedBy = "" ∧ (status = .awaitingApproval ∨ status = .pending)) ∨
      (claim.request.approvedBy ≠ "" ∧ status = .approved))

/-- Who may record an outcome: the expiry of approvals, a worker for the request
that it claimed, or the call that recorded a denied request. -/
inductive MayFinish (view : View) (result : AutomationResult) : Prop
  | expires
      (free : view.claim = none)
      (listed : result.requestID ∈ view.waiting.map AutomationRequest.requestID)
      (status : result.status = .expired)
  | stops
      (claim : Claim)
      (held : view.claim = some claim)
      (same : claim.request.requestID = result.requestID)
      (unexecuted : claim.executed = false)
      (status : result.status = .denied ∨ result.status = .expired)
  | reports
      (claim : Claim)
      (held : view.claim = some claim)
      (same : claim.request.requestID = result.requestID)
      (executed : claim.executed = true)
      (status : result.status.executed = true)
      (finished : claim.finished = some result.finishedAt)
  | refuses
      (free : view.claim = none)
      (refused : view.refused = some result.requestID)
      (status : result.status = .denied)

theorem MayFinish.terminal
    {result : AutomationResult}
    (may : view.MayFinish result) :
    result.status.terminal = true := by
  cases may with
  | expires free listed status => rw [status]; rfl
  | stops claim held same unexecuted status =>
      rcases status with status | status <;> rw [status] <;> rfl
  | reports claim held same executed status finished =>
      cases kind : result.status <;> simp_all [AutomationStatus.executed, AutomationStatus.terminal]
  | refuses free refused status => rw [status]; rfl

/-- What is known when an outcome is recorded. -/
def MayComplete (view : View) (result : AutomationResult) (message : OutboxMessage) : Prop :=
  message.subject = subjectAutomationResult ∧ message.msgID = result.requestID ++ ".result" ∧
    view.MayFinish result

end View

/-- The gates that depend only on the configuration, the request and the clock. -/
structure Passed [Platform]
    (config : Config)
    (request : AutomationRequest)
    (now : Time)
    (policy : Policy)
    (device : Device)
    (spec : ActionSpec) : Prop where
  policyExists : config.policies.get request.policyID = some policy
  deviceKnown : config.devices.get request.deviceID = some device
  deviceEnabled : device.enabled = true
  /-- The action is in the catalog, applies to the device, and has a target and
  parameters as the catalog asks. -/
  allowed : (Engine.proposalOf request).Allowed device spec
  listed : ∀ delegate, policy.proposal = some delegate → request.action ∈ delegate.allowedActions
  extension : request.action = "invoke_extension" →
    (request.params.lookup "script").getD "" ∈ config.policies.allowedExtensions
  tagged : policy.safety.requireTag ∈ device.tags
  capable : spec.capability = "" ∨ spec.capability ∈ device.capabilities
  /-- A live action that changes something needs an allowlisted device. -/
  allowlisted : Engine.dry config policy request = false → spec.disruptive = true →
    device.id ∈ config.policies.allowlist
  outsideMaintenance : ∀ window ∈ config.policies.windows, window.active now device = false

theorem Passed.of_refusal [Platform]
    {config : Config}
    {request : AutomationRequest}
    {now : Time}
    {policy : Policy}
    {device : Device}
    {visit : request.params.Visit}
    (policyExists : config.policies.get request.policyID = some policy)
    (deviceKnown : config.devices.get request.deviceID = some device)
    (deviceEnabled : device.enabled = true)
    (none_ : Engine.refusal config policy device request visit now = none) :
    ∃ spec, Passed config request now policy device spec := by
  unfold Engine.refusal at none_
  split at none_
  · cases none_
  · next accepted =>
      obtain ⟨spec, found, allowed⟩ :=
        (validate_ok_iff (Engine.proposalOf request) device visit).mp accepted
      rw [show catalogSpec request.action = some spec from found] at none_
      simp only [Option.getD_some] at none_
      split_ifs at none_ with unlisted extension untagged incapable exposed
      refine ⟨spec, policyExists, deviceKnown, deviceEnabled, allowed, ?_, ?_, ?_, ?_, ?_, ?_⟩
      · intro delegate delegated
        simpa [Engine.notAmongAllowed, delegated] using unlisted
      · intro invoked
        simpa [invoked, Policies.extensionApproved] using extension
      · simpa [Device.hasTag] using untagged
      · by_cases empty : spec.capability = ""
        · exact Or.inl empty
        · exact Or.inr (by simpa [empty, Device.hasCapability] using incapable)
      · intro live disruptive
        simpa [live, disruptive, Policies.allowlisted] using exposed
      · exact (config.policies.inMaintenance_eq_none_iff now device).mp
          (Option.map_eq_none_iff.mp none_)

namespace View

variable [Platform]

/-- What is known when an adapter is asked to act. -/
structure Cleared
    (view : View)
    (device : Device)
    (action : Action)
    (claim : Claim)
    (config : Config)
    (now : Time)
    (policy : Policy)
    (spec : ActionSpec) : Prop where
  held : view.claim = some claim
  unexecuted : claim.executed = false
  configured : view.config = some config
  gateTime : claim.gateTime = some now
  passed : Passed config claim.request now policy device spec
  firing : claim.request.alertKey = "" ∨ claim.firing = true
  cooled : Duration.zero < policy.safety.cooldown → claim.cleared = true
  approved : policy.safety.requireApproval = true → claim.request.approvedBy ≠ ""
  action : action =
    { type := claim.request.action
      target := claim.request.target
      params := claim.request.params
      dryRun := Engine.dry config policy claim.request
      requestID := claim.request.requestID
      correlationID := claim.request.correlationID }

/-- What is known when the history of executions is read. -/
structure Checks
    (view : View)
    (policyID deviceID target : String)
    (since : Time)
    (claim : Claim)
    (config : Config)
    (policy : Policy)
    (now : Time) : Prop where
  held : view.claim = some claim
  unexecuted : claim.executed = false
  configured : view.config = some config
  gateTime : claim.gateTime = some now
  policyExists : config.policies.get claim.request.policyID = some policy
  policyID : policyID = claim.request.policyID
  deviceID : deviceID = claim.request.deviceID
  target : target = claim.request.target
  since : since = Time.addNeg now policy.safety.cooldown

/-- What is known at an operation of the store. -/
def MayIssue (engine : Engine) (view : View) : AutomationOp → Prop
  | .insertAutomationRequest request message => view.MayInsert request message
  | .dueAutomation now lease _ =>
      view.claim = none ∧ view.time = some now ∧ lease = engine.lease
  | .claimAutomation id now lease =>
      view.claim = none ∧ view.stamp = some now ∧ lease = engine.lease ∧
        ∃ request ∈ view.due, request.requestID = id ∧
          view.due.find? (fun other => other.requestID = id) = some request
  | .setAutomationStatus id sources status => view.MayMove id sources status
  | .approveAutomation id by_ => view.call = .approve id by_ ∧ Text.blank by_ = false
  | .completeAutomation result message => view.MayComplete result message
  | .automationHistory policyID deviceID target since =>
      ∃ claim config policy now,
        view.Checks policyID deviceID target since claim config policy now
  | .alertFiring alertKey => ∃ claim, view.claim = some claim ∧ claim.request.alertKey = alertKey
  | .awaitingApprovalBefore _ | .attemptsForAlert .. => True

end View

/-- The discipline of the engine's calls. The store never lists a request
twice. -/
def protocol [Platform] (engine : Engine) :
    Interleaving.Discipline EngineCall EngineOp EngineRes View where
  init := View.init
  observe := View.observe
  pre view
    | .store op => view.MayIssue engine op
    | .execute device action =>
        ∃ claim config now policy spec, view.Cleared device action claim config now policy spec
    | _ => True
  rely
    | .store (.dueAutomation ..), .ok due => (due.map AutomationRequest.requestID).Nodup
    | _, _ => True

end InfraObserver
