import InfraObserver.Automation.Workers
import InfraObserver.Pipeline.Redelivery

/-!
# No action without every gate

Whenever an adapter is asked to act, the worker had claimed the request, and
after the claim it had read the clock, the configuration and the alert; every
gate passed on what it read; and an approval, when the policy asks for one, had
been recorded.
-/

namespace InfraObserver

open Interleaving (World Machine)

variable {F : Type} [Platform]

/-- What a thread has read since it claimed a request. -/
structure ReadSince
    (since : List (EngineEntry F))
    (thread : ℕ)
    (request : AutomationRequest)
    (gateTime : Option Time)
    (config : Option Config)
    (firing : Bool) : Prop where
  clock : ∀ now, gateTime = some now → ∃ call before,
    (⟨thread, call, .now, now, before⟩ : EngineEntry F) ∈ since
  configuration : ∀ known, config = some known → ∃ call before,
    (⟨thread, call, .config, known, before⟩ : EngineEntry F) ∈ since
  alert : firing = true → ∃ call before,
    (⟨thread, call, .store (.alertFiring request.alertKey), .ok true, before⟩ :
      EngineEntry F) ∈ since

/-- A thread claimed a request, and what it has read since. -/
def ClaimedIn
    (trace : List (EngineEntry F))
    (thread : ℕ)
    (request : AutomationRequest)
    (gateTime : Option Time)
    (config : Option Config)
    (firing : Bool) : Prop :=
  ∃ since call stamp lease before earlier,
    trace = since ++
      (⟨thread, call, .store (.claimAutomation request.requestID stamp lease), .ok true, before⟩ :
        EngineEntry F) :: earlier ∧
    ReadSince since thread request gateTime config firing

variable {trace : List (EngineEntry F)} {entry : EngineEntry F} {thread : ℕ}
variable {request : AutomationRequest} {gateTime : Option Time} {config : Option Config}
variable {firing : Bool}

theorem ClaimedIn.later
    (claimed : ClaimedIn trace thread request gateTime config firing)
    {gateTime' : Option Time}
    {config' : Option Config}
    {firing' : Bool}
    (clock : ∀ now, gateTime' = some now → gateTime = some now ∨
      ∃ call before, entry = ⟨thread, call, .now, now, before⟩)
    (configuration : ∀ known, config' = some known → config = some known ∨
      ∃ call before, entry = ⟨thread, call, .config, known, before⟩)
    (alert : firing' = true → firing = true ∨ ∃ call before,
      entry = ⟨thread, call, .store (.alertFiring request.alertKey), .ok true, before⟩) :
    ClaimedIn (entry :: trace) thread request gateTime' config' firing' := by
  obtain ⟨since, call, stamp, lease, before, earlier, rfl, read⟩ := claimed
  refine ⟨entry :: since, call, stamp, lease, before, earlier, rfl, ?_, ?_, ?_⟩
  · intro now known
    rcases clock now known with old | ⟨reader, shared, rfl⟩
    · obtain ⟨reader, shared, member⟩ := read.clock now old
      exact ⟨reader, shared, List.mem_cons_of_mem _ member⟩
    · exact ⟨reader, shared, List.mem_cons_self ..⟩
  · intro known same
    rcases configuration known same with old | ⟨reader, shared, rfl⟩
    · obtain ⟨reader, shared, member⟩ := read.configuration known old
      exact ⟨reader, shared, List.mem_cons_of_mem _ member⟩
    · exact ⟨reader, shared, List.mem_cons_self ..⟩
  · intro seen
    rcases alert seen with old | ⟨reader, shared, rfl⟩
    · obtain ⟨reader, shared, member⟩ := read.alert old
      exact ⟨reader, shared, List.mem_cons_of_mem _ member⟩
    · exact ⟨reader, shared, List.mem_cons_self ..⟩

theorem ClaimedIn.observe
    {view : View}
    (known : ∀ claim, view.claim = some claim →
      ClaimedIn trace thread claim.request claim.gateTime view.config claim.firing)
    (caller : EngineCall)
    {op : EngineOp}
    {answer : EngineRes op}
    (before : Shared F)
    {claim : Claim}
    (held : (view.observe op answer).claim = some claim) :
    ClaimedIn (⟨thread, caller, op, answer, before⟩ :: trace) thread claim.request
      claim.gateTime (view.observe op answer).config claim.firing := by
  have configuration : ∀ config, (view.observe op answer).config = some config →
      view.config = some config ∨ ∃ reader shared,
        (⟨thread, caller, op, answer, before⟩ : EngineEntry F) =
          ⟨thread, reader, .config, config, shared⟩ := by
    intro config same
    rcases View.observe_config same with old | ⟨rfl, read⟩
    · exact Or.inl old
    · obtain rfl := eq_of_heq read
      exact Or.inr ⟨caller, before, rfl⟩
  cases View.claimStep_of_observe held with
  | made id now lease request found =>
      have named : request.requestID = id := by simpa using List.find?_some found
      subst named
      exact ⟨[], caller, now, lease, before, trace, rfl,
        fun _ impossible => (by cases impossible), fun _ impossible => (by cases impossible),
        fun impossible => (by cases impossible)⟩
  | kept _ _ _ known' => exact (known _ known').later (fun _ => Or.inl) configuration Or.inl
  | read time old known' =>
      refine (known old known').later ?_ configuration Or.inl
      intro now same
      cases first : old.gateTime with
      | some earlier => exact Or.inl (by simpa [Claim.readClock, first] using same)
      | none =>
          obtain rfl : time = now := by simpa [Claim.readClock, first] using same
          exact Or.inr ⟨caller, before, rfl⟩
  | alerted alertKey old known' =>
      refine (known old known').later (fun _ => Or.inl) configuration ?_
      intro seen
      simp only [Claim.alertSeen, Bool.or_eq_true, decide_eq_true_eq] at seen
      rcases seen with already | rfl
      · exact Or.inl already
      · exact Or.inr ⟨caller, before, rfl⟩
  | cooled policyID deviceID target since old known' =>
      exact (known old known').later (fun _ => Or.inl) configuration Or.inl
  | acted device action answer old known' =>
      exact (known old known').later (fun _ => Or.inl) configuration Or.inl

theorem claimedIn_of_view
    {engine : Engine}
    {call : EngineCall} :
    ∀ claim, (viewOf engine call thread trace).claim = some claim →
      ClaimedIn trace thread claim.request claim.gateTime
        (viewOf engine call thread trace).config claim.firing := by
  refine (protocol engine).viewOf_induction call thread (fun view trace => ∀ claim,
    view.claim = some claim →
      ClaimedIn trace thread claim.request claim.gateTime view.config claim.firing) ?_ ?_ ?_ trace
  · intro claim impossible
    cases impossible
  · intro view caller op answer before earlier known claim held
    exact ClaimedIn.observe known caller before held
  · intro view entry earlier _ known claim held
    exact (known claim held).later (fun _ => Or.inl) (fun _ => Or.inl) Or.inl

/-- Everything that was checked before an adapter was asked to act. The trace is
the one before that request. -/
structure Gated
    (trace : List (EngineEntry F))
    (thread : ℕ)
    (device : Device)
    (action : Action)
    (store : MemStore F)
    (request : AutomationRequest)
    (config : Config)
    (now : Time)
    (policy : Policy)
    (spec : ActionSpec) : Prop where
  /-- The thread claimed the request and then read the clock, the configuration
  and the alert of the request, which was firing. -/
  claimed : ClaimedIn trace thread request (some now) (some config) true
  stored : ∃ current, store.autoReq.lookup action.requestID = some current ∧
    current.core = request.core
  passed : Passed config request now policy device spec
  /-- Where the policy asks for an approval, a named person had approved. -/
  approved : policy.safety.requireApproval = true →
    ∃ by_, ApprovedIn trace action.requestID by_
  /-- The adapter is asked for what the request says. -/
  asks : action.type = request.action ∧ action.target = request.target ∧
    action.params = request.params ∧ action.requestID = request.requestID
  /-- A live action needs all three switches, and an allowlisted device when it
  changes something. -/
  live : action.dryRun = false → request.dryRun = false ∧ config.globalDryRun = false ∧
    policy.dryRun = false ∧ (spec.disruptive = true → device.id ∈ config.policies.allowlist)

variable [GoFloat F]

/-- In every interleaving, whenever an adapter is asked to act, every gate has
passed. -/
theorem execution_gated
    {engine : Engine}
    {clock : Time}
    {start : Config}
    {world : EngineWorld F}
    (reached : (system F engine).Reaches Machine.anyAction (fresh F clock start) world)
    {later earlier : List (EngineEntry F)}
    {thread : ℕ}
    {call : EngineCall}
    {device : Device}
    {action : Action}
    {answer : ActionResult × Option Error}
    {before : Shared F}
    (executed : world.trace =
      later ++ ⟨thread, call, .execute device action, answer, before⟩ :: earlier) :
    ∃ request config now policy spec,
      Gated earlier thread device action before.store request config now policy spec := by
  refine reached.every_entry (fun entry earlier => ∀ device action,
    entry.op = .execute device action → ∃ request config now policy spec,
      Gated earlier entry.thread device action entry.before.store request config now policy spec)
    ?_ executed device action rfl
  rintro world thread call op rest choice reached running _ device action rfl
  have ledger := ledger_of_reaches reached
  obtain ⟨claim, config, now, policy, spec, cleared⟩ := (obedient_of_reaches reached).pre running
  have claimed := claimedIn_of_view claim cleared.held
  have member : claim.request ∈ (viewOf engine call thread world.trace).snapshots :=
    (View.mem_snapshots _ _).mpr (Or.inr (Or.inr ⟨claim, cleared.held, rfl⟩))
  obtain ⟨⟨current, found, core⟩, approval⟩ := ledger.snapshots call thread claim.request member
  -- Every stored request has an alert key, so the alert was read.
  obtain ⟨event, _, created, _⟩ := ledger.created _ current found
  have keyed : claim.request.alertKey ≠ "" := by
    rw [(created.of_core core).alertKey.2]
    exact created.alertKey.1
  have firing : claim.firing = true := cleared.firing.resolve_left keyed
  rw [cleared.gateTime, cleared.configured, firing] at claimed
  rw [cleared.action]
  refine ⟨claim.request, config, now, policy, spec, claimed, ⟨current, found, core⟩,
    cleared.passed, ?_, ⟨rfl, rfl, rfl, rfl⟩, ?_⟩
  · intro required
    exact ⟨claim.request.approvedBy, approval (cleared.approved required)⟩
  · intro live
    have switches := live
    simp only [Engine.dry, Bool.or_eq_false_iff] at switches
    exact ⟨switches.1.1, switches.1.2, switches.2, cleared.passed.allowlisted live⟩

end InfraObserver

/-! ## A concrete system -/

namespace InfraObserver

open Interleaving (World Machine)

attribute [local instance] Platform.plain GoFloat.integer

/-- A switch whose interfaces may be changed. -/
def managedSwitch : Device :=
  { Processor.plainSwitch with
    tags := ["automation-enabled"]
    capabilities := ["interface-admin"] }

/-- Bounce an interface of a device that went down. -/
def bouncePolicy (requireApproval : Bool) : Policy where
  id := "bounce"
  trigger := ⟨"device_down", [], "", [], .unknown ""⟩
  conditions := ⟨.zero, 0⟩
  action := some ⟨"bounce_interface", "eth1", ∅⟩
  proposal := none
  safety := ⟨some false, .minute, "automation-enabled", requireApproval, .hour⟩

/-- The policy on its own, with the switch on the allowlist. -/
def bouncePolicies (requireApproval : Bool) : Policies :=
  .single ["sw-1"] (bouncePolicy requireApproval)
    (by
      rw [Policy.valid_iff_problems]
      cases requireApproval <;> decide +kernel)
    (by cases requireApproval <;> decide +kernel)

/-- Live operation of the switch under the policy. -/
def bounceConfig (requireApproval : Bool) : Config where
  policies := bouncePolicies requireApproval
  devices := Registry.empty.insert managedSwitch
  globalDryRun := false
  hasProposer := false

/-- An engine with the default lease and batch size. -/
def plainEngine : Engine := ⟨.zero, 0⟩

/-- The event that opens the alert of the switch. -/
def switchDown : Event :=
  let sample := Definition.reachabilitySample "o2" 2 false
  Definition.reachability.makeEvent (Definition.reachability.keyFor "sw-1" ∅)
    Definition.reachability.alert false sample

/-- The event that opens the alert of the switch for the second time. -/
def switchDownAgain : Event :=
  let sample := Definition.reachabilitySample "o5" 5 false
  Definition.reachability.makeEvent (Definition.reachability.keyFor "sw-1" ∅)
    Definition.reachability.alert false sample

/-- The request that the event causes. -/
def bounceID : String := requestID "bounce" switchDown.eventID

/-- The pipeline processes a sample of the switch. -/
def sampled (id : String) (instant : Time) (reachable : Bool) : EngineAction ℤ :=
  .disturb (.process Processor.plainProcessor (Attempt.plain ℤ)
    (Definition.reachabilitySample id instant reachable))

/-- Some requests of a thread, nothing failing. -/
def steps (thread count : ℕ) : List (EngineAction ℤ) :=
  List.replicate count (.step thread .plain)

/-- The switch goes down and its event is handled by thread 0. -/
def switchGoesDown : List (EngineAction ℤ) :=
  [sampled "o1" 1 false, sampled "o2" 2 false, .start (.handleEvent switchDown)] ++ steps 0 4

/-- The switch comes back and goes down again. -/
def switchFlaps : List (EngineAction ℤ) :=
  [sampled "o3" 3 true, sampled "o4" 4 false, sampled "o5" 5 false]

/-- A worker parks the request, a person approves it, and a worker executes it. -/
def approvedRun : List (EngineAction ℤ) :=
  switchGoesDown ++ .start .tick :: steps 1 11 ++ .start (.approve bounceID "operator") ::
    steps 2 1 ++ .start .tick :: steps 3 15

/-- The interface of the switch is bounced after an approval, and every gate had
passed. -/
theorem bounce_gated :
    let world := (system ℤ plainEngine).run (fresh ℤ 10 (bounceConfig true)) approvedRun
    ∃ later earlier thread call device action answer before,
      world.trace = later ++ ⟨thread, call, .execute device action, answer, before⟩ :: earlier ∧
        action.requestID = bounceID ∧ ∃ request config now policy spec,
          Gated earlier thread device action before.store request config now policy spec := by
  intro world
  have acted : executedIn bounceID world.trace = true := by decide +kernel
  obtain ⟨thread, call, device, action, answer, before, member, same⟩ := executedIn_iff.mp acted
  obtain ⟨later, earlier, split⟩ := List.append_of_mem member
  exact ⟨later, earlier, thread, call, device, action, answer, before, split, same,
    execution_gated (Machine.reaches_anyRun _) split⟩

end InfraObserver
