import InfraObserver.Automation.Protocol

/-!
# The programs keep the protocol

Each program of the engine is followed request by request. The gates of
`process` collect what the protocol asks of an execution; the loops carry what is
known from one turn to the next.

`Report` is what a call knows next to its view: the action that it asked an adapter
for since its claim, and whether the adapter failed. The discipline `reporting` says
what an outcome has to do with what the call has read: an approval expires by the age
of a listed request, and an execution is reported with the switches of the request
and of the configuration. `Notes` adds what the call has counted: only a tick reports
an execution, after it has counted fewer than the policy allows.
-/

namespace InfraObserver

/-! ## What a call knows -/

/-- What a call knows, with the last action that it asked an adapter for. -/
structure Report [Platform] where
  view : View
  acted : Option (Action × Option Error)

namespace Report

variable [Platform]

/-- What a call knows at the start. -/
def init (call : EngineCall) : Report where
  view := .init call
  acted := none

/-- The action that is known after an answer. -/
def observeActed (acted : Option (Action × Option Error)) :
    (op : EngineOp) → EngineRes op → Option (Action × Option Error)
  | .execute _ action, answer => some (action, answer.2)
  | .store (.claimAutomation ..), .ok true => none
  | .store (.completeAutomation ..), _ => none
  | _, _ => acted

/-- What an answer adds. -/
def observe (report : Report) (op : EngineOp) (answer : EngineRes op) : Report where
  view := report.view.observe op answer
  acted := observeActed report.acted op answer

/-- A listed request has waited for an approval for too long since its creation,
by the configuration and the clock that were read last. -/
def Expired (report : Report) (result : AutomationResult) : Prop :=
  report.view.claim = none ∧ ∃ request ∈ report.view.waiting, ∃ config now,
    report.view.config = some config ∧ report.view.time = some now ∧
      request.requestID = result.requestID ∧
      Engine.approvalTimeout config request ≤ Time.sub now request.createdAt

/-- What was executed is reported with the switches of the claimed request and of
the configuration. -/
structure Executed
    (report : Report)
    (result : AutomationResult)
    (action : Action)
    (failure : Option Error)
    (claim : Claim)
    (config : Config)
    (policy : Policy) : Prop where
  held : report.view.claim = some claim
  configured : report.view.config = some config
  policyExists : config.policies.get claim.request.policyID = some policy
  same : action.requestID = claim.request.requestID
  asked : action.dryRun = Engine.dry config policy claim.request
  reported : result.dryRun = (claim.request.dryRun || config.globalDryRun)
  status : result.status = .dryRun ↔ action.dryRun = true ∧ failure = none

/-- What is known when an outcome is recorded. -/
structure MayRecord (report : Report) (result : AutomationResult) : Prop where
  expired : result.status = .expired → result.details.lookup "gate" = some "approval" →
    report.Expired result
  executed : ∀ action failure, report.acted = some (action, failure) →
    ∃ claim config policy, report.Executed result action failure claim config policy

end Report

/-- The discipline of the outcomes. -/
def reporting [Platform] (engine : Engine) :
    Interleaving.Discipline EngineCall EngineOp EngineRes Report where
  init := Report.init
  observe := Report.observe
  pre report
    | .store (.completeAutomation result _) => report.MayRecord result
    | _ => True
  rely := (protocol engine).rely

/-- A report with the last count of attempts. -/
structure Notes [Platform] extends Report where
  counted : Option (String × String × ℕ)

namespace Notes

variable [Platform]

/-- What a call knows at the start. -/
def init (call : EngineCall) : Notes where
  toReport := .init call
  counted := none

/-- The count that is known after an answer. -/
def observeCounted (counted : Option (String × String × ℕ)) :
    (op : EngineOp) → EngineRes op → Option (String × String × ℕ)
  | .store (.claimAutomation ..), .ok true => none
  | .store (.attemptsForAlert policyID alertKey), .ok count => some (policyID, alertKey, count)
  | .store (.completeAutomation ..), _ => none
  | _, _ => counted

/-- What an answer adds. -/
def observe (notes : Notes) (op : EngineOp) (answer : EngineRes op) : Notes where
  toReport := notes.toReport.observe op answer
  counted := observeCounted notes.counted op answer

/-- Where the policy caps the attempts, fewer than the cap were counted. -/
def Below (notes : Notes) (request : AutomationRequest) (policy : Policy) : Prop :=
  0 < policy.conditions.retriesBelow → request.alertKey ≠ "" →
    ∃ count : ℕ, notes.counted = some (policy.id, request.alertKey, count) ∧
      (count : ℤ) < policy.conditions.retriesBelow

/-- A tick reports on the request that it holds, after counting. -/
structure Counted
    (notes : Notes)
    (result : AutomationResult)
    (claim : Claim)
    (config : Config)
    (policy : Policy) : Prop where
  ticking : notes.view.call = .tick
  held : notes.view.claim = some claim
  same : claim.request.requestID = result.requestID
  configured : notes.view.config = some config
  policyExists : config.policies.get claim.request.policyID = some policy
  below : notes.Below claim.request policy

/-- Nothing was asked of an adapter, and the call works through the same requests. -/
structure Frames (base notes : Notes) : Prop where
  unacted : notes.acted = none
  call : notes.view.call = base.view.call
  due : notes.view.due = base.view.due
  stamp : notes.view.stamp = base.view.stamp

/-- What a request must satisfy on the notes' account: only an outcome has to. -/
def MayReport (notes : Notes) : EngineOp → Prop
  | .store (.completeAutomation result _) =>
      notes.MayRecord result ∧ (result.status.executed = true →
        ∃ claim config policy, notes.Counted result claim config policy)
  | _ => True

end Notes

/-- The discipline that all calls keep. -/
def noting [Platform] (engine : Engine) :
    Interleaving.Discipline EngineCall EngineOp EngineRes Notes where
  init := Notes.init
  observe := Notes.observe
  pre notes op := (protocol engine).pre notes.view op ∧ notes.MayReport op
  rely := (protocol engine).rely

section Obeys

variable [Platform] {engine : Engine} {notes base : Notes}

/-- A program issues requests only as the discipline allows, and its result and
what is known then meet a goal. -/
abbrev Keeps {α : Type} (engine : Engine) (program : EngineM α) (goal : α → Notes → Prop)
    (notes : Notes) : Prop :=
  Prog.wp (noting engine).contract goal program notes

theorem keeps_ask
    {α : Type}
    {op : EngineOp}
    {follow : EngineRes op → EngineM α}
    {goal : α → Notes → Prop}
    (allowed : (noting engine).pre notes op)
    (next : ∀ answer, (protocol engine).rely op answer →
      Keeps engine (follow answer) goal (notes.observe op answer)) :
    Keeps engine (Prog.request op >>= follow) goal notes := by
  refine (Prog.wp_bind goal (Prog.request op) follow).mpr ⟨allowed, ?_⟩
  rintro answer _ ⟨relied, rfl⟩
  exact next answer relied

theorem keeps_finishErr
    {result : AutomationResult}
    {goal : Option Error → Notes → Prop}
    (may : notes.view.MayFinish result)
    (recorded : notes.MayRecord result)
    (counted : result.status.executed = true →
      ∃ claim config policy, notes.Counted result claim config policy)
    (failed : ∀ failure after, goal (some failure) after)
    (done : goal none ⟨⟨{ notes.view with claim := none, refused := none }, none⟩, none⟩) :
    Keeps engine (Engine.finishErr result) goal notes := by
  unfold Engine.finishErr Engine.finish
  split
  · exact failed _ _
  · next message encoded =>
      obtain ⟨subject, address⟩ := resultMessage_address encoded
      refine keeps_ask ⟨⟨subject, address, may⟩, recorded, counted⟩ ?_
      rintro (failure | done') _
      · exact failed _ _
      · exact done

theorem mayRecord_of_unacted
    {result : AutomationResult}
    (unacted : notes.acted = none)
    (other : result.status = .expired → result.details.lookup "gate" ≠ some "approval") :
    notes.MayRecord result := by
  refine ⟨fun expired missing => absurd missing (other expired), fun action failure acted => ?_⟩
  rw [unacted] at acted
  cases acted

/-! ### Working on a claimed request -/

/-- A worker is done with a request unless it failed. -/
def Rested (base : Notes) (failure : Option Error) (after : Notes) : Prop :=
  failure = none → after.view.claim = none ∧ base.Frames after

theorem rested_some (failure : Error) (after : Notes) :
    Rested base (some failure) after :=
  fun failed => absurd failed (Option.some_ne_none failure)

/-- A tick that has read the clock and the configuration for a claimed request,
and has seen some of the gates pass. -/
structure Working
    (base notes : Notes)
    (request : AutomationRequest)
    (config : Config)
    (now : Time)
    (claim : Claim) : Prop extends base.Frames notes where
  ticking : base.view.call = .tick
  held : notes.view.claim = some claim
  request : claim.request = request
  gateTime : claim.gateTime = some now
  unexecuted : claim.executed = false
  configured : notes.view.config = some config

variable {request : AutomationRequest} {config : Config} {now : Time} {claim : Claim}
variable {policy : Policy} {device : Device} {spec : ActionSpec}

section

variable (working : Working base notes request config now claim)
include working

theorem Working.read
    (time : Time) :
    Working base (notes.observe .now time) request config now (claim.readClock time) :=
  { working with
    held := congrArg (Option.map fun known : Claim => known.readClock time) working.held
    gateTime := by simp [Claim.readClock, working.gateTime] }

theorem keeps_stop
    {result : Time → AutomationResult}
    (same : ∀ time, (result time).requestID = request.requestID)
    (status : ∀ time, (result time).status = .denied ∨ (result time).status = .expired)
    (other : ∀ time, (result time).status = .expired →
      (result time).details.lookup "gate" ≠ some "approval") :
    Keeps engine (EngineM.now >>= fun time => Engine.finishErr (result time)) (Rested base)
      notes := by
  refine keeps_ask ⟨trivial, trivial⟩ fun time _ => ?_
  have later := working.read time
  refine keeps_finishErr (.stops _ later.held ?_ later.unexecuted (status time))
    (mayRecord_of_unacted later.unacted (other time)) ?_ rested_some
    fun _ => ⟨rfl, { later with unacted := rfl }⟩
  · rw [later.request, same time]
  · intro executed
    rcases status time with stopped | stopped <;> rw [stopped] at executed <;> cases executed

theorem keeps_deny
    (gate message : String) :
    Keeps engine (Engine.deny config request now gate message) (Rested base) notes :=
  keeps_stop working (fun _ => rfl) (fun _ => Or.inl rfl) fun _ => nofun

theorem keeps_release
    (cause : Error) :
    Keeps engine (Engine.release request cause) (Rested base) notes := by
  refine keeps_ask ⟨⟨rfl, claim, working.held, congrArg _ working.request,
    working.unexecuted, ?_⟩, trivial⟩ fun _ _ => nofun
  rw [working.request]
  by_cases unapproved : request.approvedBy = ""
  · exact Or.inl ⟨unapproved, Or.inr (by simp [unapproved])⟩
  · exact Or.inr ⟨unapproved, by simp [unapproved]⟩

end

theorem keeps_outcome
    {status : AutomationStatus}
    {message : String}
    {details : StringMap String}
    {action : Action}
    {failure : Option Error}
    {started finished : Time}
    (frames : notes.view.call = base.view.call ∧ notes.view.due = base.view.due ∧
      notes.view.stamp = base.view.stamp)
    (ticking : base.view.call = .tick)
    (held : notes.view.claim = some claim)
    (same : claim.request = request)
    (acted : claim.executed = true ∧ claim.finished = some finished)
    (configured : notes.view.config = some config)
    (policyExists : config.policies.get request.policyID = some policy)
    (asked : notes.acted = some (action, failure))
    (meant : action.requestID = request.requestID ∧
      action.dryRun = Engine.dry config policy request)
    (below : notes.Below request policy)
    (executed : status.executed = true)
    (truthful : status = .dryRun ↔ action.dryRun = true ∧ failure = none) :
    Keeps engine
      (Engine.finishErr (Engine.resultOf config request status message details started finished))
      (Rested base) notes := by
  subst same
  obtain ⟨call, due, stamp⟩ := frames
  refine keeps_finishErr (.reports claim held rfl acted.1 executed acted.2) ⟨?_, ?_⟩
    (fun _ => ⟨claim, config, policy, call.trans ticking, held, rfl, configured, policyExists,
      below⟩) rested_some fun _ => ⟨rfl, rfl, call, due, stamp⟩
  · rintro expired -
    rw [show status = .expired from expired] at executed
    cases executed
  · intro other answer known
    rw [asked] at known
    cases known
    exact ⟨claim, config, policy, held, configured, policyExists, meant.1, meant.2, rfl, truthful⟩

section

variable (working : Working base notes request config now claim)
  (passed : Passed config request now policy device spec)
  (firing : request.alertKey = "" ∨ claim.firing = true)
include working passed firing

section

variable (cooled : Duration.zero < policy.safety.cooldown → claim.cleared = true)
include cooled

theorem keeps_execute
    (below : notes.Below request policy)
    (approved : policy.safety.requireApproval = true → request.approvedBy ≠ "") :
    Keeps engine (Engine.execute config request device (Engine.dry config policy request))
      (Rested base) notes := by
  refine keeps_ask ⟨trivial, trivial⟩ fun started _ => keeps_ask ⟨trivial, trivial⟩ ?_
  have later := working.read started
  obtain ⟨frames, ticking, held, requested, gateTime, unexecuted, configured⟩ := later
  rintro (failure | _) _
  · exact keeps_stop (working.read started) (fun _ => rfl) (fun _ => Or.inl rfl) fun _ => nofun
  · refine keeps_ask ⟨⟨claim.readClock started, config, now, policy, spec, held, unexecuted,
      configured, gateTime, requested ▸ passed, requested ▸ firing, cooled, requested ▸ approved,
      by rw [requested]⟩, trivial⟩ ?_
    rintro ⟨result, failure⟩ _
    refine keeps_ask ⟨trivial, trivial⟩ fun finished _ => ?_
    have known := congrArg (fun known : Option Claim =>
      (known.map Claim.act).map fun claim => claim.readClock finished) held
    cases failure with
    | some failure =>
        exact keeps_outcome ⟨frames.call, frames.due, frames.stamp⟩ ticking known requested
          ⟨rfl, rfl⟩ configured passed.policyExists rfl ⟨rfl, rfl⟩ below rfl (by simp)
    | none =>
        exact keeps_outcome ⟨frames.call, frames.due, frames.stamp⟩ ticking known requested
          ⟨rfl, rfl⟩ configured passed.policyExists rfl ⟨rfl, rfl⟩ below (by split_ifs <;> rfl)
          (by simp)

theorem keeps_approvalGate
    (below : notes.Below request policy) :
    Keeps engine (Engine.approvalGate config policy device request) (Rested base) notes := by
  unfold Engine.approvalGate
  split_ifs with parked
  · refine keeps_ask ⟨⟨rfl, claim, working.held, congrArg _ working.request,
      working.unexecuted, Or.inl ⟨by rw [working.request, parked.2], Or.inl rfl⟩⟩, trivial⟩ ?_
    rintro (failure | moved) _
    · exact nofun
    · exact fun _ => ⟨rfl, { working with }⟩
  · exact keeps_execute working passed firing cooled below fun required unapproved =>
      parked ⟨required, unapproved⟩

theorem keeps_retryGate :
    Keeps engine (Engine.retryGate config policy device request now) (Rested base) notes := by
  unfold Engine.retryGate
  split_ifs with capped
  · refine keeps_ask ⟨trivial, trivial⟩ ?_
    rintro (failure | attempts) _
    · exact keeps_release { working with } failure
    · have counted : Working base (notes.observe (.store (.attemptsForAlert ..)) (.ok attempts))
          request config now claim := { working with }
      dsimp only
      split_ifs with reached
      · exact keeps_deny counted _ _
      · exact keeps_approvalGate counted passed firing cooled
          fun _ _ => ⟨attempts, rfl, not_le.mp reached⟩
  · exact keeps_approvalGate working passed firing cooled
      fun positive keyed => absurd ⟨positive, keyed⟩ capped

end

theorem keeps_cooldownGate :
    Keeps engine (Engine.cooldownGate config policy device request now) (Rested base) notes := by
  have policyID : policy.id = request.policyID :=
    ((config.policies.get_eq_some_iff _ _).mp passed.policyExists).2
  have deviceID : device.id = request.deviceID := Registry.get_id passed.deviceKnown
  obtain rfl := working.request
  unfold Engine.cooldownGate
  split_ifs with cooling
  · refine keeps_ask ⟨⟨claim, config, policy, now, working.held, working.unexecuted,
      working.configured, working.gateTime, passed.policyExists, policyID, deviceID, rfl, rfl⟩,
      trivial⟩ ?_
    rintro (failure | ⟨_ | ⟨first, rest⟩⟩) _
    · exact keeps_release { working with } failure
    · have cooled : Working base (notes.observe (.store (.automationHistory policy.id device.id
          claim.request.target (Time.addNeg now policy.safety.cooldown))) (.ok []))
          claim.request config now claim.cooled :=
        { working with held := congrArg (Option.map Claim.cooled) working.held }
      exact keeps_retryGate cooled passed firing fun _ => rfl
    · cases last : (first :: rest).getLast? with
      | none => simp at last
      | some request =>
          simp only [last]
          exact keeps_deny { working with } _ _
  · exact keeps_retryGate working passed firing fun possible => absurd possible cooling

end

section

variable (working : Working base notes request config now claim)
  (policyExists : config.policies.get request.policyID = some policy)
  (deviceKnown : config.devices.get request.deviceID = some device)
  (deviceEnabled : device.enabled = true)
include working policyExists deviceKnown deviceEnabled

theorem keeps_gates
    (firing : request.alertKey = "" ∨ claim.firing = true) :
    Keeps engine (Engine.gates config policy device request now) (Rested base) notes := by
  refine keeps_ask ⟨trivial, trivial⟩ fun visit _ => ?_
  have working : Working base (notes.observe (.range request.params) visit) request config now
      claim := { working with }
  split
  · exact keeps_deny working _ _
  · next none_ =>
      obtain ⟨spec, passed⟩ := Passed.of_refusal policyExists deviceKnown deviceEnabled none_
      exact keeps_cooldownGate working passed firing

theorem keeps_alertGate :
    Keeps engine (Engine.alertGate config policy device request now) (Rested base) notes := by
  unfold Engine.alertGate
  split_ifs with keyed
  · refine keeps_ask ⟨⟨claim, working.held, congrArg _ working.request⟩, trivial⟩ ?_
    rintro (failure | _ | _) _
    · exact keeps_release { working with } failure
    · have absent : Working base (notes.observe (.store (.alertFiring request.alertKey))
          (.ok false)) request config now claim := { working with }
      exact keeps_stop absent (fun _ => rfl) (fun _ => Or.inr rfl)
        fun _ _ => by simp [Engine.resultOf, gateDetails]
    · have seen : (claim.alertSeen request.alertKey).firing = true := by
        simp [Claim.alertSeen, working.request]
      exact keeps_gates { working with
        held := congrArg (Option.map (Claim.alertSeen request.alertKey)) working.held }
        policyExists deviceKnown deviceEnabled (Or.inr seen)
  · exact keeps_gates working policyExists deviceKnown deviceEnabled
      (Or.inl (not_not.mp keyed))

end

/-- A tick that has just claimed a request keeps the discipline, and holds no
claim when it is done without an error. -/
theorem keeps_process
    (ticking : notes.view.call = .tick)
    (unacted : notes.acted = none)
    (held : notes.view.claim = some (Claim.new request)) :
    Keeps engine (Engine.process request) (Rested notes) notes := by
  refine keeps_ask ⟨trivial, trivial⟩ fun now _ => keeps_ask ⟨trivial, trivial⟩ fun config _ => ?_
  have working : Working notes ((notes.observe .now now).observe .config config) request
      config now ((Claim.new request).readClock now) :=
    ⟨⟨unacted, rfl, rfl, rfl⟩, ticking,
      congrArg (Option.map fun known : Claim => known.readClock now) held,
      rfl, rfl, rfl, rfl⟩
  cases policyExists : config.policies.get request.policyID with
  | none => exact keeps_deny working _ _
  | some policy =>
      dsimp only
      cases known : (config.devices.get request.deviceID).filter Device.enabled with
      | none => exact keeps_deny working _ _
      | some device =>
          obtain ⟨deviceKnown, deviceEnabled⟩ := Option.filter_eq_some_iff.mp known
          exact keeps_alertGate working policyExists deviceKnown deviceEnabled

/-! ### Ticks -/

/-- A call holds nothing, asked nothing of an adapter and knows the time. -/
structure Notes.Idle (base notes : Notes) : Prop where
  free : notes.view.claim = none
  unacted : notes.acted = none
  call : notes.view.call = base.view.call
  time : notes.view.time = base.view.time

theorem keeps_expireLoop
    (requests : List AutomationRequest)
    (idle : base.Idle notes)
    (configured : notes.view.config = some config)
    (timed : base.view.time = some now)
    (listed : ∀ request ∈ requests, request ∈ notes.view.waiting) :
    Keeps engine (Engine.expireLoop config now requests)
      (fun failure after => failure = none → base.Idle after) notes := by
  induction requests generalizing notes with
  | nil => exact fun _ => idle
  | cons request rest ih =>
      have member := listed request (List.mem_cons_self ..)
      have restListed : ∀ other ∈ rest, other ∈ notes.view.waiting := fun other member =>
        listed other (List.mem_cons_of_mem _ member)
      unfold Engine.expireLoop
      split_ifs with old
      · refine (Prog.wp_bind _ _ _).mpr (keeps_finishErr
          (.expires idle.free (List.mem_map_of_mem member) rfl) ⟨fun _ _ => ?_, ?_⟩ nofun
          (fun _ _ => nofun) ?_)
        · exact ⟨idle.free, request, member, config, now, configured, idle.time.trans timed, rfl,
            old⟩
        · intro action failure acted
          rw [idle.unacted] at acted
          cases acted
        · exact ih ⟨rfl, rfl, idle.call, idle.time⟩ configured restListed
      · exact ih idle configured restListed

theorem keeps_expireApprovals
    (idle : base.Idle notes)
    (timed : base.view.time = some now) :
    Keeps engine (Engine.expireApprovals now)
      (fun failure after => failure = none → base.Idle after) notes := by
  refine keeps_ask ⟨trivial, trivial⟩ ?_
  rintro (failure | waiting) _
  · exact nofun
  · exact keeps_ask ⟨trivial, trivial⟩ fun config _ =>
      keeps_expireLoop waiting { idle with } rfl timed
      fun _ member => member

theorem keeps_workThrough
    (requests : List AutomationRequest)
    (count : ℕ)
    (ticking : notes.view.call = .tick)
    (unacted : notes.acted = none)
    (free : notes.view.claim = none)
    (stamped : notes.view.stamp = some now)
    (listed : ∀ request ∈ requests, request ∈ notes.view.due)
    (distinct : (notes.view.due.map AutomationRequest.requestID).Nodup) :
    Keeps engine (Engine.workThrough engine now requests count) (fun _ _ => True) notes := by
  induction requests generalizing notes count with
  | nil => trivial
  | cons request rest ih =>
      have member := listed request (List.mem_cons_self ..)
      have restListed : ∀ other ∈ rest, other ∈ notes.view.due := fun other member =>
        listed other (List.mem_cons_of_mem _ member)
      have found := (Keyed.find?_eq_some_iff distinct request.requestID request).mpr ⟨member, rfl⟩
      unfold Engine.workThrough
      refine keeps_ask ⟨⟨free, stamped, rfl, request, member, rfl, found⟩, trivial⟩ ?_
      rintro (failure | _ | _) _
      · trivial
      · exact ih count ticking unacted free stamped restListed distinct
      · refine (Prog.wp_bind _ _ _).mpr (Prog.wp_mono ?_ (keeps_process ticking rfl
          (congrArg (Option.map Claim.new) found)))
        rintro (_ | failure) after rested
        · obtain ⟨free, frames⟩ := rested rfl
          exact ih (count + 1) (frames.call.trans ticking) frames.unacted free
            (frames.stamp.trans stamped) (frames.due ▸ restListed) (frames.due ▸ distinct)
        · trivial

theorem keeps_tick : Keeps engine engine.tick (fun _ _ => True) (.init .tick) := by
  refine keeps_ask ⟨trivial, trivial⟩ fun now _ => (Prog.wp_bind _ _ _).mpr (Prog.wp_mono ?_
    (keeps_expireApprovals ⟨rfl, rfl, rfl, rfl⟩ rfl))
  rintro (_ | failure) after idle
  · obtain ⟨free, unacted, call, time⟩ := idle rfl
    refine keeps_ask ⟨⟨free, time, rfl⟩, trivial⟩ ?_
    rintro (failure | due) distinct
    · trivial
    · exact keeps_workThrough due 0 call unacted free rfl (fun _ member => member) distinct
  · trivial

/-! ### Events and approvals -/

/-- A call that handles an event with a configuration. -/
structure Handling (notes : Notes) (event : Event) (config : Config) (device : Device) :
    Prop where
  call : notes.view.call = .handleEvent event
  opening : event.resolves = false
  alertKey : event.alertKey ≠ ""
  configured : notes.view.config = some config
  free : notes.view.claim = none
  unacted : notes.acted = none

variable {event : Event}

theorem Handling.read
    (handling : Handling notes event config device)
    (time : Time) :
    Handling (notes.observe .now time) event config device :=
  { handling with
    free := congrArg (Option.map fun known : Claim => known.readClock time) handling.free }

/-- The call can go on with the next policy unless it failed. -/
def Proceeds
    (event : Event)
    (config : Config)
    (device : Device)
    (result : List AutomationRequest × Option Error)
    (after : Notes) : Prop :=
  result.2 = none → Handling after event config device

section

variable (handling : Handling notes event config device)
  (triggered : policy ∈ config.policies.matching event device)
include handling triggered

theorem keeps_submit
    {denied : Option String}
    (drafted : Drafted request event policy)
    (refused : denied.isSome = true → request.status = .denied) :
    Keeps engine (Engine.submit config request denied) (Proceeds event config device) notes := by
  unfold Engine.submit
  split
  · exact fun _ => handling
  · next message encoded =>
      obtain ⟨subject, address⟩ := requestMessage_address encoded
      refine keeps_ask ⟨⟨handling.free, subject, address, event, config, device, policy,
        handling.call, handling.configured, triggered, drafted⟩, trivial⟩ ?_
      rintro (failure | _ | _) _
      · exact fun _ => { handling with }
      · exact fun _ => { handling with }
      · cases denied with
        | none => exact fun _ => { handling with }
        | some text =>
            have stored :
                Handling (notes.observe (.store (.insertAutomationRequest request message))
                (.ok true)) event config device := { handling with }
            refine keeps_ask ⟨trivial, trivial⟩ fun started _ => keeps_ask ⟨trivial, trivial⟩
              fun finished _ => ?_
            have later := (stored.read started).read finished
            refine (Prog.wp_bind _ _ _).mpr (keeps_finishErr (.refuses later.free ?_ rfl)
              (mayRecord_of_unacted later.unacted nofun) nofun (fun _ _ => nofun)
              fun _ => { later with free := rfl, unacted := rfl })
            exact if_pos (refused rfl)

theorem keeps_file
    (denied : Option String)
    (drafted : Drafted request event policy)
    (redrafted : ∀ now, Drafted (Engine.deniedRequest request now) event policy) :
    Keeps engine (Engine.file config request denied) (Proceeds event config device) notes := by
  cases denied with
  | none =>
      change Keeps engine (Engine.submit config request none) _ notes
      exact keeps_submit handling triggered drafted (by simp)
  | some text =>
      refine keeps_ask ⟨trivial, trivial⟩ fun now _ => ?_
      exact keeps_submit (handling.read now) triggered (redrafted now) fun _ => rfl

theorem keeps_record
    (proposed : Except Error Proposal) :
    Keeps engine (Engine.record config event device policy proposed)
      (Proceeds event config device) notes := by
  refine keeps_ask ⟨trivial, trivial⟩ fun created _ => ?_
  have handling := handling.read created
  -- A proposal fills in only the action and its arguments.
  have filled : ∀ request : AutomationRequest,
      (Engine.withProposal request proposed).requestID = request.requestID ∧
      (Engine.withProposal request proposed).policyID = request.policyID ∧
      (Engine.withProposal request proposed).eventID = request.eventID ∧
      (Engine.withProposal request proposed).alertKey = request.alertKey ∧
      (Engine.withProposal request proposed).approvedBy = request.approvedBy ∧
      (Engine.withProposal request proposed).status = request.status ∧
      (Engine.withProposal request proposed).notBefore = request.notBefore := by
    intro request
    cases proposed <;> exact ⟨rfl, rfl, rfl, rfl, rfl, rfl, rfl⟩
  obtain ⟨id, policyID, eventID, alertKey, approvedBy, status, notBefore⟩ :=
    filled (Engine.blankRequest config event device policy created)
  have filed : ∀ notes denied, Handling notes event config device →
      Keeps engine (Engine.file config (Engine.withProposal
        (Engine.blankRequest config event device policy created) proposed) denied)
        (Proceeds event config device) notes := by
    intro notes denied handling
    refine keeps_file handling triggered denied ?_ fun now => ?_
    · exact ⟨handling.opening, ⟨handling.alertKey, alertKey⟩, ⟨id, policyID, eventID⟩, approvedBy,
        Or.inl ⟨status, notBefore⟩⟩
    · exact ⟨handling.opening, ⟨handling.alertKey, alertKey⟩, ⟨id, policyID, eventID⟩, approvedBy,
        Or.inr rfl⟩
  cases proposed with
  | error failure => exact (Prog.wp_bind _ _ _).mpr (filed _ _ handling)
  | ok proposal => exact keeps_ask ⟨trivial, trivial⟩ fun visit _ => filed _ _ { handling with }

theorem keeps_handleProposal
    (answer : Except Error (Option Proposal)) :
    Keeps engine (Engine.handleProposal config event device policy answer)
      (Proceeds event config device) notes := by
  rcases answer with failure | _ | proposal
  · simp only [Engine.handleProposal]
    split_ifs
    · exact fun impossible => by cases impossible
    · exact keeps_record handling triggered _
  · exact fun _ => handling
  · exact keeps_record handling triggered _

theorem keeps_handlePolicy :
    Keeps engine (Engine.handlePolicy config event device policy)
      (Proceeds event config device) notes := by
  unfold Engine.handlePolicy Engine.propose
  split
  · exact (Prog.wp_bind _ _ _).mpr (keeps_handleProposal handling triggered _)
  · split_ifs
    · exact (Prog.wp_bind _ _ _).mpr (keeps_handleProposal handling triggered _)
    · exact keeps_ask ⟨trivial, trivial⟩ fun answer _ =>
        keeps_handleProposal handling triggered answer

end

theorem keeps_handlePolicies
    (policies : List Policy)
    (created : List AutomationRequest)
    (handling : Handling notes event config device)
    (triggered : ∀ policy ∈ policies, policy ∈ config.policies.matching event device) :
    Keeps engine (Engine.handlePolicies config event device policies created)
      (fun _ _ => True) notes := by
  induction policies generalizing notes created with
  | nil => trivial
  | cons policy rest ih =>
      refine (Prog.wp_bind _ _ _).mpr (Prog.wp_mono ?_
        (keeps_handlePolicy handling (triggered policy (List.mem_cons_self ..))))
      rintro ⟨new, _ | failure⟩ after proceeds
      · exact ih _ (proceeds rfl) fun other member =>
          triggered other (List.mem_cons_of_mem _ member)
      · trivial

theorem keeps_handleEvent (event : Event) :
    Keeps engine (Engine.handleEvent event) (fun _ _ => True)
      (.init (.handleEvent event)) := by
  unfold Engine.handleEvent
  split_ifs with skipped
  · trivial
  · simp only [Bool.or_eq_true, decide_eq_true_eq, not_or, Bool.not_eq_true] at skipped
    refine keeps_ask ⟨trivial, trivial⟩ fun config _ => ?_
    cases config.devices.get event.deviceID with
    | none => trivial
    | some device =>
        exact keeps_handlePolicies _ [] ⟨rfl, skipped.1, skipped.2, rfl, rfl, rfl⟩
          fun _ member => member

theorem keeps_approve (id by_ : String) :
    Keeps engine (Engine.approve id by_) (fun _ _ => True) (.init (.approve id by_)) := by
  unfold Engine.approve
  split_ifs with blank
  · trivial
  · refine keeps_ask ⟨⟨rfl, Bool.eq_false_iff.mpr blank⟩, trivial⟩ ?_
    rintro (failure | _ | _) _ <;> trivial

end Obeys

/-- The program of a call; what it returns is not looked at. -/
def EngineCall.program [Platform] (engine : Engine) : EngineCall → EngineM Unit
  | .handleEvent event => Engine.handleEvent event >>= fun _ => pure ()
  | .tick => engine.tick >>= fun _ => pure ()
  | .approve id by_ => Engine.approve id by_ >>= fun _ => pure ()

/-- Every call keeps the discipline. -/
theorem EngineCall.program_notes [Platform] (engine : Engine) (call : EngineCall) :
    Keeps engine (call.program engine) (fun _ _ => True) (.init call) := by
  cases call with
  | handleEvent event => exact (Prog.wp_bind _ _ _).mpr (keeps_handleEvent event)
  | tick => exact (Prog.wp_bind _ _ _).mpr keeps_tick
  | approve id by_ => exact (Prog.wp_bind _ _ _).mpr (keeps_approve id by_)

/-- The protocol is part of the discipline. -/
theorem noting_refines_protocol [Platform] (engine : Engine) :
    (noting engine).Refines (protocol engine) (fun notes => notes.view) where
  init _ := rfl
  observe _ _ _ := rfl
  pre _ _ allowed := allowed.1
  rely _ _ relied := relied

theorem noting_refines_reporting [Platform] (engine : Engine) :
    (noting engine).Refines (reporting engine) Notes.toReport where
  init _ := rfl
  observe _ _ _ := rfl
  pre notes op allowed := by
    cases op with
    | store op =>
        cases op with
        | completeAutomation result message => exact allowed.2.1
        | _ => trivial
    | _ => trivial
  rely _ _ relied := relied

end InfraObserver
