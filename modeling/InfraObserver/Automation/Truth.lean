import InfraObserver.Automation.Audit

/-!
# Whether an action was live

The flag that an adapter gets looks at the request, at the global switch and at
the policy; the flag in the audit trail looks at the request and at the global
switch only. The two agree unless a policy is switched to dry run after a live
request was recorded.
-/

namespace InfraObserver

open Interleaving (World Machine)

variable {F : Type} [Platform]

/-- The policy of a request asks for a dry run only if the request or the global
switch does. -/
def Config.Keeps (config : Config) (request : AutomationRequest) : Prop :=
  ∀ policy ∈ config.policies.get request.policyID, policy.dryRun = true →
    request.dryRun = true ∨ config.globalDryRun = true

instance (config : Config) (request : AutomationRequest) : Decidable (config.Keeps request) :=
  inferInstanceAs (Decidable (∀ policy ∈ config.policies.get request.policyID, _))

/-- A worker that reads the configuration for the request finds the policy switched
to dry run only if the request or the global switch asks for one. -/
def SettingKept [GoFloat F] (engine : Engine) (id : String) (world : EngineWorld F) :
    EngineAction F → Prop
  | .step thread _ =>
      match world.pending thread with
      | some .config =>
          ∀ claim ∈ (worker engine thread world.trace).claim, claim.request.requestID = id →
            world.shared.config.Keeps claim.request
      | _ => True
  | _ => True

instance [GoFloat F] (engine : Engine) (id : String) (world : EngineWorld F) :
    DecidablePred (SettingKept engine id world)
  | .step thread _ => by
      unfold SettingKept
      dsimp only
      split <;> infer_instance
  | .start _ => isTrue trivial
  | .crash _ => isTrue trivial
  | .disturb _ => isTrue trivial

/-- The steps are safe for the audit trail, and the settings are kept. -/
def TruthSafe [GoFloat F]
    (engine : Engine)
    (id : String)
    (world : EngineWorld F)
    (action : EngineAction F) : Prop :=
  AuditSafe engine id world action ∧ SettingKept engine id world action

instance [GoFloat F]
    (engine : Engine)
    (id : String)
    (world : EngineWorld F)
    (action : EngineAction F) :
    Decidable (TruthSafe engine id world action) :=
  inferInstanceAs (Decidable (_ ∧ _))

/-- The result says of an action whether it was live, and that it was a dry run
exactly if it was one and the adapter did not fail. -/
def AutomationResult.TruthfulOf
    (result : AutomationResult)
    (action : Action)
    (failure : Option Error) : Prop :=
  result.dryRun = action.dryRun ∧
    (result.status = .dryRun ↔ action.dryRun = true ∧ failure = none)

/-! ## What a worker has executed -/

/-- What a thread last asked of an adapter, whatever its call. -/
def actedBy (engine : Engine) (thread : ℕ) (trace : List (EngineEntry F)) :
    Option (Action × Option Error) :=
  (reportOf engine .tick thread trace).acted

section ActedBy

variable {engine : Engine} {call : EngineCall} {thread : ℕ} {trace : List (EngineEntry F)}
variable {entry : EngineEntry F}

@[simp] theorem actedBy_cons_self
    {op : EngineOp}
    {answer : EngineRes op}
    {before : Shared F} :
    actedBy engine thread (⟨thread, call, op, answer, before⟩ :: trace) =
      Report.observeActed (actedBy engine thread trace) op answer := by
  rw [actedBy, reportOf, Interleaving.Discipline.viewOf, if_pos rfl]
  rfl

theorem actedBy_cons_ne (different : entry.thread ≠ thread) :
    actedBy engine thread (entry :: trace) = actedBy engine thread trace := by
  rw [actedBy, reportOf, Interleaving.Discipline.viewOf_cons_ne _ _ different]
  rfl

theorem reportOf_acted (engine : Engine) (call : EngineCall) (thread : ℕ)
    (trace : List (EngineEntry F)) :
    (reportOf engine call thread trace).acted = actedBy engine thread trace := by
  induction trace with
  | nil => rfl
  | cons entry earlier ih =>
      by_cases own : entry.thread = thread
      · subst own
        rw [actedBy_cons_self, ← ih, reportOf,
          Interleaving.Discipline.viewOf_cons_self]
        rfl
      · rw [actedBy_cons_ne own, ← ih, reportOf,
          Interleaving.Discipline.viewOf_cons_ne _ _ own]

end ActedBy

namespace View

variable {view : View} {op : EngineOp} {answer : EngineRes op} {claim : Claim}

theorem ClaimStep.executed
    (step : view.ClaimStep op answer claim)
    (executed : claim.executed = true)
    (other : ∀ device action, op ≠ .execute device action) :
    ∃ old, view.claim = some old ∧ old.executed = true ∧ old.request = claim.request := by
  cases step with
  | made id now lease request found => cases executed
  | kept _ _ _ held => exact ⟨claim, held, executed, rfl⟩
  | read time old held => exact ⟨old, held, executed, rfl⟩
  | alerted alertKey old held => exact ⟨old, held, executed, rfl⟩
  | cooled policyID deviceID target since old held => exact ⟨old, held, executed, rfl⟩
  | acted device action answer old held => exact absurd rfl (other device action)

theorem observeActed_of_held
    (held : (view.observe op answer).claim = some claim)
    (executed : claim.executed = true)
    (other : ∀ device action, op ≠ .execute device action)
    (acted : Option (Action × Option Error)) :
    Report.observeActed acted op answer = acted := by
  unfold Report.observeActed
  split
  · exact absurd rfl (other _ _)
  · obtain ⟨request, _, rfl⟩ := Option.map_eq_some_iff.mp held
    cases executed
  · cases held
  · rfl

end View

/-- A worker that has acted for the request keeps in mind the only action for it. -/
def Remembered (engine : Engine) (id : String) (world : EngineWorld F) : Prop :=
  ∀ holder claim, Holds engine world holder claim → claim.request.requestID = id →
    claim.executed = true → ∀ thread call device action answer before,
      (⟨thread, call, .execute device action, answer, before⟩ : EngineEntry F) ∈ world.trace →
      action.requestID = id →
      actedBy engine holder world.trace = some (action, answer.2)

/-- Workers that hold the request work with settings that were kept. -/
def WorksKept (engine : Engine) (id : String) (world : EngineWorld F) : Prop :=
  ∀ thread claim config, (worker engine thread world.trace).claim = some claim →
    claim.request.requestID = id → (worker engine thread world.trace).config = some config →
      config.Keeps claim.request

section Reachable

variable [GoFloat F]
variable {engine : Engine} {clock : Time} {config : Config} {world : EngineWorld F}
variable {allowed : EngineWorld F → EngineAction F → Prop} {id : String}

theorem worksKept_of_reaches
    (kept : ∀ world action, allowed world action → SettingKept engine id world action)
    (reached : (system F engine).Reaches allowed (fresh F clock config) world) :
    WorksKept engine id world := by
  refine reached.invariant ?_ ?_
  · intro thread claim config impossible
    cases impossible
  intro world action after reached works permitted moves
  -- A claim comes with a configuration that was read for it.
  have step : ∀ writer call op (answer : EngineRes op) (shared : Shared F) rest,
      (∀ known : Config, op = .config → HEq answer known → ∀ claim,
        (worker engine writer world.trace).claim = some claim → claim.request.requestID = id →
          known.Keeps claim.request) →
      WorksKept engine id
        { shared
          threads := world.threads.set writer ⟨call, rest⟩
          trace := ⟨writer, call, op, answer, world.shared⟩ :: world.trace } := by
    intro writer call op answer shared rest reads thread claim known held named configured
    by_cases same : thread = writer
    · subst same
      rw [worker_cons_self] at held configured
      rcases View.observe_config configured with old | ⟨rfl, read⟩
      · cases View.claimStep_of_observe held with
        | made => cases configured
        | kept _ _ _ before => exact works thread claim known before named old
        | read time before same => exact works thread before known same named old
        | alerted alertKey before same => exact works thread before known same named old
        | cooled policyID deviceID target since before same =>
            exact works thread before known same named old
        | acted device action answer before same =>
            exact works thread before known same named old
      · exact reads known rfl read claim held named
    · rw [worker_cons_ne (Ne.symm same)] at held configured
      exact works thread claim known held named configured
  cases Advance.of_moves moves with
  | stored writer choice call op rest answer store running effect answered =>
      exact step writer call (.store op) answer _ _ nofun
  | asked writer choice call op rest answer running other answered =>
      refine step writer call op answer _ _ ?_
      rintro known rfl read claim held named
      obtain rfl := eq_of_heq read
      have setting := kept world _ permitted
      simp only [SettingKept, World.pending, running] at setting
      exact answered ▸ setting claim held named
  | _ => exact works

theorem remembered_of_reaches
    (safe : ∀ world action, allowed world action → AuditSafe engine id world action)
    (reached : (system F engine).Reaches allowed (fresh F clock config) world) :
    Remembered engine id world := by
  refine reached.invariant ?_ ?_
  · rintro holder claim ⟨live, _⟩
    cases live
  intro world action after reached remembered permitted moves
  have obedient := obedient_of_reaches reached
  have audited := audited_of_reaches safe reached
  -- A request that is no execution changes neither the actions nor what is kept in mind.
  have quiet : ∀ writer call op (answer : EngineRes op) (shared : Shared F) rest,
      (∀ device action, op ≠ .execute device action) → world.Live writer →
      Remembered engine id
        { shared
          threads := world.threads.set writer ⟨call, rest⟩
          trace := ⟨writer, call, op, answer, world.shared⟩ :: world.trace } := by
    intro writer call op answer shared rest other live holder claim holds own executed
      thread caller device action result before member named
    have old : (⟨thread, caller, .execute device action, result, before⟩ : EngineEntry F) ∈
        world.trace := by
      rcases List.mem_cons.mp member with new | old
      · cases new
        exact absurd rfl (other device action)
      · exact old
    rcases holds.performed with ⟨different, before⟩ | ⟨rfl, held⟩
    · rw [actedBy_cons_ne (Ne.symm different)]
      exact remembered holder claim before own executed _ _ _ _ _ _ old named
    · rw [actedBy_cons_self]
      obtain ⟨kept, known, acted, request⟩ :=
        (View.claimStep_of_observe held).executed executed other
      rw [View.observeActed_of_held held executed other]
      exact remembered holder kept ⟨live, known⟩ (request ▸ own) acted _ _ _ _ _ _ old named
  cases Advance.of_moves moves with
  | rescheduled _ threads fewer =>
      intro holder claim holds
      exact remembered holder claim (holds.rescheduled obedient fewer)
  | stored writer choice call op rest answer store running effect answered =>
      exact quiet writer call (.store op) answer _ _ nofun (World.live_of_running running)
  | asked writer choice call op rest answer running other answered =>
      have live : world.Live writer := World.live_of_running running
      by_cases acting : ∃ device action, op = .execute device action
      · obtain ⟨device, action, rfl⟩ := acting
        obtain ⟨claim, _, _, _, _, cleared⟩ := cleared_of_reaches reached running
        have named : action.requestID = claim.request.requestID := by rw [cleared.action]
        have holds : Holds engine world writer claim := ⟨live, cleared.held⟩
        intro holder held holds' own executed thread caller device' action' result before member
          same
        rcases holds'.performed with ⟨different, kept⟩ | ⟨rfl, known⟩
        · rw [actedBy_cons_ne (Ne.symm different)]
          rcases List.mem_cons.mp member with new | old
          · cases new
            exact absurd (audited.unique holder held writer claim kept own holds
              (named.symm.trans same)) different
          · exact remembered holder held kept own executed _ _ _ _ _ _ old same
        · obtain ⟨old, was, rfl⟩ := Option.map_eq_some_iff.mp known
          obtain rfl := Option.some.inj (was.symm.trans cleared.held)
          rw [actedBy_cons_self]
          rcases List.mem_cons.mp member with new | tried
          · cases new
            rfl
          · -- Nobody has acted for the request before.
            have untried := audited.unexecuted holder old holds own cleared.unexecuted
            rw [executedIn_iff.mpr ⟨thread, caller, device', action', result, before, tried, same⟩]
              at untried
            cases untried
      · exact quiet writer call op answer _ _
          (fun device action same => acting ⟨device, action, same⟩)
          live
  | _ => exact remembered

variable {result : AutomationResult}

omit [GoFloat F] in
theorem AuditedAt.recorder
    (audited : AuditedAt engine world id)
    {writer : ℕ}
    (executed : executedIn id world.trace = true)
    (live : world.Live writer)
    (may : (worker engine writer world.trace).MayFinish result)
    (named : result.requestID = id)
    (unfinished : world.shared.store.autoRes.lookup id = none)
    (expiry : (worker engine writer world.trace).claim = none → result.status = .expired →
      world.shared.store.statusOf id ≠ some .executing) :
    ∃ claim, Holds engine world writer claim ∧ claim.request.requestID = id ∧
      claim.executed = true := by
  -- An executed request without a result is still being executed.
  have executing := audited.unrecorded executed unfinished
  cases may with
  | expires free listed status =>
      exact absurd executing (expiry free status)
  | stops claim held same unexecuted status =>
      have untried := audited.unexecuted writer claim ⟨live, held⟩ (same.trans named) unexecuted
      rw [executed] at untried
      cases untried
  | reports claim held same acted status finished =>
      exact ⟨claim, ⟨live, held⟩, same.trans named, acted⟩
  | refuses free refused status =>
      rw [audited.refused writer (named ▸ refused)] at executing
      cases executing

theorem truthful_of_recording
    (safe : ∀ world action, allowed world action →
      TruthSafe engine result.requestID world action)
    (reached : (system F engine).Reaches allowed (fresh F clock config) world)
    {writer : ℕ}
    {call : EngineCall}
    {message : OutboxMessage}
    {rest : Except Error Bool → EngineM Unit}
    (running : world.threads[writer]? =
      some ⟨call, .call (.store (.completeAutomation result message)) rest⟩)
    (unfinished : world.shared.store.autoRes.lookup result.requestID = none)
    (expiry : (worker engine writer world.trace).claim = none → result.status = .expired →
      world.shared.store.statusOf result.requestID ≠ some .executing)
    {thread : ℕ}
    {caller : EngineCall}
    {device : Device}
    {action : Action}
    {answer : ActionResult × Option Error}
    {before : Shared F}
    (executed : ⟨thread, caller, .execute device action, answer, before⟩ ∈ world.trace)
    (named : action.requestID = result.requestID) :
    result.TruthfulOf action answer.2 := by
  have audited := audited_of_reaches (fun world action step => (safe world action step).1) reached
  have kept := worksKept_of_reaches (fun world action step => (safe world action step).2) reached
  have remembered :=
    remembered_of_reaches (fun world action step => (safe world action step).1) reached
  have tried := executedIn_iff.mpr ⟨thread, caller, device, action, answer, before, executed, named⟩
  obtain ⟨claim, holds, same, acted⟩ := audited.recorder tried
    (World.live_of_running running) (mayFinish_of_reaches reached running) rfl unfinished expiry
  have known := remembered writer claim holds same acted _ _ _ _ _ _ executed named
  obtain ⟨reported, config, policy, held, configured, policyExists, _, asked, flag, status⟩ :=
    (mayRecord_of_reaches reached running).executed action answer.2
      ((reportOf_acted _ _ _ _).trans known)
  rw [reportOf_view, viewOf_eq_worker] at held configured
  obtain rfl := Option.some.inj (held.symm.trans holds.2)
  have setting := kept writer reported config held same configured policy policyExists
  refine ⟨?_, status⟩
  rw [asked, flag, Engine.dry]
  cases dry : policy.dryRun with
  | false => simp
  | true =>
      rcases setting dry with own | switch
      · simp [own]
      · simp [switch]

/-- The audit trail says truthfully whether an executed action was live, as long
as every step is safe for its request and the policy is not switched to dry run under
it. -/
theorem live_flag_truthful
    {thread : ℕ}
    {call : EngineCall}
    {device : Device}
    {action : Action}
    {answer : ActionResult × Option Error}
    {before : Shared F}
    (reached : (system F engine).Reaches (TruthSafe engine action.requestID)
      (fresh F clock config) world)
    (executed : ⟨thread, call, .execute device action, answer, before⟩ ∈ world.trace)
    (recorded : world.shared.store.autoRes.lookup action.requestID = some result) :
    result.dryRun = action.dryRun ∧
      (result.status = .dryRun ↔ action.dryRun = true ∧ answer.2 = none) := by
  generalize own : action.requestID = id at reached recorded
  suffices truthful : ∀ thread call device action answer before result,
    ⟨thread, call, .execute device action, answer, before⟩ ∈ world.trace →
      action.requestID = id → world.shared.store.autoRes.lookup id = some result →
      result.TruthfulOf action answer.2 from
    truthful thread call device action answer before result executed own recorded
  refine reached.invariant ?_ ?_
  · intro thread call device action answer before result impossible
    cases impossible
  intro world step after reached truthful permitted moves
  cases Advance.of_moves moves with
  | stored writer choice caller op rest reply store running effect answered =>
      intro thread call device action answer before result member own recorded
      have executed : (⟨thread, call, .execute device action, answer, before⟩ : EngineEntry F) ∈
          world.trace := (List.mem_cons.mp member).resolve_left nofun
      rcases effect.results id with same | ⟨new, message, rfl, rfl, _, none_, final⟩
      · exact truthful _ _ _ _ _ _ _ executed own (same ▸ recorded)
      · obtain rfl := Option.some.inj (final.symm.trans recorded)
        have expiry := permitted.1
        simp only [AuditSafe, storing_of_running running] at expiry
        exact truthful_of_recording (fun _ _ safe => safe) reached running none_
          (fun free expired => (expiry trivial free expired none_).1) executed own
  | asked writer choice caller op rest reply running other answered =>
      intro thread call device action answer before result member own recorded
      rcases List.mem_cons.mp member with new | old
      · -- The worker that acts holds the request, so there is no outcome yet.
        cases new
        obtain ⟨claim, _, _, _, _, cleared⟩ := cleared_of_reaches reached running
        rw [cleared.action] at own
        have unfinished := ((audited_of_reaches (fun _ _ safe => safe.1) reached).executing
          writer claim ⟨World.live_of_running running, cleared.held⟩ own).2
        rw [unfinished] at recorded
        cases recorded
      · exact truthful _ _ _ _ _ _ _ old own recorded
  | processed processor attempt sample =>
      intro thread call device action answer before result member own recorded
      have same := processor.process_sameRequests attempt sample world.shared.store
      exact truthful _ _ _ _ _ _ _ member own (same.autoRes ▸ recorded)
  | _ => exact truthful

end Reachable

end InfraObserver

namespace InfraObserver

open Interleaving (World Machine)

attribute [local instance] Platform.plain GoFloat.integer

/-- The audit trail is right about the bounced interface. -/
theorem bounce_flag_truthful :
    let world := (system ℤ plainEngine).run (fresh ℤ 10 (bounceConfig true)) approvedRun
    ∃ thread call device action answer before result,
      (⟨thread, call, .execute device action, answer, before⟩ : EngineEntry ℤ) ∈ world.trace ∧
      world.shared.store.autoRes.lookup action.requestID = some result ∧
      result.dryRun = action.dryRun ∧
      (result.status = .dryRun ↔ action.dryRun = true ∧ answer.2 = none) := by
  intro world
  have acted : executedIn bounceID world.trace = true := by decide +kernel
  have finished : (world.shared.store.autoRes.lookup bounceID).isSome = true := by decide +kernel
  have permits : (system ℤ plainEngine).Permits (TruthSafe plainEngine bounceID)
      (fresh ℤ 10 (bounceConfig true)) approvedRun := by decide +kernel
  have reached : (system ℤ plainEngine).Reaches (TruthSafe plainEngine bounceID)
      (fresh ℤ 10 (bounceConfig true)) world := Machine.reaches_run approvedRun permits
  obtain ⟨thread, call, device, action, answer, before, member, same⟩ := executedIn_iff.mp acted
  rw [← same] at finished
  obtain ⟨result, recorded⟩ := Option.isSome_iff_exists.mp finished
  exact ⟨thread, call, device, action, answer, before, result, member, recorded,
    live_flag_truthful (same ▸ reached) member recorded⟩

/-- The policy, switched to dry run. -/
def rehearsedPolicies : Policies :=
  .single ["sw-1"]
    { bouncePolicy false with safety := { (bouncePolicy false).safety with dryRun := some true } }
    (by
      rw [Policy.valid_iff_problems]
      decide +kernel)
    (by decide +kernel)

/-- A live request is recorded, the operator switches the policy to dry run, and a
worker executes the request. -/
def rehearsedRun : List (EngineAction ℤ) :=
  switchGoesDown ++
    .disturb (.configure { bounceConfig false with policies := rehearsedPolicies }) ::
    .start .tick :: steps 1 15

/-- The flags of the actions that adapters were asked for. -/
def askedFlags : List (EngineEntry ℤ) → List Bool
  | [] => []
  | ⟨_, _, .execute _ action, _, _⟩ :: earlier => action.dryRun :: askedFlags earlier
  | _ :: earlier => askedFlags earlier

/-- The adapter made a dry run, and the audit trail says that the action was
live. -/
theorem dry_run_recorded_live :
    let world := (system ℤ plainEngine).run (fresh ℤ 10 (bounceConfig false)) rehearsedRun
    (system ℤ plainEngine).Permits (AuditSafe plainEngine bounceID)
        (fresh ℤ 10 (bounceConfig false)) rehearsedRun ∧
      executedIn bounceID world.trace = true ∧ askedFlags world.trace = [true] ∧
      (world.shared.store.autoRes.lookup bounceID).map
        (fun result => (result.dryRun, result.status)) = some (false, .dryRun) := by
  decide +kernel

end InfraObserver
