import InfraObserver.Automation.Gates

/-!
# Cooldowns

The cooldown gate reads the history of recorded outcomes, and the action follows
later. Executions of one policy on one device and target keep their distance as
long as a worker finds the history empty only while no other request for them is under
way.
-/

namespace InfraObserver

open Interleaving (World Machine)

/-- Two requests are for the same policy, device and target. -/
def AutomationRequest.SameScope (left right : AutomationRequest) : Prop :=
  left.policyID = right.policyID ∧ left.deviceID = right.deviceID ∧ left.target = right.target

instance (left right : AutomationRequest) : Decidable (left.SameScope right) :=
  inferInstanceAs (Decidable (_ ∧ _ ∧ _))

namespace AutomationRequest.SameScope

variable {left middle right : AutomationRequest}

theorem symm (same : left.SameScope right) : right.SameScope left :=
  ⟨same.1.symm, same.2.1.symm, same.2.2.symm⟩

theorem trans (first : left.SameScope middle) (second : middle.SameScope right) :
    left.SameScope right :=
  ⟨first.1.trans second.1, first.2.1.trans second.2.1, first.2.2.trans second.2.2⟩

theorem of_core (core : left.core = right.core) : left.SameScope right := by
  change left.core.policyID = right.core.policyID ∧ left.core.deviceID = right.core.deviceID ∧
    left.core.target = right.core.target
  rw [core]
  exact ⟨rfl, rfl, rfl⟩

end AutomationRequest.SameScope

variable {F : Type} [Platform]

/-! ## Requests under way -/

/-- The request, as it is stored, for which an entry asks an adapter to act. -/
def begins : EngineEntry F → List (ℕ × AutomationRequest)
  | ⟨thread, _, .execute _ action, _, before⟩ =>
      (before.store.autoReq.lookup action.requestID).toList.map (Prod.mk thread)
  | _ => []

/-- The entry records that a thread has executed a request. -/
def reports (thread : ℕ) (id : String) : EngineEntry F → Bool
  | ⟨writer, _, .store (.completeAutomation result _), .ok true, _⟩ =>
      writer = thread && result.requestID = id && result.status.executed
  | _ => false

/-- The executions whose outcome was not recorded by the thread that acted. -/
def unrecorded : List (EngineEntry F) → List (ℕ × AutomationRequest)
  | [] => []
  | entry :: earlier =>
      begins entry ++
        (unrecorded earlier).filter fun other => !reports other.1 other.2.requestID entry

/-- The requests that were executed without a recorded outcome, and those that a
live worker holds and has found no recent execution for. -/
def underWay (engine : Engine) (world : EngineWorld F) : List (ℕ × AutomationRequest) :=
  unrecorded world.trace ++
    ((holders engine world).filter fun holder => holder.2.cleared).map fun holder =>
      (holder.1, holder.2.request)

/-- The operator does not change a policy. -/
def PolicyFixed [GoFloat F] (policy : Policy) : EngineAction F → Prop
  | .disturb (.configure config) => config.policies.get policy.id = some policy
  | _ => True

instance [GoFloat F] (policy : Policy) : DecidablePred (PolicyFixed (F := F) policy)
  | .disturb (.configure config) =>
      inferInstanceAs (Decidable (config.policies.get policy.id = some policy))
  | .disturb (.setClock _) => isTrue trivial
  | .disturb (.process ..) => isTrue trivial
  | .start _ => isTrue trivial
  | .step .. => isTrue trivial
  | .crash _ => isTrue trivial

/-- The policy is fixed, and a worker finds the history empty for a request of the
policy only while no other request of its scope is under way. -/
def CooldownSafe [GoFloat F]
    (engine : Engine)
    (policy : Policy)
    (world : EngineWorld F)
    (action : EngineAction F) : Prop :=
  PolicyFixed policy action ∧
    match storing world action with
    | some (thread, .automationHistory policyID deviceID target since) =>
        world.shared.store.automationHistory policyID deviceID target since = [] →
          ∀ claim ∈ (worker engine thread world.trace).claim, claim.request.policyID = policy.id →
            ∀ other ∈ underWay engine world,
              other.2.requestID ≠ claim.request.requestID → ¬other.2.SameScope claim.request
    | _ => True

instance [GoFloat F]
    (engine : Engine)
    (policy : Policy)
    (world : EngineWorld F)
    (action : EngineAction F) :
    Decidable (CooldownSafe engine policy world action) := by
  unfold CooldownSafe
  generalize storing world action = stored
  rcases stored with _ | ⟨_, _ | _ | _ | _ | _ | _ | _ | _ | _ | _⟩ <;> infer_instance

variable {thread : ℕ}

theorem unrecorded_or_reports
    {since earlier : List (EngineEntry F)}
    {entry : EngineEntry F}
    {request : AutomationRequest}
    (begun : (thread, request) ∈ begins entry) :
    (thread, request) ∈ unrecorded (since ++ entry :: earlier) ∨
      ∃ later ∈ since, reports thread request.requestID later = true := by
  induction since with
  | nil => exact Or.inl (List.mem_append_left _ begun)
  | cons newest since ih =>
      rcases ih with still | ⟨later, member, reported⟩
      · cases reported : reports thread request.requestID newest with
        | true => exact Or.inr ⟨newest, List.mem_cons_self .., reported⟩
        | false =>
            refine Or.inl (List.mem_append_right _ (List.mem_filter.mpr ⟨still, ?_⟩))
            simp [reported]
      · exact Or.inr ⟨later, List.mem_cons_of_mem _ member, reported⟩

variable {id : String}

theorem reports_iff
    {entry : EngineEntry F} :
    reports thread id entry = true ↔ ∃ call result message before,
      entry = ⟨thread, call, .store (.completeAutomation result message), .ok true, before⟩ ∧
        result.requestID = id ∧ result.status.executed = true := by
  constructor
  · intro reported
    unfold reports at reported
    split at reported
    · next writer call result message before =>
        simp only [Bool.and_eq_true, decide_eq_true_eq] at reported
        obtain ⟨⟨rfl, named⟩, executed⟩ := reported
        exact ⟨call, result, message, before, rfl, named, executed⟩
    · cases reported
  · rintro ⟨call, result, message, before, rfl, named, executed⟩
    simp [reports, named, executed]

omit [Platform] in
theorem MemStore.finished_of_history
    {store : MemStore F}
    (wellFormed : store.WellFormed)
    {policyID deviceID target : String}
    {since : Time}
    (empty : store.automationHistory policyID deviceID target since = [])
    {request : AutomationRequest}
    {result : AutomationResult}
    (found : store.autoReq.lookup id = some request)
    (scope : request.policyID = policyID ∧ request.deviceID = deviceID ∧ request.target = target)
    (executed : request.status.executed = true)
    (recorded : store.autoRes.lookup id = some result) :
    result.finishedAt < since := by
  by_contra late
  have listed : (id, request) ∈ store.requests := by
    refine List.mem_filterMap.mpr ⟨id, wellFormed.listed id (by rw [found]; rfl), ?_⟩
    rw [found]
    rfl
  have member : request ∈ store.automationHistory policyID deviceID target since := by
    refine List.mem_map.mpr ⟨(id, request), List.mem_filter.mpr ⟨listed, ?_⟩, rfl⟩
    simp [executedSince, scope, executed, recorded, not_lt.mp late]
  rw [empty] at member
  cases member

/-! ## Executions keep their distance -/

/-- A thread has recorded that it executed a request, and that it finished more
than the cooldown before an instant. -/
def FinishedBefore
    (since : List (EngineEntry F))
    (thread : ℕ)
    (id : String)
    (cooldown : Duration)
    (gate : Time) : Prop :=
  ∃ call result message before,
    (⟨thread, call, .store (.completeAutomation result message), .ok true, before⟩ :
      EngineEntry F) ∈ since ∧
    result.requestID = id ∧ result.status.executed = true ∧
    Time.add result.finishedAt cooldown < gate

theorem FinishedBefore.later
    {since : List (EngineEntry F)}
    {cooldown : Duration}
    {gate : Time}
    (finished : FinishedBefore since thread id cooldown gate)
    (entry : EngineEntry F) :
    FinishedBefore (entry :: since) thread id cooldown gate := by
  obtain ⟨call, result, message, before, member, rest⟩ := finished
  exact ⟨call, result, message, before, List.mem_cons_of_mem _ member, rest⟩

/-- The first clock reading after the claim is more than the cooldown after every
execution of another request of the scope. -/
def Apart (policy : Policy) (trace : List (EngineEntry F)) (claim : Claim) : Prop :=
  ∀ since earlier thread call device action answer before request,
    trace = since ++ (⟨thread, call, .execute device action, answer, before⟩ : EngineEntry F) ::
      earlier →
    before.store.autoReq.lookup action.requestID = some request →
    action.requestID ≠ claim.request.requestID → request.SameScope claim.request →
    ∃ gate, claim.gateTime = some gate ∧
      FinishedBefore since thread action.requestID policy.safety.cooldown gate

/-- The workers that have found no recent execution under a policy. -/
structure Spaced (engine : Engine) (policy : Policy) (world : EngineWorld F) : Prop where
  alone : ∀ thread claim other claim', Holds engine world thread claim → claim.cleared = true →
    claim.request.policyID = policy.id → Holds engine world other claim' →
    claim'.cleared = true → claim'.request.SameScope claim.request →
    claim'.request.requestID = claim.request.requestID
  apart : ∀ thread claim, Holds engine world thread claim → claim.cleared = true →
    claim.request.policyID = policy.id → Apart policy world.trace claim

theorem Holds.cleared_origin
    {engine : Engine}
    {world : EngineWorld F}
    {writer : ℕ}
    {claim : Claim}
    {call : EngineCall}
    {op : EngineOp}
    {answer : EngineRes op}
    {shared : Shared F}
    {rest : EngineM Unit}
    (live : world.Live writer)
    (holds : Holds engine
      { shared
        threads := world.threads.set writer ⟨call, rest⟩
        trace := ⟨writer, call, op, answer, world.shared⟩ :: world.trace } thread claim)
    (cleared : claim.cleared = true) :
    ∃ old, Holds engine world thread old ∧ claim.request = old.request ∧
      (∀ gate, old.gateTime = some gate → claim.gateTime = some gate) ∧
      (old.cleared = true ∨ thread = writer ∧ ∃ policyID deviceID target since,
        op = .store (.automationHistory policyID deviceID target since) ∧
          HEq answer (Except.ok [] : Except Error (List AutomationRequest))) := by
  rcases holds.performed with ⟨_, before⟩ | ⟨rfl, held⟩
  · exact ⟨claim, before, rfl, fun _ same => same, Or.inl cleared⟩
  · obtain ⟨old, known, request, gate, reason⟩ :=
      (View.claimStep_of_observe held).cleared cleared
    exact ⟨old, ⟨live, known⟩, request, gate, reason.imp_right fun read => ⟨rfl, read⟩⟩

theorem Holds.underWay
    {engine : Engine}
    {world : EngineWorld F}
    {claim : Claim}
    (holds : Holds engine world thread claim)
    (cleared : claim.cleared = true) :
    (thread, claim.request) ∈ underWay engine world := by
  refine List.mem_append_right _ (List.mem_map.mpr ⟨(thread, claim), ?_, rfl⟩)
  exact List.mem_filter.mpr ⟨(mem_holders engine world thread claim).mpr holds, cleared⟩

section Reachable

variable [GoFloat F]
variable {engine : Engine} {clock : Time} {config : Config} {policy : Policy}
variable {allowed : EngineWorld F → EngineAction F → Prop} {world : EngineWorld F}

theorem policy_of_reaches
    (fixed : ∀ world action, allowed world action → PolicyFixed policy action)
    (start : config.policies.get policy.id = some policy)
    (reached : (system F engine).Reaches allowed (fresh F clock config) world) :
    world.shared.config.policies.get policy.id = some policy ∧
      ∀ thread known, (worker engine thread world.trace).config = some known →
        known.policies.get policy.id = some policy :=
  config_of_reaches (fun config => config.policies.get policy.id = some policy)
    (fun world _ permitted => fixed world _ permitted) start reached

variable {thread : ℕ} {call : EngineCall}

theorem checks_of_reaches
    (reached : (system F engine).Reaches allowed (fresh F clock config) world)
    {policyID deviceID target : String}
    {since : Time}
    {rest : Except Error (List AutomationRequest) → EngineM Unit}
    (running : world.threads[thread]? =
      some ⟨call, .call (.store (.automationHistory policyID deviceID target since)) rest⟩) :
    ∃ claim config policy now, (worker engine thread world.trace).Checks policyID deviceID target
      since claim config policy now := by
  obtain ⟨claim, config, policy, now, held, unexecuted, configured, gateTime, policyExists,
    samePolicy, sameDevice, sameTarget, sameSince⟩ := mayIssue_of_reaches reached running
  exact ⟨claim, config, policy, now, held, unexecuted, configured, gateTime, policyExists,
    samePolicy, sameDevice, sameTarget, sameSince⟩

theorem apart_of_history
    (reached : (system F engine).Reaches allowed (fresh F clock config) world)
    {claim : Claim}
    {gate : Time}
    (idle : ∀ other ∈ unrecorded world.trace,
      other.2.requestID ≠ claim.request.requestID → ¬other.2.SameScope claim.request)
    (gateTime : claim.gateTime = some gate)
    (empty : world.shared.store.automationHistory claim.request.policyID claim.request.deviceID
      claim.request.target (Time.addNeg gate policy.safety.cooldown) = []) :
    Apart policy world.trace claim := by
  intro since earlier thread call device action answer before request split found different scope
  have member : (⟨thread, call, .execute device action, answer, before⟩ : EngineEntry F) ∈
      world.trace := by
    rw [split]
    exact List.mem_append_right _ (List.mem_cons_self ..)
  obtain ⟨current, present, core⟩ := stored_since reached _ member _ request found
  have named : request.requestID = action.requestID := by
    rw [← AutomationRequest.requestID_of_core core]
    exact (wellFormed_of_reaches reached).keyed _ current present
  refine ⟨gate, gateTime, ?_⟩
  have begun : (thread, request) ∈
      begins (⟨thread, call, .execute device action, answer, before⟩ : EngineEntry F) := by
    simp [begins, found]
  rcases unrecorded_or_reports begun with open_ | ⟨entry, reported, report⟩
  · exact absurd scope (idle (thread, request) (split ▸ open_) (named ▸ different))
  · obtain ⟨reporter, result, message, shared, rfl, same, executed⟩ := reports_iff.mp report
    refine ⟨reporter, result, message, shared, reported, same.trans named, executed, ?_⟩
    have inTrace : (⟨thread, reporter, .store (.completeAutomation result message), .ok true,
        shared⟩ : EngineEntry F) ∈ world.trace := by
      rw [split]
      exact List.mem_append_left _ reported
    have recorded : world.shared.store.autoRes.lookup action.requestID = some result :=
      same.trans named ▸ recorded_since reached inTrace
    obtain ⟨_, _, stored, lookup, status⟩ := (ledger_of_reaches reached).final _ result recorded
    obtain rfl : current = stored := by simpa [present] using lookup
    have early := MemStore.finished_of_history (wellFormed_of_reaches reached) empty present
      ((AutomationRequest.SameScope.of_core core).trans scope) (by rw [status, executed]) recorded
    simp only [Time.add, Time.addNeg] at early ⊢
    linarith

section

variable (start : config.policies.get policy.id = some policy)
  (reached : (system F engine).Reaches (CooldownSafe engine policy) (fresh F clock config) world)
include start reached

theorem acting_of_reaches
    {device : Device}
    {action : Action}
    {rest : ActionResult × Option Error → EngineM Unit}
    (running : world.threads[thread]? = some ⟨call, .call (.execute device action) rest⟩)
    {request : AutomationRequest}
    (found : world.shared.store.autoReq.lookup action.requestID = some request)
    (named : request.policyID = policy.id) :
    ∃ claim, Holds engine world thread claim ∧ claim.cleared = true ∧
      claim.request.requestID = action.requestID ∧ request.SameScope claim.request := by
  obtain ⟨claim, known, now, acted, spec, cleared⟩ := cleared_of_reaches reached running
  have sameID : action.requestID = claim.request.requestID := by rw [cleared.action]
  have member : claim.request ∈ (worker engine thread world.trace).snapshots :=
    (View.mem_snapshots _ _).mpr (Or.inr (Or.inr ⟨claim, cleared.held, rfl⟩))
  obtain ⟨⟨current, present, core⟩, _⟩ :=
    (ledger_of_reaches reached).snapshots .tick thread claim.request member
  obtain rfl : current = request := by
    rw [sameID, present] at found
    exact Option.some.inj found
  have scope := AutomationRequest.SameScope.of_core core
  have samePolicy : acted = policy := by
    have exists_ := cleared.passed.policyExists
    rw [← scope.1, named, (policy_of_reaches (fun _ _ safe => safe.1) start reached).2 thread known
      cleared.configured] at exists_
    exact (Option.some.inj exists_).symm
  have positive : Duration.zero < policy.safety.cooldown :=
    (config.policies.guarded ((config.policies.get_eq_some_iff _ _).mp start).1).2
  exact ⟨claim, ⟨World.live_of_running running, cleared.held⟩,
    cleared.cooled (samePolicy ▸ positive), sameID.symm, scope⟩

theorem checked_of_reaches
    {policyID deviceID target : String}
    {since : Time}
    {rest : Except Error (List AutomationRequest) → EngineM Unit}
    {choice : Choice}
    (running : world.threads[thread]? =
      some ⟨call, .call (.store (.automationHistory policyID deviceID target since)) rest⟩)
    (empty : (world.shared.respond
      (.store (.automationHistory policyID deviceID target since)) choice).1 = .ok [])
    {claim : Claim}
    (held : (worker engine thread world.trace).claim = some claim)
    (named : claim.request.policyID = policy.id)
    (idle : ∀ other ∈ underWay engine world,
      other.2.requestID ≠ claim.request.requestID → ¬other.2.SameScope claim.request) :
    Apart policy world.trace claim := by
  obtain ⟨checked, known, used, now, checks⟩ := checks_of_reaches reached running
  obtain rfl := Option.some.inj (checks.held.symm.trans held)
  obtain rfl : used = policy := by
    have exists_ := checks.policyExists
    rw [named, (policy_of_reaches (fun _ _ safe => safe.1) start reached).2 thread known
      checks.configured] at exists_
    exact (Option.some.inj exists_).symm
  obtain rfl := checks.policyID
  obtain rfl := checks.deviceID
  obtain rfl := checks.target
  obtain rfl := checks.since
  refine apart_of_history reached ?_ checks.gateTime ?_
  · intro other member
    exact idle other (List.mem_append_left _ member)
  · simp only [Shared.respond] at empty
    cases fault : choice.fault with
    | some failure => simp [fault] at empty
    | none => simpa only [fault, AutomationOp.perform, Except.ok.injEq] using empty

end

theorem Spaced.performed
    (spaced : Spaced engine policy world)
    (start : config.policies.get policy.id = some policy)
    (reached : (system F engine).Reaches (CooldownSafe engine policy) (fresh F clock config) world)
    {writer : ℕ}
    {op : EngineOp}
    {rest : EngineRes op → EngineM Unit}
    {choice : Choice}
    {answer : EngineRes op}
    {shared : Shared F}
    (running : world.threads[writer]? = some ⟨call, .call op rest⟩)
    (permitted : CooldownSafe engine policy world (.step writer choice))
    (answered : answer = (world.shared.respond op choice).1) :
    Spaced engine policy
      { shared
        threads := world.threads.set writer ⟨call, rest answer⟩
        trace := ⟨writer, call, op, answer, world.shared⟩ :: world.trace } := by
  have live : world.Live writer := World.live_of_running running
  -- While a worker finds the history empty, no other request of its scope is under way.
  have idle : ∀ claim policyID deviceID target since, Holds engine world writer claim →
      claim.request.policyID = policy.id →
      op = .store (.automationHistory policyID deviceID target since) →
      HEq answer (Except.ok [] : Except Error (List AutomationRequest)) →
      ∀ other ∈ underWay engine world,
        other.2.requestID ≠ claim.request.requestID → ¬other.2.SameScope claim.request := by
    rintro claim policyID deviceID target since ⟨_, held⟩ named rfl empty
    have safe := permitted.2
    rw [storing_of_running running] at safe
    have read := Shared.respond_ok (answered.symm.trans (eq_of_heq empty))
    exact safe (Except.ok.inj read) claim held named
  constructor
  · intro thread claim other claim' holds cleared named holds' cleared' scope
    obtain ⟨old, before, request, _, reason⟩ := holds.cleared_origin live cleared
    obtain ⟨old', before', request', _, reason'⟩ := holds'.cleared_origin live cleared'
    rw [request] at named scope ⊢
    rw [request'] at scope ⊢
    by_contra different
    rcases reason with early | ⟨rfl, policyID, deviceID, target, since, read, empty⟩
    · rcases reason' with early' | ⟨rfl, policyID, deviceID, target, since, read, empty⟩
      · exact different (spaced.alone thread old other old' before early named before' early' scope)
      · exact idle old' policyID deviceID target since before' (scope.1.trans named) read empty _
          (before.underWay early) (Ne.symm different) scope.symm
    · rcases reason' with early' | ⟨rfl, _⟩
      · exact idle old policyID deviceID target since before named read empty _
          (before'.underWay early') different scope
      · obtain rfl := Option.some.inj (before.2.symm.trans before'.2)
        exact different rfl
  · intro thread claim holds cleared named since earlier actor caller device action result stored
      request split found different scope
    obtain ⟨old, before, same, gates, reason⟩ := holds.cleared_origin live cleared
    rw [same] at named different scope
    cases since with
    | nil =>
        -- The worker that acts and this one would be two in the same scope.
        obtain ⟨sameEntry, _⟩ := List.cons.inj split
        cases sameEntry
        rcases reason with early | ⟨_, _, _, _, _, read, _⟩
        · obtain ⟨acting, actingHolds, ready, sameID, actingScope⟩ :=
            acting_of_reaches start reached running found (scope.1.trans named)
          refine absurd ?_ different
          rw [← sameID]
          exact spaced.alone thread old writer acting before early named actingHolds ready
            (actingScope.symm.trans scope)
        · cases read
    | cons newest since =>
        obtain ⟨rfl, tail⟩ := List.cons.inj split
        have apart : Apart policy world.trace old := by
          rcases reason with early | ⟨rfl, policyID, deviceID, target, reach, rfl, empty⟩
          · exact spaced.apart thread old before early named
          · exact checked_of_reaches start reached running
              (answered.symm.trans (eq_of_heq empty)) before.2 named
              (idle old policyID deviceID target reach before named rfl empty)
        obtain ⟨gate, known, finished⟩ := apart since earlier actor caller device action result
          stored request tail found different scope
        exact ⟨gate, gates gate known, finished.later _⟩

theorem spaced_of_reaches
    (start : config.policies.get policy.id = some policy)
    (reached : (system F engine).Reaches (CooldownSafe engine policy) (fresh F clock config)
      world) :
    Spaced engine policy world := by
  refine reached.invariant ?_ ?_
  · constructor
    · rintro thread claim other claim' ⟨live, _⟩
      cases live
    · rintro thread claim ⟨live, _⟩
      cases live
  intro world action after reached spaced permitted moves
  cases Advance.of_moves moves with
  | rescheduled _ threads fewer =>
      have obedient := obedient_of_reaches reached
      constructor
      · intro thread claim other claim' holds cleared named holds'
        exact spaced.alone thread claim other claim' (holds.rescheduled obedient fewer) cleared
          named (holds'.rescheduled obedient fewer)
      · intro thread claim holds
        exact spaced.apart thread claim (holds.rescheduled obedient fewer)
  | stored writer choice call op rest answer store running effect answered =>
      exact spaced.performed start reached running permitted answered
  | asked writer choice call op rest answer running other answered =>
      exact spaced.performed start reached running permitted answered
  | clock time => exact ⟨spaced.alone, spaced.apart⟩
  | configured config => exact ⟨spaced.alone, spaced.apart⟩
  | processed processor attempt sample => exact ⟨spaced.alone, spaced.apart⟩

/-- Of two executions of different requests for one policy, device and target,
the gates of the later one were evaluated more than the cooldown after the
earlier one finished, as long as every step is safe. -/
theorem cooldown_kept
    (start : config.policies.get policy.id = some policy)
    (reached : (system F engine).Reaches (CooldownSafe engine policy) (fresh F clock config) world)
    {later between earlier : List (EngineEntry F)}
    {thread thread' : ℕ}
    {call call' : EngineCall}
    {device device' : Device}
    {action action' : Action}
    {answer answer' : ActionResult × Option Error}
    {before before' : Shared F}
    (executed : world.trace = later ++
      ⟨thread', call', .execute device' action', answer', before'⟩ :: (between ++
        ⟨thread, call, .execute device action, answer, before⟩ :: earlier))
    {request request' : AutomationRequest}
    (found : before.store.autoReq.lookup action.requestID = some request)
    (found' : before'.store.autoReq.lookup action'.requestID = some request')
    (different : action.requestID ≠ action'.requestID)
    (scope : request.SameScope request')
    (named : request'.policyID = policy.id) :
    ∃ claim gate, (worker engine thread' (between ++
        ⟨thread, call, .execute device action, answer, before⟩ :: earlier)).claim = some claim ∧
      claim.request.requestID = action'.requestID ∧ claim.gateTime = some gate ∧
      FinishedBefore between thread action.requestID policy.safety.cooldown gate := by
  refine reached.every_entry (fun entry trace => ∀ device' action',
    entry.op = .execute device' action' →
    entry.before.store.autoReq.lookup action'.requestID = some request' →
    action.requestID ≠ action'.requestID →
    trace = between ++ ⟨thread, call, .execute device action, answer, before⟩ :: earlier →
    ∃ claim gate, (worker engine entry.thread trace).claim = some claim ∧
      claim.request.requestID = action'.requestID ∧ claim.gateTime = some gate ∧
      FinishedBefore between thread action.requestID policy.safety.cooldown gate) ?_ executed
    device' action' rfl found' different rfl
  rintro world writer caller op rest choice reached running permitted device' action' rfl found'
    different split
  obtain ⟨claim, holds, ready, sameID, sameScope⟩ :=
    acting_of_reaches start reached running found' named
  obtain ⟨gate, known, finished⟩ := (spaced_of_reaches start reached).apart writer claim holds ready
    (sameScope.1.symm.trans named) between earlier thread call device action answer before request
    split found (sameID ▸ different) (scope.trans sameScope)
  exact ⟨claim, gate, holds.2, sameID, known, finished⟩

end Reachable

end InfraObserver

namespace InfraObserver

open Interleaving (World Machine)

attribute [local instance] Platform.plain GoFloat.integer

/-- The request that the second event causes. -/
def bounceAgainID : String := requestID "bounce" switchDownAgain.eventID

/-- The interface is bounced twice, the second time after the cooldown. -/
def bouncedTwiceRun : List (EngineAction ℤ) :=
  switchGoesDown ++ .start .tick :: steps 1 15 ++ switchFlaps ++
    .start (.handleEvent switchDownAgain) :: steps 2 4 ++
    .disturb (.setClock (Time.add 10 .fiveMinutes)) :: .start .tick :: steps 3 15

theorem begins_scope
    {thread : ℕ}
    {call : EngineCall}
    {device : Device}
    {action : Action}
    {answer : ActionResult × Option Error}
    {before : Shared ℤ}
    {policyID deviceID target : String}
    (begun : (begins (⟨thread, call, .execute device action, answer, before⟩ :
      EngineEntry ℤ)).map (fun begun => (begun.2.policyID, begun.2.deviceID, begun.2.target)) =
        [(policyID, deviceID, target)]) :
    ∃ request, before.store.autoReq.lookup action.requestID = some request ∧
      request.policyID = policyID ∧ request.deviceID = deviceID ∧ request.target = target := by
  cases found : before.store.autoReq.lookup action.requestID with
  | none => simp [begins, found] at begun
  | some request => exact ⟨request, rfl, by simpa [begins, found] using begun⟩

/-- The second bounce kept the cooldown after the first. -/
theorem bounce_cooldown_kept :
    let world := (system ℤ plainEngine).run (fresh ℤ 10 (bounceConfig false)) bouncedTwiceRun
    ∃ later between earlier thread thread' call call' device device' action action' answer answer'
        before before',
      world.trace = later ++
        (⟨thread', call', .execute device' action', answer', before'⟩ : EngineEntry ℤ) ::
          (between ++ ⟨thread, call, .execute device action, answer, before⟩ :: earlier) ∧
      action.requestID = bounceID ∧ action'.requestID = bounceAgainID ∧
      ∃ claim gate, (worker plainEngine thread' (between ++
          ⟨thread, call, .execute device action, answer, before⟩ :: earlier)).claim = some claim ∧
        claim.request.requestID = action'.requestID ∧ claim.gateTime = some gate ∧
        FinishedBefore between thread action.requestID (bouncePolicy false).safety.cooldown
          gate := by
  intro world
  let acting : EngineEntry ℤ → Bool := fun entry => acts bounceAgainID entry || acts bounceID entry
  have twice : (world.trace.filter acting).map (fun entry => (acts bounceAgainID entry,
      (begins entry).map fun begun => (begun.2.policyID, begun.2.deviceID, begun.2.target))) =
      [(true, [("bounce", "sw-1", "eth1")]), (false, [("bounce", "sw-1", "eth1")])] := by
    decide +kernel
  have permits : (system ℤ plainEngine).Permits (CooldownSafe plainEngine (bouncePolicy false))
      (fresh ℤ 10 (bounceConfig false)) bouncedTwiceRun := by decide +kernel
  have reached : (system ℤ plainEngine).Reaches (CooldownSafe plainEngine (bouncePolicy false))
      (fresh ℤ 10 (bounceConfig false)) world := Machine.reaches_run bouncedTwiceRun permits
  have start : (bounceConfig false).policies.get (bouncePolicy false).id =
      some (bouncePolicy false) := by decide +kernel
  obtain ⟨second, firsts, both, latest, twice⟩ := List.map_eq_cons_iff.mp twice
  obtain ⟨first, _, rfl, oldest, rest⟩ := List.map_eq_cons_iff.mp twice
  obtain rfl := List.map_eq_nil_iff.mp rest
  obtain ⟨later, tail, split, _, _, others⟩ := List.filter_eq_cons_iff.mp both
  obtain ⟨between, earlier, rfl, _, acted, _⟩ := List.filter_eq_cons_iff.mp others
  rw [Prod.mk.injEq] at latest oldest
  obtain ⟨thread', call', device', action', answer', before', rfl, named'⟩ :=
    acts_iff.mp latest.1
  obtain ⟨thread, call, device, action, answer, before, rfl, named⟩ :=
    acts_iff.mp ((Bool.or_eq_true _ _).mp acted |>.resolve_left (by simp [oldest.1]))
  obtain ⟨request, found, scope⟩ := begins_scope oldest.2
  obtain ⟨request', found', scope'⟩ := begins_scope latest.2
  have different : action.requestID ≠ action'.requestID := by
    rw [named, named']
    decide +kernel
  exact ⟨later, between, earlier, thread, thread', call, call', device, device', action, action',
    answer, answer', before, before', split, named, named',
    cooldown_kept start reached split found found' different
      ⟨scope.1.trans scope'.1.symm, scope.2.1.trans scope'.2.1.symm,
        scope.2.2.trans scope'.2.2.symm⟩ scope'.1⟩

/-- Two workers claim the two requests and find an empty history; then both
act. -/
def racingRun : List (EngineAction ℤ) :=
  switchGoesDown ++ switchFlaps ++ .start (.handleEvent switchDownAgain) :: steps 1 4 ++
    .start .tick :: steps 2 10 ++ .start .tick :: steps 3 10 ++ steps 2 5 ++ steps 3 3

/-- The second request is executed although its gates were evaluated when the
first one, of the same scope, had not even finished. -/
theorem executed_within_cooldown :
    let world := (system ℤ plainEngine).run (fresh ℤ 10 (bounceConfig false)) racingRun
    (system ℤ plainEngine).Permits ClockForward (fresh ℤ 10 (bounceConfig false)) racingRun ∧
      bounceID ≠ bounceAgainID ∧
      (world.trace.head?.map (acts bounceAgainID) = some true ∧
        executedIn bounceID world.trace = true) ∧
      (∀ id ∈ [bounceID, bounceAgainID], (world.shared.store.autoReq.lookup id).map
        (fun request => (request.policyID, request.deviceID, request.target)) =
          some ("bounce", "sw-1", "eth1")) ∧
      (worker plainEngine 3 world.trace).claim.bind Claim.gateTime = some 10 ∧
      (world.shared.store.autoRes.lookup bounceID).map AutomationResult.finishedAt = some 10 ∧
      Duration.zero < (bouncePolicy false).safety.cooldown := by
  decide +kernel

end InfraObserver
