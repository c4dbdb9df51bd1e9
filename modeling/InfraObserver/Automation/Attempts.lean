import InfraObserver.Automation.Cooldown

/-!
# The cap on attempts

The retry gate counts the executed requests of a policy for an alert when a
request is due. While ticks do not overlap, nothing is executed between the
count and the outcome that the worker records, so the cap holds in every state.

The discipline `noting` says that only a tick reports an execution, and only after
it has counted fewer executions than the policy allows.
-/

namespace InfraObserver

open Interleaving (World Machine)

/-! ## Executed requests -/

/-- The request is for a policy and an alert, and its status is succeeded, failed
or dry run. -/
def AutomationRequest.IsAttempt (request : AutomationRequest) (policyID alertKey : String) :
    Prop :=
  request.policyID = policyID ∧ request.alertKey = alertKey ∧
    (request.status = .succeeded ∨ request.status = .failed ∨ request.status = .dryRun)

instance (request : AutomationRequest) (policyID alertKey : String) :
    Decidable (request.IsAttempt policyID alertKey) :=
  inferInstanceAs (Decidable (_ ∧ _ ∧ _))

theorem AutomationRequest.isAttempt_iff
    (request : AutomationRequest)
    (policyID alertKey : String) :
    request.IsAttempt policyID alertKey ↔
      request.policyID = policyID ∧ request.alertKey = alertKey ∧
        request.status.executed = true := by
  unfold IsAttempt
  cases request.status <;> simp [AutomationStatus.executed]

namespace MemStore

variable {F : Type} {store after : MemStore F} {policyID alertKey : String}

/-- The stored requests of a policy and an alert that were executed. -/
def attempts (store : MemStore F) (policyID alertKey : String) : Finset String :=
  store.autoReq.keys.filter fun id =>
    (store.autoReq.lookup id).any fun request => request.IsAttempt policyID alertKey

theorem mem_attempts (id : String) :
    id ∈ store.attempts policyID alertKey ↔
      ∃ request, store.autoReq.lookup id = some request ∧
        request.IsAttempt policyID alertKey := by
  simp only [attempts, Finset.mem_filter, Finmap.mem_keys, Option.any_eq_true, decide_eq_true_eq]
  constructor
  · rintro ⟨_, found⟩
    exact found
  · rintro ⟨request, found, attempt⟩
    exact ⟨Finmap.mem_of_lookup_eq_some found, request, found, attempt⟩

theorem attemptsForAlert_eq_card (store : MemStore F) (policyID alertKey : String) :
    store.attemptsForAlert policyID alertKey = (store.attempts policyID alertKey).card := by
  have distinct : ((store.autoReq.toSortedList.filter fun entry =>
      entry.2.policyID = policyID && entry.2.alertKey = alertKey &&
        entry.2.status.executed).map Prod.fst).Nodup :=
    store.autoReq.toSortedList_keys_nodup.sublist (List.filter_sublist.map _)
  rw [attemptsForAlert, ← List.length_map Prod.fst, ← List.toFinset_card_of_nodup distinct]
  congr 1
  ext id
  simp only [List.mem_toFinset, List.mem_map, List.mem_filter, Prod.exists, mem_attempts,
    StringMap.mem_toSortedList, AutomationRequest.isAttempt_iff, Bool.and_eq_true,
    decide_eq_true_eq, and_assoc]
  constructor
  · rintro ⟨_, request, found, attempt⟩
    exact ⟨request, attempt.2.2.2 ▸ found, attempt.1, attempt.2.1, attempt.2.2.1⟩
  · rintro ⟨request, found, policy, alert, executed⟩
    exact ⟨id, request, found, policy, alert, executed, rfl⟩

end MemStore

/-- A count was there before and no outcome was recorded, or it was just made. -/
theorem Notes.observe_counted
    [Platform]
    {counted : Option (String × String × ℕ)}
    {op : EngineOp}
    {answer : EngineRes op}
    {policyID alertKey : String}
    {count : ℕ}
    (known : Notes.observeCounted counted op answer = some (policyID, alertKey, count)) :
    (counted = some (policyID, alertKey, count) ∧
        ∀ result message, op ≠ .store (.completeAutomation result message)) ∨
      (op = .store (.attemptsForAlert policyID alertKey) ∧
        HEq answer (Except.ok count : Except Error ℕ)) := by
  unfold Notes.observeCounted at known
  split at known
  · cases known
  · cases known
    exact Or.inr ⟨rfl, HEq.rfl⟩
  · cases known
  · next others =>
      refine Or.inl ⟨known, ?_⟩
      rintro result message rfl
      exact others _ _ _ rfl HEq.rfl

/-! ## Runs in which ticks do not overlap -/

/-- The call is a tick. -/
def EngineCall.isTick : EngineCall → Bool
  | .tick => true
  | _ => false

variable {F : Type} [Platform]

/-- A tick starts only after the ticks before it have ended. -/
def TicksApart [GoFloat F] (world : EngineWorld F) : EngineAction F → Prop
  | .start call => call.isTick = true →
      ∀ thread ∈ world.threads, thread.call.isTick = true → thread.rest.Finished
  | _ => True

instance [GoFloat F] (world : EngineWorld F) : DecidablePred (TicksApart world)
  | .start call => inferInstanceAs (Decidable (call.isTick = true →
      ∀ thread ∈ world.threads, thread.call.isTick = true → thread.rest.Finished))
  | .disturb _ => isTrue trivial
  | .step .. => isTrue trivial
  | .crash _ => isTrue trivial

/-- The policy is fixed, and ticks do not overlap. -/
def RetrySafe [GoFloat F] (policy : Policy) (world : EngineWorld F) (action : EngineAction F) :
    Prop :=
  PolicyFixed policy action ∧ TicksApart world action

instance [GoFloat F] (policy : Policy) (world : EngineWorld F) (action : EngineAction F) :
    Decidable (RetrySafe policy world action) :=
  inferInstanceAs (Decidable (_ ∧ _))

/-- What a thread has counted after a trace. -/
abbrev countedBy (engine : Engine) (thread : ℕ) (trace : List (EngineEntry F)) :
    Option (String × String × ℕ) :=
  ((noting engine).viewOf .tick thread trace).counted

/-- The thread runs a tick that has not ended. -/
def Ticking (world : EngineWorld F) (thread : ℕ) : Prop :=
  ∃ op rest, world.threads[thread]? = some ⟨.tick, .call op rest⟩

section Reachable

variable [GoFloat F]
variable {engine : Engine} {clock : Time} {config : Config} {policy : Policy}
variable {allowed : EngineWorld F → EngineAction F → Prop} {world after : EngineWorld F}

theorem Ticking.origin
    {action : EngineAction F}
    (moves : (system F engine).Moves world action after)
    {thread : ℕ}
    (ticking : Ticking after thread) :
    Ticking world thread ∨ action = .start .tick ∧ thread = world.threads.length := by
  obtain ⟨op, rest, running⟩ := ticking
  cases moves with
  | started call =>
      rcases Nat.lt_trichotomy thread world.threads.length with old | rfl | beyond
      · rw [List.getElem?_append_left old] at running
        exact Or.inl ⟨op, rest, running⟩
      · have started : (⟨call, call.program engine⟩ :
            Interleaving.Thread EngineCall EngineOp EngineRes) = ⟨.tick, .call op rest⟩ := by
          simpa [system] using running
        cases started
        exact Or.inr ⟨rfl, rfl⟩
      · rw [List.getElem?_eq_none (by simp; omega)] at running
        cases running
  | idle => exact Or.inl ⟨op, rest, running⟩
  | performed writer call issued next choice issuing =>
      by_cases own : writer = thread
      · subst own
        simp only [Machine.performed] at running
        rw [List.getElem?_set_self (List.getElem?_eq_some_iff.mp issuing).1] at running
        obtain ⟨rfl, _⟩ := Interleaving.Thread.mk.inj (Option.some.inj running)
        exact Or.inl ⟨issued, next, issuing⟩
      · simp only [Machine.performed, List.getElem?_set_ne own] at running
        exact Or.inl ⟨op, rest, running⟩
  | crashed ended =>
      by_cases own : ended = thread
      · subst own
        rw [List.getElem?_modify_eq] at running
        cases found : world.threads[ended]? <;> simp [found] at running
      · rw [List.getElem?_modify_ne _ _ own] at running
        exact Or.inl ⟨op, rest, running⟩
  | disturbed env => exact Or.inl ⟨op, rest, running⟩

theorem ticking_alone
    (apart : ∀ world action, allowed world action → TicksApart world action)
    (reached : (system F engine).Reaches allowed (fresh F clock config) world) :
    ∀ left right, Ticking world left → Ticking world right → left = right := by
  refine reached.invariant ?_ ?_
  · rintro left right ⟨op, rest, impossible⟩
    simp [fresh, World.initial] at impossible
  intro world action after _ alone permitted moves left right first second
  -- A tick under way forbids the start of another.
  have none_ : ∀ thread, Ticking world thread → action ≠ .start .tick := by
    rintro thread ⟨op, rest, running⟩ rfl
    exact apart world _ permitted rfl _ (List.mem_of_getElem? running) rfl
  rcases Ticking.origin moves first with oldLeft | ⟨started, newLeft⟩ <;>
    rcases Ticking.origin moves second with oldRight | ⟨started', newRight⟩
  · exact alone left right oldLeft oldRight
  · exact absurd started' (none_ left oldLeft)
  · exact absurd started (none_ right oldRight)
  · exact newLeft.trans newRight.symm

omit [GoFloat F] in
theorem attempt_origin
    {view : View}
    {op : AutomationOp}
    {answer : Except Error op.Answer}
    {store after : MemStore F}
    {policyID alertKey id : String}
    (may : view.MayIssue engine op)
    (effect : op.Effect store answer after)
    (member : id ∈ after.attempts policyID alertKey) :
    id ∈ store.attempts policyID alertKey ∨
      ∃ result message stored, op = .completeAutomation result message ∧
        result.requestID = id ∧ result.status.executed = true ∧
        store.autoReq.lookup id = some stored ∧
        stored.policyID = policyID ∧ stored.alertKey = alertKey := by
  obtain ⟨request, found, attempt⟩ := (MemStore.mem_attempts id).mp member
  obtain ⟨samePolicy, sameAlert, executed⟩ := (request.isAttempt_iff _ _).mp attempt
  rcases effect.lookup_after found with ⟨old, present, rewrites⟩ | ⟨message, rfl, _⟩
  · cases rewrites with
    | untouched => exact Or.inl ((MemStore.mem_attempts id).mpr ⟨request, present, attempt⟩)
    | claimed now lease ready => cases executed
    | moved sources status listed =>
        obtain ⟨_, _, _, _, _, ⟨_, rfl | rfl⟩ | ⟨_, rfl⟩⟩ := may <;> cases executed
    | approved by_ waiting => cases executed
    | completed result message named unfinished =>
        exact Or.inr ⟨result, message, old, rfl, named, executed, present, samePolicy, sameAlert⟩
  · obtain ⟨_, _, _, _, _, _, _, _, _, _, drafted⟩ := may
    rcases drafted.delayed with ⟨pending, _⟩ | denied
    · rw [pending] at executed
      cases executed
    · rw [denied] at executed
      cases executed

omit [GoFloat F] in
theorem attempts_of_effect
    {view : View}
    {op : AutomationOp}
    {answer : Except Error op.Answer}
    {store after : MemStore F}
    (policyID alertKey : String)
    (may : view.MayIssue engine op)
    (effect : op.Effect store answer after) :
    (after.attempts policyID alertKey).card ≤ (store.attempts policyID alertKey).card ∨
      (after.attempts policyID alertKey).card ≤ (store.attempts policyID alertKey).card + 1 ∧
      ∃ result message stored, op = .completeAutomation result message ∧
        result.status.executed = true ∧
        store.autoReq.lookup result.requestID = some stored ∧
        stored.policyID = policyID ∧ stored.alertKey = alertKey := by
  by_cases kept : after.attempts policyID alertKey ⊆ store.attempts policyID alertKey
  · exact Or.inl (Finset.card_le_card kept)
  · obtain ⟨id, member, new⟩ := Finset.not_subset.mp kept
    obtain ⟨result, message, stored, rfl, rfl, executed, found, scope⟩ :=
      (attempt_origin may effect member).resolve_left new
    refine Or.inr ⟨?_, result, message, stored, rfl, executed, found, scope⟩
    refine (Finset.card_le_card ?_).trans (Finset.card_insert_le result.requestID _)
    intro other counted
    rcases attempt_origin may effect counted with old | ⟨_, _, _, same, rfl, _⟩
    · exact Finset.mem_insert_of_mem old
    · cases same
      exact Finset.mem_insert_self ..

/-! ## The cap holds -/

/-- The executed requests of a policy and an alert stay below the cap, and a tick
that has counted them still knows their number. -/
structure Capped (engine : Engine) (policy : Policy) (alertKey : String)
    (world : EngineWorld F) : Prop where
  capped : ((world.shared.store.attempts policy.id alertKey).card : ℤ) ≤
    policy.conditions.retriesBelow
  counted : ∀ thread count, Ticking world thread →
    countedBy engine thread world.trace = some (policy.id, alertKey, count) →
    (world.shared.store.attempts policy.id alertKey).card ≤ count

theorem counted_of_report
    (fixed : ∀ world action, allowed world action → PolicyFixed policy action)
    (start : config.policies.get policy.id = some policy)
    (positive : 0 < policy.conditions.retriesBelow)
    (reached : (system F engine).Reaches allowed (fresh F clock config) world)
    {thread : ℕ}
    {call : EngineCall}
    {result : AutomationResult}
    {message : OutboxMessage}
    {rest : Except Error Bool → EngineM Unit}
    (running : world.threads[thread]? =
      some ⟨call, .call (.store (.completeAutomation result message)) rest⟩)
    (executed : result.status.executed = true)
    {stored : AutomationRequest}
    (found : world.shared.store.autoReq.lookup result.requestID = some stored)
    (named : stored.policyID = policy.id) :
    call = .tick ∧ ∃ count : ℕ, countedBy engine thread world.trace =
        some (policy.id, stored.alertKey, count) ∧
      (count : ℤ) < policy.conditions.retriesBelow := by
  obtain ⟨claim, known, capping, ticking, held, same, configured, policyExists, below⟩ :=
    ((noted_of_reaches reached).pre running).2.2 executed
  rw [(noting_refines_protocol engine).viewOf] at ticking held configured
  obtain rfl : call = .tick := (viewOf_call engine call thread world.trace).symm.trans ticking
  have ledger := ledger_of_reaches reached
  obtain ⟨⟨current, present, core⟩, _⟩ := ledger.snapshots .tick thread claim.request
    ((View.mem_snapshots _ _).mpr (Or.inr (Or.inr ⟨claim, held, rfl⟩)))
  obtain rfl : current = stored := by
    rw [same, found] at present
    exact (Option.some.inj present).symm
  obtain ⟨event, _, created, _⟩ := ledger.created _ current found
  have alertKey : claim.request.alertKey = current.alertKey :=
    (created.of_core core).alertKey.2.trans created.alertKey.2.symm
  obtain rfl : capping = policy := by
    rw [← (AutomationRequest.SameScope.of_core core).1, named,
      (policy_of_reaches fixed start reached).2 thread known configured]
      at policyExists
    exact (Option.some.inj policyExists).symm
  refine ⟨rfl, alertKey ▸ below positive ?_⟩
  rw [alertKey, created.alertKey.2]
  exact created.alertKey.1

omit [GoFloat F] in
theorem counted_performed
    {writer thread count : ℕ}
    {call : EngineCall}
    {op : EngineOp}
    {choice : Choice}
    {policyID alertKey : String}
    (counted : countedBy engine thread (⟨writer, call, op,
        (world.shared.respond op choice).1, world.shared⟩ :: world.trace) =
      some (policyID, alertKey, count)) :
    countedBy engine thread world.trace = some (policyID, alertKey, count) ∧
        (writer = thread → ∀ result message, op ≠ .store (.completeAutomation result message)) ∨
      (world.shared.respond op choice).2 = world.shared ∧
        (world.shared.store.attempts policyID alertKey).card = count := by
  by_cases own : writer = thread
  · subst own
    rw [countedBy, Interleaving.Discipline.viewOf, if_pos rfl] at counted
    rcases Notes.observe_counted counted with ⟨before, silent⟩ | ⟨rfl, asked⟩
    · exact Or.inl ⟨before, fun _ => silent⟩
    · right
      have answered := Shared.respond_ok (eq_of_heq asked)
      simp only [AutomationOp.perform, MemStore.attemptsForAlert_eq_card] at answered
      refine ⟨?_, Except.ok.inj answered⟩
      simp only [Shared.respond]
      cases choice.fault <;> rfl
  · rw [countedBy, Interleaving.Discipline.viewOf_cons_ne _ _ own] at counted
    exact Or.inl ⟨counted, fun same => absurd same own⟩

theorem Capped.performed
    {alertKey : String}
    (start : config.policies.get policy.id = some policy)
    (positive : 0 < policy.conditions.retriesBelow)
    (reached : (system F engine).Reaches (RetrySafe policy) (fresh F clock config) world)
    (capped : Capped engine policy alertKey world)
    {writer : ℕ}
    {call : EngineCall}
    {op : EngineOp}
    {rest : EngineRes op → EngineM Unit}
    (choice : Choice)
    (running : world.threads[writer]? = some ⟨call, .call op rest⟩) :
    Capped engine policy alertKey
      ((system F engine).performed world writer call op rest choice) := by
  have moves : (system F engine).Moves world (.step writer choice) _ :=
    .performed writer call op rest choice running
  -- The number does not grow, unless this tick reports an execution after counting.
  have number :
      ((world.shared.respond op choice).2.store.attempts policy.id alertKey).card ≤
        (world.shared.store.attempts policy.id alertKey).card ∨
      Ticking world writer ∧ (∃ result message, op = .store (.completeAutomation result message)) ∧
        (((world.shared.respond op choice).2.store.attempts policy.id alertKey).card : ℤ) ≤
          policy.conditions.retriesBelow := by
    by_cases storing : ∃ operation, op = .store operation
    · obtain ⟨operation, rfl⟩ := storing
      obtain ⟨store, written, effect⟩ := world.shared.respond_store operation choice
      rw [written]
      dsimp only
      rcases attempts_of_effect policy.id alertKey ((obedient_of_reaches reached).pre running)
        effect with fewer | ⟨more, result, message, stored, rfl, executed, found, named, rfl⟩
      · exact Or.inl fewer
      · obtain ⟨rfl, count, counted, below⟩ := counted_of_report (fun _ _ safe => safe.1) start
          positive reached running executed found named
        have known := capped.counted writer count ⟨_, rest, running⟩ counted
        exact Or.inr ⟨⟨_, rest, running⟩, ⟨result, message, rfl⟩, by omega⟩
    · rw [world.shared.respond_other (fun operation same => storing ⟨operation, same⟩)]
      exact Or.inl le_rfl
  constructor
  · rcases number with fewer | ⟨_, _, below⟩
    · exact (Int.ofNat_le.mpr fewer).trans capped.capped
    · exact below
  · intro thread count ticking counted
    have before : Ticking world thread :=
      (Ticking.origin moves ticking).resolve_right fun started => nomatch started.1
    rcases counted_performed counted with ⟨known, silent⟩ | ⟨unchanged, exact_⟩
    · rcases number with fewer | ⟨alone, ⟨result, message, reports⟩, _⟩
      · exact fewer.trans (capped.counted thread count before known)
      · exact absurd reports (silent (ticking_alone (fun _ _ safe => safe.2) reached writer thread
          alone before) result message)
    · change ((world.shared.respond op choice).2.store.attempts _ _).card ≤ count
      rw [unchanged, exact_]

/-- In every run in which ticks do not overlap, next to any calls that handle
events and approve, with crashes, store failures and claims after a lease at any
point: the requests of a fixed policy and an alert key that were executed are never
more than the policy allows. -/
theorem retry_cap
    (start : config.policies.get policy.id = some policy)
    (positive : 0 < policy.conditions.retriesBelow)
    (reached : (system F engine).Reaches (RetrySafe policy) (fresh F clock config) world)
    (alertKey : String) :
    ((world.shared.store.attempts policy.id alertKey).card : ℤ) ≤
      policy.conditions.retriesBelow := by
  suffices capped : Capped engine policy alertKey world from capped.capped
  refine reached.invariant ?_ ?_
  · refine ⟨?_, ?_⟩
    · simpa [fresh, World.initial, MemStore.new, MemStore.attempts] using positive.le
    · rintro thread count ⟨op, rest, impossible⟩
      simp [fresh, World.initial] at impossible
  intro world action after reached capped permitted moves
  have origin : ∀ thread, Ticking after thread → Ticking world thread ∨
      action = .start .tick ∧ thread = world.threads.length := fun _ => Ticking.origin moves
  cases moves with
  | performed writer call op rest choice running =>
      exact capped.performed start positive reached choice running
  | started call =>
      refine ⟨capped.capped, ?_⟩
      intro thread count ticking counted
      rcases origin thread ticking with old | ⟨_, rfl⟩
      · exact capped.counted thread count old counted
      · rw [countedBy, Interleaving.Discipline.viewOf_of_unused _ _ fun entry member =>
          Nat.ne_of_lt ((noted_of_reaches reached).known entry member)] at counted
        cases counted
  | idle => exact capped
  | crashed ended =>
      refine ⟨capped.capped, ?_⟩
      intro thread count ticking counted
      exact capped.counted thread count ((origin thread ticking).resolve_right
        fun started => by cases started.1) counted
  | disturbed env =>
      have same : (world.shared.disturb env).store.attempts policy.id alertKey =
          world.shared.store.attempts policy.id alertKey := by
        cases env with
        | process processor attempt sample =>
            unfold MemStore.attempts Shared.disturb
            rw [(processor.process_sameRequests attempt sample world.shared.store).autoReq]
        | _ => rfl
      refine ⟨same ▸ capped.capped, ?_⟩
      intro thread count ticking counted
      exact same ▸ capped.counted thread count ticking counted

end Reachable

end InfraObserver

/-! ## A run that reaches the cap -/

namespace InfraObserver

open Interleaving (World Machine)

attribute [local instance] Platform.plain GoFloat.integer

/-- Bounce the interface at most once for each alert. -/
def oncePolicy : Policy := { bouncePolicy false with conditions := ⟨.zero, 1⟩ }

/-- Live operation of the switch under the policy. -/
def onceConfig : Config :=
  { bounceConfig false with
    policies :=
      { bouncePolicies false with
        all := [oncePolicy]
        valid := by
          intro policy member
          rw [List.mem_singleton.mp member, Policy.valid_iff_problems]
          decide +kernel
        defaulted := by
          intro policy member
          rw [List.mem_singleton.mp member]
          decide +kernel
        distinct := by simp } }

/-- The interface is bounced, the alert opens again, and a later tick works on the
second request. -/
def onceRun : List (EngineAction ℤ) :=
  switchGoesDown ++ .start .tick :: steps 1 16 ++ switchFlaps ++
    .start (.handleEvent switchDownAgain) :: steps 2 4 ++
    .disturb (.setClock (Time.add 10 .fiveMinutes)) :: .start .tick :: steps 3 16

/-- One request was executed, the second was denied, and the cap holds. -/
theorem second_bounce_capped :
    let store := ((system ℤ plainEngine).run (fresh ℤ 10 onceConfig) onceRun).shared.store
    store.attempts oncePolicy.id switchDown.alertKey = {bounceID} ∧
      (store.autoReq.lookup bounceAgainID).map AutomationRequest.status = some .denied ∧
      ((store.attempts oncePolicy.id switchDown.alertKey).card : ℤ) ≤
        oncePolicy.conditions.retriesBelow := by
  intro store
  refine ⟨by decide +kernel, by decide +kernel, ?_⟩
  have permits : (system ℤ plainEngine).Permits (RetrySafe oncePolicy) (fresh ℤ 10 onceConfig)
      onceRun := by decide +kernel
  exact retry_cap (by decide +kernel) (by decide +kernel) (Machine.reaches_run onceRun permits) _

end InfraObserver
