import InfraObserver.Automation.Cooldown

/-!
# The approval window

A request that waits for an approval expires by its age, and its age counts from
its creation: the time that it waited to become due is taken from the time that
an approver has. The window of a request is whole while it is parked at the instant
of its creation and its approval expires only while it is waited for.
-/

namespace InfraObserver

open Interleaving (World Machine)

variable {F : Type} [Platform]

/-- The entry parks a request for an approval. -/
def parks (id : String) : EngineEntry F → Bool
  | ⟨_, _, .store (.setAutomationStatus other _ .awaitingApproval), .ok true, _⟩ => other = id
  | _ => false

/-- The entry completes a request as expired for a missing approval. -/
def lapses (id : String) : EngineEntry F → Bool
  | ⟨_, _, .store (.completeAutomation result _), .ok true, _⟩ =>
      result.requestID = id && result.status = .expired &&
        result.details.lookup "gate" = some "approval"
  | _ => false

/-- The instant at which a request was parked, if it has waited for an approval
in every state since. -/
def awaitingSince (id : String) : List (EngineEntry F) → Option Time
  | [] => none
  | entry :: earlier =>
      if parks id entry then some entry.before.clock
      else if entry.before.store.statusOf id = some .awaitingApproval then awaitingSince id earlier
      else none

/-- A request waits for an approval and has done so without a break for at least
a duration. The trace is the one that led to the shared state. -/
def AwaitedFor
    (duration : Duration)
    (id : String)
    (trace : List (EngineEntry F))
    (shared : Shared F) : Prop :=
  shared.store.statusOf id = some .awaitingApproval ∧
    ∃ since ∈ awaitingSince id trace, duration ≤ Time.sub shared.clock since

instance
    (duration : Duration)
    (id : String)
    (trace : List (EngineEntry F))
    (shared : Shared F) :
    Decidable (AwaitedFor duration id trace shared) :=
  inferInstanceAs (Decidable (_ ∧ ∃ since ∈ awaitingSince id trace, _))

/-- The clock never goes back, and the policy is fixed. -/
def SteadyPolicy [GoFloat F] (policy : Policy) (world : EngineWorld F) (action : EngineAction F) :
    Prop :=
  ClockForward world action ∧ PolicyFixed policy action

instance [GoFloat F] (policy : Policy) (world : EngineWorld F) (action : EngineAction F) :
    Decidable (SteadyPolicy policy world action) :=
  inferInstanceAs (Decidable (_ ∧ _))

/-- The request, if it is of the policy, is parked at the instant of its creation, and its
approval expires only while it waits for it. -/
def WindowSafe [GoFloat F]
    (engine : Engine)
    (policy : Policy)
    (id : String)
    (world : EngineWorld F)
    (action : EngineAction F) : Prop :=
  SteadyPolicy policy world action ∧
    match storing world action with
    | some (_, .setAutomationStatus other _ .awaitingApproval) =>
        other = id → ∀ request ∈ world.shared.store.autoReq.lookup id,
          request.policyID = policy.id → world.shared.clock ≤ request.createdAt
    | some (thread, .completeAutomation result _) =>
        result.requestID = id → (worker engine thread world.trace).claim = none →
          result.status = .expired → world.shared.store.autoRes.lookup id = none →
          world.shared.store.statusOf id = some .awaitingApproval
    | _ => True

instance [GoFloat F]
    (engine : Engine)
    (policy : Policy)
    (id : String)
    (world : EngineWorld F)
    (action : EngineAction F) :
    Decidable (WindowSafe engine policy id world action) := by
  unfold WindowSafe
  generalize storing world action = stored
  rcases stored with _ | ⟨_, _ | _ | _ | _ | _ | _ | _ | _ | _ | _⟩ <;> first
    | infer_instance
    | split <;> infer_instance

section Entries

variable {trace : List (EngineEntry F)} {entry : EngineEntry F} {id : String}

theorem parks_iff :
    parks id entry = true ↔ ∃ thread call sources before,
      entry = ⟨thread, call, .store (.setAutomationStatus id sources .awaitingApproval),
        .ok true, before⟩ := by
  constructor
  · intro parking
    unfold parks at parking
    split at parking
    · next thread call other sources before =>
        obtain rfl : other = id := by simpa using parking
        exact ⟨thread, call, sources, before, rfl⟩
    · cases parking
  · rintro ⟨thread, call, sources, before, rfl⟩
    simp [parks]

theorem lapses_iff :
    lapses id entry = true ↔ ∃ thread call result message before,
      entry = ⟨thread, call, .store (.completeAutomation result message), .ok true, before⟩ ∧
        result.requestID = id ∧ result.status = .expired ∧
        result.details.lookup "gate" = some "approval" := by
  constructor
  · intro lapse
    unfold lapses at lapse
    split at lapse
    · next thread call result message before =>
        simp only [Bool.and_eq_true, decide_eq_true_eq] at lapse
        exact ⟨thread, call, result, message, before, rfl, lapse.1.1, lapse.1.2, lapse.2⟩
    · cases lapse
  · rintro ⟨thread, call, result, message, before, rfl, named, status, gate⟩
    simp [lapses, named, status, gate]

theorem awaitingSince_cons
    {since : Time}
    (waited : awaitingSince id trace = some since)
    (waiting : entry.before.store.statusOf id = some .awaitingApproval)
    (other : parks id entry = false) :
    awaitingSince id (entry :: trace) = some since := by
  rw [awaitingSince, other, if_neg (by simp), if_pos waiting, waited]

end Entries

/-- The time limit of a policy that requires approval is its own. -/
theorem approvalTimeout_eq
    {config : Config}
    {policy : Policy}
    (request : AutomationRequest)
    (known : config.policies.get request.policyID = some policy)
    (required : policy.safety.requireApproval = true) :
    Engine.approvalTimeout config request = policy.safety.approvalTimeout ∧
      Duration.zero ≤ policy.safety.approvalTimeout := by
  have member := ((config.policies.get_eq_some_iff _ _).mp known).1
  have bound := (config.policies.valid policy member).bounds.2.2.2
  have defaulted := config.policies.defaulted policy member
  have positive : Duration.zero < policy.safety.approvalTimeout := by
    by_contra least
    -- A limit of zero would have been replaced by the default.
    have zero : policy.safety.approvalTimeout = Duration.zero :=
      Duration.ext (le_antisymm (not_lt.mp least) bound)
    have same := congrArg (fun policy : Policy => policy.safety.approvalTimeout) defaulted
    simp only [Policy.withDefaults, required, zero, and_self, if_true] at same
    cases same
  refine ⟨?_, bound⟩
  simp only [Engine.approvalTimeout, known]
  exact if_pos positive

section Reachable

variable [GoFloat F]
variable {engine : Engine} {clock : Time} {config : Config} {policy : Policy}
variable {world : EngineWorld F} {id : String}

/-- If the request is of the policy and waits for an approval, it has waited since the
instant of its creation, or longer. -/
def WaitedSinceCreated (policy : Policy) (id : String) (world : EngineWorld F) : Prop :=
  ∀ request, world.shared.store.autoReq.lookup id = some request →
    request.status = .awaitingApproval → request.policyID = policy.id →
      ∃ since ∈ awaitingSince id world.trace, since ≤ request.createdAt

omit [GoFloat F] in
theorem WaitedSinceCreated.stored
    (waited : WaitedSinceCreated policy id world)
    {writer : ℕ}
    {call : EngineCall}
    {op : AutomationOp}
    {answer : Except Error op.Answer}
    {store : MemStore F}
    {rest : EngineM Unit}
    (may : ({ worker engine writer world.trace with call } : View).MayIssue engine op)
    (effect : op.Effect world.shared.store answer store)
    (prompt : ∀ sources request, op = .setAutomationStatus id sources .awaitingApproval →
      world.shared.store.autoReq.lookup id = some request → request.policyID = policy.id →
        world.shared.clock ≤ request.createdAt) :
    WaitedSinceCreated policy id (operated world writer call op answer store rest) := by
  intro request found waiting named
  rcases effect.lookup_after found with ⟨old, before, rewrites⟩ | ⟨message, rfl, _⟩
  · cases rewrites with
    | untouched _ _ elsewhere =>
        obtain ⟨since, known, early⟩ := waited request before waiting named
        refine ⟨since, awaitingSince_cons known ?_ ?_, early⟩
        · simp [MemStore.statusOf, before, waiting]
        · rw [Bool.eq_false_iff]
          intro parking
          obtain ⟨_, _, _, _, same⟩ := parks_iff.mp parking
          cases same
          exact elsewhere rfl rfl
    | claimed now lease ready => cases waiting
    | moved sources status listed =>
        obtain rfl : status = .awaitingApproval := waiting
        refine ⟨world.shared.clock, ?_, prompt sources old rfl before named⟩
        simp [awaitingSince, parks]
    | approved by_ waited => cases waiting
    | completed result message same unfinished =>
        have terminal := may.2.2.terminal
        rw [show result.status = _ from waiting] at terminal
        cases terminal
  · -- A request that was just stored is pending or denied.
    obtain ⟨_, _, _, event, _, _, drafter, _, _, _, drafted⟩ := may
    rcases drafted.delayed with ⟨pending, _⟩ | denied
    · rw [pending] at waiting
      cases waiting
    · rw [denied] at waiting
      cases waiting

theorem waitedSinceCreated_of_reaches
    (reached : (system F engine).Reaches (WindowSafe engine policy id) (fresh F clock config)
      world) :
    WaitedSinceCreated policy id world := by
  refine reached.invariant ?_ ?_
  · intro request impossible
    cases impossible
  intro world action after reached waited permitted moves
  cases Advance.of_moves moves with
  | stored writer choice call op rest answer store running effect answered =>
      refine waited.stored (mayIssue_of_reaches reached running) effect ?_
      rintro sources request rfl found named
      have prompt := permitted.2
      simp only [storing_of_running running] at prompt
      exact prompt trivial request found named
  | asked writer choice call op rest answer running other answered =>
      intro request found waiting named
      obtain ⟨since, known, early⟩ := waited request found waiting named
      refine ⟨since, awaitingSince_cons known ?_ ?_, early⟩
      · simp [MemStore.statusOf, found, waiting]
      · rw [Bool.eq_false_iff]
        intro parking
        obtain ⟨_, _, _, _, same⟩ := parks_iff.mp parking
        cases same
        exact other _ rfl
  | processed processor attempt sample =>
      intro request found waiting named
      have same := processor.process_sameRequests attempt sample world.shared.store
      exact waited request (same.autoReq ▸ found) waiting named
  | _ => exact waited

/-- Approvers get the whole window of a request that is parked at the instant of its
creation and whose approval expires only while it waits for it. -/
theorem approval_window_whole
    (start : config.policies.get policy.id = some policy)
    (required : policy.safety.requireApproval = true)
    (reached : (system F engine).Reaches (WindowSafe engine policy id) (fresh F clock config)
      world)
    {later earlier : List (EngineEntry F)}
    {entry : EngineEntry F}
    {request : AutomationRequest}
    (split : world.trace = later ++ entry :: earlier)
    (lapsed : lapses id entry = true)
    (stored : entry.before.store.autoReq.lookup id = some request)
    (named : request.policyID = policy.id) :
    AwaitedFor policy.safety.approvalTimeout id earlier entry.before := by
  refine reached.every_entry (fun entry earlier => ∀ request, lapses id entry = true →
    entry.before.store.autoReq.lookup id = some request → request.policyID = policy.id →
      AwaitedFor policy.safety.approvalTimeout id earlier entry.before)
    ?_ split request lapsed stored named
  intro world thread call op rest choice reached running permitted request lapsed stored named
  generalize answered : ((system F engine).respond world.shared op choice).1 = answer at lapsed
  obtain ⟨_, _, result, message, _, same, rfl, status, gate⟩ := lapses_iff.mp lapsed
  cases same
  have recorded := mayRecord_of_reaches reached running
  obtain ⟨free, waited, listed, known, now, configured, timed, sameID, old⟩ :=
    recorded.expired status gate
  have member : waited ∈ (viewOf engine call thread world.trace).snapshots := by
    rw [reportOf_view] at listed
    exact (View.mem_snapshots _ _).mpr (Or.inl listed)
  obtain ⟨⟨current, found, core⟩, _⟩ :=
    (ledger_of_reaches reached).snapshots call thread waited member
  rw [reportOf_view, viewOf_eq_worker] at free configured timed
  -- The snapshot and the stored request have the same policy and creation.
  obtain rfl : current = request := by
    rw [sameID] at found
    exact Option.some.inj (found.symm.trans stored)
  have created : current.createdAt = waited.createdAt := by
    simpa [AutomationRequest.core] using congrArg AutomationRequest.createdAt core
  have policyID : waited.policyID = policy.id := by
    simpa [AutomationRequest.core, named] using (congrArg AutomationRequest.policyID core).symm
  have fixed :=
      (policy_of_reaches (fun _ _ safe => safe.1.2) start reached).2 thread known configured
  obtain ⟨timeout, bound⟩ := approvalTimeout_eq waited (policyID ▸ fixed) required
  have clock := clock_of_reaches (fun _ _ safe => safe.1.1) reached thread now (Or.inl timed)
  -- The outcome is new, so the request still waits.
  have unfinished : world.shared.store.autoRes.lookup result.requestID = none := by
    obtain ⟨store, _, effect⟩ :=
      world.shared.respond_store (.completeAutomation result message) choice
    replace answered : (world.shared.respond (.store (.completeAutomation result message))
      choice).1 = Except.ok true := answered
    rw [answered] at effect
    cases effect with
    | quiet _ _ silent => exact absurd rfl silent
    | completed _ _ _ _ unfinished => exact unfinished
  have safe := permitted.2
  simp only [storing_of_running running] at safe
  have waiting := safe trivial free status unfinished
  refine ⟨waiting, ?_⟩
  have awaiting : current.status = .awaitingApproval := by
    simpa [MemStore.statusOf, stored] using waiting
  obtain ⟨since, parked, early⟩ :=
    waitedSinceCreated_of_reaches reached current stored awaiting named
  refine ⟨since, parked, ?_⟩
  rw [timeout, Time.le_sub_iff bound] at old
  rw [Time.le_sub_iff bound]
  exact old.trans (sub_le_sub clock (created ▸ early))

end Reachable

end InfraObserver

namespace InfraObserver

open Interleaving (World Machine)

attribute [local instance] Platform.plain GoFloat.integer

/-- The interface is parked at the instant of its creation; an hour later nobody
has approved and the request expires. -/
def promptRun : List (EngineAction ℤ) :=
  switchGoesDown ++ .start .tick :: steps 1 11 ++
    .disturb (.setClock (10 + Duration.hour.ns)) :: .start .tick :: steps 2 4

/-- The request has waited for the whole hour when it expires. -/
theorem prompt_window_whole :
    let world := (system ℤ plainEngine).run (fresh ℤ 10 (bounceConfig true)) promptRun
    ∃ later earlier entry, world.trace = later ++ entry :: earlier ∧
      lapses bounceID entry = true ∧ AwaitedFor .hour bounceID earlier entry.before := by
  intro world
  have lapsed : world.trace.any (lapses bounceID) = true := by decide +kernel
  have known : ∀ entry ∈ world.trace, lapses bounceID entry = true →
      ∃ request ∈ entry.before.store.autoReq.lookup bounceID, request.policyID = "bounce" := by
    decide +kernel
  have permits : (system ℤ plainEngine).Permits
      (WindowSafe plainEngine (bouncePolicy true) bounceID)
      (fresh ℤ 10 (bounceConfig true)) promptRun := by decide +kernel
  obtain ⟨entry, member, recorded⟩ := List.any_eq_true.mp lapsed
  obtain ⟨request, stored, named⟩ := known entry member recorded
  obtain ⟨later, earlier, split⟩ := List.append_of_mem member
  exact ⟨later, earlier, entry, split, recorded,
    approval_window_whole (by decide +kernel) rfl (Machine.reaches_run promptRun permits) split
      recorded stored named⟩

/-- The policy with a delay of two hours before the action. -/
def patientPolicy : Policy :=
  { bouncePolicy true with conditions := ⟨⟨2 * Duration.hour.ns, by decide, by decide⟩, 0⟩ }

/-- The patient policy on its own. -/
def patientPolicies : Policies :=
  .single ["sw-1"] patientPolicy
    (by
      rw [Policy.valid_iff_problems]
      decide +kernel)
    (by decide +kernel)

/-- The request becomes due after two hours and is parked; one nanosecond later
another tick runs. -/
def patientRun : List (EngineAction ℤ) :=
  switchGoesDown ++ .disturb (.setClock (10 + 2 * Duration.hour.ns)) :: .start .tick ::
    steps 1 11 ++ .disturb (.setClock (11 + 2 * Duration.hour.ns)) :: .start .tick :: steps 2 4

/-- The request expires a nanosecond after it was parked, although the policy
gives approvers an hour. -/
theorem window_cut_short :
    let start := fresh ℤ 10 { bounceConfig true with policies := patientPolicies }
    let world := (system ℤ plainEngine).run start patientRun
    (system ℤ plainEngine).Permits (SteadyPolicy patientPolicy) start patientRun ∧
      start.shared.config.policies.get patientPolicy.id = some patientPolicy ∧
      patientPolicy.safety.requireApproval = true ∧
      patientPolicy.safety.approvalTimeout = .hour ∧
      ∃ entry earlier, world.trace = entry :: earlier ∧ lapses bounceID entry = true ∧
        (entry.before.store.autoReq.lookup bounceID).map AutomationRequest.policyID =
          some patientPolicy.id ∧
        awaitingSince bounceID earlier = some (10 + 2 * Duration.hour.ns) ∧
        entry.before.clock = 11 + 2 * Duration.hour.ns ∧
        ¬AwaitedFor patientPolicy.safety.approvalTimeout bounceID earlier entry.before := by
  intro start world
  refine ⟨by decide +kernel, by decide +kernel, rfl, rfl, ?_⟩
  have newest : ∃ entry ∈ world.trace.head?, lapses bounceID entry = true ∧
      (entry.before.store.autoReq.lookup bounceID).map AutomationRequest.policyID =
        some patientPolicy.id ∧
      awaitingSince bounceID world.trace.tail = some (10 + 2 * Duration.hour.ns) ∧
      entry.before.clock = 11 + 2 * Duration.hour.ns ∧
      ¬AwaitedFor patientPolicy.safety.approvalTimeout bounceID world.trace.tail entry.before := by
    decide +kernel
  obtain ⟨entry, first, facts⟩ := newest
  exact ⟨entry, world.trace.tail, (List.cons_head?_tail first).symm, facts⟩

end InfraObserver
