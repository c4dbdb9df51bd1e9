import InfraObserver.Automation.Gates

/-!
# The audit trail

Recording an outcome looks only at whether there is one already, so whoever comes
first decides what the audit trail says. The trail is right about executed
actions as long as an approval does not expire while the request is being executed,
and a request is taken over only from a worker that is gone and had not acted.
-/

namespace InfraObserver

open Interleaving (World Machine)

variable {F : Type} [Platform]

/-- The approval of the request does not expire while it is executed or was denied, and it
is taken over only when no worker holds it and no adapter was asked to act for it. -/
def AuditSafe [GoFloat F]
    (engine : Engine)
    (id : String)
    (world : EngineWorld F)
    (action : EngineAction F) : Prop :=
  match storing world action with
  | some (thread, .completeAutomation result _) =>
      result.requestID = id → (worker engine thread world.trace).claim = none →
        result.status = .expired → world.shared.store.autoRes.lookup id = none →
        world.shared.store.statusOf id ≠ some .executing ∧
          world.shared.store.statusOf id ≠ some .denied
  | some (_, .claimAutomation other now lease) =>
      other = id → world.shared.store.statusOf id = some .executing →
        world.shared.store.leaseOver id now lease = true →
        executedIn id world.trace = false ∧
          ∀ holder ∈ holders engine world, holder.2.request.requestID ≠ id
  | _ => True

instance [GoFloat F]
    (engine : Engine)
    (id : String)
    (world : EngineWorld F)
    (action : EngineAction F) :
    Decidable (AuditSafe engine id world action) := by
  unfold AuditSafe
  generalize storing world action = stored
  rcases stored with _ | ⟨_, _ | _ | _ | _ | _ | _ | _ | _ | _ | _⟩ <;> infer_instance

/-- What holds of one request while every step is safe. -/
structure AuditedAt (engine : Engine) (world : EngineWorld F) (id : String) : Prop where
  executing : ∀ thread claim, Holds engine world thread claim → claim.request.requestID = id →
    world.shared.store.statusOf id = some .executing ∧
      world.shared.store.autoRes.lookup id = none
  unique : ∀ thread claim other claim', Holds engine world thread claim →
    claim.request.requestID = id → Holds engine world other claim' →
    claim'.request.requestID = id → thread = other
  unexecuted : ∀ thread claim, Holds engine world thread claim → claim.request.requestID = id →
    claim.executed = false → executedIn id world.trace = false
  unrecorded : executedIn id world.trace = true → world.shared.store.autoRes.lookup id = none →
    world.shared.store.statusOf id = some .executing
  refused : ∀ thread, (worker engine thread world.trace).refused = some id →
    world.shared.store.statusOf id = some .denied
  outcome : ∀ result, world.shared.store.autoRes.lookup id = some result →
    executedIn id world.trace = true → result.status.executed = true

namespace AuditedAt

variable {engine : Engine} {world after : EngineWorld F} {id : String}

theorem frame
    (audited : AuditedAt engine world id)
    (status : after.shared.store.statusOf id = world.shared.store.statusOf id)
    (results : after.shared.store.autoRes.lookup id = world.shared.store.autoRes.lookup id)
    (executed : executedIn id after.trace = executedIn id world.trace)
    (held : ∀ thread claim, Holds engine after thread claim → claim.request.requestID = id →
      ∃ old, Holds engine world thread old ∧ old.request.requestID = id ∧
        claim.executed = old.executed)
    (refused : ∀ thread, (worker engine thread after.trace).refused = some id →
      (worker engine thread world.trace).refused = some id) :
    AuditedAt engine after id := by
  constructor
  · intro thread claim holds named
    obtain ⟨old, before, same, _⟩ := held thread claim holds named
    rw [status, results]
    exact audited.executing thread old before same
  · intro thread claim other claim' holds named holds' named'
    obtain ⟨old, before, same, _⟩ := held thread claim holds named
    obtain ⟨old', before', same', _⟩ := held other claim' holds' named'
    exact audited.unique thread old other old' before same before' same'
  · intro thread claim holds named unexecuted
    obtain ⟨old, before, same, flag⟩ := held thread claim holds named
    rw [executed]
    exact audited.unexecuted thread old before same (flag ▸ unexecuted)
  · rw [executed, results, status]
    exact audited.unrecorded
  · intro thread known
    rw [status]
    exact audited.refused thread (refused thread known)
  · rw [executed, results]
    exact audited.outcome

theorem idle
    (free : ∀ thread claim, Holds engine after thread claim → claim.request.requestID ≠ id)
    (settled : executedIn id after.trace = true → ∃ result,
      after.shared.store.autoRes.lookup id = some result ∧ result.status.executed = true)
    (refused : ∀ thread, (worker engine thread after.trace).refused = some id →
      after.shared.store.statusOf id = some .denied) :
    AuditedAt engine after id := by
  constructor
  · intro thread claim holds named
    exact absurd named (free thread claim holds)
  · intro thread claim other claim' holds named
    exact absurd named (free thread claim holds)
  · intro thread claim holds named
    exact absurd named (free thread claim holds)
  · intro executed missing
    obtain ⟨result, found, _⟩ := settled executed
    rw [missing] at found
    cases found
  · exact refused
  · intro result found executed
    obtain ⟨other, present, status⟩ := settled executed
    obtain rfl : other = result := by simpa [present] using found
    exact status

section

variable (audited : AuditedAt engine world id)
include audited

theorem free
    {status : AutomationStatus}
    (current : world.shared.store.statusOf id = some status)
    (other : status ≠ .executing) :
    ∀ thread claim, Holds engine world thread claim → claim.request.requestID ≠ id := by
  intro thread claim holds named
  have executing := (audited.executing thread claim holds named).1
  exact other (Option.some.inj (current.symm.trans executing))

theorem untried
    (unfinished : world.shared.store.autoRes.lookup id = none)
    (other : world.shared.store.statusOf id ≠ some .executing) :
    executedIn id world.trace = false := by
  rw [Bool.eq_false_iff]
  intro executed
  exact other (audited.unrecorded executed unfinished)

theorem not_refused
    (other : world.shared.store.statusOf id ≠ some .denied)
    (thread : ℕ) :
    (worker engine thread world.trace).refused ≠ some id :=
  fun refused => other (audited.refused thread refused)

end

variable {writer : ℕ} {call : EngineCall} {op : AutomationOp} {answer : Except Error op.Answer}
variable {store : MemStore F} {rest : EngineM Unit}

theorem free_operated
    (live : world.Live writer)
    (given : ∀ thread claim, Holds engine world thread claim → claim.request.requestID = id →
      thread = writer ∧
        ((worker engine writer world.trace).observe (.store op) answer).claim = none)
    (other : ∀ now lease, op ≠ .claimAutomation id now lease) :
    ∀ thread claim, Holds engine (operated world writer call op answer store rest) thread claim →
      claim.request.requestID ≠ id := by
  rintro thread claim holds rfl
  rcases holds.origin live with ⟨old, before, request, _⟩ | ⟨_, _, now, lease, same, _⟩
  · obtain ⟨rfl, lost⟩ := given thread old before (by rw [request])
    rcases holds.performed with ⟨different, _⟩ | ⟨_, held⟩
    · exact different rfl
    · rw [lost] at held
      cases held
  · exact other now lease (EngineOp.store.inj same)

theorem refused_operated
    (known : ∀ thread, (worker engine thread world.trace).refused ≠ some id)
    (other : ∀ request message, op = .insertAutomationRequest request message →
      request.requestID ≠ id) :
    ∀ thread, (worker engine thread
      (operated world writer call op answer store rest).trace).refused ≠ some id := by
  intro thread refused
  by_cases same : thread = writer
  · subst same
    rw [worker_cons_self] at refused
    rcases View.observe_refused refused with old | ⟨request, message, stored, _, _, named⟩
    · exact known thread old
    · exact other request message (EngineOp.store.inj stored) named
  · rw [worker_cons_ne (Ne.symm same)] at refused
    exact known thread refused

theorem elsewhere
    (audited : AuditedAt engine world id)
    (live : world.Live writer)
    (effect : op.Effect world.shared.store answer store)
    (other : op.Wrote answer → op.subject ≠ some id) :
    AuditedAt engine (operated world writer call op answer store rest) id := by
  refine audited.frame ?_ ?_ rfl ?_ ?_
  · exact congrArg _ (effect.lookup_elsewhere other)
  · rcases effect.results id with same | ⟨result, message, rfl, named, answered, _⟩
    · exact same
    · obtain rfl := eq_of_heq answered
      exact absurd (congrArg some named) (other rfl)
  · intro thread claim holds named
    rcases holds.origin live with ⟨old, before, request, flag⟩ | ⟨_, _, now, lease, same, answered⟩
    · refine ⟨old, before, by rw [request, named], flag.resolve_right ?_⟩
      rintro ⟨_, device, action, same⟩
      cases same
    · obtain rfl := EngineOp.store.inj same
      obtain rfl := eq_of_heq answered
      exact absurd (congrArg some named) (other rfl)
  · intro thread refused
    by_cases same : thread = writer
    · subst same
      rw [worker_cons_self] at refused
      rcases View.observe_refused refused with old | ⟨request, message, stored, answered, _, named⟩
      · exact old
      · obtain rfl := EngineOp.store.inj stored
        obtain rfl := eq_of_heq answered
        exact absurd (congrArg some named) (other rfl)
    · rwa [worker_cons_ne (Ne.symm same)] at refused

variable {request : AutomationRequest}

section

variable (audited : AuditedAt engine world id) (live : world.Live writer)
include audited live

theorem claimed
    {now : Time}
    {lease : Duration}
    (found : world.shared.store.autoReq.lookup id = some request)
    (ready : world.shared.store.claimable id request now lease = true)
    (unfinished : world.shared.store.autoRes.lookup id = none)
    (takeover : world.shared.store.statusOf id = some .executing →
      world.shared.store.leaseOver id now lease = true →
      executedIn id world.trace = false ∧
        ∀ holder ∈ holders engine world, holder.2.request.requestID ≠ id) :
    AuditedAt engine (operated world writer call (.claimAutomation id now lease) (.ok true)
      (world.shared.store.withClaim id request now) rest) id := by
  have status : world.shared.store.statusOf id = some request.status := by
    simp [MemStore.statusOf, found]
  have claimed : (world.shared.store.withClaim id request now).statusOf id = some .executing := by
    simp [MemStore.statusOf, MemStore.withClaim]
  -- Nobody holds the request and it was not executed, whatever its status.
  have unused : executedIn id world.trace = false ∧
      ∀ thread claim, Holds engine world thread claim → claim.request.requestID ≠ id := by
    by_cases executing : request.status = .executing
    · rw [executing] at status
      have elapsed : world.shared.store.leaseOver id now lease = true := by
        simpa [MemStore.claimable, executing] using ready
      obtain ⟨untried, free⟩ := takeover status elapsed
      exact ⟨untried, fun thread claim holds =>
        free (thread, claim) ((mem_holders engine world thread claim).mpr holds)⟩
    · refine ⟨audited.untried unfinished ?_, audited.free status executing⟩
      rw [status]
      simpa using executing
  have made : ∀ thread claim, Holds engine (operated world writer call
      (.claimAutomation id now lease) (.ok true) (world.shared.store.withClaim id request now)
      rest) thread claim → claim.request.requestID = id → thread = writer := by
    intro thread claim holds named
    rcases holds.origin live with ⟨old, before, same, _⟩ | ⟨own, _⟩
    · exact absurd (same ▸ named) (unused.2 thread old before)
    · exact own
  constructor
  · intro thread claim holds named
    exact ⟨claimed, unfinished⟩
  · intro thread claim other claim' holds named holds' named'
    rw [made thread claim holds named, made other claim' holds' named']
  · intro thread claim holds named unexecuted
    exact unused.1
  · intro executed
    exact absurd executed (by simp [unused.1])
  · intro thread refused
    refine absurd refused (refused_operated (audited.not_refused ?_) ?_ thread)
    · rw [status]
      intro denied
      have unsettled := MemStore.claimable_unsettled ready
      rw [Option.some.inj denied] at unsettled
      cases unsettled
    · intro other message same
      cases same
  · intro result recorded
    exact absurd (unfinished.symm.trans recorded) (by simp)

theorem moved
    {sources : List AutomationStatus}
    {status : AutomationStatus}
    {answer : Except Error Bool}
    (may : (worker engine writer world.trace).MayMove id sources status) :
    AuditedAt engine (operated world writer call (.setAutomationStatus id sources status) answer
      store rest) id := by
  obtain ⟨_, claim, held, named, unexecuted, _⟩ := may
  have holds : Holds engine world writer claim := ⟨live, held⟩
  have executing := (audited.executing writer claim holds named).1
  refine idle (free_operated live ?_ ?_) ?_ ?_
  · intro thread other before same
    exact ⟨audited.unique thread other writer claim before same holds named, rfl⟩
  · intro now lease same
    cases same
  · intro executed
    have untried := audited.unexecuted writer claim holds named unexecuted
    exact absurd executed (by simp [untried])
  · intro thread refused
    refine absurd refused (refused_operated (audited.not_refused ?_) ?_ thread)
    · rw [executing]
      simp
    · intro other message same
      cases same

theorem approved
    {by_ : String}
    {answer : Except Error Bool}
    (waiting : world.shared.store.statusOf id = some .awaitingApproval)
    (unfinished : world.shared.store.autoRes.lookup id = none) :
    AuditedAt engine (operated world writer call (.approveAutomation id by_) answer store rest)
      id := by
  refine idle (free_operated live ?_ ?_) ?_ ?_
  · intro thread claim before named
    exact absurd named (audited.free waiting (by simp) thread claim before)
  · intro now lease same
    cases same
  · intro executed
    have untried := audited.untried unfinished (by rw [waiting]; simp)
    exact absurd executed (by simp [untried])
  · intro thread refused
    refine absurd refused (refused_operated (audited.not_refused ?_) ?_ thread)
    · rw [waiting]
      simp
    · intro other message same
      cases same

theorem inserted
    {message : OutboxMessage}
    (named : request.requestID = id)
    (fresh : world.shared.store.autoReq.lookup id = none)
    (unfinished : world.shared.store.autoRes.lookup id = none) :
    AuditedAt engine (operated world writer call (.insertAutomationRequest request message)
      (.ok true) (world.shared.store.withRequest request message) rest) id := by
  have absent : world.shared.store.statusOf id = none := by simp [MemStore.statusOf, fresh]
  refine idle (free_operated live ?_ ?_) ?_ ?_
  · intro thread claim before same
    have executing := (audited.executing thread claim before same).1
    rw [absent] at executing
    cases executing
  · intro now lease same
    cases same
  · intro executed
    have untried := audited.untried unfinished (by rw [absent]; simp)
    exact absurd executed (by simp [untried])
  · intro thread refused
    have unknown := audited.not_refused (by rw [absent]; simp) thread
    by_cases same : thread = writer
    · subst same
      rw [worker_cons_self] at refused
      rcases View.observe_refused refused with old | ⟨_, _, stored, _, denied, _⟩
      · exact absurd old unknown
      · cases stored
        simp [MemStore.statusOf, MemStore.withRequest, MemStore.enqueue, named, denied]
    · rw [worker_cons_ne (Ne.symm same)] at refused
      exact absurd refused unknown

theorem completed
    {result : AutomationResult}
    {message : OutboxMessage}
    (named : result.requestID = id)
    (unfinished : world.shared.store.autoRes.lookup id = none)
    (may : (worker engine writer world.trace).MayFinish result)
    (expiry : (worker engine writer world.trace).claim = none → result.status = .expired →
      world.shared.store.statusOf id ≠ some .executing ∧
        world.shared.store.statusOf id ≠ some .denied) :
    AuditedAt engine (operated world writer call (.completeAutomation result message) (.ok true)
      (world.shared.store.withResult request result message) rest) id := by
  subst named
  -- Whoever records the outcome is the only one to hold the request, and it knows
  -- whether it acted.
  have settles : (∀ thread claim, Holds engine world thread claim →
        claim.request.requestID = result.requestID → thread = writer) ∧
      (executedIn result.requestID world.trace = true → result.status.executed = true) ∧
      (result.status = .denied ∨
        world.shared.store.statusOf result.requestID ≠ some .denied) := by
    cases may with
    | expires free listed status =>
        obtain ⟨unused, undenied⟩ := expiry free status
        refine ⟨?_, ?_, Or.inr undenied⟩
        · intro thread claim before same
          exact absurd (audited.executing thread claim before same).1 unused
        · intro executed
          exact absurd (audited.unrecorded executed unfinished) unused
    | stops claim held same unexecuted status =>
        have holds : Holds engine world writer claim := ⟨live, held⟩
        have executing := (audited.executing writer claim holds same).1
        refine ⟨?_, ?_, Or.inr (by rw [executing]; simp)⟩
        · intro thread other before alike
          exact audited.unique thread other writer claim before alike holds same
        · intro executed
          have untried := audited.unexecuted writer claim holds same unexecuted
          exact absurd executed (by simp [untried])
    | reports claim held same executed status finished =>
        have holds : Holds engine world writer claim := ⟨live, held⟩
        have executing := (audited.executing writer claim holds same).1
        refine ⟨?_, fun _ => status, Or.inr (by rw [executing]; simp)⟩
        intro thread other before alike
        exact audited.unique thread other writer claim before alike holds same
    | refuses free refused status =>
        have denied := audited.refused writer refused
        refine ⟨?_, ?_, Or.inl status⟩
        · intro thread claim before same
          exact absurd same (audited.free denied (by simp) thread claim before)
        · intro executed
          have untried := audited.untried unfinished (by rw [denied]; simp)
          exact absurd executed (by simp [untried])
  obtain ⟨alone, truthful, denied⟩ := settles
  refine idle (free_operated live ?_ ?_) ?_ ?_
  · intro thread claim before same
    exact ⟨alone thread claim before same, rfl⟩
  · intro now lease same
    cases same
  · intro executed
    exact ⟨result, by simp [MemStore.withResult, MemStore.enqueue], truthful executed⟩
  · intro thread refused
    rcases denied with status | other
    · simp [MemStore.statusOf, MemStore.withResult, MemStore.enqueue, status]
    · refine absurd refused (refused_operated (audited.not_refused other) ?_ thread)
      intro new message same
      cases same

theorem acted
    {claim : Claim}
    (held : (worker engine writer world.trace).claim = some claim)
    (named : claim.request.requestID = id)
    {device : Device}
    {action : Action}
    {answer : ActionResult × Option Error} :
    AuditedAt engine
      { world with
        threads := world.threads.set writer ⟨call, rest⟩
        trace := ⟨writer, call, .execute device action, answer, world.shared⟩ :: world.trace }
      id := by
  have holds : Holds engine world writer claim := ⟨live, held⟩
  obtain ⟨executing, unfinished⟩ := audited.executing writer claim holds named
  have own : ∀ thread claim', Holds engine
      { world with
        threads := world.threads.set writer ⟨call, rest⟩
        trace := ⟨writer, call, .execute device action, answer, world.shared⟩ :: world.trace }
      thread claim' → claim'.request.requestID = id →
        thread = writer ∧ claim'.executed = true := by
    intro thread claim' holds' named'
    rcases holds'.performed with ⟨different, before⟩ | ⟨rfl, known⟩
    · exact absurd (audited.unique thread claim' writer claim before named' holds named) different
    · obtain ⟨old, _, rfl⟩ := Option.map_eq_some_iff.mp known
      exact ⟨rfl, rfl⟩
  constructor
  · intro thread claim' holds' named'
    exact ⟨executing, unfinished⟩
  · intro thread claim' other claim'' holds' named' holds'' named''
    rw [(own thread claim' holds' named').1, (own other claim'' holds'' named'').1]
  · intro thread claim' holds' named' unexecuted
    rw [(own thread claim' holds' named').2] at unexecuted
    cases unexecuted
  · intro _ _
    exact executing
  · intro thread refused
    by_cases same : thread = writer
    · subst same
      rw [worker_cons_self] at refused
      exact audited.refused thread refused
    · rw [worker_cons_ne (Ne.symm same)] at refused
      exact audited.refused thread refused
  · intro result recorded
    rw [unfinished] at recorded
    cases recorded

theorem asked
    {op : EngineOp}
    {answer : EngineRes op}
    (other : ∀ operation, op ≠ .store operation)
    (silent : acts id (⟨writer, call, op, answer, world.shared⟩ : EngineEntry F) = false)
    (idle : ∀ claim device action, (worker engine writer world.trace).claim = some claim →
      claim.request.requestID = id → op ≠ .execute device action) :
    AuditedAt engine
      { world with
        threads := world.threads.set writer ⟨call, rest⟩
        trace := ⟨writer, call, op, answer, world.shared⟩ :: world.trace }
      id := by
  refine audited.frame rfl rfl ?_ ?_ ?_
  · simp [executedIn, silent]
  · intro thread claim holds named
    rcases holds.origin live with ⟨old, before, request, flag⟩ | ⟨_, _, now, lease, same, _⟩
    · refine ⟨old, before, by rw [request, named], flag.resolve_right ?_⟩
      rintro ⟨rfl, device, action, same⟩
      exact idle old device action before.2 (by rw [request, named]) same
    · exact absurd same (other _)
  · intro thread refused
    by_cases same : thread = writer
    · subst same
      rw [worker_cons_self] at refused
      rcases View.observe_refused refused with old | ⟨request, message, stored, _⟩
      · exact old
      · exact absurd stored (other _)
    · rwa [worker_cons_ne (Ne.symm same)] at refused

end

end AuditedAt

section Reachable

variable [GoFloat F]
variable {engine : Engine} {clock : Time} {config : Config} {world : EngineWorld F}

theorem unfinished_of_status
    {allowed : EngineWorld F → EngineAction F → Prop}
    (reached : (system F engine).Reaches allowed (fresh F clock config) world)
    {id : String}
    (unsettled : ∀ request ∈ world.shared.store.autoReq.lookup id,
      request.status.terminal = false) :
    world.shared.store.autoRes.lookup id = none := by
  cases recorded : world.shared.store.autoRes.lookup id with
  | none => rfl
  | some result =>
      obtain ⟨_, terminal, request, present, status⟩ :=
        (ledger_of_reaches reached).final id result recorded
      have pending := unsettled request present
      rw [status, terminal] at pending
      cases pending

theorem audited_of_reaches
    {id : String}
    {allowed : EngineWorld F → EngineAction F → Prop}
    (safe : ∀ world action, allowed world action → AuditSafe engine id world action)
    (reached : (system F engine).Reaches allowed (fresh F clock config) world) :
    AuditedAt engine world id := by
  refine reached.invariant ?_ ?_
  · refine AuditedAt.idle ?_ ?_ ?_
    · rintro thread claim ⟨live, _⟩
      cases live
    · intro impossible
      cases impossible
    · intro thread impossible
      cases impossible
  intro world action after reached audited permitted moves
  have obedient := obedient_of_reaches reached
  cases Advance.of_moves moves with
  | rescheduled _ threads fewer =>
      refine audited.frame rfl rfl rfl ?_ fun _ refused => refused
      intro thread claim holds named
      exact ⟨claim, holds.rescheduled obedient fewer, named, rfl⟩
  | clock time =>
      exact audited.frame rfl rfl rfl
        (fun thread claim holds named => ⟨claim, holds, named, rfl⟩) fun _ refused => refused
  | configured config =>
      exact audited.frame rfl rfl rfl
        (fun thread claim holds named => ⟨claim, holds, named, rfl⟩) fun _ refused => refused
  | processed processor attempt sample =>
      have same := processor.process_sameRequests attempt sample world.shared.store
      refine audited.frame ?_ ?_ rfl ?_ fun _ refused => refused
      · exact congrArg (fun table => (table.lookup id).map AutomationRequest.status) same.autoReq
      · exact congrArg (fun table => table.lookup id) same.autoRes
      · intro thread claim holds named
        exact ⟨claim, holds, named, rfl⟩
  | stored writer choice call op rest answer store running effect answered =>
      have live : world.Live writer := World.live_of_running running
      replace permitted := safe world _ permitted
      simp only [AuditSafe, storing_of_running running] at permitted
      by_cases touched : op.Wrote answer ∧ op.subject = some id
      · obtain ⟨wrote, subject⟩ := touched
        cases effect with
        | quiet _ _ silent => exact absurd wrote silent
        | inserted request message fresh =>
            obtain rfl := Option.some.inj subject
            exact audited.inserted live rfl fresh (unfinished_of_status reached (by simp [fresh]))
        | claimed key now lease request found ready =>
            obtain rfl := Option.some.inj subject
            exact audited.claimed live found ready
              (unfinished_of_status reached (by simp [found, MemStore.claimable_unsettled ready]))
              (permitted rfl)
        | moved key sources status request found listed =>
            obtain rfl := Option.some.inj subject
            exact audited.moved live (mayIssue_of_reaches reached running)
        | approved key by_ request found waiting =>
            obtain rfl := Option.some.inj subject
            refine audited.approved live ?_
              (unfinished_of_status reached (by simp [found, waiting, AutomationStatus.terminal]))
            simp [MemStore.statusOf, found, waiting]
        | completed result message request found unfinished =>
            obtain rfl := Option.some.inj subject
            exact audited.completed live rfl unfinished (mayFinish_of_reaches reached running)
              fun free expired => permitted rfl free expired unfinished
      · exact audited.elsewhere live effect fun wrote subject => touched ⟨wrote, subject⟩
  | asked writer choice call op rest answer running other answered =>
      have live : world.Live writer := World.live_of_running running
      by_cases acting : ∃ device action, op = .execute device action
      · obtain ⟨device, action, rfl⟩ := acting
        obtain ⟨claim, _, _, _, _, cleared⟩ := cleared_of_reaches reached running
        have named : action.requestID = claim.request.requestID := by rw [cleared.action]
        by_cases same : claim.request.requestID = id
        · exact audited.acted live cleared.held same
        · refine audited.asked live other ?_ ?_
          · simpa [acts, named] using same
          · intro claim' _ _ held same'
            obtain rfl := Option.some.inj (held.symm.trans cleared.held)
            exact absurd same' same
      · refine audited.asked live other ?_ fun _ device action _ _ same =>
          acting ⟨device, action, same⟩
        cases op with
        | execute device action => exact absurd ⟨device, action, rfl⟩ acting
        | _ => rfl

/-- The audit trail never denies an executed action, as long as every step is safe for
its request. -/
theorem executed_outcome_recorded
    {thread : ℕ}
    {call : EngineCall}
    {device : Device}
    {action : Action}
    {answer : ActionResult × Option Error}
    {before : Shared F}
    (reached : (system F engine).Reaches (AuditSafe engine action.requestID)
      (fresh F clock config) world)
    (executed : ⟨thread, call, .execute device action, answer, before⟩ ∈ world.trace)
    {result : AutomationResult}
    (recorded : world.shared.store.autoRes.lookup action.requestID = some result) :
    result.status = .succeeded ∨ result.status = .failed ∨ result.status = .dryRun := by
  have truthful := (audited_of_reaches (fun _ _ safe => safe) reached).outcome result recorded
    (executedIn_iff.mpr ⟨thread, call, device, action, answer, before, executed, rfl⟩)
  cases status : result.status <;> simp_all [AutomationStatus.executed]

end Reachable

end InfraObserver

namespace InfraObserver

open Interleaving (World Machine)

attribute [local instance] Platform.plain GoFloat.integer

/-- The audit trail has the outcome of the bounced interface. -/
theorem bounce_outcome_recorded :
    let world := (system ℤ plainEngine).run (fresh ℤ 10 (bounceConfig true)) approvedRun
    ∃ thread call device action answer before result,
      (⟨thread, call, .execute device action, answer, before⟩ : EngineEntry ℤ) ∈ world.trace ∧
      world.shared.store.autoRes.lookup action.requestID = some result ∧
      (result.status = .succeeded ∨ result.status = .failed ∨ result.status = .dryRun) := by
  intro world
  have acted : executedIn bounceID world.trace = true := by decide +kernel
  have finished : (world.shared.store.autoRes.lookup bounceID).isSome = true := by decide +kernel
  have permits : (system ℤ plainEngine).Permits (AuditSafe plainEngine bounceID)
      (fresh ℤ 10 (bounceConfig true)) approvedRun := by decide +kernel
  have reached : (system ℤ plainEngine).Reaches (AuditSafe plainEngine bounceID)
      (fresh ℤ 10 (bounceConfig true)) world := Machine.reaches_run approvedRun permits
  obtain ⟨thread, call, device, action, answer, before, member, same⟩ := executedIn_iff.mp acted
  rw [← same] at finished
  obtain ⟨result, recorded⟩ := Option.isSome_iff_exists.mp finished
  exact ⟨thread, call, device, action, answer, before, result, member, recorded,
    executed_outcome_recorded (same ▸ reached) member recorded⟩

/-- The expiry of approvals lists the request, a person approves it, a worker
acts, and the expiry is recorded before the outcome. -/
def expiredRun : List (EngineAction ℤ) :=
  switchGoesDown ++ .start .tick :: steps 1 11 ++
    .disturb (.setClock (Time.add 10 .hour)) :: .start .tick :: steps 2 2 ++
    .start (.approve bounceID "operator") :: steps 3 1 ++ .start .tick :: steps 4 13 ++
    steps 2 2 ++ steps 4 2

/-- The adapter acted, and the audit trail says that the approval expired. -/
theorem executed_and_expired :
    let world := (system ℤ plainEngine).run (fresh ℤ 10 (bounceConfig true)) expiredRun
    executedIn bounceID world.trace = true ∧
      (world.shared.store.autoRes.lookup bounceID).map AutomationResult.status =
        some .expired := by
  decide +kernel

end InfraObserver
