import InfraObserver.Automation.Ledger

/-!
# Workers and their claims

A worker is a thread; what it knows can be read off the trace and does not depend
on its call. A live worker holds the claim that it last made until it parks,
releases or completes the request.
-/

namespace InfraObserver

open Interleaving (World Machine)

variable {F : Type} [Platform]

/-- What a thread knows, whatever its call. -/
def worker (engine : Engine) (thread : ℕ) (trace : List (EngineEntry F)) : View :=
  viewOf engine .tick thread trace

section Worker

variable {engine : Engine} {call : EngineCall} {thread : ℕ} {trace : List (EngineEntry F)}
variable {entry : EngineEntry F}

@[simp] theorem worker_cons_self
    {op : EngineOp}
    {answer : EngineRes op}
    {before : Shared F} :
    worker engine thread (⟨thread, call, op, answer, before⟩ :: trace) =
      (worker engine thread trace).observe op answer :=
  if_pos rfl

theorem worker_cons_ne (different : entry.thread ≠ thread) :
    worker engine thread (entry :: trace) = worker engine thread trace :=
  if_neg different

/-- Views of one thread differ only in the call. -/
theorem viewOf_eq_worker
    (engine : Engine)
    (call : EngineCall)
    (thread : ℕ)
    (trace : List (EngineEntry F)) :
    viewOf engine call thread trace = { worker engine thread trace with call } := by
  induction trace with
  | nil => rfl
  | cons entry earlier ih =>
      by_cases same : entry.thread = thread
      · subst same
        rw [worker_cons_self, viewOf, Interleaving.Discipline.viewOf_cons_self, ← viewOf,
          ih]
        exact View.observe_recall _ _ _ _
      · rw [worker_cons_ne same, viewOf, Interleaving.Discipline.viewOf_cons_ne _ _ same, ← viewOf,
          ih]

theorem worker_of_unused (unused : ∀ entry ∈ trace, entry.thread ≠ thread) :
    worker engine thread trace = .init .tick :=
  (protocol engine).viewOf_of_unused .tick unused

end Worker

/-! ## Reading the due requests -/

/-- The entry is a thread's reading of the due requests. -/
def readsDue (thread : ℕ) : EngineEntry F → Bool
  | ⟨reader, _, .store (.dueAutomation ..), .ok _, _⟩ => reader = thread
  | _ => false

section ReadsDue

variable {trace : List (EngineEntry F)} {entry : EngineEntry F} {thread : ℕ}

theorem readsDue_iff :
    readsDue thread entry = true ↔ ∃ call now lease limit due before,
      entry = ⟨thread, call, .store (.dueAutomation now lease limit), .ok due, before⟩ := by
  constructor
  · intro reads
    unfold readsDue at reads
    split at reads
    · next reader call now lease limit due before =>
        obtain rfl : reader = thread := by simpa using reads
        exact ⟨call, now, lease, limit, due, before, rfl⟩
    · cases reads
  · rintro ⟨call, now, lease, limit, due, before, rfl⟩
    simp [readsDue]

theorem due_of_not_readsDue
    {engine : Engine}
    (reads : readsDue thread entry = false) :
    (worker engine thread (entry :: trace)).due = (worker engine thread trace).due := by
  by_cases same : entry.thread = thread
  · obtain ⟨writer, call, op, answer, before⟩ := entry
    obtain rfl : writer = thread := same
    rw [worker_cons_self]
    rcases (worker engine writer trace).observe_due op answer with
      ⟨due, _⟩ | ⟨now, lease, limit, due, rfl, listed, _⟩
    · exact due
    · obtain rfl := eq_of_heq listed
      simp [readsDue] at reads
  · rw [worker_cons_ne same]

end ReadsDue

/-! ## Executions -/

/-- The entry asks an adapter to act for a request. -/
def acts (id : String) : EngineEntry F → Bool
  | ⟨_, _, .execute _ action, _, _⟩ => action.requestID = id
  | _ => false

/-- An adapter was asked to act for a request. -/
def executedIn (id : String) (trace : List (EngineEntry F)) : Bool :=
  trace.any (acts id)

theorem acts_iff
    {id : String}
    {entry : EngineEntry F} :
    acts id entry = true ↔ ∃ thread call device action answer before,
      entry = ⟨thread, call, .execute device action, answer, before⟩ ∧ action.requestID = id := by
  constructor
  · intro acting
    unfold acts at acting
    split at acting
    · next thread call device action answer before =>
        exact ⟨thread, call, device, action, answer, before, rfl, by simpa using acting⟩
    · cases acting
  · rintro ⟨thread, call, device, action, answer, before, rfl, same⟩
    simp [acts, same]

theorem executedIn_iff
    {id : String}
    {trace : List (EngineEntry F)} :
    executedIn id trace = true ↔ ∃ thread call device action answer before,
      (⟨thread, call, .execute device action, answer, before⟩ : EngineEntry F) ∈ trace ∧
        action.requestID = id := by
  rw [executedIn, List.any_eq_true]
  constructor
  · rintro ⟨entry, member, acting⟩
    obtain ⟨thread, call, device, action, answer, before, rfl, same⟩ := acts_iff.mp acting
    exact ⟨thread, call, device, action, answer, before, member, same⟩
  · rintro ⟨thread, call, device, action, answer, before, member, same⟩
    exact ⟨_, member, acts_iff.mpr ⟨thread, call, device, action, answer, before, rfl, same⟩⟩

@[simp] theorem executedIn_stored
    {id : String}
    {trace : List (EngineEntry F)}
    {thread : ℕ}
    {call : EngineCall}
    {op : AutomationOp}
    {answer : Except Error op.Answer}
    {before : Shared F} :
    executedIn id (⟨thread, call, .store op, answer, before⟩ :: trace) = executedIn id trace :=
  rfl

/-! ## Holding a claim -/

section

variable (engine : Engine) (world : EngineWorld F)

/-- A live thread holds a claim. -/
def Holds (thread : ℕ) (claim : Claim) : Prop :=
  world.Live thread ∧ (worker engine thread world.trace).claim = some claim

/-- The live threads that hold a claim, each with its claim. -/
def holders : List (ℕ × Claim) :=
  (List.range world.threads.length).filterMap fun thread =>
    if world.Live thread then (worker engine thread world.trace).claim.map (Prod.mk thread)
    else none

theorem mem_holders
    (thread : ℕ)
    (claim : Claim) :
    (thread, claim) ∈ holders engine world ↔ Holds engine world thread claim := by
  simp only [holders, List.mem_filterMap, List.mem_range, Holds]
  constructor
  · rintro ⟨other, _, found⟩
    split_ifs at found with live
    obtain ⟨held, same, pair⟩ := Option.map_eq_some_iff.mp found
    cases pair
    exact ⟨live, same⟩
  · rintro ⟨live, held⟩
    exact ⟨thread, live.started, by rw [if_pos live, held]; rfl⟩

/-- The world after an operation of the store. -/
abbrev operated
    (writer : ℕ)
    (call : EngineCall)
    (op : AutomationOp)
    (answer : Except Error op.Answer)
    (store : MemStore F)
    (rest : EngineM Unit) : EngineWorld F where
  shared := { world.shared with store }
  threads := world.threads.set writer ⟨call, rest⟩
  trace := ⟨writer, call, .store op, answer, world.shared⟩ :: world.trace

end

section Holds

variable {engine : Engine} {world : EngineWorld F} {thread : ℕ} {claim : Claim}

theorem Holds.performed
    {writer : ℕ}
    {call : EngineCall}
    {op : EngineOp}
    {answer : EngineRes op}
    {shared : Shared F}
    {rest : EngineM Unit}
    (holds : Holds engine
      { shared
        threads := world.threads.set writer ⟨call, rest⟩
        trace := ⟨writer, call, op, answer, world.shared⟩ :: world.trace } thread claim) :
    (thread ≠ writer ∧ Holds engine world thread claim) ∨
      (thread = writer ∧
        ((worker engine thread world.trace).observe op answer).claim = some claim) := by
  obtain ⟨live, held⟩ := holds
  by_cases same : thread = writer
  · subst same
    rw [worker_cons_self] at held
    exact Or.inr ⟨rfl, held⟩
  · rw [worker_cons_ne (Ne.symm same)] at held
    refine Or.inl ⟨same, ?_, held⟩
    exact (World.live_congr (List.getElem?_set_ne (Ne.symm same))).mp live

theorem Holds.origin
    {writer : ℕ}
    {call : EngineCall}
    {op : EngineOp}
    {answer : EngineRes op}
    {shared : Shared F}
    {rest : EngineM Unit}
    (live : world.Live writer)
    (holds : Holds engine
      { shared
        threads := world.threads.set writer ⟨call, rest⟩
        trace := ⟨writer, call, op, answer, world.shared⟩ :: world.trace } thread claim) :
    (∃ old, Holds engine world thread old ∧ old.request = claim.request ∧
        (claim.executed = old.executed ∨ thread = writer ∧ ∃ device action,
          op = .execute device action)) ∨
      (thread = writer ∧ claim = .new claim.request ∧ ∃ now lease,
        op = .store (.claimAutomation claim.request.requestID now lease) ∧
          HEq answer (Except.ok true : Except Error Bool)) := by
  rcases holds.performed with ⟨_, before⟩ | ⟨rfl, held⟩
  · exact Or.inl ⟨claim, before, rfl, Or.inl rfl⟩
  · cases View.claimStep_of_observe held with
    | made id now lease request found =>
        obtain rfl : request.requestID = id := by simpa using List.find?_some found
        exact Or.inr ⟨rfl, rfl, now, lease, rfl, HEq.rfl⟩
    | kept _ _ _ known => exact Or.inl ⟨claim, ⟨live, known⟩, rfl, Or.inl rfl⟩
    | read time old known => exact Or.inl ⟨old, ⟨live, known⟩, rfl, Or.inl rfl⟩
    | alerted alertKey old known => exact Or.inl ⟨old, ⟨live, known⟩, rfl, Or.inl rfl⟩
    | cooled policyID deviceID target since old known =>
        exact Or.inl ⟨old, ⟨live, known⟩, rfl, Or.inl rfl⟩
    | acted device action answer old known =>
        exact Or.inl ⟨old, ⟨live, known⟩, rfl, Or.inr ⟨rfl, device, action, rfl⟩⟩

theorem Holds.rescheduled
    (obedient : (protocol engine).Obedient world)
    {threads : List (Interleaving.Thread EngineCall EngineOp EngineRes)}
    (fewer : ∀ thread < world.threads.length,
      ({ world with threads } : EngineWorld F).Live thread → world.Live thread)
    (holds : Holds engine { world with threads } thread claim) :
    Holds engine world thread claim := by
  obtain ⟨live, held⟩ := holds
  refine ⟨?_, held⟩
  by_cases started : thread < world.threads.length
  · exact fewer thread started live
  · have unused : ∀ entry ∈ world.trace, entry.thread ≠ thread := by
      rintro entry member rfl
      exact started (obedient.known entry member)
    rw [worker_of_unused unused] at held
    cases held

end Holds

/-! ## Reachable worlds -/

section Reachable

variable [GoFloat F]
variable {engine : Engine} {clock : Time} {config : Config}
variable {allowed : EngineWorld F → EngineAction F → Prop} {world : EngineWorld F}

section

variable (reached : (system F engine).Reaches allowed (fresh F clock config) world)
include reached

/-- What the protocol asks of a thread at an operation of the store, in terms of
what the worker knows. -/
theorem mayIssue_of_reaches
    {thread : ℕ}
    {call : EngineCall}
    {op : AutomationOp}
    {rest : Except Error op.Answer → EngineM Unit}
    (running : world.threads[thread]? = some ⟨call, .call (.store op) rest⟩) :
    ({ worker engine thread world.trace with call } : View).MayIssue engine op := by
  rw [← viewOf_eq_worker]
  exact (obedient_of_reaches reached).pre running

theorem mayFinish_of_reaches
    {thread : ℕ}
    {call : EngineCall}
    {result : AutomationResult}
    {message : OutboxMessage}
    {rest : Except Error Bool → EngineM Unit}
    (running : world.threads[thread]? =
      some ⟨call, .call (.store (.completeAutomation result message)) rest⟩) :
    (worker engine thread world.trace).MayFinish result := by
  cases (mayIssue_of_reaches reached running).2.2 with
  | expires free listed status => exact .expires free listed status
  | stops claim held same unexecuted status => exact .stops claim held same unexecuted status
  | reports claim held same executed status finished =>
      exact .reports claim held same executed status finished
  | refuses free refused status => exact .refuses free refused status

theorem cleared_of_reaches
    {thread : ℕ}
    {call : EngineCall}
    {device : Device}
    {action : Action}
    {rest : ActionResult × Option Error → EngineM Unit}
    (running : world.threads[thread]? = some ⟨call, .call (.execute device action) rest⟩) :
    ∃ claim config now policy spec, (worker engine thread world.trace).Cleared device action
      claim config now policy spec := by
  have known : (protocol engine).pre (viewOf engine call thread world.trace)
      (.execute device action) := (obedient_of_reaches reached).pre running
  rw [viewOf_eq_worker] at known
  obtain ⟨claim, config, now, policy, spec, held, unexecuted, configured, gateTime, passed,
    firing, cooled, approved, asked⟩ := known
  exact ⟨claim, config, now, policy, spec, held, unexecuted, configured, gateTime, passed,
    firing, cooled, approved, asked⟩

theorem claim_due_of_reaches :
    ∀ thread claim, (worker engine thread world.trace).claim = some claim →
      claim.request ∈ (worker engine thread world.trace).due := by
  refine reached.invariant ?_ ?_
  · intro thread claim impossible
    cases impossible
  intro world action after reached holds _ moves
  -- Only reading the due requests changes them, and a worker reads them without a claim.
  have step : ∀ thread op (answer : EngineRes op),
      (∀ now lease limit, op = .store (.dueAutomation now lease limit) →
        (worker engine thread world.trace).claim = none) →
      ∀ claim, ((worker engine thread world.trace).observe op answer).claim = some claim →
        claim.request ∈ ((worker engine thread world.trace).observe op answer).due := by
    intro thread op answer free claim held
    rcases (worker engine thread world.trace).observe_due op answer with
      ⟨due, _⟩ | ⟨now, lease, limit, due, rfl, same, _⟩
    · rw [due]
      cases View.claimStep_of_observe held with
      | made id now lease request found => exact List.mem_of_find?_eq_some found
      | kept _ _ _ old => exact holds thread claim old
      | read time old known => exact holds thread old known
      | alerted alertKey old known => exact holds thread old known
      | cooled policyID deviceID target since old known => exact holds thread old known
      | acted device action answer old known => exact holds thread old known
    · obtain rfl := eq_of_heq same
      have none_ := free now lease limit rfl
      rw [show ((worker engine thread world.trace).observe
        (.store (.dueAutomation now lease limit)) (.ok due)).claim =
          (worker engine thread world.trace).claim from rfl, none_] at held
      cases held
  cases Advance.of_moves moves with
  | stored writer choice call op rest answer store running effect answered =>
      intro thread claim held
      by_cases same : thread = writer
      · subst same
        rw [worker_cons_self] at held ⊢
        refine step thread (.store op) answer ?_ claim held
        rintro now lease limit ⟨⟩
        exact (mayIssue_of_reaches reached running).1
      · rw [worker_cons_ne (Ne.symm same)] at held ⊢
        exact holds thread claim held
  | asked writer choice call op rest answer running other answered =>
      intro thread claim held
      by_cases same : thread = writer
      · subst same
        rw [worker_cons_self] at held ⊢
        refine step thread op answer ?_ claim held
        rintro now lease limit rfl
        exact absurd rfl (other _)
      · rw [worker_cons_ne (Ne.symm same)] at held ⊢
        exact holds thread claim held
  | _ => exact holds

end

theorem config_of_reaches
    (good : Config → Prop)
    (kept : ∀ world new, allowed world (.disturb (.configure new)) → good new)
    (start : good config)
    (reached : (system F engine).Reaches allowed (fresh F clock config) world) :
    good world.shared.config ∧
      ∀ thread known, (worker engine thread world.trace).config = some known → good known := by
  refine reached.invariant ?_ ?_
  · refine ⟨start, ?_⟩
    intro thread known impossible
    cases impossible
  rintro world action after reached ⟨current, holds⟩ permitted moves
  cases moves with
  | performed writer call op rest choice running =>
      have unchanged :
          ((system F engine).performed world writer call op rest choice).shared.config =
          world.shared.config := world.shared.respond_config op choice
      rw [unchanged]
      refine ⟨current, ?_⟩
      intro thread known same
      by_cases own : thread = writer
      · subst own
        simp only [Machine.performed, worker_cons_self] at same
        rcases View.observe_config same with old | ⟨rfl, read⟩
        · exact holds thread known old
        · obtain rfl := eq_of_heq read
          exact current
      · simp only [Machine.performed] at same
        rw [worker_cons_ne (Ne.symm own)] at same
        exact holds thread known same
  | disturbed env =>
      cases env with
      | configure config => exact ⟨kept world config permitted, holds⟩
      | _ => exact ⟨current, holds⟩
  | _ => exact ⟨current, holds⟩

/-- The clock never goes back. -/
def ClockForward (world : EngineWorld F) : EngineAction F → Prop
  | .disturb (.setClock time) => world.shared.clock ≤ time
  | _ => True

instance (world : EngineWorld F) : DecidablePred (ClockForward world)
  | .disturb (.setClock time) => inferInstanceAs (Decidable (world.shared.clock ≤ time))
  | .disturb (.configure _) => isTrue trivial
  | .disturb (.process ..) => isTrue trivial
  | .start _ => isTrue trivial
  | .step .. => isTrue trivial
  | .crash _ => isTrue trivial

theorem clock_of_reaches
    (forward : ∀ world action, allowed world action → ClockForward world action)
    (reached : (system F engine).Reaches allowed (fresh F clock config) world) :
    ∀ thread time, (worker engine thread world.trace).time = some time ∨
      (worker engine thread world.trace).stamp = some time → time ≤ world.shared.clock := by
  refine reached.invariant ?_ ?_
  · rintro thread time (impossible | impossible) <;> cases impossible
  intro world action after reached holds permitted moves
  cases moves with
  | performed writer call op rest choice running =>
      intro thread time known
      have clock : ((system F engine).performed world writer call op rest choice).shared.clock =
          world.shared.clock := world.shared.respond_clock op choice
      rw [clock]
      by_cases same : thread = writer
      · subst same
        simp only [Machine.performed, worker_cons_self] at known
        rcases known with read | stamped
        · rcases (worker engine thread world.trace).observe_time op _ with old | ⟨now, rfl, _, new⟩
          · exact holds thread time (Or.inl (old.symm.trans read))
          · exact le_of_eq (Option.some.inj (read.symm.trans rfl))
        · rcases (worker engine thread world.trace).observe_due op _ with
            ⟨_, old⟩ | ⟨now, lease, limit, due, rfl, _, _, new⟩
          · exact holds thread time (Or.inr (old.symm.trans stamped))
          · obtain rfl := Option.some.inj (new.symm.trans stamped)
            exact holds thread now (Or.inl (mayIssue_of_reaches reached running).2.1)
      · simp only [Machine.performed] at known
        rw [worker_cons_ne (Ne.symm same)] at known
        exact holds thread time known
  | disturbed env =>
      intro thread time known
      have before := holds thread time known
      cases env with
      | setClock instant => exact before.trans (forward world _ permitted)
      | _ => exact before
  | _ => exact holds

end Reachable

end InfraObserver
