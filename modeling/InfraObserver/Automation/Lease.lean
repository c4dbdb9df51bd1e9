import InfraObserver.Automation.Gates

/-!
# Leases

A claim is stamped with the clock reading of the whole batch, so the lease starts
at that reading and not at the claim. A claim is exclusive for the whole lease
when no time passes between the two and only the last worker that claimed a
request gives it back.
-/

namespace InfraObserver

open Interleaving (World Machine)

variable {F : Type} [Platform]

/-- The entry is a successful claim of a request. -/
def claims (id : String) : EngineEntry F → Bool
  | ⟨_, _, .store (.claimAutomation other _ _), .ok true, _⟩ => other = id
  | _ => false

/-- The entry is a thread's release, parking or completion of a request. -/
def givesUp (thread : ℕ) (id : String) : EngineEntry F → Bool
  | ⟨writer, _, .store (.setAutomationStatus other _ _), .ok true, _⟩ =>
      writer = thread && other = id
  | ⟨writer, _, .store (.completeAutomation result _), .ok true, _⟩ =>
      writer = thread && result.requestID = id
  | _ => false

/-- The thread that last claimed a request. -/
def lastClaimant (id : String) (trace : List (EngineEntry F)) : Option ℕ :=
  (trace.find? (claims id)).map Interleaving.Entry.thread

/-- The clock never goes back, a worker claims the request within a nanosecond of reading
the clock, and only the last worker that claimed it parks it or puts it back. -/
def LeaseSafe [GoFloat F] (id : String) (world : EngineWorld F) (action : EngineAction F) :
    Prop :=
  ClockForward world action ∧
    match storing world action with
    | some (_, .claimAutomation other now _) => other = id → world.shared.clock ≤ now + 1
    | some (thread, .setAutomationStatus other _ _) =>
        other = id → world.shared.store.statusOf id = some .executing →
          lastClaimant id world.trace = some thread
    | _ => True

instance [GoFloat F] (id : String) (world : EngineWorld F) (action : EngineAction F) :
    Decidable (LeaseSafe id world action) := by
  unfold LeaseSafe
  generalize storing world action = stored
  rcases stored with _ | ⟨_, _ | _ | _ | _ | _ | _ | _ | _ | _ | _⟩ <;> infer_instance

theorem claims_iff
    {id : String}
    {entry : EngineEntry F} :
    claims id entry = true ↔ ∃ thread call now lease before,
      entry = ⟨thread, call, .store (.claimAutomation id now lease), .ok true, before⟩ := by
  constructor
  · intro claimed
    unfold claims at claimed
    split at claimed
    · next thread call other now lease before =>
        obtain rfl : other = id := by simpa using claimed
        exact ⟨thread, call, now, lease, before, rfl⟩
    · cases claimed
  · rintro ⟨thread, call, now, lease, before, rfl⟩
    simp [claims]

theorem lastClaimant_cons
    {id : String}
    {entry : EngineEntry F}
    {trace : List (EngineEntry F)}
    (other : claims id entry = false) :
    lastClaimant id (entry :: trace) = lastClaimant id trace := by
  simp [lastClaimant, other]

/-- What has become of a claim that was made at an instant with a stamp: it was
given up, its lease is over, the request is settled, or it still stands. -/
inductive ClaimFate
    (engine : Engine)
    (world : EngineWorld F)
    (since : List (EngineEntry F))
    (thread : ℕ)
    (id : String)
    (made stamp : Time) : Prop
  | gaveUp (entry : EngineEntry F) (member : entry ∈ since) (gives : givesUp thread id entry = true)
  | elapsed (late : Time.add made engine.lease ≤ world.shared.clock)
  | settled
      (status : AutomationStatus)
      (current : world.shared.store.statusOf id = some status)
      (terminal : status.terminal = true)
  | stands
      (current : world.shared.store.statusOf id = some .executing)
      (stamped : world.shared.store.autoClaim.lookup id = some stamp)
      (prompt : made ≤ stamp + 1)
      (last : lastClaimant id world.trace = some thread)

namespace ClaimFate

variable {engine : Engine} {world after : EngineWorld F} {since : List (EngineEntry F)}
variable {thread : ℕ} {id : String} {made stamp : Time}

section

variable (fate : ClaimFate engine world since thread id made stamp)
include fate

theorem frame
    {longer : List (EngineEntry F)}
    (kept : ∀ entry ∈ since, entry ∈ longer)
    (clock : world.shared.clock ≤ after.shared.clock)
    (status : after.shared.store.statusOf id = world.shared.store.statusOf id)
    (claim : after.shared.store.autoClaim.lookup id = world.shared.store.autoClaim.lookup id)
    (last : lastClaimant id after.trace = lastClaimant id world.trace) :
    ClaimFate engine after longer thread id made stamp := by
  cases fate with
  | gaveUp entry member gives => exact .gaveUp entry (kept entry member) gives
  | elapsed late => exact .elapsed (late.trans clock)
  | settled current found terminal => exact .settled current (status.trans found) terminal
  | stands current stamped prompt claimant =>
      exact .stands (status.trans current) (claim.trans stamped) prompt (last.trans claimant)

theorem of_claimable
    {request : AutomationRequest}
    {now : Time}
    (found : world.shared.store.autoReq.lookup id = some request)
    (ready : world.shared.store.claimable id request now engine.lease = true)
    (past : now ≤ world.shared.clock) :
    (∃ entry ∈ since, givesUp thread id entry = true) ∨
      Time.add made engine.lease ≤ world.shared.clock := by
  have status : world.shared.store.statusOf id = some request.status := by
    simp [MemStore.statusOf, found]
  cases fate with
  | gaveUp entry member gives => exact Or.inl ⟨entry, member, gives⟩
  | elapsed late => exact Or.inr late
  | settled current known terminal =>
      obtain rfl := Option.some.inj (known.symm.trans status)
      rw [MemStore.claimable_unsettled ready] at terminal
      cases terminal
  | stands current stamped prompt last =>
      have executing : request.status = .executing :=
        Option.some.inj (status.symm.trans current)
      -- The lease runs from the stamp, and the clock was read before the claim.
      have expired : Time.add stamp engine.lease < now := by
        simpa [MemStore.claimable, executing, MemStore.leaseOver, stamped] using ready
      right
      simp only [Time.add] at expired ⊢
      linarith [Int.add_one_le_iff.mpr expired]

end

variable {writer : ℕ} {call : EngineCall} {op : AutomationOp} {answer : Except Error op.Answer}
variable {store : MemStore F} {rest : EngineM Unit}

theorem ended
    (ended : (∃ entry ∈ since, givesUp thread id entry = true) ∨
      Time.add made engine.lease ≤ world.shared.clock) :
    ClaimFate engine (operated world writer call op answer store rest)
      (⟨writer, call, .store op, answer, world.shared⟩ :: since) thread id made stamp := by
  rcases ended with ⟨entry, member, gives⟩ | late
  · exact .gaveUp entry (List.mem_cons_of_mem _ member) gives
  · exact .elapsed late

section

variable (fate : ClaimFate engine world since thread id made stamp)
  (effect : op.Effect world.shared.store answer store)
include fate effect

theorem elsewhere
    (other : op.Wrote answer → op.subject ≠ some id) :
    ClaimFate engine (operated world writer call op answer store rest)
      (⟨writer, call, .store op, answer, world.shared⟩ :: since) thread id made stamp := by
  refine fate.frame (fun entry => List.mem_cons_of_mem _) le_rfl ?_ (effect.claims other) ?_
  · exact congrArg _ (effect.lookup_elsewhere other)
  · refine lastClaimant_cons ?_
    rw [Bool.eq_false_iff]
    intro claimed
    obtain ⟨_, _, now, lease, _, same⟩ := claims_iff.mp claimed
    cases same
    exact other rfl rfl

theorem touched
    (wrote : op.Wrote answer)
    (subject : op.subject = some id)
    (claimed : ∀ now lease, op = .claimAutomation id now lease →
      lease = engine.lease ∧ now ≤ world.shared.clock)
    (moved : ∀ sources status, op = .setAutomationStatus id sources status →
      sources = [.executing] ∧ (world.shared.store.statusOf id = some .executing →
        lastClaimant id world.trace = some writer))
    (completed : ∀ result message, op = .completeAutomation result message →
      result.status.terminal = true) :
    ClaimFate engine (operated world writer call op answer store rest)
      (⟨writer, call, .store op, answer, world.shared⟩ :: since) thread id made stamp := by
  -- A claim that has not ended leaves the request executing or settled.
  have progress : ((∃ entry ∈ since, givesUp thread id entry = true) ∨
        Time.add made engine.lease ≤ world.shared.clock) ∨
      ∃ status, world.shared.store.statusOf id = some status ∧ (status.terminal = true ∨
        status = .executing ∧ lastClaimant id world.trace = some thread) := by
    cases fate with
    | gaveUp entry member gives => exact Or.inl (Or.inl ⟨entry, member, gives⟩)
    | elapsed late => exact Or.inl (Or.inr late)
    | settled status current terminal => exact Or.inr ⟨status, current, Or.inl terminal⟩
    | stands current stamped prompt last =>
        exact Or.inr ⟨.executing, current, Or.inr ⟨rfl, last⟩⟩
  rcases progress with finished | ⟨status, current, open_⟩
  · exact ended finished
  cases effect with
  | quiet _ _ silent => exact absurd wrote silent
  | inserted request message fresh =>
      obtain rfl := Option.some.inj subject
      simp [MemStore.statusOf, fresh] at current
  | claimed key now lease request found ready =>
      obtain rfl := Option.some.inj subject
      obtain ⟨rfl, past⟩ := claimed now lease rfl
      exact ended (fate.of_claimable found ready past)
  | moved key sources target request found listed =>
      obtain rfl := Option.some.inj subject
      obtain ⟨rfl, latest⟩ := moved sources target rfl
      have executing : world.shared.store.statusOf key = some .executing := by
        simp [MemStore.statusOf, found, List.mem_singleton.mp listed]
      obtain rfl := Option.some.inj (current.symm.trans executing)
      rcases open_ with terminal | ⟨_, last⟩
      · cases terminal
      · obtain rfl := Option.some.inj ((latest executing).symm.trans last)
        exact .gaveUp _ (List.mem_cons_self ..) (by simp [givesUp])
  | approved key by_ request found waiting =>
      obtain rfl := Option.some.inj subject
      have awaiting : world.shared.store.statusOf key = some .awaitingApproval := by
        simp [MemStore.statusOf, found, waiting]
      obtain rfl := Option.some.inj (current.symm.trans awaiting)
      rcases open_ with terminal | ⟨executing, _⟩
      · cases terminal
      · cases executing
  | completed result message request found unfinished =>
      obtain rfl := Option.some.inj subject
      refine .settled result.status ?_ (completed result message rfl)
      simp [MemStore.statusOf, MemStore.withResult, MemStore.enqueue]

end

end ClaimFate

section Reachable

variable [GoFloat F]
variable {engine : Engine} {clock : Time} {config : Config} {world : EngineWorld F}
variable {id : String}

theorem claimFate_of_reaches
    (reached : (system F engine).Reaches (LeaseSafe id) (fresh F clock config) world) :
    ∀ since earlier thread call stamp lease before,
      world.trace = since ++ ⟨thread, call, .store (.claimAutomation id stamp lease), .ok true,
        before⟩ :: earlier →
      ClaimFate engine world since thread id before.clock stamp := by
  refine reached.invariant ?_ ?_
  · intro since earlier thread call stamp lease before split
    cases since <;> cases split
  intro world action after reached fates permitted moves
  obtain ⟨forward, permitted⟩ := permitted
  -- Without a request the trace is the same, and so is what it says about the claim.
  have framed : ∀ next : EngineWorld F, next.trace = world.trace →
      world.shared.clock ≤ next.shared.clock →
      next.shared.store.statusOf id = world.shared.store.statusOf id →
      next.shared.store.autoClaim.lookup id = world.shared.store.autoClaim.lookup id →
      ∀ since earlier thread call stamp lease before, next.trace = since ++ ⟨thread, call,
        .store (.claimAutomation id stamp lease), .ok true, before⟩ :: earlier →
        ClaimFate engine next since thread id before.clock stamp := by
    intro next trace clock status claim since earlier thread call stamp lease before split
    exact (fates since earlier thread call stamp lease before (trace ▸ split)).frame
      (fun _ member => member) clock status claim (congrArg (lastClaimant id) trace)
  cases Advance.of_moves moves with
  | rescheduled _ threads fewer => exact framed _ rfl le_rfl rfl rfl
  | clock time => exact framed _ rfl forward rfl rfl
  | configured config => exact framed _ rfl le_rfl rfl rfl
  | processed processor attempt sample =>
      have same := processor.process_sameRequests attempt sample world.shared.store
      refine framed _ rfl le_rfl ?_ ?_
      · exact congrArg (fun table => (table.lookup id).map AutomationRequest.status) same.autoReq
      · exact congrArg (fun table => table.lookup id) same.autoClaim
  | asked writer choice caller op rest answer running other answered =>
      intro since earlier thread call stamp lease before split
      cases since with
      | nil =>
          cases split
          exact absurd rfl (other _)
      | cons newest since =>
          obtain ⟨rfl, tail⟩ := List.cons.inj split
          refine (fates since earlier thread call stamp lease before tail).frame
            (fun _ => List.mem_cons_of_mem _) le_rfl rfl rfl (lastClaimant_cons ?_)
          rw [Bool.eq_false_iff]
          intro claimed
          obtain ⟨_, _, _, _, _, same⟩ := claims_iff.mp claimed
          cases same
          exact other _ rfl
  | stored writer choice caller op rest answer store running effect answered =>
      intro since earlier thread call stamp lease before split
      have may := mayIssue_of_reaches reached running
      rw [storing_of_running running] at permitted
      cases since with
      | nil =>
          cases split
          cases effect with
          | quiet _ _ silent => exact absurd rfl silent
          | claimed _ _ _ request found ready =>
              refine .stands ?_ ?_ (permitted rfl) ?_
              · simp [MemStore.statusOf, MemStore.withClaim]
              · simp [MemStore.withClaim]
              · simp [lastClaimant, claims]
      | cons newest since =>
          obtain ⟨rfl, tail⟩ := List.cons.inj split
          have fate := fates since earlier thread call stamp lease before tail
          by_cases touched : op.Wrote answer ∧ op.subject = some id
          · refine fate.touched effect touched.1 touched.2 ?_ ?_ ?_
            · rintro now lease rfl
              exact ⟨may.2.2.1, clock_of_reaches (fun _ _ safe => safe.1) reached writer now
                (Or.inr may.2.1)⟩
            · rintro sources status rfl
              exact ⟨may.1, permitted rfl⟩
            · rintro result message rfl
              exact may.2.2.terminal
          · exact fate.elsewhere effect fun wrote subject => touched ⟨wrote, subject⟩

/-- A claim is exclusive for the whole lease, as long as every step is safe for it: a
second claim comes after the lease, or the first worker has given the request
up in between. -/
theorem claim_exclusive
    (reached : (system F engine).Reaches (LeaseSafe id) (fresh F clock config) world)
    {later between earlier : List (EngineEntry F)}
    {thread thread' : ℕ}
    {call call' : EngineCall}
    {stamp stamp' : Time}
    {lease lease' : Duration}
    {before before' : Shared F}
    (twice : world.trace = later ++
      ⟨thread', call', .store (.claimAutomation id stamp' lease'), .ok true, before'⟩ :: (between ++
        ⟨thread, call, .store (.claimAutomation id stamp lease), .ok true, before⟩ :: earlier)) :
    Time.add before.clock engine.lease ≤ before'.clock ∨
      ∃ entry ∈ between, givesUp thread id entry = true := by
  refine reached.every_entry (fun entry trace => ∀ stamp' lease',
    entry.op = .store (.claimAutomation id stamp' lease') →
    HEq entry.answer (Except.ok true : Except Error Bool) →
    ∀ between earlier thread call stamp lease before, trace = between ++
      (⟨thread, call, .store (.claimAutomation id stamp lease), .ok true, before⟩ :
        EngineEntry F) :: earlier →
    Time.add before.clock engine.lease ≤ entry.before.clock ∨
      ∃ entry ∈ between, givesUp thread id entry = true) ?_ twice stamp' lease' rfl HEq.rfl
    between earlier thread call stamp lease before rfl
  rintro world writer caller op rest choice reached running permitted now lease rfl answered
    between earlier thread call stamp _ before split
  have fate := claimFate_of_reaches reached between earlier thread call stamp _ before split
  have may := mayIssue_of_reaches reached running
  have past := clock_of_reaches (fun _ _ safe => safe.1) reached writer now (Or.inr may.2.1)
  obtain ⟨store, _, effect⟩ := world.shared.respond_store (.claimAutomation id now lease) choice
  have claimed : (world.shared.respond (.store (.claimAutomation id now lease)) choice).1 =
      .ok true := eq_of_heq answered
  rw [claimed] at effect
  cases effect with
  | quiet _ _ silent => exact absurd rfl silent
  | claimed _ _ _ request found ready =>
      obtain rfl := may.2.2.1
      exact (fate.of_claimable found ready past).symm

end Reachable

end InfraObserver

namespace InfraObserver

open Interleaving (World Machine)

attribute [local instance] Platform.plain GoFloat.integer

/-- A worker claims the request and is gone; after the lease another one claims
it. -/
def takenOverRun : List (EngineAction ℤ) :=
  switchGoesDown ++ .start .tick :: steps 1 5 ++ .crash 1 ::
    .disturb (.setClock (Time.add 10 .fiveMinutes + 1)) :: .start .tick :: steps 2 5

/-- The request is claimed twice, and the second claim comes after the lease. -/
theorem bounce_taken_over :
    let world := (system ℤ plainEngine).run (fresh ℤ 10 (bounceConfig false)) takenOverRun
    ∃ later between earlier thread thread' call call' stamp stamp' lease lease' before before',
      world.trace = later ++
        (⟨thread', call', .store (.claimAutomation bounceID stamp' lease'), .ok true, before'⟩ :
          EngineEntry ℤ) :: (between ++
        ⟨thread, call, .store (.claimAutomation bounceID stamp lease), .ok true, before⟩ ::
          earlier) ∧
      (Time.add before.clock plainEngine.lease ≤ before'.clock ∨
        ∃ entry ∈ between, givesUp thread bounceID entry = true) := by
  intro world
  have twice : (world.trace.filter (claims bounceID)).length = 2 := by decide +kernel
  have permits : (system ℤ plainEngine).Permits (LeaseSafe bounceID)
      (fresh ℤ 10 (bounceConfig false))
      takenOverRun := by decide +kernel
  have reached : (system ℤ plainEngine).Reaches (LeaseSafe bounceID)
      (fresh ℤ 10 (bounceConfig false))
      world := Machine.reaches_run takenOverRun permits
  obtain ⟨second, first, both⟩ := List.length_eq_two.mp twice
  obtain ⟨later, rest, split, _, claimed', others⟩ := List.filter_eq_cons_iff.mp both
  obtain ⟨between, earlier, rfl, _, claimed, _⟩ := List.filter_eq_cons_iff.mp others
  obtain ⟨thread', call', stamp', lease', before', rfl⟩ := claims_iff.mp claimed'
  obtain ⟨thread, call, stamp, lease, before, rfl⟩ := claims_iff.mp claimed
  exact ⟨later, between, earlier, thread, thread', call, call', stamp, stamp', lease, lease',
    before, before', split, claim_exclusive reached split⟩

/-- A worker reads the clock, the lease passes before it claims, and a
nanosecond later another worker claims. -/
def hastyRun : List (EngineAction ℤ) :=
  switchGoesDown ++ .start .tick :: steps 1 4 ++
    .disturb (.setClock (Time.add 10 .fiveMinutes)) :: steps 1 1 ++
    .disturb (.setClock (Time.add 10 .fiveMinutes + 1)) :: .start .tick :: steps 2 5

/-- The request is claimed twice within a nanosecond, although the clock never
goes back and the first worker has not given it up. -/
theorem claimed_twice_within_lease :
    let world := (system ℤ plainEngine).run (fresh ℤ 10 (bounceConfig false)) hastyRun
    (system ℤ plainEngine).Permits ClockForward (fresh ℤ 10 (bounceConfig false)) hastyRun ∧
      (world.trace.filter (claims bounceID)).map
          (fun entry => (entry.thread, entry.before.clock)) =
        [(2, Time.add 10 .fiveMinutes + 1), (1, Time.add 10 .fiveMinutes)] ∧
      world.trace.any (givesUp 1 bounceID) = false ∧
      plainEngine.lease = .fiveMinutes := by
  decide +kernel

end InfraObserver
