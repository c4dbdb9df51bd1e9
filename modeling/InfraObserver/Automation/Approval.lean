import InfraObserver.Automation.Gates

/-!
# Approvals

A worker decides about a request from the snapshot that it read with the due
requests. An approval that is recorded after that reading is lost when the
worker parks the request or puts it back; otherwise an approval lasts.
-/

namespace InfraObserver

open Interleaving (World Machine)

variable {F : Type} [Platform]

/-- The entry records an approval of a request. -/
def approves (id : String) : EngineEntry F → Bool
  | ⟨_, _, .store (.approveAutomation other _), .ok true, _⟩ => other = id
  | _ => false

/-- A request was approved after a thread last read the due requests. -/
def approvedSinceDue (id : String) (thread : ℕ) (trace : List (EngineEntry F)) : Bool :=
  (trace.takeWhile fun entry => !readsDue thread entry).any (approves id)

/-- A worker that parks or puts back a request which is being executed has read
it after its last approval. -/
def ReadSinceApproval [GoFloat F] (world : EngineWorld F) (action : EngineAction F) : Prop :=
  match storing world action with
  | some (thread, .setAutomationStatus id _ _) =>
      world.shared.store.statusOf id = some .executing →
        approvedSinceDue id thread world.trace = false
  | _ => True

instance [GoFloat F] (world : EngineWorld F) (action : EngineAction F) :
    Decidable (ReadSinceApproval world action) := by
  unfold ReadSinceApproval
  split <;> infer_instance

/-! ## Snapshots and approvers -/

section Approvals

variable {trace : List (EngineEntry F)} {entry : EngineEntry F} {thread : ℕ} {id : String}

theorem approvedSinceDue_cons :
    approvedSinceDue id thread (entry :: trace) =
      (!readsDue thread entry && (approves id entry || approvedSinceDue id thread trace)) := by
  cases reads : readsDue thread entry <;> simp [approvedSinceDue, reads]

theorem approves_iff :
    approves id entry = true ↔ ∃ thread call by_ before,
      entry = ⟨thread, call, .store (.approveAutomation id by_), .ok true, before⟩ := by
  constructor
  · intro recorded
    unfold approves at recorded
    split at recorded
    · next thread call other by_ before =>
        obtain rfl : other = id := by simpa using recorded
        exact ⟨thread, call, by_, before, rfl⟩
    · cases recorded
  · rintro ⟨thread, call, by_, before, rfl⟩
    simp [approves]

variable {store after : MemStore F} {request : AutomationRequest}

/-- The snapshot of a request has the approver that is stored. -/
def SameApprover (store : MemStore F) (request : AutomationRequest) : Prop :=
  ∃ stored, store.autoReq.lookup request.requestID = some stored ∧
    stored.approvedBy = request.approvedBy

theorem SameApprover.stored
    (same : SameApprover store request)
    {call : EngineCall}
    {op : AutomationOp}
    {answer : Except Error op.Answer}
    {before : Shared F}
    (effect : op.Effect store answer after)
    (other : approves request.requestID
      (⟨thread, call, .store op, answer, before⟩ : EngineEntry F) = false) :
    SameApprover after request := by
  obtain ⟨stored, found, approver⟩ := same
  obtain ⟨written, present, rewrites⟩ := effect.rewrites found
  refine ⟨written, present, ?_⟩
  rcases rewrites.core.2 with kept | ⟨rfl, answered⟩
  · rw [kept, approver]
  · obtain rfl := eq_of_heq answered
    simp [approves] at other

end Approvals

section Reachable

variable [GoFloat F]
variable {engine : Engine} {clock : Time} {config : Config}
variable {allowed : EngineWorld F → EngineAction F → Prop} {world : EngineWorld F}

theorem due_approver_of_reaches
    (reached : (system F engine).Reaches allowed (fresh F clock config) world) :
    ∀ thread, ∀ request ∈ (worker engine thread world.trace).due,
      approvedSinceDue request.requestID thread world.trace = false →
        SameApprover world.shared.store request := by
  refine reached.invariant ?_ ?_
  · intro thread request impossible
    cases impossible
  intro world action after reached holds _ moves
  cases Advance.of_moves moves with
  | stored writer choice call op rest answer store running effect answered =>
      intro thread request member current
      rw [approvedSinceDue_cons] at current
      cases reads : readsDue thread
          (⟨writer, call, .store op, answer, world.shared⟩ : EngineEntry F) with
      | false =>
          rw [due_of_not_readsDue reads] at member
          simp only [reads, Bool.not_false, Bool.true_and, Bool.or_eq_false_iff] at current
          exact (holds thread request member current.2).stored effect current.1
      | true =>
          obtain ⟨_, now, lease, limit, due, _, same⟩ := readsDue_iff.mp reads
          cases same
          have listed : request ∈ View.listed (.dueAutomation now lease limit) (.ok due) := by
            rw [worker_cons_self] at member
            exact member
          rw [answered] at listed
          obtain ⟨id, found⟩ := listed_stored world.shared _ choice request listed
          obtain rfl := (wellFormed_of_reaches reached).keyed id request found
          cases effect
          exact ⟨request, found, rfl⟩
  | asked writer choice call op rest answer running other answered =>
      intro thread request member current
      rw [approvedSinceDue_cons] at current
      have unread : readsDue thread
          (⟨writer, call, op, answer, world.shared⟩ : EngineEntry F) = false := by
        rw [Bool.eq_false_iff]
        intro reads
        obtain ⟨_, _, _, _, _, _, same⟩ := readsDue_iff.mp reads
        cases same
        exact other _ rfl
      rw [due_of_not_readsDue unread] at member
      simp only [unread, Bool.not_false, Bool.true_and, Bool.or_eq_false_iff] at current
      exact holds thread request member current.2
  | processed processor attempt sample =>
      intro thread request member current
      have same := processor.process_sameRequests attempt sample world.shared.store
      obtain ⟨stored, found, approver⟩ := holds thread request member current
      exact ⟨stored, same.autoReq ▸ found, approver⟩
  | _ => exact holds

/-- An approval lasts: the request is neither waiting nor pending, and its
approver is the one who approved. -/
def ApprovalLasts (store : MemStore F) (id by_ : String) : Prop :=
  by_ ≠ "" ∧ ∃ request, store.autoReq.lookup id = some request ∧
    request.status ≠ .awaitingApproval ∧ request.status ≠ .pending ∧ request.approvedBy = by_

omit [GoFloat F] in
theorem ApprovalLasts.stored
    {store after : MemStore F}
    {id by_ : String}
    (lasts : ApprovalLasts store id by_)
    {op : AutomationOp}
    {answer : Except Error op.Answer}
    (effect : op.Effect store answer after)
    {view : View}
    (may : view.MayIssue engine op)
    (current : ∀ claim sources status, op = .setAutomationStatus id sources status →
      store.statusOf id = some .executing → view.claim = some claim →
        claim.request.requestID = id → SameApprover store claim.request) :
    ApprovalLasts after id by_ := by
  obtain ⟨named, request, found, notWaiting, notPending, approver⟩ := lasts
  obtain ⟨written, present, rewrites⟩ := effect.rewrites found
  refine ⟨named, written, present, ?_⟩
  cases rewrites with
  | untouched => exact ⟨notWaiting, notPending, approver⟩
  | claimed now lease ready => exact ⟨by simp, by simp, approver⟩
  | approved other waiting => exact absurd waiting notWaiting
  | completed result message same unfinished =>
      have terminal := may.2.2.terminal
      refine ⟨fun back => ?_, fun back => ?_, approver⟩
      all_goals
        rw [show result.status = _ from back] at terminal
        cases terminal
  | moved sources status listed =>
      obtain ⟨rfl, claim, held, same, _, back⟩ := may
      have executing : store.statusOf id = some .executing := by
        simp [MemStore.statusOf, found, List.mem_singleton.mp listed]
      obtain ⟨stored, lookup, sameApprover⟩ := current claim _ status rfl executing held same
      rw [same] at lookup
      obtain rfl : stored = request := by simpa [found] using lookup.symm
      -- The worker knows the approver, so it puts the request back as approved.
      rcases back with ⟨unapproved, _⟩ | ⟨_, rfl⟩
      · exact absurd (approver.symm.trans (sameApprover.trans unapproved)) named
      · exact ⟨by simp, by simp, approver⟩

/-- An approval is never lost while workers park and put back only requests that
they have read since the last approval. -/
theorem approval_lasts
    (reached : (system F engine).Reaches ReadSinceApproval (fresh F clock config) world)
    {thread : ℕ}
    {call : EngineCall}
    {id by_ : String}
    {before : Shared F}
    (approved : ⟨thread, call, .store (.approveAutomation id by_), .ok true, before⟩ ∈
      world.trace) :
    ∃ request, world.shared.store.autoReq.lookup id = some request ∧
      request.status ≠ .awaitingApproval ∧ request.status ≠ .pending ∧
      request.approvedBy = by_ := by
  suffices lasts : ∀ thread call id by_ before,
    ⟨thread, call, .store (.approveAutomation id by_), .ok true, before⟩ ∈ world.trace →
      ApprovalLasts world.shared.store id by_ from (lasts thread call id by_ before approved).2
  refine reached.invariant ?_ ?_
  · intro thread call id by_ before impossible
    cases impossible
  intro world action after reached holds permitted moves
  cases Advance.of_moves moves with
  | stored writer choice caller op rest answer store running effect answered =>
      intro thread call id by_ before member
      have may := mayIssue_of_reaches reached running
      rcases List.mem_cons.mp member with new | old
      · cases new
        cases effect with
        | quiet _ _ silent => exact absurd rfl silent
        | approved _ _ request found waiting =>
            refine ⟨?_, _, Finmap.lookup_insert _, by simp, by simp, rfl⟩
            rintro rfl
            cases may.2
      · refine (holds thread call id by_ before old).stored effect may ?_
        rintro claim sources status rfl executing held rfl
        simp only [ReadSinceApproval, storing_of_running running] at permitted
        exact due_approver_of_reaches reached writer claim.request
          (claim_due_of_reaches reached writer claim held) (permitted executing)
  | asked writer choice caller op rest answer running other answered =>
      intro thread call id by_ before member
      rcases List.mem_cons.mp member with new | old
      · cases new
        exact absurd rfl (other _)
      · exact holds thread call id by_ before old
  | processed processor attempt sample =>
      intro thread call id by_ before member
      have same := processor.process_sameRequests attempt sample world.shared.store
      obtain ⟨named, request, found, rest⟩ := holds thread call id by_ before member
      exact ⟨named, request, same.autoReq ▸ found, rest⟩
  | _ => exact holds

end Reachable

end InfraObserver

namespace InfraObserver

open Interleaving (World Machine)

attribute [local instance] Platform.plain GoFloat.integer

/-- The approval of the bounced interface lasts until the action was taken. -/
theorem bounce_approval_lasts :
    let world := (system ℤ plainEngine).run (fresh ℤ 10 (bounceConfig true)) approvedRun
    ∃ thread call by_ before,
      (⟨thread, call, .store (.approveAutomation bounceID by_), .ok true, before⟩ :
        EngineEntry ℤ) ∈ world.trace ∧
      ∃ request, world.shared.store.autoReq.lookup bounceID = some request ∧
        request.status ≠ .awaitingApproval ∧ request.status ≠ .pending ∧
        request.approvedBy = by_ := by
  intro world
  have approved : world.trace.any (approves bounceID) = true := by decide +kernel
  have permits : (system ℤ plainEngine).Permits ReadSinceApproval
      (fresh ℤ 10 (bounceConfig true)) approvedRun := by decide +kernel
  obtain ⟨entry, member, recorded⟩ := List.any_eq_true.mp approved
  obtain ⟨thread, call, by_, before, rfl⟩ := approves_iff.mp recorded
  have reached : (system ℤ plainEngine).Reaches ReadSinceApproval
      (fresh ℤ 10 (bounceConfig true)) world := Machine.reaches_run approvedRun permits
  exact ⟨thread, call, by_, before, member, approval_lasts reached member⟩

/-- A worker reads the due requests, another worker parks the request, a person
approves it, and the first worker parks it again. -/
def staleRun : List (EngineAction ℤ) :=
  switchGoesDown ++ .start .tick :: steps 1 4 ++ .start .tick :: steps 2 11 ++
    .start (.approve bounceID "operator") :: steps 3 1 ++ steps 1 7

/-- The approval is lost and another person can take its place. -/
theorem approval_lost :
    let parked := (system ℤ plainEngine).run (fresh ℤ 10 (bounceConfig true)) staleRun
    let replaced := (system ℤ plainEngine).run parked
      (.start (.approve bounceID "visitor") :: steps 4 1)
    parked.trace.any (approves bounceID) = true ∧
      parked.shared.store.statusOf bounceID = some .awaitingApproval ∧
      (replaced.shared.store.autoReq.lookup bounceID).map AutomationRequest.approvedBy =
        some "visitor" := by
  decide +kernel

end InfraObserver
