import InfraObserver.Library.Keyed
import InfraObserver.Persistence.MemStore

/-!
# Automation requests in the store

The operations of `AutomationStore` on the in-memory store, and an inversion of
the operations that write: `Effect` lists everything one operation can do to the
tables, so that a proof about the store splits its cases once.
-/

namespace InfraObserver

namespace MemStore

variable {F : Type}

/-! ## The tables after a write -/

variable (store : MemStore F)

/-- The store after a new request and its notification. -/
def withRequest (request : AutomationRequest) (message : OutboxMessage) :
    MemStore F :=
  { store with
    autoReq := store.autoReq.insert request.requestID request
    autoOrder := store.autoOrder ++ [request.requestID] }.enqueue message

/-- The store after a claim at an instant. -/
def withClaim (id : String) (request : AutomationRequest) (now : Time) :
    MemStore F :=
  { store with
    autoReq := store.autoReq.insert id { request with status := .executing }
    autoClaim := store.autoClaim.insert id now }

/-- The store after a change of status. -/
def withStatus
    (id : String)
    (request : AutomationRequest)
    (status : AutomationStatus) : MemStore F :=
  { store with autoReq := store.autoReq.insert id { request with status } }

/-- The store after an approval. -/
def withApproval (id : String) (request : AutomationRequest) (by_ : String) :
    MemStore F :=
  { store with
    autoReq := store.autoReq.insert id { request with status := .approved, approvedBy := by_ } }

/-- The store after a result and its notification. -/
def withResult
    (request : AutomationRequest)
    (result : AutomationResult)
    (message : OutboxMessage) : MemStore F :=
  { store with
    autoReq := store.autoReq.insert result.requestID { request with status := result.status }
    autoRes := store.autoRes.insert result.requestID result }.enqueue message

/-! ## Operations -/

/-- `InsertAutomationRequest`. -/
def insertAutomationRequest
    (request : AutomationRequest)
    (message : OutboxMessage)
    (store : MemStore F) : Bool × MemStore F :=
  match store.autoReq.lookup request.requestID with
  | some _ => (false, store)
  | none => (true, store.withRequest request message)

/-- The claim on a request is older than the lease. A request without a claim
has the zero time. -/
def leaseOver (id : String) (now : Time) (lease : Duration) : Bool :=
  Time.add ((store.autoClaim.lookup id).getD 0) lease < now

/-- A request that is ready to be worked on. -/
def isDue
    (now : Time)
    (lease : Duration)
    (id : String)
    (request : AutomationRequest) : Bool :=
  match request.status with
  | .pending => request.notBefore ≤ now
  | .approved => true
  | .executing => store.leaseOver id now lease
  | _ => false

/-- The loop of `DueAutomation`, which stops when it has found enough. -/
def dueLoop (store : MemStore F) (now : Time) (lease : Duration) (limit : ℤ) :
    List String → List AutomationRequest → List AutomationRequest
  | [], found => found
  | id :: rest, found =>
      match store.autoReq.lookup id with
      | none => dueLoop store now lease limit rest found
      | some request =>
          if store.isDue now lease id request then
            if ((found ++ [request]).length : ℤ) = limit then found ++ [request]
            else dueLoop store now lease limit rest (found ++ [request])
          else dueLoop store now lease limit rest found

/-- `DueAutomation`. -/
def dueAutomation (now : Time) (lease : Duration) (limit : ℤ) (store : MemStore F) :
    List AutomationRequest :=
  store.dueLoop now lease limit store.autoOrder []

/-- A request in a status in which it can be claimed. -/
def claimable
    (id : String)
    (request : AutomationRequest)
    (now : Time)
    (lease : Duration) : Bool :=
  request.status = .pending || request.status = .approved ||
    (request.status = .executing && store.leaseOver id now lease)

theorem claimable_unsettled
    {store : MemStore F}
    {id : String}
    {request : AutomationRequest}
    {now : Time}
    {lease : Duration}
    (ready : store.claimable id request now lease = true) :
    request.status.terminal = false := by
  cases status : request.status <;> simp_all [claimable, AutomationStatus.terminal]

/-- `ClaimAutomation`. -/
def claimAutomation (id : String) (now : Time) (lease : Duration) (store : MemStore F) :
    Bool × MemStore F :=
  match store.autoReq.lookup id with
  | none => (false, store)
  | some request =>
      if store.claimable id request now lease then (true, store.withClaim id request now)
      else (false, store)

/-- `SetAutomationStatus`: move a request out of one of some statuses. -/
def setAutomationStatus
    (id : String)
    (sources : List AutomationStatus)
    (status : AutomationStatus)
    (store : MemStore F) : Bool × MemStore F :=
  match store.autoReq.lookup id with
  | none => (false, store)
  | some request =>
      if request.status ∈ sources then (true, store.withStatus id request status)
      else (false, store)

/-- `ApproveAutomation`. -/
def approveAutomation (id by_ : String) (store : MemStore F) : Bool × MemStore F :=
  match store.autoReq.lookup id with
  | none => (false, store)
  | some request =>
      if request.status = .awaitingApproval then (true, store.withApproval id request by_)
      else (false, store)

/-- `CompleteAutomation`. -/
def completeAutomation
    (result : AutomationResult)
    (message : OutboxMessage)
    (store : MemStore F) : Except Error Bool × MemStore F :=
  match store.autoReq.lookup result.requestID with
  | none =>
      (.error (Error.errorf .permanent ("unknown automation request " ++ result.requestID)),
        store)
  | some request =>
      match store.autoRes.lookup result.requestID with
      | some _ => (.ok false, store)
      | none => (.ok true, store.withResult request result message)

/-- The stored requests in the order of their creation. -/
def requests : List (String × AutomationRequest) :=
  store.autoOrder.filterMap fun id => (store.autoReq.lookup id).map fun request => (id, request)

/-- `AwaitingApprovalBefore`. -/
def awaitingApprovalBefore (cutoff : Time) (store : MemStore F) : List AutomationRequest :=
  (store.requests.filter fun entry =>
    entry.2.status = .awaitingApproval && entry.2.createdAt < cutoff).map Prod.snd

/-- A request of a policy, device and target that was executed and finished at an
instant or later. -/
def executedSince
    (policyID deviceID target : String)
    (since : Time)
    (entry : String × AutomationRequest) : Bool :=
  entry.2.policyID = policyID && entry.2.deviceID = deviceID && entry.2.target = target &&
    entry.2.status.executed &&
    (store.autoRes.lookup entry.1).any fun result => since ≤ result.finishedAt

/-- `AutomationHistory`. -/
def automationHistory
    (policyID deviceID target : String)
    (since : Time)
    (store : MemStore F) : List AutomationRequest :=
  (store.requests.filter (store.executedSince policyID deviceID target since)).map Prod.snd

/-- `AttemptsForAlert`. -/
def attemptsForAlert (policyID alertKey : String) (store : MemStore F) : ℕ :=
  (store.autoReq.toSortedList.filter fun entry =>
    entry.2.policyID = policyID && entry.2.alertKey = alertKey &&
      entry.2.status.executed).length

/-- `AlertFiring`. -/
def alertFiring (alertKey : String) (store : MemStore F) : Bool :=
  store.alerts.any (Alert.fires alertKey)

end MemStore

/-! ## The interface -/

/-- The operations of `AutomationStore`. -/
inductive AutomationOp
  | insertAutomationRequest (request : AutomationRequest) (message : OutboxMessage)
  | dueAutomation (now : Time) (lease : Duration) (limit : ℤ)
  | claimAutomation (id : String) (now : Time) (lease : Duration)
  | setAutomationStatus
      (id : String)
      (sources : List AutomationStatus)
      (status : AutomationStatus)
  | approveAutomation (id by_ : String)
  | completeAutomation (result : AutomationResult) (message : OutboxMessage)
  | awaitingApprovalBefore (cutoff : Time)
  | automationHistory (policyID deviceID target : String) (since : Time)
  | attemptsForAlert (policyID alertKey : String)
  | alertFiring (alertKey : String)

namespace AutomationOp

variable {F : Type}

/-- What an operation returns when it does not fail. -/
@[reducible] def Answer : AutomationOp → Type
  | .dueAutomation .. | .awaitingApprovalBefore _ | .automationHistory .. =>
      List AutomationRequest
  | .attemptsForAlert .. => ℕ
  | _ => Bool

/-- What an operation does when the store can be reached. -/
def perform : (op : AutomationOp) → MemStore F → Except Error op.Answer × MemStore F
  | .insertAutomationRequest request message, store =>
      let (inserted, store) := store.insertAutomationRequest request message
      (.ok inserted, store)
  | .dueAutomation now lease limit, store => (.ok (store.dueAutomation now lease limit), store)
  | .claimAutomation id now lease, store =>
      let (claimed, store) := store.claimAutomation id now lease
      (.ok claimed, store)
  | .setAutomationStatus id sources status, store =>
      let (moved, store) := store.setAutomationStatus id sources status
      (.ok moved, store)
  | .approveAutomation id by_, store =>
      let (approved, store) := store.approveAutomation id by_
      (.ok approved, store)
  | .completeAutomation result message, store => store.completeAutomation result message
  | .awaitingApprovalBefore cutoff, store => (.ok (store.awaitingApprovalBefore cutoff), store)
  | .automationHistory policyID deviceID target since, store =>
      (.ok (store.automationHistory policyID deviceID target since), store)
  | .attemptsForAlert policyID alertKey, store =>
      (.ok (store.attemptsForAlert policyID alertKey), store)
  | .alertFiring alertKey, store => (.ok (store.alertFiring alertKey), store)

/-- The operation answered that it wrote to the tables. -/
def Wrote : (op : AutomationOp) → Except Error op.Answer → Prop
  | .insertAutomationRequest .., answer => answer = .ok true
  | .claimAutomation .., answer => answer = .ok true
  | .setAutomationStatus .., answer => answer = .ok true
  | .approveAutomation .., answer => answer = .ok true
  | .completeAutomation .., answer => answer = .ok true
  | _, _ => False

/-- Everything one operation can do to the tables. -/
inductive Effect (store : MemStore F) :
    (op : AutomationOp) → Except Error op.Answer → MemStore F → Prop
  | quiet
      (op : AutomationOp)
      (answer : Except Error op.Answer)
      (silent : ¬op.Wrote answer) :
      Effect store op answer store
  | inserted
      (request : AutomationRequest)
      (message : OutboxMessage)
      (fresh : store.autoReq.lookup request.requestID = none) :
      Effect store (.insertAutomationRequest request message) (.ok true)
        (store.withRequest request message)
  | claimed
      (id : String)
      (now : Time)
      (lease : Duration)
      (request : AutomationRequest)
      (found : store.autoReq.lookup id = some request)
      (ready : store.claimable id request now lease = true) :
      Effect store (.claimAutomation id now lease) (.ok true) (store.withClaim id request now)
  | moved
      (id : String)
      (sources : List AutomationStatus)
      (status : AutomationStatus)
      (request : AutomationRequest)
      (found : store.autoReq.lookup id = some request)
      (listed : request.status ∈ sources) :
      Effect store (.setAutomationStatus id sources status) (.ok true)
        (store.withStatus id request status)
  | approved
      (id by_ : String)
      (request : AutomationRequest)
      (found : store.autoReq.lookup id = some request)
      (waiting : request.status = .awaitingApproval) :
      Effect store (.approveAutomation id by_) (.ok true) (store.withApproval id request by_)
  | completed
      (result : AutomationResult)
      (message : OutboxMessage)
      (request : AutomationRequest)
      (found : store.autoReq.lookup result.requestID = some request)
      (unfinished : store.autoRes.lookup result.requestID = none) :
      Effect store (.completeAutomation result message) (.ok true)
        (store.withResult request result message)

/-- An operation has one of the listed effects. -/
theorem perform_effect (op : AutomationOp) (store : MemStore F) :
    Effect store op (op.perform store).1 (op.perform store).2 := by
  cases op with
  | insertAutomationRequest request message =>
      simp only [perform, MemStore.insertAutomationRequest]
      split
      · exact .quiet _ _ (by simp [Wrote])
      · next fresh => exact .inserted request message fresh
  | claimAutomation id now lease =>
      simp only [perform, MemStore.claimAutomation]
      split
      · exact .quiet _ _ (by simp [Wrote])
      · next request found =>
          split_ifs with ready
          · exact .claimed id now lease request found ready
          · exact .quiet _ _ (by simp [Wrote])
  | setAutomationStatus id sources status =>
      simp only [perform, MemStore.setAutomationStatus]
      split
      · exact .quiet _ _ (by simp [Wrote])
      · next request found =>
          split_ifs with listed
          · exact .moved id sources status request found listed
          · exact .quiet _ _ (by simp [Wrote])
  | approveAutomation id by_ =>
      simp only [perform, MemStore.approveAutomation]
      split
      · exact .quiet _ _ (by simp [Wrote])
      · next request found =>
          split_ifs with waiting
          · exact .approved id by_ request found waiting
          · exact .quiet _ _ (by simp [Wrote])
  | completeAutomation result message =>
      simp only [perform, MemStore.completeAutomation]
      split
      · exact .quiet _ _ (by simp [Wrote])
      · next request found =>
          split
          · exact .quiet _ _ (by simp [Wrote])
          · next unfinished => exact .completed result message request found unfinished
  | dueAutomation now lease limit => exact .quiet _ _ id
  | awaitingApprovalBefore cutoff => exact .quiet _ _ id
  | automationHistory policyID deviceID target since => exact .quiet _ _ id
  | attemptsForAlert policyID alertKey => exact .quiet _ _ id
  | alertFiring alertKey => exact .quiet _ _ id

/-! ## One request -/

/-- The request that an operation writes. -/
def subject : AutomationOp → Option String
  | .insertAutomationRequest request _ => some request.requestID
  | .claimAutomation id _ _ | .setAutomationStatus id _ _ | .approveAutomation id _ => some id
  | .completeAutomation result _ => some result.requestID
  | _ => none

/-- Everything one operation can do to one stored request. -/
inductive Rewrites (store : MemStore F) (id : String) (old : AutomationRequest) :
    (op : AutomationOp) → Except Error op.Answer → AutomationRequest → Prop
  | untouched
      (op : AutomationOp)
      (answer : Except Error op.Answer)
      (elsewhere : op.Wrote answer → op.subject ≠ some id) :
      Rewrites store id old op answer old
  | claimed (now : Time) (lease : Duration) (ready : store.claimable id old now lease = true) :
      Rewrites store id old (.claimAutomation id now lease) (.ok true)
        { old with status := .executing }
  | moved
      (sources : List AutomationStatus)
      (status : AutomationStatus)
      (listed : old.status ∈ sources) :
      Rewrites store id old (.setAutomationStatus id sources status) (.ok true)
        { old with status }
  | approved (by_ : String) (waiting : old.status = .awaitingApproval) :
      Rewrites store id old (.approveAutomation id by_) (.ok true)
        { old with status := .approved, approvedBy := by_ }
  | completed
      (result : AutomationResult)
      (message : OutboxMessage)
      (named : result.requestID = id)
      (unfinished : store.autoRes.lookup id = none) :
      Rewrites store id old (.completeAutomation result message) (.ok true)
        { old with status := result.status }

variable {store after : MemStore F} {op : AutomationOp}
variable {answer : Except Error op.Answer} {id : String} {request : AutomationRequest}

section

variable (effect : op.Effect store answer after)
include effect

theorem Effect.rewrites
    (found : store.autoReq.lookup id = some request) :
    ∃ written, after.autoReq.lookup id = some written ∧
      op.Rewrites store id request answer written := by
  -- The operations that rewrite a request differ only in what they write.
  have rewritten : ∀ key old written, store.autoReq.lookup key = some old →
      op.subject = some key →
      (key = id → old = request → op.Rewrites store id request answer written) →
      ∃ final, (store.autoReq.insert key written).lookup id = some final ∧
        op.Rewrites store id request answer final := by
    intro key old written present named own
    rw [StringMap.lookup_insert_ite]
    split_ifs with same
    · exact ⟨written, rfl, own same.symm (Option.some.inj (by rw [← present, ← same, found]))⟩
    · refine ⟨request, found, .untouched _ _ fun _ other => same ?_⟩
      rw [named] at other
      exact (Option.some.inj other).symm
  cases effect with
  | quiet _ _ silent =>
      exact ⟨request, found, .untouched _ _ fun wrote => absurd wrote silent⟩
  | inserted new message fresh =>
      have other : id ≠ new.requestID := by
        rintro rfl
        simp [fresh] at found
      refine ⟨request, ?_, .untouched _ _ fun _ same => other (Option.some.inj same).symm⟩
      rw [MemStore.withRequest, MemStore.enqueue, StringMap.lookup_insert_ite, if_neg other, found]
  | claimed key now lease old present ready =>
      refine rewritten key old _ present rfl ?_
      rintro rfl rfl
      exact .claimed now lease ready
  | moved key sources status old present listed =>
      refine rewritten key old _ present rfl ?_
      rintro rfl rfl
      exact .moved sources status listed
  | approved key by_ old present waiting =>
      refine rewritten key old _ present rfl ?_
      rintro rfl rfl
      exact .approved by_ waiting
  | completed result message old present unfinished =>
      refine rewritten result.requestID old _ present rfl ?_
      rintro rfl rfl
      exact .completed result message rfl unfinished

theorem Effect.inserted_of_new
    (absent : store.autoReq.lookup id = none)
    (found : after.autoReq.lookup id = some request) :
    request.requestID = id ∧ ∃ message, op = .insertAutomationRequest request message ∧
      HEq answer (Except.ok true : Except Error Bool) := by
  have rewritten : ∀ key old written, store.autoReq.lookup key = some old →
      (store.autoReq.insert key written).lookup id ≠ some request := by
    intro key old written present same
    rw [StringMap.lookup_insert_ite] at same
    split_ifs at same with named
    · rw [named, present] at absent
      cases absent
    · rw [absent] at same
      cases same
  cases effect with
  | quiet =>
      rw [absent] at found
      cases found
  | inserted new message fresh =>
      rw [MemStore.withRequest, MemStore.enqueue, StringMap.lookup_insert_ite] at found
      split_ifs at found with same
      · obtain rfl := Option.some.inj found
        exact ⟨same.symm, message, rfl, HEq.rfl⟩
      · rw [absent] at found
        cases found
  | claimed key now lease old present ready => exact absurd found (rewritten key old _ present)
  | moved key sources status old present listed =>
      exact absurd found (rewritten key old _ present)
  | approved key by_ old present waiting => exact absurd found (rewritten key old _ present)
  | completed result message old present unfinished =>
      exact absurd found (rewritten result.requestID old _ present)

theorem Effect.lookup_elsewhere
    (elsewhere : op.Wrote answer → op.subject ≠ some id) :
    after.autoReq.lookup id = store.autoReq.lookup id := by
  cases found : store.autoReq.lookup id with
  | some old =>
      obtain ⟨written, present, rewrites⟩ := effect.rewrites found
      rw [present]
      cases rewrites with
      | untouched => rfl
      | completed result message named unfinished =>
          exact absurd (congrArg some named) (elsewhere rfl)
      | _ => exact absurd rfl (elsewhere rfl)
  | none =>
      cases present : after.autoReq.lookup id with
      | none => rfl
      | some new =>
          obtain ⟨named, message, rfl, answered⟩ := effect.inserted_of_new found present
          obtain rfl := eq_of_heq answered
          exact absurd (congrArg some named) (elsewhere rfl)

theorem Effect.sameAlerts :
    after.events = store.events ∧ after.alerts = store.alerts := by
  cases effect <;> exact ⟨rfl, rfl⟩

theorem Effect.claims
    (elsewhere : op.Wrote answer → op.subject ≠ some id) :
    after.autoClaim.lookup id = store.autoClaim.lookup id := by
  cases effect with
  | claimed key now lease old present ready =>
      rw [MemStore.withClaim, StringMap.lookup_insert_ite, if_neg]
      rintro rfl
      exact elsewhere rfl rfl
  | _ => rfl

/-- Only completion adds a result, and it never replaces one. -/
theorem Effect.results
    (id : String) :
    after.autoRes.lookup id = store.autoRes.lookup id ∨
      ∃ result message, op = .completeAutomation result message ∧ result.requestID = id ∧
        HEq answer (Except.ok true : Except Error Bool) ∧ store.autoRes.lookup id = none ∧
        after.autoRes.lookup id = some result := by
  cases effect with
  | completed result message old present unfinished =>
      rw [MemStore.withResult, MemStore.enqueue, StringMap.lookup_insert_ite]
      split_ifs with same
      · exact Or.inr ⟨result, message, rfl, same.symm, HEq.rfl, same ▸ unfinished, rfl⟩
      · exact Or.inl rfl
  | _ => exact Or.inl rfl

end

end AutomationOp

/-- The status of a stored request. -/
def MemStore.statusOf {F : Type} (store : MemStore F) (id : String) : Option AutomationStatus :=
  (store.autoReq.lookup id).map AutomationRequest.status

end InfraObserver
