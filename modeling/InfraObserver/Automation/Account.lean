import InfraObserver.Automation.Engine

/-!
# What handling an event comes to

`Account` is the abstract state that the deliveries of an event work on: the
tables of requests, results and notifications without their timestamps. A `Plan`
is what one policy asks for. Carrying out plans is idempotent: a plan whose
request is filed changes nothing.
-/

namespace InfraObserver

/-! ## Tables without timestamps -/

/-- A request without the instants that depend on when it was recorded. -/
def AutomationRequest.untimed (request : AutomationRequest) : AutomationRequest :=
  { request with
    createdAt := 0
    notBefore := if request.status = .denied then 0 else request.notBefore }

/-- A result without its instants. -/
def AutomationResult.untimed (result : AutomationResult) : AutomationResult :=
  { result with startedAt := 0, finishedAt := 0 }

/-- What a row of the outbox says, up to timestamps. -/
inductive Notice
  | kept (row : OutboxRow)
  | request (id : ℕ) (request : AutomationRequest)
  | result (id : ℕ) (result : AutomationResult)

/-- The row says what the notice says. -/
def Notice.Shows [Platform] : Notice → OutboxRow → Prop
  | .kept old, row => row = old
  | .request id drafted, row =>
      ∃ request message, request.untimed = drafted ∧ requestMessage request = .ok message ∧
        row = ⟨{ message with id }, false⟩
  | .result id drafted, row =>
      ∃ result message, result.untimed = drafted ∧ resultMessage result = .ok message ∧
        row = ⟨{ message with id }, false⟩

/-- The tables that `HandleEvent` writes, without timestamps. -/
structure Account where
  requests : String → Option AutomationRequest
  results : String → Option AutomationResult
  order : List String
  notices : List Notice
  count : ℕ

/-- The store holds what the account says. -/
structure Account.Fits {F : Type} [Platform] (account : Account) (store : MemStore F) :
    Prop where
  requests : ∀ id, account.requests id =
    (store.autoReq.lookup id).map AutomationRequest.untimed
  results : ∀ id, account.results id =
    (store.autoRes.lookup id).map AutomationResult.untimed
  order : account.order = store.autoOrder
  notices : List.Forall₂ Notice.Shows account.notices store.outbox
  count : account.count = store.nextOutbox

/-- The tables of a store without their timestamps. -/
def MemStore.account {F : Type} (store : MemStore F) : Account where
  requests id := (store.autoReq.lookup id).map AutomationRequest.untimed
  results id := (store.autoRes.lookup id).map AutomationResult.untimed
  order := store.autoOrder
  notices := store.outbox.map .kept
  count := store.nextOutbox

theorem MemStore.account_fits {F : Type} [Platform] (store : MemStore F) :
    store.account.Fits store := by
  refine ⟨fun _ => rfl, fun _ => rfl, rfl, ?_, rfl⟩
  rw [MemStore.account, List.forall₂_map_left_iff]
  exact List.forall₂_same.mpr fun _ _ => rfl

/-- Two stores hold the same requests, results and notifications, up to
timestamps. -/
def SameAccount {F : Type} [Platform] (left right : MemStore F) : Prop :=
  ∃ account : Account, account.Fits left ∧ account.Fits right

/-! ## What a policy asks for -/

/-- What handling an event does for one policy, whenever it happens. -/
inductive Plan
  | stuck
  | nothing
  | submit (request : AutomationRequest) (denied : Option AutomationResult)

namespace Plan

/-- The handling of the event ends with the plan. -/
def isStuck : Plan → Bool
  | .stuck => true
  | _ => false

/-- The request that the plan files. -/
def requestID : Plan → Option String
  | .submit request _ => some request.requestID
  | _ => none

/-- A denial is the result of its request. -/
def Sound : Plan → Prop
  | .submit request (some denial) =>
      denial.requestID = request.requestID ∧ denial.status = .denied
  | _ => True

/-- The plans before the first one that is stuck. -/
def firm (plans : List Plan) : List Plan :=
  plans.takeWhile fun plan => !plan.isStuck

theorem firm_cons
    {plan : Plan}
    {plans : List Plan}
    (free : plan ≠ .stuck) :
    firm (plan :: plans) = plan :: firm plans := by
  have unstuck : plan.isStuck = false := by
    cases plan with
    | stuck => exact absurd rfl free
    | _ => rfl
  simp [firm, unstuck]

theorem firm_append
    {before : List Plan}
    (rest : List Plan)
    (free : ∀ plan ∈ before, plan ≠ .stuck) :
    firm (before ++ rest) = before ++ firm rest := by
  induction before with
  | nil => rfl
  | cons plan others ih =>
      rw [List.forall_mem_cons] at free
      rw [List.cons_append, firm_cons free.1, ih free.2, List.cons_append]

end Plan

namespace Account

variable (account : Account)

/-- A new request and its notification. -/
def file (request : AutomationRequest) : Account where
  requests := Function.update account.requests request.requestID (some request)
  results := account.results
  order := account.order ++ [request.requestID]
  notices := account.notices ++ [.request (account.count + 1) request]
  count := account.count + 1

/-- A result and its notification, unless there is a result. -/
def settle (result : AutomationResult) : Account :=
  if (account.results result.requestID).isSome then account
  else
    { account with
      results := Function.update account.results result.requestID (some result)
      notices := account.notices ++ [.result (account.count + 1) result]
      count := account.count + 1 }

/-- Carry out a plan, unless that was done before. -/
def apply : Plan → Account
  | .submit request denied =>
      if (account.requests request.requestID).isSome then account
      else
        match denied with
        | none => account.file request
        | some result => (account.file request).settle result
  | _ => account

/-- Carry out plans in order. -/
def applyAll (plans : List Plan) : Account :=
  plans.foldl apply account

/-- The plan needs nothing more. -/
def Done : Plan → Prop
  | .submit request _ => (account.requests request.requestID).isSome = true
  | _ => True

theorem apply_of_done
    {account : Account}
    {plan : Plan}
    (done : account.Done plan) :
    account.apply plan = account := by
  cases plan with
  | submit request denied => exact if_pos done
  | _ => rfl

theorem settle_requests (result : AutomationResult) :
    (account.settle result).requests = account.requests := by
  unfold settle
  split_ifs <;> rfl

theorem apply_requests (plan : Plan) (id : String) :
    (account.requests id).isSome = true → ((account.apply plan).requests id).isSome = true := by
  intro stored
  have filed : ∀ request : AutomationRequest,
      ((account.file request).requests id).isSome = true := by
    intro request
    by_cases same : id = request.requestID
    · subst same
      simp [file]
    · simpa [file, Function.update_of_ne same] using stored
  cases plan with
  | submit request denied =>
      simp only [apply]
      split_ifs
      · exact stored
      · cases denied with
        | none => exact filed request
        | some result =>
            simp only [settle_requests]
            exact filed request
  | _ => exact stored

theorem done_apply (plan : Plan) : (account.apply plan).Done plan := by
  cases plan with
  | submit request denied =>
      simp only [Done, apply]
      split_ifs with before
      · exact before
      · cases denied <;> simp [file, settle_requests]
  | _ => trivial

theorem Done.later
    {account : Account}
    {plan : Plan}
    (done : account.Done plan)
    (plans : List Plan) :
    (account.applyAll plans).Done plan := by
  induction plans generalizing account with
  | nil => exact done
  | cons next rest ih =>
      refine ih ?_
      cases plan with
      | submit request denied => exact apply_requests account next _ done
      | _ => trivial

theorem done_applyAll (plans : List Plan) :
    ∀ plan ∈ plans, (account.applyAll plans).Done plan := by
  induction plans generalizing account with
  | nil => simp
  | cons next rest ih =>
      intro plan member
      rcases List.mem_cons.mp member with rfl | later
      · exact (done_apply account plan).later rest
      · exact ih (account.apply next) plan later

theorem applyAll_of_done
    {account : Account}
    {plans : List Plan}
    (done : ∀ plan ∈ plans, account.Done plan) :
    account.applyAll plans = account := by
  induction plans with
  | nil => rfl
  | cons next rest ih =>
      rw [applyAll, List.foldl_cons, apply_of_done (done next (List.mem_cons_self ..))]
      exact ih fun plan member => done plan (List.mem_cons_of_mem _ member)

theorem apply_apart
    {plan : Plan}
    {id : String}
    (sound : plan.Sound)
    (apart : plan.requestID ≠ some id) :
    (account.apply plan).requests id = account.requests id ∧
      (account.apply plan).results id = account.results id := by
  cases plan with
  | submit request denied =>
      have other : id ≠ request.requestID := fun same => apart (by rw [same]; rfl)
      simp only [apply]
      split_ifs
      · exact ⟨rfl, rfl⟩
      · cases denied with
        | none => exact ⟨Function.update_of_ne other _ _, rfl⟩
        | some result =>
            refine ⟨?_, ?_⟩
            · simp only [settle_requests]
              exact Function.update_of_ne other _ _
            · dsimp only
              unfold settle
              split_ifs
              · rfl
              · exact Function.update_of_ne (sound.1 ▸ other) _ _
  | _ => exact ⟨rfl, rfl⟩

theorem applyAll_result
    (plans : List Plan)
    {id : String}
    {result : AutomationResult}
    (recorded : account.results id = some result) :
    (account.applyAll plans).results id = some result := by
  induction plans generalizing account with
  | nil => exact recorded
  | cons plan rest ih =>
      refine ih (account.apply plan) ?_
      cases plan with
      | submit request denied =>
          simp only [apply]
          split_ifs
          · exact recorded
          · cases denied with
            | none => exact recorded
            | some denial =>
                dsimp only
                unfold settle
                split_ifs with settled
                · exact recorded
                · have other : id ≠ denial.requestID := by
                    rintro rfl
                    exact settled (by simp [file, recorded])
                  exact (Function.update_of_ne other _ _).trans recorded
      | _ => exact recorded

theorem applyAll_denied
    {before : List Plan}
    {request : AutomationRequest}
    {denial : AutomationResult}
    (rest : List Plan)
    (sound : ∀ plan ∈ before ++ .submit request (some denial) :: rest, plan.Sound)
    (apart : ∀ plan ∈ before, plan.requestID ≠ some request.requestID)
    (unfiled : account.requests request.requestID = none)
    (unsettled : account.results request.requestID = none) :
    (account.applyAll (before ++ .submit request (some denial) :: rest)).results
      request.requestID = some denial := by
  induction before generalizing account with
  | nil =>
      have same : denial.requestID = request.requestID :=
        (sound _ (List.mem_cons_self ..)).1
      refine applyAll_result (account.apply (.submit request (some denial))) rest ?_
      simp [apply, unfiled, settle, file, same, unsettled]
  | cons plan others ih =>
      rw [List.forall_mem_cons] at apart
      rw [List.cons_append, List.forall_mem_cons] at sound
      obtain ⟨requests, results⟩ := account.apply_apart sound.1 apart.1
      exact ih (account.apply plan) sound.2 apart.2
        (requests.trans unfiled) (results.trans unsettled)

theorem applyAll_applyAll
    {first second : List Plan}
    (related : first <+: second ∨ second <+: first) :
    ∃ longer, (longer = first ∨ longer = second) ∧ first <+: longer ∧ second <+: longer ∧
      (account.applyAll first).applyAll second = account.applyAll longer := by
  rcases related with ⟨rest, rfl⟩ | ⟨rest, rfl⟩
  · refine ⟨first ++ rest, Or.inr rfl, List.prefix_append .., List.prefix_refl _, ?_⟩
    have again := applyAll_of_done (done_applyAll account first)
    simp only [applyAll, List.foldl_append] at again ⊢
    rw [again]
  · refine ⟨second ++ rest, Or.inl rfl, List.prefix_refl _, List.prefix_append .., ?_⟩
    exact applyAll_of_done fun plan member =>
      done_applyAll account (second ++ rest) plan (List.mem_append_left _ member)

end Account

end InfraObserver
