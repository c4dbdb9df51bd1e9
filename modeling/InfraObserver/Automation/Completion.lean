import InfraObserver.Automation.Gates

/-!
# Completion

There is one request for each policy and event, one notification for each stored
request and one for each result, and a request that has its result is never
written again. All of this holds in every interleaving.
-/

namespace InfraObserver

open Interleaving (World Machine)

/-! ## Notifications -/

/-- The row notifies a subject under a message id. -/
def OutboxRow.notifies (subject msgID : String) (row : OutboxRow) : Bool :=
  row.msg.subject = subject && row.msg.msgID = msgID

namespace MemStore

variable {F : Type} {store after : MemStore F}

/-- How many rows of the outbox notify a subject under a message id. -/
def notifications (store : MemStore F) (subject msgID : String) : ℕ :=
  store.outbox.countP (OutboxRow.notifies subject msgID)

theorem notifications_enqueue
    (store : MemStore F)
    (message : OutboxMessage)
    (subject msgID : String) :
    (store.enqueue message).notifications subject msgID =
      store.notifications subject msgID +
        if message.subject = subject ∧ message.msgID = msgID then 1 else 0 := by
  simp [notifications, enqueue, OutboxRow.notifies, List.countP_append, List.countP_singleton]

/-- Every stored request and every result was notified once, and nothing else was
notified in their place. -/
structure Notified (store : MemStore F) : Prop where
  requests : ∀ id, store.notifications subjectAutomationRequest id =
    if (store.autoReq.lookup id).isSome then 1 else 0
  results : ∀ id, store.notifications subjectAutomationResult (id ++ ".result") =
    if (store.autoRes.lookup id).isSome then 1 else 0

namespace Notified

theorem new : Notified (MemStore.new : MemStore F) :=
  ⟨by simp [MemStore.new, notifications], by simp [MemStore.new, notifications]⟩

theorem one_more
    {V : Type}
    {entries : StringMap V}
    {key wanted : String}
    {count : ℕ}
    {notifies : Prop}
    [Decidable notifies]
    (fresh : entries.lookup key = none)
    (value : V)
    (before : count = if (entries.lookup wanted).isSome then 1 else 0)
    (exact_ : notifies ↔ wanted = key) :
    (count + if notifies then 1 else 0) =
      if ((entries.insert key value).lookup wanted).isSome then 1 else 0 := by
  rw [StringMap.lookup_insert_ite]
  by_cases same : wanted = key
  · subst same
    rw [before, fresh, if_pos (exact_.mpr rfl), if_pos rfl]
    rfl
  · rw [if_neg same, if_neg fun named => same (exact_.mp named), Nat.add_zero]
    exact before

theorem of_tables
    (notified : store.Notified)
    {rows : List OutboxRow}
    (outbox : after.outbox = store.outbox ++ rows)
    (foreign : ∀ row ∈ rows, row.msg.subject ≠ subjectAutomationRequest ∧
      row.msg.subject ≠ subjectAutomationResult)
    (autoReq : after.autoReq = store.autoReq)
    (autoRes : after.autoRes = store.autoRes) :
    after.Notified := by
  have same : ∀ subject msgID, subject = subjectAutomationRequest ∨
      subject = subjectAutomationResult →
      after.notifications subject msgID = store.notifications subject msgID := by
    intro subject msgID known
    rw [notifications, outbox, List.countP_append, ← notifications, Nat.add_eq_left,
      List.countP_eq_zero]
    intro row member
    have other := foreign row member
    rcases known with rfl | rfl <;> simp [OutboxRow.notifies, other.1, other.2]
  constructor
  · intro id
    rw [same _ _ (Or.inl rfl), autoReq]
    exact notified.requests id
  · intro id
    rw [same _ _ (Or.inr rfl), autoRes]
    exact notified.results id

theorem rewritten
    (notified : store.Notified)
    {id : String}
    {old written : AutomationRequest}
    (found : store.autoReq.lookup id = some old)
    (autoReq : after.autoReq = store.autoReq.insert id written)
    (outbox : after.outbox = store.outbox)
    (autoRes : after.autoRes = store.autoRes) :
    after.Notified := by
  constructor
  · intro id'
    rw [notifications, outbox, ← notifications, notified.requests, autoReq,
      StringMap.isSome_lookup_insert found]
  · intro id'
    rw [notifications, outbox, ← notifications, notified.results, autoRes]

theorem effect [Platform]
    (notified : store.Notified)
    {engine : Engine}
    {view : View}
    {op : AutomationOp}
    {answer : Except Error op.Answer}
    (may : view.MayIssue engine op)
    (effect : op.Effect store answer after) :
    after.Notified := by
  have different : subjectAutomationRequest ≠ subjectAutomationResult := by decide
  cases effect with
  | quiet => exact notified
  | claimed id now lease request found ready => exact notified.rewritten found rfl rfl rfl
  | moved id sources status request found listed => exact notified.rewritten found rfl rfl rfl
  | approved id by_ request found waiting => exact notified.rewritten found rfl rfl rfl
  | inserted request message fresh =>
      obtain ⟨_, subject, msgID, _⟩ := may
      constructor
      · intro id
        rw [withRequest, notifications_enqueue, subject, msgID]
        refine one_more fresh request (notified.requests id) ?_
        simp only [true_and, eq_comm]
      · intro id
        rw [withRequest, notifications_enqueue, subject, if_neg fun same => different same.1]
        exact notified.results id
  | completed result message request found unfinished =>
      obtain ⟨subject, msgID, _⟩ := may
      let rewritten : MemStore F := { store with
        autoReq := store.autoReq.insert result.requestID { request with status := result.status } }
      have reworded : rewritten.Notified := notified.rewritten found rfl rfl rfl
      constructor
      · intro id
        rw [withResult, notifications_enqueue, subject, if_neg fun same => different same.1.symm]
        exact reworded.requests id
      · intro id
        rw [withResult, notifications_enqueue, subject, msgID]
        refine one_more unfinished result (notified.results id) ?_
        simp only [true_and, String.append_left_inj, eq_comm]

end Notified

end MemStore

/-! ## Reachable worlds -/

/-- The entry wrote a request. -/
def Writes {F : Type} [Platform] (id : String) : EngineEntry F → Prop
  | ⟨_, _, .store op, answer, _⟩ => op.Wrote answer ∧ op.subject = some id
  | _ => False

section Reachable

variable {F : Type} [GoFloat F] [Platform]
variable {engine : Engine} {clock : Time} {config : Config}
variable {allowed : EngineWorld F → EngineAction F → Prop} {world later : EngineWorld F}

section

variable (reached : (system F engine).Reaches allowed (fresh F clock config) world)
include reached

theorem notified_of_reaches :
    world.shared.store.Notified := by
  refine reached.invariant .new ?_
  intro world action after reached notified _ moves
  cases Advance.of_moves moves with
  | stored thread choice call op rest answer store running effect answered =>
      exact notified.effect (mayIssue_of_reaches reached running) effect
  | processed processor attempt sample =>
      refine processor.process_preserves MemStore.Notified ?_ ?_ attempt sample notified
      · intro store after same notified
        have outbox : after.outbox = store.outbox ++ [] := by rw [same.outbox, List.append_nil]
        exact notified.of_tables outbox (by simp) same.autoReq same.autoRes
      · intro event store after noted notified
        obtain ⟨rows, outbox, events⟩ := noted.outbox
        refine notified.of_tables outbox ?_ noted.autoReq noted.autoRes
        intro row member
        rcases events row member with subject | subject <;> rw [subject] <;> decide
  | _ => exact notified

theorem requestID_of_reaches
    {id : String}
    {request : AutomationRequest}
    (found : world.shared.store.autoReq.lookup id = some request) :
    id = requestID request.policyID request.eventID := by
  obtain ⟨event, policy, ⟨original, core, drafted, _⟩, _⟩ :=
    (ledger_of_reaches reached).created id request found
  have keyed := (wellFormed_of_reaches reached).keyed id request found
  calc
    id = request.core.requestID := keyed.symm
    _ = original.core.requestID := by rw [core]
    _ = requestID policy.id event.eventID := drafted.ids.1
    _ = requestID original.core.policyID original.core.eventID :=
      congrArg₂ requestID drafted.ids.2.1.symm drafted.ids.2.2.symm
    _ = requestID request.policyID request.eventID := by rw [core]; rfl

theorem finished_unwritten
    {thread : ℕ}
    {call : EngineCall}
    {op : AutomationOp}
    {rest : Except Error op.Answer → EngineM Unit}
    {answer : Except Error op.Answer}
    {store : MemStore F}
    (running : world.threads[thread]? = some ⟨call, .call (.store op) rest⟩)
    (effect : op.Effect world.shared.store answer store)
    {id : String}
    {result : AutomationResult}
    (finished : world.shared.store.autoRes.lookup id = some result) :
    op.Wrote answer → op.subject ≠ some id := by
  have may := mayIssue_of_reaches reached running
  obtain ⟨_, terminal, request, found, status⟩ :=
    (ledger_of_reaches reached).final id result finished
  obtain ⟨written, _, rewrites⟩ := effect.rewrites found
  rw [← status] at terminal
  cases rewrites with
  | untouched _ _ elsewhere => exact elsewhere
  | claimed now lease ready =>
      rw [MemStore.claimable_unsettled ready] at terminal
      cases terminal
  | moved sources status listed =>
      obtain ⟨rfl, _⟩ := may
      rw [List.mem_singleton.mp listed] at terminal
      cases terminal
  | approved by_ waiting =>
      rw [waiting] at terminal
      cases terminal
  | completed outcome message named unfinished =>
      rw [unfinished] at finished
      cases finished

theorem finished_onward
    (onward : (system F engine).Reaches allowed world later)
    {id : String}
    {result : AutomationResult}
    (finished : world.shared.store.autoRes.lookup id = some result) :
    later.shared.store.autoRes.lookup id = some result ∧
      ∃ newer, later.trace = newer ++ world.trace ∧ ∀ entry ∈ newer, ¬Writes id entry := by
  refine onward.invariant ⟨finished, [], rfl, by simp⟩ ?_
  rintro later action after onward ⟨still, newer, trace, silent⟩ _ moves
  have whole := reached.trans onward
  cases Advance.of_moves moves with
  | stored thread choice call op rest answer store running effect answered =>
      have unwritten := finished_unwritten whole running effect still
      refine ⟨?_, ⟨thread, call, .store op, answer, later.shared⟩ :: newer, ?_, ?_⟩
      · rcases effect.results id with same | ⟨_, _, _, _, _, unfinished, _⟩
        · exact same.trans still
        · rw [unfinished] at still
          cases still
      · exact congrArg (List.cons _) trace
      · intro entry member
        rcases List.mem_cons.mp member with rfl | old
        · rintro ⟨wrote, subject⟩
          exact unwritten wrote subject
        · exact silent entry old
  | asked thread choice call op rest answer running other answered =>
      refine ⟨still, ⟨thread, call, op, answer, later.shared⟩ :: newer, ?_, ?_⟩
      · exact congrArg (List.cons _) trace
      · intro entry member
        rcases List.mem_cons.mp member with rfl | old
        · cases op with
          | store operation => exact absurd rfl (other operation)
          | _ => exact not_false
        · exact silent entry old
  | processed processor attempt sample =>
      have same := processor.process_sameRequests attempt sample later.shared.store
      exact ⟨same.autoRes ▸ still, newer, trace, silent⟩
  | _ => exact ⟨still, newer, trace, silent⟩

end

/-- Completed requests are final and notified once: there is one request for a
policy and an event, one notification for a stored request and one for a result,
and from a result on the request keeps the status of the result, the result
stays, and nothing writes the request. -/
theorem completed_final_notified_once
    (reached : (system F engine).Reaches Machine.anyAction (fresh F clock config) world)
    (onward : (system F engine).Reaches Machine.anyAction world later) :
    (∀ id id' request request', world.shared.store.autoReq.lookup id = some request →
        world.shared.store.autoReq.lookup id' = some request' →
        request.policyID = request'.policyID → request.eventID = request'.eventID → id = id') ∧
      (∀ id, world.shared.store.notifications subjectAutomationRequest id =
        if (world.shared.store.autoReq.lookup id).isSome then 1 else 0) ∧
      (∀ id, world.shared.store.notifications subjectAutomationResult (id ++ ".result") =
        if (world.shared.store.autoRes.lookup id).isSome then 1 else 0) ∧
      ∀ id result, world.shared.store.autoRes.lookup id = some result →
        later.shared.store.autoRes.lookup id = some result ∧
          (∃ request, later.shared.store.autoReq.lookup id = some request ∧
            request.status = result.status) ∧
          ∃ newer, later.trace = newer ++ world.trace ∧ ∀ entry ∈ newer, ¬Writes id entry := by
  have notified := notified_of_reaches reached
  refine ⟨?_, notified.requests, notified.results, ?_⟩
  · intro id id' request request' found found' policy event
    rw [requestID_of_reaches reached found, requestID_of_reaches reached found', policy, event]
  · intro id result finished
    obtain ⟨still, unwritten⟩ := finished_onward reached onward finished
    obtain ⟨_, _, settled⟩ := (ledger_of_reaches (reached.trans onward)).final id result still
    exact ⟨still, settled, unwritten⟩

end Reachable

end InfraObserver

/-! ## A bounced interface -/

namespace InfraObserver

open Interleaving (World Machine)

attribute [local instance] Platform.plain GoFloat.integer

/-- The bounce of the interface is final: the event is delivered again, a second
worker runs and somebody approves, and nothing happens to the request. -/
theorem bounce_final :
    let world := (system ℤ plainEngine).run (fresh ℤ 10 (bounceConfig false))
      (switchGoesDown ++ .start .tick :: steps 1 15)
    let later := (system ℤ plainEngine).run world (.start (.handleEvent switchDown) :: steps 2 4 ++
      .start .tick :: steps 3 3 ++ .start (.approve bounceID "operator") :: steps 4 1)
    world.shared.store.notifications subjectAutomationResult (bounceID ++ ".result") = 1 ∧
      ∃ result, world.shared.store.autoRes.lookup bounceID = some result ∧
        later.shared.store.autoRes.lookup bounceID = some result ∧
        ∃ newer, later.trace = newer ++ world.trace ∧ ∀ entry ∈ newer, ¬Writes bounceID entry := by
  intro world later
  have reached : (system ℤ plainEngine).Reaches Machine.anyAction
      (fresh ℤ 10 (bounceConfig false)) world := Machine.reaches_anyRun _
  have onward : (system ℤ plainEngine).Reaches Machine.anyAction world later :=
    Machine.reaches_anyRun _
  have finished : (world.shared.store.autoRes.lookup bounceID).isSome = true := by decide +kernel
  obtain ⟨_, _, results, final⟩ := completed_final_notified_once reached onward
  obtain ⟨result, found⟩ := Option.isSome_iff_exists.mp finished
  obtain ⟨still, _, unwritten⟩ := final bounceID result found
  exact ⟨(results bounceID).trans (if_pos finished), result, found, still, unwritten⟩

end InfraObserver
