import InfraObserver.Automation.System

/-!
# The request tables over whole runs

A stored request keeps everything but its status and its approver, a snapshot
that a call works from is a snapshot of a stored request, and an approver in a
request or a snapshot was recorded by an approval. These facts hold in every
interleaving.
-/

namespace InfraObserver

/-- The part of a request that never changes. -/
def AutomationRequest.core (request : AutomationRequest) : AutomationRequest :=
  { request with status := .pending, approvedBy := "" }

theorem AutomationRequest.requestID_of_core
    {left right : AutomationRequest}
    (same : left.core = right.core) :
    left.requestID = right.requestID := by
  change left.core.requestID = right.core.requestID
  rw [same]

theorem AutomationRequest.notBefore_of_core
    {left right : AutomationRequest}
    (same : left.core = right.core) :
    left.notBefore = right.notBefore := by
  change left.core.notBefore = right.core.notBefore
  rw [same]

namespace AutomationOp

variable {F : Type} {store after : MemStore F} {op : AutomationOp}
variable {answer : Except Error op.Answer} {id : String}

theorem Rewrites.core
    {old written : AutomationRequest}
    (rewrites : op.Rewrites store id old answer written) :
    written.core = old.core ∧ (written.approvedBy = old.approvedBy ∨
      op = .approveAutomation id written.approvedBy ∧
        HEq answer (Except.ok true : Except Error Bool)) := by
  cases rewrites with
  | approved by_ waiting => exact ⟨rfl, Or.inr ⟨rfl, HEq.rfl⟩⟩
  | _ => exact ⟨rfl, Or.inl rfl⟩

theorem Effect.core_kept
    (effect : op.Effect store answer after)
    {request : AutomationRequest}
    (found : store.autoReq.lookup id = some request) :
    ∃ kept, after.autoReq.lookup id = some kept ∧ kept.core = request.core := by
  obtain ⟨written, present, rewrites⟩ := effect.rewrites found
  exact ⟨written, present, rewrites.core.1⟩

theorem Effect.lookup_after
    (effect : op.Effect store answer after)
    {request : AutomationRequest}
    (found : after.autoReq.lookup id = some request) :
    (∃ old, store.autoReq.lookup id = some old ∧ op.Rewrites store id old answer request) ∨
      ∃ message, op = .insertAutomationRequest request message ∧
        HEq answer (Except.ok true : Except Error Bool) := by
  cases present : store.autoReq.lookup id with
  | none => exact Or.inr (effect.inserted_of_new present found).2
  | some old =>
      obtain ⟨written, stored, rewrites⟩ := effect.rewrites present
      obtain rfl : written = request := by simpa [stored] using found
      exact Or.inl ⟨old, rfl, rewrites⟩

/-- What the protocol allows never takes a request out of a final status. -/
theorem Rewrites.unsettled [Platform]
    {engine : Engine}
    {view : View}
    (may : view.MayIssue engine op)
    {id : String}
    {old written : AutomationRequest}
    (rewrites : op.Rewrites store id old answer written)
    (unsettled : written.status.terminal = false) :
    old.status.terminal = false := by
  cases rewrites with
  | untouched => exact unsettled
  | claimed now lease ready => exact MemStore.claimable_unsettled ready
  | moved sources status listed =>
      obtain ⟨rfl, _⟩ := may
      rw [List.mem_singleton.mp listed]
      rfl
  | approved by_ waiting =>
      rw [waiting]
      rfl
  | completed result message named unfinished =>
      rw [show result.status.terminal = true from may.2.2.terminal] at unsettled
      cases unsettled

end AutomationOp

namespace MemStore

variable {F : Type}

/-! ## Well-formed tables -/

/-- Every request is stored under its own id and listed once. -/
structure WellFormed (store : MemStore F) : Prop where
  keyed : ∀ id request, store.autoReq.lookup id = some request → request.requestID = id
  ordered : ∀ id ∈ store.autoOrder, (store.autoReq.lookup id).isSome = true
  listed : ∀ id, (store.autoReq.lookup id).isSome = true → id ∈ store.autoOrder
  distinct : store.autoOrder.Nodup

namespace WellFormed

variable {store after : MemStore F}

theorem new : WellFormed (MemStore.new : MemStore F) :=
  ⟨by simp [MemStore.new], by simp [MemStore.new], by simp [MemStore.new], by simp [MemStore.new]⟩

theorem of_tables
    (wellFormed : store.WellFormed)
    (autoReq : after.autoReq = store.autoReq)
    (autoOrder : after.autoOrder = store.autoOrder) :
    after.WellFormed :=
  ⟨autoReq ▸ wellFormed.keyed, autoReq ▸ autoOrder ▸ wellFormed.ordered,
    autoReq ▸ autoOrder ▸ wellFormed.listed, autoOrder ▸ wellFormed.distinct⟩

theorem rewritten
    (wellFormed : store.WellFormed)
    {id : String}
    {old written : AutomationRequest}
    (found : store.autoReq.lookup id = some old)
    (autoReq : after.autoReq = store.autoReq.insert id written)
    (core : written.core = old.core)
    (autoOrder : after.autoOrder = store.autoOrder) :
    after.WellFormed := by
  have sameKeys : ∀ other, (after.autoReq.lookup other).isSome =
      (store.autoReq.lookup other).isSome := by
    intro other
    rw [autoReq]
    exact StringMap.isSome_lookup_insert found written other
  refine ⟨?_, ?_, ?_, autoOrder ▸ wellFormed.distinct⟩
  · intro other request lookup
    rw [autoReq, StringMap.lookup_insert_ite] at lookup
    split_ifs at lookup with same
    · obtain rfl := Option.some.inj lookup
      rw [AutomationRequest.requestID_of_core core, same]
      exact wellFormed.keyed id old found
    · exact wellFormed.keyed other request lookup
  · intro other member
    rw [sameKeys]
    exact wellFormed.ordered other (autoOrder ▸ member)
  · intro other stored
    rw [sameKeys] at stored
    exact autoOrder ▸ wellFormed.listed other stored

theorem effect
    (wellFormed : store.WellFormed)
    {op : AutomationOp}
    {answer : Except Error op.Answer}
    (effect : op.Effect store answer after) :
    after.WellFormed := by
  cases effect with
  | quiet => exact wellFormed
  | claimed id now lease request found ready => exact wellFormed.rewritten found rfl rfl rfl
  | moved id sources status request found listed => exact wellFormed.rewritten found rfl rfl rfl
  | approved id by_ request found waiting => exact wellFormed.rewritten found rfl rfl rfl
  | completed result message request found unfinished =>
      exact wellFormed.rewritten found rfl rfl rfl
  | inserted request message fresh =>
      have lookups : ∀ id, (store.withRequest request message).autoReq.lookup id =
          if id = request.requestID then some request else store.autoReq.lookup id :=
        fun id => StringMap.lookup_insert_ite _ _ _ _
      have unlisted : request.requestID ∉ store.autoOrder := by
        intro member
        have stored := wellFormed.ordered _ member
        simp [fresh] at stored
      refine ⟨?_, ?_, ?_, ?_⟩
      · intro id other found
        rw [lookups] at found
        split_ifs at found with same
        · rw [← Option.some.inj found, same]
        · exact wellFormed.keyed id other found
      · intro id member
        rw [lookups]
        split_ifs with same
        · rfl
        · rcases List.mem_append.mp member with old | new
          · exact wellFormed.ordered id old
          · exact absurd (List.mem_singleton.mp new) same
      · intro id stored
        rw [lookups] at stored
        split_ifs at stored with same
        · exact List.mem_append_right _ (List.mem_singleton.mpr same)
        · exact List.mem_append_left _ (wellFormed.listed id stored)
      · have longer := wellFormed.distinct.concat unlisted
        rwa [List.concat_eq_append] at longer

end WellFormed

/-! ## The due requests -/

/-- The due request under an id, if there is one. -/
def dueUnder (store : MemStore F) (now : Time) (lease : Duration) (id : String) :
    Option AutomationRequest :=
  (store.autoReq.lookup id).filter (store.isDue now lease id)

theorem isDue_waited
    {store : MemStore F}
    {now : Time}
    {lease : Duration}
    {id : String}
    {request : AutomationRequest}
    (due : store.isDue now lease id request = true) :
    request.status.terminal = false ∧ (request.status = .pending → request.notBefore ≤ now) := by
  unfold isDue at due
  split at due
  · next pending => exact ⟨by rw [pending]; rfl, fun _ => of_decide_eq_true due⟩
  · next approved => exact ⟨by rw [approved]; rfl, fun pending => by simp [approved] at pending⟩
  · next executing =>
      exact ⟨by rw [executing]; rfl, fun pending => by simp [executing] at pending⟩
  · cases due

theorem dueLoop_sublist
    (store : MemStore F)
    (now : Time)
    (lease : Duration)
    (limit : ℤ)
    (ids : List String)
    (found : List AutomationRequest) :
    ∃ kept, kept.Sublist (ids.filterMap (store.dueUnder now lease)) ∧
      store.dueLoop now lease limit ids found = found ++ kept := by
  induction ids generalizing found with
  | nil => exact ⟨[], List.Sublist.slnil, (List.append_nil _).symm⟩
  | cons id rest ih =>
      unfold dueLoop
      split
      · next missing =>
          obtain ⟨kept, sublist, result⟩ := ih found
          have skipped : store.dueUnder now lease id = none := by simp [dueUnder, missing]
          rw [List.filterMap_cons_none skipped]
          exact ⟨kept, sublist, result⟩
      · next request stored =>
          split_ifs with due enough
          · have taken : store.dueUnder now lease id = some request := by
              simp [dueUnder, stored, due]
            rw [List.filterMap_cons_some taken]
            exact ⟨[request], List.singleton_sublist.mpr (List.mem_cons_self ..), rfl⟩
          · have taken : store.dueUnder now lease id = some request := by
              simp [dueUnder, stored, due]
            obtain ⟨kept, sublist, result⟩ := ih (found ++ [request])
            rw [List.filterMap_cons_some taken]
            exact ⟨request :: kept, sublist.cons_cons _, by rw [result, List.append_assoc]; rfl⟩
          · have skipped : store.dueUnder now lease id = none := by
              simp [dueUnder, stored, due]
            obtain ⟨kept, sublist, result⟩ := ih found
            rw [List.filterMap_cons_none skipped]
            exact ⟨kept, sublist, result⟩

theorem mem_dueAutomation
    {store : MemStore F}
    {now : Time}
    {lease : Duration}
    {limit : ℤ}
    {request : AutomationRequest}
    (member : request ∈ store.dueAutomation now lease limit) :
    ∃ id, store.autoReq.lookup id = some request ∧ store.isDue now lease id request = true := by
  obtain ⟨kept, sublist, result⟩ := store.dueLoop_sublist now lease limit store.autoOrder []
  rw [dueAutomation, result, List.nil_append] at member
  obtain ⟨id, _, taken⟩ := List.mem_filterMap.mp (sublist.subset member)
  exact ⟨id, Option.filter_eq_some_iff.mp taken⟩

theorem WellFormed.due_distinct
    {store : MemStore F}
    (wellFormed : store.WellFormed)
    (now : Time)
    (lease : Duration)
    (limit : ℤ) :
    ((store.dueAutomation now lease limit).map AutomationRequest.requestID).Nodup := by
  obtain ⟨kept, sublist, result⟩ := store.dueLoop_sublist now lease limit store.autoOrder []
  have ids : ∀ order : List String,
      ((order.filterMap (store.dueUnder now lease)).map
        AutomationRequest.requestID).Sublist order := by
    intro order
    induction order with
    | nil => exact List.Sublist.slnil
    | cons id rest ih =>
        cases taken : store.dueUnder now lease id with
        | none =>
            rw [List.filterMap_cons_none taken]
            exact ih.cons _
        | some request =>
            have named := wellFormed.keyed id request (Option.filter_eq_some_iff.mp taken).1
            rw [List.filterMap_cons_some taken, List.map_cons, named]
            exact ih.cons_cons _
  rw [dueAutomation, result, List.nil_append]
  exact wellFormed.distinct.sublist ((sublist.map _).trans (ids _))

end MemStore

/-! ## Reachable worlds -/

section Reachable

open Interleaving (World Machine)

variable {F : Type} [Platform]
variable {engine : Engine} {clock : Time} {config : Config}

/-- What a thread knows about its outcome after a trace. -/
abbrev reportOf (engine : Engine) (call : EngineCall) (thread : ℕ)
    (trace : List (EngineEntry F)) : Report :=
  (reporting engine).viewOf call thread trace

theorem reportOf_view
    (engine : Engine)
    (call : EngineCall)
    (thread : ℕ)
    (trace : List (EngineEntry F)) :
    (reportOf engine call thread trace).view = viewOf engine call thread trace := by
  rw [viewOf, ← (noting_refines_protocol engine).viewOf, reportOf,
    ← (noting_refines_reporting engine).viewOf]

section

variable [GoFloat F]
variable {allowed : EngineWorld F → EngineAction F → Prop} {world : EngineWorld F}
variable (reached : (system F engine).Reaches allowed (fresh F clock config) world)
include reached

theorem wellFormed_of_reaches :
    world.shared.store.WellFormed := by
  refine reached.invariant .new ?_
  intro world action after _ wellFormed _ moves
  cases Advance.of_moves moves with
  | stored thread choice call op rest answer store running effect answered =>
      exact wellFormed.effect effect
  | processed processor attempt sample =>
      have same := processor.process_sameRequests attempt sample world.shared.store
      exact wellFormed.of_tables same.autoReq same.autoOrder
  | _ => exact wellFormed

theorem rely_of_reaches
    (op : EngineOp)
    (choice : Choice) :
    (protocol engine).rely op (world.shared.respond op choice).1 := by
  cases op with
  | store op =>
      cases op with
      | dueAutomation now lease limit =>
          have distinct := (wellFormed_of_reaches reached).due_distinct now lease limit
          simp only [Shared.respond]
          cases choice.fault with
          | some failure => trivial
          | none => exact distinct
      | _ => trivial
  | _ => trivial

theorem noted_of_reaches :
    (noting engine).Obedient world :=
  Interleaving.Discipline.obedient_of_reaches (fun call => call.program_notes engine)
    (fun _ reached => rely_of_reaches reached) reached

theorem obedient_of_reaches :
    (protocol engine).Obedient world :=
  (noting_refines_protocol engine).obedient (noted_of_reaches reached)

theorem mayRecord_of_reaches
    {thread : ℕ}
    {call : EngineCall}
    {result : AutomationResult}
    {message : OutboxMessage}
    {rest : Except Error Bool → EngineM Unit}
    (running : world.threads[thread]? =
      some ⟨call, .call (.store (.completeAutomation result message)) rest⟩) :
    (reportOf engine call thread world.trace).MayRecord result :=
  ((noting_refines_reporting engine).obedient (noted_of_reaches reached)).pre running

end

/-! ## Snapshots and approvals -/

@[simp] theorem viewOf_call
    (engine : Engine)
    (call : EngineCall)
    (thread : ℕ)
    (trace : List (EngineEntry F)) :
    (viewOf engine call thread trace).call = call :=
  (protocol engine).viewOf_induction call thread (fun view _ => view.call = call) rfl
    (fun view _ op answer _ _ same => (view.observe_call op answer).trans same)
    (fun _ _ _ _ same => same) trace

theorem config_read
    {engine : Engine}
    {call : EngineCall}
    {thread : ℕ}
    {trace : List (EngineEntry F)} :
    ∀ known, (viewOf engine call thread trace).config = some known →
      ∃ reader before, (⟨thread, reader, .config, known, before⟩ : EngineEntry F) ∈ trace := by
  refine (protocol engine).viewOf_induction call thread (fun view trace => ∀ known,
    view.config = some known → ∃ reader before,
      (⟨thread, reader, .config, known, before⟩ : EngineEntry F) ∈ trace) ?_ ?_ ?_ trace
  · intro known impossible
    cases impossible
  · intro view caller op answer before earlier holds known same
    rcases View.observe_config same with old | ⟨rfl, read⟩
    · obtain ⟨reader, shared, member⟩ := holds known old
      exact ⟨reader, shared, List.mem_cons_of_mem _ member⟩
    · obtain rfl := eq_of_heq read
      exact ⟨caller, before, List.mem_cons_self ..⟩
  · intro view entry earlier _ holds known same
    obtain ⟨reader, shared, member⟩ := holds known same
    exact ⟨reader, shared, List.mem_cons_of_mem _ member⟩

/-- An approval by a named person was recorded. -/
def ApprovedIn (trace : List (EngineEntry F)) (id by_ : String) : Prop :=
  Text.blank by_ = false ∧ ∃ thread call before,
    (⟨thread, call, .store (.approveAutomation id by_), .ok true, before⟩ : EngineEntry F) ∈ trace

/-- A call that handled an event stored the request for a policy that the event
triggered. -/
def CreatedFrom
    (trace : List (EngineEntry F))
    (request : AutomationRequest)
    (event : Event)
    (policy : Policy) : Prop :=
  ∃ original : AutomationRequest, original.core = request.core ∧ Drafted original event policy ∧
    ∃ thread message before,
      (⟨thread, .handleEvent event, .store (.insertAutomationRequest original message),
        .ok true, before⟩ : EngineEntry F) ∈ trace ∧
      ∃ reader config device earlier,
        (⟨thread, reader, .config, config, earlier⟩ : EngineEntry F) ∈ trace ∧
          policy ∈ config.policies.matching event device

/-- A request as somebody has read it from the store. -/
def SnapshotOf
    (store : MemStore F)
    (trace : List (EngineEntry F))
    (request : AutomationRequest) : Prop :=
  (∃ stored, store.autoReq.lookup request.requestID = some stored ∧
      stored.core = request.core) ∧
    (request.approvedBy ≠ "" → ApprovedIn trace request.requestID request.approvedBy)

/-- What the tables and the calls know about requests agrees with the trace. -/
structure Ledger (engine : Engine) (store : MemStore F) (trace : List (EngineEntry F)) :
    Prop where
  created : ∀ id request, store.autoReq.lookup id = some request →
    ∃ event policy, CreatedFrom trace request event policy ∧
      (request.status.terminal = false →
        request.notBefore = Time.add event.occurredAt policy.conditions.duration)
  approved : ∀ id request, store.autoReq.lookup id = some request → request.approvedBy ≠ "" →
    ApprovedIn trace id request.approvedBy
  snapshots : ∀ call thread, ∀ request ∈ (viewOf engine call thread trace).snapshots,
    SnapshotOf store trace request
  final : ∀ id result, store.autoRes.lookup id = some result →
    result.requestID = id ∧ result.status.terminal = true ∧
      ∃ request, store.autoReq.lookup id = some request ∧ request.status = result.status

variable {store after : MemStore F} {shared : Shared F} {trace : List (EngineEntry F)}
variable {entry : EngineEntry F} {request : AutomationRequest}

theorem ApprovedIn.later
    {id by_ : String}
    (approved : ApprovedIn trace id by_) :
    ApprovedIn (entry :: trace) id by_ := by
  obtain ⟨named, thread, call, before, member⟩ := approved
  exact ⟨named, thread, call, before, List.mem_cons_of_mem _ member⟩

variable {event : Event} {policy : Policy}

section

variable (created : CreatedFrom trace request event policy)
include created

theorem CreatedFrom.later :
    CreatedFrom (entry :: trace) request event policy := by
  obtain ⟨original, core, drafted, thread, message, before, member, reader, config, device,
    earlier, read, triggered⟩ := created
  exact ⟨original, core, drafted, thread, message, before, List.mem_cons_of_mem _ member, reader,
    config, device, earlier, List.mem_cons_of_mem _ read, triggered⟩

theorem CreatedFrom.of_core
    {other : AutomationRequest}
    (same : request.core = other.core) :
    CreatedFrom trace other event policy := by
  obtain ⟨original, core, rest⟩ := created
  exact ⟨original, core.trans same, rest⟩

theorem CreatedFrom.eventID :
    request.eventID = event.eventID := by
  obtain ⟨original, core, drafted, _⟩ := created
  calc
    request.eventID = request.core.eventID := rfl
    _ = original.core.eventID := by rw [core]
    _ = event.eventID := drafted.ids.2.2

theorem CreatedFrom.alertKey :
    event.alertKey ≠ "" ∧ request.alertKey = event.alertKey := by
  obtain ⟨original, core, drafted, _⟩ := created
  refine ⟨drafted.alertKey.1, ?_⟩
  calc
    request.alertKey = request.core.alertKey := rfl
    _ = original.core.alertKey := by rw [core]
    _ = event.alertKey := drafted.alertKey.2

end

theorem SnapshotOf.later
    (snapshot : SnapshotOf store trace request)
    (kept : ∀ id stored, store.autoReq.lookup id = some stored →
      ∃ later, after.autoReq.lookup id = some later ∧ later.core = stored.core) :
    SnapshotOf after (entry :: trace) request := by
  obtain ⟨⟨stored, found, core⟩, approved⟩ := snapshot
  obtain ⟨later, still, same⟩ := kept _ _ found
  exact ⟨⟨later, still, same.trans core⟩, fun named => (approved named).later⟩

namespace Ledger

theorem new (engine : Engine) : Ledger engine (MemStore.new : MemStore F) [] :=
  ⟨by simp [MemStore.new], by simp [MemStore.new],
    by simp [protocol, View.init, View.snapshots],
    by simp [MemStore.new]⟩

theorem of_tables
    (ledger : Ledger engine store trace)
    (autoReq : after.autoReq = store.autoReq)
    (autoRes : after.autoRes = store.autoRes) :
    Ledger engine after trace := by
  obtain ⟨created, approved, snapshots, final⟩ := ledger
  refine ⟨autoReq ▸ created, autoReq ▸ approved, ?_, autoRes ▸ autoReq ▸ final⟩
  intro call thread request member
  obtain ⟨⟨stored, found, core⟩, named⟩ := snapshots call thread request member
  exact ⟨⟨stored, autoReq ▸ found, core⟩, named⟩

theorem asked
    (ledger : Ledger engine store trace)
    (other : ∀ operation, entry.op ≠ .store operation) :
    Ledger engine store (entry :: trace) := by
  obtain ⟨created, approved, snapshots, final⟩ := ledger
  refine ⟨?_, ?_, ?_, final⟩
  · intro id request found
    obtain ⟨event, policy, from_, delayed⟩ := created id request found
    exact ⟨event, policy, from_.later, delayed⟩
  · intro id request found named
    exact (approved id request found named).later
  · intro call thread request member
    have old : request ∈ (viewOf engine call thread trace).snapshots := by
      simp only [viewOf, Interleaving.Discipline.viewOf] at member
      split_ifs at member
      · exact View.observe_snapshots other entry.answer ▸ member
      · exact member
    exact (snapshots call thread request old).later fun _ stored found => ⟨stored, found, rfl⟩

theorem final_stored
    (ledger : Ledger engine store trace)
    {view : View}
    {op : AutomationOp}
    {answer : Except Error op.Answer}
    (may : view.MayIssue engine op)
    (effect : op.Effect store answer after) :
    ∀ id result, after.autoRes.lookup id = some result →
      result.requestID = id ∧ result.status.terminal = true ∧
        ∃ request, after.autoReq.lookup id = some request ∧ request.status = result.status := by
  intro id result found
  -- A request that has its result cannot be in a status that an operation moves it from.
  have settled : ∀ key stored written, store.autoReq.lookup key = some stored →
      after.autoReq = store.autoReq.insert key written → after.autoRes = store.autoRes →
      AutomationStatus.terminal (AutomationRequest.status stored) = false →
      result.requestID = id ∧ result.status.terminal = true ∧
        ∃ request, after.autoReq.lookup id = some request ∧ request.status = result.status := by
    intro key stored written present autoReq autoRes moving
    obtain ⟨named, terminal, request, stored', status⟩ := ledger.final id result (autoRes ▸ found)
    refine ⟨named, terminal, request, ?_, status⟩
    rw [autoReq, StringMap.lookup_insert_ite, if_neg, stored']
    rintro rfl
    obtain rfl : request = stored := by simpa [stored'] using present
    rw [status, terminal] at moving
    cases moving
  cases effect with
  | quiet => exact ledger.final id result found
  | inserted request message fresh =>
      obtain ⟨named, terminal, stored, present, status⟩ := ledger.final id result found
      refine ⟨named, terminal, stored, ?_, status⟩
      rw [MemStore.withRequest, MemStore.enqueue, StringMap.lookup_insert_ite, if_neg, present]
      rintro rfl
      simp [fresh] at present
  | claimed key now lease request present ready =>
      exact settled key request _ present rfl rfl (MemStore.claimable_unsettled ready)
  | moved key sources status request present listed =>
      obtain ⟨rfl, _⟩ := may
      refine settled key request _ present rfl rfl ?_
      rw [List.mem_singleton.mp listed]
      rfl
  | approved key by_ request present waiting =>
      refine settled key request _ present rfl rfl ?_
      rw [waiting]
      rfl
  | completed outcome message request present unfinished =>
      simp only [MemStore.withResult, MemStore.enqueue, StringMap.lookup_insert_ite] at found ⊢
      split_ifs at found with same
      · obtain rfl := Option.some.inj found
        exact ⟨same.symm, may.2.2.terminal, _, if_pos same, rfl⟩
      · rw [if_neg same]
        exact ledger.final id result found

theorem stored
    (ledger : Ledger engine shared.store trace)
    (wellFormed : shared.store.WellFormed)
    {thread : ℕ}
    {call : EngineCall}
    {op : AutomationOp}
    {answer : Except Error op.Answer}
    (may : (viewOf engine call thread trace).MayIssue engine op)
    (effect : op.Effect shared.store answer after)
    (listed : ∀ request ∈ View.listed op answer,
      ∃ id, shared.store.autoReq.lookup id = some request) :
    Ledger engine after (⟨thread, call, .store op, answer, shared⟩ :: trace) := by
  refine ⟨?_, ?_, ?_, ledger.final_stored may effect⟩
  · intro id request found
    rcases effect.lookup_after found with ⟨old, present, rewrites⟩ | ⟨message, rfl, same⟩
    · have core := rewrites.core.1
      obtain ⟨event, policy, from_, delayed⟩ := ledger.created id old present
      refine ⟨event, policy, (from_.of_core core.symm).later, fun unsettled => ?_⟩
      rw [AutomationRequest.notBefore_of_core core]
      exact delayed (rewrites.unsettled may unsettled)
    · obtain rfl := eq_of_heq same
      obtain ⟨_, _, _, event, config, device, policy, handles, known, triggered, drafted⟩ := may
      obtain ⟨reader, earlier, read⟩ := config_read config known
      rw [viewOf_call] at handles
      subst handles
      refine ⟨event, policy, ⟨request, rfl, drafted, thread, message, shared,
        List.mem_cons_self .., reader, config, device, earlier, List.mem_cons_of_mem _ read,
        triggered⟩, fun unsettled => ?_⟩
      rcases drafted.delayed with ⟨_, delayed⟩ | denied
      · exact delayed
      · rw [denied] at unsettled
        cases unsettled
  · intro id request found named
    rcases effect.lookup_after found with ⟨old, present, rewrites⟩ | ⟨message, rfl, _⟩
    · rcases rewrites.core.2 with same | ⟨rfl, same⟩
      · exact same ▸ (ledger.approved id old present (same ▸ named)).later
      · obtain rfl := eq_of_heq same
        exact ⟨may.2, thread, call, shared, List.mem_cons_self ..⟩
    · obtain ⟨_, _, _, _, _, _, _, _, _, _, drafted⟩ := may
      exact absurd drafted.unapproved named
  · intro other reader request member
    have known : request ∈ (viewOf engine other reader trace).snapshots ∨
        request ∈ View.listed op answer := by
      simp only [viewOf, Interleaving.Discipline.viewOf] at member
      split_ifs at member
      · exact View.observeStore_snapshots member
      · exact Or.inl member
    rcases known with old | new
    · exact (ledger.snapshots other reader request old).later fun _ _ => effect.core_kept
    · obtain ⟨id, found⟩ := listed request new
      obtain rfl := wellFormed.keyed id request found
      have current : SnapshotOf shared.store trace request :=
        ⟨⟨request, found, rfl⟩, ledger.approved _ request found⟩
      exact current.later fun _ _ => effect.core_kept

end Ledger

theorem listed_stored
    (shared : Shared F)
    (op : AutomationOp)
    (choice : Choice) :
    ∀ request ∈ View.listed op (shared.respond (.store op) choice).1,
      ∃ id, shared.store.autoReq.lookup id = some request := by
  intro request member
  simp only [Shared.respond] at member
  cases fault : choice.fault with
  | some failure =>
      rw [fault] at member
      cases op <;> simp [View.listed] at member
  | none =>
      rw [fault] at member
      cases op with
      | dueAutomation now lease limit =>
          obtain ⟨id, found, _⟩ := MemStore.mem_dueAutomation member
          exact ⟨id, found⟩
      | awaitingApprovalBefore cutoff =>
          simp only [AutomationOp.perform, View.listed, MemStore.awaitingApprovalBefore,
            List.mem_map, List.mem_filter, MemStore.requests, List.mem_filterMap,
            Option.map_eq_some_iff] at member
          obtain ⟨_, ⟨⟨id, _, stored, found, rfl⟩, _⟩, rfl⟩ := member
          exact ⟨id, found⟩
      | _ => simp [View.listed] at member

section

variable [GoFloat F]
variable {allowed : EngineWorld F → EngineAction F → Prop} {world : EngineWorld F}
variable (reached : (system F engine).Reaches allowed (fresh F clock config) world)
include reached

theorem ledger_of_reaches :
    Ledger engine world.shared.store world.trace := by
  refine reached.invariant (.new engine) ?_
  intro world action after reached ledger _ moves
  cases Advance.of_moves moves with
  | stored thread choice call op rest answer store running effect answered =>
      have may := (obedient_of_reaches reached).pre running
      refine ledger.stored (wellFormed_of_reaches reached) may effect ?_
      rw [answered]
      exact listed_stored world.shared op choice
  | asked thread choice call op rest answer running other answered => exact ledger.asked other
  | processed processor attempt sample =>
      have same := processor.process_sameRequests attempt sample world.shared.store
      exact ledger.of_tables same.autoReq same.autoRes
  | _ => exact ledger

theorem stored_since :
    ∀ entry ∈ world.trace, ∀ id request, entry.before.store.autoReq.lookup id = some request →
      ∃ current, world.shared.store.autoReq.lookup id = some current ∧
        current.core = request.core := by
  refine reached.invariant ?_ ?_
  · intro entry impossible
    cases impossible
  intro world action after _ holds _ moves
  cases Advance.of_moves moves with
  | stored thread choice call op rest answer store running effect answered =>
      intro entry member id request found
      rcases List.mem_cons.mp member with rfl | old
      · exact effect.core_kept found
      · obtain ⟨current, present, core⟩ := holds entry old id request found
        obtain ⟨kept, still, same⟩ := effect.core_kept present
        exact ⟨kept, still, same.trans core⟩
  | asked thread choice call op rest answer running other answered =>
      intro entry member id request found
      rcases List.mem_cons.mp member with rfl | old
      · exact ⟨request, found, rfl⟩
      · exact holds entry old id request found
  | processed processor attempt sample =>
      have same := processor.process_sameRequests attempt sample world.shared.store
      intro entry member id request found
      obtain ⟨current, present, core⟩ := holds entry member id request found
      exact ⟨current, same.autoReq ▸ present, core⟩
  | _ => exact holds

theorem recorded_since
    {thread : ℕ}
    {call : EngineCall}
    {result : AutomationResult}
    {message : OutboxMessage}
    {before : Shared F}
    (recorded : ⟨thread, call, .store (.completeAutomation result message), .ok true, before⟩ ∈
      world.trace) :
    world.shared.store.autoRes.lookup result.requestID = some result := by
  suffices kept : ∀ thread call result message before,
    ⟨thread, call, .store (.completeAutomation result message), .ok true, before⟩ ∈ world.trace →
      world.shared.store.autoRes.lookup result.requestID = some result from
    kept thread call result message before recorded
  refine reached.invariant ?_ ?_
  · intro thread call result message before impossible
    cases impossible
  intro world action after _ holds _ moves
  cases Advance.of_moves moves with
  | stored writer choice caller op rest answer store running effect answered =>
      intro thread call result message before member
      rcases List.mem_cons.mp member with new | old
      · cases new
        cases effect with
        | quiet _ _ silent => exact absurd rfl silent
        | completed _ _ request found unfinished => exact Finmap.lookup_insert _
      · have present := holds thread call result message before old
        rcases effect.results result.requestID with same | ⟨_, _, _, _, _, unfinished, _⟩
        · exact same.trans present
        · rw [unfinished] at present
          cases present
  | asked writer choice caller op rest answer running other answered =>
      intro thread call result message before member
      rcases List.mem_cons.mp member with new | old
      · cases new
        exact absurd rfl (other _)
      · exact holds thread call result message before old
  | processed processor attempt sample =>
      have same := processor.process_sameRequests attempt sample world.shared.store
      intro thread call result message before member
      exact same.autoRes ▸ holds thread call result message before member
  | _ => exact holds

end

end Reachable

end InfraObserver
