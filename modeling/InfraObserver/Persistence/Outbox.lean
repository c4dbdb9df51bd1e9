import InfraObserver.Persistence.Automation
import InfraObserver.Persistence.Transaction

/-!
# The outbox

Operations that change the store enqueue messages with the change, and
`DrainOutbox` hands the oldest unpublished ones to a callback and marks them when
the callback succeeds. The store holds its lock meanwhile, so `drainOutbox` is one
step of the store with one request to the outside.

The messages that an operation enqueues are read off its calls, not off the
table; that the table holds exactly them, numbered in order, is proved.
-/

namespace InfraObserver

/-! ## Draining -/

namespace MemStore

variable {F : Type}

/-- The loop of `DrainOutbox`: the indices and the messages of unpublished rows,
until there are enough. -/
def batchLoop (limit : ℤ) :
    List OutboxRow → ℕ → List (ℕ × OutboxMessage) → List (ℕ × OutboxMessage)
  | [], _, found => found
  | row :: rest, index, found =>
      if row.published then batchLoop limit rest (index + 1) found
      else if ((found ++ [(index, row.msg)]).length : ℤ) = limit then found ++ [(index, row.msg)]
      else batchLoop limit rest (index + 1) (found ++ [(index, row.msg)])

/-- The rows after those at some indices were published. -/
def markPublished (rows : List OutboxRow) (indices : List ℕ) : List OutboxRow :=
  indices.foldl
    (fun rows index => rows.modify index fun row => { row with published := true }) rows

/-- `DrainOutbox`. The request is the call of `publish`; it returns the number of
messages published and the error, with the store. -/
def drainOutbox (limit : ℤ) (store : MemStore F) :
    Prog (List OutboxMessage) (fun _ => Option Error) ((ℕ × Option Error) × MemStore F) :=
  let found := batchLoop limit store.outbox 0 []
  if found = [] then pure ((0, none), store)
  else do
    match ← Prog.request (found.map Prod.snd) with
    | some failure => pure ((0, some failure), store)
    | none =>
        pure ((found.length, none),
          { store with outbox := markPublished store.outbox (found.map Prod.fst) })

/-- The messages that are not published. -/
def pending (store : MemStore F) : List OutboxMessage :=
  (store.outbox.filter fun row => !row.published).map OutboxRow.msg

end MemStore

/-- The unpublished rows with their indices, counted from a start. -/
def unpublished : List OutboxRow → ℕ → List (ℕ × OutboxMessage)
  | [], _ => []
  | row :: rest, index =>
      if row.published then unpublished rest (index + 1)
      else (index, row.msg) :: unpublished rest (index + 1)

theorem unpublished_messages (rows : List OutboxRow) (index : ℕ) :
    (unpublished rows index).map Prod.snd =
      (rows.filter fun row => !row.published).map OutboxRow.msg := by
  induction rows generalizing index with
  | nil => rfl
  | cons row rest ih =>
      cases published : row.published <;>
        simp [unpublished, published, ih]

theorem mem_unpublished
    {rows : List OutboxRow}
    {start index : ℕ}
    {message : OutboxMessage} :
    (index, message) ∈ unpublished rows start ↔
      start ≤ index ∧ rows[index - start]? = some ⟨message, false⟩ := by
  induction rows generalizing start with
  | nil => simp [unpublished]
  | cons row rest ih =>
      obtain ⟨first, published⟩ := row
      rcases Nat.lt_trichotomy index start with below | rfl | above
      · have : ¬start + 1 ≤ index := by omega
        cases published <;>
          simp [unpublished, ih, this, Nat.not_le.mpr below, Nat.ne_of_lt below]
      · cases published <;>
          simp [unpublished, ih, eq_comm]
      · have shift : index - start = index - (start + 1) + 1 := by omega
        have : index ≠ start := by omega
        cases published <;>
          simp [unpublished, ih, this, shift, above.le, Nat.succ_le_of_lt above]

namespace MemStore

variable {F : Type}

theorem batchLoop_eq
    (limit : ℤ)
    (rows : List OutboxRow)
    (index : ℕ)
    (found : List (ℕ × OutboxMessage))
    (room : (found.length : ℤ) < limit) :
    batchLoop limit rows index found =
      found ++ (unpublished rows index).take (limit - found.length).toNat := by
  induction rows generalizing index found with
  | nil => simp [batchLoop, unpublished]
  | cons row rest ih =>
      unfold batchLoop unpublished
      split_ifs with published full
      · exact ih (index + 1) found room
      · have one : (limit - found.length).toNat = 1 := by
          simp only [List.length_append, List.length_singleton] at full
          omega
        simp [one]
      · simp only [List.length_append, List.length_singleton] at full
        have more : (limit - found.length).toNat =
            (limit - (found ++ [(index, row.msg)]).length).toNat + 1 := by
          simp only [List.length_append, List.length_singleton]
          omega
        rw [ih (index + 1) _
          (by simp only [List.length_append, List.length_singleton]; omega), more]
        simp

theorem getElem?_markPublished
    (rows : List OutboxRow)
    (indices : List ℕ)
    (position : ℕ) :
    (markPublished rows indices)[position]? = rows[position]?.map fun row =>
      { row with published := row.published || decide (position ∈ indices) } := by
  induction indices generalizing rows with
  | nil => cases found : rows[position]? <;> simp [markPublished, found]
  | cons index rest ih =>
      rw [markPublished, List.foldl_cons]
      refine (ih _).trans ?_
      rw [List.getElem?_modify]
      by_cases same : index = position
      · cases found : rows[position]? <;> simp [same]
      · cases found : rows[position]? <;> simp [same, Ne.symm same]

/-- The rows after a batch of messages was published. -/
def publishedRows (rows : List OutboxRow) (batch : List OutboxMessage) : List OutboxRow :=
  rows.map fun row => { row with published := row.published || decide (row.msg ∈ batch) }

theorem markPublished_eq
    {rows : List OutboxRow}
    (distinct : (rows.map OutboxRow.msg).Nodup)
    (count : ℕ) :
    markPublished rows (((unpublished rows 0).take count).map Prod.fst) =
      publishedRows rows (((unpublished rows 0).take count).map Prod.snd) := by
  refine List.ext_getElem? fun position => ?_
  rw [getElem?_markPublished, publishedRows, List.getElem?_map]
  cases present : rows[position]? with
  | none => rfl
  | some row =>
      obtain ⟨message, published⟩ := row
      have listed : published = false →
          (position ∈ ((unpublished rows 0).take count).map Prod.fst ↔
            message ∈ ((unpublished rows 0).take count).map Prod.snd) := by
        rintro rfl
        simp only [List.mem_map, Prod.exists, exists_eq_right]
        constructor
        · rintro ⟨index, other, member, rfl⟩
          have found := (mem_unpublished.mp (List.mem_of_mem_take member)).2
          rw [Nat.sub_zero, present] at found
          cases found
          exact ⟨index, member⟩
        · rintro ⟨index, member⟩
          have found := (mem_unpublished.mp (List.mem_of_mem_take member)).2
          rw [Nat.sub_zero] at found
          have same : (rows.map OutboxRow.msg)[index]? = (rows.map OutboxRow.msg)[position]? := by
            rw [List.getElem?_map, List.getElem?_map, found, present]
          have within : index < (rows.map OutboxRow.msg).length := by
            rw [List.length_map]
            exact (List.getElem?_eq_some_iff.mp found).1
          obtain rfl := (List.getElem?_inj within distinct).mp same
          exact ⟨index, message, member, rfl⟩
      cases published with
      | true => simp
      | false => simp only [Option.map_some, Bool.false_or, decide_eq_decide.mpr (listed rfl)]

/-- `DrainOutbox` in terms of the pending messages: it offers the first of them, and
publishes what it offered if the callback succeeds. -/
theorem drainOutbox_eq
    {store : MemStore F}
    {limit : ℤ}
    (positive : 0 < limit)
    (distinct : (store.outbox.map OutboxRow.msg).Nodup) :
    store.drainOutbox limit =
      if store.pending = [] then pure ((0, none), store)
      else
        (do
          match ← Prog.request (store.pending.take limit.toNat) with
          | some failure => pure ((0, some failure), store)
          | none =>
              pure (((store.pending.take limit.toNat).length, none),
                { store with
                  outbox := publishedRows store.outbox (store.pending.take limit.toNat) })) := by
  have batch : batchLoop limit store.outbox 0 [] =
      (unpublished store.outbox 0).take limit.toNat := by
    rw [batchLoop_eq limit store.outbox 0 [] (by simpa using positive)]
    simp
  have messages : ((unpublished store.outbox 0).take limit.toNat).map Prod.snd =
      store.pending.take limit.toNat := by
    rw [List.map_take, unpublished_messages]
    rfl
  have empty : (unpublished store.outbox 0).take limit.toNat = [] ↔ store.pending = [] := by
    have some_ : limit.toNat ≠ 0 := by omega
    rw [← List.map_eq_nil_iff (f := Prod.snd), messages, List.take_eq_nil_iff]
    simp [some_]
  have length : ((unpublished store.outbox 0).take limit.toNat).length =
      (store.pending.take limit.toNat).length := by
    rw [← messages, List.length_map]
  simp only [drainOutbox, batch, empty, messages, length, markPublished_eq distinct]

end MemStore

/-! ## Enqueueing -/

/-- Messages numbered in order, after some earlier ones. -/
def numbered : ℕ → List OutboxMessage → List OutboxMessage
  | _, [] => []
  | count, message :: rest => { message with id := count + 1 } :: numbered (count + 1) rest

theorem numbered_append (count : ℕ) (first second : List OutboxMessage) :
    numbered count (first ++ second) =
      numbered count first ++ numbered (count + first.length) second := by
  induction first generalizing count with
  | nil => rfl
  | cons message rest ih =>
      simp only [numbered, List.cons_append, List.length_cons, ih]
      rw [show count + 1 + rest.length = count + (rest.length + 1) by omega]

theorem lt_of_mem_numbered
    {count : ℕ}
    {messages : List OutboxMessage} :
    ∀ message ∈ numbered count messages, count < message.id := by
  induction messages generalizing count with
  | nil => nofun
  | cons first rest ih =>
      intro message member
      rcases List.mem_cons.mp member with rfl | later
      · exact Nat.lt_succ_self count
      · exact Nat.lt_of_succ_lt (ih message later)

theorem numbered_increasing (count : ℕ) (messages : List OutboxMessage) :
    (numbered count messages).Pairwise fun earlier later => earlier.id < later.id := by
  induction messages generalizing count with
  | nil => exact .nil
  | cons message rest ih =>
      exact .cons (fun later member => lt_of_mem_numbered later member)
        (ih (count + 1))

namespace MemStore

variable {F : Type}

/-- The outbox grows by some messages, numbered in order and not published. -/
structure Appends (store : MemStore F) (messages : List OutboxMessage) (after : MemStore F) :
    Prop where
  outbox : after.outbox =
    store.outbox ++ (numbered store.nextOutbox messages).map fun message => ⟨message, false⟩
  nextOutbox : after.nextOutbox = store.nextOutbox + messages.length

namespace Appends

variable {store middle after : MemStore F} {messages : List OutboxMessage}

theorem none
    (outbox : after.outbox = store.outbox)
    (nextOutbox : after.nextOutbox = store.nextOutbox) :
    Appends store [] after :=
  ⟨by simp [numbered, outbox], by simp [nextOutbox]⟩

theorem enqueue
    (appends : Appends store messages middle)
    (message : OutboxMessage) :
    Appends store (messages ++ [message]) (middle.enqueue message) := by
  obtain ⟨outbox, nextOutbox⟩ := appends
  constructor
  · simp [MemStore.enqueue, outbox, nextOutbox, numbered_append, numbered]
  · simp only [MemStore.enqueue, nextOutbox, List.length_append, List.length_singleton]
    omega

theorem one
    (outbox : middle.outbox = store.outbox)
    (nextOutbox : middle.nextOutbox = store.nextOutbox)
    (message : OutboxMessage) :
    Appends store [message] (middle.enqueue message) :=
  (none outbox nextOutbox).enqueue message

theorem unchanged
    (appends : Appends store messages middle)
    (outbox : after.outbox = middle.outbox)
    (nextOutbox : after.nextOutbox = middle.nextOutbox) :
    Appends store messages after :=
  ⟨outbox.trans appends.outbox, nextOutbox.trans appends.nextOutbox⟩

end Appends

end MemStore

namespace TxM

variable {F α : Type} [GoFloat F]

/-- The message of a call of `Enqueue` that was answered. -/
def recorded : (op : TxOp F) → TxRes op → List OutboxMessage
  | .enqueue message, .ok _ => [message]
  | _, _ => []

/-- The handler of a transaction that also keeps the messages of the answered calls
of `Enqueue`. -/
def recorder
    (faults : ℕ → Option Error)
    (op : TxOp F)
    (session : (Tx F × ℕ) × List OutboxMessage) :
    TxRes op × (Tx F × ℕ) × List OutboxMessage :=
  ((handler faults op session.1).1, (handler faults op session.1).2,
    session.2 ++ recorded op (handler faults op session.1).1)

theorem perform_appends
    (op : TxOp F)
    {tx : Tx F}
    {store : MemStore F}
    {messages : List OutboxMessage}
    (appends : store.Appends messages tx.store) :
    store.Appends (messages ++ recorded op (.ok (op.perform tx).1)) (op.perform tx).2.store := by
  have silent : ∀ after : Tx F, after.store.outbox = tx.store.outbox →
      after.store.nextOutbox = tx.store.nextOutbox →
      store.Appends (messages ++ []) after.store := by
    intro after outbox nextOutbox
    rw [List.append_nil]
    exact appends.unchanged outbox nextOutbox
  cases op with
  | enqueue message => exact appends.enqueue message
  | insertObservation sample =>
      simp only [TxOp.perform, Tx.insertObservation]
      split <;> exact silent _ rfl rfl
  | touchDevice id instant =>
      simp only [TxOp.perform, Tx.touchDevice]
      split
      · exact silent _ rfl rfl
      · split_ifs <;> exact silent _ rfl rfl
  | samples deviceID metric labels since until_ => exact silent _ rfl rfl
  | getState key => exact silent _ rfl rfl
  | putState record => exact silent _ rfl rfl
  | insertTransition transition =>
      simp only [TxOp.perform, Tx.insertTransition]
      split <;> exact silent _ rfl rfl
  | insertEvent event =>
      simp only [TxOp.perform, Tx.insertEvent]
      split <;> exact silent _ rfl rfl
  | openAlert event =>
      simp only [TxOp.perform, Tx.openAlert]
      split_ifs <;> exact silent _ rfl rfl
  | resolveAlert event =>
      simp only [TxOp.perform, Tx.resolveAlert]
      split
      · exact silent _ rfl rfl
      · split <;> exact silent _ rfl rfl

end TxM

namespace MemStore

variable {F α : Type} [GoFloat F]

/-- The messages that a transaction enqueues: those of its answered calls of
`Enqueue` if it commits, and none if it is rolled back. -/
def enqueuedBy
    (refused : Option Error)
    (faults : ℕ → Option Error)
    (body : TxM F α)
    (store : MemStore F) : List OutboxMessage :=
  match (store.transact refused faults body).1 with
  | .ok _ => (Prog.exec (TxM.recorder faults) body ((⟨store, []⟩, 0), [])).2.2
  | .error _ => []

theorem transact_appends
    (refused : Option Error)
    (faults : ℕ → Option Error)
    (body : TxM F α)
    (store : MemStore F) :
    store.Appends (store.enqueuedBy refused faults body)
      (store.transact refused faults body).2 := by
  unfold enqueuedBy
  cases committed : (store.transact refused faults body).1 with
  | error failure =>
      exact .none (by rw [transact_error committed]) (by rw [transact_error committed])
  | ok value =>
      have kept : store.Appends (Prog.exec (TxM.recorder faults) body ((⟨store, []⟩, 0), [])).2.2
          (Prog.exec (TxM.recorder faults) body ((⟨store, []⟩, 0), [])).2.1.1.store := by
        refine Prog.exec_preserves (TxM.recorder faults)
          (fun session => store.Appends session.2 session.1.1.store) ?_ body _ (.none rfl rfl)
        rintro op ⟨⟨tx, position⟩, messages⟩ appends
        simp only [TxM.recorder, TxM.handler]
        cases faults position with
        | some failure => simpa [TxM.recorded] using appends
        | none => exact TxM.perform_appends op appends
      have same := (Prog.exec_project (TxM.handler faults) (TxM.recorder faults) Prod.fst
        (fun _ _ => ⟨rfl, rfl⟩) body ((⟨store, []⟩, 0), [])).2
      cases refused with
      | some failure => cases committed
      | none =>
          rcases ran : Prog.exec (TxM.handler faults) body (⟨store, []⟩, 0) with
            ⟨failure | result, tx, position⟩
          · simp [transact, ran] at committed
          · simp only [transact, ran]
            rw [same, ran] at kept
            exact kept

end MemStore

namespace AutomationOp

variable {F : Type}

/-- The message that an operation enqueues when it answers that it wrote. -/
def enqueued : (op : AutomationOp) → Except Error op.Answer → List OutboxMessage
  | .insertAutomationRequest _ message, .ok true => [message]
  | .completeAutomation _ message, .ok true => [message]
  | _, _ => []

theorem Effect.appends
    {op : AutomationOp}
    {answer : Except Error op.Answer}
    {store after : MemStore F}
    (effect : op.Effect store answer after) :
    store.Appends (op.enqueued answer) after := by
  cases effect with
  | quiet _ _ silent =>
      have nothing : op.enqueued answer = [] := by
        unfold enqueued
        split
        · exact absurd rfl silent
        · exact absurd rfl silent
        · rfl
      rw [nothing]
      exact .none rfl rfl
  | inserted request message fresh =>
      exact .one (by rfl) (by rfl) message
  | completed result message request found unfinished =>
      exact .one (by rfl) (by rfl) message
  | claimed => exact .none rfl rfl
  | moved => exact .none rfl rfl
  | approved => exact .none rfl rfl

end AutomationOp

end InfraObserver
