import InfraObserver.Persistence.Outbox

/-!
# The outbox relay

`Drain` hands batches of pending messages to the publisher until the outbox is
empty or something fails. Any number of drains run next to transactions and to
operations on automation requests; each call of the store is one step.

A world keeps two histories that the code does not have: the messages that
committed operations enqueued, and the batches that were offered to the publisher.
-/

namespace InfraObserver

/-! ## The relay -/

/-- What the messaging client publishes. -/
structure OutMsg where
  subject : String
  msgID : String
  payload : String
  headers : StringMap String
  deriving DecidableEq

/-- A message of the outbox as it is published. -/
def OutboxMessage.outMsg (message : OutboxMessage) : OutMsg where
  subject := message.subject
  msgID := message.msgID
  payload := message.payload
  headers := message.headers

/-- The settings of a relay. -/
structure Relay where
  batchSize : ℤ

/-- The batch size with its default. -/
def Relay.size (relay : Relay) : ℤ :=
  if relay.batchSize ≤ 0 then 100 else relay.batchSize

theorem Relay.size_pos (relay : Relay) : 0 < relay.size := by
  unfold Relay.size
  split_ifs <;> omega

/-- A call of `Drain` between two calls of the store. -/
structure Drain where
  size : ℤ
  positive : 0 < size
  total : ℕ
  outcome : Option (ℕ × Option Error)

/-- `Drain` before its loop. -/
def Relay.drain (relay : Relay) : Drain where
  size := relay.size
  positive := relay.size_pos
  total := 0
  outcome := none

/-- The rest of a turn of the loop of `Drain`, after the call of the store. -/
def Drain.turn (drain : Drain) (n : ℕ) (err : Option Error) : Drain :=
  let total := drain.total + n
  if err.isSome ∨ (n : ℤ) < drain.size then
    { drain with total, outcome := some (total, err) }
  else { drain with total }

/-! ## Runs -/

/-- A batch that was handed to the publisher. -/
structure Offer where
  batch : List OutboxMessage
  accepted : Bool
  deriving DecidableEq

/-- The store with the drains and the histories. -/
structure RelayWorld (F : Type) where
  store : MemStore F
  drains : List Drain
  /-- The messages that committed operations enqueued, as they passed them. -/
  committed : List OutboxMessage
  offers : List Offer

/-- What can happen next. -/
inductive RelayAction (F : Type)
  | transact (refused : Option Error) (faults : ℕ → Option Error) (body : TxM F Unit)
  | automation (op : AutomationOp)
  | start (relay : Relay)
  /-- A call of `Drain` performs one turn, with the publisher as it is then. -/
  | step (drain : ℕ) (publisher : List OutMsg → Option Error)

namespace RelayWorld

variable {F : Type}

/-- Nothing has happened yet. -/
def new : RelayWorld F where
  store := .new
  drains := []
  committed := []
  offers := []

/-- The messages of committed operations with the ids that they get. -/
def ledger (world : RelayWorld F) : List OutboxMessage :=
  numbered 0 world.committed

/-- The callback of `Drain`, which is also noted as an offer. -/
def publish
    (publisher : List OutMsg → Option Error)
    (batch : List OutboxMessage)
    (offers : List Offer) : Option Error × List Offer :=
  let failure := publisher (batch.map OutboxMessage.outMsg)
  (failure, offers ++ [⟨batch, failure.isNone⟩])

/-- One turn of a drain. -/
def stepDrain
    (world : RelayWorld F)
    (index : ℕ)
    (drain : Drain)
    (publisher : List OutMsg → Option Error) : RelayWorld F :=
  let (((n, err), store), offers) :=
    (world.store.drainOutbox drain.size).exec (publish publisher) world.offers
  { world with store, offers, drains := world.drains.set index (drain.turn n err) }

variable [GoFloat F]

/-- One action. A drain that has returned does nothing. -/
def next (world : RelayWorld F) : RelayAction F → RelayWorld F
  | .transact refused faults body =>
      { world with
        store := (world.store.transact refused faults body).2
        committed := world.committed ++ world.store.enqueuedBy refused faults body }
  | .automation op =>
      { world with
        store := (op.perform world.store).2
        committed := world.committed ++ op.enqueued (op.perform world.store).1 }
  | .start relay => { world with drains := world.drains ++ [relay.drain] }
  | .step index publisher =>
      match world.drains[index]? with
      | none => world
      | some drain =>
          match drain.outcome with
          | some _ => world
          | none => world.stepDrain index drain publisher

/-- The world after a run from the empty store. -/
def run (actions : List (RelayAction F)) : RelayWorld F :=
  actions.foldl next new

end RelayWorld

/-! ## Nothing is lost or invented -/

namespace RelayWorld

variable {F : Type}

/-- The outbox holds the messages of committed operations and nothing else, and
its flags tell which of them a publisher has taken. -/
structure Exact (world : RelayWorld F) : Prop where
  rows : world.store.outbox.map OutboxRow.msg = world.ledger
  nextOutbox : world.store.nextOutbox = world.committed.length
  published : ∀ row ∈ world.store.outbox, row.published = true ↔
    ∃ offer ∈ world.offers, offer.accepted = true ∧ row.msg ∈ offer.batch
  once : world.offers.Pairwise fun earlier later => earlier.accepted = true →
    ∀ message ∈ earlier.batch, message ∉ later.batch
  offered : ∀ offer ∈ world.offers, ∀ message ∈ offer.batch, message ∈ world.ledger

theorem ledger_increasing (world : RelayWorld F) :
    world.ledger.Pairwise fun earlier later => earlier.id < later.id :=
  numbered_increasing 0 world.committed

theorem ledger_nodup (world : RelayWorld F) : world.ledger.Nodup :=
  world.ledger_increasing.imp fun earlier same => by
    rw [same] at earlier
    exact Nat.lt_irrefl _ earlier

namespace Exact

variable {world : RelayWorld F}

theorem new : (RelayWorld.new : RelayWorld F).Exact :=
  ⟨rfl, rfl, nofun, .nil, nofun⟩

theorem pending_increasing (exact_ : world.Exact) :
    world.store.pending.Pairwise fun earlier later => earlier.id < later.id := by
  have sublist : world.store.pending.Sublist (world.store.outbox.map OutboxRow.msg) :=
    List.filter_sublist.map _
  rw [exact_.rows] at sublist
  exact world.ledger_increasing.sublist sublist

theorem appends
    (exact_ : world.Exact)
    {messages : List OutboxMessage}
    {after : MemStore F}
    (appends : world.store.Appends messages after) :
    Exact { world with store := after, committed := world.committed ++ messages } := by
  obtain ⟨rows, nextOutbox, published, once, offered⟩ := exact_
  have ledger : RelayWorld.ledger
      { world with store := after, committed := world.committed ++ messages } =
        world.ledger ++ numbered world.committed.length messages := by
    simp [RelayWorld.ledger, numbered_append]
  have distinct := RelayWorld.ledger_nodup
    { world with store := after, committed := world.committed ++ messages }
  rw [ledger] at distinct
  refine ⟨?_, ?_, ?_, once, ?_⟩
  · rw [ledger, appends.outbox, List.map_append, rows, nextOutbox, List.map_map]
    simp [Function.comp_def]
  · simp [appends.nextOutbox, nextOutbox]
  · intro row member
    rw [appends.outbox, List.mem_append] at member
    rcases member with old | new
    · exact published row old
    · obtain ⟨message, listed, rfl⟩ := List.mem_map.mp new
      -- Nobody can have been offered a message that was not there.
      refine ⟨nofun, ?_⟩
      rintro ⟨offer, offeredTo, _, inBatch⟩
      rw [nextOutbox] at listed
      exact absurd listed ((List.nodup_append.mp distinct).2.2 _
        (offered offer offeredTo _ inBatch) _ · rfl)
  · intro offer member message inBatch
    rw [ledger]
    exact List.mem_append_left _ (offered offer member message inBatch)

theorem of_pending
    (exact_ : world.Exact)
    {message : OutboxMessage}
    (member : message ∈ world.store.pending) :
    message ∈ world.ledger ∧
      ∀ offer ∈ world.offers, offer.accepted = true → message ∉ offer.batch := by
  simp only [MemStore.pending, List.mem_map, List.mem_filter, Bool.not_eq_true'] at member
  obtain ⟨row, ⟨present, unpublished⟩, rfl⟩ := member
  refine ⟨exact_.rows ▸ List.mem_map_of_mem present, ?_⟩
  intro offer offered accepted inBatch
  rw [(exact_.published row present).mpr ⟨offer, offered, accepted, inBatch⟩] at unpublished
  cases unpublished

theorem offer
    (exact_ : world.Exact)
    {batch : List OutboxMessage}
    (first : batch <+: world.store.pending)
    {accepted : Bool}
    {after : MemStore F}
    (rows : after.outbox.map OutboxRow.msg = world.store.outbox.map OutboxRow.msg)
    (nextOutbox : after.nextOutbox = world.store.nextOutbox)
    (published : ∀ row ∈ after.outbox, row.published = true ↔
      (∃ offer ∈ world.offers, offer.accepted = true ∧ row.msg ∈ offer.batch) ∨
        accepted = true ∧ row.msg ∈ batch) :
    Exact
      { world with
        store := after
        offers := world.offers ++ [⟨batch, accepted⟩] } := by
  have known := fun message (member : message ∈ batch) =>
    exact_.of_pending (first.subset member)
  obtain ⟨oldRows, oldNext, _, once, offered⟩ := exact_
  refine ⟨rows.trans oldRows, nextOutbox.trans oldNext, ?_, ?_, ?_⟩
  · intro row member
    simp [published row member, or_and_right, exists_or]
  · refine List.pairwise_append.mpr ⟨once, List.pairwise_singleton .., ?_⟩
    intro old member new last accepted' message inOld inNew
    rw [List.mem_singleton.mp last] at inNew
    exact (known message inNew).2 old member accepted' inOld
  · rw [List.forall_mem_append, List.forall_mem_singleton]
    exact ⟨offered, fun message member => (known message member).1⟩

theorem of_drains (exact_ : world.Exact) (drains : List Drain) :
    Exact { world with drains } :=
  ⟨exact_.rows, exact_.nextOutbox, exact_.published, exact_.once, exact_.offered⟩

end Exact

/-- Everything one turn of a drain can do. -/
inductive Turns (world : RelayWorld F) (index : ℕ) (drain : Drain)
    (publisher : List OutMsg → Option Error) : RelayWorld F → Prop
  | empty (nothing : world.store.pending = []) :
      Turns world index drain publisher
        { world with drains := world.drains.set index (drain.turn 0 none) }
  | refused
      (batch : List OutboxMessage)
      (failure : Error)
      (taken : batch = world.store.pending.take drain.size.toNat)
      (fails : publisher (batch.map OutboxMessage.outMsg) = some failure) :
      Turns world index drain publisher
        { world with
          drains := world.drains.set index (drain.turn 0 (some failure))
          offers := world.offers ++ [⟨batch, false⟩] }
  | accepted
      (batch : List OutboxMessage)
      (taken : batch = world.store.pending.take drain.size.toNat)
      (succeeds : publisher (batch.map OutboxMessage.outMsg) = none) :
      Turns world index drain publisher
        { world with
          store := { world.store with
            outbox := MemStore.publishedRows world.store.outbox batch }
          drains := world.drains.set index (drain.turn batch.length none)
          offers := world.offers ++ [⟨batch, true⟩] }

variable {world : RelayWorld F}

theorem Exact.turns
    (exact_ : world.Exact)
    (index : ℕ)
    (drain : Drain)
    (publisher : List OutMsg → Option Error) :
    world.Turns index drain publisher (world.stepDrain index drain publisher) := by
  have distinct : (world.store.outbox.map OutboxRow.msg).Nodup := exact_.rows ▸ world.ledger_nodup
  unfold stepDrain
  rw [MemStore.drainOutbox_eq drain.positive distinct]
  split_ifs with nothing
  · exact .empty nothing
  · generalize taken : world.store.pending.take drain.size.toNat = batch
    rw [Prog.exec_bind]
    simp only [Prog.request, Prog.exec, publish]
    cases answer : publisher (batch.map OutboxMessage.outMsg) with
    | some failure => exact .refused batch failure taken.symm answer
    | none => exact .accepted batch taken.symm answer

variable {index : ℕ} {drain : Drain} {publisher : List OutMsg → Option Error}
variable {after : RelayWorld F}

theorem Exact.turned
    (exact_ : world.Exact)
    (turns : world.Turns index drain publisher after) :
    after.Exact := by
  cases turns with
  | empty nothing => exact exact_.of_drains _
  | refused batch failure taken fails =>
      have first : batch <+: world.store.pending := taken ▸ List.take_prefix ..
      refine (exact_.offer first rfl rfl ?_).of_drains _
      intro row member
      simpa using exact_.published row member
  | accepted batch taken succeeds =>
      have first : batch <+: world.store.pending := taken ▸ List.take_prefix ..
      have marked : Exact { world with
          store := { world.store with
            outbox := MemStore.publishedRows world.store.outbox batch }
          offers := world.offers ++ [⟨batch, true⟩] } := by
        refine exact_.offer first (by simp [MemStore.publishedRows]) rfl ?_
        intro row member
        obtain ⟨old, present, rfl⟩ := List.mem_map.mp member
        simp only [Bool.or_eq_true, decide_eq_true_eq, true_and]
        exact or_congr_left (exact_.published old present)
      exact marked.of_drains _

theorem Exact.mem_pending_iff
    (exact_ : world.Exact)
    {message : OutboxMessage}
    (committed : message ∈ world.ledger) :
    message ∈ world.store.pending ↔
      ∀ offer ∈ world.offers, offer.accepted = true → message ∉ offer.batch := by
  refine ⟨fun member => (exact_.of_pending member).2, fun untaken => ?_⟩
  rw [← exact_.rows] at committed
  obtain ⟨row, present, rfl⟩ := List.mem_map.mp committed
  refine List.mem_map_of_mem (List.mem_filter.mpr ⟨present, ?_⟩)
  cases published : row.published with
  | false => rfl
  | true =>
      obtain ⟨offer, offered, accepted, inBatch⟩ := (exact_.published row present).mp published
      exact absurd inBatch (untaken offer offered accepted)

theorem Turns.offers
    (turns : world.Turns index drain publisher after) :
    after.offers = world.offers ∨
      ∃ offer, after.offers = world.offers ++ [offer] ∧ offer.batch <+: world.store.pending := by
  cases turns with
  | empty nothing => exact Or.inl rfl
  | refused batch failure taken fails =>
      exact Or.inr ⟨_, rfl, taken ▸ List.take_prefix ..⟩
  | accepted batch taken succeeds =>
      exact Or.inr ⟨_, rfl, taken ▸ List.take_prefix ..⟩

theorem Turns.drained
    {total : ℕ}
    {ended : Drain}
    (turns : world.Turns index drain publisher after)
    (running : world.drains[index]? = some drain)
    (found : after.drains[index]? = some ended)
    (returned : ended.outcome = some (total, none))
    (unfinished : drain.outcome = none) :
    ∀ message ∈ world.store.pending,
      ∃ offer ∈ after.offers, offer.accepted = true ∧ message ∈ offer.batch := by
  have within : index < world.drains.length := (List.getElem?_eq_some_iff.mp running).1
  cases turns with
  | empty nothing =>
      rw [nothing]
      nofun
  | refused batch failure taken fails =>
      rw [List.getElem?_set_self within] at found
      cases found
      simp [Drain.turn] at returned
  | accepted batch taken succeeds =>
      rw [List.getElem?_set_self within] at found
      cases found
      -- The batch was not full, so nothing pending was left out.
      have short : batch.length < drain.size.toNat := by
        by_contra full
        have enough : ¬(batch.length : ℤ) < drain.size := by omega
        simp [Drain.turn, enough, unfinished] at returned
      have whole : batch = world.store.pending := by
        rw [taken, List.take_eq_self_iff]
        rw [taken, List.length_take] at short
        omega
      intro message member
      exact ⟨⟨batch, true⟩, List.mem_append_right _ (List.mem_singleton_self _), rfl,
        whole ▸ member⟩

variable [GoFloat F]

theorem next_rolledBack
    {refused : Option Error}
    {faults : ℕ → Option Error}
    {body : TxM F Unit}
    {failure : Error}
    (failed : (world.store.transact refused faults body).1 = .error failure) :
    world.next (.transact refused faults body) = world := by
  simp [next, MemStore.transact_error failed, MemStore.enqueuedBy, failed]

/-- Everything one action can do to the histories. -/
theorem Exact.next
    (exact_ : world.Exact)
    (action : RelayAction F) :
    (world.next action).Exact ∧ world.ledger <+: (world.next action).ledger ∧
      ((world.next action).offers = world.offers ∨
        ∃ offer, (world.next action).offers = world.offers ++ [offer] ∧
          offer.batch <+: world.store.pending) := by
  have grows : ∀ messages after, world.store.Appends messages after →
      Exact { world with store := after, committed := world.committed ++ messages } ∧
        world.ledger <+: numbered 0 (world.committed ++ messages) := by
    intro messages after appends
    refine ⟨exact_.appends appends, ?_⟩
    rw [numbered_append]
    exact List.prefix_append ..
  cases action with
  | transact refused faults body =>
      obtain ⟨kept, more⟩ := grows _ _ (world.store.transact_appends refused faults body)
      exact ⟨kept, more, Or.inl rfl⟩
  | automation op =>
      obtain ⟨kept, more⟩ := grows _ _ (op.perform_effect world.store).appends
      exact ⟨kept, more, Or.inl rfl⟩
  | start relay => exact ⟨exact_.of_drains _, List.prefix_refl _, Or.inl rfl⟩
  | step index publisher =>
      simp only [RelayWorld.next]
      split
      · exact ⟨exact_, List.prefix_refl _, Or.inl rfl⟩
      · next drain running =>
          split
          · exact ⟨exact_, List.prefix_refl _, Or.inl rfl⟩
          · have turns := exact_.turns index drain publisher
            exact ⟨exact_.turned turns, List.prefix_refl _, turns.offers⟩

theorem exact_of_run (actions : List (RelayAction F)) : (run actions).Exact :=
  List.foldlRecOn actions RelayWorld.next Exact.new
    fun _ exact_ action _ => (exact_.next action).1

theorem run_append (past future : List (RelayAction F)) :
    run (past ++ future) = future.foldl next (run past) :=
  List.foldl_append

theorem ledger_grows (past future : List (RelayAction F)) :
    (run past).ledger <+: (run (past ++ future)).ledger := by
  induction future using List.reverseRecOn with
  | nil => rw [List.append_nil]
  | append_singleton future action ih =>
      rw [← List.append_assoc, run_append (past ++ future)]
      exact ih.trans ((exact_of_run (past ++ future)).next action).2.1

/-- What the outbox promises for a run that has a past and a future. -/
structure Promises (past future : List (RelayAction F)) : Prop where
  /-- A message of a committed operation stays unpublished in the store until a
  callback whose batch contained it has returned success. -/
  kept : ∀ message ∈ (run past).ledger,
    message ∈ (run (past ++ future)).store.pending ↔
      ∀ offer ∈ (run (past ++ future)).offers, offer.accepted = true → message ∉ offer.batch
  /-- After that it is never offered again. -/
  once : (run past).offers.Pairwise fun earlier later => earlier.accepted = true →
    ∀ message ∈ earlier.batch, message ∉ later.batch
  issued : ∀ offer ∈ (run past).offers, ∀ message ∈ offer.batch, message ∈ (run past).ledger
  /-- A run with a transaction that is rolled back is the run without it. -/
  rolledBack : ∀ refused faults body failure,
    ((run past).store.transact refused faults body).1 = .error failure →
    run (past ++ .transact refused faults body :: future) = run (past ++ future)
  /-- Whatever happens next offers nothing, or one batch that is a first part of the
  messages pending then, which are in the order of their ids. -/
  batches : ∀ action, (run (past ++ [action])).offers = (run past).offers ∨
    ∃ offer, (run (past ++ [action])).offers = (run past).offers ++ [offer] ∧
      offer.batch <+: (run past).store.pending ∧
      (run past).store.pending.Pairwise fun earlier later => earlier.id < later.id
  /-- A drain that now makes its last call of the store and returns without an error
  has published every message that was pending when the call began. -/
  drained : ∀ index publisher drain ended total,
    (run past).drains[index]? = some drain → drain.outcome = none →
    (run (past ++ [.step index publisher])).drains[index]? = some ended →
    ended.outcome = some (total, none) →
    ∀ message ∈ (run past).store.pending,
      message ∉ (run (past ++ [.step index publisher])).store.pending ∧
        ∃ offer ∈ (run (past ++ [.step index publisher])).offers,
          offer.accepted = true ∧ message ∈ offer.batch

/-- The outbox loses and invents nothing, in every interleaving of transactions,
operations on automation requests and drains, whatever the publisher answers. -/
theorem outbox_exact (past future : List (RelayAction F)) : Promises past future := by
  have exact_ := exact_of_run past
  refine ⟨?_, exact_.once, exact_.offered, ?_, ?_, ?_⟩
  · intro message committed
    exact (exact_of_run (past ++ future)).mem_pending_iff
      ((ledger_grows past future).subset committed)
  · intro refused faults body failure failed
    rw [run_append, run_append, List.foldl_cons, next_rolledBack failed]
  · intro action
    rw [run_append]
    refine (exact_.next action).2.2.imp_right ?_
    rintro ⟨offer, added, first⟩
    exact ⟨offer, added, first, exact_.pending_increasing⟩
  · intro index publisher drain ended total running unfinished found returned message member
    have later : run (past ++ [.step index publisher]) =
        (run past).stepDrain index drain publisher := by
      rw [run_append, List.foldl_cons, List.foldl_nil]
      simp only [next, running, unfinished]
    have turns := exact_.turns index drain publisher
    rw [← later] at turns
    obtain ⟨offer, offered, accepted, inBatch⟩ :=
      turns.drained running found returned unfinished message member
    refine ⟨fun pending => ?_, offer, offered, accepted, inBatch⟩
    exact ((exact_of_run _).of_pending pending).2 offer offered accepted inBatch

end RelayWorld

end InfraObserver
