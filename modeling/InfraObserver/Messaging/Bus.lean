import InfraObserver.Messaging.Worker

/-!
# The bus

The server delivers the messages of a stream to workers, and again when a delivery
is not acknowledged, until each was delivered `MaxDeliver` times. Then it gives up
and tells the watchers that are subscribed, which store the message as a dead
letter.

The bus has the server, workers that start and crash, and watchers that come and
go. The history of what was handled is kept next to it.
-/

namespace InfraObserver

/-! ## The server -/

/-- What the server does with a message. -/
inductive DeliveryStatus
  | waiting
  | outstanding
  | acknowledged
  | terminated
  | exhausted
  deriving DecidableEq

/-- A message of the stream. -/
structure Stored where
  subject : String
  header : StringMap (List String)
  data : String
  deliveries : ℕ
  status : DeliveryStatus
  deriving DecidableEq

/-- The server has neither an acknowledgement nor given up. -/
def Stored.isOpen (entry : Stored) : Bool :=
  entry.status = .waiting || entry.status = .outstanding

/-- A watcher works on an advisory: `maxDeliveryAdvisory`, as its callback reads it. -/
structure Rescue where
  watcher : ℕ
  sequence : ℕ
  deliveries : ℕ
  deriving DecidableEq

/-- How the callback of a watcher ends. -/
inductive RescueOutcome
  | unread
  | unpublished
  | stored (failedAt : Time)
  deriving DecidableEq

/-- The dead letter was published. -/
def RescueOutcome.isStored : RescueOutcome → Bool
  | .stored _ => true
  | .unread | .unpublished => false

/-- The server with workers that share a consumer, and with watchers. -/
structure Bus (worker : Worker) where
  /-- The messages of the stream; the first has sequence number one. -/
  stream : List Stored
  /-- Every worker that was started; one that has crashed is gone. -/
  workers : List (Option (WorkerState worker.shards))
  /-- The sequence numbers of messages whose handler has returned without an error. -/
  handled : List ℕ
  letters : List DeadLetter
  watchers : List ℕ
  rescues : List Rescue

/-- What happens next. -/
inductive BusAction (count : ℕ)
  | publish (subject : String) (header : StringMap (List String)) (data : String)
  | launch
  | deliver (sequence index : ℕ)
  /-- A worker takes an action; what it tells the server may be lost. -/
  | work (index : ℕ) (action : WorkerAction count) (arrives : Bool)
  /-- The letter that a goroutine is publishing is stored; the answer may still be lost. -/
  | lodge (index : ℕ) (shard : Fin count)
  | crash (index : ℕ)
  | expire (sequence : ℕ)
  | subscribe (watcher : ℕ)
  | unsubscribe (watcher : ℕ)
  | crashWatcher (watcher : ℕ)
  | rescue (position : ℕ) (outcome : RescueOutcome)

namespace Bus

variable {worker : Worker}

/-- Nothing was published and nobody is there. -/
def initial : Bus worker where
  stream := []
  workers := []
  handled := []
  letters := []
  watchers := []
  rescues := []

variable (bus : Bus worker)

/-- The message with a sequence number. -/
def stored : ℕ → Option Stored
  | 0 => none
  | position + 1 => bus.stream[position]?

/-- The stream with a change to one message. -/
def alter (change : Stored → Stored) : ℕ → Bus worker
  | 0 => bus
  | position + 1 => { bus with stream := bus.stream.modify position change }

/-- The stream with a message in another status. -/
def withStatus (status : DeliveryStatus) (sequence : ℕ) : Bus worker :=
  bus.alter (fun entry => { entry with status }) sequence

/-- Another state for a worker. -/
def withWorker
    (index : ℕ)
    (state : Option (WorkerState worker.shards)) : Bus worker :=
  { bus with workers := bus.workers.set index state }

/-- A delivery was not acknowledged: the message waits for the next one, or the
server gives up on it and tells the watchers that are subscribed now. -/
def redeliver (sequence : ℕ) : Bus worker :=
  match bus.stored sequence with
  | none => bus
  | some entry =>
      if entry.status = .outstanding then
        if entry.deliveries < worker.maxDeliver then bus.withStatus .waiting sequence
        else
          { bus.withStatus .exhausted sequence with
            rescues := bus.rescues ++
              bus.watchers.map fun watcher => ⟨watcher, sequence, entry.deliveries⟩ }
      else bus

/-- The server stops working on a message that is still open. -/
def close (status : DeliveryStatus) (sequence : ℕ) : Bus worker :=
  bus.alter (fun entry => if entry.isOpen then { entry with status } else entry) sequence

/-- The server is told how a message is settled. -/
def settle (message : Message) : Settlement → Bus worker
  | .ack => bus.close .acknowledged message.streamSeq
  | .nak _ => bus.redeliver message.streamSeq
  | .term _ => bus.close .terminated message.streamSeq

/-- A dead letter is stored. -/
def lodge (letter : DeadLetter) : Bus worker :=
  { bus with letters := bus.letters ++ [letter] }

/-- What a settlement says about the past: the handler was successful, or the letter
is stored. -/
def record (message : Message) : Settlement → Bus worker
  | .ack => { bus with handled := bus.handled ++ [message.streamSeq] }
  | .nak _ => bus
  | .term letter => bus.lodge letter

/-- What becomes of an event that a worker shows. -/
def apply (arrives : Bool) (bus : Bus worker) : WorkerEvent → Bus worker
  | .settled message settlement =>
      let recorded := bus.record message settlement
      if arrives then recorded.settle message settlement else recorded
  | _ => bus

/-- A message as it is delivered next. -/
def nextDelivery (entry : Stored) (sequence : ℕ) : Message where
  subject := entry.subject
  header := entry.header
  data := entry.data
  streamSeq := sequence
  attempt := entry.deliveries + 1

/-- The server has delivered a message once more. -/
def delivered (entry : Stored) : Stored :=
  { entry with
    deliveries := entry.deliveries + 1
    status := .outstanding }

/-- The dead letter of a watcher. -/
def letterOf [Platform]
    (worker : Worker)
    (rescue : Rescue)
    (entry : Stored)
    (failedAt : Time) : DeadLetter where
  id := stableID ["dlq", worker.durable, worker.stream, toString rescue.sequence]
  consumer := worker.durable
  stream := worker.stream
  sequence := rescue.sequence
  subject := entry.subject
  headers := entry.header
  payload := entry.data
  error := "delivery attempts exhausted without the handler reporting a result " ++
    "(worker stopped mid-handling?)"
  category := Category.transient.name
  reason := "max_deliveries"
  attempts := rescue.deliveries
  failedAt := failedAt

section

variable (change : Stored → Stored) (sequence other : ℕ)

@[simp] theorem alter_workers : (bus.alter change sequence).workers = bus.workers := by
  cases sequence <;> rfl

@[simp] theorem alter_handled : (bus.alter change sequence).handled = bus.handled := by
  cases sequence <;> rfl

@[simp] theorem alter_letters : (bus.alter change sequence).letters = bus.letters := by
  cases sequence <;> rfl

@[simp] theorem alter_rescues : (bus.alter change sequence).rescues = bus.rescues := by
  cases sequence <;> rfl

theorem stored_alter :
    (bus.alter change sequence).stored other =
      if other = sequence then (bus.stored other).map change else bus.stored other := by
  cases sequence with
  | zero =>
      cases other with
      | zero => rfl
      | succ position => rfl
  | succ target =>
      cases other with
      | zero => rfl
      | succ position =>
          simp only [alter, stored, List.getElem?_modify, Nat.add_right_cancel_iff]
          by_cases here : target = position
          · simp [here]
          · simp [here, Ne.symm here]

@[simp] theorem stored_withWorker (index : ℕ) (state : Option (WorkerState worker.shards)) :
    (bus.withWorker index state).stored = bus.stored := rfl

variable (message : Message) (settlement : Settlement)

@[simp] theorem record_workers : (bus.record message settlement).workers = bus.workers := by
  cases settlement <;> rfl

@[simp] theorem record_rescues : (bus.record message settlement).rescues = bus.rescues := by
  cases settlement <;> rfl

@[simp] theorem stored_record : (bus.record message settlement).stored = bus.stored := by
  cases settlement <;> rfl

@[simp] theorem redeliver_workers : (bus.redeliver sequence).workers = bus.workers := by
  unfold redeliver
  split
  · rfl
  · split_ifs <;> simp [withStatus]

@[simp] theorem redeliver_handled : (bus.redeliver sequence).handled = bus.handled := by
  unfold redeliver
  split
  · rfl
  · split_ifs <;> simp [withStatus]

@[simp] theorem redeliver_letters : (bus.redeliver sequence).letters = bus.letters := by
  unfold redeliver
  split
  · rfl
  · split_ifs <;> simp [withStatus]

end

end Bus

namespace Bus

variable [Platform] {worker : Worker}

/-- The callback of `WatchMaxDeliveries`, which is done with an advisory in any
case. -/
def rescued (bus : Bus worker) (rescue : Rescue) : RescueOutcome → Bus worker
  | .unread | .unpublished => bus
  | .stored failedAt =>
      match bus.stored rescue.sequence with
      | none => bus
      | some entry => bus.lodge (letterOf worker rescue entry failedAt)

theorem rescued_eq (bus : Bus worker) (rescue : Rescue) (outcome : RescueOutcome) :
    bus.rescued rescue outcome = bus ∨
      ∃ letter, bus.rescued rescue outcome = bus.lodge letter := by
  unfold rescued
  split
  · exact Or.inl rfl
  · exact Or.inl rfl
  · split
    · exact Or.inl rfl
    · exact Or.inr ⟨_, rfl⟩

/-- A worker performs an action. -/
def perform
    (bus : Bus worker)
    (index : ℕ)
    (action : WorkerAction worker.shards)
    (arrives : Bool) : Option (Bus worker) :=
  match bus.workers[index]? with
  | some (some state) =>
      (worker.step state action).map fun (next, shown) =>
        shown.foldl (apply arrives) (bus.withWorker index (some next))
  | _ => none

/-- What an action does, if it is enabled. -/
def step (bus : Bus worker) : BusAction worker.shards → Option (Bus worker)
  | .publish subject header data =>
      some { bus with stream := bus.stream ++ [⟨subject, header, data, 0, .waiting⟩] }
  | .launch => some { bus with workers := bus.workers ++ [some .initial] }
  | .deliver sequence index =>
      match bus.stored sequence with
      | none => none
      | some entry =>
          if entry.status = .waiting ∧ entry.deliveries < worker.maxDeliver then
            (bus.alter delivered sequence).perform index
              (.receive (nextDelivery entry sequence)) true
          else none
  | .work index action arrives =>
      match action with
      -- The server, not the worker, decides what is delivered.
      | .receive _ => none
      | action => bus.perform index action arrives
  | .lodge index shard =>
      match bus.workers[index]? with
      | some (some state) =>
          match (state.shard shard).routine with
          | .deadLettering message cause reason failedAt =>
              some (bus.lodge (worker.letterFor message cause reason failedAt))
          | _ => none
      | _ => none
  | .crash index => some (bus.withWorker index none)
  | .expire sequence => some (bus.redeliver sequence)
  | .subscribe watcher => some { bus with watchers := bus.watchers ++ [watcher] }
  | .unsubscribe watcher =>
      some { bus with watchers := bus.watchers.filter fun other => other ≠ watcher }
  | .crashWatcher watcher =>
      some
        { bus with
          watchers := bus.watchers.filter fun other => other ≠ watcher
          rescues := bus.rescues.filter fun rescue => rescue.watcher ≠ watcher }
  | .rescue position outcome =>
      match bus.rescues[position]? with
      | none => none
      | some rescue =>
          some ({ bus with rescues := bus.rescues.eraseIdx position }.rescued rescue outcome)

/-- The bus as a machine; it shows nothing. -/
def machine (worker : Worker) :
    Transition.Machine (Bus worker) (BusAction worker.shards) Empty where
  step bus action := (bus.step action).map fun after => (after, [])

/-! ## What an action does -/

variable {bus after : Bus worker} {action : BusAction worker.shards}
variable {sequence : ℕ}

/-- Everything one action can do. -/
inductive Moves (bus : Bus worker) : BusAction worker.shards → Bus worker → Prop
  | published (subject : String) (header : StringMap (List String)) (data : String) :
      Moves bus (.publish subject header data)
        { bus with stream := bus.stream ++ [⟨subject, header, data, 0, .waiting⟩] }
  | launched : Moves bus .launch { bus with workers := bus.workers ++ [some .initial] }
  | delivered
      (sequence index : ℕ)
      (entry : Stored)
      (state : WorkerState worker.shards)
      (found : bus.stored sequence = some entry)
      (live : bus.workers[index]? = some (some state)) :
      Moves bus (.deliver sequence index)
        ((bus.alter delivered sequence).withWorker index
          (some { state with callbacks := state.callbacks ++ [nextDelivery entry sequence] }))
  | worked
      (index : ℕ)
      (action : WorkerAction worker.shards)
      (arrives : Bool)
      (state next : WorkerState worker.shards)
      (live : bus.workers[index]? = some (some state))
      (same : next.held = state.held) :
      Moves bus (.work index action arrives) (bus.withWorker index (some next))
  | settled
      (index : ℕ)
      (action : WorkerAction worker.shards)
      (arrives : Bool)
      (state next : WorkerState worker.shards)
      (message : Message)
      (settlement : Settlement)
      (live : bus.workers[index]? = some (some state))
      (lost : next.held + [message] = state.held)
      (letters : ∀ letter, settlement = .term letter → ∃ cause reason failedAt,
        letter = worker.letterFor message cause reason failedAt) :
      Moves bus (.work index action arrives)
        (apply arrives (bus.withWorker index (some next)) (.settled message settlement))
  | lodged (index : ℕ) (shard : Fin worker.shards) (letter : DeadLetter) :
      Moves bus (.lodge index shard) (bus.lodge letter)
  | crashed (index : ℕ) : Moves bus (.crash index) (bus.withWorker index none)
  | expired (sequence : ℕ) : Moves bus (.expire sequence) (bus.redeliver sequence)
  | subscribed (watcher : ℕ) :
      Moves bus (.subscribe watcher) { bus with watchers := bus.watchers ++ [watcher] }
  | unsubscribed (watcher : ℕ) :
      Moves bus (.unsubscribe watcher)
        { bus with watchers := bus.watchers.filter fun other => other ≠ watcher }
  | watcherCrashed (watcher : ℕ) :
      Moves bus (.crashWatcher watcher)
        { bus with
          watchers := bus.watchers.filter fun other => other ≠ watcher
          rescues := bus.rescues.filter fun rescue => rescue.watcher ≠ watcher }
  | rescued
      (position : ℕ)
      (outcome : RescueOutcome)
      (rescue : Rescue)
      (found : bus.rescues[position]? = some rescue) :
      Moves bus (.rescue position outcome)
        ({ bus with rescues := bus.rescues.eraseIdx position }.rescued rescue outcome)

theorem own_action
    {state next : WorkerState worker.shards}
    {action : WorkerAction worker.shards}
    {shown : List WorkerEvent}
    (moves : worker.Moves state action next shown)
    (own : ∀ message, action ≠ .receive message) :
    (next.held = state.held ∧
      ∀ arrives (bus : Bus worker), shown.foldl (apply arrives) bus = bus) ∨
    ∃ message settlement, shown = [.settled message settlement] ∧
      next.held + [message] = state.held ∧
      ∀ letter, settlement = .term letter → ∃ cause reason failedAt,
        letter = worker.letterFor message cause reason failedAt := by
  have account := moves.account
  cases moves with
  | received message consuming => exact absurd rfl (own message)
  | gaveBack message member cancelled =>
      exact Or.inr ⟨message, _, rfl, account.trans (add_zero _), nofun⟩
  | settled action index message settlement inHand unstarted letters =>
      exact Or.inr ⟨message, settlement, rfl, account.trans (add_zero _), letters⟩
  | handedBack index message rest draining found =>
      exact Or.inr ⟨message, _, rfl, account.trans (add_zero _), nofun⟩
  | _ => exact Or.inl ⟨by simpa using account, fun _ _ => rfl⟩

theorem perform_eq_some
    {index : ℕ}
    {action : WorkerAction worker.shards}
    {arrives : Bool}
    (taken : bus.perform index action arrives = some after) :
    ∃ state next shown, bus.workers[index]? = some (some state) ∧
      worker.step state action = some (next, shown) ∧
      after = shown.foldl (apply arrives) (bus.withWorker index (some next)) := by
  unfold perform at taken
  split at taken
  · next state live =>
      obtain ⟨⟨next, shown⟩, stepped, same⟩ := Option.map_eq_some_iff.mp taken
      exact ⟨state, next, shown, live, stepped, same.symm⟩
  · cases taken

theorem moves_of_work
    {index : ℕ}
    {action : WorkerAction worker.shards}
    {arrives : Bool}
    (own : ∀ message, action ≠ .receive message)
    (taken : bus.perform index action arrives = some after) :
    bus.Moves (.work index action arrives) after := by
  obtain ⟨state, next, shown, live, stepped, rfl⟩ := perform_eq_some taken
  rcases own_action (Worker.moves_of_step stepped) own with
    ⟨same, quiet⟩ | ⟨message, settlement, rfl, lost, letters⟩
  · rw [quiet]
    exact .worked index action arrives state next live same
  · exact .settled index action arrives state next message settlement live lost letters

theorem moves_of_step (taken : bus.step action = some after) : bus.Moves action after := by
  cases action with
  | publish subject header data =>
      cases taken
      exact .published subject header data
  | launch =>
      cases taken
      exact .launched
  | deliver sequence index =>
      simp only [step] at taken
      split at taken
      · cases taken
      · next entry found =>
          rw [Option.ite_none_right_eq_some] at taken
          obtain ⟨state, next, shown, live, stepped, rfl⟩ := perform_eq_some taken.2
          rw [alter_workers] at live
          simp only [Worker.step, Option.ite_none_right_eq_some, Option.some.injEq,
            Prod.mk.injEq] at stepped
          obtain ⟨consuming, rfl, rfl⟩ := stepped
          exact .delivered sequence index entry state found live
  | work index action arrives =>
      cases action with
      | receive message => cases taken
      | _ => exact moves_of_work (fun _ same => by cases same) taken
  | lodge index shard =>
      simp only [step] at taken
      split at taken
      · split at taken
        · cases taken
          exact .lodged index shard _
        · cases taken
      · cases taken
  | crash index =>
      cases taken
      exact .crashed index
  | expire sequence =>
      cases taken
      exact .expired sequence
  | subscribe watcher =>
      cases taken
      exact .subscribed watcher
  | unsubscribe watcher =>
      cases taken
      exact .unsubscribed watcher
  | crashWatcher watcher =>
      cases taken
      exact .watcherCrashed watcher
  | rescue position outcome =>
      simp only [step] at taken
      split at taken
      · cases taken
      · next rescue found =>
          cases taken
          exact .rescued position outcome rescue found

theorem moves_of_taken
    {shown : List Empty}
    (taken : (machine worker).step bus action = some (after, shown)) :
    bus.Moves action after := by
  obtain ⟨next, stepped, same⟩ := Option.map_eq_some_iff.mp taken
  cases same
  exact moves_of_step stepped

end Bus

end InfraObserver
