import InfraObserver.Domain.Platform
import InfraObserver.Library.Transition
import Mathlib.Algebra.BigOperators.Group.Finset.Basic
import Mathlib.Algebra.Order.Group.Multiset
import Mathlib.Data.Fintype.BigOperators

/-!
# The worker

A worker is a durable consumer with bounded, ordered concurrency. The client
calls its callback with each delivered message; the callback puts the message into
the buffer of a shard; one goroutine for each shard runs the handler and settles
the message; and `Run` waits for the end of the context and then shuts down.

Every action of the machine is what one goroutine does between two points at which
others can interfere. Where a `select` has several ready cases, several actions
are enabled.
-/

namespace InfraObserver

/-! ## Messages and options -/

/-- A delivered message. -/
structure Message where
  subject : String
  header : StringMap (List String)
  data : String
  streamSeq : ℕ
  /-- `Attempt`: which delivery of the message this is, counted from one. -/
  attempt : ℕ
  deriving DecidableEq

/-- The subject of dead letters. -/
def subjectDeadLetter : String := "system.deadletter"

/-- `WorkerOptions`, as far as they decide what happens and not when. -/
structure WorkerOptions where
  stream : String
  durable : String
  shards : ℤ
  queueSize : ℤ
  maxDeliver : ℤ
  retryDelay : Duration
  maxRetryDelay : Duration
  deadLetterRetryDelay : Duration
  keyFunc : Option (Message → String)

/-- A worker: the options with their defaults filled in. -/
structure Worker where
  stream : String
  durable : String
  shards : ℕ
  queueSize : ℕ
  maxDeliver : ℕ
  retryDelay : Duration
  maxRetryDelay : Duration
  deadLetterRetryDelay : Duration
  keyFunc : Message → String
  shardsPos : 0 < shards
  queuePos : 0 < queueSize
  maxDeliverPos : 0 < maxDeliver

/-- One second. -/
def Duration.second : Duration := ⟨1000000000, by decide, by decide⟩

/-- Five seconds. -/
def Duration.fiveSeconds : Duration := ⟨5000000000, by decide, by decide⟩

/-- A count with its default. -/
def atLeastOne (count : ℤ) (default : ℕ) : ℕ :=
  if count < 1 then default else count.toNat

theorem atLeastOne_pos (count : ℤ) {default : ℕ} (positive : 0 < default) :
    0 < atLeastOne count default := by
  unfold atLeastOne
  split_ifs <;> omega

/-- A duration with its default. -/
def positiveOr (duration default : Duration) : Duration :=
  if duration ≤ Duration.zero then default else duration

/-- `NewWorker`. -/
def newWorker (options : WorkerOptions) : Worker where
  stream := options.stream
  durable := options.durable
  shards := atLeastOne options.shards 1
  queueSize := atLeastOne options.queueSize 1
  maxDeliver := atLeastOne options.maxDeliver 5
  retryDelay := positiveOr options.retryDelay .second
  maxRetryDelay := positiveOr options.maxRetryDelay .minute
  deadLetterRetryDelay := positiveOr options.deadLetterRetryDelay .fiveSeconds
  keyFunc := options.keyFunc.getD Message.subject
  shardsPos := atLeastOne_pos _ (by decide)
  queuePos := atLeastOne_pos _ (by decide)
  maxDeliverPos := atLeastOne_pos _ (by decide)

/-! ## What becomes of a message -/

/-- A dead letter, with what it says about the message. -/
structure DeadLetter where
  id : String
  consumer : String
  stream : String
  sequence : ℕ
  subject : String
  headers : StringMap (List String)
  payload : String
  error : String
  category : String
  reason : String
  attempts : ℕ
  failedAt : Time
  deriving DecidableEq

/-- How a message is settled with the server. -/
inductive Settlement
  | ack
  | nak (delay : Duration)
  /-- `Term`, after the dead letter was stored. -/
  | term (letter : DeadLetter)
  deriving DecidableEq

/-- How a handler ends. -/
inductive HandlerResult
  | returned (err : Option Error)
  | panicked (text : String)
  deriving DecidableEq

/-- `safeHandle`: a panic is a permanent error. -/
def safeHandle : HandlerResult → Option Error
  | .returned err => err
  | .panicked text => some (Error.errorf .permanent ("handler panic: " ++ text))

/-- The sum of two durations, which wraps around. -/
def Duration.plus (left right : Duration) : Duration where
  ns := (left.ns + right.ns).bmod (2 ^ 64)
  lower := by
    have bound := Int.le_bmod (x := left.ns + right.ns) (m := 2 ^ 64) (by decide)
    omega
  upper := by
    have bound := Int.bmod_lt (x := left.ns + right.ns) (m := 2 ^ 64) (by decide)
    omega

namespace Worker

variable (worker : Worker)

/-- `shardFor`. -/
def shardFor (key : String) : Fin worker.shards :=
  ⟨(fnv32a key).toNat % worker.shards, Nat.mod_lt _ worker.shardsPos⟩

/-- The shard that a message is routed to. -/
def route (message : Message) : Fin worker.shards :=
  worker.shardFor (worker.keyFunc message)

/-- The loop of `backoff`: the delay doubles until the cap. -/
def backoffLoop (worker : Worker) : ℕ → Duration → Duration
  | 0, delay => delay
  | turns + 1, delay =>
      if delay < worker.maxRetryDelay then backoffLoop worker turns (delay.plus delay) else delay

/-- `backoff` before the jitter. -/
def backoff (attempt : ℕ) : Duration :=
  let delay := worker.backoffLoop (attempt - 1) worker.retryDelay
  if worker.maxRetryDelay < delay then worker.maxRetryDelay else delay

/-- What the switch of `process` decides. -/
inductive Verdict
  | settle (settlement : Settlement)
  | deadLetter (cause : Error) (reason : String)

/-- The switch of `process`. The jitter of a delay is up to the outside. -/
def verdict
    (cancelled : Bool)
    (jitter : Duration → Duration)
    (message : Message) : Option Error → Verdict
  | none => .settle .ack
  | some failure =>
      -- Shutdown interrupted the handler.
      if cancelled then .settle (.nak .zero)
      else if failure.isRetryable ∧ message.attempt < worker.maxDeliver then
        .settle (.nak (jitter (worker.backoff message.attempt)))
      else .deadLetter failure (if failure.isRetryable then "max_deliveries" else "poison")

/-- The envelope that `deadLetter` publishes. -/
def letterFor [Platform]
    (message : Message)
    (cause : Error)
    (reason : String)
    (failedAt : Time) : DeadLetter where
  id := stableID ["dlq", worker.durable, worker.stream, toString message.streamSeq]
  consumer := worker.durable
  stream := worker.stream
  sequence := message.streamSeq
  subject := message.subject
  headers := message.header
  payload := message.data
  error := cause.text
  category := cause.category.name
  reason := reason
  attempts := message.attempt
  failedAt := failedAt

end Worker

/-! ## The machine -/

/-- What a shard goroutine is doing. -/
inductive Routine
  | waiting
  /-- It has received a message and has not looked at the context yet. -/
  | took (message : Message)
  | handling (message : Message)
  /-- The dead letter of the message is being published. -/
  | deadLettering (message : Message) (cause : Error) (reason : String) (failedAt : Time)
  | left
  deriving DecidableEq

/-- The messages that a goroutine has in hand. -/
@[simp] def Routine.held : Routine → List Message
  | .took message | .handling message | .deadLettering message .. => [message]
  | .waiting | .left => []

/-- A shard: its channel and its goroutine. -/
structure Shard where
  buffer : List Message
  routine : Routine
  deriving DecidableEq

/-- Where `Run` is. -/
inductive Phase
  | consuming
  /-- It has stopped the consumer and waits for the goroutines. -/
  | stopping
  /-- It hands back what is buffered in the shards from an index on. -/
  | draining (index : ℕ)
  | returned
  deriving DecidableEq

/-- The state of a worker with a number of shards. -/
structure WorkerState (count : ℕ) where
  cancelled : Bool
  phase : Phase
  callbacks : List Message
  shard : Fin count → Shard

/-- What one goroutine of a worker does next. -/
inductive WorkerAction (count : ℕ)
  | receive (message : Message)
  | send (message : Message)
  | giveBack (message : Message)
  | take (index : Fin count)
  | leave (index : Fin count)
  /-- `process` looks at the context and calls the handler. -/
  | begin (index : Fin count)
  | finish
      (index : Fin count)
      (result : HandlerResult)
      (jitter : Duration → Duration)
      (failedAt : Time)
  /-- The publish of the dead letter returns. -/
  | published (index : Fin count) (failure : Option Error) (jitter : Duration → Duration)
  | cancel
  | stop
  | joined
  | timeout
  /-- One turn of the last loops of `Run`. -/
  | drain

/-- What a worker shows. -/
inductive WorkerEvent
  | received (message : Message)
  | started (message : Message)
  | settled (message : Message) (settlement : Settlement)
  deriving DecidableEq

namespace WorkerState

variable {count : ℕ}

/-- The state before anything was received. -/
def initial : WorkerState count where
  cancelled := false
  phase := .consuming
  callbacks := []
  shard _ := ⟨[], .waiting⟩

/-- The state with another shard at an index. -/
def withShard (state : WorkerState count) (index : Fin count) (shard : Shard) :
    WorkerState count :=
  { state with shard := Function.update state.shard index shard }

/-- The state with another goroutine at an index. -/
def withRoutine (state : WorkerState count) (index : Fin count) (routine : Routine) :
    WorkerState count :=
  state.withShard index { state.shard index with routine }

section

variable (state : WorkerState count) (index : Fin count) (shard : Shard) (routine : Routine)

@[simp] theorem withShard_phase : (state.withShard index shard).phase = state.phase := rfl

@[simp] theorem withShard_callbacks :
    (state.withShard index shard).callbacks = state.callbacks := rfl

@[simp] theorem withShard_self : (state.withShard index shard).shard index = shard :=
  Function.update_self ..

@[simp] theorem withShard_ne {other : Fin count} (different : other ≠ index) :
    (state.withShard index shard).shard other = state.shard other :=
  Function.update_of_ne different ..

variable {state index shard} in
/-- What holds of the new shard and of an old one holds of the one in its place. -/
@[elab_as_elim]
theorem withShard_cases
    {motive : Fin count → Shard → Prop}
    (other : Fin count)
    (new : motive index shard)
    (old : motive other (state.shard other)) :
    motive other ((state.withShard index shard).shard other) := by
  by_cases here : other = index
  · subst here
    rwa [withShard_self]
  · rwa [withShard_ne _ _ _ here]

@[simp] theorem withRoutine_self :
    (state.withRoutine index routine).shard index = { state.shard index with routine } :=
  withShard_self ..

@[simp] theorem withRoutine_ne {other : Fin count} (different : other ≠ index) :
    (state.withRoutine index routine).shard other = state.shard other :=
  withShard_ne _ _ _ different

end

end WorkerState

namespace Worker

variable [Platform] (worker : Worker) (state : WorkerState worker.shards)

/-- `process` from the end of the handler on. -/
def finish
    (index : Fin worker.shards)
    (message : Message)
    (result : HandlerResult)
    (jitter : Duration → Duration)
    (failedAt : Time) : WorkerState worker.shards × List WorkerEvent :=
  match worker.verdict state.cancelled jitter message (safeHandle result) with
  | .settle settlement => (state.withRoutine index .waiting, [.settled message settlement])
  | .deadLetter cause reason =>
      (state.withRoutine index (.deadLettering message cause reason failedAt), [])

/-- `process` after the dead letter was published, or was not. -/
def settleDead
    (message : Message)
    (letter : DeadLetter)
    (jitter : Duration → Duration) : Option Error → Settlement
  | some _ => .nak ((jitter (worker.backoff message.attempt)).plus worker.deadLetterRetryDelay)
  | none => .term letter

/-- One turn of the last loops of `Run` at a shard. -/
def drainAt (index : ℕ) : WorkerState worker.shards × List WorkerEvent :=
  if within : index < worker.shards then
    match (state.shard ⟨index, within⟩).buffer with
    | message :: rest =>
        (state.withShard ⟨index, within⟩ { state.shard ⟨index, within⟩ with buffer := rest },
          [.settled message (.nak .zero)])
    | [] => ({ state with phase := .draining (index + 1) }, [])
  else ({ state with phase := .returned }, [])

/-- What an action does, if it is enabled. -/
def step : WorkerAction worker.shards → Option (WorkerState worker.shards × List WorkerEvent)
  | .receive message =>
      if state.phase = .consuming then
        some ({ state with callbacks := state.callbacks ++ [message] }, [.received message])
      else none
  | .send message =>
      let shard := state.shard (worker.route message)
      if message ∈ state.callbacks ∧ shard.buffer.length < worker.queueSize then
        some ({ state with callbacks := state.callbacks.erase message }.withShard
          (worker.route message) { shard with buffer := shard.buffer ++ [message] }, [])
      else none
  | .giveBack message =>
      if message ∈ state.callbacks ∧ state.cancelled then
        some ({ state with callbacks := state.callbacks.erase message },
          [.settled message (.nak .zero)])
      else none
  | .take index =>
      match state.shard index with
      | ⟨message :: rest, .waiting⟩ =>
          some (state.withShard index ⟨rest, .took message⟩, [])
      | _ => none
  | .leave index =>
      match (state.shard index).routine with
      | .waiting => if state.cancelled then some (state.withRoutine index .left, []) else none
      | _ => none
  | .begin index =>
      match (state.shard index).routine with
      | .took message =>
          if state.cancelled then
            some (state.withRoutine index .waiting, [.settled message (.nak .zero)])
          else some (state.withRoutine index (.handling message), [.started message])
      | _ => none
  | .finish index result jitter failedAt =>
      match (state.shard index).routine with
      | .handling message => some (worker.finish state index message result jitter failedAt)
      | _ => none
  | .published index failure jitter =>
      match (state.shard index).routine with
      | .deadLettering message cause reason failedAt =>
          some (state.withRoutine index .waiting,
            [.settled message (worker.settleDead message
              (worker.letterFor message cause reason failedAt) jitter failure)])
      | _ => none
  | .cancel => some ({ state with cancelled := true }, [])
  | .stop =>
      if state.phase = .consuming ∧ state.cancelled then
        some ({ state with phase := .stopping }, [])
      else none
  | .joined =>
      if state.phase = .stopping ∧ ∀ index, (state.shard index).routine = .left then
        some ({ state with phase := .draining 0 }, [])
      else none
  | .timeout =>
      if state.phase = .stopping then some ({ state with phase := .draining 0 }, []) else none
  | .drain =>
      match state.phase with
      | .draining index => some (worker.drainAt state index)
      | _ => none

/-- The worker as a machine. -/
def machine :
    Transition.Machine (WorkerState worker.shards) (WorkerAction worker.shards) WorkerEvent where
  step := worker.step

variable {worker state} {after : WorkerState worker.shards}
variable {action : WorkerAction worker.shards} {shown : List WorkerEvent}

/-- Everything one action can do. -/
inductive Moves (worker : Worker) (state : WorkerState worker.shards) :
    WorkerAction worker.shards → WorkerState worker.shards → List WorkerEvent → Prop
  | received (message : Message) (consuming : state.phase = .consuming) :
      Moves worker state (.receive message)
        { state with callbacks := state.callbacks ++ [message] } [.received message]
  | sent
      (message : Message)
      (member : message ∈ state.callbacks)
      (room : (state.shard (worker.route message)).buffer.length < worker.queueSize) :
      Moves worker state (.send message)
        ({ state with callbacks := state.callbacks.erase message }.withShard
          (worker.route message)
          { state.shard (worker.route message) with
            buffer := (state.shard (worker.route message)).buffer ++ [message] }) []
  | gaveBack
      (message : Message)
      (member : message ∈ state.callbacks)
      (cancelled : state.cancelled = true) :
      Moves worker state (.giveBack message)
        { state with callbacks := state.callbacks.erase message }
        [.settled message (.nak .zero)]
  | took
      (index : Fin worker.shards)
      (message : Message)
      (rest : List Message)
      (found : state.shard index = ⟨message :: rest, .waiting⟩) :
      Moves worker state (.take index) (state.withShard index ⟨rest, .took message⟩) []
  | left
      (index : Fin worker.shards)
      (idle : (state.shard index).routine = .waiting)
      (cancelled : state.cancelled = true) :
      Moves worker state (.leave index) (state.withRoutine index .left) []
  | started
      (index : Fin worker.shards)
      (message : Message)
      (found : (state.shard index).routine = .took message)
      (running : state.cancelled = false) :
      Moves worker state (.begin index) (state.withRoutine index (.handling message))
        [.started message]
  | settled
      (action : WorkerAction worker.shards)
      (index : Fin worker.shards)
      (message : Message)
      (settlement : Settlement)
      (inHand : (state.shard index).routine.held = [message])
      (unstarted : (state.shard index).routine = .took message → state.cancelled = true)
      (letters : ∀ letter, settlement = .term letter → ∃ cause reason failedAt,
        letter = worker.letterFor message cause reason failedAt) :
      Moves worker state action (state.withRoutine index .waiting) [.settled message settlement]
  | failed
      (index : Fin worker.shards)
      (message : Message)
      (result : HandlerResult)
      (jitter : Duration → Duration)
      (failedAt : Time)
      (cause : Error)
      (reason : String)
      (found : (state.shard index).routine = .handling message) :
      Moves worker state (.finish index result jitter failedAt)
        (state.withRoutine index (.deadLettering message cause reason failedAt)) []
  | cancelled :
      Moves worker state .cancel { state with cancelled := true } []
  | stopped (consuming : state.phase = .consuming) (cancelled : state.cancelled = true) :
      Moves worker state .stop { state with phase := .stopping } []
  | joined
      (stopping : state.phase = .stopping)
      (gone : ∀ index, (state.shard index).routine = .left) :
      Moves worker state .joined { state with phase := .draining 0 } []
  | timedOut (stopping : state.phase = .stopping) :
      Moves worker state .timeout { state with phase := .draining 0 } []
  | handedBack
      (index : Fin worker.shards)
      (message : Message)
      (rest : List Message)
      (draining : state.phase = .draining index)
      (found : (state.shard index).buffer = message :: rest) :
      Moves worker state .drain
        (state.withShard index { state.shard index with buffer := rest })
        [.settled message (.nak .zero)]
  | passed
      (index : Fin worker.shards)
      (draining : state.phase = .draining index)
      (empty : (state.shard index).buffer = []) :
      Moves worker state .drain { state with phase := .draining (index + 1) } []
  | ended
      (index : ℕ)
      (draining : state.phase = .draining index)
      (beyond : worker.shards ≤ index) :
      Moves worker state .drain { state with phase := .returned } []

theorem finish_moves
    {index : Fin worker.shards}
    {message : Message}
    (result : HandlerResult)
    (jitter : Duration → Duration)
    (failedAt : Time)
    (found : (state.shard index).routine = .handling message) :
    worker.Moves state (.finish index result jitter failedAt)
      (worker.finish state index message result jitter failedAt).1
      (worker.finish state index message result jitter failedAt).2 := by
  unfold finish
  cases decided : worker.verdict state.cancelled jitter message (safeHandle result) with
  | deadLetter cause reason =>
      exact .failed index message result jitter failedAt cause reason found
  | settle settlement =>
      refine .settled _ index message settlement (by rw [found]; rfl)
        (fun took => by rw [found] at took; cases took) ?_
      rintro letter rfl
      -- The switch itself never terminates a message.
      unfold verdict at decided
      split at decided
      · cases decided
      · split_ifs at decided <;> cases decided

theorem drainAt_moves
    {index : ℕ}
    (draining : state.phase = .draining index) :
    worker.Moves state .drain (worker.drainAt state index).1 (worker.drainAt state index).2 := by
  unfold drainAt
  split_ifs with within
  · split
    · next message rest found => exact .handedBack ⟨index, within⟩ message rest draining found
    · next empty => exact .passed ⟨index, within⟩ draining empty
  · exact .ended index draining (Nat.le_of_not_lt within)

theorem moves_of_step (taken : worker.step state action = some (after, shown)) :
    worker.Moves state action after shown := by
  cases action with
  | receive message =>
      simp only [step, Option.ite_none_right_eq_some, Option.some.injEq, Prod.mk.injEq] at taken
      obtain ⟨consuming, rfl, rfl⟩ := taken
      exact .received message consuming
  | send message =>
      simp only [step, Option.ite_none_right_eq_some, Option.some.injEq, Prod.mk.injEq] at taken
      obtain ⟨⟨member, room⟩, rfl, rfl⟩ := taken
      exact .sent message member room
  | giveBack message =>
      simp only [step, Option.ite_none_right_eq_some, Option.some.injEq, Prod.mk.injEq] at taken
      obtain ⟨⟨member, cancelled⟩, rfl, rfl⟩ := taken
      exact .gaveBack message member cancelled
  | take index =>
      simp only [step] at taken
      split at taken
      · next message rest found =>
          cases taken
          exact .took index message rest found
      · cases taken
  | leave index =>
      simp only [step] at taken
      split at taken
      · next idle =>
          simp only [Option.ite_none_right_eq_some, Option.some.injEq, Prod.mk.injEq] at taken
          obtain ⟨cancelled, rfl, rfl⟩ := taken
          exact .left index idle cancelled
      · cases taken
  | begin index =>
      simp only [step] at taken
      split at taken
      · next message found =>
          split_ifs at taken with cancelled
          · cases taken
            exact .settled _ index message _ (by rw [found]; rfl) (fun _ => cancelled) nofun
          · cases taken
            exact .started index message found (Bool.eq_false_iff.mpr cancelled)
      · cases taken
  | finish index result jitter failedAt =>
      simp only [step] at taken
      split at taken
      · next message found =>
          have moved := finish_moves result jitter failedAt found
          rw [Option.some.inj taken] at moved
          exact moved
      · cases taken
  | published index failure jitter =>
      simp only [step] at taken
      split at taken
      · next message cause reason failedAt found =>
          cases taken
          refine .settled _ index message _ (by rw [found]; rfl)
            (fun took => by rw [found] at took; cases took) ?_
          intro letter same
          cases failure with
          | some failure => cases same
          | none =>
              cases same
              exact ⟨cause, reason, failedAt, rfl⟩
      · cases taken
  | cancel =>
      cases taken
      exact .cancelled
  | stop =>
      simp only [step, Option.ite_none_right_eq_some, Option.some.injEq, Prod.mk.injEq] at taken
      obtain ⟨⟨consuming, cancelled⟩, rfl, rfl⟩ := taken
      exact .stopped consuming cancelled
  | joined =>
      simp only [step, Option.ite_none_right_eq_some, Option.some.injEq, Prod.mk.injEq] at taken
      obtain ⟨⟨stopping, gone⟩, rfl, rfl⟩ := taken
      exact .joined stopping gone
  | timeout =>
      simp only [step, Option.ite_none_right_eq_some, Option.some.injEq, Prod.mk.injEq] at taken
      obtain ⟨stopping, rfl, rfl⟩ := taken
      exact .timedOut stopping
  | drain =>
      simp only [step] at taken
      split at taken
      · next index draining =>
          have moved := drainAt_moves draining
          rw [Option.some.inj taken] at moved
          exact moved
      · cases taken

end Worker

/-! ## Every message is accounted for -/

namespace WorkerEvent

/-- The message that was handed to the callback. -/
@[simp] def receives : WorkerEvent → List Message
  | .received message => [message]
  | _ => []

/-- The message whose handler was called. -/
@[simp] def starts : WorkerEvent → List Message
  | .started message => [message]
  | _ => []

/-- The message that was settled. -/
@[simp] def settles : WorkerEvent → List Message
  | .settled message _ => [message]
  | _ => []

end WorkerEvent

/-- The messages of a trace that were handed to the callback, in order. -/
abbrev receivedIn (trace : List WorkerEvent) : List Message :=
  trace.flatMap WorkerEvent.receives

/-- The messages of a trace whose handler was called, in order. -/
abbrev startedIn (trace : List WorkerEvent) : List Message :=
  trace.flatMap WorkerEvent.starts

/-- The messages of a trace that were settled, in order. -/
abbrev settledIn (trace : List WorkerEvent) : List Message :=
  trace.flatMap WorkerEvent.settles

/-- The messages of a shard, in the order in which they leave it. -/
def Shard.held (shard : Shard) : List Message :=
  shard.routine.held ++ shard.buffer

namespace WorkerState

variable {count : ℕ}

/-- The messages that a worker has and has not settled. -/
def held (state : WorkerState count) : Multiset Message :=
  state.callbacks + ∑ index, ((state.shard index).held : Multiset Message)

theorem held_withShard
    (state : WorkerState count)
    (index : Fin count)
    (shard : Shard)
    (lost gained : List Message)
    (same : (shard.held ++ lost).Perm ((state.shard index).held ++ gained)) :
    (state.withShard index shard).held + lost = state.held + gained := by
  have others : ∀ other ∈ Finset.univ.erase index,
      ((Function.update state.shard index shard other).held : Multiset Message) =
        (state.shard other).held := by
    intro other different
    rw [Function.update_of_ne (Finset.ne_of_mem_erase different)]
  have here : (shard.held + lost : Multiset Message) = (state.shard index).held + gained := by
    simpa only [Multiset.coe_add, Multiset.coe_eq_coe] using same
  simp only [held, withShard]
  rw [← Finset.add_sum_erase _ _ (Finset.mem_univ index),
    ← Finset.add_sum_erase Finset.univ (fun index => ((state.shard index).held : Multiset Message))
      (Finset.mem_univ index), Finset.sum_congr rfl others, Function.update_self]
  calc
    _ = state.callbacks + (shard.held + lost) +
        ∑ other ∈ Finset.univ.erase index, ((state.shard other).held : Multiset Message) := by
      ac_rfl
    _ = _ := by
      rw [here]
      ac_rfl

theorem callbacks_erase
    {state : WorkerState count}
    {message : Message}
    (member : message ∈ state.callbacks) :
    held { state with callbacks := state.callbacks.erase message } + [message] = state.held := by
  have callbacks : ((state.callbacks.erase message : List Message) : Multiset Message) + [message] =
      state.callbacks := by
    rw [Multiset.coe_add, Multiset.coe_eq_coe]
    exact (List.perm_append_singleton ..).trans (List.perm_cons_erase member).symm
  simp only [held]
  rw [add_right_comm, callbacks]

theorem held_withRoutine
    (state : WorkerState count)
    (index : Fin count)
    (routine : Routine)
    (lost : List Message)
    (same : routine.held ++ lost = (state.shard index).routine.held) :
    (state.withRoutine index routine).held + lost = state.held := by
  refine (state.held_withShard index _ lost [] ?_).trans (add_zero _)
  simp only [Shard.held, ← same, List.append_assoc, List.append_nil]
  exact List.perm_append_comm.append_left _

end WorkerState

namespace Worker

variable [Platform] {worker : Worker} {state after : WorkerState worker.shards}
variable {action : WorkerAction worker.shards} {shown trace : List WorkerEvent}

/-- What a worker has after an action, with what the action settled, is what it had
before, with what the action received. -/
theorem Moves.account (moves : worker.Moves state action after shown) :
    after.held + settledIn shown = state.held + receivedIn shown := by
  cases moves with
  | received message consuming =>
      change ((state.callbacks ++ [message] : List Message) : Multiset Message) + _ + 0 =
        state.callbacks + _ + [message]
      rw [← Multiset.coe_add, add_zero, add_right_comm]
  | sent message member room =>
      have added := WorkerState.held_withShard
        { state with callbacks := state.callbacks.erase message } (worker.route message)
        { state.shard (worker.route message) with
          buffer := (state.shard (worker.route message)).buffer ++ [message] } [] [message]
        (by simp [Shard.held])
      refine (added.trans ?_).trans (add_zero _).symm
      exact WorkerState.callbacks_erase member
  | gaveBack message member cancelled =>
      exact (WorkerState.callbacks_erase member).trans (add_zero _).symm
  | took index message rest found =>
      refine (state.held_withShard index _ [] [] ?_)
      simp [Shard.held, Routine.held, found]
  | left index idle cancelled =>
      refine (state.held_withRoutine index .left [] ?_).trans (add_zero _).symm
      simp [Routine.held, idle]
  | started index message found running =>
      refine (state.held_withRoutine index (.handling message) [] ?_).trans (add_zero _).symm
      simp [Routine.held, found]
  | settled action index message settlement inHand unstarted letters =>
      refine (state.held_withRoutine index .waiting [message] ?_).trans (add_zero _).symm
      rw [inHand]
      rfl
  | failed index message result jitter failedAt cause reason found =>
      refine (state.held_withRoutine index (.deadLettering message cause reason failedAt) []
        ?_).trans (add_zero _).symm
      simp [Routine.held, found]
  | handedBack index message rest draining found =>
      refine state.held_withShard index _ [message] [] ?_
      simp only [Shard.held, found, List.append_nil, List.append_assoc]
      exact (List.perm_append_singleton message rest).append_left _
  | _ => rfl

end Worker

end InfraObserver
