import InfraObserver.Messaging.Worker
import Mathlib.Algebra.Order.BigOperators.Group.Finset

/-!
# Order and bound of a worker

A message goes to the shard of its key, a shard is first in first out, and one
goroutine works on a shard. So messages with the same key are handled one at a
time and in the order in which they were received, and a worker never has more
than its capacity in buffers and in hand.
-/

namespace InfraObserver

/-! ## Queues -/

/-- The messages of a shard whose handler was not called yet, in order. -/
def Shard.unstarted (shard : Shard) : List Message :=
  match shard.routine with
  | .took message => message :: shard.buffer
  | _ => shard.buffer

theorem Routine.length_held_le (routine : Routine) : routine.held.length ≤ 1 := by
  cases routine <;> simp

/-- The messages in buffers and in hand. -/
def WorkerState.load {count : ℕ} (state : WorkerState count) : ℕ :=
  ∑ index, (state.shard index).held.length

/-- The client calls the callback for one message at a time. -/
def OneCallback {count : ℕ} (state : WorkerState count) : WorkerAction count → Prop
  | .receive _ => state.callbacks = []
  | _ => True

instance {count : ℕ} (state : WorkerState count) : DecidablePred (OneCallback state)
  | .receive _ => inferInstanceAs (Decidable (state.callbacks = []))
  | .send _ | .giveBack _ | .take _ | .leave _ | .begin _ | .finish .. | .published .. | .cancel
  | .stop | .joined | .timeout | .drain => isTrue trivial

namespace Worker

variable {worker : Worker}

/-- The messages of a list that are routed to a shard. -/
def routedTo (worker : Worker) (index : Fin worker.shards) (messages : List Message) :
    List Message :=
  messages.filter fun message => worker.route message = index

@[simp] theorem routedTo_append (index : Fin worker.shards) (first second : List Message) :
    worker.routedTo index (first ++ second) =
      worker.routedTo index first ++ worker.routedTo index second :=
  List.filter_append ..

@[simp] theorem routedTo_nil (index : Fin worker.shards) : worker.routedTo index [] = [] := rfl

@[simp] theorem routedTo_self (message : Message) :
    worker.routedTo (worker.route message) [message] = [message] := by
  simp [routedTo]

theorem routedTo_ne {index : Fin worker.shards} {message : Message}
    (elsewhere : index ≠ worker.route message) :
    worker.routedTo index [message] = [] := by
  simp [routedTo, Ne.symm elsewhere]

theorem filter_key_routedTo (key : String) (messages : List Message) :
    (worker.routedTo (worker.shardFor key) messages).filter
        (fun message => worker.keyFunc message = key) =
      messages.filter fun message => worker.keyFunc message = key := by
  rw [routedTo, List.filter_filter]
  refine List.filter_congr fun message _ => ?_
  by_cases same : worker.keyFunc message = key <;> simp [same, route]

/-- The queues of a worker agree with what it has shown. -/
structure Ordered
    (worker : Worker)
    (state : WorkerState worker.shards)
    (trace : List WorkerEvent) : Prop where
  stopped : state.phase ≠ .consuming → state.cancelled = true
  single : state.callbacks.length ≤ 1
  room : ∀ index, (state.shard index).buffer.length ≤ worker.queueSize
  routed : ∀ index, ∀ message ∈ (state.shard index).held, worker.route message = index
  queued : state.cancelled = false → ∀ index,
    worker.routedTo index (receivedIn trace) =
      worker.routedTo index (startedIn trace) ++ (state.shard index).unstarted ++
        worker.routedTo index state.callbacks
  started : ∀ index, worker.routedTo index (startedIn trace) <+:
    worker.routedTo index (receivedIn trace)

variable {state after : WorkerState worker.shards}
variable {action : WorkerAction worker.shards} {shown trace : List WorkerEvent}

theorem Ordered.initial : worker.Ordered .initial [] :=
  ⟨fun moved => absurd rfl moved, Nat.zero_le _, fun _ => Nat.zero_le _, fun _ _ => nofun,
    fun _ _ => rfl, fun _ => List.prefix_refl _⟩

theorem Ordered.reshard
    (ordered : worker.Ordered state trace)
    {index : Fin worker.shards}
    {shard : Shard}
    {settled : List WorkerEvent}
    (room : shard.buffer.length ≤ worker.queueSize)
    (kept : ∀ message ∈ shard.held, message ∈ (state.shard index).held)
    (same : state.cancelled = false → shard.unstarted = (state.shard index).unstarted)
    (silent : receivedIn settled = [] ∧ startedIn settled = []) :
    worker.Ordered (state.withShard index shard) (trace ++ settled) := by
  refine ⟨ordered.stopped, ordered.single, fun other => ?_, fun other => ?_,
    fun running other => ?_, by simpa [silent] using ordered.started⟩
  · exact WorkerState.withShard_cases other room (ordered.room other)
  · refine WorkerState.withShard_cases other ?_ (ordered.routed other)
    exact fun message member => ordered.routed index message (kept message member)
  · have queued := ordered.queued running
    refine WorkerState.withShard_cases other ?_ ?_
    · simpa [silent, same running] using queued index
    · simpa [silent] using queued other

theorem Ordered.rephase
    (ordered : worker.Ordered state trace)
    (cancelled : state.cancelled = true)
    (phase : Phase) :
    worker.Ordered { state with phase } (trace ++ []) := by
  rw [List.append_nil]
  exact ⟨fun _ => cancelled, ordered.single, ordered.room, ordered.routed, ordered.queued,
    ordered.started⟩

theorem Ordered.sent
    (ordered : worker.Ordered state trace)
    {message : Message}
    (member : message ∈ state.callbacks)
    (room : (state.shard (worker.route message)).buffer.length < worker.queueSize) :
    worker.Ordered ({ state with callbacks := state.callbacks.erase message }.withShard
      (worker.route message) { state.shard (worker.route message) with
        buffer := (state.shard (worker.route message)).buffer ++ [message] }) (trace ++ []) := by
  -- The callback that sends is the only one.
  obtain alone : state.callbacks = [message] := by
    obtain ⟨only, callbacks⟩ := List.length_eq_one_iff.mp
      (Nat.le_antisymm ordered.single (List.length_pos_of_mem member))
    rw [callbacks, List.mem_singleton] at member
    rw [callbacks, member]
  refine ⟨ordered.stopped, by simp [alone], fun other => ?_, fun other => ?_, ?_,
    by simpa using ordered.started⟩
  · refine WorkerState.withShard_cases other ?_ (ordered.room other)
    simpa using Nat.succ_le_of_lt room
  · refine WorkerState.withShard_cases other (fun waiting held => ?_) (ordered.routed other)
    simp only [Shard.held, List.mem_append, List.mem_singleton, ← or_assoc] at held
    rcases held with old | rfl
    · exact ordered.routed _ waiting (List.mem_append.mpr old)
    · rfl
  · intro running other
    have queued := ordered.queued running other
    rw [alone] at queued
    by_cases here : other = worker.route message
    · subst here
      simp only [routedTo_self] at queued
      simp only [List.append_nil, queued, alone, WorkerState.withShard_self,
        WorkerState.withShard_callbacks, List.erase_cons_head, routedTo_nil,
        List.append_assoc, List.append_cancel_left_eq]
      simp only [Shard.unstarted]
      split <;> simp
    · simpa [alone, here, routedTo_ne here] using queued

theorem Ordered.begun
    (ordered : worker.Ordered state trace)
    {index : Fin worker.shards}
    {message : Message}
    (found : (state.shard index).routine = .took message)
    (running : state.cancelled = false) :
    worker.Ordered (state.withRoutine index (.handling message))
      (trace ++ [.started message]) := by
  obtain rfl : worker.route message = index :=
    ordered.routed index message (by simp [Shard.held, found])
  have queued : ∀ other, worker.routedTo other (receivedIn (trace ++ [.started message])) =
      worker.routedTo other (startedIn (trace ++ [.started message])) ++
        ((state.withRoutine (worker.route message) (.handling message)).shard
          other).unstarted ++ worker.routedTo other state.callbacks := by
    intro other
    have before := ordered.queued running other
    by_cases same : other = worker.route message
    · subst same
      simp only [Shard.unstarted, found] at before
      simpa [Shard.unstarted] using before
    · simpa [same, routedTo_ne same] using before
  refine ⟨ordered.stopped, ordered.single, fun other => ?_, fun other => ?_,
    fun _ => queued, ?_⟩
  · exact WorkerState.withShard_cases other (ordered.room _) (ordered.room other)
  · refine WorkerState.withShard_cases other (fun waiting member => ?_) (ordered.routed other)
    exact ordered.routed _ waiting (by simpa [Shard.held, found] using member)
  · intro other
    rw [queued other, List.append_assoc]
    exact List.prefix_append ..

/-- One action keeps the queues in order, if callbacks come one at a time. -/
theorem Ordered.moves [Platform]
    (ordered : worker.Ordered state trace)
    (permitted : OneCallback state action)
    (moves : worker.Moves state action after shown) :
    worker.Ordered after (trace ++ shown) := by
  cases moves with
  | received message consuming =>
      have alone : state.callbacks = [] := permitted
      refine ⟨ordered.stopped, by simp [alone], ordered.room, ordered.routed, ?_, ?_⟩
      · intro running index
        have queued := ordered.queued running index
        rw [alone, routedTo_nil, List.append_nil] at queued
        simp [alone, ← queued]
      · intro index
        simpa using (ordered.started index).trans (List.prefix_append ..)
  | sent message member room => exact ordered.sent member room
  | gaveBack message member cancelled =>
      refine ⟨ordered.stopped, ?_, ordered.room, ordered.routed, ?_, by simpa using ordered.started⟩
      · exact (List.length_erase_le ..).trans ordered.single
      · intro running
        exact absurd (cancelled.symm.trans running) (by decide)
  | took index message rest found =>
      refine ordered.reshard ?_ ?_ ?_ ⟨rfl, rfl⟩
      · have bound := ordered.room index
        rw [found] at bound
        exact Nat.le_of_succ_le bound
      · simp [found, Shard.held]
      · simp [found, Shard.unstarted]
  | left index idle cancelled =>
      refine ordered.reshard (ordered.room index) ?_ ?_ ⟨rfl, rfl⟩
      · simp [Shard.held, idle]
      · simp [Shard.unstarted, idle]
  | started index message found running => exact ordered.begun found running
  | settled action index message settlement inHand unstarted letters =>
      refine ordered.reshard (ordered.room index) ?_ ?_ ⟨rfl, rfl⟩
      · intro waiting member
        exact List.mem_append_right _ (by simpa [Shard.held] using member)
      · intro running
        cases routine : (state.shard index).routine with
        | took other =>
            rw [routine] at inHand unstarted
            cases inHand
            exact absurd ((unstarted rfl).symm.trans running) (by decide)
        | _ => simp [Shard.unstarted, routine]
  | failed index message result jitter failedAt cause reason found =>
      refine ordered.reshard (ordered.room index) ?_ ?_ ⟨rfl, rfl⟩
      · simp [Shard.held, found]
      · simp [Shard.unstarted, found]
  | cancelled =>
      refine ⟨fun _ => rfl, ordered.single, ordered.room, ordered.routed,
        (fun running => by cases running), ?_⟩
      simpa using ordered.started
  | stopped consuming cancelled => exact ordered.rephase cancelled _
  | joined stopping gone =>
      exact ordered.rephase (ordered.stopped (by simp [stopping])) _
  | timedOut stopping => exact ordered.rephase (ordered.stopped (by simp [stopping])) _
  | handedBack index message rest draining found =>
      have cancelled := ordered.stopped (by simp [draining])
      refine ordered.reshard ?_ ?_ (fun running => ?_) ⟨rfl, rfl⟩
      · have bound := ordered.room index
        rw [found] at bound
        exact Nat.le_of_succ_le bound
      · intro waiting member
        simp only [Shard.held, List.mem_append, found, List.mem_cons] at member ⊢
        exact member.imp_right Or.inr
      · exact absurd (cancelled.symm.trans running) (by decide)
  | passed index draining empty => exact ordered.rephase (ordered.stopped (by simp [draining])) _
  | ended index draining beyond => exact ordered.rephase (ordered.stopped (by simp [draining])) _

/-! ## The results -/

variable [Platform]

theorem ordered_of_reaches
    (reached : worker.machine.Reaches OneCallback .initial state trace) :
    worker.Ordered state trace :=
  reached.invariant .initial fun _ _ _ _ _ _ ordered permitted taken =>
    ordered.moves permitted (moves_of_step taken)

/-- In every interleaving in which the callback is called for one message at a time:
handlers of messages with the same key never run at the same time, they start in
the order in which the callback received the messages, and no more than the
capacity is in buffers and in hand. -/
theorem ordered_and_bounded
    (reached : worker.machine.Reaches OneCallback .initial state trace) :
    (∀ left right first second, (state.shard left).routine = .handling first →
      (state.shard right).routine = .handling second →
      worker.keyFunc first = worker.keyFunc second → left = right) ∧
    (∀ key, (startedIn trace).filter (fun message => worker.keyFunc message = key) <+:
      (receivedIn trace).filter fun message => worker.keyFunc message = key) ∧
    state.load ≤ worker.shards * (worker.queueSize + 1) := by
  have ordered := ordered_of_reaches reached
  refine ⟨?_, ?_, ?_⟩
  · intro left right first second runsFirst runsSecond same
    have atLeft := ordered.routed left first (by simp [Shard.held, runsFirst])
    have atRight := ordered.routed right second (by simp [Shard.held, runsSecond])
    rw [← atLeft, ← atRight, route, route, same]
  · intro key
    rw [← filter_key_routedTo key (startedIn trace), ← filter_key_routedTo key (receivedIn trace)]
    exact (ordered.started (worker.shardFor key)).filter _
  · have each : ∀ index ∈ Finset.univ,
        (state.shard index).held.length ≤ worker.queueSize + 1 := by
      intro index _
      have room := ordered.room index
      have hand := (state.shard index).routine.length_held_le
      rw [Shard.held, List.length_append]
      omega
    simpa [WorkerState.load] using Finset.sum_le_card_nsmul _ _ _ each

end Worker

end InfraObserver

/-! ## A concrete worker -/

namespace InfraObserver

attribute [local instance] Platform.plain

/-- The shortest buffers that the options allow. -/
def tightOptions (shards maxDeliver : ℤ) : WorkerOptions where
  stream := "TELEMETRY_RAW"
  durable := "normalizer"
  shards := shards
  queueSize := 1
  maxDeliver := maxDeliver
  retryDelay := .zero
  maxRetryDelay := .zero
  deadLetterRetryDelay := .zero
  keyFunc := none

/-- A message of the stream on its first delivery. -/
def telemetry (subject : String) (sequence : ℕ) : Message := ⟨subject, ∅, "", sequence, 1⟩

/-- Two messages of one key and one of another, with two handlers running. -/
def twoKeysRun : List (WorkerAction (newWorker (tightOptions 2 5)).shards) :=
  [.receive (telemetry "a" 1), .send (telemetry "a" 1), .take (0 : Fin 2), .begin (0 : Fin 2),
    .receive (telemetry "a" 2), .send (telemetry "a" 2), .receive (telemetry "b" 3),
    .send (telemetry "b" 3), .take (1 : Fin 2), .begin (1 : Fin 2),
    .finish (0 : Fin 2) (.returned none) id 7, .take (0 : Fin 2), .begin (0 : Fin 2)]

/-- The handlers of the run started in order, within the capacity. -/
theorem two_keys_ordered :
    ∃ state trace,
      (newWorker (tightOptions 2 5)).machine.run .initial twoKeysRun = some (state, trace) ∧
      startedIn trace = [telemetry "a" 1, telemetry "b" 3, telemetry "a" 2] ∧
      (∀ left right first second, (state.shard left).routine = .handling first →
        (state.shard right).routine = .handling second →
        first.subject = second.subject → left = right) ∧
      (∀ key, (startedIn trace).filter (fun message => message.subject = key) <+:
        (receivedIn trace).filter fun message => message.subject = key) ∧
      state.load ≤ 4 := by
  have started : ((newWorker (tightOptions 2 5)).machine.run .initial twoKeysRun).map
      (fun final => startedIn final.2) =
        some [telemetry "a" 1, telemetry "b" 3, telemetry "a" 2] := by decide +kernel
  have permits : (newWorker (tightOptions 2 5)).machine.Permits OneCallback .initial
      twoKeysRun := by decide +kernel
  obtain ⟨⟨state, trace⟩, ran, order⟩ := Option.map_eq_some_iff.mp started
  exact ⟨state, trace, ran, order,
    Worker.ordered_and_bounded (Transition.Machine.reaches_run permits ran)⟩

end InfraObserver
