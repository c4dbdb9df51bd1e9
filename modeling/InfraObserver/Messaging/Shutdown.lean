import InfraObserver.Messaging.Order

/-!
# Shutdown of a worker

When the context has ended, `Run` waits for the goroutines and hands back what is
still buffered. A callback that is in progress then can still put its message into
a buffer, since its `select` may take either case; whether anybody settles that
message depends on when it does so.
-/

namespace InfraObserver

/-- The shards that `Run` has already handed back. -/
def WorkerState.Passed {count : ℕ} (state : WorkerState count) (index : Fin count) : Prop :=
  match state.phase with
  | .consuming | .stopping => False
  | .draining next => index < next
  | .returned => True

instance {count : ℕ} (state : WorkerState count) (index : Fin count) :
    Decidable (state.Passed index) := by
  unfold WorkerState.Passed
  split <;> infer_instance

namespace Worker

/-- Callbacks put messages only into buffers that `Run` has not handed back yet, and the
shutdown timeout is not over before every goroutine has returned. -/
def OrderlyShutdown (worker : Worker) (state : WorkerState worker.shards) :
    WorkerAction worker.shards → Prop
  | .send message => ¬state.Passed (worker.route message)
  | .timeout => ∀ index, (state.shard index).routine = .left
  | _ => True

instance (worker : Worker) (state : WorkerState worker.shards) :
    DecidablePred (worker.OrderlyShutdown state)
  | .send message => inferInstanceAs (Decidable (¬state.Passed (worker.route message)))
  | .timeout => inferInstanceAs (Decidable (∀ index, (state.shard index).routine = .left))
  | .receive _ | .giveBack _ | .take _ | .leave _ | .begin _ | .finish .. | .published ..
  | .cancel | .stop | .joined | .drain => isTrue trivial

variable {worker : Worker} {state after : WorkerState worker.shards}
variable {action : WorkerAction worker.shards} {shown trace : List WorkerEvent}

/-- When `Run` hands back what is buffered, the goroutines have returned, and what
it has handed back stays empty. -/
structure Closing (state : WorkerState worker.shards) : Prop where
  gone : state.phase ≠ .consuming → state.phase ≠ .stopping →
    ∀ index, (state.shard index).routine = .left
  empty : ∀ index, state.Passed index → (state.shard index).buffer = []

theorem Closing.initial : Closing (.initial : WorkerState worker.shards) :=
  ⟨fun moved => absurd rfl moved, nofun⟩

theorem Closing.early
    (closing : Closing state)
    {index : Fin worker.shards}
    (busy : (state.shard index).routine ≠ .left) :
    state.phase = .consuming ∨ state.phase = .stopping := by
  by_contra later
  rw [not_or] at later
  exact busy (closing.gone later.1 later.2 index)

theorem Closing.of_early (early : state.phase = .consuming ∨ state.phase = .stopping) :
    Closing state := by
  refine ⟨fun consuming stopping => absurd early (not_or.mpr ⟨consuming, stopping⟩), ?_⟩
  intro index passed
  rcases early with phase | phase <;> simp [WorkerState.Passed, phase] at passed

theorem Closing.moves [Platform]
    (closing : Closing state)
    (permitted : worker.OrderlyShutdown state action)
    (moves : worker.Moves state action after shown) :
    Closing after := by
  cases moves with
  | received message consuming => exact .of_early (Or.inl consuming)
  | sent message member room =>
      refine ⟨fun consuming stopping index => ?_, fun index passed => ?_⟩
      · have gone := closing.gone consuming stopping
        exact WorkerState.withShard_cases index (gone _) (gone index)
      · -- The shard that gets the message has not been handed back.
        have elsewhere : index ≠ worker.route message := fun here => permitted (here ▸ passed)
        rw [WorkerState.withShard_ne _ _ _ elsewhere]
        exact closing.empty index passed
  | gaveBack message member cancelled => exact ⟨closing.gone, closing.empty⟩
  | took index message rest found =>
      exact .of_early (closing.early (by rw [found]; nofun))
  | left index idle cancelled => exact .of_early (closing.early (by rw [idle]; decide))
  | started index message found running =>
      exact .of_early (closing.early (by rw [found]; nofun))
  | settled action index message settlement inHand unstarted letters =>
      have busy : (state.shard index).routine ≠ .left := fun left => by
        rw [left] at inHand
        cases inHand
      exact .of_early (closing.early busy)
  | failed index message result jitter failedAt cause reason found =>
      exact .of_early (closing.early (by rw [found]; nofun))
  | cancelled => exact ⟨closing.gone, closing.empty⟩
  | stopped consuming cancelled => exact .of_early (Or.inr rfl)
  | joined stopping gone => exact ⟨fun _ _ => gone, fun index => nofun⟩
  | timedOut stopping => exact ⟨fun _ _ => permitted, fun index => nofun⟩
  | handedBack index message rest draining found =>
      have gone := closing.gone (by simp [draining]) (by simp [draining])
      refine ⟨fun _ _ other => ?_, fun other passed => ?_⟩
      · exact WorkerState.withShard_cases other (gone index) (gone other)
      · -- The shard in hand has not been passed yet.
        simp only [WorkerState.Passed, WorkerState.withShard_phase, draining] at passed
        have elsewhere : other ≠ index := fun here => by
          rw [here] at passed
          exact Nat.lt_irrefl _ passed
        rw [WorkerState.withShard_ne _ _ _ elsewhere]
        exact closing.empty other (by simpa only [WorkerState.Passed, draining] using passed)
  | passed index draining empty =>
      refine ⟨fun _ _ => closing.gone (by simp [draining]) (by simp [draining]), ?_⟩
      intro other passed
      rcases Nat.lt_succ_iff_lt_or_eq.mp (show (other : ℕ) < index + 1 from passed) with
        before | here
      · exact closing.empty other (by simpa only [WorkerState.Passed, draining] using before)
      · rw [Fin.ext here]
        exact empty
  | ended index draining beyond =>
      refine ⟨fun _ _ => closing.gone (by simp [draining]) (by simp [draining]), ?_⟩
      intro other _
      refine closing.empty other ?_
      simp only [WorkerState.Passed, draining]
      exact Nat.lt_of_lt_of_le other.isLt beyond

variable [Platform]

/-- In every run, the messages handed to the callback are those that were settled
and those that the worker has. -/
theorem account_of_reaches
    {allowed : WorkerState worker.shards → WorkerAction worker.shards → Prop}
    (reached : worker.machine.Reaches allowed .initial state trace) :
    state.held + settledIn trace = receivedIn trace := by
  refine reached.invariant ?_ ?_
  · simp [WorkerState.held, WorkerState.initial, Shard.held]
  · intro state action after trace shown _ account _ taken
    have balance := (moves_of_step taken).account
    simp only [List.flatMap_append, ← Multiset.coe_add]
    rw [add_left_comm, balance, ← add_assoc, add_comm (settledIn trace : Multiset Message),
      account]

/-- After an orderly shutdown, when `Run` has returned and no callback is in
progress, every message handed to the callback was settled, and no buffer has
one. -/
theorem shutdown_settles
    (reached : worker.machine.Reaches worker.OrderlyShutdown .initial state trace)
    (returned : state.phase = .returned)
    (idle : state.callbacks = []) :
    (∀ message ∈ receivedIn trace, message ∈ settledIn trace) ∧
      (settledIn trace).Perm (receivedIn trace) ∧
      ∀ index, (state.shard index).buffer = [] := by
  have closing : Closing state :=
    reached.invariant .initial
      fun _ _ _ _ _ _ closing permitted taken => closing.moves permitted (moves_of_step taken)
  have empty : ∀ index, (state.shard index).buffer = [] := fun index =>
    closing.empty index (by simp only [WorkerState.Passed, returned])
  have gone := closing.gone (by simp [returned]) (by simp [returned])
  have nothing : state.held = 0 := by
    simp [WorkerState.held, idle, Shard.held, gone, empty]
  have account := account_of_reaches reached
  rw [nothing, zero_add, Multiset.coe_eq_coe] at account
  exact ⟨fun message member => account.mem_iff.mpr member, account, empty⟩

end Worker

end InfraObserver

/-! ## Concrete shutdowns -/

namespace InfraObserver

attribute [local instance] Platform.plain

/-- The only shard of a worker with one. -/
def onlyShard : Fin 1 := Fin.last 0

/-- One message is handled while another is buffered and a third is in its callback; the
context ends, the handler finishes, the callback sends while the buffer is handed back,
and everything is handed back. -/
def orderlyRun : List (WorkerAction (newWorker (tightOptions 1 5)).shards) :=
  [.receive (telemetry "a" 1), .send (telemetry "a" 1), .take onlyShard, .begin onlyShard,
    .receive (telemetry "a" 2), .send (telemetry "a" 2), .receive (telemetry "a" 3), .cancel,
    .stop, .finish onlyShard (.returned none) id 7, .leave onlyShard, .joined, .drain,
    .send (telemetry "a" 3), .drain, .drain, .drain]

/-- The three messages were settled. -/
theorem orderly_run_settles :
    ∃ state trace,
      (newWorker (tightOptions 1 5)).machine.run .initial orderlyRun = some (state, trace) ∧
      receivedIn trace = [telemetry "a" 1, telemetry "a" 2, telemetry "a" 3] ∧
      (∀ message ∈ receivedIn trace, message ∈ settledIn trace) ∧
      (settledIn trace).Perm (receivedIn trace) ∧
      ∀ index, (state.shard index).buffer = [] := by
  have ended : ((newWorker (tightOptions 1 5)).machine.run .initial orderlyRun).map
      (fun final => (final.1.phase, final.1.callbacks, receivedIn final.2)) =
        some (.returned, [], [telemetry "a" 1, telemetry "a" 2, telemetry "a" 3]) := by
    decide +kernel
  have permits : (newWorker (tightOptions 1 5)).machine.Permits
      (newWorker (tightOptions 1 5)).OrderlyShutdown .initial orderlyRun := by decide +kernel
  obtain ⟨⟨state, trace⟩, ran, same⟩ := Option.map_eq_some_iff.mp ended
  simp only [Prod.mk.injEq] at same
  obtain ⟨returned, idle, received⟩ := same
  exact ⟨state, trace, ran, received,
    Worker.shutdown_settles (Transition.Machine.reaches_run permits ran) returned idle⟩

/-- The callback of a message is in progress when the context ends. `Run` waits for
the goroutine, finds the buffer empty and returns, and then the callback takes the
case of its `select` that sends. -/
def lateSendRun : List (WorkerAction (newWorker (tightOptions 1 5)).shards) :=
  [.receive (telemetry "a" 1), .cancel, .leave onlyShard, .stop, .joined, .drain, .drain,
    .send (telemetry "a" 1)]

/-- No handler ran, `Run` has returned and no callback is in progress, but the message
is in the buffer and was not settled. -/
theorem late_send_unsettled :
    ((newWorker (tightOptions 1 5)).machine.run .initial lateSendRun).map
      (fun final => (final.1.phase, final.1.callbacks, (final.1.shard (0 : Fin 1)).buffer,
        receivedIn final.2, settledIn final.2)) =
      some (.returned, [], [telemetry "a" 1], [telemetry "a" 1], []) := by
  decide +kernel

end InfraObserver
