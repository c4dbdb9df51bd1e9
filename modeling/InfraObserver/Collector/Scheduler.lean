import InfraObserver.Domain.Platform
import InfraObserver.Library.Transition
import Mathlib.Data.Finset.Insert

/-!
# The poll scheduler

`Run` of the collector is a dispatcher with a number of workers. The dispatcher wakes
up, reads the clock and goes through the devices. A device that is due goes to a worker
over an unbuffered channel, unless a poll of it is still in flight. A worker polls, and
takes the device out of the polls in flight after that.
-/

namespace InfraObserver

/-- A device with its `Collection.Interval`. -/
structure Collected where
  device : Device
  interval : Duration

/-- The settings of a scheduler; the configuration has a positive default interval. -/
structure Scheduler where
  workers : ℤ
  defaultInterval : Duration
  positive : 0 < defaultInterval.ns

/-- Where the dispatcher is. A pass has a clock reading and the devices that are left. -/
inductive DispatchPhase
  | sleeping
  | visiting (now : Time) (rest : List Collected)
  /-- At the `select` that sends a device to a worker. -/
  | sending (now : Time) (dev : Collected) (rest : List Collected)
  | returned

/-- The variables of `Run`, and how many workers are where. -/
structure SchedulerState where
  next : StringMap Time
  inflight : Finset String
  phase : DispatchPhase
  cancelled : Bool
  idle : ℕ
  /-- The devices in `PollOnce`. -/
  polling : Multiset String
  /-- The devices whose poll has returned, and that are still in flight. -/
  polled : Multiset String

/-- The dispatcher finds a device due. -/
structure DueAt where
  id : String
  now : Time
  interval : Duration

/-- What happens next. -/
inductive SchedulerAction
  | wake (now : Time) (devices : List Collected)
  | visit
  | send
  | finish (id : String)
  | release (id : String)
  | cancel
  | stop

namespace Scheduler

variable (scheduler : Scheduler)

def interval (dev : Collected) : Duration :=
  if 0 < dev.interval.ns then dev.interval else scheduler.defaultInterval

theorem interval_pos (dev : Collected) : 0 < (scheduler.interval dev).ns := by
  unfold interval
  split
  · assumption
  · exact scheduler.positive

/-- `offset`, in nanoseconds. -/
def offset (id : String) (interval : Duration) : ℤ :=
  (fnv32a id).toNat % interval.ns

/-- The scheduler polls the device. -/
abbrev Polls (dev : Collected) : Prop :=
  dev.device.enabled = true ∧ dev.device.protocol = "snmp"

/-- `Run` before its loop. -/
def initial : SchedulerState where
  next := ∅
  inflight := ∅
  phase := .sleeping
  cancelled := false
  idle := (max scheduler.workers 1).toNat
  polling := 0
  polled := 0

/-- One turn of the loop over the devices, up to the `select`. -/
def visit
    (state : SchedulerState)
    (now : Time)
    (dev : Collected)
    (rest : List Collected) : SchedulerState × List DueAt :=
  let id := dev.device.id
  let iv := scheduler.interval dev
  let due := (state.next.lookup id).getD (now + offset id iv)
  if ¬Polls dev then ({ state with phase := .visiting now rest }, [])
  else if now < due then
    ({ state with
      next := state.next.insert id due
      phase := .visiting now rest }, [])
  else
    ({ state with
      next := state.next.insert id (now.add iv)
      inflight := insert id state.inflight
      phase :=
        if id ∈ state.inflight then .visiting now rest
        else .sending now dev rest }, [⟨id, now, iv⟩])

/-- What an action does, if it is enabled, with the device found due. -/
def step (state : SchedulerState) : SchedulerAction → Option (SchedulerState × List DueAt)
  | .wake now devices =>
      match state.phase with
      | .sleeping => some ({ state with phase := .visiting now devices }, [])
      | _ => none
  | .visit =>
      match state.phase with
      | .visiting _ [] => some ({ state with phase := .sleeping }, [])
      | .visiting now (dev :: rest) => some (scheduler.visit state now dev rest)
      | _ => none
  | .send =>
      match state.phase, state.idle with
      | .sending now dev rest, idle + 1 =>
          some ({ state with
            phase := .visiting now rest
            idle
            polling := dev.device.id ::ₘ state.polling }, [])
      | _, _ => none
  | .finish id =>
      if id ∈ state.polling then
        some ({ state with
          polling := state.polling.erase id
          polled := id ::ₘ state.polled }, [])
      else none
  | .release id =>
      if id ∈ state.polled then
        some ({ state with
          inflight := state.inflight.erase id
          polled := state.polled.erase id
          idle := state.idle + 1 }, [])
      else none
  | .cancel => some ({ state with cancelled := true }, [])
  | .stop =>
      match state.cancelled, state.phase with
      | true, .sleeping | true, .sending .. => some ({ state with phase := .returned }, [])
      | _, _ => none

def machine : Transition.Machine SchedulerState SchedulerAction DueAt :=
  ⟨scheduler.step⟩

/-- A run of `Run` ends in the state, and has found the devices due. -/
abbrev Reached (state : SchedulerState) (trace : List DueAt) : Prop :=
  scheduler.machine.Reaches Transition.Machine.anyAction scheduler.initial state trace

end Scheduler

/-! ## One poll of a device at a time -/

/-- The device that the dispatcher sends. -/
def DispatchPhase.sent : DispatchPhase → Multiset String
  | .sending _ dev _ => {dev.device.id}
  | _ => 0

/-- A device that is sent or polled is marked as in flight, once, and every worker is
accounted for. -/
structure SchedulerState.Exclusive (state : SchedulerState) (count : ℕ) : Prop where
  held : state.phase.sent + state.polling + state.polled ≤ state.inflight.val
  workers : state.idle + state.polling.card + state.polled.card = count

namespace Scheduler

variable (scheduler : Scheduler) {state after : SchedulerState} {action : SchedulerAction}
variable {found trace : List DueAt} {count : ℕ}

theorem visit_exclusive
    {now : Time}
    {dev : Collected}
    {rest : List Collected}
    (exclusive : state.Exclusive count)
    (visiting : state.phase = .visiting now (dev :: rest)) :
    (scheduler.visit state now dev rest).1.Exclusive count := by
  obtain ⟨held, workers⟩ := exclusive
  simp only [visiting, DispatchPhase.sent, zero_add] at held
  unfold visit
  dsimp only
  split_ifs with polls waits busy
  · exact ⟨by simpa [DispatchPhase.sent] using held, workers⟩
  · refine ⟨?_, workers⟩
    simpa [DispatchPhase.sent, Finset.insert_eq_of_mem busy] using held
  · refine ⟨?_, workers⟩
    simpa [DispatchPhase.sent, Finset.insert_val_of_notMem busy, add_assoc] using held
  · exact ⟨by simpa [DispatchPhase.sent] using held, workers⟩

variable {scheduler}

theorem step_exclusive
    (exclusive : state.Exclusive count)
    (taken : scheduler.step state action = some (after, found)) :
    after.Exclusive count := by
  obtain ⟨held, workers⟩ := id exclusive
  cases action with
  | wake now devices =>
      simp only [step] at taken
      split at taken <;> cases taken
      next phase => exact ⟨by simpa [DispatchPhase.sent, phase] using held, workers⟩
  | visit =>
      simp only [step] at taken
      split at taken
      · next phase =>
          cases taken
          exact ⟨by simpa [DispatchPhase.sent, phase] using held, workers⟩
      · next phase =>
          have visited := scheduler.visit_exclusive exclusive phase
          rwa [Option.some.inj taken] at visited
      · cases taken
  | send =>
      simp only [step] at taken
      split at taken <;> cases taken
      next phase idle =>
        refine ⟨by simpa [DispatchPhase.sent, phase] using held, ?_⟩
        rw [idle] at workers
        simp only [Multiset.card_cons]
        omega
  | finish id =>
      simp only [step] at taken
      split_ifs at taken with running
      cases taken
      have moved : state.polling.erase id + id ::ₘ state.polled = state.polling + state.polled := by
        rw [Multiset.add_cons, ← Multiset.cons_add, Multiset.cons_erase running]
      refine ⟨?_, ?_⟩
      · rwa [add_assoc, moved, ← add_assoc]
      · have fewer := Multiset.card_erase_add_one running
        simp only [Multiset.card_cons]
        omega
  | release id =>
      simp only [step] at taken
      split_ifs at taken with returned
      cases taken
      refine ⟨?_, ?_⟩
      · rw [Finset.erase_val, ← Multiset.erase_add_right_pos _ returned]
        exact Multiset.erase_le_erase id held
      · have fewer := Multiset.card_erase_add_one returned
        dsimp only
        omega
  | cancel =>
      cases taken
      exact ⟨held, workers⟩
  | stop =>
      simp only [step] at taken
      split at taken <;> cases taken
      all_goals
        refine ⟨le_trans ?_ held, workers⟩
        gcongr
        exact Multiset.zero_le _

/-- In every run, no device is sent or polled twice at a time, and there are no more
polls than workers. -/
theorem polls_exclusive
    (reached : scheduler.Reached state trace) :
    (state.phase.sent + state.polling).Nodup ∧
      (state.polling.card : ℤ) ≤ max scheduler.workers 1 := by
  obtain ⟨held, workers⟩ : state.Exclusive (max scheduler.workers 1).toNat :=
    reached.invariant ⟨le_rfl, by simp [initial]⟩
      fun _ _ _ _ _ _ exclusive _ taken => step_exclusive exclusive taken
  exact ⟨Multiset.nodup_of_le ((Multiset.le_add_right _ _).trans held) state.inflight.nodup,
    by omega⟩

/-- One worker, and a poll a minute. -/
def minutely : Scheduler := ⟨1, .minute, by decide⟩

/-- A switch is due after two minutes, and again after four, when its poll still runs. -/
def slowPoll : List SchedulerAction :=
  let switch : Collected :=
    ⟨⟨"sw-1", "core", .switch, "", "", "", [], [], true, 0, "snmp", ∅⟩, .zero⟩
  [.wake 0 [switch], .visit, .visit, .wake 120000000000 [switch], .visit, .send, .visit,
    .wake 240000000000 [switch], .visit]

theorem slowPoll_reaches :
    ∃ state trace, minutely.Reached state trace ∧ state.polling = {"sw-1"} ∧
      trace.map DueAt.now = [120000000000, 240000000000] := by
  have ends : (minutely.machine.run minutely.initial slowPoll).map
      (fun final => (final.1.polling, final.2.map DueAt.now)) =
        some ({"sw-1"}, [120000000000, 240000000000]) := by decide +kernel
  obtain ⟨⟨state, trace⟩, ran, same⟩ := Option.map_eq_some_iff.mp ends
  obtain ⟨polling, due⟩ := Prod.mk.inj same
  exact ⟨state, trace, Transition.Machine.reaches_run
    (Transition.Machine.permits_of_forall fun _ _ _ => trivial) ran, polling, due⟩

/-- The switch is polled once. -/
theorem slow_switch_polled_once :
    ∃ state trace, minutely.Reached state trace ∧ state.polling = {"sw-1"} ∧
      (state.phase.sent + state.polling).Nodup ∧
      (state.polling.card : ℤ) ≤ max minutely.workers 1 := by
  obtain ⟨state, trace, reached, polling, -⟩ := slowPoll_reaches
  exact ⟨state, trace, reached, polling, polls_exclusive reached⟩

end Scheduler

/-! ## When polls are due -/

/-- A device is not due before an instant. -/
def NotBefore (next : StringMap Time) (id : String) (bound : Time) : Prop :=
  ∃ due ∈ next.lookup id, bound ≤ due

theorem NotBefore.insert
    {next : StringMap Time}
    {id other : String}
    {due bound : Time}
    (planned : NotBefore next other bound)
    (later : ∀ old ∈ next.lookup id, old ≤ due) :
    NotBefore (next.insert id due) other bound := by
  obtain ⟨old, present, atMost⟩ := planned
  unfold NotBefore
  rw [StringMap.lookup_insert_ite]
  split_ifs with same
  · subst same
    exact ⟨due, rfl, atMost.trans (later old present)⟩
  · exact ⟨old, present, atMost⟩

/-- A device found due is due again after its interval. -/
structure SchedulerState.Regular (state : SchedulerState) (trace : List DueAt) : Prop where
  planned : ∀ due ∈ trace, NotBefore state.next due.id (due.now.add due.interval)
  spaced : trace.Pairwise fun earlier later => earlier.id = later.id →
    earlier.now.add earlier.interval ≤ later.now

namespace Scheduler

variable (scheduler : Scheduler) {state after : SchedulerState} {found trace : List DueAt}

theorem visit_regular
    (regular : state.Regular trace)
    (now : Time)
    (dev : Collected)
    (rest : List Collected) :
    (scheduler.visit state now dev rest).1.Regular
      (trace ++ (scheduler.visit state now dev rest).2) := by
  obtain ⟨planned, spaced⟩ := regular
  unfold visit
  dsimp only
  split
  · rw [List.append_nil]
    exact ⟨planned, spaced⟩
  · split
    · rw [List.append_nil]
      refine ⟨fun due member => (planned due member).insert fun old present => ?_, spaced⟩
      rw [Option.mem_def.mp present]
      rfl
    · next reached =>
        have before : ∀ old ∈ state.next.lookup dev.device.id, old ≤ now := by
          intro old present
          rw [Option.mem_def.mp present] at reached
          exact not_lt.mp reached
        have future : now ≤ now.add (scheduler.interval dev) :=
          Int.le_add_of_nonneg_right (scheduler.interval_pos dev).le
        constructor
        · intro due member
          rcases List.mem_append.mp member with earlier | last
          · exact (planned due earlier).insert fun old present => (before old present).trans future
          · rw [List.mem_singleton.mp last]
            exact ⟨_, Finmap.lookup_insert .., le_rfl⟩
        · refine List.pairwise_append.mpr ⟨spaced, List.pairwise_singleton .., ?_⟩
          intro due member last found same
          rw [List.mem_singleton.mp found] at same ⊢
          obtain ⟨old, present, bound⟩ := planned due member
          rw [same] at present
          exact bound.trans (before old present)

variable {scheduler}

theorem step_next
    {action : SchedulerAction}
    (taken : scheduler.step state action = some (after, found)) :
    (∃ now dev rest, scheduler.visit state now dev rest = (after, found)) ∨
      after.next = state.next ∧ found = [] := by
  cases action with
  | visit =>
      simp only [step] at taken
      split at taken
      · cases taken
        exact Or.inr ⟨rfl, rfl⟩
      · exact Or.inl ⟨_, _, _, Option.some.inj taken⟩
      · cases taken
  | finish id | release id =>
      simp only [step] at taken
      split_ifs at taken
      cases taken
      exact Or.inr ⟨rfl, rfl⟩
  | cancel =>
      cases taken
      exact Or.inr ⟨rfl, rfl⟩
  | wake | send | stop =>
      simp only [step] at taken
      split at taken <;> cases taken
      all_goals exact Or.inr ⟨rfl, rfl⟩

/-- In every run, a device is found due at least its interval apart. -/
theorem polls_spaced
    (reached : scheduler.Reached state trace) :
    trace.Pairwise fun earlier later => earlier.id = later.id →
      earlier.now.add earlier.interval ≤ later.now := by
  suffices regular : state.Regular trace from regular.spaced
  refine reached.invariant ⟨by simp, .nil⟩ ?_
  intro state action after trace found _ regular _ taken
  rcases step_next taken with ⟨now, dev, rest, visited⟩ | ⟨same, rfl⟩
  · have kept := scheduler.visit_regular regular now dev rest
    rwa [visited] at kept
  · rw [List.append_nil]
    exact ⟨fun due member => same ▸ regular.planned due member, regular.spaced⟩

/-- It is due twice, and not within a minute. -/
theorem slow_switch_spaced :
    ∃ state trace, minutely.Reached state trace ∧
      trace.map DueAt.now = [120000000000, 240000000000] ∧
      trace.Pairwise fun earlier later => earlier.id = later.id →
        earlier.now.add earlier.interval ≤ later.now := by
  obtain ⟨state, trace, reached, -, due⟩ := slowPoll_reaches
  exact ⟨state, trace, reached, due, polls_spaced reached⟩

end Scheduler

end InfraObserver
