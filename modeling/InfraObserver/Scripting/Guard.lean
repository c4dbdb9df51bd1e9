import InfraObserver.Library.Transition
import Mathlib.Logic.Function.Basic

/-!
# Guarded runs of an interpreter

`guard` runs a script under a deadline. A callback in a goroutine of its own
interrupts the interpreter when the context of the run ends. On every way out of a
run the callback is stopped, or awaited if it was launched, and the interrupt flag is
cleared after that.

The machine has one interpreter, a worker that guards one run after the other, and
the contexts and callbacks of all runs, which take their steps at any time.
-/

namespace InfraObserver

/-- Why the context of a run has ended. -/
inductive ContextEnd
  | deadline
  | caller
  /-- By the deferred `cancel`. -/
  | released
  deriving DecidableEq

/-- What the callback of `context.AfterFunc` has done. -/
inductive Callback
  | unregistered
  | registered
  | stopped
  | launched
  | interrupted
  | fired
  deriving DecidableEq

/-- Where the worker is. -/
inductive GuardPhase
  | outside
  /-- The callback is registered, and the body has not started. -/
  | armed
  | body
  | leaving
  /-- `stop` came too late. -/
  | awaiting
  | clearing
  | cleared
  deriving DecidableEq

/-- How a body ends. -/
inductive BodyEnd
  | returned
  | failed
  | panicked
  | interrupted
  deriving DecidableEq

/-- An interpreter with its guarded runs, which are numbered. -/
structure GuardState where
  /-- The run that is guarded, or the next one. -/
  run : ℕ
  phase : GuardPhase
  /-- The interrupt flag, with the run whose callback has set it. -/
  flag : Option ℕ
  context : ℕ → Option ContextEnd
  callback : ℕ → Callback

/-- What happens next. -/
inductive GuardAction
  /-- `WithTimeout` and `AfterFunc`. -/
  | enter
  | start
  | finish (outcome : BodyEnd)
  | stop
  | await
  | clear
  | cancel
  | deadline (run : ℕ)
  | callerCancels (run : ℕ)
  | launch (run : ℕ)
  | interrupt (run : ℕ)
  | close (run : ℕ)
  deriving DecidableEq

namespace GuardState

/-- An interpreter without a run. -/
def initial : GuardState where
  run := 0
  phase := .outside
  flag := none
  context _ := none
  callback _ := .unregistered

def withCallback (state : GuardState) (run : ℕ) (callback : Callback) : GuardState :=
  { state with callback := Function.update state.callback run callback }

/-- A context ends once. -/
def endContext (state : GuardState) (run : ℕ) (cause : ContextEnd) : GuardState :=
  { state with
    context := Function.update state.context run (some ((state.context run).getD cause)) }

/-- What an action does, if it is enabled. -/
def step (state : GuardState) : GuardAction → Option GuardState
  | .enter =>
      if state.phase = .outside then
        some { state.withCallback state.run .registered with phase := .armed }
      else none
  | .start => if state.phase = .armed then some { state with phase := .body } else none
  | .finish outcome =>
      if state.phase = .body ∧ (outcome = .interrupted → state.flag ≠ none) then
        some { state with phase := .leaving }
      else none
  | .stop =>
      if state.phase = .leaving then
        if state.callback state.run = .registered then
          some { state.withCallback state.run .stopped with phase := .clearing }
        else some { state with phase := .awaiting }
      else none
  | .await =>
      if state.phase = .awaiting ∧ state.callback state.run = .fired then
        some { state with phase := .clearing }
      else none
  | .clear =>
      if state.phase = .clearing then some { state with phase := .cleared, flag := none } else none
  | .cancel =>
      if state.phase = .cleared then
        some { state.endContext state.run .released with phase := .outside, run := state.run + 1 }
      else none
  -- The timer of a run starts with it; a caller can be gone before that.
  | .deadline run => if run ≤ state.run then some (state.endContext run .deadline) else none
  | .callerCancels run => some (state.endContext run .caller)
  | .launch run =>
      if state.callback run = .registered ∧ state.context run ≠ none then
        some (state.withCallback run .launched)
      else none
  | .interrupt run =>
      if state.callback run = .launched then
        some { state.withCallback run .interrupted with flag := some run }
      else none
  | .close run =>
      if state.callback run = .interrupted then some (state.withCallback run .fired) else none

/-- The interpreter as a machine. -/
def machine : Transition.Machine GuardState GuardAction Empty where
  step state action := (state.step action).map fun after => (after, [])

end GuardState

/-! ## The invariant -/

/-- What the callback of the run can have done while the worker is at a point. -/
def GuardPhase.allows : GuardPhase → Callback → Bool
  | .outside, callback => callback = .unregistered
  | .armed, callback | .body, callback | .leaving, callback =>
      callback ≠ .unregistered && callback ≠ .stopped
  | .awaiting, callback =>
      callback = .launched || callback = .interrupted || callback = .fired
  | .clearing, callback | .cleared, callback => callback = .stopped || callback = .fired

/-- What a callback does after its registration, as far as it is not stopped. -/
def Callback.next : Callback → Callback
  | .registered => .launched
  | .launched => .interrupted
  | _ => .fired

theorem GuardPhase.allows_next
    {phase : GuardPhase}
    {callback : Callback}
    (allowed : phase.allows callback = true)
    (moving : callback = .registered ∨ callback = .launched ∨ callback = .interrupted) :
    phase.allows callback.next = true ∧ phase ≠ .outside ∧ phase ≠ .cleared := by
  rcases moving with rfl | rfl | rfl <;> cases phase <;>
    simp_all [GuardPhase.allows, Callback.next]

/-- The callback never sets the flag again. -/
def Callback.settled (callback : Callback) : Bool :=
  callback = .stopped || callback = .fired

/-- The callback acts or has acted. -/
def Callback.active (callback : Callback) : Bool :=
  callback = .launched || callback = .interrupted || callback = .fired

namespace GuardState

/-- Only the callback of the run in progress can act, for a reason of its own. -/
structure Isolated (state : GuardState) : Prop where
  earlier : ∀ run, run < state.run → (state.callback run).settled = true
  later : ∀ run, state.run < run → state.callback run = .unregistered
  own : state.phase.allows (state.callback state.run) = true
  clear : state.phase = .outside ∨ state.phase = .cleared → state.flag = none
  flagged : ∀ run, state.flag = some run → run = state.run ∧ (state.callback run).active = true
  caused : ∀ run, (state.callback run).active = true →
    state.context run = some .deadline ∨ state.context run = some .caller
  released : ∀ run, state.context run = some .released → run < state.run

theorem Isolated.initial : Isolated .initial where
  earlier _ impossible := absurd impossible (Nat.not_lt_zero _)
  later _ _ := rfl
  own := rfl
  clear _ := rfl
  flagged _ impossible := nomatch impossible
  caused _ impossible := nomatch impossible
  released _ impossible := nomatch impossible

variable {state : GuardState}

section

variable (isolated : state.Isolated)
include isolated

theorem Isolated.withCallback
    {callback : Callback}
    {phase : GuardPhase}
    {flag : Option ℕ}
    (allowed : phase.allows callback = true)
    (clear : phase = .outside ∨ phase = .cleared → flag = none)
    (flagged : ∀ run, flag = some run → run = state.run ∧ callback.active = true)
    (caused : callback.active = true →
      state.context state.run = some .deadline ∨ state.context state.run = some .caller) :
    Isolated { state.withCallback state.run callback with phase := phase, flag := flag } where
  earlier run before := by
    have other : run ≠ state.run := Nat.ne_of_lt before
    simpa [GuardState.withCallback, other] using isolated.earlier run before
  later run after := by
    have other : run ≠ state.run := Nat.ne_of_gt after
    simpa [GuardState.withCallback, other] using isolated.later run after
  own := by simpa [GuardState.withCallback] using allowed
  clear := clear
  flagged run set_ := by
    obtain ⟨rfl, active⟩ := flagged run set_
    exact ⟨rfl, by simpa [GuardState.withCallback] using active⟩
  caused run active := by
    by_cases same : run = state.run
    · subst same
      exact caused (by simpa [GuardState.withCallback] using active)
    · exact isolated.caused run (by simpa [GuardState.withCallback, same] using active)
  released := isolated.released

theorem Isolated.withPhase
    {phase : GuardPhase}
    (allowed : phase.allows (state.callback state.run) = true)
    (inside : phase ≠ .outside ∧ phase ≠ .cleared) :
    Isolated { state with phase := phase } :=
  { isolated with
    own := allowed
    clear := fun outside => by rcases outside with same | same <;> simp_all }

theorem Isolated.current
    {run : ℕ}
    (unsettled : (state.callback run).settled = false)
    (registered : state.callback run ≠ .unregistered) :
    run = state.run := by
  rcases Nat.lt_trichotomy run state.run with before | same | after
  · rw [isolated.earlier run before] at unsettled
    cases unsettled
  · exact same
  · exact absurd (isolated.later run after) registered

theorem Isolated.endContext
    (run : ℕ)
    {cause : ContextEnd}
    (outer : cause ≠ .released) :
    (state.endContext run cause).Isolated where
  earlier := isolated.earlier
  later := isolated.later
  own := isolated.own
  clear := isolated.clear
  flagged := isolated.flagged
  caused other active := by
    have known := isolated.caused other active
    by_cases same : other = run
    · subst same
      rcases known with ended | ended <;> simp [GuardState.endContext, ended]
    · simpa [GuardState.endContext, same] using known
  released other ended := by
    by_cases same : other = run
    · subst same
      refine isolated.released other ?_
      cases before : state.context other with
      | none => simp [GuardState.endContext, before, outer] at ended
      | some first => simpa [GuardState.endContext, before] using ended
    · exact isolated.released other (by simpa [GuardState.endContext, same] using ended)

theorem Isolated.cancel
    (leaving : state.phase = .cleared) :
    Isolated { state.endContext state.run .released with
      phase := .outside, run := state.run + 1 } := by
  have settled : (state.callback state.run).settled = true := by
    have own := isolated.own
    rwa [leaving] at own
  have clear := isolated.clear (Or.inr leaving)
  constructor
  · intro run before
    rcases Nat.lt_succ_iff_lt_or_eq.mp before with older | rfl
    · exact isolated.earlier run older
    · exact settled
  · exact fun run after => isolated.later run (Nat.lt_of_succ_lt after)
  · simp [GuardPhase.allows, GuardState.endContext, isolated.later _ (Nat.lt_succ_self state.run)]
  · exact fun _ => clear
  · intro run set_
    rw [show state.flag = some run from set_] at clear
    cases clear
  · intro run active
    have known := isolated.caused run active
    by_cases same : run = state.run
    · subst same
      rcases known with ended | ended <;> simp [GuardState.endContext, ended]
    · simpa [GuardState.endContext, same] using known
  · intro run ended
    by_cases same : run = state.run
    · exact same ▸ Nat.lt_succ_self state.run
    · exact Nat.lt_succ_of_lt
        (isolated.released run (by simpa [GuardState.endContext, same] using ended))

/-- Every action keeps the runs apart. -/
theorem Isolated.step
    {after : GuardState}
    {action : GuardAction}
    (taken : state.step action = some after) :
    after.Isolated := by
  have own := isolated.own
  unfold GuardState.step at taken
  cases action with
  | enter =>
      obtain ⟨outside, ⟨⟩⟩ := Option.ite_none_right_eq_some.mp taken
      have clear := isolated.clear (Or.inl outside)
      refine isolated.withCallback rfl (fun _ => clear) (fun run set_ => ?_) nofun
      exact absurd (set_.symm.trans clear) (Option.some_ne_none run)
  | start =>
      obtain ⟨armed, ⟨⟩⟩ := Option.ite_none_right_eq_some.mp taken
      rw [armed] at own
      exact isolated.withPhase own ⟨nofun, nofun⟩
  | finish outcome =>
      obtain ⟨⟨body, _⟩, ⟨⟩⟩ := Option.ite_none_right_eq_some.mp taken
      rw [body] at own
      exact isolated.withPhase own ⟨nofun, nofun⟩
  | stop =>
      obtain ⟨leaving, taken⟩ := Option.ite_none_right_eq_some.mp taken
      rw [leaving] at own
      split_ifs at taken with registered
      · cases taken
        refine isolated.withCallback rfl nofun (fun run set_ => ?_) nofun
        obtain ⟨rfl, active⟩ := isolated.flagged run set_
        rw [registered] at active
        cases active
      · cases taken
        refine isolated.withPhase ?_ ⟨nofun, nofun⟩
        cases known : state.callback state.run <;> simp_all [GuardPhase.allows]
  | await =>
      obtain ⟨⟨_, fired⟩, ⟨⟩⟩ := Option.ite_none_right_eq_some.mp taken
      exact isolated.withPhase (by rw [fired]; rfl) ⟨nofun, nofun⟩
  | clear =>
      obtain ⟨clearing, ⟨⟩⟩ := Option.ite_none_right_eq_some.mp taken
      rw [clearing] at own
      exact { isolated with own := own, clear := fun _ => rfl, flagged := nofun }
  | cancel =>
      obtain ⟨cleared, ⟨⟩⟩ := Option.ite_none_right_eq_some.mp taken
      exact isolated.cancel cleared
  | deadline run =>
      obtain ⟨_, ⟨⟩⟩ := Option.ite_none_right_eq_some.mp taken
      exact isolated.endContext run nofun
  | callerCancels run =>
      cases taken
      exact isolated.endContext run nofun
  | launch run =>
      obtain ⟨⟨registered, ended⟩, ⟨⟩⟩ := Option.ite_none_right_eq_some.mp taken
      obtain rfl := isolated.current (by rw [registered]; rfl) (by rw [registered]; nofun)
      rw [registered] at own
      refine isolated.withCallback (GuardPhase.allows_next own (Or.inl rfl)).1
        isolated.clear (fun run set_ => ?_) ?_
      · obtain ⟨rfl, active⟩ := isolated.flagged run set_
        rw [registered] at active
        cases active
      · intro _
        cases cause : state.context state.run with
        | none => exact absurd cause ended
        | some cause_ =>
            cases cause_ with
            | deadline => exact Or.inl rfl
            | caller => exact Or.inr rfl
            | released => exact absurd (isolated.released _ cause) (Nat.lt_irrefl _)
  | interrupt run =>
      obtain ⟨launched, ⟨⟩⟩ := Option.ite_none_right_eq_some.mp taken
      obtain rfl := isolated.current (by rw [launched]; rfl) (by rw [launched]; nofun)
      have caused := isolated.caused state.run (by rw [launched]; rfl)
      rw [launched] at own
      obtain ⟨allowed, inside, uncleared⟩ := GuardPhase.allows_next own (Or.inr (Or.inl rfl))
      refine isolated.withCallback allowed (fun ended => ?_) ?_ fun _ => caused
      · exact ended.elim (fun same => absurd same inside) fun same => absurd same uncleared
      · rintro _ ⟨⟩
        exact ⟨rfl, rfl⟩
  | close run =>
      obtain ⟨interrupted, ⟨⟩⟩ := Option.ite_none_right_eq_some.mp taken
      obtain rfl := isolated.current (by rw [interrupted]; rfl) (by rw [interrupted]; nofun)
      have caused := isolated.caused state.run (by rw [interrupted]; rfl)
      rw [interrupted] at own
      exact isolated.withCallback
        (GuardPhase.allows_next own (Or.inr (Or.inr rfl))).1 isolated.clear
        (fun run set_ => ⟨(isolated.flagged run set_).1, rfl⟩) fun _ => caused

end

/-! ## Runs -/

/-- In every state that any interleaving reaches: the flag is clear when the next
guarded run starts; the callback of an earlier run never acts again; the flag is set
only by the callback of the run itself; and a body is interrupted only by the deadline
of its run or by its caller. -/
theorem guarded_runs_isolated
    {shown : List Empty}
    (reached : machine.Reaches Transition.Machine.anyAction .initial state shown) :
    (state.phase = .outside → state.flag = none) ∧
      (∀ run, run < state.run → state.callback run = .stopped ∨ state.callback run = .fired) ∧
      (∀ run, state.flag = some run → run = state.run ∧
        (state.context run = some .deadline ∨ state.context run = some .caller)) ∧
      (∀ run, state.step (.interrupt run) ≠ none → run = state.run ∧ state.phase ≠ .outside) ∧
      (state.step (.finish .interrupted) ≠ none → state.flag = some state.run ∧
        (state.context state.run = some .deadline ∨ state.context state.run = some .caller)) := by
  have isolated : state.Isolated := by
    refine reached.invariant .initial ?_
    intro state action after _ shown _ isolated _ taken
    obtain ⟨next, stepped, ⟨⟩⟩ := Option.map_eq_some_iff.mp taken
    exact isolated.step stepped
  have flagged : ∀ run, state.flag = some run → run = state.run ∧
      (state.context run = some .deadline ∨ state.context run = some .caller) := fun run set_ =>
    ⟨(isolated.flagged run set_).1, isolated.caused run (isolated.flagged run set_).2⟩
  refine ⟨fun outside => isolated.clear (Or.inl outside), fun run before => ?_, flagged, ?_, ?_⟩
  · simpa [Callback.settled] using isolated.earlier run before
  · intro run enabled
    have launched : state.callback run = .launched := by simpa [GuardState.step] using enabled
    obtain rfl := isolated.current (by rw [launched]; rfl) (by rw [launched]; nofun)
    have own := isolated.own
    rw [launched] at own
    exact ⟨rfl, (GuardPhase.allows_next own (Or.inr (Or.inl rfl))).2.1⟩
  · intro enabled
    cases set_ : state.flag with
    | none => simp [GuardState.step, set_] at enabled
    | some run =>
        obtain ⟨rfl, cause⟩ := flagged run set_
        exact ⟨rfl, cause⟩

/-- A run that its deadline interrupts, to the end. -/
def interruptedRun (run : ℕ) : List GuardAction :=
  [.enter, .start, .deadline run, .launch run, .interrupt run, .finish .interrupted, .stop,
    .close run, .await, .clear, .cancel]

theorem interrupted_run_leaves_no_flag :
    ∃ state, machine.Reaches Transition.Machine.anyAction .initial state [] ∧
      state.phase = .outside ∧ state.run = 1 ∧ state.context 0 = some .deadline ∧
      state.flag = none := by
  have permits : machine.Permits Transition.Machine.anyAction .initial (interruptedRun 0) :=
    Transition.Machine.permits_of_forall fun _ _ _ => trivial
  have reached := Transition.Machine.reaches_run permits rfl
  exact ⟨_, reached, rfl, rfl, rfl, (guarded_runs_isolated reached).1 rfl⟩

/-- The caller of the next run is gone before the run starts: its body starts with the
interrupt flag set, by its own callback. -/
theorem body_starts_interrupted :
    ∃ state, machine.run .initial (interruptedRun 0 ++
        [.callerCancels 1, .enter, .launch 1, .interrupt 1, .start]) = some (state, []) ∧
      state.phase = .body ∧ state.flag = some 1 :=
  ⟨_, rfl, rfl, rfl⟩

end GuardState

end InfraObserver
