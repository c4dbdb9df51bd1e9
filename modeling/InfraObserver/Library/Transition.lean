import Mathlib.Data.List.Induction

/-!
# Transition systems with a trace

A machine takes an action in a state if it is enabled there, and shows a list of
events to the outside. A run keeps the events in order, so that a property can
speak about the state and about everything that was shown on the way to it.
-/

namespace Transition

variable {σ α ω : Type}

/-- What an action does in a state: nothing if it is not enabled, else the next
state and the events that are shown. -/
structure Machine (σ α ω : Type) where
  step : σ → α → Option (σ × List ω)

namespace Machine

variable (machine : Machine σ α ω)

/-- The states reached by enabled actions that were allowed when they were taken,
with the events shown on the way. -/
inductive Reaches (allowed : σ → α → Prop) (start : σ) : σ → List ω → Prop
  | here : Reaches allowed start start []
  | next
      {state after : σ}
      {trace shown : List ω}
      (action : α)
      (reached : Reaches allowed start state trace)
      (permitted : allowed state action)
      (taken : machine.step state action = some (after, shown)) :
      Reaches allowed start after (trace ++ shown)

/-- The state and the events after a list of actions, if each is enabled. -/
def run : σ → List α → Option (σ × List ω)
  | state, [] => some (state, [])
  | state, action :: rest =>
      match machine.step state action with
      | none => none
      | some (after, shown) =>
          (run after rest).map fun final => (final.1, shown ++ final.2)

/-- Every action of a list is allowed when it is taken. -/
def Permits (allowed : σ → α → Prop) : σ → List α → Prop
  | _, [] => True
  | state, action :: rest =>
      allowed state action ∧
        match machine.step state action with
        | none => True
        | some (after, _) => Permits allowed after rest

instance decidablePermits
    (allowed : σ → α → Prop)
    [∀ state action, Decidable (allowed state action)] :
    (state : σ) → (actions : List α) → Decidable (machine.Permits allowed state actions)
  | _, [] => isTrue trivial
  | state, action :: rest =>
      match taken : machine.step state action with
      | none => decidable_of_iff (allowed state action) (by simp [Permits, taken])
      | some (after, shown) =>
          have : Decidable (machine.Permits allowed after rest) :=
            decidablePermits allowed after rest
          decidable_of_iff (allowed state action ∧ machine.Permits allowed after rest)
            (by simp [Permits, taken])

variable {machine}
variable {allowed : σ → α → Prop} {start state middle : σ} {trace shown : List ω}

theorem run_cons_of_step
    {action : α}
    (taken : machine.step state action = some (middle, shown))
    (rest : List α) :
    machine.run state (action :: rest) =
      (machine.run middle rest).map fun final => (final.1, shown ++ final.2) := by
  rw [run, taken]

/-- Any action is allowed. -/
abbrev anyAction : σ → α → Prop := fun _ _ => True

/-- What holds at the start and is kept by every allowed action holds in every
reachable state. -/
@[elab_as_elim]
theorem Reaches.invariant
    {motive : σ → List ω → Prop}
    (reached : machine.Reaches allowed start state trace)
    (initially : motive start [])
    (kept : ∀ state action after trace shown, machine.Reaches allowed start state trace →
      motive state trace → allowed state action →
      machine.step state action = some (after, shown) → motive after (trace ++ shown)) :
    motive state trace := by
  induction reached with
  | here => exact initially
  | next action reached permitted taken ih =>
      exact kept _ action _ _ _ reached ih permitted taken

theorem Reaches.trans
    (first : machine.Reaches allowed start middle trace)
    (second : machine.Reaches allowed middle state shown) :
    machine.Reaches allowed start state (trace ++ shown) := by
  induction second with
  | here => rwa [List.append_nil]
  | next action _ permitted taken ih =>
      rw [← List.append_assoc]
      exact .next action ih permitted taken

theorem permits_of_forall
    {actions : List α}
    (always : ∀ state, ∀ action ∈ actions, allowed state action) :
    machine.Permits allowed start actions := by
  induction actions generalizing start with
  | nil => trivial
  | cons action rest ih =>
      refine ⟨always start action (List.mem_cons_self ..), ?_⟩
      split
      · trivial
      · exact ih fun state other member =>
          always state other (List.mem_cons_of_mem _ member)

theorem reaches_run
    {actions : List α}
    (permits : machine.Permits allowed start actions)
    (ran : machine.run start actions = some (state, trace)) :
    machine.Reaches allowed start state trace := by
  induction actions generalizing start state trace with
  | nil =>
      cases ran
      exact .here
  | cons action rest ih =>
      simp only [run] at ran
      simp only [Permits] at permits
      split at ran
      · cases ran
      · next after shown taken =>
          rw [taken] at permits
          obtain ⟨⟨final, later⟩, ranRest, same⟩ := Option.map_eq_some_iff.mp ran
          cases same
          exact (Reaches.next action .here permits.1 taken).trans
            (ih permits.2 ranRest)

theorem run_concat
    {early : List α}
    {action : α}
    (ran : machine.run start (early ++ [action]) = some (state, trace)) :
    ∃ middle before shown, machine.run start early = some (middle, before) ∧
      machine.step middle action = some (state, shown) := by
  induction early generalizing start trace with
  | nil =>
      rw [List.nil_append, run] at ran
      split at ran
      · cases ran
      · next after shown taken =>
          cases ran
          exact ⟨start, [], shown, rfl, taken⟩
  | cons first rest ih =>
      rw [List.cons_append, run] at ran
      split at ran
      · cases ran
      · next after seen taken =>
          obtain ⟨⟨final, later⟩, ranRest, same⟩ := Option.map_eq_some_iff.mp ran
          cases same
          obtain ⟨middle, before, shown, reached, last⟩ := ih ranRest
          exact ⟨middle, seen ++ before, shown,
            by rw [run_cons_of_step taken, reached, Option.map_some], last⟩

/-- What holds before the first action and is kept by each holds after all of them. -/
theorem run_invariant
    (property : List α → σ → Prop)
    (initially : property [] start)
    (kept : ∀ early before state action after shown,
      machine.run start early = some (state, before) → property early state →
      machine.step state action = some (after, shown) → property (early ++ [action]) after)
    {actions : List α}
    (ran : machine.run start actions = some (state, trace)) :
    property actions state := by
  induction actions using List.reverseRecOn generalizing state trace with
  | nil =>
      cases ran
      exact initially
  | append_singleton early action ih =>
      obtain ⟨middle, before, shown, reached, taken⟩ := run_concat ran
      exact kept early before middle action state shown reached (ih reached) taken

end Machine

end Transition
