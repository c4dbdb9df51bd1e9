import Mathlib.Control.Basic

/-!
# Programs that issue requests

A program of this module either returns a value or issues one request and
continues with the answer. The same program can then be run alone, with an
interpreter for its requests, or interleaved with other programs, one request
at a time.

`wp` is the weakest precondition of a program under a contract for its
requests: every request is issued in a state that satisfies the contract's
precondition, whatever the answers the contract allows, and the program
returns in a state that satisfies the postcondition.
-/

/-- A program that issues requests `Op`, each answered by a value of type
`Res`, and returns a value of type `α`. -/
inductive Prog (Op : Type) (Res : Op → Type) (α : Type)
  | ret (value : α)
  | call (op : Op) (next : Res op → Prog Op Res α)

namespace Prog

variable {Op : Type} {Res : Op → Type} {σ α β ε : Type}

/-- Run a program and continue with its result. -/
def bind : Prog Op Res α → (α → Prog Op Res β) → Prog Op Res β
  | .ret value, follow => follow value
  | .call op next, follow => .call op fun answer => (next answer).bind follow

instance : Monad (Prog Op Res) where
  pure := .ret
  bind := Prog.bind

/-- Issue one request and return its answer. -/
def request (op : Op) : Prog Op Res (Res op) :=
  .call op .ret

/-- A program that has issued its last request. -/
def Finished : Prog Op Res α → Prop
  | .ret _ => True
  | .call _ _ => False

instance (program : Prog Op Res α) : Decidable program.Finished :=
  match program with
  | .ret _ => isTrue trivial
  | .call _ _ => isFalse id

/-- What the issuer of requests must establish before each request, and what
it may assume about the answer and the state after it. -/
structure Contract (Op : Type) (Res : Op → Type) (σ : Type) where
  pre : σ → Op → Prop
  /-- The answers and next states that the request can have. -/
  post : σ → (op : Op) → Res op → σ → Prop

/-- Weakest precondition of a program under a contract. -/
def wp (contract : Contract Op Res σ) (goal : α → σ → Prop) :
    Prog Op Res α → σ → Prop
  | .ret value, state => goal value state
  | .call op next, state =>
      contract.pre state op ∧
        ∀ answer state', contract.post state op answer state' →
          (next answer).wp contract goal state'

variable {contract : Contract Op Res σ} {state : σ}

@[simp] theorem wp_ret
    (goal : α → σ → Prop)
    (value : α) :
    (Prog.ret value : Prog Op Res α).wp contract goal state ↔
      goal value state := Iff.rfl

@[simp] theorem wp_call
    (goal : α → σ → Prop)
    (op : Op)
    (next : Res op → Prog Op Res α) :
    (Prog.call op next).wp contract goal state ↔
      contract.pre state op ∧
        ∀ answer state', contract.post state op answer state' →
          (next answer).wp contract goal state' := Iff.rfl

variable {goal : α → σ → Prop} {program : Prog Op Res α}

theorem wp_mono
    {weaker : α → σ → Prop}
    (implies : ∀ value state, goal value state → weaker value state)
    (holds : program.wp contract goal state) :
    program.wp contract weaker state := by
  induction program generalizing state with
  | ret value => exact implies value state holds
  | call op next ih =>
      refine ⟨holds.1, ?_⟩
      intro answer state' allowed
      exact ih answer (holds.2 answer state' allowed)

@[simp] theorem wp_bind
    (goal : β → σ → Prop)
    (program : Prog Op Res α)
    (follow : α → Prog Op Res β) :
    (program >>= follow).wp contract goal state ↔
      program.wp contract
        (fun value state' => (follow value).wp contract goal state') state := by
  induction program generalizing state with
  | ret value => exact Iff.rfl
  | call op next ih =>
      change contract.pre state op ∧ (∀ answer state', _ → _) ↔
        contract.pre state op ∧ (∀ answer state', _ → _)
      refine and_congr_right fun _ => ?_
      refine forall_congr' fun answer => forall_congr' fun state' => ?_
      exact imp_congr_right fun _ => ih answer

/-! ### Running a program alone -/

section

variable (handler : (op : Op) → σ → Res op × σ)

/-- Run a program with a handler that answers each request at once. -/
def exec (handler : (op : Op) → σ → Res op × σ) : Prog Op Res α → σ → α × σ
  | .ret value, state => (value, state)
  | .call op next, state =>
      (next (handler op state).1).exec handler (handler op state).2

theorem exec_bind
    (program : Prog Op Res α)
    (follow : α → Prog Op Res β)
    (state : σ) :
    (program >>= follow).exec handler state =
      (follow (program.exec handler state).1).exec handler (program.exec handler state).2 := by
  induction program generalizing state with
  | ret value => rfl
  | call op next ih => exact ih _ _

/-- A handler that keeps more in its state than another, and answers the same,
runs every program to the same result. -/
theorem exec_project
    {τ : Type}
    (extended : (op : Op) → τ → Res op × τ)
    (project : τ → σ)
    (agrees : ∀ op state, (extended op state).1 = (handler op (project state)).1 ∧
      project (extended op state).2 = (handler op (project state)).2)
    (program : Prog Op Res α)
    (state : τ) :
    (program.exec extended state).1 = (program.exec handler (project state)).1 ∧
      project (program.exec extended state).2 = (program.exec handler (project state)).2 := by
  induction program generalizing state with
  | ret value => exact ⟨rfl, rfl⟩
  | call op next ih =>
      obtain ⟨answer, kept⟩ := agrees op state
      simp only [exec]
      rw [← answer, ← kept]
      exact ih _ _

/-- What every request preserves, the whole run preserves. -/
theorem exec_preserves
    (invariant : σ → Prop)
    (preserved : ∀ op state, invariant state → invariant (handler op state).2)
    (program : Prog Op Res α)
    (state : σ)
    (holds : invariant state) :
    invariant (program.exec handler state).2 := by
  induction program generalizing state with
  | ret value => exact holds
  | call op next ih =>
      exact ih _ _ (preserved op state holds)

end

section

variable {τ : Type} (handler : (op : Op) → τ → Res op × τ) (view : τ → σ)
  (keeps : ∀ op state, contract.pre (view state) op →
    contract.post (view state) op (handler op state).1 (view (handler op state).2))
include keeps

/-- A handler that keeps the contract establishes the goal of every program
that is correct under the contract. The contract may look at only a part of
the handler's state. -/
theorem exec_of_wp
    (state : τ)
    (correct : program.wp contract goal (view state)) :
    goal (program.exec handler state).1 (view (program.exec handler state).2) := by
  induction program generalizing state with
  | ret value => exact correct
  | call op next ih =>
      exact ih _ _ (correct.2 _ _ (keeps op state correct.1))

/-- What every request that the program can issue under the contract preserves,
the whole run preserves. -/
theorem exec_keeps
    (invariant : τ → Prop)
    (preserved : ∀ op state, contract.pre (view state) op → invariant state →
      invariant (handler op state).2)
    (state : τ)
    (holds : invariant state)
    (correct : program.wp contract goal (view state)) :
    invariant (program.exec handler state).2 := by
  induction program generalizing state with
  | ret value => exact holds
  | call op next ih =>
      exact ih _ _ (preserved op state correct.1 holds)
        (correct.2 _ _ (keeps op state correct.1))

/-- Requests that get the same answers from related states, and keep the states
related, make the whole runs agree. Only the requests that the program can issue
under the contract matter. -/
theorem exec_related
    (related : τ → τ → Prop)
    (agrees : ∀ op left right, contract.pre (view left) op → related left right →
      (handler op left).1 = (handler op right).1 ∧
        related (handler op left).2 (handler op right).2)
    {left right : τ}
    (start : related left right)
    (correct : program.wp contract goal (view left)) :
    (program.exec handler left).1 = (program.exec handler right).1 ∧
      related (program.exec handler left).2 (program.exec handler right).2 := by
  induction program generalizing left right with
  | ret value => exact ⟨rfl, start⟩
  | call op next ih =>
      obtain ⟨answer, still⟩ := agrees op left right correct.1 start
      have rest := ih _ still (correct.2 _ _ (keeps op left correct.1))
      simp only [exec]
      rw [← answer]
      exact rest

end

end Prog

/-! ## Programs that can fail -/

/-- A program that ends with a value or with an error. An error ends the
program at once, as an early return does. -/
abbrev Fallible (Op : Type) (Res : Op → Type) (ε α : Type) :=
  ExceptT ε (Prog Op Res) α

namespace Fallible

variable {Op : Type} {Res : Op → Type} {σ α β ε : Type}
variable {contract : Prog.Contract Op Res σ} {state : σ}

/-- Continue after success, keep the goal after an error. -/
def continued
    (goal : Except ε β → σ → Prop)
    (follow : α → σ → Prop) :
    Except ε α → σ → Prop
  | .ok value, state => follow value state
  | .error failure, state => goal (.error failure) state

@[simp] theorem wp_bind
    (goal : Except ε β → σ → Prop)
    (task : Fallible Op Res ε α)
    (follow : α → Fallible Op Res ε β) :
    Prog.wp contract goal (task >>= follow : Fallible Op Res ε β) state ↔
      Prog.wp contract
        (continued goal fun value state' =>
          Prog.wp contract goal (follow value) state') task state := by
  change Prog.wp contract goal
    (Prog.bind task (ExceptT.bindCont follow)) state ↔ _
  refine (Prog.wp_bind goal task (ExceptT.bindCont follow)).trans ?_
  constructor <;> refine Prog.wp_mono ?_
  · rintro (failure | value) state' holds <;> exact holds
  · rintro (failure | value) state' holds <;> exact holds

/-- Running a composition that can fail: an error of the first part is the error
of the whole. -/
theorem exec_bind
    (handler : (op : Op) → σ → Res op × σ)
    (task : Fallible Op Res ε α)
    (follow : α → Fallible Op Res ε β)
    (state : σ) :
    Prog.exec handler (task >>= follow : Fallible Op Res ε β) state =
      match Prog.exec handler task state with
      | (.ok value, after) => Prog.exec handler (follow value) after
      | (.error failure, after) => (.error failure, after) := by
  refine (Prog.exec_bind handler task (ExceptT.bindCont follow) state).trans ?_
  rcases Prog.exec handler task state with ⟨failure | value, after⟩ <;> rfl

@[simp] theorem wp_lift
    (goal : Except ε α → σ → Prop)
    (program : Prog Op Res α) :
    Prog.wp contract goal (ExceptT.lift program : Fallible Op Res ε α) state ↔
      program.wp contract (fun value => goal (.ok value)) state :=
  Prog.wp_bind goal program fun value => .ret (.ok value)

end Fallible
