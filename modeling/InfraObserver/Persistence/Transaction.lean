import InfraObserver.Persistence.MemStore

/-!
# Reasoning about transactions

Every operation logs the revert of what it did, so running the log backwards
gives the store from before the transaction, whatever the body did and wherever
it failed. What a body does is reasoned about with `Follows`, which takes it
operation by operation and says on which terms it runs.
-/

namespace InfraObserver

namespace Tx

variable {F : Type} [GoFloat F]

omit [GoFloat F] in
theorem rollback_logged
    (tx : Tx F)
    (store : MemStore F)
    (revert : MemStore F → MemStore F)
    (takenBack : revert store = tx.store) :
    rollback { store, undo := revert :: tx.undo } = tx.rollback := by
  simp only [rollback, List.foldl_cons, takenBack]

theorem perform_rollback (op : TxOp F) (tx : Tx F) :
    (op.perform tx).2.rollback = tx.rollback := by
  cases op with
  | insertObservation _ | insertTransition _ | insertEvent _ =>
      simp only [TxOp.perform, insertObservation, insertTransition, insertEvent]
      split
      · rfl
      · next fresh =>
          apply rollback_logged
          simp only [StringMap.erase_insert_of_fresh _ _ _ fresh, List.dropLast_concat]
  | touchDevice id instant =>
      simp only [TxOp.perform, touchDevice]
      split
      · rfl
      · next old present =>
          split
          · rfl
          · apply rollback_logged
            simp only [StringMap.insert_insert_of_lookup _ _ _ _ present]
  | samples | getState => rfl
  | putState record =>
      simp only [TxOp.perform, putState]
      apply rollback_logged
      cases before : tx.store.states.lookup record.key with
      | some old => simp only [StringMap.insert_insert_of_lookup _ _ _ _ before]
      | none => simp only [StringMap.erase_insert_of_fresh _ _ _ before]
  | openAlert event =>
      simp only [TxOp.perform, openAlert]
      split
      · rfl
      · apply rollback_logged
        simp only [List.dropLast_concat]
  | resolveAlert event =>
      simp only [TxOp.perform, resolveAlert]
      split
      · rfl
      · split
        · rfl
        · next old present =>
            apply rollback_logged
            obtain ⟨inRange, rfl⟩ := List.getElem?_eq_some_iff.mp present
            simp only [List.set_set, List.set_getElem_self]
  | enqueue message =>
      simp only [TxOp.perform, enqueue, MemStore.enqueue]
      apply rollback_logged
      simp only [List.dropLast_concat, Nat.add_sub_cancel]

end Tx

namespace MemStore

variable {F α : Type} [GoFloat F]

/-- A transaction that fails leaves the store as it was, for every body and
every schedule of failures. -/
theorem transact_error
    {refused : Option Error}
    {faults : ℕ → Option Error}
    {body : TxM F α}
    {store : MemStore F}
    {failure : Error}
    (failed : (store.transact refused faults body).1 = .error failure) :
    (store.transact refused faults body).2 = store := by
  unfold transact at failed ⊢
  cases refused with
  | some reason => rfl
  | none =>
      have kept := Prog.exec_preserves (TxM.handler faults)
        (fun session => session.1.rollback = store)
        (fun op session holds => by
          unfold TxM.handler
          split
          · exact holds
          · rw [← holds]
            exact Tx.perform_rollback op session.1)
        body (⟨store, []⟩, 0) rfl
      dsimp only at failed ⊢
      split at failed
      · simp at failed
      · next outcome =>
          rw [outcome] at kept
          exact kept

end MemStore

namespace TxM

variable {F : Type}

/-- Perform operations one after the other, whatever they answer. -/
def performAll : List (TxOp F) → TxM F Unit
  | [] => pure ()
  | op :: rest => do
      let _ ← perform op
      performAll rest

theorem exec_performAll [GoFloat F]
    (ops : List (TxOp F))
    (session : Tx F × ℕ) :
    (Prog.exec (handler fun _ => none) (performAll ops) session).1 = .ok () := by
  induction ops generalizing session with
  | nil => rfl
  | cons op rest ih =>
      rw [performAll, Fallible.exec_bind]
      exact ih _

end TxM

namespace MemStore

variable {F α : Type} [GoFloat F]

theorem transact_throw
    (refused : Option Error)
    (faults : ℕ → Option Error)
    (body : TxM F α)
    (failure : Error)
    (store : MemStore F) :
    ∃ reported,
      (store.transact refused faults
        (body >>= fun _ => (throw failure : TxM F Unit))).1 = .error reported := by
  cases refused with
  | some reason => exact ⟨reason, rfl⟩
  | none =>
      simp only [transact, Fallible.exec_bind]
      rcases Prog.exec (TxM.handler faults) body (⟨store, []⟩, 0) with ⟨refusal | value, after⟩
      · exact ⟨refusal, rfl⟩
      · exact ⟨failure, rfl⟩

/-- Rollback is exact. Whatever operations a transaction performs before it ends
with an error, the store afterwards is the store before it, table by table, with
the orders of insertion and the counter of the outbox. The body may choose its
operations by the answers it gets, operations may fail, and the transaction may be
refused. -/
theorem rollback_exact (store : MemStore F) (failure : Error) :
    (∀ ops : List (TxOp F),
      store.transact none (fun _ => none)
        (TxM.performAll ops >>= fun _ => (throw failure : TxM F Unit)) =
          (.error failure, store)) ∧
    ∀ (refused : Option Error) (faults : ℕ → Option Error) (body : TxM F α),
      ∃ reported,
        store.transact refused faults (body >>= fun _ => (throw failure : TxM F Unit)) =
          (.error reported, store) := by
  constructor
  · intro ops
    have failed : (store.transact none (fun _ => none)
        (TxM.performAll ops >>= fun _ => (throw failure : TxM F Unit))).1 = .error failure := by
      have performed := TxM.exec_performAll ops (⟨store, []⟩, 0)
      simp only [transact, Fallible.exec_bind]
      rcases ran : Prog.exec (TxM.handler fun _ => none) (TxM.performAll ops) (⟨store, []⟩, 0)
        with ⟨refusal | value, after⟩
      · rw [ran] at performed
        cases performed
      · rfl
    exact Prod.ext failed (transact_error failed)
  · intro refused faults body
    obtain ⟨reported, failed⟩ := transact_throw refused faults body failure store
    exact ⟨reported, Prod.ext failed (transact_error failed)⟩

end MemStore

/-! ## Bodies that keep to terms -/

namespace TxM

variable {F α β : Type} [GoFloat F]

/-- The terms on which a body runs: the operations that it may issue, and whether
something may fail. -/
structure Terms (F : Type) where
  may : MemStore F → TxOp F → Prop
  fails : Prop

/-- An operation is issued only where it may be. It has its effect, or fails without
one. -/
def Terms.contract (terms : Terms F) : Prog.Contract (TxOp F) TxRes (Tx F) where
  pre tx op := terms.may tx.store op
  post tx op answer after :=
    (terms.fails ∧ ∃ failure, answer = .error failure ∧ after = tx) ∨
      answer = .ok (op.perform tx).1 ∧ after = (op.perform tx).2

/-- The goal of a body that fails only when something may. -/
def Terms.onSuccess (terms : Terms F) (goal : α → Tx F → Prop) : Except Error α → Tx F → Prop
  | .ok value, tx => goal value tx
  | .error _, _ => terms.fails

/-- From `tx` the body keeps to the terms, and it reaches the goal whenever it
succeeds. -/
def Follows
    (terms : Terms F)
    (body : TxM F α)
    (tx : Tx F)
    (goal : α → Tx F → Prop) : Prop :=
  Prog.wp terms.contract (terms.onSuccess goal) body tx

variable {terms : Terms F} {tx : Tx F}

theorem follows_perform
    {op : TxOp F}
    {goal : op.Answer → Tx F → Prop}
    (allowed : terms.may tx.store op)
    (reached : goal (op.perform tx).1 (op.perform tx).2) :
    Follows terms (perform op) tx goal := by
  refine ⟨allowed, ?_⟩
  rintro answer after (⟨fails, failure, rfl, _⟩ | ⟨rfl, rfl⟩)
  · exact fails
  · exact reached

theorem Follows.mono
    {body : TxM F α}
    {goal weaker : α → Tx F → Prop}
    (follows : Follows terms body tx goal)
    (implies : ∀ value after, goal value after → weaker value after) :
    Follows terms body tx weaker := by
  refine Prog.wp_mono ?_ follows
  rintro (failure | value) after holds
  · exact holds
  · exact implies value after holds

theorem follows_bind
    {body : TxM F α}
    {follow : α → TxM F β}
    {goal : β → Tx F → Prop}
    (follows : Follows terms body tx fun value after => Follows terms (follow value) after goal) :
    Follows terms (body >>= follow) tx goal := by
  refine (Fallible.wp_bind _ _ _).mpr (Prog.wp_mono ?_ follows)
  rintro (failure | value) after holds <;> exact holds

/-- The schedule of failures keeps to the terms. -/
def Terms.Admits (terms : Terms F) (faults : ℕ → Option Error) : Prop :=
  terms.fails ∨ ∀ position, faults position = none

theorem handler_keeps
    {faults : ℕ → Option Error}
    (admits : terms.Admits faults)
    (op : TxOp F)
    (session : Tx F × ℕ)
    (_ : terms.contract.pre session.1 op) :
    terms.contract.post session.1 op (handler faults op session).1
      (handler faults op session).2.1 := by
  unfold handler
  split
  · next failing =>
      refine Or.inl ⟨admits.resolve_right fun quiet => ?_, _, rfl, rfl⟩
      rw [quiet] at failing
      cases failing
  · exact Or.inr ⟨rfl, rfl⟩

end TxM

namespace MemStore

variable {F α : Type} [GoFloat F]
variable {faults : ℕ → Option Error} {terms : TxM.Terms F} {body : TxM F α} {store : MemStore F}
variable {goal : α → Tx F → Prop}

/-- A transaction that succeeds has reached the goal of its body. -/
theorem transact_ok
    {refused : Option Error}
    (admits : terms.Admits faults)
    (follows : TxM.Follows terms body ⟨store, []⟩ goal)
    {value : α}
    (succeeded : (store.transact refused faults body).1 = .ok value) :
    ∃ tx, goal value tx ∧ (store.transact refused faults body).2 = tx.store := by
  unfold transact at succeeded ⊢
  cases refused with
  | some reason => simp at succeeded
  | none =>
      have reached := Prog.exec_of_wp (TxM.handler faults) Prod.fst
        (TxM.handler_keeps admits) (⟨store, []⟩, 0) follows
      dsimp only at succeeded ⊢
      split at succeeded
      · next outcome =>
          rw [outcome] at reached
          obtain ⟨rfl⟩ := succeeded
          exact ⟨_, reached, rfl⟩
      · simp at succeeded

end MemStore

end InfraObserver
