import Mathlib.Data.List.Basic

/-!
# Retried transactions

A transaction runs on the committed tables, and what it writes is kept only when it
commits. An attempt that fails with a retryable error is made again, on the tables
as other workers have left them by then. The body of a transaction may set a
variable from outside, which no rollback takes back.

`run_ends` is the rule for such a call: which attempt has committed, on which tables,
and what the attempts before it have made of the variable.
-/

namespace Retried

variable {Tables Value Fault : Type}

/-- What surrounds one attempt: what others commit before it, where it fails, and
whether the wait after it is cut short. -/
structure Attempt (Tables Fault : Type) where
  others : Tables → Tables
  begins : Option Fault
  statement : ℕ → Option Fault
  commits : Option Fault
  cancelled : Option Fault

/-- The body of a transaction: it is told which of its statements fail, and gives the
variable from outside and the tables that it wants to commit. -/
abbrev Body (Tables Value Fault : Type) : Type :=
  (ℕ → Option Fault) → Value → Tables → Value × Except Fault Tables

/-- How a call ends. -/
structure Outcome (Tables Value Fault : Type) where
  value : Value
  failure : Option Fault
  /-- The tables as the attempt that committed has found and left them. -/
  committed : Option (Tables × Tables)

/-- One attempt. -/
def once (body : Body Tables Value Fault) (attempt : Attempt Tables Fault) (value : Value)
    (tables : Tables) : Value × Except Fault Tables :=
  match attempt.begins with
  | some failure => (value, .error failure)
  | none =>
      match body attempt.statement value tables with
      | (value, .error failure) => (value, .error failure)
      | (value, .ok written) =>
          match attempt.commits with
          | some failure => (value, .error failure)
          | none => (value, .ok written)

/-- One attempt after the other, until one commits or fails for good. -/
def run (retryable : Fault → Bool) (body : Body Tables Value Fault) :
    List (Attempt Tables Fault) → Option Fault → Value → Tables → Outcome Tables Value Fault
  | [], last, value, _ => ⟨value, last, none⟩
  | attempt :: rest, _, value, tables =>
      match once body attempt value (attempt.others tables) with
      | (value, .ok written) => ⟨value, none, some (attempt.others tables, written)⟩
      | (value, .error failure) =>
          if retryable failure then
            match attempt.cancelled with
            | some stopped => ⟨value, some stopped, none⟩
            | none => run retryable body rest (some failure) value (attempt.others tables)
          else ⟨value, some failure, none⟩

/-- A call without an error has committed one attempt, of which something holds; a
call with an error has committed none. -/
def Outcome.Ensures (outcome : Outcome Tables Value Fault)
    (ensured : Value → Tables → Tables → Prop) : Prop :=
  (outcome.failure = none → ∃ found left, outcome.committed = some (found, left) ∧
    ensured outcome.value found left) ∧
  (outcome.failure ≠ none → outcome.committed = none)

variable {retryable : Fault → Bool} {body : Body Tables Value Fault}

/-- The attempts that a call makes, each with the tables that it finds. -/
def made (retryable : Fault → Bool) (body : Body Tables Value Fault) :
    List (Attempt Tables Fault) → Value → Tables → List (Attempt Tables Fault × Tables)
  | [], _, _ => []
  | attempt :: rest, value, tables =>
      (attempt, attempt.others tables) ::
        match once body attempt value (attempt.others tables), attempt.cancelled with
        | (value, .error failure), none =>
            if retryable failure then made retryable body rest value (attempt.others tables) else []
        | _, _ => []

/-- What attempts make of the variable. -/
def valueAfter (body : Body Tables Value Fault) (value : Value)
    (tries : List (Attempt Tables Fault × Tables)) : Value :=
  tries.foldl (fun value tried => (once body tried.1 value tried.2).1) value

/-- A call with an error has committed nothing. A call without one has committed the
last attempt that it made, with the variable as the earlier ones have left it. -/
theorem run_ends
    (attempts : List (Attempt Tables Fault))
    {last : Option Fault}
    {value : Value}
    {tables : Tables}
    (tried : attempts = [] → last ≠ none) :
    ((run retryable body attempts last value tables).failure ≠ none →
      (run retryable body attempts last value tables).committed = none) ∧
    ((run retryable body attempts last value tables).failure = none →
      ∃ earlier attempt found left,
        made retryable body attempts value tables = earlier ++ [(attempt, found)] ∧
        (run retryable body attempts last value tables).committed = some (found, left) ∧
        once body attempt (valueAfter body value earlier) found =
          ((run retryable body attempts last value tables).value, .ok left)) := by
  induction attempts generalizing last value tables with
  | nil => exact ⟨fun _ => rfl, fun missing => absurd missing (tried rfl)⟩
  | cons attempt rest ih =>
      unfold run made
      rcases ran : once body attempt value (attempt.others tables) with ⟨set_, failure | left⟩
      · cases attempt.cancelled with
        | some stopped =>
            dsimp only
            split_ifs <;> exact ⟨fun _ => rfl, fun missing => by cases missing⟩
        | none =>
            dsimp only
            split_ifs
            · obtain ⟨failed, succeeded⟩ := @ih (some failure) set_ (attempt.others tables)
                fun _ => Option.some_ne_none failure
              refine ⟨failed, fun missing => ?_⟩
              obtain ⟨earlier, final, found, left, tries, committed, ends⟩ := succeeded missing
              refine ⟨(attempt, attempt.others tables) :: earlier, final, found, left,
                congrArg (List.cons _) tries, committed, ?_⟩
              rw [valueAfter, List.foldl_cons, ran]
              exact ends
            · exact ⟨fun _ => rfl, fun missing => by cases missing⟩
      · refine ⟨fun failed => absurd rfl failed, fun _ => ?_⟩
        exact ⟨[], attempt, _, left, by cases attempt.cancelled <;> rfl, rfl, ran⟩

theorem once_ok
    {attempt : Attempt Tables Fault}
    {before after : Value}
    {found left : Tables}
    (succeeded : once body attempt before found = (after, .ok left)) :
    body attempt.statement before found = (after, .ok left) := by
  unfold once at succeeded
  cases begun : attempt.begins with
  | some failure => simp [begun] at succeeded
  | none =>
      rcases ran : body attempt.statement before found with ⟨set_, failure | written⟩
      · simp [begun, ran] at succeeded
      · cases committed : attempt.commits <;> simp_all

end Retried
