import InfraObserver.Library.Retried
import InfraObserver.Persistence.MemStore

/-!
# Retried calls of the PostgreSQL store

`PGStore.Do` runs a transaction up to four times. `InsertAutomationRequest` and
`CompleteAutomation` report through a variable that the transaction sets.

`InsertAutomationRequest` sets its variable in every attempt that reaches the insert.
`CompleteAutomation` sets it only where the insert took effect, so that what an
aborted attempt has set remains when the next one finds the result of another worker.
-/

namespace InfraObserver

/-- An error inside a transaction. -/
inductive PGError
  | categorised (failure : Error)
  | server (code text : String)
  | deadlineExceeded
  | other (text : String)
  deriving DecidableEq

namespace PGError

/-- The text of an error. -/
def text : PGError → String
  | .categorised failure => failure.text
  | .server _ text => text
  | .deadlineExceeded => "context deadline exceeded"
  | .other text => text

/-- `classifyPG`. -/
def classifyPG (op : String) (err : PGError) : Error :=
  let wrap (category : Category) : Error :=
    ⟨category, category.name ++ ": " ++ op ++ ": " ++ err.text⟩
  match err with
  | .categorised failure => failure
  | .server code _ =>
      if (code.take 2).toString ∈ ["22", "23", "42"] then wrap .permanent else wrap .dependency
  | .deadlineExceeded => wrap .timeout
  | .other _ => wrap .dependency

/-- `retryablePG`. -/
def retryablePG : PGError → Bool
  | .server code _ => code = "40001" || code = "40P01"
  | _ => false

/-- The answer to a result of a request that is not stored. -/
def foreignKey : PGError :=
  .server "23503" ("ERROR: insert or update on table \"automation_results\" violates " ++
    "foreign key constraint \"automation_results_request_id_fkey\" (SQLSTATE 23503)")

end PGError

/-- The tables that the calls write. -/
structure AutomationTables where
  requests : StringMap AutomationRequest
  results : StringMap AutomationResult
  outbox : List OutboxMessage
  deriving DecidableEq

namespace PGStore

open Retried (Attempt Body Outcome)

/-- `Do`: at most four attempts. -/
def doTx {Value : Type} (fn : Body AutomationTables Value PGError)
    (attempts : ℕ → Attempt AutomationTables PGError) (value : Value)
    (tables : AutomationTables) : Outcome AutomationTables Value Error :=
  let outcome := Retried.run PGError.retryablePG fn ((List.range 4).map attempts) none value tables
  { outcome with failure := outcome.failure.map (PGError.classifyPG "transaction") }

/-- `enqueueTx`, with the number of its first statement. -/
def enqueueTx (statement : ℕ → Option PGError) :
    ℕ → List OutboxMessage → AutomationTables → Except PGError AutomationTables
  | _, [], tables => .ok tables
  | number, message :: rest, tables =>
      match statement number with
      | some err => .error err
      | none =>
          enqueueTx statement (number + 1) rest { tables with outbox := tables.outbox ++ [message] }

variable (request : AutomationRequest) (result : AutomationResult) (outbox : List OutboxMessage)

/-- The tables after a new request. -/
def withRequest (tables : AutomationTables) : AutomationTables :=
  { tables with requests := tables.requests.insert request.requestID request }

/-- The tables after a new result of a stored request. -/
def withResult (tables : AutomationTables) : AutomationTables :=
  { tables with
    results := tables.results.insert result.requestID result
    requests := tables.requests.insert result.requestID { request with status := result.status } }

/-- The transaction of `InsertAutomationRequest`. -/
def insertTx : Body AutomationTables Bool PGError := fun statement inserted tables =>
  match statement 0 with
  | some err => (inserted, .error err)
  | none =>
      match tables.requests.lookup request.requestID with
      | some _ => (false, .ok tables)
      | none => (true, enqueueTx statement 1 outbox (withRequest request tables))

/-- `InsertAutomationRequest`. -/
def insertAutomationRequest
    (attempts : ℕ → Attempt AutomationTables PGError) (tables : AutomationTables) :
    Outcome AutomationTables Bool Error :=
  doTx (insertTx request outbox) attempts false tables

/-- The transaction of `CompleteAutomation`. -/
def completeTx : Body AutomationTables Bool PGError := fun statement done tables =>
  match statement 0 with
  | some err => (done, .error err)
  | none =>
      match tables.results.lookup result.requestID, tables.requests.lookup result.requestID with
      -- Already completed by another delivery: the variable stays as it is.
      | some _, _ => (done, .ok tables)
      | none, none => (done, .error PGError.foreignKey)
      | none, some request =>
          match statement 1 with
          | some err => (done, .error err)
          | none => (true, enqueueTx statement 2 outbox (withResult request result tables))

/-- `CompleteAutomation`. -/
def completeAutomation
    (attempts : ℕ → Attempt AutomationTables PGError) (tables : AutomationTables) :
    Outcome AutomationTables Bool Error :=
  doTx (completeTx result outbox) attempts false tables

/-! ## What an attempt has done -/

/-- An attempt has inserted the request and queued its notification. -/
def Inserted (found left : AutomationTables) : Prop :=
  found.requests.lookup request.requestID = none ∧
    left = { withRequest request found with outbox := found.outbox ++ outbox }

/-- An attempt has inserted the result and queued its notification. -/
def Completed (found left : AutomationTables) : Prop :=
  found.results.lookup result.requestID = none ∧
    ∃ request, found.requests.lookup result.requestID = some request ∧
      left = { withResult request result found with outbox := found.outbox ++ outbox }

/-- The variable says whether the attempt did something, and where it does not, the
tables are as the attempt has found them. -/
def Reports (did : AutomationTables → AutomationTables → Prop) (flag : Bool)
    (found left : AutomationTables) : Prop :=
  (flag = true ↔ did found left) ∧ (flag = false → left = found)

theorem enqueueTx_ok
    {statement : ℕ → Option PGError}
    {number : ℕ}
    {messages : List OutboxMessage}
    {tables written : AutomationTables}
    (done : enqueueTx statement number messages tables = .ok written) :
    written = { tables with outbox := tables.outbox ++ messages } := by
  induction messages generalizing number tables with
  | nil =>
      cases done
      simp
  | cons message rest ih =>
      unfold enqueueTx at done
      split at done
      · cases done
      · rw [ih done]
        simp

/-- The attempts that a call of `Do` makes, each with the tables that it finds. -/
def made (fn : Body AutomationTables Bool PGError)
    (attempts : ℕ → Attempt AutomationTables PGError) (tables : AutomationTables) :
    List (Attempt AutomationTables PGError × AutomationTables) :=
  Retried.made PGError.retryablePG fn ((List.range 4).map attempts) false tables

/-- A call of `Do` with an error ensures anything of the attempt that commits, since
none does. A call without one ensures what its last attempt does. -/
theorem doTx_ensures
    (fn : Body AutomationTables Bool PGError)
    (attempts : ℕ → Attempt AutomationTables PGError)
    (tables : AutomationTables)
    (ensured : Bool → AutomationTables → AutomationTables → Prop) :
    ((doTx fn attempts false tables).failure ≠ none →
      (doTx fn attempts false tables).Ensures ensured) ∧
    ((doTx fn attempts false tables).failure = none →
      ∃ earlier attempt found flag left,
        made fn attempts tables = earlier ++ [(attempt, found)] ∧
        fn attempt.statement (Retried.valueAfter fn false earlier) found = (flag, .ok left) ∧
        ((doTx fn attempts false tables).Ensures ensured ↔ ensured flag found left)) := by
  obtain ⟨failed, succeeded⟩ := @Retried.run_ends _ _ _ PGError.retryablePG fn
    ((List.range 4).map attempts) none false tables (by simp)
  have errors : ∀ failure : Option PGError,
      failure.map (PGError.classifyPG "transaction") = none ↔ failure = none :=
    fun _ => Option.map_eq_none_iff
  simp only [doTx, Outcome.Ensures, made, errors, ne_eq]
  refine ⟨fun missing => ⟨fun done => absurd done missing, failed⟩, fun done => ?_⟩
  obtain ⟨earlier, attempt, found, left, tries, committed, ended⟩ := succeeded done
  refine ⟨earlier, attempt, found, _, left, tries, Retried.once_ok ended, ?_⟩
  simp [committed, done]

variable {request result outbox}

theorem insertTx_reports
    {request : AutomationRequest}
    {statement : ℕ → Option PGError}
    {before flag : Bool}
    {found left : AutomationTables}
    (ended : insertTx request outbox statement before found = (flag, .ok left)) :
    Reports (Inserted request outbox) flag found left := by
  unfold insertTx at ended
  cases first : statement 0 with
  | some err => simp [first] at ended
  | none =>
      cases stored : found.requests.lookup request.requestID with
      | some old =>
          simp only [first, stored, Prod.mk.injEq, Except.ok.injEq] at ended
          obtain ⟨rfl, rfl⟩ := ended
          simp [Reports, Inserted, stored]
      | none =>
          simp only [first, stored, Prod.mk.injEq] at ended
          obtain ⟨rfl, done⟩ := ended
          simp [Reports, Inserted, stored, enqueueTx_ok done, withRequest]

/-- An attempt to complete a request gets past its `UPDATE`. -/
def PassesUpdate (id : String)
    (tried : Attempt AutomationTables PGError × AutomationTables) : Prop :=
  tried.1.begins = none ∧ tried.1.statement 0 = none ∧ tried.1.statement 1 = none ∧
    tried.2.results.lookup id = none ∧ tried.2.requests.lookup id ≠ none

/-- The variable is set by an attempt that gets past its `UPDATE`, and by no other. -/
theorem once_completeTx
    (result : AutomationResult)
    (outbox : List OutboxMessage)
    (attempt : Attempt AutomationTables PGError)
    (flag : Bool)
    (tables : AutomationTables) :
    (Retried.once (completeTx result outbox) attempt flag tables).1 = true ↔
      flag = true ∨ PassesUpdate result.requestID (attempt, tables) := by
  have body : (Retried.once (completeTx result outbox) attempt flag tables).1 =
      if attempt.begins = none then (completeTx result outbox attempt.statement flag tables).1
      else flag := by
    unfold Retried.once
    rcases completeTx result outbox attempt.statement flag tables with ⟨set_, failure | left⟩ <;>
      cases attempt.begins <;> cases attempt.commits <;> rfl
  rw [body]
  unfold completeTx PassesUpdate
  cases attempt.begins <;> cases attempt.statement 0 <;>
    cases tables.results.lookup result.requestID <;>
    cases tables.requests.lookup result.requestID <;> cases attempt.statement 1 <;> simp

theorem valueAfter_completeTx
    {result : AutomationResult}
    {tries : List (Attempt AutomationTables PGError × AutomationTables)} :
    Retried.valueAfter (completeTx result outbox) false tries = false ↔
      ∀ tried ∈ tries, ¬PassesUpdate result.requestID tried := by
  induction tries using List.reverseRecOn with
  | nil => simp [Retried.valueAfter]
  | append_singleton rest tried ih =>
      rw [Retried.valueAfter, List.foldl_concat, ← Retried.valueAfter, ← Bool.not_eq_true,
        once_completeTx, not_or, Bool.not_eq_true, ih]
      simp [or_imp, forall_and]

/-- The attempt that commits reports its own work exactly when it finds no result, or
when no attempt before it has set the variable. -/
theorem completeTx_reports
    {result : AutomationResult}
    {statement : ℕ → Option PGError}
    {before flag : Bool}
    {found left : AutomationTables}
    (ended : completeTx result outbox statement before found = (flag, .ok left)) :
    Reports (Completed result outbox) flag found left ↔
      (found.results.lookup result.requestID ≠ none → before = false) := by
  unfold completeTx at ended
  cases first : statement 0 with
  | some err => simp [first] at ended
  | none =>
      cases stored : found.results.lookup result.requestID with
      | some old =>
          simp only [first, stored, Prod.mk.injEq, Except.ok.injEq] at ended
          obtain ⟨rfl, rfl⟩ := ended
          simp [Reports, Completed, stored]
      | none =>
          cases known : found.requests.lookup result.requestID with
          | none => simp [first, stored, known] at ended
          | some request =>
              cases second : statement 1 with
              | some err => simp [first, stored, known, second] at ended
              | none =>
                  simp only [first, stored, known, second, Prod.mk.injEq] at ended
                  obtain ⟨rfl, done⟩ := ended
                  simp [Reports, Completed, stored, known, enqueueTx_ok done, withResult]

/-- For every sequence of failures, at any statement or at the commit, and everything
that other workers commit in between: `InsertAutomationRequest` returns true without
an error exactly when the attempt that committed inserted the request.
`CompleteAutomation` does so for a result exactly when the attempt that commits finds
no result of the request, or no attempt before it got past its `UPDATE`. A call that
returns an error has committed nothing. -/
theorem calls_report_commit
    (request : AutomationRequest)
    (result : AutomationResult)
    (outbox : List OutboxMessage)
    (attempts : ℕ → Attempt AutomationTables PGError)
    (tables : AutomationTables) :
    (insertAutomationRequest request outbox attempts tables).Ensures
        (Reports (Inserted request outbox)) ∧
      ((completeAutomation result outbox attempts tables).Ensures
          (Reports (Completed result outbox)) ↔
        ((completeAutomation result outbox attempts tables).failure = none →
          ∀ earlier attempt found,
            made (completeTx result outbox) attempts tables = earlier ++ [(attempt, found)] →
            found.results.lookup result.requestID ≠ none →
              ∀ tried ∈ earlier, ¬PassesUpdate result.requestID tried)) := by
  constructor
  · obtain ⟨failed, succeeded⟩ := doTx_ensures (insertTx request outbox) attempts tables
      (Reports (Inserted request outbox))
    by_cases done : (insertAutomationRequest request outbox attempts tables).failure = none
    · obtain ⟨_, attempt, found, flag, left, _, ended, ensures⟩ := succeeded done
      exact ensures.mpr (insertTx_reports ended)
    · exact failed done
  · obtain ⟨failed, succeeded⟩ := doTx_ensures (completeTx result outbox) attempts tables
      (Reports (Completed result outbox))
    by_cases done : (completeAutomation result outbox attempts tables).failure = none
    · obtain ⟨earlier, attempt, found, flag, left, tries, ended, ensures⟩ := succeeded done
      refine ensures.trans ((completeTx_reports ended).trans ⟨fun unset _ => ?_, fun spared => ?_⟩)
      · intro others final tables same stored
        obtain ⟨rfl, last⟩ := List.append_inj' (same.symm.trans tries) rfl
        obtain ⟨rfl, rfl⟩ := Prod.mk.inj (List.singleton_inj.mp last)
        exact valueAfter_completeTx.mp (unset stored)
      · exact fun stored => valueAfter_completeTx.mpr (spared done _ _ _ tries stored)
    · exact ⟨fun _ succeeded => absurd succeeded done, fun _ => failed done⟩

/-! ## A commit that has to be tried again -/

/-- A request that a worker has claimed. -/
def claimedBounce : AutomationRequest where
  requestID := "a1"
  correlationID := "c1"
  policyID := "bounce"
  eventID := "e1"
  alertKey := "port-down"
  deviceID := "sw1"
  action := "interface.bounce"
  target := "gi1"
  params := ∅
  reason := ""
  proposer := "policy"
  dryRun := false
  status := .executing
  notBefore := 0
  createdAt := 0
  approvedBy := ""

/-- Its outcome, as some worker reports it. -/
def bounced (status : AutomationStatus) : AutomationResult where
  requestID := "a1"
  correlationID := "c1"
  status := status
  dryRun := false
  message := ""
  details := ∅
  startedAt := 1
  finishedAt := 2

def bounceNotice : OutboxMessage := ⟨0, "automation.result", "a1", "", ∅⟩

def claimedTables : AutomationTables where
  requests := (∅ : StringMap AutomationRequest).insert "a1" claimedBounce
  results := ∅
  outbox := []

/-- The first commit fails with a serialization failure. -/
def retriedOnce (number : ℕ) : Attempt AutomationTables PGError where
  others := id
  begins := none
  statement _ := none
  commits := if number = 0 then some (.server "40001" "could not serialize access") else none
  cancelled := none

/-- Before the second attempt another worker, which took over the request, commits its
own result. -/
def overtaken (number : ℕ) : Attempt AutomationTables PGError :=
  { retriedOnce number with
    others := if number = 1 then withResult claimedBounce (bounced .failed) else id }

theorem retried_result_reported :
    (completeAutomation (bounced .succeeded) [bounceNotice] retriedOnce
        claimedTables).value = true ∧
      (completeAutomation (bounced .succeeded) [bounceNotice] retriedOnce claimedTables).Ensures
        (Reports (Completed (bounced .succeeded) [bounceNotice])) := by
  refine ⟨by decide +kernel, (calls_report_commit claimedBounce (bounced .succeeded)
    [bounceNotice] retriedOnce claimedTables).2.mpr fun _ earlier attempt found tries stored => ?_⟩
  have both : made (completeTx (bounced .succeeded) [bounceNotice]) retriedOnce claimedTables =
      [(retriedOnce 0, claimedTables)] ++ [(retriedOnce 1, claimedTables)] := by rfl
  obtain ⟨-, last⟩ := List.append_inj' (tries.symm.trans both) rfl
  obtain ⟨rfl, rfl⟩ := Prod.mk.inj (List.singleton_inj.mp last)
  exact absurd (by decide +kernel) stored

/-- The call returns true without an error, but the attempt that committed has written
nothing: the stored result is that of the other worker. -/
theorem overtaken_result_reported :
    (completeAutomation (bounced .succeeded) [bounceNotice] overtaken claimedTables).value = true ∧
      (completeAutomation (bounced .succeeded) [bounceNotice] overtaken claimedTables).failure =
        none ∧
      (completeAutomation (bounced .succeeded) [bounceNotice] overtaken claimedTables).committed =
        some (withResult claimedBounce (bounced .failed) claimedTables,
          withResult claimedBounce (bounced .failed) claimedTables) := by
  refine ⟨?_, ?_, ?_⟩ <;> decide +kernel

end PGStore

end InfraObserver
