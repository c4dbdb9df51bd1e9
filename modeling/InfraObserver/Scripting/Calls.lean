import InfraObserver.Scripting.Declared

/-!
# Calls of scripts

`CallChecked` looks a script up, hands a job to the pool, checks the output and
records one outcome under the key of the script. In between, the script behind the
key can be replaced.

The machine has any number of calls, the pool, and the methods of the registry that
reloads and operators use. It shows which versions are loaded and re-enabled, and each
recorded outcome with the version that the call has looked up and the program that was
run for it.
-/

namespace InfraObserver

variable {count : ℕ}

/-- Where a `CallChecked` is. -/
inductive CallStage (count : ℕ)
  | looking
  /-- `Pool.Call` of the version that was looked up. -/
  | queueing (version : Program)
  /-- A worker has the job, and has run a program for it or not yet. -/
  | served (version : Program) (index : Fin count) (ran : Option Program)
  | replied (version : Program) (ran : Option Program) (result : Except CallError String)
  | returned
  deriving DecidableEq

namespace CallStage

/-- The version that the call has looked up, while no outcome is recorded. -/
def version : CallStage count → Option Program
  | .queueing version | .served version _ _ | .replied version _ _ => some version
  | .looking | .returned => none

/-- The program that was run for the call. -/
def ran : CallStage count → Option Program
  | .served _ _ ran | .replied _ ran _ => ran
  | _ => none

/-- A worker has the job of the call. -/
def isServed : CallStage count → Bool
  | .served .. => true
  | _ => false

end CallStage

/-- A `CallChecked` of a function of a script. -/
structure ScriptCall (count : ℕ) where
  key : String
  fn : String
  stage : CallStage count
  deriving DecidableEq

/-- The pool with its registry, and the calls. -/
structure Calls (count : ℕ) where
  pool : Pool count
  calls : List (ScriptCall count)

/-- What happens next. -/
inductive CallAction (count : ℕ)
  /-- A method of the registry; outcomes are recorded by calls only. -/
  | registry (op : RegistryOp)
  | call (key fn : String)
  | get (caller : ℕ)
  | refuse (caller : ℕ) (failure : Error)
  | take (index : Fin count) (caller : ℕ)
  | turn (index : Fin count) (turn : PoolTurn)
  /-- The output is checked and the outcome recorded. -/
  | finish (caller : ℕ) (verdict : Option CallError) (now : Time)

/-- What is shown. -/
inductive CallEvent
  | loaded (key : String) (version : Program)
  | enabled (key : String)
  | recorded (key : String) (version : Program) (ran : Option Program) (failure : Option String)
  deriving DecidableEq

namespace ScriptRegistry

/-- The program of a script. -/
def version (registry : ScriptRegistry) (key : String) : Option Program :=
  (registry.scripts.lookup key).bind Script.program

/-- The versions of a registry that another one does not have. -/
def newVersions (before after : ScriptRegistry) : List CallEvent :=
  after.scripts.sortedKeys.filterMap fun key =>
    match after.version key with
    | none => none
    | some version => if before.version key = some version then none else some (.loaded key version)

/-- What a method of the registry shows. -/
def shown [ScriptHost] (registry : ScriptRegistry) : RegistryOp → List CallEvent
  | .reload files => newVersions registry (registry.reload files)
  | .setEnabled key true =>
      if (registry.scripts.lookup key).any (Script.switches true) then [.enabled key] else []
  | _ => []

end ScriptRegistry

namespace Calls

/-- No call, over a registry without scripts. -/
def new (enabled : ScriptKind → String → Bool) (threshold : ℕ) : Calls count where
  pool := .new (.new enabled threshold)
  calls := []

/-- The registry. -/
abbrev registry (calls : Calls count) : ScriptRegistry := calls.pool.registry

/-- The calls with another state of one. -/
def withCall (calls : Calls count) (index : ℕ) (call : ScriptCall count) : Calls count :=
  { calls with calls := calls.calls.set index call }

/-- A worker has run a program for a call, or replies to it. -/
def receive (calls : Calls count) : List (Fin count × PoolEvent) → Calls count
  | [(_, .ran job program)] =>
      match calls.calls[job.caller]? with
      | some ⟨key, fn, .served version index _⟩ =>
          calls.withCall job.caller ⟨key, fn, .served version index (some program)⟩
      | _ => calls
  | [(_, .replied job result)] =>
      match calls.calls[job.caller]? with
      | some ⟨key, fn, .served version _ ran⟩ =>
          calls.withCall job.caller ⟨key, fn, .replied version ran result⟩
      | _ => calls
  | _ => calls

variable [ScriptHost]

/-- The calls after a method of the registry. -/
def withOp (calls : Calls count) (op : RegistryOp) : Calls count :=
  { calls with pool := { calls.pool with registry := calls.registry.apply op } }

/-- `finish`: failures of the platform are not recorded. -/
def finish
    (calls : Calls count)
    (index : ℕ)
    (key fn : String)
    (version : Program)
    (ran : Option Program)
    (failure : Option CallError)
    (now : Time) : Calls count × List CallEvent :=
  let record text :=
    ((calls.withOp (.recordResult key text now)).withCall index ⟨key, fn, .returned⟩,
      [CallEvent.recorded key version ran text])
  match failure with
  | some (.platform _) => (calls.withCall index ⟨key, fn, .returned⟩, [])
  | some (.script error) => record (some error.text)
  | none => record none

/-- What an action does, if it is enabled. -/
def step (calls : Calls count) : CallAction count → Option (Calls count × List CallEvent)
  | .registry op =>
      match op with
      | .recordResult .. => none
      | op => some (calls.withOp op, calls.registry.shown op)
  | .call key fn => some ({ calls with calls := calls.calls ++ [⟨key, fn, .looking⟩] }, [])
  | .get index =>
      match calls.calls[index]? with
      | some ⟨key, fn, .looking⟩ =>
          some (calls.withCall index ⟨key, fn,
            match (calls.registry.get key).bind Script.running with
            | some version => .queueing version
            | none => .returned⟩, [])
      | _ => none
  | .refuse index failure =>
      match calls.calls[index]? with
      | some ⟨key, fn, .queueing version⟩ =>
          some (calls.withCall index
            ⟨key, fn, .replied version none (.error (.platform failure))⟩, [])
      | _ => none
  | .take worker index =>
      match calls.calls[index]? with
      | some ⟨key, fn, .queueing version⟩ =>
          (calls.pool.step (.worker worker (.take ⟨index, version.id, fn⟩))).map fun (pool, _) =>
            ({ calls.withCall index ⟨key, fn, .served version worker none⟩ with pool := pool }, [])
      | _ => none
  | .turn worker turn =>
      match turn with
      -- A job comes with its call.
      | .take _ => none
      | turn =>
          (calls.pool.step (.worker worker turn)).map fun (pool, shown) =>
            ({ calls with pool := pool }.receive shown, [])
  | .finish index verdict now =>
      match calls.calls[index]? with
      | some ⟨key, fn, .replied version ran result⟩ =>
          some (calls.finish index key fn version ran
            (match result with
              | .error failure => some failure
              | .ok _ => verdict) now)
      | _ => none

/-- The calls as a machine. -/
def machine (count : ℕ) : Transition.Machine (Calls count) (CallAction count) CallEvent where
  step := step

end Calls

end InfraObserver
