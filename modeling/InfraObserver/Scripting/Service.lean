import InfraObserver.Scripting.Pool

/-!
# The scripting service

`Service.Reload` swaps the scripts of the registry, lists them, and then reads `meta`
of each one and records it, or marks the script as failed. `Transform` and
`HandleEvent` copy the active scripts of a kind, skip those whose declared filters do
not match, and call the others through the pool, one after the other.

The machine has any number of reloads and callers at once, the pool and the methods of
the registry that operators and other calls use. Each action has at most one method
of the registry in it.
-/

namespace InfraObserver

variable {F : Type}

/-! ## Filters -/

/-- `matches`: exact names, or patterns that end in a star; no pattern at all matches
everything. -/
def matchesAny (patterns : List String) (metric : String) : Bool :=
  patterns.isEmpty || patterns.any fun pattern =>
    pattern = metric ||
      (pattern.toList.getLast? = some '*' && pattern.toList.dropLast.isPrefixOf metric.toList)

/-- The severity of an event is not below a least one. -/
def severeEnough (least : Option Severity) (severity : Severity) : Bool :=
  match least with
  | none => true
  | some least => least.rank ≤ severity.rank

/-- What a caller wants to have done. -/
inductive Errand (F : Type)
  /-- `Transform` of an observation, as the scripts so far have left it. -/
  | transform (observation : Observation F)
  | handleEvent (event : Event)
  deriving DecidableEq

namespace Errand

/-- The scripts that are asked. -/
def kind : Errand F → ScriptKind
  | .transform _ => .transforms
  | .handleEvent _ => .integrations

/-- The filter before a call. -/
def wants (errand : Errand F) (script : Script) : Bool :=
  match errand with
  | .transform observation => matchesAny script.metrics observation.metric
  | .handleEvent event =>
      matchesAny script.events event.type && severeEnough script.minSeverity event.severity

/-- The id in an error about the output of a script. -/
def outputID (script : Script) : Errand F → String
  | .transform _ => "transform"
  | .handleEvent _ => script.id

end Errand

/-! ## Reloads -/

/-- `Report`. -/
structure ReloadReport where
  loaded : ℤ
  failed : ℤ
  disabled : ℤ
  errors : List String
  deriving DecidableEq

namespace ReloadReport

/-- What `Registry.Reload` counts for a script. -/
def count (report : ReloadReport) (script : Script) : ReloadReport :=
  match script.status with
  | .active | .quarantined => { report with loaded := report.loaded + 1 }
  | .disabled => { report with disabled := report.disabled + 1 }
  | .failed =>
      { report with
        failed := report.failed + 1
        errors := report.errors ++ [script.key ++ ": " ++ script.reason] }

/-- What `Service.Reload` counts for a script that it marks as failed. -/
def fail (report : ReloadReport) (key text : String) : ReloadReport :=
  { report with
    failed := report.failed + 1
    loaded := report.loaded - 1
    errors := report.errors ++ [key ++ ": " ++ text] }

/-- The report with its errors in order. -/
def sorted (report : ReloadReport) : ReloadReport :=
  { report with errors := report.errors.insertionSort (· ≤ ·) }

end ReloadReport

/-- The report of a registry that has just been reloaded. -/
def ScriptRegistry.report (registry : ScriptRegistry) : ReloadReport :=
  registry.list.foldl ReloadReport.count ⟨0, 0, 0, []⟩

/-- What `Service.Reload` finds wrong with the `meta` of a script. -/
def metaProblem (kind : ScriptKind) (declared : ScriptMeta) : Option String :=
  if declared.version = "" then some "meta.version is required"
  else if kind = .transforms ∧ declared.metrics = [] then
    some ("transform scripts must declare meta.metrics " ++
      "(metric names, or prefixes ending in *)")
  else if kind = .integrations ∧ declared.events = [] then
    some ("integration scripts must declare meta.events " ++
      "(event types, or prefixes ending in *)")
  else
    match declared.minSeverity with
    | some severity =>
        if severity.valid then none else some "meta.min_severity must be info, warning or critical"
    | none => none

/-- `Service.Reload` for one script: `ReadExport` may fail, else it gives what the
source declares. -/
def readMeta [ScriptHost]
    (kind : ScriptKind)
    (program : Program)
    (failure : Option String) : Except String ScriptMeta :=
  match failure with
  | some text => .error text
  | none =>
      match ScriptHost.declared program.source with
      | none => .error "meta.version is required"
      | some declared =>
          match metaProblem kind declared with
          | some problem => .error problem
          | none => .ok declared

/-- The loop of `Service.Reload` for one of the listed scripts: the method of the registry
that it calls. -/
def Script.inspection [ScriptHost] (failure : Option String) (script : Script) :
    Option RegistryOp :=
  script.running.map fun program =>
    match readMeta script.kind program failure with
    | .error text => .markFailed script.key text
    | .ok declared => .setMeta script.key declared

/-- The report after that method. -/
def ReloadReport.note (report : ReloadReport) : RegistryOp → ReloadReport
  | .markFailed key text => report.fail key text
  | _ => report

/-- Where a `Service.Reload` is. -/
inductive ReloadStage
  | listing (report : ReloadReport)
  | inspecting (remaining : List Script) (report : ReloadReport)
  | done (report : ReloadReport)
  deriving DecidableEq

/-- The reload is over. -/
def ReloadStage.isDone : ReloadStage → Bool
  | .done _ => true
  | _ => false

/-! ## Callers -/

/-- Where a caller is. -/
inductive CallerStage (count : ℕ)
  /-- At the head of its loop. -/
  | choosing
  | calling (script : Script)
  | queueing (script : Script) (scriptID : String)
  | queued (script : Script)
  | served (script : Script) (index : Fin count)
  | replied (script : Script) (result : Except CallError String)
  | returned (keep : Bool) (failure : Option Error)
  deriving DecidableEq

/-- A running `Transform` or `HandleEvent`. -/
structure Caller (F : Type) (count : ℕ) where
  errand : Errand F
  remaining : List Script
  stage : CallerStage count

/-- The caller has returned. -/
def Caller.isDone {count : ℕ} (caller : Caller F count) : Bool :=
  match caller.stage with
  | .returned .. => true
  | _ => false

/-- What the contract makes of the output of a script. -/
inductive Checked (F : Type)
  | kept (next : Observation F)
  | dropped
  | accepted
  | rejected (message : String)

/-- How a call has failed, once its output is checked. -/
def callFailure
    (errand : Errand F)
    (script : Script)
    (checked : Checked F) : Except CallError String → Option CallError
  | .error failure => some failure
  | .ok _ =>
      match checked with
      | .rejected message => some (.script ⟨errand.outputID script, .output, message⟩)
      | _ => none

/-! ## The machine -/

/-- The service: its pool with the registry, the queue, and everybody who uses them. -/
structure Service (F : Type) (count : ℕ) where
  pool : Pool count
  jobs : List Job
  callers : List (Caller F count)
  reloads : List ReloadStage

/-- What happens next. -/
inductive ServiceAction (F : Type) (count : ℕ)
  /-- A `Service.Reload` starts with `Registry.Reload`. -/
  | swap (files : List ScriptFile)
  | list (reload : ℕ)
  /-- It goes through the loop once; `ReadExport` may fail. -/
  | inspect (reload : ℕ) (failure : Option String)
  /-- A `Transform` or `HandleEvent` starts with `ByKind`. -/
  | begin (errand : Errand F)
  | choose (caller : ℕ)
  | get (caller : ℕ)
  | submit (caller : ℕ)
  | refuse (caller : ℕ) (failure : Error)
  | take (index : Fin count)
  | turn (index : Fin count) (turn : PoolTurn)
  /-- `CallChecked` checks the output and records the result. -/
  | conclude (caller : ℕ) (checked : Checked F) (now : Time)
  | recordResult (key : String) (failure : Option String) (now : Time)
  | setEnabled (key : String) (enabled : Bool)

namespace Service

variable {count : ℕ}

/-- A service over a registry without scripts. -/
def new (enabled : ScriptKind → String → Bool) (threshold : ℕ) : Service F count where
  pool := .new (.new enabled threshold)
  jobs := []
  callers := []
  reloads := []

/-- The service after a method of the registry. -/
def withOp [ScriptHost] (service : Service F count) (op : RegistryOp) : Service F count :=
  { service with
    pool := { service.pool with registry := service.pool.registry.apply op } }

/-- The service with another state of one caller. -/
def withCaller (service : Service F count) (index : ℕ) (caller : Caller F count) :
    Service F count :=
  { service with callers := service.callers.set index caller }

/-- The service with another state of one reload. -/
def withReload (service : Service F count) (index : ℕ) (stage : ReloadStage) : Service F count :=
  { service with reloads := service.reloads.set index stage }

variable [ScriptHost]

/-- One turn of the loop of `Service.Reload`. -/
def inspect
    (service : Service F count)
    (index : ℕ)
    (failure : Option String) : List Script → ReloadReport → Service F count
  | [], report => service.withReload index (.done report.sorted)
  | script :: rest, report =>
      match script.inspection failure with
      | none => service.withReload index (.inspecting rest report)
      | some op =>
          (service.withOp op).withReload index (.inspecting rest (report.note op))

/-- A worker shows something: it runs a function for an errand, or it replies. -/
def apply (service : Service F count) :
    List (Fin count × PoolEvent) → Service F count × List (Errand F × Program)
  | [(_, .ran job program)] =>
      match service.callers[job.caller]? with
      | some caller => (service, [(caller.errand, program)])
      | none => (service, [])
  | [(_, .replied job result)] =>
      match service.callers[job.caller]? with
      | some caller =>
          match caller.stage with
          | .served script _ =>
              (service.withCaller job.caller
                { caller with stage := .replied script result }, [])
          | _ => (service, [])
      | none => (service, [])
  | _ => (service, [])

/-- The loop of `Transform` or `HandleEvent` after a call without a failure. -/
def Caller.accept (caller : Caller F count) : Checked F → Option (Caller F count)
  | .kept next =>
      match caller.errand with
      | .transform _ =>
          some
            { caller with
              errand := .transform next
              stage := .choosing }
      | .handleEvent _ => none
  | .dropped =>
      match caller.errand with
      | .transform _ => some { caller with stage := .returned false none }
      | .handleEvent _ => none
  | .accepted =>
      match caller.errand with
      | .transform _ => none
      | .handleEvent _ => some { caller with stage := .choosing }
  | .rejected _ => none

/-- `CallChecked` after the reply, and the loop after it. A failure of the platform is
not recorded and ends the loop. -/
def conclude
    (service : Service F count)
    (index : ℕ)
    (caller : Caller F count)
    (script : Script)
    (result : Except CallError String)
    (checked : Checked F)
    (now : Time) : Option (Service F count) :=
  match callFailure caller.errand script checked result with
  | some (.platform failure) =>
      some (service.withCaller index { caller with stage := .returned true (some failure) })
  | some (.script failure) =>
      some ((service.withOp (.recordResult script.key (some failure.text) now)).withCaller index
        { caller with stage := .choosing })
  | none =>
      (Caller.accept caller checked).map
        ((service.withOp (.recordResult script.key none now)).withCaller index)

/-- What an action does, if it is enabled. -/
def step (queueSize : ℕ) (service : Service F count) :
    ServiceAction F count → Option (Service F count × List (Errand F × Program))
  | .swap files =>
      let swapped := service.withOp (.reload files)
      some ({ swapped with
        reloads := service.reloads ++ [.listing swapped.pool.registry.report] }, [])
  | .list index =>
      match service.reloads[index]? with
      | some (.listing report) =>
          some (service.withReload index (.inspecting service.pool.registry.list report), [])
      | _ => none
  | .inspect index failure =>
      match service.reloads[index]? with
      | some (.inspecting remaining report) =>
          some (service.inspect index failure remaining report, [])
      | _ => none
  | .begin errand =>
      some ({ service with
        callers := service.callers ++
          [⟨errand, service.pool.registry.byKind errand.kind, .choosing⟩] }, [])
  | .choose index =>
      match service.callers[index]? with
      | some ⟨errand, [], .choosing⟩ =>
          some (service.withCaller index ⟨errand, [], .returned true none⟩, [])
      | some ⟨errand, script :: rest, .choosing⟩ =>
          some (service.withCaller index
            ⟨errand, rest, if errand.wants script then .calling script else .choosing⟩, [])
      | _ => none
  | .get index =>
      match service.callers[index]? with
      | some ⟨errand, remaining, .calling script⟩ =>
          -- A script that is not active is skipped.
          some (service.withCaller index ⟨errand, remaining,
            match (service.pool.registry.get script.key).bind Script.running with
            | some program => .queueing script program.id
            | none => .choosing⟩, [])
      | _ => none
  | .submit index =>
      match service.callers[index]? with
      | some ⟨errand, remaining, .queueing script scriptID⟩ =>
          if service.jobs.length < queueSize then
            some ({ service.withCaller index ⟨errand, remaining, .queued script⟩ with
              jobs := service.jobs ++ [⟨index, scriptID, errand.kind.contract⟩] }, [])
          else none
      | _ => none
  | .refuse index failure =>
      match service.callers[index]? with
      | some ⟨errand, remaining, .queueing script _⟩ =>
          some (service.withCaller index
            ⟨errand, remaining, .replied script (.error (.platform failure))⟩, [])
      | _ => none
  | .take index =>
      match service.jobs with
      | [] => none
      | job :: rest =>
          match service.callers[job.caller]?, service.pool.step (.worker index (.take job)) with
          | some ⟨errand, remaining, .queued script⟩, some (pool, _) =>
              some ({ service.withCaller job.caller ⟨errand, remaining, .served script index⟩ with
                pool := pool
                jobs := rest }, [])
          | _, _ => none
  | .turn index turn =>
      match turn with
      -- The next job comes from the queue.
      | .take _ => none
      | turn =>
          (service.pool.step (.worker index turn)).map fun (pool, shown) =>
            { service with pool := pool }.apply shown
  | .conclude index checked now =>
      match service.callers[index]? with
      | some ⟨errand, remaining, .replied script result⟩ =>
          (service.conclude index ⟨errand, remaining, .replied script result⟩ script result
            checked now).map fun after => (after, [])
      | _ => none
  | .recordResult key failure now => some (service.withOp (.recordResult key failure now), [])
  | .setEnabled key enabled => some (service.withOp (.setEnabled key enabled), [])

/-- The service as a machine, which shows the functions that are run. -/
def machine (F : Type) (count queueSize : ℕ) :
    Transition.Machine (Service F count) (ServiceAction F count) (Errand F × Program) where
  step := step queueSize

end Service

end InfraObserver
