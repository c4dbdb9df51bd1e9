import InfraObserver.Scripting.Versions

/-!
# Reloads of unchanged scripts

`Service.Reload` rebuilds every script from its file, restores some of what the registry
knew about it, and reads `meta` of the scripts that are active then. A script whose file
is unchanged keeps its standing exactly when what is not restored is found again: its
filters are those that `meta` declares, or none, and its status is the one that it is
loaded with, or a quarantine.
-/

namespace InfraObserver

/-- What a reload should not change: the status, the counters and the filters. -/
structure ScriptStanding where
  status : ScriptStatus
  consecutiveFailures : ℕ
  totalFailures : ℕ
  totalCalls : ℕ
  metrics : List String
  events : List String
  minSeverity : Option Severity
  deriving DecidableEq

namespace Script

/-- The standing of a script. -/
def standing (script : Script) : ScriptStanding where
  status := script.status
  consecutiveFailures := script.consecutiveFailures
  totalFailures := script.totalFailures
  totalCalls := script.totalCalls
  metrics := script.metrics
  events := script.events
  minSeverity := script.minSeverity

/-- Nothing is recorded about what the script handles. -/
def Unfiltered (script : Script) : Prop :=
  script.metrics = [] ∧ script.events = [] ∧ script.minSeverity = none

/-- No call of the script is counted. -/
def Uncounted (script : Script) : Prop :=
  script.consecutiveFailures = 0 ∧ script.totalFailures = 0 ∧ script.totalCalls = 0

end Script

/-- The files of the last scan, after a method. -/
def RegistryOp.scanned (before : List ScriptFile) : RegistryOp → List ScriptFile
  | .reload files => files
  | _ => before

/-! ## The reload -/

variable [ScriptHost]

namespace Script

/-- What the loop of `Service.Reload` makes of a script. -/
def inspected (failure : Option String) (script : Script) : Script :=
  match script.inspection failure with
  | some (.markFailed _ text) => script.markedFailed text
  | some (.setMeta _ declared) => script.described declared
  | _ => script

theorem inspection_cases (failure : Option String) (script : Script) :
    script.inspection failure = none ∨
      (∃ text, script.inspection failure = some (.markFailed script.key text)) ∨
      ∃ declared, script.inspection failure = some (.setMeta script.key declared) := by
  unfold inspection
  cases script.running with
  | none => exact Or.inl rfl
  | some program => cases read : readMeta script.kind program failure <;> simp [read]

end Script

namespace ScriptRegistry

/-- The loop of `Service.Reload` for one of the listed scripts; `ReadExport` may fail. -/
def inspect
    (failure : String → Option String)
    (state : ScriptRegistry × ReloadReport)
    (script : Script) : ScriptRegistry × ReloadReport :=
  match script.inspection (failure script.key) with
  | none => state
  | some op => (state.1.apply op, state.2.note op)

/-- `Service.Reload`. -/
def serviceReload
    (registry : ScriptRegistry)
    (files : List ScriptFile)
    (failure : String → Option String) : ScriptRegistry × ReloadReport :=
  let swapped := registry.reload files
  let looped := swapped.list.foldl (inspect failure) (swapped, swapped.report)
  (looped.1, looped.2.sorted)

variable {registry : ScriptRegistry} {failure : String → Option String} {key : String}
variable {state : ScriptRegistry × ReloadReport} {script : Script}

theorem lookup_inspect_other (different : script.key ≠ key) :
    (inspect failure state script).1.scripts.lookup key = state.1.scripts.lookup key := by
  unfold inspect
  rcases script.inspection_cases (failure script.key) with idle | ⟨text, failed⟩ | ⟨declared, read⟩
  · rw [idle]
  · rw [failed]
    exact (lookup_touch ..).trans (if_neg (Ne.symm different))
  · rw [read]
    exact (lookup_touch ..).trans (if_neg (Ne.symm different))

theorem lookup_inspect_self (found : state.1.scripts.lookup script.key = some script) :
    (inspect failure state script).1.scripts.lookup script.key =
      some (script.inspected (failure script.key)) := by
  unfold inspect Script.inspected
  rcases script.inspection_cases (failure script.key) with idle | ⟨text, failed⟩ | ⟨declared, read⟩
  · rwa [idle]
  · rw [failed]
    exact (lookup_touch ..).trans (by rw [if_pos rfl, found, Option.map_some])
  · rw [read]
    exact (lookup_touch ..).trans (by rw [if_pos rfl, found, Option.map_some])

theorem lookup_foldl_inspect
    {scripts : List Script}
    (distinct : (scripts.map Script.key).Nodup)
    (member : script ∈ scripts)
    (found : state.1.scripts.lookup script.key = some script) :
    (scripts.foldl (inspect failure) state).1.scripts.lookup script.key =
      some (script.inspected (failure script.key)) := by
  have others : ∀ (rest : List Script) (state : ScriptRegistry × ReloadReport),
      script.key ∉ rest.map Script.key →
        (rest.foldl (inspect failure) state).1.scripts.lookup script.key =
          state.1.scripts.lookup script.key := by
    intro rest
    induction rest with
    | nil => exact fun _ _ => rfl
    | cons other rest ih =>
        intro state absent
        rw [List.map_cons, List.mem_cons, not_or] at absent
        rw [List.foldl_cons, ih _ absent.2,
          lookup_inspect_other (Ne.symm absent.1)]
  induction scripts generalizing state with
  | nil => cases member
  | cons first rest ih =>
      rw [List.map_cons, List.nodup_cons] at distinct
      rw [List.foldl_cons]
      rcases List.mem_cons.mp member with rfl | later
      · rw [others rest _ distinct.1, lookup_inspect_self found]
      · refine ih distinct.2 later ?_
        rw [lookup_inspect_other, found]
        intro same
        exact distinct.1 (same ▸ List.mem_map_of_mem later)

end ScriptRegistry

namespace Service

variable {F : Type} {count : ℕ}

/-- A service in the loop of a reload. -/
structure Looping
    (service : Service F count)
    (index : ℕ)
    (remaining : List Script)
    (state : ScriptRegistry × ReloadReport) : Prop where
  registry : service.pool.registry = state.1
  stage : service.reloads[index]? = some (.inspecting remaining state.2)

theorem run_inspect
    (queueSize : ℕ)
    {service : Service F count}
    {index : ℕ}
    {remaining : List Script}
    {state : ScriptRegistry × ReloadReport}
    (looping : service.Looping index remaining state)
    (failure : String → Option String) :
    ∃ after, (machine F count queueSize).run service
        (remaining.map (fun script => .inspect index (failure script.key)) ++
          [.inspect index none]) = some (after, []) ∧
      after.pool.registry = (remaining.foldl (ScriptRegistry.inspect failure) state).1 ∧
      after.reloads[index]? = some (.done
        (remaining.foldl (ScriptRegistry.inspect failure) state).2.sorted) := by
  obtain ⟨sameRegistry, stage⟩ := looping
  induction remaining generalizing service state with
  | nil =>
      refine ⟨service.withReload index (.done state.2.sorted), ?_, sameRegistry, ?_⟩
      · simp [Transition.Machine.run, machine, step, stage, Service.inspect]
      · have within := (List.getElem?_eq_some_iff.mp stage).1
        simp [withReload, within]
  | cons script rest ih =>
      have within := (List.getElem?_eq_some_iff.mp stage).1
      have inspected : ∃ next, service.step queueSize (.inspect index (failure script.key)) =
          some (next, []) ∧
          next.Looping index rest (ScriptRegistry.inspect failure state script) := by
        simp only [step, stage, Service.inspect, ScriptRegistry.inspect]
        refine ⟨_, rfl, ?_⟩
        cases script.inspection (failure script.key) with
        | none => exact ⟨sameRegistry, by simp [withReload, within]⟩
        | some op =>
            exact ⟨congrArg (ScriptRegistry.apply · op) sameRegistry,
              by simp [withReload, withOp, within]⟩
      obtain ⟨next, stepped, nextRegistry, nextStage⟩ := inspected
      obtain ⟨after, ran, final⟩ := ih nextRegistry nextStage
      refine ⟨after, ?_, final⟩
      rw [List.map_cons, List.cons_append, Transition.Machine.run_cons_of_step stepped, ran]
      rfl

/-- A reload of the service that nothing interrupts is `serviceReload` of its registry. -/
theorem run_reload
    (queueSize : ℕ)
    (service : Service F count)
    (files : List ScriptFile)
    (failure : String → Option String) :
    ∃ after, (machine F count queueSize).run service
        ([.swap files, .list service.reloads.length] ++
          ((service.pool.registry.reload files).list.map (fun script =>
            .inspect service.reloads.length (failure script.key)) ++
            [.inspect service.reloads.length none])) = some (after, []) ∧
      after.pool.registry = (service.pool.registry.serviceReload files failure).1 ∧
      after.reloads[service.reloads.length]? = some (.done
        (service.pool.registry.serviceReload files failure).2) := by
  let swapped := service.withOp (.reload files)
  let listing : Service F count :=
    { swapped with reloads := service.reloads ++ [.listing swapped.pool.registry.report] }
  let looping := listing.withReload service.reloads.length
    (.inspecting swapped.pool.registry.list swapped.pool.registry.report)
  have swaps : (machine F count queueSize).step service (.swap files) = some (listing, []) := rfl
  have lists : (machine F count queueSize).step listing (.list service.reloads.length) =
      some (looping, []) := by
    simp [machine, step, listing, looping]
  have loops : looping.Looping service.reloads.length (service.pool.registry.reload files).list
      (service.pool.registry.reload files, (service.pool.registry.reload files).report) :=
    ⟨rfl, List.getElem?_set_self (by simp [listing])⟩
  obtain ⟨after, ran, final⟩ := run_inspect queueSize loops failure
  refine ⟨after, ?_, final⟩
  rw [List.cons_append, List.singleton_append, Transition.Machine.run_cons_of_step swaps,
    Transition.Machine.run_cons_of_step lists, ran]
  rfl

end Service

namespace ScriptRegistry

variable {registry : ScriptRegistry} {failure : String → Option String} {key : String}
variable {state : ScriptRegistry × ReloadReport} {script : Script}

omit [ScriptHost] in
theorem list_keys
    (named : ∀ key script, registry.scripts.lookup key = some script → script.key = key) :
    registry.list.map Script.key = registry.scripts.sortedKeys := by
  rw [list, List.map_filterMap]
  refine (List.filterMap_congr fun key member => ?_).trans List.filterMap_some
  obtain ⟨script, found⟩ := Finmap.mem_iff.mp ((StringMap.mem_sortedKeys ..).mp member)
  rw [found, Option.map_some, named key script found]

/-- The script of a key after a reload: as in its file, with what it inherits, and then
inspected. -/
theorem lookup_serviceReload
    {files : List ScriptFile}
    {file : ScriptFile}
    {old : Script}
    (chosen : fileOf files key = some file)
    (found : registry.scripts.lookup key = some old) :
    (registry.serviceReload files failure).1.scripts.lookup key =
      some ((old.inherit (registry.loadFile file)).inspected (failure key)) := by
  have swapped : (registry.reload files).scripts.lookup key =
      some (old.inherit (registry.loadFile file)) := by
    rw [lookup_reload, chosen, found]
    rfl
  have named : ∀ key script, (registry.reload files).scripts.lookup key = some script →
      script.key = key := fun key script present =>
    (sound_reload registry files key script present).named
  have same := named key _ swapped
  have distinct : ((registry.reload files).list.map Script.key).Nodup := by
    rw [list_keys named]
    exact StringMap.sortedKeys_nodup _
  have inspected : (registry.serviceReload files failure).1.scripts.lookup
      (old.inherit (registry.loadFile file)).key =
        some ((old.inherit (registry.loadFile file)).inspected (failure
          (old.inherit (registry.loadFile file)).key)) :=
    lookup_foldl_inspect distinct (mem_list.mpr ⟨key, swapped⟩) (by rw [same, swapped])
  rwa [same] at inspected

theorem loadFile_active (registry : ScriptRegistry) (file : ScriptFile) :
    (registry.loadFile file).status = .active ↔
      (registry.loadFile file).program.isSome = true := by
  unfold loadFile
  dsimp only
  split
  · simp [Script.found]
  · split_ifs
    · split <;> simp [Script.found]
    · simp [Script.found]

theorem loadFile_fresh (registry : ScriptRegistry) (file : ScriptFile) :
    (registry.loadFile file).Unfiltered ∧ (registry.loadFile file).Uncounted := by
  unfold loadFile Script.Unfiltered Script.Uncounted
  dsimp only
  split
  · simp [Script.found]
  · split_ifs
    · split <;> simp [Script.found]
    · simp [Script.found]

/-! ## Reachable registries -/

/-- The registries that the methods can lead to, with the files of the last scan. -/
inductive Reachable (enabled : ScriptKind → String → Bool) (threshold : ℕ) :
    ScriptRegistry → List ScriptFile → Prop
  | new : Reachable enabled threshold (ScriptRegistry.new enabled threshold) []
  | next
      {registry : ScriptRegistry}
      {scanned : List ScriptFile}
      (op : RegistryOp)
      (reached : Reachable enabled threshold registry scanned) :
      Reachable enabled threshold (registry.apply op) (op.scanned scanned)

theorem enabled_apply (registry : ScriptRegistry) (op : RegistryOp) :
    (registry.apply op).enabled = registry.enabled := by
  have touched : ∀ key change bumps,
      (registry.touch key change bumps).enabled = registry.enabled := by
    intro key change bumps
    unfold touch
    split <;> rfl
  cases op with
  | reload files => rfl
  | _ => exact touched ..

theorem loadFile_apply (registry : ScriptRegistry) (op : RegistryOp) (file : ScriptFile) :
    (registry.apply op).loadFile file = registry.loadFile file := by
  unfold loadFile
  rw [enabled_apply]

variable {enabled : ScriptKind → String → Bool} {threshold : ℕ} {scanned : List ScriptFile}

/-- A script has its code and its digest from the file that the last scan found for it. -/
theorem Reachable.origin
    (reached : Reachable enabled threshold registry scanned)
    (found : registry.scripts.lookup key = some script) :
    ∃ file, fileOf scanned key = some file ∧
      script.origin = (registry.loadFile file).origin := by
  induction reached generalizing script with
  | new => simp [ScriptRegistry.new] at found
  | @next registry scanned op reached ih =>
      simp only [loadFile_apply]
      by_cases reloads : ∃ files, op = .reload files
      · obtain ⟨files, rfl⟩ := reloads
        change (registry.reload files).scripts.lookup key = some script at found
        rw [lookup_reload] at found
        obtain ⟨file, chosen, rfl⟩ := Option.map_eq_some_iff.mp found
        refine ⟨file, chosen, ?_⟩
        split
        · rfl
        · exact Script.inherit_origin ..
      · have others : ∀ files, op ≠ .reload files := fun files same => reloads ⟨files, same⟩
        have same := registry.lookup_apply_origin others key
        rw [found, Option.map_some] at same
        obtain ⟨old, present, origin⟩ := Option.map_eq_some_iff.mp same.symm
        obtain ⟨file, chosen, loaded⟩ := ih present
        refine ⟨file, ?_, origin.symm.trans loaded⟩
        cases op with
        | reload files => exact absurd rfl (others files)
        | _ => exact chosen

theorem Reachable.loaded (reached : Reachable enabled threshold registry scanned) :
    registry.Loaded := by
  induction reached with
  | new => exact .new enabled threshold
  | next op _ ih => exact ih.apply op

end ScriptRegistry

/-! ## Scripts that keep their standing -/

/-- What a reload does not restore is found again: the filters are those that `meta`
declares, or none where it is not read; a script that is switched off is so in the
configuration; and a script that fails does so again. Where the bookkeeping is not
restored, there is none. -/
def Settled
    (registry : ScriptRegistry)
    (file : ScriptFile)
    (failure : Option String)
    (script : Script) : Prop :=
  match script.status with
  | .active =>
      ∃ program declared, script.program = some program ∧
        readMeta script.kind program failure = .ok declared ∧
        script.metrics = declared.metrics ∧ script.events = declared.events ∧
        script.minSeverity = declared.minSeverity
  | .quarantined => script.Unfiltered
  | .disabled =>
      (registry.loadFile file).status = .disabled ∧ script.Unfiltered ∧ script.Uncounted
  | .failed =>
      script.Unfiltered ∧
        ((registry.loadFile file).status = .failed ∧ script.Uncounted ∨
          ∃ program text, script.program = some program ∧
            readMeta script.kind program failure = .error text)

namespace Script

variable {old fresh : Script} {failure : Option String}

theorem standing_of_inactive (inactive : fresh.status ≠ .active) :
    ((old.inherit fresh).inspected failure).standing = fresh.standing := by
  have kept : old.inherit fresh = fresh := if_neg fun inherits => inactive inherits.2
  have idle : fresh.running = none := if_neg inactive
  rw [kept, inspected, inspection, idle]
  rfl

theorem standing_of_quarantined
    (hash : old.hash = fresh.hash)
    (active : fresh.status = .active)
    (quarantined : old.status = .quarantined) :
    ((old.inherit fresh).inspected failure).standing =
      { old.standing with
        metrics := fresh.metrics
        events := fresh.events
        minSeverity := fresh.minSeverity } := by
  have kept : old.inherit fresh =
      { fresh with
        consecutiveFailures := old.consecutiveFailures
        totalFailures := old.totalFailures
        totalCalls := old.totalCalls
        lastError := old.lastError
        lastFailureAt := old.lastFailureAt
        status := .quarantined
        reason := old.reason
        quarantinedAt := old.quarantinedAt } := by
    rw [inherit, if_pos ⟨hash, active⟩]
    exact if_pos quarantined
  rw [kept]
  exact congrArg (fun status => { old.standing with
    status
    metrics := fresh.metrics
    events := fresh.events
    minSeverity := fresh.minSeverity }) quarantined.symm

theorem standing_of_read
    {program : Program}
    (hash : old.hash = fresh.hash)
    (compiled : fresh.program = some program)
    (active : fresh.status = .active)
    (unquarantined : old.status ≠ .quarantined) :
    ((old.inherit fresh).inspected failure).standing =
      match readMeta fresh.kind program failure with
      | .ok declared =>
          { old.standing with
            status := .active
            metrics := declared.metrics
            events := declared.events
            minSeverity := declared.minSeverity }
      | .error _ =>
          { old.standing with
            status := .failed
            metrics := fresh.metrics
            events := fresh.events
            minSeverity := fresh.minSeverity } := by
  have kept : old.inherit fresh =
      { fresh with
        consecutiveFailures := old.consecutiveFailures
        totalFailures := old.totalFailures
        totalCalls := old.totalCalls
        lastError := old.lastError
        lastFailureAt := old.lastFailureAt } := by
    rw [inherit, if_pos ⟨hash, active⟩]
    exact if_neg unquarantined
  rw [kept]
  unfold inspected inspection running
  simp only [active, compiled, if_true, Option.map_some]
  cases readMeta fresh.kind program failure with
  | error text => rfl
  | ok declared => simp [described, standing]

end Script

/-- A reload in which the file of a script is unchanged leaves the standing of the script
as it is exactly when the script is settled. -/
theorem reload_keeps_standing
    {enabled : ScriptKind → String → Bool}
    {threshold : ℕ}
    {registry : ScriptRegistry}
    {scanned files : List ScriptFile}
    {failure : String → Option String}
    {file : ScriptFile}
    {key : String}
    {script : Script}
    (reached : ScriptRegistry.Reachable enabled threshold registry scanned)
    (found : registry.scripts.lookup key = some script)
    (before : fileOf scanned key = some file)
    (unchanged : fileOf files key = some file) :
    (∃ after, (registry.serviceReload files failure).1.scripts.lookup key = some after ∧
      after.standing = script.standing) ↔ Settled registry file (failure key) script := by
  rw [ScriptRegistry.lookup_serviceReload unchanged found]
  simp only [Option.some.injEq, exists_eq_left']
  obtain ⟨other, chosen, origin⟩ := reached.origin found
  rw [before, Option.some.injEq] at chosen
  subst chosen
  simp only [Script.origin, Script.code, Prod.mk.injEq] at origin
  obtain ⟨hash, kind, code⟩ := origin
  obtain ⟨⟨metrics, events, severity⟩, consecutive, failures, calls⟩ := registry.loadFile_fresh file
  have compiled := (reached.loaded key script found).compiled
  have isActive := registry.loadFile_active file
  cases holds : script.program with
  | none =>
      -- The script is not active as it is loaded, and cannot have been before.
      have inactive : (registry.loadFile file).status ≠ .active := by
        simp [isActive, ← code, holds]
      have idle : script.status ≠ .active ∧ script.status ≠ .quarantined := by
        simpa [holds] using compiled
      rw [Script.standing_of_inactive inactive]
      cases status : script.status with
      | active => exact absurd status idle.1
      | quarantined => exact absurd status idle.2
      | disabled =>
          simp [Settled, status, Script.standing, Script.Unfiltered, Script.Uncounted, metrics,
            events, severity, consecutive, failures, calls, and_assoc, and_comm, and_left_comm,
            eq_comm]
      | failed =>
          simp [Settled, status, Script.standing, Script.Unfiltered, Script.Uncounted, metrics,
            events, severity, consecutive, failures, calls, holds, and_assoc, and_comm,
            and_left_comm, eq_comm]
  | some program =>
      have loaded := code.symm.trans holds
      have active : (registry.loadFile file).status = .active := isActive.mpr (by simp [loaded])
      by_cases quarantined : script.status = .quarantined
      · rw [Script.standing_of_quarantined hash active quarantined]
        simp [Settled, quarantined, Script.standing, Script.Unfiltered, metrics, events, severity,
          eq_comm]
      · rw [Script.standing_of_read hash loaded active quarantined, ← kind]
        cases read : readMeta script.kind program (failure key) <;>
          cases status : script.status <;>
            simp [Settled, status, Script.standing, Script.Unfiltered, metrics, events, severity,
              holds, read, active, eq_comm] at quarantined ⊢

end InfraObserver

/-! ## A script that does not change -/

namespace InfraObserver

attribute [local instance] ScriptHost.patterns

/-- What the script declares. -/
def cpuMeta : ScriptMeta := ⟨"1", "", ["cpu.*"], ["cpu.*"], none⟩

/-- A registry after the first reload, with what the script declares. -/
def loadedRegistry : ScriptRegistry :=
  (emptyRegistry.apply (.reload [transformFile "cpu.*"])).apply (.setMeta "transforms/t" cpuMeta)

theorem loadedRegistry_reachable :
    ScriptRegistry.Reachable (fun _ _ => true) 3 loadedRegistry [transformFile "cpu.*"] :=
  .next (.setMeta "transforms/t" cpuMeta) (.next (.reload [transformFile "cpu.*"]) .new)

/-- The standing of the script. -/
def standingIn (registry : ScriptRegistry) : Option ScriptStanding :=
  (registry.get "transforms/t").map Script.standing

/-- The standing after a reload of the unchanged file. -/
def standingAfter (registry : ScriptRegistry) : Option ScriptStanding :=
  standingIn (registry.serviceReload [transformFile "cpu.*"] fun _ => none).1

/-- A failure of an active script is still counted after a reload. -/
theorem active_script_keeps_standing :
    let registry := loadedRegistry.apply (.recordResult "transforms/t" (some "x") 1)
    standingIn registry = some ⟨.active, 1, 1, 1, ["cpu.*"], ["cpu.*"], none⟩ ∧
      standingAfter registry = standingIn registry := by
  intro registry
  have stands : standingIn registry = some ⟨.active, 1, 1, 1, ["cpu.*"], ["cpu.*"], none⟩ := by
    decide +kernel
  refine ⟨stands, ?_⟩
  obtain ⟨script, found, standing⟩ := Option.map_eq_some_iff.mp stands
  have settled : ((registry.get "transforms/t").map fun script =>
      (script.program, readMeta script.kind (transformProgram "cpu.*") none)) =
      some (some (transformProgram "cpu.*"), .ok cpuMeta) := by rfl
  rw [found, Option.map_some, Option.some.injEq, Prod.mk.injEq] at settled
  simp only [Script.standing, ScriptStanding.mk.injEq] at standing
  obtain ⟨status, -, -, -, metrics, events, severity⟩ := standing
  have kept : Settled registry (transformFile "cpu.*") none script := by
    simp only [Settled, status]
    exact ⟨_, _, settled.1, settled.2, metrics, events, severity⟩
  have chosen : fileOf [transformFile "cpu.*"] "transforms/t" = some (transformFile "cpu.*") := rfl
  have keeps : ∃ after,
      (registry.serviceReload [transformFile "cpu.*"] fun _ => none).1.scripts.lookup
      "transforms/t" = some after ∧ after.standing = script.standing :=
    (reload_keeps_standing
      (.next (.recordResult "transforms/t" (some "x") 1) loadedRegistry_reachable) found chosen
      chosen).mpr kept
  obtain ⟨after, present, same⟩ := keeps
  calc standingAfter registry
    _ = some after.standing := congrArg (Option.map Script.standing) present
    _ = some script.standing := congrArg some same
    _ = standingIn registry := (congrArg (Option.map Script.standing) found).symm

/-- A script that an operator has disabled is active after a reload, and a quarantined one
has lost its filters. -/
theorem standing_lost :
    let disabled := loadedRegistry.apply (.setEnabled "transforms/t" false)
    let quarantined := [1, 2, 3].foldl (fun registry now =>
      registry.apply (.recordResult "transforms/t" (some "x") now)) loadedRegistry
    ScriptRegistry.Reachable (fun _ _ => true) 3 disabled [transformFile "cpu.*"] ∧
      standingIn disabled = some ⟨.disabled, 0, 0, 0, ["cpu.*"], ["cpu.*"], none⟩ ∧
      standingAfter disabled = some ⟨.active, 0, 0, 0, ["cpu.*"], ["cpu.*"], none⟩ ∧
      ScriptRegistry.Reachable (fun _ _ => true) 3 quarantined [transformFile "cpu.*"] ∧
      standingIn quarantined = some ⟨.quarantined, 3, 3, 3, ["cpu.*"], ["cpu.*"], none⟩ ∧
      standingAfter quarantined = some ⟨.quarantined, 3, 3, 3, [], [], none⟩ := by
  intro disabled quarantined
  exact ⟨.next (.setEnabled "transforms/t" false) loadedRegistry_reachable,
    by decide +kernel, by decide +kernel,
    .next (.recordResult "transforms/t" (some "x") 3)
      (.next (.recordResult "transforms/t" (some "x") 2)
        (.next (.recordResult "transforms/t" (some "x") 1) loadedRegistry_reachable)),
    by decide +kernel, by decide +kernel⟩

end InfraObserver
