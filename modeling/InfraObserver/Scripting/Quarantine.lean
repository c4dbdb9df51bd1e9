import InfraObserver.Scripting.Versions

/-!
# Quarantine

A version is to be quarantined for failures of its own. `RecordResult` counts what is
recorded under a key, so this holds as long as no version changes under a call that has
looked it up: then every outcome is recorded for the version that the call has looked
up and run, and the counter of a script is never above the streak of its own failures.
-/

namespace InfraObserver

variable {count : ℕ}

/-! ## The streak of a version -/

/-- One event more for the streak of a version: the number of its own calls that have
failed since it was loaded, re-enabled or last succeeded. The calls of a version are
those that have looked it up and for which no other program was run. -/
def tally (key : String) (version : Program) (streak : ℕ) : CallEvent → ℕ
  | .loaded other _ => if other = key then 0 else streak
  | .enabled other => if other = key then 0 else streak
  | .recorded other used ran failure =>
      if other = key ∧ used = version ∧ (ran = none ∨ ran = some version) then
        if failure.isSome then streak + 1 else 0
      else streak

/-- The streak of a version after a trace. -/
def streakOf (key : String) (version : Program) (trace : List CallEvent) : ℕ :=
  trace.foldl (tally key version) 0

theorem streakOf_append (key : String) (version : Program) (trace shown : List CallEvent) :
    streakOf key version (trace ++ shown) =
      shown.foldl (tally key version) (streakOf key version trace) :=
  List.foldl_append ..

theorem foldl_tally_of_other
    {key : String}
    {version : Program}
    {shown : List CallEvent}
    (streak : ℕ)
    (other : ∀ event ∈ shown, tally key version streak event = streak) :
    shown.foldl (tally key version) streak = streak := by
  induction shown with
  | nil => rfl
  | cons event rest ih =>
      rw [List.foldl_cons, other event (List.mem_cons_self ..)]
      exact ih fun later member => other later (List.mem_cons_of_mem _ member)

/-! ## The counter and the streak -/

namespace ScriptRegistry

variable {registry : ScriptRegistry} {trace : List CallEvent}

/-- The counter of a script is not above the streak of its version. -/
def Tallied (registry : ScriptRegistry) (trace : List CallEvent) : Prop :=
  ∀ key script version, registry.scripts.lookup key = some script →
    script.program = some version → script.consecutiveFailures ≤ streakOf key version trace

theorem inherit_program (old script : Script) : (old.inherit script).program = script.program :=
  congrArg (fun origin => origin.2.2) (Script.inherit_origin old script)

variable {key : String}

theorem tally_newVersions
    {before after : ScriptRegistry}
    {version : Program}
    (kept : before.version key = some version)
    (present : after.version key = some version)
    (streak : ℕ) :
    (newVersions before after).foldl (tally key version) streak = streak := by
  refine foldl_tally_of_other streak fun event member => ?_
  obtain ⟨other, -, shown⟩ := List.mem_filterMap.mp member
  split at shown
  · cases shown
  · next found loaded =>
      split_ifs at shown with same
      cases shown
      refine if_neg ?_
      rintro rfl
      rw [present, Option.some.injEq] at loaded
      exact same (loaded ▸ kept)

theorem tallied_touch
    {change : Script → Script}
    {bumps : Script → Bool}
    {shown : List CallEvent}
    (tallied : registry.Tallied trace)
    (other : ∀ script version, script ≠ key →
      streakOf script version (trace ++ shown) = streakOf script version trace)
    (kept : ∀ script version, registry.scripts.lookup key = some script →
      (change script).program = some version → script.program = some version ∧
        (script.consecutiveFailures ≤ streakOf key version trace →
          (change script).consecutiveFailures ≤ streakOf key version (trace ++ shown))) :
    (registry.touch key change bumps).Tallied (trace ++ shown) := by
  intro target script version found compiled
  rw [lookup_touch] at found
  split_ifs at found with same
  · subst same
    obtain ⟨before, present, rfl⟩ := Option.map_eq_some_iff.mp found
    obtain ⟨program, bounded⟩ := kept before version present compiled
    exact bounded (tallied target before version present program)
  · rw [other target version same]
    exact tallied target script version found compiled

theorem Tallied.silent
    {change : Script → Script}
    {bumps : Script → Bool}
    (tallied : registry.Tallied trace)
    (kept : ∀ script, (change script).program = script.program ∧
      (change script).consecutiveFailures = script.consecutiveFailures) :
    (registry.touch key change bumps).Tallied (trace ++ []) := by
  refine tallied_touch tallied (fun _ _ _ => by rw [List.append_nil]) fun script _ _ program => ?_
  rw [List.append_nil, (kept script).2]
  exact ⟨(kept script).1.symm.trans program, id⟩

theorem Tallied.recordResult
    {version : Program}
    {ran : Option Program}
    (tallied : registry.Tallied trace)
    (own : registry.version key = some version)
    (ranOwn : ran = none ∨ ran = some version)
    (failure : Option String)
    (now : Time) :
    (registry.recordResult key failure now).Tallied
      (trace ++ [.recorded key version ran failure]) := by
  refine tallied_touch tallied (fun target other different => ?_)
    fun script other found compiled => ?_
  · simp [streakOf_append, tally, Ne.symm different]
  · have program : script.program = some other := by
      rw [← compiled]
      unfold Script.recorded
      split
      · rfl
      · dsimp only
        split_ifs <;> rfl
    have same : version = other := by
      obtain ⟨present, stored, current⟩ := version_eq_some.mp own
      rw [found, Option.some.injEq] at stored
      subst stored
      exact Option.some.inj (current.symm.trans program)
    subst same
    refine ⟨program, fun bounded => ?_⟩
    rw [streakOf_append, List.foldl_cons, List.foldl_nil, tally, if_pos ⟨rfl, rfl, ranOwn⟩]
    cases failure with
    | none => exact Nat.zero_le _
    | some text =>
        have counter : (script.recorded registry.threshold (some text) now).consecutiveFailures =
            script.consecutiveFailures + 1 := by
          unfold Script.recorded
          dsimp only
          split_ifs <;> rfl
        rw [counter, Option.isSome_some, if_pos rfl]
        exact Nat.succ_le_succ bounded

variable [ScriptHost]

theorem loadFile_consecutiveFailures (registry : ScriptRegistry) (file : ScriptFile) :
    (registry.loadFile file).consecutiveFailures = 0 := by
  unfold loadFile
  dsimp only
  split
  · rfl
  · split_ifs
    · split <;> rfl
    · rfl

theorem Tallied.reload
    {files : List ScriptFile}
    (tallied : registry.Tallied trace)
    (sameSource : Calls.SameSource registry files) :
    (registry.reload files).Tallied (trace ++ newVersions registry (registry.reload files)) := by
  intro key script version found compiled
  have present : (registry.reload files).version key = some version :=
    version_eq_some.mpr ⟨script, found, compiled⟩
  obtain ⟨file, member, rfl, built⟩ := exists_file_of_reload found
  split at built
  · rw [built, loadFile_consecutiveFailures]
    exact Nat.zero_le _
  · next old stored =>
      rw [built, inherit_program] at compiled
      by_cases inherits : old.hash = (registry.loadFile file).hash ∧
          (registry.loadFile file).status = .active
      · have same := sameSource file member old stored inherits.1 inherits.2
        have kept : registry.version (registry.loadFile file).key = some version :=
          version_eq_some.mpr ⟨old, stored, same.trans compiled⟩
        have counter : script.consecutiveFailures = old.consecutiveFailures := by
          rw [built, Script.inherit, if_pos inherits]
          dsimp only
          split_ifs <;> rfl
        rw [streakOf_append, tally_newVersions kept present, counter]
        exact tallied _ old version stored (same.trans compiled)
      · rw [built, Script.inherit, if_neg inherits, loadFile_consecutiveFailures]
        exact Nat.zero_le _

theorem Tallied.setEnabled (tallied : registry.Tallied trace) (key : String) (enabled : Bool) :
    (registry.setEnabled key enabled).Tallied
      (trace ++ registry.shown (.setEnabled key enabled)) := by
  refine tallied_touch tallied (fun target version different => ?_)
    fun script version found compiled => ?_
  · rw [streakOf_append]
    cases enabled with
    | false => rfl
    | true =>
        simp only [shown]
        split_ifs
        · simp [tally, Ne.symm different]
        · rfl
  · unfold Script.switched at compiled ⊢
    by_cases switches : script.switches enabled = true
    · rw [if_pos switches] at compiled ⊢
      cases enabled with
      | true => exact ⟨compiled, fun _ => Nat.zero_le _⟩
      | false => exact ⟨compiled, fun bounded => by simpa [streakOf_append, shown] using bounded⟩
    · rw [if_neg switches] at compiled ⊢
      refine ⟨compiled, fun bounded => ?_⟩
      have quiet : registry.shown (.setEnabled key enabled) = [] := by
        cases enabled with
        | false => rfl
        | true => simp [shown, found, switches]
      rwa [quiet, List.append_nil]

theorem threshold_apply (registry : ScriptRegistry) (op : RegistryOp) :
    (registry.apply op).threshold = registry.threshold := by
  have touched : ∀ key change bumps,
      (registry.touch key change bumps).threshold = registry.threshold := by
    intro key change bumps
    unfold touch
    split <;> rfl
  cases op with
  | reload files => rfl
  | _ => exact touched ..

theorem quarantined_before_reload
    {files : List ScriptFile}
    {script : Script}
    (sameSource : Calls.SameSource registry files)
    (found : (registry.reload files).scripts.lookup key = some script)
    (quarantined : script.status = .quarantined) :
    ∃ old, registry.scripts.lookup key = some old ∧ old.program = script.program ∧
      old.status = .quarantined := by
  obtain ⟨file, member, rfl, built⟩ := exists_file_of_reload found
  split at built
  · exact absurd (built ▸ quarantined) (loadFile_status registry file)
  · next old stored =>
      rw [built] at quarantined
      refine ⟨old, stored, ?_⟩
      rw [built, inherit_program]
      unfold Script.inherit at quarantined
      dsimp only at quarantined
      split_ifs at quarantined with inherits status
      · exact ⟨sameSource file member old stored inherits.1 inherits.2, status⟩
      · exact absurd quarantined (loadFile_status registry file)
      · exact absurd quarantined (loadFile_status registry file)

/-- A version that a method quarantines has a counter that has reached the
threshold. -/
theorem threshold_le_of_quarantined
    {op : RegistryOp}
    {script : Script}
    (sameSource : ∀ files, op = .reload files → Calls.SameSource registry files)
    (found : (registry.apply op).scripts.lookup key = some script)
    (quarantined : script.status = .quarantined)
    (before : ∀ old, registry.scripts.lookup key = some old → old.program = script.program →
      old.status ≠ .quarantined) :
    registry.threshold ≤ script.consecutiveFailures := by
  have touched : ∀ {target change bumps},
      (registry.touch target change bumps).scripts.lookup key = some script →
      (∀ old, registry.scripts.lookup key = some old → change old = script →
        old.program = script.program ∧ (old.status = .quarantined ∨
          registry.threshold ≤ script.consecutiveFailures)) →
      registry.threshold ≤ script.consecutiveFailures := by
    intro target change bumps present changed
    rw [lookup_touch] at present
    split_ifs at present with same
    · subst same
      obtain ⟨old, stored, rfl⟩ := Option.map_eq_some_iff.mp present
      obtain ⟨program, status | reached⟩ := changed old stored rfl
      · exact absurd status (before old stored program)
      · exact reached
    · exact absurd quarantined (before script present rfl)
  cases op with
  | reload files =>
      obtain ⟨old, stored, program, status⟩ :=
        quarantined_before_reload (sameSource files rfl) found quarantined
      exact absurd status (before old stored program)
  | markFailed target reason =>
      refine touched found fun old stored same => ?_
      subst same
      cases quarantined
  | setMeta target declared =>
      refine touched found fun old stored same => ?_
      subst same
      exact ⟨rfl, Or.inl quarantined⟩
  | setEnabled target enabled =>
      refine touched found fun old stored same => ?_
      subst same
      unfold Script.switched at quarantined ⊢
      split_ifs at quarantined ⊢
      exact ⟨rfl, Or.inl quarantined⟩
  | recordResult target failure now =>
      refine touched found fun old stored same => ?_
      subst same
      unfold Script.recorded at quarantined ⊢
      cases failure with
      | none => exact ⟨rfl, Or.inl quarantined⟩
      | some text =>
          dsimp only at quarantined ⊢
          split_ifs at quarantined ⊢ with reached
          · simp only [Script.quarantines, Bool.and_eq_true, decide_eq_true_eq] at reached
            exact ⟨rfl, Or.inr reached.2⟩
          · exact ⟨rfl, Or.inl quarantined⟩

end ScriptRegistry

namespace Calls

variable [ScriptHost] {calls after : Calls count} {action : CallAction count}

theorem tallied_of_reaches
    {enabled : ScriptKind → String → Bool}
    {quarantineAfter : ℕ}
    {trace : List CallEvent}
    (reached : (machine count).Reaches Undisturbed (new enabled quarantineAfter) calls trace) :
    calls.registry.Tallied trace ∧ calls.registry.threshold = max quarantineAfter 1 := by
  refine reached.invariant ⟨?_, rfl⟩ ?_
  · intro key script version found
    simp [Calls.new, Pool.new, ScriptRegistry.new] at found
  intro calls action after trace shown before tallied permitted taken
  have current := current_of_reaches before
  rcases registry_of_moves (moves_of_step current.coherent taken) with
    ⟨same, rfl⟩ | ⟨op, rfl, same, rfl, quiet⟩ |
      ⟨key, version, ran, failure, now, ⟨call, member, rfl, looked, rfl⟩, same, rfl⟩
  · rwa [same, List.append_nil]
  · rw [same, ScriptRegistry.threshold_apply]
    refine ⟨?_, tallied.2⟩
    cases op with
    | reload files => exact tallied.1.reload permitted.1
    | setEnabled key enabled => exact tallied.1.setEnabled key enabled
    | recordResult key failure now => exact absurd rfl (quiet key failure now)
    | markFailed key reason => exact tallied.1.silent fun _ => ⟨rfl, rfl⟩
    | setMeta key declared => exact tallied.1.silent fun _ => ⟨rfl, rfl⟩
  · rw [same, ScriptRegistry.threshold_apply]
    refine ⟨?_, tallied.2⟩
    refine tallied.1.recordResult (current.versions call member version looked) ?_ failure now
    cases used : call.stage.ran with
    | none => exact Or.inl rfl
    | some program =>
        have own := current.ran call member program used
        rw [looked] at own
        exact Or.inr own.symm

/-- A version becomes quarantined only if, since it was loaded or last re-enabled, as many
of its own calls have failed as the threshold says, with no success in between. -/
theorem quarantined_for_own_failures
    {enabled : ScriptKind → String → Bool}
    {quarantineAfter : ℕ}
    {trace shown : List CallEvent}
    {key : String}
    {script : Script}
    (reached : (machine count).Reaches Undisturbed (new enabled quarantineAfter) calls trace)
    (permitted : calls.Undisturbed action)
    (taken : calls.step action = some (after, shown))
    (found : after.registry.scripts.lookup key = some script)
    (quarantined : script.status = .quarantined)
    (before : ∀ old, calls.registry.scripts.lookup key = some old →
      old.program = script.program → old.status ≠ .quarantined) :
    ∃ version, script.program = some version ∧
      max quarantineAfter 1 ≤ streakOf key version (trace ++ shown) := by
  have onward := reached.next action permitted taken
  have compiled := ((current_of_reaches onward).loaded key script found).compiled
    (Or.inr quarantined)
  obtain ⟨version, program⟩ := Option.isSome_iff_exists.mp compiled
  refine ⟨version, program, ?_⟩
  have counted := (tallied_of_reaches onward).1 key script version found program
  rw [← (tallied_of_reaches reached).2]
  refine le_trans ?_ counted
  rcases registry_of_moves (moves_of_step (current_of_reaches reached).coherent taken) with
    ⟨same, -⟩ | ⟨op, rfl, same, -, -⟩ | ⟨target, -, -, failure, now, -, same, -⟩
  · rw [same] at found
    exact absurd quarantined (before script found rfl)
  · rw [same] at found
    refine ScriptRegistry.threshold_le_of_quarantined ?_ found quarantined before
    rintro files rfl
    exact permitted.1
  · rw [same] at found
    exact ScriptRegistry.threshold_le_of_quarantined (by nofun) found quarantined before

end Calls

end InfraObserver

/-! ## A call across a reload -/

namespace InfraObserver

attribute [local instance] ScriptHost.patterns

instance (registry : ScriptRegistry) (files : List ScriptFile) :
    Decidable (Calls.SameSource registry files) :=
  decidable_of_iff
    (∀ file ∈ files, (registry.scripts.lookup (registry.loadFile file).key).all fun old =>
      decide (old.hash = (registry.loadFile file).hash →
        (registry.loadFile file).status = .active →
          old.program = (registry.loadFile file).program))
    (by simp only [Calls.SameSource, Option.all_eq_true, decide_eq_true_eq])

instance {count : ℕ} (calls : Calls count) : DecidablePred calls.Undisturbed
  | .registry (.reload _) => inferInstanceAs (Decidable (_ ∧ _))
  | .registry (.markFailed ..) | .registry (.setMeta ..) | .registry (.recordResult ..)
  | .registry (.setEnabled ..) | .call .. | .get _ | .refuse .. | .take .. | .turn ..
  | .finish .. => isTrue trivial

/-- The only script is called and looked up. -/
def lookUp (caller : ℕ) : List (CallAction 1) :=
  [.call "transforms/t" "transform", .get caller]

/-- A worker runs the call, which throws, and replies. -/
def runAndThrow (caller : ℕ) (rebuild : List PoolTurn) : List (CallAction 1) :=
  [.take soleWorker caller, .turn soleWorker .check] ++ rebuild.map (.turn soleWorker) ++
    [.turn soleWorker (.start true), .turn soleWorker (.finish (.failed .exception "x")),
      .turn soleWorker .reply]

/-- Two calls of one version fail; the second outcome is still to be recorded. -/
def failingRun : List (CallAction 1) :=
  [.registry (.reload [transformFile "cpu.*"])] ++ lookUp 0 ++
    runAndThrow 0 [.renew, .load fun _ => none] ++ [.finish 0 none 1] ++ lookUp 1 ++
    runAndThrow 1 []

/-- A call of one version fails; before the outcome is recorded, the source changes. -/
def replacedRun : List (CallAction 1) :=
  [.registry (.reload [transformFile "cpu.*"])] ++ lookUp 0 ++
    runAndThrow 0 [.renew, .load fun _ => none] ++ [.registry (.reload [transformFile "mem.*"])]

/-- A run and then one action more: the trace of the run, the script before and after the
action, and what the action shows. -/
def lastStep
    (quarantineAfter : ℕ)
    (actions : List (CallAction 1))
    (last : CallAction 1) :
    Option (List CallEvent × Option Script × Option Script × List CallEvent) :=
  ((Calls.machine 1).run (.new (fun _ _ => true) quarantineAfter) actions).bind fun before =>
    (before.1.step last).map fun after =>
      (before.2, before.1.registry.get "transforms/t", after.1.registry.get "transforms/t", after.2)

/-- The second failure in a row quarantines the version. -/
theorem failing_version_quarantined :
    ∃ calls trace after shown script,
      (Calls.machine 1).run (.new (fun _ _ => true) 2) failingRun = some (calls, trace) ∧
      calls.step (.finish 1 none 2) = some (after, shown) ∧
      after.registry.scripts.lookup "transforms/t" = some script ∧
      script.status = .quarantined ∧
      ∃ version, script.program = some version ∧
        max 2 1 ≤ streakOf "transforms/t" version (trace ++ shown) := by
  have ended : ((lastStep 2 failingRun (.finish 1 none 2)).map fun result =>
      (result.2.1.map Script.status, result.2.2.1.map Script.status)) =
      some (some .active, some .quarantined) := by decide +kernel
  have permits : (Calls.machine 1).Permits Calls.Undisturbed (.new (fun _ _ => true) 2)
      failingRun := by decide +kernel
  obtain ⟨result, ran, statuses⟩ := Option.map_eq_some_iff.mp ended
  obtain ⟨⟨calls, trace⟩, reached, ran⟩ := Option.bind_eq_some_iff.mp ran
  obtain ⟨⟨after, shown⟩, taken, rfl⟩ := Option.map_eq_some_iff.mp ran
  rw [Prod.mk.injEq] at statuses
  obtain ⟨script, found, quarantined⟩ := Option.map_eq_some_iff.mp statuses.2
  refine ⟨calls, trace, after, shown, script, reached, taken, found, quarantined, ?_⟩
  have permitted : calls.Undisturbed (.finish 1 none 2) := trivial
  refine Calls.quarantined_for_own_failures (Transition.Machine.reaches_run permits reached)
    permitted taken found quarantined fun old stored _ => ?_
  have active := statuses.1
  rw [show calls.registry.get "transforms/t" = some old from stored] at active
  rw [Option.some.inj active]
  nofun

/-- The failure of the old source quarantines the new one, of which no call has failed. -/
theorem replacement_quarantined :
    ∃ calls trace after shown old script,
      (Calls.machine 1).run (.new (fun _ _ => true) 1) replacedRun = some (calls, trace) ∧
      calls.step (.finish 0 none 2) = some (after, shown) ∧
      calls.registry.scripts.lookup "transforms/t" = some old ∧ old.status = .active ∧
      after.registry.scripts.lookup "transforms/t" = some script ∧
      script.status = .quarantined ∧
      script.program = some (transformProgram "mem.*") ∧
      streakOf "transforms/t" (transformProgram "mem.*") (trace ++ shown) = 0 ∧
      shown = [.recorded "transforms/t" (transformProgram "cpu.*")
        (some (transformProgram "cpu.*")) (some "script transforms/t: exception: x")] := by
  have ended : ((lastStep 1 replacedRun (.finish 0 none 2)).map fun result =>
      (result.2.1.map Script.status,
        result.2.2.1.map fun script => (script.status, script.program))) =
        some (some .active, some (.quarantined, some (transformProgram "mem.*"))) := by
    decide +kernel
  have events : ((lastStep 1 replacedRun (.finish 0 none 2)).map fun result =>
      (streakOf "transforms/t" (transformProgram "mem.*") (result.1 ++ result.2.2.2),
        result.2.2.2)) = some (0, [.recorded "transforms/t" (transformProgram "cpu.*")
          (some (transformProgram "cpu.*")) (some "script transforms/t: exception: x")]) := by
    decide +kernel
  obtain ⟨result, ran, statuses⟩ := Option.map_eq_some_iff.mp ended
  rw [ran, Option.map_some, Option.some.injEq, Prod.mk.injEq] at events
  obtain ⟨⟨calls, trace⟩, reached, ran⟩ := Option.bind_eq_some_iff.mp ran
  obtain ⟨⟨after, shown⟩, taken, rfl⟩ := Option.map_eq_some_iff.mp ran
  rw [Prod.mk.injEq] at statuses
  obtain ⟨old, stored, active⟩ := Option.map_eq_some_iff.mp statuses.1
  obtain ⟨script, found, quarantined⟩ := Option.map_eq_some_iff.mp statuses.2
  rw [Prod.mk.injEq] at quarantined
  exact ⟨calls, trace, after, shown, old, script, reached, taken, stored, active, found,
    quarantined.1, quarantined.2, events.1, events.2⟩

end InfraObserver
