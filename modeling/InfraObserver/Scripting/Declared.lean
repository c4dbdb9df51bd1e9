import InfraObserver.Scripting.Service

/-!
# What scripts declare

The registry keeps the filters of a script beside its program. A script is sound when
the filters, if anything is recorded, are those that its program declares. A script
that is active while nothing is recorded about it is pending; apart from a reload, only
`SetEnabled` can make a script pending.
-/

namespace InfraObserver

variable [ScriptHost] {F : Type} {count : ℕ}

/-- The source that runs declares that it handles an errand. -/
def Errand.Declared (errand : Errand F) (program : Program) : Prop :=
  ∃ declared, ScriptHost.declared program.source = some declared ∧
    match errand with
    | .transform observation =>
        declared.metrics ≠ [] ∧ matchesAny declared.metrics observation.metric = true
    | .handleEvent event =>
        declared.events ≠ [] ∧ matchesAny declared.events event.type = true ∧
          severeEnough declared.minSeverity event.severity = true

/-! ## Scripts of the registry -/

namespace Script

/-- The filters of the script are those that its program declares. -/
def Recorded (script : Script) : Prop :=
  ∃ program declared, script.program = some program ∧
    ScriptHost.declared program.source = some declared ∧
    metaProblem script.kind declared = none ∧
    script.metrics = declared.metrics ∧ script.events = declared.events ∧
    script.minSeverity = declared.minSeverity

/-- The script is active and nothing is recorded about it. -/
def Pending (script : Script) : Prop := script.status = .active ∧ script.version = ""

/-- What holds of every script under its key. -/
structure Sound (key : String) (script : Script) : Prop where
  named : script.key = key
  programNamed : ∀ program, script.program = some program → program.id = key
  recorded : script.version ≠ "" → script.Recorded
  compiled : script.status = .active → script.program.isSome = true

/-- What a script is, apart from its status, its filters and its bookkeeping. -/
def code (script : Script) : ScriptKind × Option Program := (script.kind, script.program)

/-- What a script has from its file. -/
def origin (script : Script) : String × ScriptKind × Option Program :=
  (script.hash, script.code)

omit [ScriptHost] in
theorem inherit_origin (old script : Script) : (old.inherit script).origin = script.origin := by
  unfold inherit
  dsimp only
  split_ifs <;> rfl

end Script

omit [ScriptHost] in
theorem metaProblem_eq_none
    {kind : ScriptKind}
    {declared : ScriptMeta}
    (sound : metaProblem kind declared = none) :
    declared.version ≠ "" ∧ (kind = .transforms → declared.metrics ≠ []) ∧
      (kind = .integrations → declared.events ≠ []) := by
  unfold metaProblem at sound
  split_ifs at sound with version metrics events
  exact ⟨version, not_and.mp metrics, not_and.mp events⟩

theorem Errand.declared_of_wants
    {errand : Errand F}
    {script : Script}
    {program : Program}
    (recorded : script.Recorded)
    (kind : script.kind = errand.kind)
    (wants : errand.wants script = true)
    (compiled : script.program = some program) :
    errand.Declared program := by
  obtain ⟨other, declared, compiledOther, declares, sound, metrics, events, severity⟩ := recorded
  rw [compiled, Option.some.injEq] at compiledOther
  subst compiledOther
  obtain ⟨-, someMetrics, someEvents⟩ := metaProblem_eq_none sound
  refine ⟨declared, declares, ?_⟩
  cases errand with
  | transform observation =>
      rw [Errand.wants, metrics] at wants
      exact ⟨someMetrics kind, wants⟩
  | handleEvent event =>
      rw [Errand.wants, events, severity, Bool.and_eq_true] at wants
      exact ⟨someEvents kind, wants⟩

namespace ScriptRegistry

variable {registry : ScriptRegistry} {key : String} {change : Script → Script}
variable {bumps : Script → Bool}

/-- Every script is sound. -/
def Sound (registry : ScriptRegistry) : Prop :=
  ∀ key script, registry.scripts.lookup key = some script → script.Sound key

/-- A script has the program. -/
def Has (registry : ScriptRegistry) (program : Program) : Prop :=
  ∃ key script, registry.scripts.lookup key = some script ∧ script.program = some program

omit [ScriptHost] in
theorem has_of_mem_programs {program : Program} (member : program ∈ registry.programs) :
    registry.Has program := by
  obtain ⟨key, script, found, -, compiled⟩ := mem_programs.mp member
  exact ⟨key, script, found, compiled⟩

theorem Sound.touch
    (sound : registry.Sound)
    (kept : ∀ script, registry.scripts.lookup key = some script → script.Sound key →
      (change script).Sound key) :
    (registry.touch key change bumps).Sound := by
  intro other script found
  rw [lookup_touch] at found
  split_ifs at found with same
  · subst same
    obtain ⟨before, present, rfl⟩ := Option.map_eq_some_iff.mp found
    exact kept before present (sound other before present)
  · exact sound other script found

theorem sound_loadFile (registry : ScriptRegistry) (file : ScriptFile) :
    (registry.loadFile file).Sound (registry.loadFile file).key := by
  unfold loadFile ScriptKind.validate
  dsimp only
  split
  · exact ⟨rfl, nofun, fun recorded => absurd rfl recorded, nofun⟩
  · split_ifs
    · split
      · next program valid =>
          refine ⟨rfl, fun other same => ?_, fun recorded => absurd rfl recorded, fun _ => rfl⟩
          cases same
          split at valid
          · cases valid
          · split_ifs at valid
            cases valid
            rfl
      · exact ⟨rfl, nofun, fun recorded => absurd rfl recorded, nofun⟩
    · exact ⟨rfl, nofun, fun recorded => absurd rfl recorded, nofun⟩

end ScriptRegistry

theorem Script.Sound.inherit
    {key : String}
    {script : Script}
    (sound : script.Sound key)
    (old : Script) :
    (old.inherit script).Sound key := by
  obtain ⟨named, programNamed, recorded, compiled⟩ := sound
  unfold Script.inherit
  dsimp only
  split_ifs
  · exact ⟨named, programNamed, recorded, nofun⟩
  · exact ⟨named, programNamed, recorded, compiled⟩
  · exact ⟨named, programNamed, recorded, compiled⟩

namespace ScriptRegistry

variable {registry : ScriptRegistry} {key : String}

theorem sound_reload (registry : ScriptRegistry) (files : List ScriptFile) :
    (registry.reload files).Sound := by
  unfold reload
  refine List.foldlRecOn files _ (motive := fun found : StringMap Script => ∀ key script,
    found.lookup key = some script → script.Sound key) (by simp) ?_
  intro found sound file _ key script present
  dsimp only at present
  rw [StringMap.lookup_insert_ite] at present
  split_ifs at present with same
  · subst same
    cases present
    split
    · exact sound_loadFile registry file
    · exact (sound_loadFile registry file).inherit _
  · exact sound key script present

variable {op : RegistryOp}

/-- The methods other than `Reload` leave alone what scripts have from their files. -/
theorem lookup_apply_origin
    (registry : ScriptRegistry)
    (changes : ∀ files, op ≠ .reload files)
    (key : String) :
    ((registry.apply op).scripts.lookup key).map Script.origin =
      (registry.scripts.lookup key).map Script.origin := by
  have touched : ∀ target change bumps, (∀ script, (change script).origin = script.origin) →
      ((registry.touch target change bumps).scripts.lookup key).map Script.origin =
        (registry.scripts.lookup key).map Script.origin := by
    intro target change bumps kept
    rw [lookup_touch]
    split_ifs with same
    · rw [same, Option.map_map]
      exact congrArg (Option.map · _) (funext kept)
    · rfl
  cases op with
  | reload files => exact absurd rfl (changes files)
  | markFailed target reason => exact touched _ _ _ fun _ => rfl
  | setMeta target declared => exact touched _ _ _ fun _ => rfl
  | recordResult target failure now =>
      refine touched _ _ _ fun script => ?_
      unfold Script.recorded
      split
      · rfl
      · dsimp only
        split_ifs <;> rfl
  | setEnabled target enabled =>
      refine touched _ _ _ fun script => ?_
      unfold Script.switched
      split_ifs <;> rfl

theorem lookup_apply_code
    (registry : ScriptRegistry)
    (changes : ∀ files, op ≠ .reload files)
    (key : String) :
    ((registry.apply op).scripts.lookup key).map Script.code =
      (registry.scripts.lookup key).map Script.code := by
  have same := congrArg (Option.map Prod.snd) (registry.lookup_apply_origin changes key)
  rw [Option.map_map, Option.map_map] at same
  exact same

theorem lookup_apply
    {script : Script}
    (changes : ∀ files, op ≠ .reload files)
    (found : registry.scripts.lookup key = some script) :
    ∃ after, (registry.apply op).scripts.lookup key = some after ∧ after.code = script.code := by
  have same := registry.lookup_apply_code changes key
  rw [found] at same
  exact Option.map_eq_some_iff.mp same

theorem Has.apply
    {program : Program}
    (has : registry.Has program)
    (changes : ∀ files, op ≠ .reload files) :
    (registry.apply op).Has program := by
  obtain ⟨key, script, found, compiled⟩ := has
  obtain ⟨after, present, same⟩ := lookup_apply changes found
  exact ⟨key, after, present, (congrArg Prod.snd same).trans compiled⟩

/-- A method that makes no script pending. -/
def NoNewPending (before after : ScriptRegistry) : Prop :=
  ∀ key script, after.scripts.lookup key = some script → script.Pending →
    ∃ old, before.scripts.lookup key = some old ∧ old.Pending

omit [ScriptHost] in
theorem noNewPending_touch
    {change : Script → Script}
    {bumps : Script → Bool}
    (kept : ∀ script, registry.scripts.lookup key = some script →
      (change script).Pending → script.Pending) :
    NoNewPending registry (registry.touch key change bumps) := by
  intro other script found pending
  rw [lookup_touch] at found
  split_ifs at found with same
  · subst same
    obtain ⟨before, present, rfl⟩ := Option.map_eq_some_iff.mp found
    exact ⟨before, present, kept before present pending⟩
  · exact ⟨script, found, pending⟩

/-! ### One method at a time -/

theorem Sound.recordResult
    (sound : registry.Sound)
    (key : String)
    (failure : Option String)
    (now : Time) :
    (registry.recordResult key failure now).Sound := by
  refine sound.touch fun script _ before => ?_
  obtain ⟨named, programNamed, recorded, compiled⟩ := before
  unfold Script.recorded
  split
  · exact ⟨named, programNamed, recorded, compiled⟩
  · dsimp only
    split_ifs
    · exact ⟨named, programNamed, recorded, nofun⟩
    · exact ⟨named, programNamed, recorded, compiled⟩

omit [ScriptHost] in
theorem noNewPending_recordResult
    (registry : ScriptRegistry)
    (key : String)
    (failure : Option String)
    (now : Time) :
    NoNewPending registry (registry.recordResult key failure now) := by
  refine noNewPending_touch fun script _ pending => ?_
  unfold Script.recorded at pending
  split at pending
  · exact pending
  · dsimp only at pending
    split_ifs at pending
    · cases pending.1
    · exact pending

theorem Sound.setEnabled
    (sound : registry.Sound)
    (key : String)
    (enabled : Bool) :
    (registry.setEnabled key enabled).Sound := by
  refine sound.touch fun script _ before => ?_
  obtain ⟨named, programNamed, recorded, compiled⟩ := before
  unfold Script.switched
  split_ifs with switches
  · simp only [Script.switches, Bool.and_eq_true] at switches
    exact ⟨named, programNamed, recorded, fun _ => switches.1⟩
  · exact ⟨named, programNamed, recorded, nofun⟩
  · exact ⟨named, programNamed, recorded, compiled⟩

omit [ScriptHost] in
theorem noNewPending_setEnabled
    {enabled : Bool}
    (known : enabled = true → ∀ script, registry.scripts.lookup key = some script →
      script.version ≠ "") :
    NoNewPending registry (registry.setEnabled key enabled) := by
  refine noNewPending_touch fun script found pending => ?_
  unfold Script.switched at pending
  split_ifs at pending with switches on
  · exact absurd pending.2 (known on script found)
  · cases pending.1
  · exact pending

theorem Sound.markFailed (sound : registry.Sound) (key reason : String) :
    (registry.markFailed key reason).Sound :=
  sound.touch fun _ _ before => ⟨before.named, before.programNamed, before.recorded, nofun⟩

theorem Sound.setMeta
    {script : Script}
    {program : Program}
    {declared : ScriptMeta}
    (sound : registry.Sound)
    (found : registry.scripts.lookup key = some script)
    (compiled : script.program = some program)
    (declares : ScriptHost.declared program.source = some declared)
    (valid : metaProblem script.kind declared = none) :
    (registry.setMeta key declared).Sound := by
  refine sound.touch fun other present before => ?_
  rw [found, Option.some.injEq] at present
  subst present
  exact ⟨before.named, before.programNamed,
    fun _ => ⟨program, declared, compiled, declares, valid, rfl, rfl, rfl⟩, before.compiled⟩

end ScriptRegistry

end InfraObserver
