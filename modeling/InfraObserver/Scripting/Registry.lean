import InfraObserver.Domain.Platform

/-!
# The script registry

The registry holds the scripts found on disk, with their status and bookkeeping, and
a counter of generations by which others learn that the set of active programs may
have changed. Each of its methods holds the lock from start to end.

What the interpreter makes of a source is left to a class: its digest, the names it
exports and what its `meta` says.
-/

namespace InfraObserver

/-! ## Scripts -/

/-- An extension point, named after the directory of its scripts. -/
inductive ScriptKind
  | transforms
  | enrichers
  | automation
  | integrations
  | collectors
  deriving DecidableEq

namespace ScriptKind

/-- The directory. -/
def name : ScriptKind → String
  | .transforms => "transforms"
  | .enrichers => "enrichers"
  | .automation => "automation"
  | .integrations => "integrations"
  | .collectors => "collectors"

/-- The name without its last `s`. -/
def singular : ScriptKind → String
  | .transforms => "transform"
  | .enrichers => "enricher"
  | .automation => "automation"
  | .integrations => "integration"
  | .collectors => "collector"

/-- `Contract`: the function that a script of the kind exports. -/
def contract : ScriptKind → String
  | .transforms => "transform"
  | .enrichers => "enrich"
  | .automation => "proposeAutomation"
  | .integrations => "handleEvent"
  | .collectors => "collect"

end ScriptKind

/-- What `meta` of a script declares. -/
structure ScriptMeta where
  version : String
  description : String
  metrics : List String
  events : List String
  /-- `min_severity`; the empty text is `none`. -/
  minSeverity : Option Severity
  deriving DecidableEq

/-- What the interpreter makes of a source. -/
class ScriptHost where
  hash : String → String
  /-- `Compile`: the names that a source exports. -/
  compile : String → Except String (List String)
  declared : String → Option ScriptMeta

/-- A compiled script. -/
structure Program where
  id : String
  source : String
  exports : List String
  deriving DecidableEq

/-- Status of a script. -/
inductive ScriptStatus
  | active
  | disabled
  | quarantined
  | failed
  deriving DecidableEq

/-- A discovered script and its bookkeeping. -/
structure Script where
  key : String
  kind : ScriptKind
  id : String
  version : String
  description : String
  metrics : List String
  events : List String
  minSeverity : Option Severity
  hash : String
  status : ScriptStatus
  reason : String
  program : Option Program
  consecutiveFailures : ℕ
  totalFailures : ℕ
  totalCalls : ℕ
  lastError : String
  lastFailureAt : Option Time
  quarantinedAt : Option Time
  deriving DecidableEq

/-- A script file, with what reading it gives. -/
structure ScriptFile where
  kind : ScriptKind
  id : String
  content : Except String String

/-- The key of the script in a file. -/
def ScriptFile.key (file : ScriptFile) : String := file.kind.name ++ "/" ++ file.id

/-- The file of a key: where several directories have one, the last is taken. -/
def fileOf (files : List ScriptFile) (key : String) : Option ScriptFile :=
  files.reverse.find? fun file => file.key = key

namespace Script

/-- The program that workers load for the script. -/
def running (script : Script) : Option Program :=
  if script.status = .active then script.program else none

/-- The script as it was found, before its source is read. -/
def found (kind : ScriptKind) (id : String) : Script where
  key := kind.name ++ "/" ++ id
  kind := kind
  id := id
  version := ""
  description := ""
  metrics := []
  events := []
  minSeverity := none
  hash := ""
  status := .active
  reason := ""
  program := none
  consecutiveFailures := 0
  totalFailures := 0
  totalCalls := 0
  lastError := ""
  lastFailureAt := none
  quarantinedAt := none

/-- `Reload` for a script whose source is unchanged: it keeps the bookkeeping and a
quarantine. -/
def inherit (old script : Script) : Script :=
  if old.hash = script.hash ∧ script.status = .active then
    let kept :=
      { script with
        consecutiveFailures := old.consecutiveFailures
        totalFailures := old.totalFailures
        totalCalls := old.totalCalls
        lastError := old.lastError
        lastFailureAt := old.lastFailureAt }
    if old.status = .quarantined then
      { kept with
        status := .quarantined
        reason := old.reason
        quarantinedAt := old.quarantinedAt }
    else kept
  else script

/-- `RecordResult` quarantines the script. -/
def quarantines (threshold : ℕ) (failure : Option String) (script : Script) : Bool :=
  failure.isSome && script.status = .active && threshold ≤ script.consecutiveFailures + 1

/-- `RecordResult` of a script. -/
def recorded (threshold : ℕ) (failure : Option String) (now : Time) (script : Script) : Script :=
  match failure with
  | none =>
      { script with
        totalCalls := script.totalCalls + 1
        consecutiveFailures := 0 }
  | some text =>
      let counted :=
        { script with
          totalCalls := script.totalCalls + 1
          totalFailures := script.totalFailures + 1
          consecutiveFailures := script.consecutiveFailures + 1
          lastError := text
          lastFailureAt := some now }
      if script.quarantines threshold failure then
        { counted with
          status := .quarantined
          reason := "quarantined after " ++ toString (script.consecutiveFailures + 1) ++
            " consecutive failures; last: " ++ text
          quarantinedAt := some now }
      else counted

/-- `SetEnabled` changes the status of the script. -/
def switches (enabled : Bool) (script : Script) : Bool :=
  script.program.isSome && (enabled != (script.status = .active : Bool))

/-- `SetEnabled` of a script. -/
def switched (enabled : Bool) (script : Script) : Script :=
  if script.switches enabled then
    if enabled then
      { script with
        status := .active
        reason := ""
        consecutiveFailures := 0 }
    else
      { script with
        status := .disabled
        reason := "disabled by operator" }
  else script

/-- `MarkFailed` of a script. -/
def markedFailed (reason : String) (script : Script) : Script :=
  { script with
    status := .failed
    reason := reason }

/-- `SetMeta` of a script. -/
def described (declared : ScriptMeta) (script : Script) : Script :=
  { script with
    version := declared.version
    description := declared.description
    metrics := declared.metrics
    events := declared.events
    minSeverity := declared.minSeverity }

end Script

/-- `Validate`. -/
def ScriptKind.validate [ScriptHost] (kind : ScriptKind) (id source : String) :
    Except String Program :=
  match ScriptHost.compile source with
  | .error text => .error text
  | .ok exports =>
      if kind.contract ∉ exports then
        .error ("a " ++ kind.singular ++ " script must export a function named " ++ kind.contract)
      else if "meta" ∉ exports then
        .error "script must export `const meta = \x7bversion: \"...\", description: \"...\"\x7d`"
      else .ok ⟨kind.name ++ "/" ++ id, source, exports⟩

/-! ## The registry -/

/-- `Registry`. -/
structure ScriptRegistry where
  enabled : ScriptKind → String → Bool
  threshold : ℕ
  scripts : StringMap Script
  gen : ℕ

namespace ScriptRegistry

/-- `New`. -/
def new (enabled : ScriptKind → String → Bool) (threshold : ℕ) : ScriptRegistry where
  enabled := enabled
  threshold := max threshold 1
  scripts := ∅
  gen := 0

variable (registry : ScriptRegistry)

/-- `loadFile`. -/
def loadFile [ScriptHost] (file : ScriptFile) : Script :=
  let found := Script.found file.kind file.id
  let enabled := registry.enabled file.kind file.id
  match file.content with
  | .error text =>
      { found with
        status := .failed
        reason := "read: " ++ text }
  | .ok source =>
      let hashed := { found with hash := ScriptHost.hash source }
      if enabled then
        match file.kind.validate file.id source with
        | .ok program => { hashed with program := some program }
        | .error text =>
            { hashed with
              status := .failed
              reason := text }
      else
        { hashed with
          status := .disabled
          reason := "disabled in configuration" }

/-- `Reload`, given the files that the scan has found. -/
def reload [ScriptHost] (files : List ScriptFile) : ScriptRegistry :=
  let found := files.foldl
    (fun found file =>
      let script := registry.loadFile file
      found.insert script.key
        (match registry.scripts.lookup script.key with
          | none => script
          | some old => old.inherit script))
    ∅
  { registry with
    scripts := found
    gen := registry.gen + 1 }

/-- A method that looks at one script and may change it. -/
def touch
    (key : String)
    (change : Script → Script)
    (bumps : Script → Bool) : ScriptRegistry :=
  match registry.scripts.lookup key with
  | none => registry
  | some script =>
      { registry with
        scripts := registry.scripts.insert key (change script)
        gen := if bumps script then registry.gen + 1 else registry.gen }

/-- `MarkFailed`. -/
def markFailed (key reason : String) : ScriptRegistry :=
  registry.touch key (Script.markedFailed reason) fun _ => true

/-- `SetMeta`. -/
def setMeta (key : String) (declared : ScriptMeta) : ScriptRegistry :=
  registry.touch key (Script.described declared) fun _ => false

/-- `RecordResult`. -/
def recordResult
    (key : String)
    (failure : Option String)
    (now : Time) : ScriptRegistry :=
  registry.touch key (Script.recorded registry.threshold failure now)
    (Script.quarantines registry.threshold failure)

/-- `SetEnabled`. -/
def setEnabled (key : String) (enabled : Bool) : ScriptRegistry :=
  registry.touch key (Script.switched enabled) (Script.switches enabled)

/-- `Programs`: the programs of the active scripts, in key order. -/
def programs : List Program :=
  registry.scripts.sortedKeys.filterMap fun key =>
    (registry.scripts.lookup key).bind Script.running

/-- `ByKind`: the active scripts of a kind, in key order. -/
def byKind (kind : ScriptKind) : List Script :=
  registry.scripts.sortedKeys.filterMap fun key =>
    (registry.scripts.lookup key).filter fun script =>
      script.kind = kind ∧ script.status = .active

/-- `List`: every script, in key order. -/
def list : List Script :=
  registry.scripts.sortedKeys.filterMap registry.scripts.lookup

/-- `Get`. -/
def get (key : String) : Option Script :=
  registry.scripts.lookup key

/-! ## What the methods do -/

variable {registry} {key : String}

theorem lookup_touch
    (registry : ScriptRegistry)
    (key : String)
    (change : Script → Script)
    (bumps : Script → Bool)
    (other : String) :
    (registry.touch key change bumps).scripts.lookup other =
      if other = key then (registry.scripts.lookup key).map change
      else registry.scripts.lookup other := by
  unfold touch
  split
  · next missing =>
      split_ifs with same
      · rw [same, missing]
        rfl
      · rfl
  · next script present =>
      rw [StringMap.lookup_insert_ite, present]
      rfl

theorem lookup_touch_self
    {change : Script → Script}
    {bumps : Script → Bool}
    {script : Script}
    (found : (registry.touch key change bumps).scripts.lookup key = some script) :
    ∃ before, registry.scripts.lookup key = some before ∧ change before = script := by
  rw [lookup_touch, if_pos rfl] at found
  exact Option.map_eq_some_iff.mp found

theorem gen_le_touch (change : Script → Script) (bumps : Script → Bool) :
    registry.gen ≤ (registry.touch key change bumps).gen := by
  unfold touch
  split
  · exact le_rfl
  · dsimp only
    split_ifs <;> omega

theorem programs_touch
    {change : Script → Script}
    {bumps : Script → Bool}
    (quiet : ∀ script, bumps script = false → (change script).running = script.running)
    (same : (registry.touch key change bumps).gen = registry.gen) :
    (registry.touch key change bumps).programs = registry.programs := by
  have present : ∀ other,
      ((registry.touch key change bumps).scripts.lookup other).isSome =
        (registry.scripts.lookup other).isSome := by
    intro other
    rw [lookup_touch]
    split_ifs with here
    · rw [here, Option.isSome_map]
    · rfl
  unfold programs
  rw [StringMap.sortedKeys_congr present]
  refine List.filterMap_congr fun other _ => ?_
  rw [lookup_touch]
  split_ifs with here
  · subst here
    cases found : registry.scripts.lookup other with
    | none => rfl
    | some script =>
        refine quiet script ?_
        simp only [touch, found] at same
        by_contra bumped
        rw [if_pos (by simpa using bumped)] at same
        omega
  · rfl

theorem loadFile_key [ScriptHost] (registry : ScriptRegistry) (file : ScriptFile) :
    (registry.loadFile file).key = file.key := by
  unfold loadFile
  dsimp only
  split
  · rfl
  · split_ifs
    · split <;> rfl
    · rfl

/-- After a reload, the script of a key is the one in the file of the key, with what it
inherits. -/
theorem lookup_reload [ScriptHost]
    (registry : ScriptRegistry)
    (files : List ScriptFile)
    (key : String) :
    (registry.reload files).scripts.lookup key =
      (fileOf files key).map fun file =>
        match registry.scripts.lookup key with
        | none => registry.loadFile file
        | some old => old.inherit (registry.loadFile file) := by
  unfold reload fileOf
  dsimp only
  induction files using List.reverseRecOn with
  | nil => rfl
  | append_singleton files file ih =>
      rw [List.foldl_append, List.foldl_cons, List.foldl_nil, StringMap.lookup_insert_ite,
        List.reverse_append, List.reverse_singleton, List.singleton_append, List.find?_cons,
        loadFile_key]
      by_cases same : key = file.key
      · subst same
        simp
      · simp [same, Ne.symm same, ih]

theorem mem_programs {program : Program} :
    program ∈ registry.programs ↔
      ∃ key script, registry.scripts.lookup key = some script ∧
        script.status = .active ∧ script.program = some program := by
  simp only [programs, List.mem_filterMap, StringMap.mem_sortedKeys, Option.bind_eq_some_iff,
    Script.running, Option.ite_none_right_eq_some]
  constructor
  · rintro ⟨key, -, script, found, active⟩
    exact ⟨key, script, found, active⟩
  · rintro ⟨key, script, found, active⟩
    exact ⟨key, Finmap.mem_of_lookup_eq_some found, script, found, active⟩

theorem mem_byKind {kind : ScriptKind} {script : Script} :
    script ∈ registry.byKind kind ↔
      ∃ key, registry.scripts.lookup key = some script ∧ script.kind = kind ∧
        script.status = .active := by
  simp only [byKind, List.mem_filterMap, StringMap.mem_sortedKeys, Option.filter_eq_some_iff,
    decide_eq_true_eq]
  constructor
  · rintro ⟨key, -, found, active⟩
    exact ⟨key, found, active⟩
  · rintro ⟨key, found, active⟩
    exact ⟨key, Finmap.mem_of_lookup_eq_some found, found, active⟩

theorem mem_list {script : Script} :
    script ∈ registry.list ↔ ∃ key, registry.scripts.lookup key = some script := by
  simp only [list, List.mem_filterMap, StringMap.mem_sortedKeys]
  constructor
  · rintro ⟨key, -, found⟩
    exact ⟨key, found⟩
  · rintro ⟨key, found⟩
    exact ⟨key, Finmap.mem_of_lookup_eq_some found, found⟩

end ScriptRegistry

/-- A method that changes the registry. -/
inductive RegistryOp
  | reload (files : List ScriptFile)
  | markFailed (key reason : String)
  | setMeta (key : String) (declared : ScriptMeta)
  | recordResult (key : String) (failure : Option String) (now : Time)
  | setEnabled (key : String) (enabled : Bool)

namespace ScriptRegistry

variable [ScriptHost] {registry : ScriptRegistry}

/-- The registry after a method. -/
def apply (registry : ScriptRegistry) : RegistryOp → ScriptRegistry
  | .reload files => registry.reload files
  | .markFailed key reason => registry.markFailed key reason
  | .setMeta key declared => registry.setMeta key declared
  | .recordResult key failure now => registry.recordResult key failure now
  | .setEnabled key enabled => registry.setEnabled key enabled

theorem gen_le_apply (op : RegistryOp) : registry.gen ≤ (registry.apply op).gen := by
  cases op with
  | reload files => exact Nat.le_succ _
  | _ => exact gen_le_touch ..

/-- Whatever changes the active programs starts a new generation. -/
theorem programs_apply
    {op : RegistryOp}
    (same : (registry.apply op).gen = registry.gen) :
    (registry.apply op).programs = registry.programs := by
  cases op with
  | reload files => exact absurd same (Nat.succ_ne_self _)
  | markFailed key reason => exact programs_touch (by simp) same
  | setMeta key declared => exact programs_touch (fun script _ => rfl) same
  | recordResult key failure now =>
      refine programs_touch (fun script quiet => ?_) same
      cases failure with
      | none => rfl
      | some text =>
          simp only [Script.recorded, quiet]
          rfl
  | setEnabled key enabled =>
      refine programs_touch (fun script quiet => ?_) same
      simp only [Script.switched, quiet]
      rfl

end ScriptRegistry

end InfraObserver
