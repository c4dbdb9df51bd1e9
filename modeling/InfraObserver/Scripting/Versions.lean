import InfraObserver.Scripting.Calls

/-!
# Versions under calls

Between `Registry.Get` and `RecordResult` a call holds a version. As long as no reload
changes a version that is held, it is the current one until the outcome is recorded, and
no other program is run for the call.
-/

namespace InfraObserver

variable {count : ℕ}

/-! ## Versions of the registry -/

namespace Script

/-- A program has the key of its script, and a script that was ever active has one. -/
structure Loaded (key : String) (script : Script) : Prop where
  named : ∀ program, script.program = some program → program.id = key
  compiled : script.status = .active ∨ script.status = .quarantined → script.program.isSome = true

variable {script : Script} {key : String}

theorem Loaded.inherit
    (loaded : script.Loaded key)
    (old : Script) :
    (old.inherit script).Loaded key := by
  obtain ⟨named, compiled⟩ := loaded
  unfold Script.inherit
  dsimp only
  split_ifs with same
  · exact ⟨named, fun _ => compiled (Or.inl same.2)⟩
  · exact ⟨named, compiled⟩
  · exact ⟨named, compiled⟩

theorem Loaded.recorded
    (loaded : script.Loaded key)
    (threshold : ℕ)
    (failure : Option String)
    (now : Time) :
    (script.recorded threshold failure now).Loaded key := by
  obtain ⟨named, compiled⟩ := loaded
  unfold Script.recorded
  split
  · exact ⟨named, compiled⟩
  · dsimp only
    split_ifs with reached
    · simp only [Script.quarantines, Bool.and_eq_true, decide_eq_true_eq] at reached
      exact ⟨named, fun _ => compiled (Or.inl reached.1.2)⟩
    · exact ⟨named, compiled⟩

theorem Loaded.switched
    (loaded : script.Loaded key)
    (enabled : Bool) :
    (script.switched enabled).Loaded key := by
  obtain ⟨named, compiled⟩ := loaded
  unfold Script.switched
  split_ifs with switches
  · simp only [Script.switches, Bool.and_eq_true] at switches
    exact ⟨named, fun _ => switches.1⟩
  · exact ⟨named, by simp⟩
  · exact ⟨named, compiled⟩

end Script

namespace ScriptRegistry

variable {registry : ScriptRegistry} {key : String}

/-- Every script is loaded under its key. -/
def Loaded (registry : ScriptRegistry) : Prop :=
  ∀ key script, registry.scripts.lookup key = some script → script.Loaded key

theorem version_eq_some {version : Program} :
    registry.version key = some version ↔
      ∃ script, registry.scripts.lookup key = some script ∧ script.program = some version :=
  Option.bind_eq_some_iff

theorem Loaded.touch
    (loaded : registry.Loaded)
    {change : Script → Script}
    {bumps : Script → Bool}
    (kept : ∀ script, script.Loaded key → (change script).Loaded key) :
    (registry.touch key change bumps).Loaded := by
  intro other script found
  rw [lookup_touch] at found
  split_ifs at found with same
  · subst same
    obtain ⟨before, present, rfl⟩ := Option.map_eq_some_iff.mp found
    exact kept before (loaded other before present)
  · exact loaded other script found

theorem Loaded.version_of_mem
    {program : Program}
    (loaded : registry.Loaded)
    (member : program ∈ registry.programs) :
    registry.version program.id = some program := by
  obtain ⟨key, script, found, -, compiled⟩ := mem_programs.mp member
  rw [(loaded key script found).named program compiled]
  exact version_eq_some.mpr ⟨script, found, compiled⟩

theorem Loaded.new (enabled : ScriptKind → String → Bool) (threshold : ℕ) :
    (ScriptRegistry.new enabled threshold).Loaded := by
  intro key script found
  simp [ScriptRegistry.new] at found

variable [ScriptHost]

theorem loadFile_status (registry : ScriptRegistry) (file : ScriptFile) :
    (registry.loadFile file).status ≠ .quarantined := by
  unfold loadFile
  dsimp only
  split
  · nofun
  · split_ifs
    · split <;> nofun
    · nofun

theorem loaded_loadFile (registry : ScriptRegistry) (file : ScriptFile) :
    (registry.loadFile file).Loaded (registry.loadFile file).key := by
  refine ⟨(sound_loadFile registry file).programNamed, fun status => ?_⟩
  rcases status with active | quarantined
  · exact (sound_loadFile registry file).compiled active
  · exact absurd quarantined (loadFile_status registry file)

theorem exists_file_of_reload
    {files : List ScriptFile}
    {script : Script}
    (found : (registry.reload files).scripts.lookup key = some script) :
    ∃ file ∈ files, (registry.loadFile file).key = key ∧
      script = match registry.scripts.lookup key with
        | none => registry.loadFile file
        | some old => old.inherit (registry.loadFile file) := by
  rw [lookup_reload] at found
  obtain ⟨file, chosen, built⟩ := Option.map_eq_some_iff.mp found
  refine ⟨file, List.mem_reverse.mp (List.mem_of_find?_eq_some chosen), ?_, built.symm⟩
  rw [loadFile_key]
  simpa using List.find?_some chosen

theorem Loaded.apply (loaded : registry.Loaded) (op : RegistryOp) :
    (registry.apply op).Loaded := by
  cases op with
  | reload files =>
      intro key script found
      obtain ⟨file, -, rfl, rfl⟩ := exists_file_of_reload found
      split
      · exact loaded_loadFile registry file
      · exact (loaded_loadFile registry file).inherit _
  | markFailed key reason =>
      exact loaded.touch fun script before => ⟨before.named, by simp [Script.markedFailed]⟩
  | setMeta key declared => exact loaded.touch fun script before => ⟨before.named, before.compiled⟩
  | recordResult key failure now => exact loaded.touch fun script before => before.recorded ..
  | setEnabled key enabled => exact loaded.touch fun script before => before.switched enabled

theorem version_apply
    {op : RegistryOp}
    (changes : ∀ files, op ≠ .reload files)
    (key : String) :
    (registry.apply op).version key = registry.version key := by
  have same := registry.lookup_apply_code changes key
  have programs := congrArg (Option.map Prod.snd) same
  simp only [Option.map_map] at programs
  have bound : ∀ found : Option Script,
      found.bind Script.program = (found.map (Prod.snd ∘ Script.code)).join := by
    rintro (_ | script) <;> rfl
  rw [version, version, bound, bound, programs]

end ScriptRegistry

namespace Calls

variable {calls after : Calls count} {action : CallAction count}

/-! ## Calls and workers -/

/-- A worker serves the call whose job it has. -/
def Served (calls : List (ScriptCall count)) (index : Fin count) (job : Job) : Prop :=
  ∃ fn version ran, calls[job.caller]? = some ⟨job.scriptID, fn, .served version index ran⟩

/-- What holds of a worker: it serves the call whose job it has, and is ready to run the
version that the registry has. -/
structure WorkerCurrent
    (registry : ScriptRegistry)
    (calls : List (ScriptCall count))
    (index : Fin count)
    (worker : PoolWorker) : Prop where
  coherent : worker.Coherent registry
  serves : ∀ job, worker.phase.job = some job → Served calls index job
  ready : ∀ job, worker.phase = .ready job → ∀ program,
    worker.exports.lookup job.scriptID = some program → registry.version job.scriptID = some program

/-- What holds between the steps. -/
structure Current (calls : Calls count) : Prop where
  loaded : calls.registry.Loaded
  versions : ∀ call ∈ calls.calls, ∀ version, call.stage.version = some version →
    calls.registry.version call.key = some version
  ran : ∀ call ∈ calls.calls, ∀ program, call.stage.ran = some program →
    call.stage.version = some program
  workers : ∀ index, WorkerCurrent calls.registry calls.calls index (calls.pool.worker index)

theorem Current.coherent (current : calls.Current) : calls.pool.Coherent :=
  fun index => (current.workers index).coherent

theorem Current.new (enabled : ScriptKind → String → Bool) (threshold : ℕ) :
    (Calls.new enabled threshold : Calls count).Current where
  loaded := .new enabled threshold
  versions _ member := by simp [Calls.new] at member
  ran _ member := by simp [Calls.new] at member
  workers _ := ⟨.initial _, (fun _ busy => by cases busy), fun _ ready => by cases ready⟩

section

variable {index : ℕ} {old next : ScriptCall count} {pool : Pool count}

theorem Served.set
    {list : List (ScriptCall count)}
    {worker : Fin count}
    {job : Job}
    (serves : Served list worker job)
    (found : list[index]? = some old)
    (different : ∀ version ran, old.stage ≠ .served version worker ran) :
    Served (list.set index next) worker job := by
  obtain ⟨fn, version, ran, present⟩ := serves
  have elsewhere : index ≠ job.caller := by
    rintro rfl
    rw [found, Option.some.injEq] at present
    subst present
    exact different version ran rfl
  exact ⟨fn, version, ran, (List.getElem?_set_ne elsewhere).trans present⟩

theorem Current.moved
    (current : calls.Current)
    (version : ∀ version, next.stage.version = some version →
      calls.registry.version next.key = some version)
    (ran : ∀ program, next.stage.ran = some program → next.stage.version = some program)
    (registry : pool.registry = calls.registry)
    (workers : ∀ worker, WorkerCurrent calls.registry (calls.calls.set index next) worker
      (pool.worker worker)) :
    (⟨pool, calls.calls.set index next⟩ : Calls count).Current where
  loaded := by
    rw [Calls.registry, registry]
    exact current.loaded
  versions call member := by
    rw [Calls.registry, registry]
    rcases List.mem_or_eq_of_mem_set member with before | rfl
    · exact current.versions call before
    · exact version
  ran call member := by
    rcases List.mem_or_eq_of_mem_set member with before | rfl
    · exact current.ran call before
    · exact ran
  workers := by rwa [Calls.registry, registry]

theorem Current.withCall
    (current : calls.Current)
    (found : calls.calls[index]? = some old)
    (free : old.stage.isServed = false)
    (version : ∀ version, next.stage.version = some version →
      calls.registry.version next.key = some version)
    (ran : ∀ program, next.stage.ran = some program → next.stage.version = some program) :
    (calls.withCall index next).Current := by
  refine current.moved version ran rfl fun worker =>
    { (current.workers worker) with serves := fun job serves => ?_ }
  refine ((current.workers worker).serves job serves).set found fun _ _ served => ?_
  simp [served, CallStage.isServed] at free

end

theorem Current.call (current : calls.Current) (key fn : String) :
    ({ calls with calls := calls.calls ++ [⟨key, fn, .looking⟩] } : Calls count).Current :=
  { current with
    versions := List.forall_mem_append.mpr ⟨current.versions, by simp [CallStage.version]⟩
    ran := List.forall_mem_append.mpr ⟨current.ran, by simp [CallStage.ran]⟩
    workers := fun index =>
      { (current.workers index) with
        serves := fun job serves => by
          obtain ⟨fn, version, ran, present⟩ := (current.workers index).serves job serves
          exact ⟨fn, version, ran, List.getElem?_append_left
            (List.getElem?_eq_some_iff.mp present).1 ▸ present⟩ } }

variable {worker : Fin count}

section

variable (current : calls.Current)
include current

theorem Current.withWorker
    {next : PoolWorker}
    (coherent : next.Coherent calls.registry)
    (same : next.phase.job = (calls.pool.worker worker).phase.job)
    (ready : ∀ job, next.phase = .ready job → next.loaded = calls.registry.programs) :
    ({ calls with pool := calls.pool.withWorker worker next } : Calls count).Current := by
  refine { current with
    workers := Pool.forall_withWorker ⟨coherent, fun job serves => ?_, ?_⟩
      fun other _ => current.workers other }
  · exact (current.workers worker).serves job (same ▸ serves)
  · intro job isReady program exported
    obtain ⟨listed, named⟩ := coherent.exported _ _ exported
    rw [ready job isReady] at listed
    rw [← named]
    exact current.loaded.version_of_mem listed

theorem Current.take
    {index : ℕ}
    {key fn : String}
    {version : Program}
    (found : calls.calls[index]? = some ⟨key, fn, .queueing version⟩)
    (idle : (calls.pool.worker worker).phase = .idle) :
    ({ calls.withCall index ⟨key, fn, .served version worker none⟩ with
      pool := calls.pool.withWorker worker
        { calls.pool.worker worker with phase := .took ⟨index, version.id, fn⟩ } } :
      Calls count).Current := by
  have present := current.versions _ (List.mem_of_getElem? found) version rfl
  have named : version.id = key := by
    obtain ⟨script, stored, compiled⟩ := ScriptRegistry.version_eq_some.mp present
    exact (current.loaded key script stored).named version compiled
  refine current.moved (fun other same => ?_) nofun rfl (Pool.forall_withWorker ?_ fun other _ =>
    { (current.workers other) with serves := fun job serves => ?_ })
  · cases same
    exact present
  · refine ⟨(current.coherent worker).turns (.took _ idle), fun job serves => ?_, nofun⟩
    cases serves
    have within := (List.getElem?_eq_some_iff.mp found).1
    exact ⟨fn, version, none, named ▸ List.getElem?_set_self within⟩
  · refine ((current.workers other).serves job serves).set found fun _ _ same => ?_
    cases same

theorem Current.started
    {job : Job}
    {program : Program}
    (phase : (calls.pool.worker worker).phase.job = some job)
    (version : calls.registry.version job.scriptID = some program) :
    (calls.receive [(worker, .ran job program)]).Current := by
  obtain ⟨fn, used, ran, found⟩ := (current.workers worker).serves job phase
  have known := current.versions _ (List.mem_of_getElem? found) used rfl
  simp only [receive, found]
  refine current.moved (fun other same => ?_) (fun other same => ?_) rfl fun other =>
    { (current.workers other) with serves := fun served serves => ?_ }
  · cases same
    exact known
  · cases same
    exact known.symm.trans version
  · obtain ⟨fn', used', ran', present⟩ := (current.workers other).serves served serves
    by_cases here : job.caller = served.caller
    · rw [← here, found, Option.some.injEq, ScriptCall.mk.injEq, CallStage.served.injEq] at present
      obtain ⟨sameScript, -, -, rfl, -⟩ := present
      have within := (List.getElem?_eq_some_iff.mp found).1
      exact ⟨fn, used, some program, by simp [← here, within, sameScript]⟩
    · exact ⟨fn', used', ran', (List.getElem?_set_ne here).trans present⟩

theorem Current.replied
    {job : Job}
    {result : Except CallError String}
    (phase : (calls.pool.worker worker).phase = .replying job result) :
    (({ calls with
        pool := calls.pool.withWorker worker
          { calls.pool.worker worker with phase := .idle } } : Calls count).receive
      [(worker, .replied job result)]).Current := by
  obtain ⟨fn, used, ran, found⟩ := (current.workers worker).serves job (by rw [phase]; rfl)
  have member := List.mem_of_getElem? found
  simp only [receive, found]
  refine current.moved (current.versions ⟨_, _, .served used worker ran⟩ member)
    (current.ran ⟨_, _, .served used worker ran⟩ member) rfl
    (Pool.forall_withWorker ?_ fun other here =>
      { (current.workers other) with serves := fun served serves => ?_ })
  · exact ⟨(current.coherent worker).turns (.replied job result phase), nofun, nofun⟩
  · refine ((current.workers other).serves served serves).set found fun _ _ same => ?_
    cases same
    exact here rfl

theorem Current.turn
    {turn : PoolTurn}
    {next : PoolWorker}
    {shown : List PoolEvent}
    (own : ∀ job, turn ≠ .take job)
    (turns : PoolWorker.Turns calls.registry (calls.pool.worker worker) turn next shown) :
    (({ calls with pool := calls.pool.withWorker worker next } : Calls count).receive
      (shown.map fun event => (worker, event))).Current := by
  have coherent := (current.coherent worker).turns turns
  cases turns with
  | took job idle => exact absurd rfl (own job)
  | outdated job found =>
      exact current.withWorker coherent (by rw [found]; rfl) fun _ ready => by cases ready
  | valid job found built same =>
      exact current.withWorker coherent (by rw [found]; rfl) fun _ _ =>
        (current.coherent worker).fresh built (by simp [PoolWorker.isBuilding, found]) same
  | renewed job found =>
      exact current.withWorker coherent (by rw [found]; rfl) fun _ ready => by cases ready
  | loaded outcome job next found gen programs phase exported =>
      exact current.withWorker coherent (by rw [found, phase]; rfl) fun _ _ => programs
  | started callable job program found exported =>
      have moved := current.withWorker coherent (by rw [found]; rfl) fun _ ready => by cases ready
      exact moved.started (by rw [Pool.withWorker_self]; rfl)
        ((current.workers worker).ready job found program exported)
  | refused callable job failure found =>
      exact current.withWorker coherent (by rw [found]; rfl) fun _ ready => by cases ready
  | finished outcome job found =>
      exact current.withWorker coherent (by rw [found]; rfl) fun _ ready => by cases ready
  | replied job result found => exact current.replied found

end

variable [ScriptHost]

theorem Current.withOp
    {op : RegistryOp}
    (current : calls.Current)
    (kept : ∀ call ∈ calls.calls, call.stage.version.isSome = true →
      (calls.registry.apply op).version call.key = calls.registry.version call.key) :
    (calls.withOp op).Current where
  loaded := current.loaded.apply op
  versions call member version found :=
    (kept call member (by rw [found]; rfl)).trans (current.versions call member version found)
  ran := current.ran
  workers index :=
    { coherent := (current.coherent index).apply op
      serves := (current.workers index).serves
      ready := fun job ready program exported => by
        obtain ⟨fn, version, ran, found⟩ := (current.workers index).serves job (by
          change (calls.pool.worker index).phase = .ready job at ready
          rw [ready]
          rfl)
        exact (kept _ (List.mem_of_getElem? found) rfl).trans
          ((current.workers index).ready job ready program exported) }

/-! ## No version changes under a call -/

/-- A reload gives a script the bookkeeping of its predecessor, which it does for equal
digests, only if the source is the same. -/
def SameSource (registry : ScriptRegistry) (files : List ScriptFile) : Prop :=
  ∀ file ∈ files, ∀ old, registry.scripts.lookup (registry.loadFile file).key = some old →
    old.hash = (registry.loadFile file).hash → (registry.loadFile file).status = .active →
      old.program = (registry.loadFile file).program

/-- A reload changes no version that a call has looked up and not yet recorded an
outcome for. -/
def Undisturbed (calls : Calls count) : CallAction count → Prop
  | .registry (.reload files) =>
      SameSource calls.registry files ∧
        ∀ call ∈ calls.calls, call.stage.version.isSome = true →
          (calls.registry.reload files).version call.key = calls.registry.version call.key
  | _ => True

/-! ## Steps -/

/-- Everything one step can do. -/
inductive Moves (calls : Calls count) :
    CallAction count → Calls count → List CallEvent → Prop
  | operated (op : RegistryOp) (quiet : ∀ key failure now, op ≠ .recordResult key failure now) :
      Moves calls (.registry op) (calls.withOp op) (calls.registry.shown op)
  | called (key fn : String) :
      Moves calls (.call key fn)
        { calls with calls := calls.calls ++ [⟨key, fn, .looking⟩] } []
  | moved
      (action : CallAction count)
      (index : ℕ)
      (old next : ScriptCall count)
      (found : calls.calls[index]? = some old)
      (free : old.stage.isServed = false)
      (version : ∀ version, next.stage.version = some version →
        old.stage.version = some version ∧ next.key = old.key ∨
          calls.registry.version next.key = some version)
      (ran : next.stage.ran = none) :
      Moves calls action (calls.withCall index next) []
  | took
      (worker : Fin count)
      (index : ℕ)
      (key fn : String)
      (version : Program)
      (found : calls.calls[index]? = some ⟨key, fn, .queueing version⟩)
      (idle : (calls.pool.worker worker).phase = .idle) :
      Moves calls (.take worker index)
        { calls.withCall index ⟨key, fn, .served version worker none⟩ with
          pool := calls.pool.withWorker worker
            { calls.pool.worker worker with phase := .took ⟨index, version.id, fn⟩ } } []
  | turned
      (worker : Fin count)
      (turn : PoolTurn)
      (next : PoolWorker)
      (events : List PoolEvent)
      (own : ∀ job, turn ≠ .take job)
      (turns : PoolWorker.Turns calls.registry (calls.pool.worker worker) turn next events) :
      Moves calls (.turn worker turn)
        (({ calls with pool := calls.pool.withWorker worker next } : Calls count).receive
          (events.map fun event => (worker, event))) []
  | recorded
      (index : ℕ)
      (verdict : Option CallError)
      (now : Time)
      (key fn : String)
      (version : Program)
      (ran : Option Program)
      (result : Except CallError String)
      (failure : Option String)
      (found : calls.calls[index]? = some ⟨key, fn, .replied version ran result⟩) :
      Moves calls (.finish index verdict now)
        ((calls.withOp (.recordResult key failure now)).withCall index ⟨key, fn, .returned⟩)
        [.recorded key version ran failure]

variable {shown : List CallEvent}

theorem moves_of_step
    (coherent : calls.pool.Coherent)
    (taken : calls.step action = some (after, shown)) :
    Moves calls action after shown := by
  cases action with
  | registry op =>
      cases op with
      | recordResult key failure now => cases taken
      | _ =>
          cases taken
          exact .operated _ fun _ _ _ same => by cases same
  | call key fn =>
      cases taken
      exact .called key fn
  | get index =>
      simp only [Calls.step] at taken
      split at taken
      · next key fn found =>
          cases taken
          refine .moved _ index _ _ found rfl (fun version same => Or.inr ?_) ?_
          · dsimp only at same ⊢
            split at same
            · next running looked =>
                cases same
                obtain ⟨script, stored, runs⟩ := Option.bind_eq_some_iff.mp looked
                unfold Script.running at runs
                split_ifs at runs
                exact ScriptRegistry.version_eq_some.mpr ⟨script, stored, runs⟩
            · cases same
          · dsimp only
            split <;> rfl
      · cases taken
  | refuse index failure =>
      simp only [Calls.step] at taken
      split at taken
      · next key fn version found =>
          cases taken
          exact .moved _ index _ _ found rfl (fun _ same => Or.inl ⟨same, rfl⟩) rfl
      · cases taken
  | take worker index =>
      simp only [Calls.step] at taken
      split at taken
      · next key fn version found =>
          obtain ⟨⟨pool, events⟩, stepped, same⟩ := Option.map_eq_some_iff.mp taken
          cases same
          rcases Pool.step_cases coherent stepped with
            ⟨op, impossible, -⟩ | ⟨other, turn, next, events, chosen, turns, rfl, -⟩
          · cases impossible
          · cases chosen
            cases turns with
            | took job idle => exact .took worker index key fn version found idle
      · cases taken
  | turn worker turn =>
      have own : (∀ job, turn ≠ .take job) ∧
          ((calls.pool.step (.worker worker turn)).map fun stepped =>
            (({ calls with pool := stepped.1 } : Calls count).receive stepped.2, [])) =
              some (after, shown) := by
        cases turn with
        | take job => cases taken
        | _ => exact ⟨(fun _ same => by cases same), taken⟩
      obtain ⟨⟨pool, events⟩, stepped, same⟩ := Option.map_eq_some_iff.mp own.2
      cases same
      rcases Pool.step_cases coherent stepped with
        ⟨op, impossible, -⟩ | ⟨other, chosenTurn, next, shownEvents, chosen, turns, rfl, rfl⟩
      · cases impossible
      · cases chosen
        exact .turned worker turn next shownEvents own.1 turns
  | finish index verdict now =>
      simp only [Calls.step] at taken
      split at taken
      · next key fn version ran result found =>
          rw [Option.some.injEq] at taken
          unfold Calls.finish at taken
          dsimp only at taken
          split at taken
          · cases taken
            exact .moved _ index _ _ found rfl (fun _ same => by cases same) rfl
          · cases taken
            exact .recorded index verdict now key fn version ran result _ found
          · cases taken
            exact .recorded index verdict now key fn version ran result _ found
      · cases taken

theorem Current.moves
    (current : calls.Current)
    (permitted : calls.Undisturbed action)
    (moves : Moves calls action after shown) :
    after.Current := by
  cases moves with
  | operated op quiet =>
      refine current.withOp fun call member held => ?_
      by_cases reloads : ∃ files, op = .reload files
      · obtain ⟨files, rfl⟩ := reloads
        exact permitted.2 call member held
      · exact ScriptRegistry.version_apply (fun files same => reloads ⟨files, same⟩) _
  | called key fn => exact current.call key fn
  | moved _ index old next found free version ran =>
      refine current.withCall found free (fun used same => ?_) fun program same => ?_
      · rcases version used same with ⟨held, sameKey⟩ | known
        · rw [sameKey]
          exact current.versions old (List.mem_of_getElem? found) used held
        · exact known
      · rw [ran] at same
        cases same
  | took worker index key fn version found idle => exact current.take found idle
  | turned worker turn next events own turns => exact current.turn own turns
  | recorded index verdict now key fn version ran result failure found =>
      have operated : (calls.withOp (.recordResult key failure now)).Current :=
        current.withOp fun call _ _ => ScriptRegistry.version_apply (by nofun) _
      exact operated.withCall found rfl nofun nofun

theorem current_of_reaches
    {enabled : ScriptKind → String → Bool}
    {quarantineAfter : ℕ}
    {trace : List CallEvent}
    (reached : (machine count).Reaches Undisturbed (new enabled quarantineAfter) calls trace) :
    calls.Current := by
  refine reached.invariant (.new enabled quarantineAfter) ?_
  intro calls action after trace shown _ current permitted taken
  exact current.moves permitted (moves_of_step current.coherent taken)

/-- What one step does to the registry. -/
theorem registry_of_moves
    (moves : Moves calls action after shown) :
    after.registry = calls.registry ∧ shown = [] ∨
      (∃ op, action = .registry op ∧ after.registry = calls.registry.apply op ∧
        shown = calls.registry.shown op ∧ ∀ key failure now, op ≠ .recordResult key failure now) ∨
      ∃ key version ran failure now,
        (∃ call ∈ calls.calls, call.key = key ∧ call.stage.version = some version ∧
          call.stage.ran = ran) ∧
        after.registry = calls.registry.apply (.recordResult key failure now) ∧
        shown = [.recorded key version ran failure] := by
  cases moves with
  | operated op quiet => exact Or.inr (Or.inl ⟨op, rfl, rfl, rfl, quiet⟩)
  | called key fn => exact Or.inl ⟨rfl, rfl⟩
  | moved _ index old next found free version ran => exact Or.inl ⟨rfl, rfl⟩
  | took worker index key fn version found idle => exact Or.inl ⟨rfl, rfl⟩
  | turned worker turn next events own turns =>
      refine Or.inl ⟨?_, rfl⟩
      unfold receive
      split
      · split <;> rfl
      · split <;> rfl
      · rfl
  | recorded index verdict now key fn version ran result failure found =>
      exact Or.inr (Or.inr ⟨key, version, ran, failure, now,
        ⟨_, List.mem_of_getElem? found, rfl, rfl, rfl⟩, rfl, rfl⟩)

end Calls

end InfraObserver
