import InfraObserver.Library.Transition
import InfraObserver.Scripting.Registry

/-!
# The interpreter pool

A worker of the pool owns an interpreter. For each call it looks at the generation of
the registry and, if that has changed, reads the generation and the active programs
again, in two steps, and loads the programs. Then it looks up the function and runs
it.

The machine has any number of workers and the methods of the registry, in any
interleaving. The outcome of running JavaScript is up to the outside.
-/

namespace InfraObserver

/-! ## Calls -/

/-- Failure kinds of script code. -/
inductive ErrorKind
  | exception
  | timeout
  | panic
  | output
  | load
  | missing
  deriving DecidableEq

namespace ErrorKind

/-- The text of a kind. -/
def name : ErrorKind → String
  | .exception => "exception"
  | .timeout => "timeout"
  | .panic => "panic"
  | .output => "output"
  | .load => "load"
  | .missing => "missing"

/-- The interpreter is not trusted after the failure. -/
def spoils (kind : ErrorKind) : Bool := kind = .timeout || kind = .panic

end ErrorKind

/-- A failure of script code. -/
structure ScriptError where
  scriptID : String
  kind : ErrorKind
  message : String
  deriving DecidableEq

/-- `Error`. -/
def ScriptError.text (failure : ScriptError) : String :=
  "script " ++ failure.scriptID ++ ": " ++ failure.kind.name ++ ": " ++ failure.message

/-- How a call can fail: by the script or by the platform. -/
inductive CallError
  | script (failure : ScriptError)
  | platform (failure : Error)
  deriving DecidableEq

/-- A call, with the caller that waits for the reply. -/
structure Job where
  caller : ℕ
  scriptID : String
  fn : String
  deriving DecidableEq

/-- How a function of a script ends under `guard`. -/
inductive RunOutcome
  | returned (out : String)
  | failed (kind : ErrorKind) (message : String)
  | cancelled (message : String)
  deriving DecidableEq

namespace RunOutcome

/-- The interpreter has to be built again. -/
def spoils : RunOutcome → Bool
  | .returned _ => false
  | .failed kind _ => kind.spoils
  | .cancelled _ => true

/-- The result of the call. -/
def result (job : Job) : RunOutcome → Except CallError String
  | .returned out => .ok out
  | .failed kind message => .error (.script ⟨job.scriptID, kind, message⟩)
  | .cancelled message => .error (.platform (.errorf .timeout message))

end RunOutcome

/-! ## A worker -/

/-- What a worker of the pool is doing. -/
inductive PoolPhase
  | idle
  | took (job : Job)
  | stale (job : Job)
  /-- `build` has read the generation and not the programs. -/
  | building (job : Job)
  | ready (job : Job)
  | running (job : Job)
  | replying (job : Job) (result : Except CallError String)
  deriving DecidableEq

/-- The job that a worker serves. -/
def PoolPhase.job : PoolPhase → Option Job
  | .idle => none
  | .took job | .stale job | .building job | .ready job | .running job | .replying job _ => some job

/-- A worker of the pool with its interpreter. -/
structure PoolWorker where
  built : Bool
  gen : ℕ
  loaded : List Program
  exports : StringMap Program
  loadErr : StringMap String
  dirty : Bool
  phase : PoolPhase

/-- What a worker does next. -/
inductive PoolTurn
  | take (job : Job)
  /-- `call` compares the generations. -/
  | check
  | renew
  /-- `build` reads the programs and loads each. -/
  | load (outcome : Program → Option (ErrorKind × String))
  /-- `call` looks the export up and runs it, if it is a function. -/
  | start (callable : Bool)
  | finish (outcome : RunOutcome)
  | reply

/-- What a worker shows. -/
inductive PoolEvent
  | ran (job : Job) (program : Program)
  | replied (job : Job) (result : Except CallError String)
  deriving DecidableEq

namespace PoolWorker

/-- A worker before its first job. -/
def initial : PoolWorker where
  built := false
  gen := 0
  loaded := []
  exports := ∅
  loadErr := ∅
  dirty := false
  phase := .idle

/-- `load`. -/
def loadProgram
    (outcome : Program → Option (ErrorKind × String))
    (worker : PoolWorker)
    (program : Program) : PoolWorker :=
  match outcome program with
  | none => { worker with exports := worker.exports.insert program.id program }
  | some (kind, message) =>
      { worker with
        loadErr := worker.loadErr.insert program.id (ScriptError.text ⟨program.id, kind, message⟩)
        dirty := worker.dirty || kind.spoils }

/-- The lookups of `call`: the program whose function is run, or why none is. -/
def lookup (worker : PoolWorker) (job : Job) (callable : Bool) : Except CallError Program :=
  match worker.loadErr.lookup job.scriptID with
  | some message => .error (.script ⟨job.scriptID, .load, message⟩)
  | none =>
      match worker.exports.lookup job.scriptID with
      | none => .error (.script ⟨job.scriptID, .missing, "script is not loaded"⟩)
      | some program =>
          if job.fn ∈ program.exports ∧ callable then .ok program
          else
            .error (.script ⟨job.scriptID, .missing,
              "script does not export a function \"" ++ job.fn ++ "\""⟩)

/-- What a turn does, if it is enabled. -/
def step (registry : ScriptRegistry) (worker : PoolWorker) :
    PoolTurn → Option (PoolWorker × List PoolEvent)
  | .take job =>
      match worker.phase with
      | .idle => some ({ worker with phase := .took job }, [])
      | _ => none
  | .check =>
      match worker.phase with
      | .took job =>
          if !worker.built || worker.dirty || worker.gen ≠ registry.gen then
            some ({ worker with phase := .stale job }, [])
          else some ({ worker with phase := .ready job }, [])
      | _ => none
  | .renew =>
      match worker.phase with
      | .stale job =>
          some
            ({ built := true
               gen := registry.gen
               loaded := []
               exports := ∅
               loadErr := ∅
               dirty := false
               phase := .building job }, [])
      | _ => none
  | .load outcome =>
      match worker.phase with
      | .building job =>
          some (registry.programs.foldl (loadProgram outcome)
            { worker with
              loaded := registry.programs
              phase := .ready job }, [])
      | _ => none
  | .start callable =>
      match worker.phase with
      | .ready job =>
          match worker.lookup job callable with
          | .ok program => some ({ worker with phase := .running job }, [.ran job program])
          | .error failure => some ({ worker with phase := .replying job (.error failure) }, [])
      | _ => none
  | .finish outcome =>
      match worker.phase with
      | .running job =>
          some
            ({ worker with
               dirty := worker.dirty || outcome.spoils
               phase := .replying job (outcome.result job) }, [])
      | _ => none
  | .reply =>
      match worker.phase with
      | .replying job result => some ({ worker with phase := .idle }, [.replied job result])
      | _ => none

end PoolWorker

/-! ## The pool -/

/-- A number of workers over a registry. -/
structure Pool (count : ℕ) where
  registry : ScriptRegistry
  worker : Fin count → PoolWorker

/-- What happens next. -/
inductive PoolAction (count : ℕ)
  | registry (op : RegistryOp)
  | worker (index : Fin count) (turn : PoolTurn)

namespace Pool

variable {count : ℕ}

/-- `NewPool`. -/
def new (registry : ScriptRegistry) : Pool count where
  registry := registry
  worker _ := .initial

/-- The pool with another state of one worker. -/
def withWorker (pool : Pool count) (index : Fin count) (worker : PoolWorker) : Pool count :=
  { pool with worker := Function.update pool.worker index worker }

section

variable {pool : Pool count} {index : Fin count} {next : PoolWorker}

@[simp] theorem withWorker_self : (pool.withWorker index next).worker index = next :=
  Function.update_self ..

@[simp] theorem withWorker_ne {other : Fin count} (different : other ≠ index) :
    (pool.withWorker index next).worker other = pool.worker other :=
  Function.update_of_ne different ..

theorem forall_withWorker
    {P : Fin count → PoolWorker → Prop}
    (here : P index next)
    (others : ∀ other, other ≠ index → P other (pool.worker other)) :
    ∀ other, P other ((pool.withWorker index next).worker other) :=
  (Function.forall_update_iff _ P).mpr ⟨here, others⟩

end

/-- What an action does, if it is enabled. -/
def step [ScriptHost] (pool : Pool count) :
    PoolAction count → Option (Pool count × List (Fin count × PoolEvent))
  | .registry op => some ({ pool with registry := pool.registry.apply op }, [])
  | .worker index turn =>
      ((pool.worker index).step pool.registry turn).map fun (next, shown) =>
        (pool.withWorker index next, shown.map fun event => (index, event))

/-- The pool as a machine. -/
def machine [ScriptHost] (count : ℕ) :
    Transition.Machine (Pool count) (PoolAction count) (Fin count × PoolEvent) where
  step := step

end Pool

/-! ## Coherence -/

namespace PoolWorker

variable {registry : ScriptRegistry} {worker next : PoolWorker} {turn : PoolTurn}
variable {shown : List PoolEvent}

/-- The worker has read a generation and not yet the programs. -/
def isBuilding (worker : PoolWorker) : Bool :=
  match worker.phase with
  | .building _ => true
  | _ => false

/-- The exports are those of programs that were read, under their names. -/
def Exports (worker : PoolWorker) : Prop :=
  ∀ id program, worker.exports.lookup id = some program →
    program ∈ worker.loaded ∧ program.id = id

/-- A generation that a worker has read stands for the programs that it has read
since. -/
structure Coherent (registry : ScriptRegistry) (worker : PoolWorker) : Prop where
  bound : worker.gen ≤ registry.gen
  fresh : worker.built = true → worker.isBuilding = false → worker.gen = registry.gen →
    worker.loaded = registry.programs
  exported : worker.Exports
  unloaded : worker.isBuilding = true → worker.exports = ∅

theorem Coherent.initial (registry : ScriptRegistry) : Coherent registry .initial where
  bound := Nat.zero_le _
  fresh built := by cases built
  exported _ _ found := by cases found
  unloaded building := by cases building

variable {outcome : Program → Option (ErrorKind × String)} {program : Program}

@[simp] theorem loadProgram_gen : (loadProgram outcome worker program).gen = worker.gen := by
  unfold loadProgram
  split <;> rfl

@[simp] theorem loadProgram_loaded :
    (loadProgram outcome worker program).loaded = worker.loaded := by
  unfold loadProgram
  split <;> rfl

@[simp] theorem loadProgram_phase : (loadProgram outcome worker program).phase = worker.phase := by
  unfold loadProgram
  split <;> rfl

theorem Exports.loadProgram
    (exported : worker.Exports)
    (listed : program ∈ worker.loaded) :
    (loadProgram outcome worker program).Exports := by
  intro id other found
  rw [loadProgram_loaded]
  unfold PoolWorker.loadProgram at found
  split at found
  · rw [StringMap.lookup_insert_ite] at found
    split_ifs at found with same
    · cases found
      exact ⟨listed, same.symm⟩
    · exact exported id other found
  · exact exported id other found

/-- What loading a list of programs leaves alone, and where the exports come from. -/
theorem foldl_loadProgram
    {programs : List Program}
    (exported : worker.Exports)
    (listed : ∀ program ∈ programs, program ∈ worker.loaded) :
    (programs.foldl (loadProgram outcome) worker).gen = worker.gen ∧
      (programs.foldl (loadProgram outcome) worker).loaded = worker.loaded ∧
      (programs.foldl (loadProgram outcome) worker).phase = worker.phase ∧
      (programs.foldl (loadProgram outcome) worker).Exports := by
  induction programs generalizing worker with
  | nil => exact ⟨rfl, rfl, rfl, exported⟩
  | cons program rest ih =>
      have later := @ih (loadProgram outcome worker program)
        (exported.loadProgram (listed program (List.mem_cons_self ..)))
        (fun other member => by
          rw [loadProgram_loaded]
          exact listed other (List.mem_cons_of_mem _ member))
      simpa only [List.foldl_cons, loadProgram_gen, loadProgram_loaded, loadProgram_phase]
        using later

/-- Everything one turn can do. -/
inductive Turns (registry : ScriptRegistry) (worker : PoolWorker) :
    PoolTurn → PoolWorker → List PoolEvent → Prop
  | took (job : Job) (idle : worker.phase = .idle) :
      Turns registry worker (.take job) { worker with phase := .took job } []
  | outdated (job : Job) (found : worker.phase = .took job) :
      Turns registry worker .check { worker with phase := .stale job } []
  | valid
      (job : Job)
      (found : worker.phase = .took job)
      (built : worker.built = true)
      (same : worker.gen = registry.gen) :
      Turns registry worker .check { worker with phase := .ready job } []
  | renewed (job : Job) (found : worker.phase = .stale job) :
      Turns registry worker .renew
        { built := true
          gen := registry.gen
          loaded := []
          exports := ∅
          loadErr := ∅
          dirty := false
          phase := .building job } []
  | loaded
      (outcome : Program → Option (ErrorKind × String))
      (job : Job)
      (next : PoolWorker)
      (found : worker.phase = .building job)
      (gen : next.gen = worker.gen)
      (programs : next.loaded = registry.programs)
      (phase : next.phase = .ready job)
      (exported : next.Exports) :
      Turns registry worker (.load outcome) next []
  | started
      (callable : Bool)
      (job : Job)
      (program : Program)
      (found : worker.phase = .ready job)
      (exported : worker.exports.lookup job.scriptID = some program) :
      Turns registry worker (.start callable) { worker with phase := .running job }
        [.ran job program]
  | refused
      (callable : Bool)
      (job : Job)
      (failure : CallError)
      (found : worker.phase = .ready job) :
      Turns registry worker (.start callable)
        { worker with phase := .replying job (.error failure) } []
  | finished (outcome : RunOutcome) (job : Job) (found : worker.phase = .running job) :
      Turns registry worker (.finish outcome)
        { worker with
          dirty := worker.dirty || outcome.spoils
          phase := .replying job (outcome.result job) } []
  | replied
      (job : Job)
      (result : Except CallError String)
      (found : worker.phase = .replying job result) :
      Turns registry worker .reply { worker with phase := .idle } [.replied job result]

theorem exports_of_lookup
    {job : Job}
    {callable : Bool}
    (looked : worker.lookup job callable = .ok program) :
    worker.exports.lookup job.scriptID = some program := by
  unfold lookup at looked
  split at looked
  · cases looked
  · split at looked
    · cases looked
    · next found =>
        split_ifs at looked
        cases looked
        exact found

theorem turns_of_step
    (unloaded : worker.isBuilding = true → worker.exports = ∅)
    (taken : worker.step registry turn = some (next, shown)) :
    Turns registry worker turn next shown := by
  cases turn with
  | take job =>
      simp only [step] at taken
      split at taken
      · next idle =>
          cases taken
          exact .took job idle
      · cases taken
  | check =>
      simp only [step] at taken
      split at taken
      · next job found =>
          split_ifs at taken with outdated
          · cases taken
            exact .outdated job found
          · cases taken
            simp only [ne_eq, Bool.or_eq_true, Bool.not_eq_true', not_or, Bool.not_eq_false,
              Bool.not_eq_true, decide_eq_true_eq, not_not] at outdated
            exact .valid job found outdated.1.1 outdated.2
      · cases taken
  | renew =>
      simp only [step] at taken
      split at taken
      · next job found =>
          cases taken
          exact .renewed job found
      · cases taken
  | load outcome =>
      simp only [step] at taken
      split at taken
      · next job found =>
          cases taken
          have empty := unloaded (by simp [isBuilding, found])
          have exported :
              Exports { worker with loaded := registry.programs, phase := .ready job } :=
            fun id program present => by simp [empty] at present
          obtain ⟨gen, loaded, phase, later⟩ := foldl_loadProgram exported fun _ member => member
          exact .loaded outcome job _ found gen loaded phase later
      · cases taken
  | start callable =>
      simp only [step] at taken
      split at taken
      · next job found =>
          split at taken
          · next program looked =>
              cases taken
              exact .started callable job program found (exports_of_lookup looked)
          · next failure _ =>
              cases taken
              exact .refused callable job failure found
      · cases taken
  | finish outcome =>
      simp only [step] at taken
      split at taken
      · next job found =>
          cases taken
          exact .finished outcome job found
      · cases taken
  | reply =>
      simp only [step] at taken
      split at taken
      · next job result found =>
          cases taken
          exact .replied job result found
      · cases taken

theorem Coherent.turns
    (coherent : Coherent registry worker)
    (turns : Turns registry worker turn next shown) :
    Coherent registry next := by
  obtain ⟨bound, fresh, exported, unloaded⟩ := coherent
  -- The phase matters only as far as it is that of a build.
  have rephased : ∀ phase, worker.isBuilding = false → isBuilding { worker with phase } = false →
      Coherent registry { worker with phase } := fun phase before after =>
    ⟨bound, fun built _ => fresh built before, exported,
      fun building => by simp [after] at building⟩
  cases turns with
  | took job idle => exact rephased _ (by simp [isBuilding, idle]) rfl
  | outdated job found => exact rephased _ (by simp [isBuilding, found]) rfl
  | valid job found built same => exact rephased _ (by simp [isBuilding, found]) rfl
  | renewed job found => exact ⟨le_rfl, fun _ => nofun, nofun, fun _ => rfl⟩
  | loaded outcome job next found gen programs phase exported =>
      exact ⟨gen ▸ bound, fun _ _ _ => programs, exported,
        fun building => by simp [isBuilding, phase] at building⟩
  | started callable job program found _ => exact rephased _ (by simp [isBuilding, found]) rfl
  | refused callable job failure found => exact rephased _ (by simp [isBuilding, found]) rfl
  | finished outcome job found =>
      have kept := rephased (.replying job (outcome.result job)) (by simp [isBuilding, found]) rfl
      exact ⟨kept.bound, kept.fresh, kept.exported, kept.unloaded⟩
  | replied job result found => exact rephased _ (by simp [isBuilding, found]) rfl

theorem Coherent.apply [ScriptHost] (coherent : Coherent registry worker) (op : RegistryOp) :
    Coherent (registry.apply op) worker := by
  have grown := registry.gen_le_apply op
  refine ⟨coherent.bound.trans grown, fun built loaded same => ?_, coherent.exported,
    coherent.unloaded⟩
  have bound := coherent.bound
  rw [ScriptRegistry.programs_apply (by omega), coherent.fresh built loaded (by omega)]

end PoolWorker

namespace Pool

variable [ScriptHost] {count : ℕ} {registry : ScriptRegistry} {pool after : Pool count}
variable {action : PoolAction count} {shown trace : List (Fin count × PoolEvent)}

/-- Every worker is coherent with the registry. -/
def Coherent (pool : Pool count) : Prop :=
  ∀ index, (pool.worker index).Coherent pool.registry

/-- A method of the registry, or a turn of one worker. -/
theorem step_cases
    (coherent : pool.Coherent)
    (taken : pool.step action = some (after, shown)) :
    (∃ op, action = .registry op ∧
      after = { pool with registry := pool.registry.apply op } ∧ shown = []) ∨
    ∃ index turn next events, action = .worker index turn ∧
      PoolWorker.Turns pool.registry (pool.worker index) turn next events ∧
      after = pool.withWorker index next ∧
      shown = events.map fun event => (index, event) := by
  cases action with
  | registry op =>
      cases taken
      exact Or.inl ⟨op, rfl, rfl, rfl⟩
  | worker index turn =>
      obtain ⟨⟨next, events⟩, stepped, same⟩ := Option.map_eq_some_iff.mp taken
      cases same
      exact Or.inr ⟨index, turn, next, events, rfl,
        PoolWorker.turns_of_step (coherent index).unloaded stepped, rfl, rfl⟩

theorem Coherent.step
    (coherent : pool.Coherent)
    (taken : pool.step action = some (after, shown)) :
    after.Coherent := by
  rcases step_cases coherent taken with
    ⟨op, rfl, rfl, rfl⟩ | ⟨index, turn, next, events, rfl, turns, rfl, rfl⟩
  · exact fun other => (coherent other).apply op
  · exact forall_withWorker ((coherent index).turns turns) fun other _ => coherent other

/-- At an instant of a run, a list of programs was exactly the active set: after some
of its actions, and before the others. -/
def WasActive (taken : Pool count) (actions : List (PoolAction count))
    (programs : List Program) : Prop :=
  ∃ early late instant shown, actions = early ++ late ∧
    (machine count).run taken early = some (instant, shown) ∧
    programs = instant.registry.programs

variable {actions : List (PoolAction count)}

theorem WasActive.concat
    {taken : Pool count}
    {programs : List Program}
    (active : WasActive taken actions programs)
    (action : PoolAction count) :
    WasActive taken (actions ++ [action]) programs := by
  obtain ⟨early, late, instant, shown, rfl, ran, same⟩ := active
  exact ⟨early, late ++ [action], instant, shown, List.append_assoc .., ran, same⟩

/-- While a worker serves a call, what it is ready to run was the active set since it
has taken the call. -/
theorem active_when_ready
    {index : Fin count}
    {before taken : Pool count}
    {job : Job}
    {later : List (Fin count × PoolEvent)}
    (coherent : before.Coherent)
    (took : before.step (.worker index (.take job)) = some (taken, shown))
    (served : (machine count).run taken actions = some (pool, later))
    (serving : ∀ action ∈ actions, action ≠ .worker index .reply) :
    pool.Coherent ∧ ∀ ready, (pool.worker index).phase = .ready ready →
      WasActive taken actions (pool.worker index).loaded := by
  refine Transition.Machine.run_invariant (fun actions pool =>
    (∀ action ∈ actions, action ≠ .worker index .reply) → pool.Coherent ∧
      ∀ ready, (pool.worker index).phase = .ready ready →
        WasActive taken actions (pool.worker index).loaded) ?_ ?_ served serving
  · -- The worker has just taken the call.
    refine fun _ => ⟨coherent.step took, fun ready phase => ?_⟩
    rcases step_cases coherent took with
      ⟨op, same, -⟩ | ⟨_, turn, next, events, same, turns, rfl, rfl⟩
    · cases same
    · cases same
      rw [withWorker_self] at phase
      cases turns with
      | took job idle => cases phase
  · intro early seen pool action after shown reached hold stepped serving
    obtain ⟨coherent, active⟩ := hold fun action member =>
      serving action (List.mem_append_left _ member)
    have now : WasActive taken (early ++ [action]) pool.registry.programs :=
      ⟨early, [action], pool, seen, rfl, reached, rfl⟩
    refine ⟨coherent.step stepped, fun ready phase => ?_⟩
    rcases step_cases coherent stepped with
      ⟨op, rfl, rfl, rfl⟩ | ⟨other, turn, next, events, rfl, turns, rfl, rfl⟩
    · exact (active ready phase).concat _
    · by_cases here : index = other
      · subst here
        rw [withWorker_self] at phase ⊢
        cases turns with
        | valid job found built same =>
            have fresh := (coherent index).fresh built (by simp [PoolWorker.isBuilding, found]) same
            exact fresh ▸ now
        | loaded outcome job next found gen programs _ exported => exact programs ▸ now
        | _ => cases phase
      · rw [withWorker_ne here] at phase ⊢
        exact (active ready phase).concat _

/-- A worker takes a call, any actions of the registry and of the workers follow in
which it does not reply to it, and it runs a function. The function comes from programs
that were exactly the active set at an instant of this run since the worker has taken
the call. So a program that was not active at any instant of it is not run. -/
theorem runs_active_program
    {index : Fin count}
    {before taken : Pool count}
    {job served : Job}
    {program : Program}
    {callable : Bool}
    {earlier : List (PoolAction count)}
    {later : List (Fin count × PoolEvent)}
    (reached : (machine count).run (new registry) earlier = some (before, trace))
    (took : before.step (.worker index (.take job)) = some (taken, shown))
    (serves : (machine count).run taken actions = some (pool, later))
    (serving : ∀ action ∈ actions, action ≠ .worker index .reply)
    (ran : pool.step (.worker index (.start callable)) =
      some (after, [(index, .ran served program)])) :
    (∃ programs, program ∈ programs ∧ WasActive taken actions programs) ∧
      ∀ old, (∀ programs, WasActive taken actions programs → old ∉ programs) →
        program ≠ old := by
  have start : before.Coherent := Transition.Machine.run_invariant (fun _ pool => pool.Coherent)
    (fun _ => .initial registry) (fun _ _ _ _ _ _ _ coherent taken => coherent.step taken) reached
  obtain ⟨coherent, active⟩ := active_when_ready start took serves serving
  have source : ∃ programs, program ∈ programs ∧ WasActive taken actions programs := by
    rcases step_cases coherent ran with
      ⟨op, same, -⟩ | ⟨_, turn, next, events, same, turns, -, shows⟩
    · cases same
    · cases same
      cases turns with
      | started callable job program found exported =>
          cases shows
          exact ⟨_, ((coherent index).exported _ _ exported).1, active _ found⟩
      | refused callable job failure found => cases shows
  refine ⟨source, ?_⟩
  rintro old absent rfl
  obtain ⟨programs, member, active⟩ := source
  exact absent programs active member

end Pool

end InfraObserver

/-! ## A replaced script -/

namespace InfraObserver

/-- A host on which a source is the pattern that it declares; the empty source declares
none. -/
@[reducible] def ScriptHost.patterns : ScriptHost where
  hash source := source
  compile _ := .ok ["transform", "handleEvent", "meta"]
  declared source :=
    let patterns := if source = "" then [] else [source]
    some ⟨"1", "", patterns, patterns, none⟩

attribute [local instance] ScriptHost.patterns

/-- A registry before its first scan. -/
def emptyRegistry : ScriptRegistry := .new (fun _ _ => true) 3

/-- A transform script with a source. -/
def transformFile (source : String) : ScriptFile := ⟨.transforms, "t", .ok source⟩

/-- The program of that script. -/
def transformProgram (source : String) : Program :=
  ⟨"transforms/t", source, ["transform", "handleEvent", "meta"]⟩

/-- A call of that script. -/
def transformJob : Job := ⟨0, "transforms/t", "transform"⟩

/-- The only worker of a pool of one. -/
def soleWorker : Fin 1 := Fin.last 0

/-- A worker has served a call when the script is replaced. -/
def beforeReplacement : List (PoolAction 1) :=
  [.registry (.reload [transformFile "cpu.*"])] ++
    ([.take transformJob, .check, .renew, .load fun _ => none, .start true,
      .finish (.returned "null"), .reply] : List PoolTurn).map (.worker soleWorker) ++
    [.registry (.reload [transformFile "disk.*"])]

/-- The next call builds the interpreter again. -/
def rebuild : List (PoolAction 1) :=
  ([.check, .renew, .load fun _ => none] : List PoolTurn).map (.worker soleWorker)

/-- The next call runs the new source, which is active since the call was taken, and
not the old one. -/
theorem replacement_runs :
    ∃ before trace taken shown pool later,
      (Pool.machine 1).run (.new emptyRegistry) beforeReplacement = some (before, trace) ∧
      before.step (.worker 0 (.take transformJob)) = some (taken, shown) ∧
      (Pool.machine 1).run taken rebuild = some (pool, later) ∧
      (∃ programs, transformProgram "disk.*" ∈ programs ∧
        Pool.WasActive taken rebuild programs) ∧
      ∀ old, (∀ programs, Pool.WasActive taken rebuild programs → old ∉ programs) →
        transformProgram "disk.*" ≠ old := by
  have ended : (((Pool.machine 1).run (.new emptyRegistry) beforeReplacement).bind fun before =>
      (before.1.step (.worker 0 (.take transformJob))).bind fun taken =>
        ((Pool.machine 1).run taken.1 rebuild).bind fun pool =>
          (pool.1.step (.worker 0 (.start true))).map Prod.snd) =
      some [(0, .ran transformJob (transformProgram "disk.*"))] := by decide +kernel
  obtain ⟨⟨before, trace⟩, ran, ended⟩ := Option.bind_eq_some_iff.mp ended
  obtain ⟨⟨taken, shown⟩, took, ended⟩ := Option.bind_eq_some_iff.mp ended
  obtain ⟨⟨pool, later⟩, served, ended⟩ := Option.bind_eq_some_iff.mp ended
  obtain ⟨⟨after, events⟩, started, rfl⟩ := Option.map_eq_some_iff.mp ended
  exact ⟨before, trace, taken, shown, pool, later, ran, took, served,
    Pool.runs_active_program ran took served (by simp [rebuild]) started⟩

end InfraObserver
