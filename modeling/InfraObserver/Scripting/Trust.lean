import InfraObserver.Scripting.Pool

/-!
# Interrupted interpreters

After a deadline or a panic the state of an interpreter is not trusted. `guard`
marks the worker as dirty, and `call` builds a new interpreter for a dirty worker
before it looks the function up. The mark is not looked at again after the build,
though a load can set it there.

The machine is one worker of the pool under all registry changes. Next to the worker
it keeps whether a load or a call was stopped on the interpreter that the worker has.
-/

namespace InfraObserver

/-- A worker of the pool, with what happened on its interpreter. -/
structure WatchedWorker where
  registry : ScriptRegistry
  worker : PoolWorker
  stopped : Bool

/-- What happens next. -/
inductive WatchedAction
  | registry (op : RegistryOp)
  | turn (turn : PoolTurn)

namespace WatchedWorker

def initial (registry : ScriptRegistry) : WatchedWorker where
  registry := registry
  worker := .initial
  stopped := false

/-- A load of one of the programs is stopped. -/
def loadStops (registry : ScriptRegistry) (outcome : Program → Option (ErrorKind × String)) :
    Bool :=
  registry.programs.any fun program => (outcome program).any fun failure => failure.1.spoils

variable (state : WatchedWorker)

/-- Whether something was stopped on the interpreter after a turn. -/
def stoppedAfter : PoolTurn → Bool
  | .renew => false
  | .load outcome => state.stopped || loadStops state.registry outcome
  | .finish outcome => state.stopped || outcome.spoils
  | _ => state.stopped

/-- What an action does, if it is enabled. Each event is shown with what was stopped
before on the interpreter. -/
def step [ScriptHost] (state : WatchedWorker) :
    WatchedAction → Option (WatchedWorker × List (Bool × PoolEvent))
  | .registry op => some ({ state with registry := state.registry.apply op }, [])
  | .turn turn =>
      (state.worker.step state.registry turn).map fun (next, shown) =>
        ({ state with worker := next, stopped := state.stoppedAfter turn },
          shown.map fun event => (state.stopped, event))

/-- The worker as a machine. -/
def machine [ScriptHost] :
    Transition.Machine WatchedWorker WatchedAction (Bool × PoolEvent) where
  step := step

/-- No load is stopped. -/
def LoadsEnd : WatchedAction → Prop
  | .turn (.load outcome) => loadStops state.registry outcome = false
  | _ => True

instance (state : WatchedWorker) (action : WatchedAction) : Decidable (state.LoadsEnd action) := by
  unfold LoadsEnd
  split <;> infer_instance

/-- The worker is past the point where `call` looks at the mark. -/
def committed : Bool :=
  match state.worker.phase with
  | .building _ | .ready _ | .running _ => true
  | _ => false

/-- What was stopped is marked, and a worker that goes on has an interpreter on which
nothing was stopped. -/
structure Trusted (state : WatchedWorker) : Prop where
  marked : state.stopped = true → state.worker.dirty = true
  clean : state.committed = true → state.stopped = false

variable [ScriptHost] {state} {after : WatchedWorker} {shown : List (Bool × PoolEvent)}

omit [ScriptHost] in
/-- A turn keeps the trust, and a function is run only on a trusted interpreter. -/
theorem Trusted.turn
    (trusted : state.Trusted)
    {turn : PoolTurn}
    (ends : state.LoadsEnd (.turn turn))
    {next : PoolWorker}
    {events : List PoolEvent}
    (taken : state.worker.step state.registry turn = some (next, events)) :
    Trusted { state with worker := next, stopped := state.stoppedAfter turn } ∧
      ∀ job program, PoolEvent.ran job program ∈ events → state.stopped = false := by
  obtain ⟨marked, clean⟩ := trusted
  unfold committed at clean
  have silent : ∀ job program, PoolEvent.ran job program ∈ ([] : List PoolEvent) →
      state.stopped = false := fun _ _ ran => by cases ran
  cases turn <;> simp only [PoolWorker.step] at taken
  case take job =>
      split at taken <;> cases taken
      exact ⟨⟨marked, fun early => by cases early⟩, silent⟩
  case check =>
      split at taken
      · split_ifs at taken with stale
        · cases taken
          exact ⟨⟨marked, fun early => by cases early⟩, silent⟩
        · cases taken
          refine ⟨⟨marked, fun _ => ?_⟩, silent⟩
          simp only [Bool.or_eq_true, not_or, Bool.not_eq_true] at stale
          exact Bool.eq_false_iff.mpr fun stopped => by simp [marked stopped] at stale
      · cases taken
  case renew =>
      split at taken <;> cases taken
      exact ⟨⟨(fun stopped => by cases stopped), fun _ => rfl⟩, silent⟩
  case load outcome =>
      split at taken
      · next job building =>
          rw [building] at clean
          cases taken
          have kept : state.stoppedAfter (.load outcome) = false := by
            rw [stoppedAfter, clean rfl, show loadStops state.registry outcome = false from ends]
            rfl
          rw [kept]
          exact ⟨⟨(fun stopped => by cases stopped), fun _ => rfl⟩, silent⟩
      · cases taken
  case start callable =>
      split at taken
      · next job ready =>
          rw [ready] at clean
          split at taken <;> cases taken
          · exact ⟨⟨marked, fun _ => clean rfl⟩, fun _ _ _ => clean rfl⟩
          · exact ⟨⟨marked, fun early => by cases early⟩, silent⟩
      · cases taken
  case finish outcome =>
      split at taken <;> cases taken
      refine ⟨⟨fun stopped => ?_, fun early => by cases early⟩, silent⟩
      rcases Bool.or_eq_true_iff.mp stopped with before | now
      · simp [marked before]
      · simp [now]
  case reply =>
      split at taken <;> cases taken
      exact ⟨⟨marked, fun early => by cases early⟩, by simp⟩

/-- For every sequence of calls and registry changes that a worker serves, with every
outcome of the calls: if no load is stopped by a deadline or a panic, no function is
run on an interpreter on which anything was stopped before. -/
theorem stopped_interpreter_never_runs
    {registry : ScriptRegistry}
    (reached : machine.Reaches LoadsEnd (initial registry) state shown)
    (job : Job)
    (program : Program) :
    (true, PoolEvent.ran job program) ∉ shown := by
  suffices safe : state.Trusted ∧ ∀ job program, (true, PoolEvent.ran job program) ∉ shown from
    safe.2 job program
  refine reached.invariant ⟨⟨nofun, nofun⟩, nofun⟩ ?_
  rintro state action after trace shown _ ⟨trusted, never⟩ permitted taken
  cases action with
  | registry op =>
      cases taken
      exact ⟨⟨trusted.marked, trusted.clean⟩, by simpa using never⟩
  | turn turn =>
      obtain ⟨⟨next, events⟩, moved, ⟨⟩⟩ := Option.map_eq_some_iff.mp taken
      obtain ⟨kept, ran⟩ := trusted.turn permitted moved
      refine ⟨kept, fun job program member => ?_⟩
      rcases List.mem_append.mp member with old | new
      · exact never job program old
      · obtain ⟨event, shows, same⟩ := List.mem_map.mp new
        obtain ⟨stopped, rfl⟩ := Prod.mk.inj same
        rw [ran job program shows] at stopped
        cases stopped

end WatchedWorker

end InfraObserver

/-! ## A load that is stopped -/

namespace InfraObserver

attribute [local instance] ScriptHost.patterns

namespace WatchedWorker

/-- The scripts are scanned, and a call of the transform script is taken. -/
def firstCall : List WatchedAction :=
  [.registry (.reload [⟨.transforms, "s", .ok ""⟩, transformFile ""]), .turn (.take transformJob),
    .turn .check, .turn .renew]

/-- The call is stopped by its deadline, and the next call builds again. -/
def stoppedCall : List WatchedAction :=
  [.turn (.load fun _ => none), .turn (.start true), .turn (.finish (.failed .timeout "")),
    .turn .reply, .turn (.take transformJob), .turn .check, .turn .renew,
    .turn (.load fun _ => none), .turn (.start true)]

theorem call_after_deadline_trusted :
    ∃ state shown, machine.run (initial emptyRegistry) (firstCall ++ stoppedCall) =
        some (state, shown) ∧
      (shown.filter fun event => event.2 = .ran transformJob (transformProgram "")).length = 2 ∧
      (true, PoolEvent.ran transformJob (transformProgram "")) ∉ shown := by
  have ended : ((machine.run (initial emptyRegistry) (firstCall ++ stoppedCall)).map fun final =>
      (final.2.filter fun event => event.2 = .ran transformJob (transformProgram "")).length) =
      some 2 := by decide +kernel
  have permits : machine.Permits LoadsEnd (initial emptyRegistry) (firstCall ++ stoppedCall) := by
    decide +kernel
  obtain ⟨⟨state, shown⟩, ran, count⟩ := Option.map_eq_some_iff.mp ended
  exact ⟨state, shown, ran, count,
    stopped_interpreter_never_runs (Transition.Machine.reaches_run permits ran) _ _⟩

/-- The deadline stops the load of another script while the interpreter is built: the
call goes on with the function of its own script on that interpreter. -/
theorem function_runs_after_stopped_load :
    (machine.run (initial emptyRegistry) (firstCall ++
      [.turn (.load fun program =>
        if program.id = "transforms/s" then some (.timeout, "<load> exceeded") else none),
        .turn (.start true)])).map Prod.snd =
      some [(true, .ran transformJob (transformProgram ""))] := by
  decide +kernel

end WatchedWorker

end InfraObserver
