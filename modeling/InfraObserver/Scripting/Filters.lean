import InfraObserver.Scripting.Declared

/-!
# Scripts see what they declared

The filters that callers use are recorded in a later step than the scripts themselves,
and a reload drops them. When no caller overlaps a reload, and only scripts whose
filters are recorded are switched on, a script is run only for what the source that
runs declares.
-/

namespace InfraObserver

variable {F : Type} {count : ℕ}

/-! ## When it is safe -/

/-- Reloads overlap neither each other nor callers, and a script is switched on only
when its `meta` is recorded. -/
def Quiet (service : Service F count) : ServiceAction F count → Prop
  | .swap _ =>
      (∀ stage ∈ service.reloads, stage.isDone = true) ∧
        ∀ caller ∈ service.callers, caller.isDone = true
  | .begin _ => ∀ stage ∈ service.reloads, stage.isDone = true
  | .setEnabled key true =>
      ∀ script, service.pool.registry.get key = some script → script.version ≠ ""
  | _ => True

/-! ## Jobs and their callers -/

/-- The job is that of a caller who is at a stage of the call of its script. -/
def Job.Awaited
    (job : Job)
    (callers : List (Caller F count))
    (stage : Script → CallerStage count) : Prop :=
  ∃ caller script, callers[job.caller]? = some caller ∧ caller.stage = stage script ∧
    job.scriptID = script.key

section

variable {callers : List (Caller F count)} {job : Job} {stage : Script → CallerStage count}
variable {index : ℕ} {old : Caller F count}

section

variable (awaited : job.Awaited callers stage)
include awaited

theorem Job.Awaited.caller
    (found : callers[job.caller]? = some old) :
    ∃ script, old.stage = stage script ∧ job.scriptID = script.key := by
  obtain ⟨caller, script, present, waits, same⟩ := awaited
  rw [found, Option.some.injEq] at present
  subst present
  exact ⟨script, waits, same⟩

theorem Job.Awaited.set_of_ne
    (elsewhere : index ≠ job.caller)
    (next : Caller F count) :
    job.Awaited (callers.set index next) stage := by
  obtain ⟨caller, script, present, waits, same⟩ := awaited
  exact ⟨caller, script, (List.getElem?_set_ne elsewhere).trans present, waits, same⟩

theorem Job.Awaited.set
    (found : callers[index]? = some old)
    (different : ∀ script, old.stage ≠ stage script)
    (next : Caller F count) :
    job.Awaited (callers.set index next) stage := by
  refine awaited.set_of_ne ?_ next
  rintro rfl
  obtain ⟨script, waits, -⟩ := awaited.caller found
  exact different script waits

theorem Job.Awaited.append
    (new : List (Caller F count)) :
    job.Awaited (callers ++ new) stage := by
  obtain ⟨caller, script, present, waiting⟩ := awaited
  exact ⟨caller, script, List.getElem?_append_left (List.getElem?_eq_some_iff.mp present).1 ▸
    present, waiting⟩

end

end

variable [ScriptHost]

/-- A copy of a script whose filters are recorded and whose code is current. -/
def Good (registry : ScriptRegistry) (kind : ScriptKind) (copy : Script) : Prop :=
  copy.Recorded ∧ copy.kind = kind ∧
    ∃ script, registry.scripts.lookup copy.key = some script ∧ script.program = copy.program

/-- The script that a caller is calling. -/
def CallerStage.script : CallerStage count → Option Script
  | .calling script | .queueing script _ | .queued script | .served script _
  | .replied script _ => some script
  | .choosing | .returned .. => none

/-- A job of the caller is in the queue or with a worker. -/
def CallerStage.isUnderWay : CallerStage count → Bool
  | .queued _ | .served .. => true
  | _ => false

/-- What holds of a caller that has not returned. -/
structure Caller.InOrder (registry : ScriptRegistry) (caller : Caller F count) : Prop where
  remaining : ∀ copy ∈ caller.remaining, Good registry caller.errand.kind copy
  called : ∀ script, caller.stage.script = some script →
    Good registry caller.errand.kind script ∧ caller.errand.wants script = true
  queueing : ∀ script scriptID, caller.stage = .queueing script scriptID → scriptID = script.key

/-- What holds of a reload in its loop: every pending script is still to be inspected,
and what is to be inspected is current. -/
def ReloadStage.InOrder (registry : ScriptRegistry) : ReloadStage → Prop
  | .inspecting remaining _ =>
      (∀ key script, registry.scripts.lookup key = some script → script.Pending →
        ∃ copy ∈ remaining, copy.key = key ∧ copy.running.isSome = true) ∧
      ∀ copy ∈ remaining, ∃ script, registry.scripts.lookup copy.key = some script ∧
        script.code = copy.code
  | _ => True

variable {registry : ScriptRegistry} {op : RegistryOp}

theorem Good.apply
    {kind : ScriptKind}
    {copy : Script}
    (good : Good registry kind copy)
    (changes : ∀ files, op ≠ .reload files) :
    Good (registry.apply op) kind copy := by
  obtain ⟨recorded, same, script, found, compiled⟩ := good
  obtain ⟨after, present, code⟩ := ScriptRegistry.lookup_apply changes found
  exact ⟨recorded, same, after, present, (congrArg Prod.snd code).trans compiled⟩

theorem Caller.InOrder.apply
    {caller : Caller F count}
    (inOrder : caller.InOrder registry)
    (changes : ∀ files, op ≠ .reload files) :
    caller.InOrder (registry.apply op) where
  remaining copy member := Good.apply (inOrder.remaining copy member) changes
  called script calling := (inOrder.called script calling).imp_left fun good => good.apply changes
  queueing := inOrder.queueing

theorem Caller.InOrder.withStage
    {caller : Caller F count}
    {stage : CallerStage count}
    (inOrder : caller.InOrder registry)
    (same : ∀ script, stage.script = some script → caller.stage.script = some script)
    (named : ∀ script scriptID, stage = .queueing script scriptID → scriptID = script.key) :
    ({ caller with stage } : Caller F count).InOrder registry where
  remaining := inOrder.remaining
  called script called := inOrder.called script (same script called)
  queueing := named

theorem ReloadStage.InOrder.apply
    {stage : ReloadStage}
    (inOrder : stage.InOrder registry)
    (changes : ∀ files, op ≠ .reload files)
    (pending : ScriptRegistry.NoNewPending registry (registry.apply op)) :
    stage.InOrder (registry.apply op) := by
  cases stage with
  | inspecting remaining report =>
      refine ⟨fun key script found isPending => ?_, fun copy member => ?_⟩
      · obtain ⟨old, present, wasPending⟩ := pending key script found isPending
        exact inOrder.1 key old present wasPending
      · obtain ⟨script, found, same⟩ := inOrder.2 copy member
        obtain ⟨after, present, code⟩ := ScriptRegistry.lookup_apply changes found
        exact ⟨after, present, code.trans same⟩
  | listing report => trivial
  | done report => trivial

namespace Service

variable {service : Service F count}

/-- What holds of a worker: it has the job of a caller whom it serves, and is ready with
programs of the registry only. -/
structure WorkerInOrder
    (registry : ScriptRegistry)
    (callers : List (Caller F count))
    (index : Fin count)
    (worker : PoolWorker) : Prop where
  coherent : worker.Coherent registry
  serves : ∀ job, worker.phase.job = some job → job.Awaited callers (.served · index)
  ready : ∀ job, worker.phase = .ready job → ∀ program ∈ worker.loaded, registry.Has program

/-- What holds between the steps of a quiet service. -/
structure Orderly (service : Service F count) : Prop where
  sound : service.pool.registry.Sound
  settled : (∀ stage ∈ service.reloads, stage.isDone = true) →
    ∀ key script, service.pool.registry.scripts.lookup key = some script → ¬ script.Pending
  reloads : ∀ stage ∈ service.reloads, stage.InOrder service.pool.registry
  apart : ∀ caller ∈ service.callers, caller.isDone = false →
    ∀ stage ∈ service.reloads, stage.isDone = true
  callers : ∀ caller ∈ service.callers, caller.isDone = false →
    caller.InOrder service.pool.registry
  queue : ∀ job ∈ service.jobs, job.Awaited service.callers .queued
  distinct : (service.jobs.map Job.caller).Nodup
  workers : ∀ index, WorkerInOrder service.pool.registry service.callers index
    (service.pool.worker index)

theorem Orderly.new (enabled : ScriptKind → String → Bool) (threshold : ℕ) :
    (Service.new enabled threshold : Service F count).Orderly where
  sound _ _ found := by simp [Service.new, Pool.new, ScriptRegistry.new] at found
  settled _ _ _ found := by simp [Service.new, Pool.new, ScriptRegistry.new] at found
  reloads _ member := by simp [Service.new] at member
  apart _ member := by simp [Service.new] at member
  callers _ member := by simp [Service.new] at member
  queue _ member := by simp [Service.new] at member
  distinct := by simp [Service.new]
  workers _ := ⟨.initial _, (fun _ busy => by cases busy), fun _ ready => by cases ready⟩

theorem Orderly.coherent (orderly : service.Orderly) : service.pool.Coherent :=
  fun index => (orderly.workers index).coherent

/-! ## Steps -/

theorem Orderly.withOp
    {op : RegistryOp}
    (orderly : service.Orderly)
    (changes : ∀ files, op ≠ .reload files)
    (sound : (service.pool.registry.apply op).Sound)
    (pending : ScriptRegistry.NoNewPending service.pool.registry
      (service.pool.registry.apply op)) :
    (service.withOp op).Orderly where
  sound := sound
  settled finished key script found isPending := by
    obtain ⟨old, present, wasPending⟩ := pending key script found isPending
    exact orderly.settled finished key old present wasPending
  reloads stage member := (orderly.reloads stage member).apply changes pending
  apart := orderly.apart
  callers caller member busy := (orderly.callers caller member busy).apply changes
  queue := orderly.queue
  distinct := orderly.distinct
  workers index :=
    { (orderly.workers index) with
      coherent := (orderly.coherent index).apply op
      ready := fun job ready program member =>
        ((orderly.workers index).ready job ready program member).apply changes }

variable {index : ℕ}
variable {next : Caller F count}

section

variable (orderly : service.Orderly)
include orderly

theorem Orderly.moved
    {old : Caller F count}
    {pool : Pool count}
    {jobs : List Job}
    (found : service.callers[index]? = some old)
    (busy : old.isDone = false)
    (inOrder : next.isDone = false → next.InOrder service.pool.registry)
    (registry : pool.registry = service.pool.registry)
    (queue : ∀ job ∈ jobs, job.Awaited (service.callers.set index next) .queued)
    (distinct : (jobs.map Job.caller).Nodup)
    (workers : ∀ worker, WorkerInOrder service.pool.registry (service.callers.set index next)
      worker (pool.worker worker)) :
    ({ service.withCaller index next with pool, jobs } : Service F count).Orderly where
  sound := registry ▸ orderly.sound
  settled := registry ▸ orderly.settled
  reloads := registry ▸ orderly.reloads
  apart caller member unfinished := by
    rcases List.mem_or_eq_of_mem_set member with before | rfl
    · exact orderly.apart caller before unfinished
    · exact orderly.apart old (List.mem_of_getElem? found) busy
  callers caller member unfinished := by
    rw [registry]
    rcases List.mem_or_eq_of_mem_set member with before | rfl
    · exact orderly.callers caller before unfinished
    · exact inOrder unfinished
  queue := queue
  distinct := distinct
  workers := registry ▸ workers

theorem Orderly.withCaller
    {old : Caller F count}
    (found : service.callers[index]? = some old)
    (busy : old.isDone = false)
    (free : old.stage.isUnderWay = false)
    (inOrder : next.isDone = false → next.InOrder service.pool.registry) :
    (service.withCaller index next).Orderly := by
  refine orderly.moved found busy inOrder rfl (fun job member => ?_) orderly.distinct
    fun worker => { (orderly.workers worker) with serves := fun job serves => ?_ }
  · refine (orderly.queue job member).set found (fun script queued => ?_) next
    simp [queued, CallerStage.isUnderWay] at free
  · refine ((orderly.workers worker).serves job serves).set found (fun script served => ?_) next
    simp [served, CallerStage.isUnderWay] at free

theorem Orderly.withReload
    {old next : ReloadStage}
    (found : service.reloads[index]? = some old)
    (busy : old.isDone = false)
    (inOrder : next.InOrder service.pool.registry)
    (settles : next.isDone = true → ∀ key script,
      service.pool.registry.scripts.lookup key = some script → ¬ script.Pending) :
    (service.withReload index next).Orderly :=
  { orderly with
    settled := fun finished => by
      have within := (List.getElem?_eq_some_iff.mp found).1
      exact settles (finished next (List.mem_set within next))
    reloads := fun stage member => by
      rcases List.mem_or_eq_of_mem_set member with before | rfl
      · exact orderly.reloads stage before
      · exact inOrder
    apart := fun caller member unfinished => by
      have finished := orderly.apart caller member unfinished old (List.mem_of_getElem? found)
      rw [busy] at finished
      cases finished }

theorem Orderly.withWorker
    {index : Fin count}
    {next : PoolWorker}
    (coherent : next.Coherent service.pool.registry)
    (same : next.phase.job = (service.pool.worker index).phase.job)
    (ready : ∀ job, next.phase = .ready job → ∀ program ∈ next.loaded,
      service.pool.registry.Has program) :
    ({ service with pool := service.pool.withWorker index next } : Service F count).Orderly :=
  { orderly with
    workers := Pool.forall_withWorker
      ⟨coherent, fun job serves => (orderly.workers index).serves job (same ▸ serves), ready⟩
      fun other _ => orderly.workers other }

section

variable (finished : ∀ stage ∈ service.reloads, stage.isDone = true)
include finished

theorem Orderly.swap
    (idle : ∀ caller ∈ service.callers, caller.isDone = true)
    (files : List ScriptFile)
    (report : ReloadReport) :
    ({ service.withOp (.reload files) with
      reloads := service.reloads ++ [.listing report] } : Service F count).Orderly := by
  have noWork : ∀ index job, (service.pool.worker index).phase.job ≠ some job := by
    intro index job serves
    obtain ⟨caller, script, present, served, -⟩ := (orderly.workers index).serves job serves
    have done := idle caller (List.mem_of_getElem? present)
    simp [Caller.isDone, served] at done
  refine
    { orderly with
      sound := ScriptRegistry.sound_reload _ files
      settled := fun done => ?_
      reloads := fun stage member => ?_
      apart := fun caller member unfinished => ?_
      callers := fun caller member unfinished => ?_
      workers := fun index =>
        { coherent := (orderly.coherent index).apply (.reload files)
          serves := fun job serves => absurd serves (noWork index job)
          ready := fun job ready => absurd (congrArg PoolPhase.job ready) (noWork index job) } }
  · exact absurd (done (.listing report) (by simp)) Bool.false_ne_true
  · rcases List.mem_append.mp member with before | new
    · cases stage with
      | done report => trivial
      | listing report => trivial
      | inspecting remaining report => cases finished _ before
    · rw [List.mem_singleton.mp new]
      trivial
  · rw [idle caller member] at unfinished
    cases unfinished
  · rw [idle caller member] at unfinished
    cases unfinished

theorem Orderly.good_of_active
    {kind : ScriptKind}
    {copy : Script}
    (member : copy ∈ service.pool.registry.byKind kind) :
    Good service.pool.registry kind copy := by
  obtain ⟨key, found, same, active⟩ := ScriptRegistry.mem_byKind.mp member
  have sound := orderly.sound key copy found
  refine ⟨sound.recorded fun empty => orderly.settled finished key copy found ⟨active, empty⟩, same,
    copy, ?_, rfl⟩
  rw [sound.named]
  exact found

theorem Orderly.begin
    (errand : Errand F) :
    ({ service with
      callers := service.callers ++
        [⟨errand, service.pool.registry.byKind errand.kind, .choosing⟩] } :
      Service F count).Orderly :=
  { orderly with
    apart := fun _ _ _ => finished
    callers := fun caller member unfinished => by
      rcases List.mem_append.mp member with before | new
      · exact orderly.callers caller before unfinished
      · rw [List.mem_singleton.mp new]
        exact
          { remaining := fun copy listed => orderly.good_of_active finished listed
            called := fun script called => by cases called
            queueing := fun script scriptID queueing => by cases queueing }
    queue := fun job member => (orderly.queue job member).append _
    workers := fun index =>
      { (orderly.workers index) with
        serves := fun job serves => ((orderly.workers index).serves job serves).append _ } }

end

end

theorem Orderly.inOrder_list (orderly : service.Orderly) (report : ReloadReport) :
    (ReloadStage.inspecting service.pool.registry.list report).InOrder service.pool.registry := by
  refine ⟨fun key script found pending => ?_, fun copy member => ?_⟩
  · have sound := orderly.sound key script found
    refine ⟨script, ScriptRegistry.mem_list.mpr ⟨key, found⟩, sound.named, ?_⟩
    rw [Script.running, if_pos pending.1]
    exact sound.compiled pending.1
  · obtain ⟨key, found⟩ := ScriptRegistry.mem_list.mp member
    rw [(orderly.sound key copy found).named]
    exact ⟨copy, found, rfl⟩

theorem readMeta_eq_ok
    {kind : ScriptKind}
    {program : Program}
    {failure : Option String}
    {declared : ScriptMeta}
    (read : readMeta kind program failure = .ok declared) :
    ScriptHost.declared program.source = some declared ∧ metaProblem kind declared = none := by
  unfold readMeta at read
  split at read
  · cases read
  · split at read
    · cases read
    · next declares =>
        split at read
        · cases read
        · next valid =>
            cases read
            exact ⟨declares, valid⟩

variable {script : Script} {rest : List Script} {report : ReloadReport}

omit [ScriptHost] in
/-- A turn of the loop of a reload leaves the rest in order, if the script in hand is
no longer pending. -/
theorem inOrder_rest
    {registry : ScriptRegistry}
    {later : ReloadReport}
    (inOrder : (ReloadStage.inspecting (script :: rest) report).InOrder registry)
    (handled : ∀ current, registry.scripts.lookup script.key = some current →
      script.running.isSome = true → ¬ current.Pending) :
    (ReloadStage.inspecting rest later).InOrder registry := by
  refine ⟨fun key current found pending => ?_, fun copy member =>
    inOrder.2 copy (List.mem_cons_of_mem _ member)⟩
  obtain ⟨copy, member, rfl, runs⟩ := inOrder.1 key current found pending
  rcases List.mem_cons.mp member with rfl | later
  · exact absurd pending (handled current found runs)
  · exact ⟨copy, later, rfl, runs⟩

theorem Orderly.inspected
    (orderly : service.Orderly)
    (op : RegistryOp)
    (found : service.reloads[index]? = some (.inspecting (script :: rest) report))
    (changes : ∀ files, op ≠ .reload files)
    (sound : (service.pool.registry.apply op).Sound)
    (pending : ScriptRegistry.NoNewPending service.pool.registry
      (service.pool.registry.apply op))
    (handled : ∀ current, (service.pool.registry.apply op).scripts.lookup script.key =
      some current → ¬ current.Pending)
    (later : ReloadReport) :
    ((service.withOp op).withReload index (.inspecting rest later)).Orderly := by
  have inOrder := (orderly.reloads _ (List.mem_of_getElem? found)).apply changes pending
  have moved := orderly.withOp changes sound pending
  refine moved.withReload found rfl (inOrder_rest inOrder fun current present _ => ?_) nofun
  exact handled current present

variable {remaining : List Script}

/-- One turn of the loop of a reload. -/
theorem Orderly.inspect
    (orderly : service.Orderly)
    (found : service.reloads[index]? = some (.inspecting remaining report))
    (failure : Option String) :
    (service.inspect index failure remaining report).Orderly := by
  have inOrder := orderly.reloads _ (List.mem_of_getElem? found)
  cases remaining with
  | nil =>
      refine orderly.withReload found rfl trivial fun _ key script present pending => ?_
      obtain ⟨copy, member, -⟩ := inOrder.1 key script present pending
      cases member
  | cons script rest =>
      obtain ⟨current, present, code⟩ := inOrder.2 script (List.mem_cons_self ..)
      unfold Service.inspect
      dsimp only
      unfold Script.inspection
      cases running : script.running with
      | none =>
          refine orderly.withReload found rfl (inOrder_rest inOrder fun _ _ runs => ?_) nofun
          rw [running] at runs
          cases runs
      | some program =>
          dsimp only [Option.map_some]
          split
          · next text _ =>
              refine orderly.inspected (.markFailed script.key text) found nofun
                (orderly.sound.markFailed _ _) ?_ ?_ _
              · exact ScriptRegistry.noNewPending_touch fun _ _ pending => by cases pending.1
              · intro after presentAfter pending
                obtain ⟨before, -, rfl⟩ := ScriptRegistry.lookup_touch_self presentAfter
                cases pending.1
          · next declared read =>
              obtain ⟨declares, valid⟩ := readMeta_eq_ok read
              have named := (metaProblem_eq_none valid).1
              have compiled := (Option.ite_none_right_eq_some.mp running).2
              refine orderly.inspected (.setMeta script.key declared) found nofun ?_ ?_ ?_ _
              · refine orderly.sound.setMeta present
                  ((congrArg Prod.snd code).trans compiled) declares ?_
                rw [show current.kind = script.kind from congrArg Prod.fst code]
                exact valid
              · exact ScriptRegistry.noNewPending_touch fun _ _ pending =>
                  absurd pending.2 named
              · intro after presentAfter pending
                obtain ⟨before, -, rfl⟩ := ScriptRegistry.lookup_touch_self presentAfter
                exact absurd pending.2 named

variable {errand : Errand F}

section

variable (orderly : service.Orderly)
include orderly

theorem Orderly.choose
    (found : service.callers[index]? = some ⟨errand, script :: rest, .choosing⟩) :
    (service.withCaller index
      ⟨errand, rest, if errand.wants script then .calling script else .choosing⟩).Orderly := by
  have inOrder := orderly.callers _ (List.mem_of_getElem? found) rfl
  refine orderly.withCaller found rfl rfl fun _ =>
    { remaining := fun copy member => inOrder.remaining copy (List.mem_cons_of_mem _ member)
      called := fun other called => ?_
      queueing := fun other scriptID queueing => ?_ }
  · dsimp only at called ⊢
    split_ifs at called with wants
    · cases called
      exact ⟨inOrder.remaining script (List.mem_cons_self ..), wants⟩
    · cases called
  · dsimp only at queueing
    split_ifs at queueing

theorem Orderly.get
    (found : service.callers[index]? = some ⟨errand, remaining, .calling script⟩) :
    (service.withCaller index ⟨errand, remaining,
      match (service.pool.registry.get script.key).bind Script.running with
      | some program => .queueing script program.id
      | none => .choosing⟩).Orderly := by
  have inOrder := orderly.callers _ (List.mem_of_getElem? found) rfl
  refine orderly.withCaller found rfl rfl fun _ => inOrder.withStage ?_ ?_
  · intro other called
    split at called
    · exact called
    · cases called
  · intro other scriptID queueing
    split at queueing
    · next program running =>
        cases queueing
        obtain ⟨current, present, compiled⟩ := Option.bind_eq_some_iff.mp running
        exact (orderly.sound script.key current present).programNamed program
          (Option.ite_none_right_eq_some.mp compiled).2
    · cases queueing

theorem Orderly.submit
    {scriptID : String}
    (found : service.callers[index]? = some ⟨errand, remaining, .queueing script scriptID⟩)
    (fn : String) :
    ({ service.withCaller index ⟨errand, remaining, .queued script⟩ with
      jobs := service.jobs ++ [⟨index, scriptID, fn⟩] } : Service F count).Orderly := by
  have inOrder := orderly.callers _ (List.mem_of_getElem? found) rfl
  have moved : (service.withCaller index ⟨errand, remaining, .queued script⟩).Orderly :=
    orderly.withCaller found rfl rfl fun _ =>
      inOrder.withStage (fun _ called => called) (fun _ _ queueing => by cases queueing)
  have within := (List.getElem?_eq_some_iff.mp found).1
  have fresh : index ∉ service.jobs.map Job.caller := by
    intro member
    obtain ⟨job, listed, rfl⟩ := List.mem_map.mp member
    obtain ⟨_, queued, -⟩ := (orderly.queue job listed).caller found
    cases queued
  refine { moved with queue := fun job member => ?_, distinct := ?_ }
  · rcases List.mem_append.mp member with before | new
    · exact moved.queue job before
    · rw [List.mem_singleton.mp new]
      exact ⟨⟨errand, remaining, .queued script⟩, script,
        by simp [Service.withCaller, within], rfl, inOrder.queueing script scriptID rfl⟩
  · rw [List.map_append, List.nodup_append_comm]
    exact List.nodup_cons.mpr ⟨fresh, orderly.distinct⟩

variable {job : Job}

theorem Orderly.take
    {index : Fin count}
    {rest : List Job}
    (queue : service.jobs = job :: rest)
    (found : service.callers[job.caller]? = some ⟨errand, remaining, .queued script⟩)
    (idle : (service.pool.worker index).phase = .idle) :
    ({ service.withCaller job.caller ⟨errand, remaining, .served script index⟩ with
      pool := service.pool.withWorker index
        { service.pool.worker index with phase := .took job }
      jobs := rest } : Service F count).Orderly := by
  have inOrder := orderly.callers _ (List.mem_of_getElem? found) rfl
  have within := (List.getElem?_eq_some_iff.mp found).1
  obtain ⟨_, queued, named⟩ := (orderly.queue job (by simp [queue])).caller found
  cases queued
  have distinct := orderly.distinct
  rw [queue, List.map_cons, List.nodup_cons] at distinct
  refine orderly.moved found rfl (fun _ => inOrder.withStage (fun _ called => called)
    (fun _ _ queueing => by cases queueing)) rfl (fun other member => ?_) distinct.2
    (Pool.forall_withWorker ?_ fun other _ =>
      { (orderly.workers other) with serves := fun served serves => ?_ })
  · refine (orderly.queue other (queue ▸ List.mem_cons_of_mem _ member)).set_of_ne ?_ _
    exact fun equal => distinct.1 (equal ▸ List.mem_map_of_mem member)
  · refine ⟨(orderly.coherent index).turns (.took job idle), fun served serves => ?_,
      fun _ ready => by cases ready⟩
    cases serves
    exact ⟨⟨errand, remaining, .served script index⟩, script, List.getElem?_set_self within,
      rfl, named⟩
  · refine ((orderly.workers other).serves served serves).set found (fun _ same => ?_) _
    cases same

variable {caller : Caller F count}

theorem Orderly.reply
    {index : Fin count}
    (found : service.callers[job.caller]? = some caller)
    (served : caller.stage = .served script index)
    {result : Except CallError String}
    (phase : (service.pool.worker index).phase = .replying job result) :
    ({ service with
        pool := service.pool.withWorker index
          { service.pool.worker index with phase := .idle } }.withCaller job.caller
      { caller with stage := .replied script result }).Orderly := by
  have busy : caller.isDone = false := by simp [Caller.isDone, served]
  have inOrder := orderly.callers _ (List.mem_of_getElem? found) busy
  refine orderly.moved found busy (fun _ => ?_) rfl (fun other member => ?_) orderly.distinct
    (Pool.forall_withWorker ?_ fun other here =>
      { (orderly.workers other) with serves := fun serves isServing => ?_ })
  · refine inOrder.withStage (fun copy called => ?_) (fun _ _ queueing => by cases queueing)
    rw [served]
    exact called
  · exact (orderly.queue other member).set found (fun _ queued => by simp [served] at queued) _
  · exact ⟨(orderly.coherent index).turns (.replied job result phase),
      (fun _ serves => by cases serves), fun _ ready => by cases ready⟩
  · refine ((orderly.workers other).serves serves isServing).set found (fun _ isServed => ?_) _
    rw [served] at isServed
    cases isServed
    exact here rfl

/-- A function that a worker runs is one that its source declares for the errand. -/
theorem Orderly.declared
    {index : Fin count}
    {program : Program}
    (phase : (service.pool.worker index).phase = .ready job)
    (exported : (service.pool.worker index).exports.lookup job.scriptID = some program)
    (found : service.callers[job.caller]? = some caller) :
    caller.errand.Declared program := by
  obtain ⟨script, served, named⟩ :=
    ((orderly.workers index).serves job (by rw [phase]; rfl)).caller found
  have inOrder := orderly.callers caller (List.mem_of_getElem? found)
    (by simp [Caller.isDone, served])
  obtain ⟨⟨recorded, kind, current, currentFound, code⟩, wants⟩ :=
    inOrder.called script (by rw [served]; rfl)
  -- The program is the one that the registry has for the script.
  obtain ⟨loaded, identified⟩ := (orderly.coherent index).exported _ _ exported
  obtain ⟨key, owner, ownerFound, owned⟩ := (orderly.workers index).ready job phase program loaded
  have sameKey : key = script.key :=
    ((orderly.sound key owner ownerFound).programNamed program owned).symm.trans
      (identified.trans named)
  subst sameKey
  rw [ownerFound, Option.some.injEq] at currentFound
  subst currentFound
  exact Errand.declared_of_wants recorded kind wants (code.symm.trans owned)

theorem Orderly.turn
    {index : Fin count}
    {turn : PoolTurn}
    {next : PoolWorker}
    {shown : List PoolEvent}
    (own : ∀ job, turn ≠ .take job)
    (turns : PoolWorker.Turns service.pool.registry (service.pool.worker index) turn next shown) :
    ({ service with pool := service.pool.withWorker index next }.apply
        (shown.map fun event => (index, event))).1.Orderly ∧
      ∀ event ∈ ({ service with pool := service.pool.withWorker index next }.apply
        (shown.map fun event => (index, event))).2, event.1.Declared event.2 := by
  have coherent := (orderly.coherent index).turns turns
  have silent : ∀ event ∈ ([] : List (Errand F × Program)), event.1.Declared event.2 :=
    List.forall_mem_nil _
  cases turns with
  | took job idle => exact absurd rfl (own job)
  | outdated job found =>
      exact ⟨orderly.withWorker coherent (by rw [found]; rfl)
        (fun _ ready => by cases ready), silent⟩
  | valid job found built same =>
      refine ⟨orderly.withWorker coherent (by rw [found]; rfl) fun _ _ program member => ?_, silent⟩
      have fresh := (orderly.coherent index).fresh built
        (by simp [PoolWorker.isBuilding, found]) same
      exact ScriptRegistry.has_of_mem_programs (fresh ▸ member)
  | renewed job found =>
      exact ⟨orderly.withWorker coherent (by rw [found]; rfl)
        (fun _ ready => by cases ready), silent⟩
  | loaded outcome job next found gen programs phase exported =>
      refine ⟨orderly.withWorker coherent (by rw [found, phase]; rfl) fun _ _ program member => ?_,
        silent⟩
      rw [programs] at member
      exact ScriptRegistry.has_of_mem_programs member
  | started callable job program found exported =>
      obtain ⟨caller, script, present, -⟩ :=
        (orderly.workers index).serves job (by rw [found]; rfl)
      have moved := orderly.withWorker coherent (by rw [found]; rfl) fun _ ready => by cases ready
      simp only [List.map_cons, List.map_nil, Service.apply, present]
      refine ⟨moved, fun event member => ?_⟩
      rw [List.mem_singleton.mp member]
      exact orderly.declared found exported present
  | refused callable job failure found =>
      exact ⟨orderly.withWorker coherent (by rw [found]; rfl)
        (fun _ ready => by cases ready), silent⟩
  | finished outcome job found =>
      exact ⟨orderly.withWorker coherent (by rw [found]; rfl)
        (fun _ ready => by cases ready), silent⟩
  | replied job result found =>
      obtain ⟨caller, script, present, served, -⟩ :=
        (orderly.workers index).serves job (by rw [found]; rfl)
      simp only [List.map_cons, List.map_nil, Service.apply, present, served]
      exact ⟨orderly.reply present served found, silent⟩

theorem Orderly.recordResult
    (key : String)
    (failure : Option String)
    (now : Time) :
    (service.withOp (.recordResult key failure now)).Orderly :=
  orderly.withOp nofun (orderly.sound.recordResult key failure now)
    (ScriptRegistry.noNewPending_recordResult _ key failure now)

end

theorem inOrder_accept
    {registry : ScriptRegistry}
    {checked : Checked F}
    (inOrder : caller.InOrder registry)
    (accepted : Caller.accept caller checked = some next) :
    next.isDone = false → next.InOrder registry := by
  intro unfinished
  cases checked with
  | kept observation =>
      obtain ⟨errand, remaining, stage⟩ := caller
      cases errand with
      | transform old =>
          cases accepted
          exact
            { remaining := inOrder.remaining
              called := fun script called => by cases called
              queueing := fun script scriptID queueing => by cases queueing }
      | handleEvent event => cases accepted
  | dropped =>
      obtain ⟨errand, remaining, stage⟩ := caller
      cases errand <;> cases accepted
      cases unfinished
  | accepted =>
      obtain ⟨errand, remaining, stage⟩ := caller
      cases errand with
      | transform old => cases accepted
      | handleEvent event =>
          cases accepted
          exact inOrder.withStage (fun _ called => by cases called)
            (fun _ _ queueing => by cases queueing)
  | rejected message => cases accepted

theorem Orderly.conclude
    {result : Except CallError String}
    {checked : Checked F}
    {now : Time}
    {after : Service F count}
    (orderly : service.Orderly)
    (found : service.callers[index]? = some ⟨errand, remaining, .replied script result⟩)
    (taken : service.conclude index ⟨errand, remaining, .replied script result⟩ script result
      checked now = some after) :
    after.Orderly := by
  have inOrder := orderly.callers _ (List.mem_of_getElem? found) rfl
  have recorded := fun failure => orderly.recordResult script.key failure now
  have kept : ∀ failure, Caller.InOrder
      (service.pool.registry.apply (.recordResult script.key failure now))
      (⟨errand, remaining, .replied script result⟩ : Caller F count) :=
    fun failure => inOrder.apply nofun
  unfold Service.conclude at taken
  split at taken
  · cases taken
    exact orderly.withCaller found rfl rfl fun unfinished => by cases unfinished
  · next failure _ =>
      cases taken
      exact (recorded (some failure.text)).withCaller found rfl rfl fun _ =>
        (kept (some failure.text)).withStage (fun _ called => by cases called)
          (fun _ _ queueing => by cases queueing)
  · obtain ⟨next, accepted, rfl⟩ := Option.map_eq_some_iff.mp taken
    exact (recorded none).withCaller found rfl rfl (inOrder_accept (kept none) accepted)

/-- One action of a quiet service. -/
theorem Orderly.step
    {queueSize : ℕ}
    {action : ServiceAction F count}
    {after : Service F count}
    {shown : List (Errand F × Program)}
    (orderly : service.Orderly)
    (quiet : Quiet service action)
    (taken : service.step queueSize action = some (after, shown)) :
    after.Orderly ∧ ∀ event ∈ shown, event.1.Declared event.2 := by
  have silent : ∀ event ∈ ([] : List (Errand F × Program)), event.1.Declared event.2 :=
    List.forall_mem_nil _
  cases action with
  | swap files =>
      cases taken
      exact ⟨orderly.swap quiet.1 quiet.2 files _, silent⟩
  | list index =>
      simp only [Service.step] at taken
      split at taken
      · next report found =>
          cases taken
          exact ⟨orderly.withReload found rfl (orderly.inOrder_list report)
            (fun finished => by cases finished), silent⟩
      · cases taken
  | inspect index failure =>
      simp only [Service.step] at taken
      split at taken
      · next remaining report found =>
          cases taken
          exact ⟨orderly.inspect found failure, silent⟩
      · cases taken
  | begin errand =>
      cases taken
      exact ⟨orderly.begin quiet errand, silent⟩
  | choose index =>
      simp only [Service.step] at taken
      split at taken
      · next errand found =>
          cases taken
          exact ⟨orderly.withCaller found rfl rfl (fun unfinished => by cases unfinished), silent⟩
      · next errand script rest found =>
          cases taken
          exact ⟨orderly.choose found, silent⟩
      · cases taken
  | get index =>
      simp only [Service.step] at taken
      split at taken
      · next errand remaining script found =>
          cases taken
          exact ⟨orderly.get found, silent⟩
      · cases taken
  | submit index =>
      simp only [Service.step] at taken
      split at taken
      · next errand remaining script scriptID found =>
          split_ifs at taken
          cases taken
          exact ⟨orderly.submit found _, silent⟩
      · cases taken
  | refuse index failure =>
      simp only [Service.step] at taken
      split at taken
      · next errand remaining script scriptID found =>
          cases taken
          have inOrder := orderly.callers _ (List.mem_of_getElem? found) rfl
          exact ⟨orderly.withCaller found rfl rfl fun _ =>
            inOrder.withStage (fun _ called => called) (fun _ _ queueing => by cases queueing),
            silent⟩
      · cases taken
  | take index =>
      simp only [Service.step] at taken
      split at taken
      · cases taken
      · next job rest queue =>
          split at taken
          · next errand remaining script pool events found stepped =>
              cases taken
              rcases Pool.step_cases orderly.coherent stepped with
                ⟨op, same, -⟩ | ⟨_, _, next, _, same, turns, rfl, -⟩
              · cases same
              · cases same
                cases turns with
                | took job idle => exact ⟨orderly.take queue found idle, silent⟩
          · cases taken
  | turn index turn =>
      have own : ∀ job, turn ≠ .take job := by
        rintro job rfl
        cases taken
      have stepped : (service.pool.step (.worker index turn)).map (fun stepped =>
          ({ service with pool := stepped.1 } : Service F count).apply stepped.2) =
            some (after, shown) := by
        cases turn with
        | take job => exact absurd rfl (own job)
        | _ => exact taken
      obtain ⟨⟨pool, events⟩, stepped, same⟩ := Option.map_eq_some_iff.mp stepped
      rcases Pool.step_cases orderly.coherent stepped with
        ⟨op, other, -⟩ | ⟨_, _, next, _, other, turns, rfl, rfl⟩
      · cases other
      · cases other
        have moved := orderly.turn own turns
        dsimp only at same
        rwa [same] at moved
  | conclude index checked now =>
      simp only [Service.step] at taken
      split at taken
      · next errand remaining script result found =>
          obtain ⟨next, concluded, same⟩ := Option.map_eq_some_iff.mp taken
          cases same
          exact ⟨orderly.conclude found concluded, silent⟩
      · cases taken
  | recordResult key failure now =>
      cases taken
      exact ⟨orderly.recordResult key failure now, silent⟩
  | setEnabled key enabled =>
      cases taken
      refine ⟨orderly.withOp nofun (orderly.sound.setEnabled key enabled) ?_, silent⟩
      refine ScriptRegistry.noNewPending_setEnabled ?_
      rintro rfl
      exact quiet

/-- In every quiet run, a transform is run only for observations whose metric the
source that runs declares, and an integration only for events whose type and severity
it declares; a source that declares nothing is not run. -/
theorem runs_declared
    {queueSize threshold : ℕ}
    {enabled : ScriptKind → String → Bool}
    {trace : List (Errand F × Program)}
    (reached : (machine F count queueSize).Reaches Quiet (.new enabled threshold) service trace) :
    ∀ errand program, (errand, program) ∈ trace → errand.Declared program := by
  have safe : service.Orderly ∧ ∀ event ∈ trace, event.1.Declared event.2 := by
    refine reached.invariant ?_ ?_
    · exact ⟨.new enabled threshold, List.forall_mem_nil _⟩
    · intro service action after trace shown _ ⟨orderly, declared⟩ quiet taken
      obtain ⟨next, shows⟩ := orderly.step quiet taken
      refine ⟨next, fun event member => ?_⟩
      rcases List.mem_append.mp member with before | new
      · exact declared event before
      · exact shows event new
  exact fun errand program member => safe.2 (errand, program) member

end Service

end InfraObserver

/-! ## A reload and a caller -/

namespace InfraObserver

attribute [local instance] ScriptHost.patterns

/-- An observation of a metric. -/
def observed (metric : String) : Observation ℤ :=
  ⟨"o", "c", "d", "s", metric, .bool true, ∅, 0, 0, ∅⟩

/-- A reload from start to end, of one script that declares a pattern. -/
def wholeReload (index : ℕ) (source : String) : List (ServiceAction ℤ 1) :=
  [.swap [transformFile source], .list index, .inspect index none, .inspect index none]

/-- A caller starts and calls the only script. -/
def callOnce (metric : String) : List (ServiceAction ℤ 1) :=
  [.begin (.transform (observed metric)), .choose 0, .get 0, .submit 0, .take soleWorker,
    .turn soleWorker .check, .turn soleWorker .renew, .turn soleWorker (.load fun _ => none),
    .turn soleWorker (.start true)]

instance {F : Type} {count : ℕ} (service : Service F count) : DecidablePred (Quiet service)
  | .swap _ => inferInstanceAs (Decidable (_ ∧ _))
  | .begin _ => inferInstanceAs (Decidable (∀ stage ∈ service.reloads, stage.isDone = true))
  | .setEnabled key true =>
      match found : service.pool.registry.get key with
      | none => isTrue fun script present => by rw [found] at present; cases present
      | some script =>
          decidable_of_iff (script.version ≠ "") (by simp [Quiet, found])
  | .setEnabled _ false | .list _ | .inspect .. | .choose _ | .get _ | .submit _ | .refuse ..
  | .take _ | .turn .. | .conclude .. | .recordResult .. => isTrue trivial

/-- The script is loaded, switched off and on again, and called. -/
def quietRun : List (ServiceAction ℤ 1) :=
  wholeReload 0 "cpu.*" ++
    [.setEnabled "transforms/t" false, .setEnabled "transforms/t" true] ++ callOnce "cpu.load"

/-- The call is one that the script declares. -/
theorem quiet_run_declared :
    ∃ service, (Service.machine ℤ 1 1).run (.new (fun _ _ => true) 3) quietRun =
        some (service, [(.transform (observed "cpu.load"), transformProgram "cpu.*")]) ∧
      (Errand.transform (observed "cpu.load")).Declared (transformProgram "cpu.*") := by
  have ended : ((Service.machine ℤ 1 1).run (.new (fun _ _ => true) 3) quietRun).map Prod.snd =
      some [(.transform (observed "cpu.load"), transformProgram "cpu.*")] := by decide +kernel
  have permits : (Service.machine ℤ 1 1).Permits Quiet (.new (fun _ _ => true) 3) quietRun := by
    decide +kernel
  obtain ⟨⟨service, trace⟩, ran, rfl⟩ := Option.map_eq_some_iff.mp ended
  exact ⟨service, ran, Service.runs_declared (Transition.Machine.reaches_run permits ran) _ _
    (List.mem_singleton_self _)⟩

/-- The same script is loaded twice, and a caller starts when the second reload has
swapped the scripts and not yet read what they declare. -/
def overlapRun : List (ServiceAction ℤ 1) :=
  wholeReload 0 "cpu.*" ++ [.swap [transformFile "cpu.*"]] ++ callOnce "disk.used"

/-- The script is run for a metric that it does not declare. -/
theorem overlap_run_undeclared :
    ∃ service, (Service.machine ℤ 1 1).run (.new (fun _ _ => true) 3) overlapRun =
        some (service, [(.transform (observed "disk.used"), transformProgram "cpu.*")]) ∧
      ¬ (Errand.transform (observed "disk.used")).Declared (transformProgram "cpu.*") := by
  have ended : ((Service.machine ℤ 1 1).run (.new (fun _ _ => true) 3) overlapRun).map Prod.snd =
      some [(.transform (observed "disk.used"), transformProgram "cpu.*")] := by decide +kernel
  obtain ⟨⟨service, trace⟩, ran, rfl⟩ := Option.map_eq_some_iff.mp ended
  refine ⟨service, ran, ?_⟩
  rintro ⟨declared, declares, -, wanted⟩
  cases declares
  revert wanted
  decide +kernel

end InfraObserver
