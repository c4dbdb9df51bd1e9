import InfraObserver.Automation.Gates

/-!
# Incidents

A request belongs to the event that opened an alert, but the alert gate looks the
alert up by its key. An action is taken for its own incident as long as no other
alert fires under the key when the gate is passed, and the pipeline does not resolve
the alert between the gate and the action.
-/

namespace InfraObserver

open Interleaving (World Machine)

/-! ## Alerts and their events -/

section Alerts

variable {F : Type}

/-- Every alert was opened by a stored event, and every event opens at most one
alert. -/
structure MemStore.AlertsLogged (store : MemStore F) : Prop where
  logged : ∀ alert ∈ store.alerts, ∃ event, store.events.lookup alert.openEventID = some event ∧
    alert.openedAt = event.occurredAt
  distinct : (store.alerts.map Alert.openEventID).Nodup

/-- What the pipeline and the engine keep about events and alerts. -/
structure AlertsKept (store after : MemStore F) : Prop where
  events : ∀ id event, store.events.lookup id = some event → after.events.lookup id = some event
  resolved : ∀ alert ∈ store.alerts, alert.status = .resolved → alert ∈ after.alerts

namespace AlertsKept

variable {store between after : MemStore F}

theorem refl (store : MemStore F) : AlertsKept store store :=
  ⟨fun _ _ found => found, fun _ member _ => member⟩

theorem trans (first : AlertsKept store between) (second : AlertsKept between after) :
    AlertsKept store after :=
  ⟨fun id event found => second.events id event (first.events id event found),
    fun alert member status => second.resolved alert (first.resolved alert member status) status⟩

theorem of_tables (events : after.events = store.events) (alerts : after.alerts = store.alerts) :
    AlertsKept store after :=
  ⟨fun _ _ found => events ▸ found, fun _ member _ => alerts ▸ member⟩

end AlertsKept

variable {event : Event} {store after : MemStore F}

theorem Noted.alertsKept (noted : Noted event store after) : AlertsKept store after := by
  constructor
  · intro id old found
    rw [noted.events, StringMap.lookup_insert_ite, if_neg, found]
    rintro rfl
    rw [noted.fresh] at found
    cases found
  · intro alert member status
    rcases noted.alerts with same | opened | ⟨earlier, firing, later, split, fires, replaced⟩
    · rwa [same]
    · rw [opened]
      exact List.mem_append_left _ member
    · rw [replaced]
      rw [split] at member
      rcases List.mem_append.mp member with old | rest
      · exact List.mem_append_left _ old
      · rcases List.mem_cons.mp rest with rfl | old
        · simp [Alert.fires, status] at fires
        · exact List.mem_append_right _ (List.mem_cons_of_mem _ old)

theorem MemStore.AlertsLogged.of_tables
    (logged : store.AlertsLogged)
    (events : after.events = store.events)
    (alerts : after.alerts = store.alerts) :
    after.AlertsLogged :=
  ⟨alerts ▸ events ▸ logged.logged, alerts ▸ logged.distinct⟩

theorem MemStore.AlertsLogged.noted
    (logged : store.AlertsLogged)
    (noted : Noted event store after) :
    after.AlertsLogged := by
  have kept := noted.alertsKept.events
  rcases noted.alerts with same | opened | ⟨earlier, firing, later, split, _, replaced⟩
  · constructor
    · intro alert member
      obtain ⟨cause, found, openedAt⟩ := logged.logged alert (same ▸ member)
      exact ⟨cause, kept _ _ found, openedAt⟩
    · rw [same]
      exact logged.distinct
  · constructor
    · intro alert member
      rw [opened] at member
      rcases List.mem_append.mp member with old | new
      · obtain ⟨cause, found, openedAt⟩ := logged.logged alert old
        exact ⟨cause, kept _ _ found, openedAt⟩
      · obtain rfl := List.mem_singleton.mp new
        exact ⟨event, by rw [noted.events]; exact Finmap.lookup_insert _, rfl⟩
    · rw [opened]
      refine Keyed.nodup_map_concat logged.distinct ?_
      intro taken
      obtain ⟨alert, member, same⟩ := List.mem_map.mp taken
      obtain ⟨cause, found, _⟩ := logged.logged alert member
      rw [show alert.openEventID = event.eventID from same, noted.fresh] at found
      cases found
  · constructor
    · intro alert member
      rw [replaced] at member
      have known : ∀ old ∈ store.alerts, ∃ cause,
          after.events.lookup (Alert.openEventID old) = some cause ∧
            Alert.openedAt old = cause.occurredAt := by
        intro old member
        obtain ⟨cause, found, openedAt⟩ := logged.logged old member
        exact ⟨cause, kept _ _ found, openedAt⟩
      rcases List.mem_append.mp member with old | rest
      · exact known alert (split ▸ List.mem_append_left _ old)
      · rcases List.mem_cons.mp rest with rfl | old
        · exact known firing (split ▸ List.mem_append_right _ (List.mem_cons_self ..))
        · exact known alert (split ▸ List.mem_append_right _ (List.mem_cons_of_mem _ old))
    · have distinct := logged.distinct
      rw [split] at distinct
      rw [replaced]
      simpa [Alert.resolvedBy] using distinct

theorem MemStore.AlertsLogged.unique
    (logged : store.AlertsLogged)
    {left right : Alert}
    (member : left ∈ store.alerts)
    (member' : right ∈ store.alerts)
    (same : left.openEventID = right.openEventID) :
    left = right :=
  List.inj_on_of_nodup_map logged.distinct member member' same

end Alerts

/-! ## Runs in which requests meet their own alerts -/

variable {F : Type} [Platform]

/-- A handled event is one that the pipeline has stored. -/
def Delivered [GoFloat F] (world : EngineWorld F) : EngineAction F → Prop
  | .start (.handleEvent event) =>
      world.shared.store.events.lookup event.eventID = some event
  | _ => True

/-- The pipeline leaves the alert of the request firing while a live worker is between the
alert gate and the action. -/
def Undisturbed [GoFloat F] (engine : Engine) (id : String) (world : EngineWorld F) :
    EngineAction F → Prop
  | .disturb (.process processor attempt sample) =>
      ∀ holder ∈ holders engine world, holder.2.request.requestID = id →
        holder.2.firing = true → holder.2.executed = false →
        ∀ alert ∈ world.shared.store.alerts, alert.openEventID = holder.2.request.eventID →
          alert.status = .firing →
          alert ∈ (processor.process attempt sample world.shared.store).2.alerts
  | _ => True

/-- When the alert of the request is looked up, no alert that another event opened
fires under its key. -/
def NotReopened [GoFloat F]
    (engine : Engine)
    (id : String)
    (world : EngineWorld F)
    (action : EngineAction F) : Prop :=
  match storing world action with
  | some (thread, .alertFiring alertKey) =>
      ∀ claim ∈ (worker engine thread world.trace).claim, claim.request.requestID = id →
        ∀ alert ∈ world.shared.store.alerts, alert.fires alertKey = true →
          alert.openEventID = claim.request.eventID
  | _ => True

/-- All four conditions: the clock never goes back, events are delivered as they
are stored, and the alert gate is safe for the request. -/
def IncidentSafe [GoFloat F]
    (engine : Engine)
    (id : String)
    (world : EngineWorld F)
    (action : EngineAction F) : Prop :=
  ClockForward world action ∧ Delivered world action ∧ Undisturbed engine id world action ∧
    NotReopened engine id world action

instance [GoFloat F] (world : EngineWorld F) : DecidablePred (Delivered world) := fun action => by
  unfold Delivered
  split <;> infer_instance

instance [GoFloat F]
    (engine : Engine)
    (id : String)
    (world : EngineWorld F)
    (action : EngineAction F) :
    Decidable (IncidentSafe engine id world action) := by
  have undisturbed : Decidable (Undisturbed engine id world action) := by
    unfold Undisturbed
    split <;> infer_instance
  have notReopened : Decidable (NotReopened engine id world action) := by
    unfold NotReopened
    generalize storing world action = stored
    rcases stored with _ | ⟨_, _ | _ | _ | _ | _ | _ | _ | _ | _ | _⟩ <;> infer_instance
  unfold IncidentSafe
  infer_instance

/-- The request that a thread is about to act for. -/
def actsNext (world : EngineWorld F) (thread : ℕ) : Option String :=
  match world.pending thread with
  | some (.execute _ action) => some action.requestID
  | _ => none

theorem Shared.alertFiring_found
    {shared : Shared F}
    {alertKey : String}
    {choice : Choice}
    (found : (shared.respond (.store (.alertFiring alertKey)) choice).1 = .ok true) :
    ∃ alert ∈ shared.store.alerts, alert.fires alertKey = true :=
  List.any_eq_true.mp (Except.ok.inj (respond_ok found))

section Reachable

variable [GoFloat F]
variable {engine : Engine} {clock : Time} {config : Config}
variable {allowed : EngineWorld F → EngineAction F → Prop} {start world : EngineWorld F}

theorem alertsLogged_of_reaches
    (reached : (system F engine).Reaches allowed (fresh F clock config) world) :
    world.shared.store.AlertsLogged := by
  refine reached.invariant ⟨?_, ?_⟩ ?_
  · simp [fresh, World.initial, MemStore.new]
  · simp [fresh, World.initial, MemStore.new]
  intro world action after _ logged _ moves
  cases Advance.of_moves moves with
  | stored writer choice call op rest answer store running effect answered =>
      exact logged.of_tables effect.sameAlerts.1 effect.sameAlerts.2
  | processed processor attempt sample =>
      refine processor.process_preserves MemStore.AlertsLogged ?_ ?_ attempt sample logged
      · intro store after same logged
        exact logged.of_tables same.events same.alerts
      · intro event store after noted logged
        exact logged.noted noted
  | _ => exact logged

theorem alertsKept_of_moves
    {action : EngineAction F}
    {after : EngineWorld F}
    (moves : (system F engine).Moves world action after) :
    AlertsKept world.shared.store after.shared.store := by
  cases Advance.of_moves moves with
  | stored writer choice call op rest answer store running effect answered =>
      exact .of_tables effect.sameAlerts.1 effect.sameAlerts.2
  | processed processor attempt sample =>
      refine processor.process_preserves (AlertsKept world.shared.store) ?_ ?_ attempt sample
        (.refl _)
      · intro store after same kept
        exact kept.trans (.of_tables same.events same.alerts)
      · intro event store after noted kept
        exact kept.trans noted.alertsKept
  | _ => exact .refl _

theorem alertsKept_of_reaches
    (reached : (system F engine).Reaches allowed start world) :
    AlertsKept start.shared.store world.shared.store := by
  refine reached.invariant (.refl _) ?_
  intro world action after _ kept _ moves
  exact kept.trans (alertsKept_of_moves moves)

theorem delivered_of_reaches
    (delivered : ∀ world action, allowed world action → Delivered world action)
    (reached : (system F engine).Reaches allowed (fresh F clock config) world) :
    (∀ event, ∀ thread ∈ world.threads, thread.call = .handleEvent event →
        world.shared.store.events.lookup event.eventID = some event) ∧
      ∀ event, ∀ entry ∈ world.trace, entry.call = .handleEvent event →
        world.shared.store.events.lookup event.eventID = some event := by
  refine reached.invariant ?_ ?_
  · constructor <;> intro event _ impossible <;> cases impossible
  rintro world action after _ ⟨threads, trace⟩ permitted moves
  have kept := (alertsKept_of_moves moves).events
  cases moves with
  | started call =>
      refine ⟨?_, trace⟩
      intro event thread member handles
      rcases List.mem_append.mp member with old | new
      · exact threads event thread old handles
      · obtain rfl := List.mem_singleton.mp new
        obtain rfl : call = .handleEvent event := handles
        exact delivered world _ permitted
  | idle => exact ⟨threads, trace⟩
  | performed writer call op rest choice running =>
      have handled : ∀ event, call = .handleEvent event →
          world.shared.store.events.lookup event.eventID = some event := fun event handles =>
        threads event _ (List.mem_of_getElem? running) handles
      constructor
      · intro event thread member handles
        refine kept _ _ ?_
        rcases List.mem_or_eq_of_mem_set member with old | rfl
        · exact threads event thread old handles
        · exact handled event handles
      · intro event entry member handles
        refine kept _ _ ?_
        rcases List.mem_cons.mp member with rfl | old
        · exact handled event handles
        · exact trace event entry old handles
  | crashed thread =>
      refine ⟨?_, trace⟩
      intro event other member handles
      obtain ⟨index, found⟩ := List.mem_iff_getElem?.mp member
      rw [List.getElem?_modify] at found
      obtain ⟨old, present, rfl⟩ := Option.map_eq_some_iff.mp found
      refine threads event old (List.mem_of_getElem? present) ?_
      split_ifs at handles <;> exact handles
  | disturbed env =>
      exact ⟨fun event thread member handles => kept _ _ (threads event thread member handles),
        fun event entry member handles => kept _ _ (trace event entry member handles)⟩

/-- While a live worker has passed the alert gate for the request and has not acted, the
request's own alert is firing. -/
theorem firing_of_reaches
    {id : String}
    (undisturbed : ∀ world action, allowed world action → Undisturbed engine id world action)
    (notReopened : ∀ world action, allowed world action → NotReopened engine id world action)
    (reached : (system F engine).Reaches allowed (fresh F clock config) world) :
    ∀ thread claim, Holds engine world thread claim → claim.request.requestID = id →
      claim.firing = true → claim.executed = false → ∃ alert ∈ world.shared.store.alerts,
        alert.openEventID = claim.request.eventID ∧ alert.status = .firing := by
  refine reached.invariant ?_ ?_
  · rintro thread claim ⟨_, impossible⟩
    cases impossible
  intro world action after reached holds permitted moves
  cases Advance.of_moves moves with
  | rescheduled _ threads fewer =>
      intro thread claim held
      exact holds thread claim (held.rescheduled (obedient_of_reaches reached) fewer)
  | stored writer choice call op rest answer store running effect answered =>
      intro thread claim held own firing unexecuted
      change ∃ alert ∈ store.alerts, _
      rw [effect.sameAlerts.2]
      have live : world.Live writer := World.live_of_running running
      rcases held.performed with ⟨_, before⟩ | ⟨rfl, found⟩
      · exact holds thread claim before own firing unexecuted
      obtain ⟨old, known, request, earlier, gate⟩ :=
        (View.claimStep_of_observe found).firing firing
      rw [request] at own ⊢
      rcases gate with passed | ⟨alertKey, same, answered'⟩
      · exact holds thread old ⟨live, known⟩ own passed (earlier unexecuted)
      · obtain rfl := EngineOp.store.inj same
        obtain ⟨alert, member, fires⟩ :=
          Shared.alertFiring_found (answered.symm.trans (eq_of_heq answered'))
        have safe := notReopened world _ permitted
        rw [NotReopened, storing_of_running running] at safe
        refine ⟨alert, member, safe old known own alert member fires, ?_⟩
        exact of_decide_eq_true (Bool.and_eq_true_iff.mp fires).2
  | asked writer choice call op rest answer running other answered =>
      intro thread claim held own firing unexecuted
      have live : world.Live writer := World.live_of_running running
      rcases held.performed with ⟨_, before⟩ | ⟨rfl, found⟩
      · exact holds thread claim before own firing unexecuted
      obtain ⟨old, known, request, earlier, gate⟩ :=
        (View.claimStep_of_observe found).firing firing
      rw [request] at own ⊢
      rcases gate with passed | ⟨alertKey, rfl, _⟩
      · exact holds thread old ⟨live, known⟩ own passed (earlier unexecuted)
      · exact absurd rfl (other _)
  | clock time => exact holds
  | configured config => exact holds
  | processed processor attempt sample =>
      intro thread claim held own firing unexecuted
      obtain ⟨alert, member, opens, status⟩ := holds thread claim held own firing unexecuted
      exact ⟨alert, undisturbed world _ permitted (thread, claim)
        ((mem_holders engine world thread claim).mpr held) own firing unexecuted alert member opens
        status, opens, status⟩

/-! ## Waiting -/

/-- A request as it was drafted from an event, with its wait over. -/
def Awaited (world : EngineWorld F) (request : AutomationRequest) : Prop :=
  request.notBefore ≤ world.shared.clock ∧ ∃ event policy,
    CreatedFrom world.trace request event policy ∧
      request.notBefore = Time.add event.occurredAt policy.conditions.duration

/-- Requests that are worked on have waited for the duration of their policies. -/
structure OnTime (engine : Engine) (world : EngineWorld F) : Prop where
  started : ∀ id request, world.shared.store.autoReq.lookup id = some request →
    request.status ≠ .pending → request.status.terminal = false →
    request.notBefore ≤ world.shared.clock
  due : ∀ thread, ∀ request ∈ (worker engine thread world.trace).due, Awaited world request

theorem OnTime.stored
    (onTime : OnTime engine world)
    (reached : (system F engine).Reaches allowed (fresh F clock config) world)
    (forward : ∀ world action, allowed world action → ClockForward world action)
    {writer : ℕ}
    {choice : Choice}
    {call : EngineCall}
    {op : AutomationOp}
    {rest : Except Error op.Answer → EngineM Unit}
    {answer : Except Error op.Answer}
    {store : MemStore F}
    (running : world.threads[writer]? = some ⟨call, .call (.store op) rest⟩)
    (effect : op.Effect world.shared.store answer store)
    (answered : answer = (world.shared.respond (.store op) choice).1) :
    OnTime engine (operated world writer call op answer store (rest answer)) := by
  have ledger := ledger_of_reaches reached
  have may := mayIssue_of_reaches reached running
  constructor
  · intro id request found moved unsettled
    rcases effect.lookup_after found with ⟨old, present, rewrites⟩ | ⟨message, rfl, _⟩
    · have begun : old.status ≠ .pending → old.status.terminal = false →
          old.notBefore ≤ world.shared.clock := onTime.started id old present
      cases rewrites with
      | untouched => exact begun moved unsettled
      | claimed now lease ready =>
          obtain ⟨_, _, _, snapshot, member, rfl, _⟩ := may
          obtain ⟨⟨stored, known, core⟩, _⟩ := ledger.snapshots .tick writer snapshot
            ((View.mem_snapshots _ _).mpr (Or.inr (Or.inl member)))
          obtain rfl : stored = old := Option.some.inj (known.symm.trans present)
          change stored.notBefore ≤ world.shared.clock
          rw [AutomationRequest.notBefore_of_core core]
          exact (onTime.due writer snapshot member).1
      | moved sources status listed =>
          obtain ⟨rfl, _⟩ := may
          have executing := List.mem_singleton.mp listed
          exact begun (by rw [executing]; decide) (by rw [executing]; rfl)
      | approved by_ waiting =>
          exact begun (by rw [waiting]; decide) (by rw [waiting]; rfl)
      | completed result message named unfinished =>
          rw [show result.status.terminal = true from may.2.2.terminal] at unsettled
          cases unsettled
    · obtain ⟨_, _, _, event, config, device, policy, _, _, _, drafted⟩ := may
      rcases drafted.delayed with ⟨pending, _⟩ | denied
      · exact absurd pending moved
      · rw [denied] at unsettled
        cases unsettled
  · intro thread request member
    by_cases reads : readsDue thread
        (⟨writer, call, .store op, answer, world.shared⟩ : EngineEntry F) = true
    · obtain ⟨_, now, lease, limit, due, _, same⟩ := readsDue_iff.mp reads
      cases same
      rw [worker_cons_self] at member
      obtain ⟨id, found, isDue⟩ := MemStore.mem_dueAutomation
        (Except.ok.inj (Shared.respond_ok answered.symm) ▸ member)
      have read : now ≤ world.shared.clock :=
        clock_of_reaches forward reached writer now (Or.inl may.2.1)
      obtain ⟨unsettled, waited⟩ := MemStore.isDue_waited isDue
      obtain ⟨event, policy, created, delayed⟩ := ledger.created id request found
      refine ⟨?_, event, policy, created.later, delayed unsettled⟩
      by_cases pending : request.status = .pending
      · exact (waited pending).trans read
      · exact onTime.started id request found pending unsettled
    · rw [due_of_not_readsDue (by simpa using reads)] at member
      obtain ⟨waited, event, policy, created, delayed⟩ := onTime.due thread request member
      exact ⟨waited, event, policy, created.later, delayed⟩

theorem onTime_of_reaches
    (forward : ∀ world action, allowed world action → ClockForward world action)
    (reached : (system F engine).Reaches allowed (fresh F clock config) world) :
    OnTime engine world := by
  refine reached.invariant ?_ ?_
  · constructor
    · intro id request impossible
      simp [fresh, World.initial, MemStore.new] at impossible
    · intro thread request impossible
      cases impossible
  intro world action after reached onTime permitted moves
  cases Advance.of_moves moves with
  | rescheduled _ threads fewer => exact ⟨onTime.started, onTime.due⟩
  | stored writer choice call op rest answer store running effect answered =>
      exact onTime.stored reached forward running effect answered
  | asked writer choice call op rest answer running other answered =>
      refine ⟨onTime.started, fun thread request member => ?_⟩
      have silent : readsDue thread
          (⟨writer, call, op, answer, world.shared⟩ : EngineEntry F) = false := by
        by_contra reads
        obtain ⟨_, now, lease, limit, due, _, same⟩ :=
          readsDue_iff.mp (Bool.not_eq_false _ ▸ reads)
        cases same
        exact other _ rfl
      rw [due_of_not_readsDue silent] at member
      obtain ⟨waited, event, policy, created, delayed⟩ := onTime.due thread request member
      exact ⟨waited, event, policy, created.later, delayed⟩
  | clock time =>
      have later : world.shared.clock ≤ time := forward world _ permitted
      constructor
      · intro id request found moved unsettled
        exact (onTime.started id request found moved unsettled).trans later
      · intro thread request member
        obtain ⟨waited, created⟩ := onTime.due thread request member
        exact ⟨waited.trans later, created⟩
  | configured config => exact ⟨onTime.started, onTime.due⟩
  | processed processor attempt sample =>
      have same := processor.process_sameRequests attempt sample world.shared.store
      refine ⟨?_, onTime.due⟩
      intro id request found
      exact onTime.started id request (same.autoReq ▸ found)

/-! ## Actions and their incidents -/

omit [GoFloat F] in
theorem actsNext_eq_some
    {thread : ℕ}
    {id : String}
    (next : actsNext world thread = some id) :
    ∃ device action, world.pending thread = some (.execute device action) ∧
      action.requestID = id := by
  unfold actsNext at next
  split at next
  · next device action acting => exact ⟨device, action, acting, Option.some.inj next⟩
  · cases next

/-- An action is taken for the incident that justified it: the alert that the event
of the request opened is firing, it was firing in every earlier state in which it
was there, and the duration of the policy has passed since it was opened. -/
theorem incident_justifies_action
    {middle : EngineWorld F}
    {thread : ℕ}
    {device : Device}
    {action : Action}
    (reached : (system F engine).Reaches (IncidentSafe engine action.requestID)
      (fresh F clock config) middle)
    (onward : (system F engine).Reaches (IncidentSafe engine action.requestID) middle world)
    (acting : world.pending thread = some (.execute device action)) :
    ∃ request event policy alert,
      world.shared.store.autoReq.lookup action.requestID = some request ∧
        CreatedFrom world.trace request event policy ∧
        alert ∈ world.shared.store.alerts ∧
        alert.openEventID = event.eventID ∧
        alert.openedAt = event.occurredAt ∧
        alert.status = .firing ∧
        Time.add event.occurredAt policy.conditions.duration ≤ world.shared.clock ∧
        ∀ earlier ∈ middle.shared.store.alerts, earlier.openEventID = event.eventID →
          earlier.status = .firing := by
  have whole := reached.trans onward
  obtain ⟨call, rest, running⟩ := World.running_of_pending acting
  obtain ⟨claim, known, now, acted, spec, cleared⟩ := cleared_of_reaches whole running
  have holds : Holds engine world thread claim := ⟨World.live_of_running running, cleared.held⟩
  have read := claim_due_of_reaches whole thread claim cleared.held
  obtain ⟨waited, event, policy, created, delayed⟩ :=
    (onTime_of_reaches (fun _ _ safe => safe.1) whole).due thread claim.request read
  obtain ⟨⟨request, stored, core⟩, _⟩ := (ledger_of_reaches whole).snapshots .tick thread
    claim.request ((View.mem_snapshots _ _).mpr (Or.inr (Or.inl read)))
  have firing : claim.firing = true := by
    refine cleared.firing.resolve_left fun unset => created.alertKey.1 ?_
    rw [← created.alertKey.2, unset]
  obtain ⟨alert, member, opens, status⟩ :=
    firing_of_reaches (fun _ _ safe => safe.2.2.1) (fun _ _ safe => safe.2.2.2) whole thread claim
      holds (by rw [cleared.action]) firing cleared.unexecuted
  have opened : alert.openEventID = event.eventID := opens.trans created.eventID
  have logged := alertsLogged_of_reaches whole
  obtain ⟨cause, found, openedAt⟩ := logged.logged alert member
  have handled : world.shared.store.events.lookup event.eventID = some event := by
    obtain ⟨_, _, _, writer, message, before, inserted, _⟩ := created
    exact (delivered_of_reaches (fun _ _ safe => safe.2.1) whole).2 event _ inserted rfl
  obtain rfl : cause = event := by
    rw [opened, handled] at found
    exact (Option.some.inj found).symm
  refine ⟨request, cause, policy, alert, ?_, created.of_core core.symm, member, opened, openedAt,
    status, delayed ▸ waited, ?_⟩
  · rw [cleared.action]
    exact stored
  · intro earlier present same
    by_contra ended
    have resolved : earlier.status = .resolved := by
      cases state : earlier.status with
      | firing => exact absurd state ended
      | resolved => rfl
    have still := (alertsKept_of_reaches onward).resolved earlier present resolved
    rw [logged.unique still member (same.trans opened.symm)] at ended
    exact ended status

end Reachable

end InfraObserver

/-! ## A reopened alert -/

namespace InfraObserver

open Interleaving (World Machine)

attribute [local instance] Platform.plain GoFloat.integer

/-- The bounce of the interface is justified by the alert of its own event, which
was firing ever since the event was handled. -/
theorem bounce_justified :
    let middle := (system ℤ plainEngine).run (fresh ℤ 10 (bounceConfig false)) switchGoesDown
    let world := (system ℤ plainEngine).run middle (.start .tick :: steps 1 12)
    ∃ device action, world.pending 1 = some (.execute device action) ∧
      action.requestID = bounceID ∧ ∃ request event policy alert,
        world.shared.store.autoReq.lookup action.requestID = some request ∧
          CreatedFrom world.trace request event policy ∧
          alert ∈ world.shared.store.alerts ∧
          alert.openEventID = event.eventID ∧
          alert.openedAt = event.occurredAt ∧
          alert.status = .firing ∧
          Time.add event.occurredAt policy.conditions.duration ≤ world.shared.clock ∧
          ∀ earlier ∈ middle.shared.store.alerts, earlier.openEventID = event.eventID →
            earlier.status = .firing := by
  intro middle world
  have begun : (system ℤ plainEngine).Permits (IncidentSafe plainEngine bounceID)
      (fresh ℤ 10 (bounceConfig false)) switchGoesDown := by decide +kernel
  have reached : (system ℤ plainEngine).Reaches (IncidentSafe plainEngine bounceID)
      (fresh ℤ 10 (bounceConfig false)) middle := Machine.reaches_run switchGoesDown begun
  have resumed : (system ℤ plainEngine).Permits (IncidentSafe plainEngine bounceID) middle
      (.start .tick :: steps 1 12) := by decide +kernel
  have onward : (system ℤ plainEngine).Reaches (IncidentSafe plainEngine bounceID) middle world :=
    Machine.reaches_run _ resumed
  have next : actsNext world 1 = some bounceID := by decide +kernel
  obtain ⟨device, action, acting, named⟩ := actsNext_eq_some next
  exact ⟨device, action, acting, named,
    incident_justifies_action (named ▸ reached) (named ▸ onward) acting⟩

/-- The switch comes back and goes down again before the request is worked on. -/
def reopenedRun : List (EngineAction ℤ) :=
  switchGoesDown ++ switchFlaps

/-- The alert of the event has been resolved and another one was opened by another
event; the worker acts for the first event nevertheless. -/
theorem executed_for_resolved_alert :
    let resolved := (system ℤ plainEngine).run (fresh ℤ 10 (bounceConfig false)) reopenedRun
    let world := (system ℤ plainEngine).run resolved (.start .tick :: steps 1 13)
    (system ℤ plainEngine).Permits (fun world action => ClockForward world action ∧
        Delivered world action) (fresh ℤ 10 (bounceConfig false))
        (reopenedRun ++ .start .tick :: steps 1 13) ∧
      switchDown.eventID ≠ switchDownAgain.eventID ∧
      resolved.shared.store.alerts.map (fun alert => (alert.openEventID, alert.status)) =
        [(switchDown.eventID, .resolved), (switchDownAgain.eventID, .firing)] ∧
      (resolved.shared.store.autoReq.lookup bounceID).map AutomationRequest.eventID =
        some switchDown.eventID ∧
      executedIn bounceID resolved.trace = false ∧
      executedIn bounceID world.trace = true := by
  decide +kernel

end InfraObserver
