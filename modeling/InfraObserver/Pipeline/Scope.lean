import InfraObserver.Library.FirstMatch
import InfraObserver.Pipeline.Books

/-!
# Parts of the store

A scope names a part of the tables. Two stores agree on a scope when nothing in
that part tells them apart. An operation that reads only the scope has the same
answer in both and keeps them in agreement; an operation that spares the scope
leaves it as it was.
-/

namespace InfraObserver

variable {F : Type}

namespace MemStore

/-- The stored observations in the order of their arrival. -/
def rows (store : MemStore F) : List (Observation F) :=
  store.obsOrder.filterMap store.observation.lookup

/-- What every sequence of operations keeps: a state record is stored under its
own key, and every listed observation is stored. -/
structure Sound (store : MemStore F) : Prop where
  keyed : ∀ key record, store.states.lookup key = some record → record.key = key
  listed : ∀ id ∈ store.obsOrder, (store.observation.lookup id).isSome

end MemStore

/-- A row of the outbox without the number that the store gave it. -/
def OutboxRow.unnumbered (row : OutboxRow) : OutboxRow :=
  { row with msg := { row.msg with id := 0 } }

/-- A part of the tables: the state records and alerts of some keys, the ordered
observations of some series, and some observations, events, transitions, devices
and messages. -/
structure Scope (F : Type) where
  keys : String → Prop
  rows : Observation F → Bool
  ids : String → Prop
  events : String → Prop
  transitions : String → Prop
  devices : String → Prop
  messages : OutboxMessage → Bool

/-- Nothing in the scope tells the stores apart. -/
structure Agree (scope : Scope F) (left right : MemStore F) : Prop where
  states : ∀ key, scope.keys key → left.states.lookup key = right.states.lookup key
  alerts : ∀ key, scope.keys key → alertsOf key left.alerts = alertsOf key right.alerts
  rows : left.rows.filter scope.rows = right.rows.filter scope.rows
  observation : ∀ id, scope.ids id → left.observation.lookup id = right.observation.lookup id
  events : ∀ id, scope.events id → left.events.lookup id = right.events.lookup id
  transitions : ∀ id, scope.transitions id →
    left.transitions.lookup id = right.transitions.lookup id
  devices : ∀ id, scope.devices id → left.devices.lookup id = right.devices.lookup id
  outbox : (left.outbox.map OutboxRow.unnumbered).filter (fun row => scope.messages row.msg) =
    (right.outbox.map OutboxRow.unnumbered).filter fun row => scope.messages row.msg

namespace Agree

variable {scope : Scope F} {left middle right : MemStore F}

theorem refl (scope : Scope F) (store : MemStore F) : Agree scope store store :=
  ⟨fun _ _ => rfl, fun _ _ => rfl, rfl, fun _ _ => rfl, fun _ _ => rfl, fun _ _ => rfl,
    fun _ _ => rfl, rfl⟩

theorem symm (agree : Agree scope left right) : Agree scope right left where
  states key member := (agree.states key member).symm
  alerts key member := (agree.alerts key member).symm
  rows := agree.rows.symm
  observation id member := (agree.observation id member).symm
  events id member := (agree.events id member).symm
  transitions id member := (agree.transitions id member).symm
  devices id member := (agree.devices id member).symm
  outbox := agree.outbox.symm

theorem trans (first : Agree scope left middle) (second : Agree scope middle right) :
    Agree scope left right where
  states key member := (first.states key member).trans (second.states key member)
  alerts key member := (first.alerts key member).trans (second.alerts key member)
  rows := first.rows.trans second.rows
  observation id member := (first.observation id member).trans (second.observation id member)
  events id member := (first.events id member).trans (second.events id member)
  transitions id member := (first.transitions id member).trans (second.transitions id member)
  devices id member := (first.devices id member).trans (second.devices id member)
  outbox := first.outbox.trans second.outbox

end Agree

namespace TxOp

/-- The answer of the operation depends on the scope only. -/
def Reads (scope : Scope F) : TxOp F → Prop
  | .insertObservation sample => scope.ids sample.observationID
  | .samples deviceID metric labels _ _ => ∀ sample : Observation F,
      sample.deviceID = deviceID → sample.metric = metric → labelsKey sample.labels = labels →
        scope.rows sample = true
  | .getState key => scope.keys key
  | .insertEvent event => scope.events event.eventID
  | .openAlert event | .resolveAlert event => scope.keys event.alertKey
  | _ => True

/-- The operation changes nothing in the scope. -/
def Spares (scope : Scope F) : TxOp F → Prop
  | .insertObservation sample => ¬scope.ids sample.observationID ∧ scope.rows sample = false
  | .touchDevice id _ => ¬scope.devices id
  | .putState record => ¬scope.keys record.key
  | .insertTransition transition => ¬scope.transitions transition.transitionID
  | .insertEvent event => ¬scope.events event.eventID
  | .openAlert event | .resolveAlert event => ¬scope.keys event.alertKey
  | .enqueue message => scope.messages { message with id := 0 } = false
  | _ => True

end TxOp

/-! ## What the operations do to the tables -/

namespace MemStore

theorem rows_insert
    {store : MemStore F}
    (sound : store.Sound)
    {sample : Observation F}
    (fresh : store.observation.lookup sample.observationID = none) :
    rows { store with
        observation := store.observation.insert sample.observationID sample
        obsOrder := store.obsOrder ++ [sample.observationID] } =
      store.rows ++ [sample] := by
  have kept : ∀ id ∈ store.obsOrder,
      (store.observation.insert sample.observationID sample).lookup id =
        store.observation.lookup id := by
    intro id member
    rw [StringMap.lookup_insert_ite, if_neg]
    rintro rfl
    have stored := sound.listed _ member
    rw [fresh] at stored
    simp at stored
  unfold rows
  rw [List.filterMap_append, List.filterMap_congr kept]
  simp

end MemStore

namespace Tx

theorem resolveAlert_eq (event : Event) (tx : Tx F) :
    (resolveAlert event tx).1 = tx.store.alerts.any (Alert.fires event.alertKey) ∧
      (resolveAlert event tx).2.store = { tx.store with
        alerts := FirstMatch.amendFirst (Alert.fires event.alertKey) (·.resolvedBy event)
          tx.store.alerts } := by
  simp only [resolveAlert]
  cases found : tx.store.alerts.findIdx? (Alert.fires event.alertKey) with
  | none =>
      have quiet : tx.store.alerts.any (Alert.fires event.alertKey) = false := by
        rw [← List.findIdx?_isSome, found]
        rfl
      exact ⟨quiet.symm, by rw [FirstMatch.amendFirst_of_none quiet]⟩
  | some index =>
      obtain ⟨earlier, firing, later, table, rfl, fires, before⟩ := split_firing found
      have element : tx.store.alerts[earlier.length]? = some firing := by simp [table]
      simp only [element]
      refine ⟨?_, ?_⟩
      · rw [table]
        simp [fires]
      · rw [table, FirstMatch.amendFirst_append before fires]
        simp

theorem openAlert_eq (event : Event) (tx : Tx F) :
    (openAlert event tx).1 = !tx.store.alerts.any (Alert.fires event.alertKey) ∧
      (openAlert event tx).2.store = { tx.store with
        alerts := if tx.store.alerts.any (Alert.fires event.alertKey) then tx.store.alerts
          else tx.store.alerts ++ [Alert.opened event] } := by
  simp only [openAlert]
  split_ifs with firing <;> simp [firing]

theorem samples_eq [GoFloat F]
    (deviceID metric labels : String)
    (since until_ : Time)
    (tx : Tx F) :
    (samples deviceID metric labels since until_ tx).1 =
      (tx.store.rows.filterMap fun sample =>
        if sample.deviceID ≠ deviceID ∨ sample.metric ≠ metric ∨
            labelsKey sample.labels ≠ labels then none
        else if ¬ since < sample.observedAt ∨ until_ < sample.observedAt then none
        else samplePoint sample).insertionSort fun left right => left.instant ≤ right.instant := by
  simp only [samples, MemStore.rows, List.filterMap_filterMap]
  congr 1
  refine List.filterMap_congr fun id _ => ?_
  cases tx.store.observation.lookup id <;> rfl

theorem perform_sound [GoFloat F]
    (op : TxOp F)
    (tx : Tx F)
    (sound : tx.store.Sound) :
    (op.perform tx).2.store.Sound := by
  cases op with
  | insertObservation sample =>
      simp only [TxOp.perform, insertObservation]
      split
      · exact sound
      · refine ⟨sound.keyed, fun id member => ?_⟩
        simp only [StringMap.lookup_insert_ite]
        split_ifs with same
        · rfl
        · rcases List.mem_append.mp member with old | new
          · exact sound.listed id old
          · exact absurd (List.mem_singleton.mp new) same
  | touchDevice id instant =>
      simp only [TxOp.perform, touchDevice]
      split
      · exact sound
      · split_ifs <;> exact ⟨sound.keyed, sound.listed⟩
  | samples deviceID metric labels since until_ => exact sound
  | getState key => exact sound
  | putState record =>
      refine ⟨fun key other found => ?_, sound.listed⟩
      simp only [TxOp.perform, putState, StringMap.lookup_insert_ite] at found
      split_ifs at found with same
      · rw [same, Option.some.inj found]
      · exact sound.keyed key other found
  | insertTransition transition =>
      simp only [TxOp.perform, insertTransition]
      split <;> exact ⟨sound.keyed, sound.listed⟩
  | insertEvent event =>
      simp only [TxOp.perform, insertEvent]
      split <;> exact ⟨sound.keyed, sound.listed⟩
  | openAlert event =>
      simp only [TxOp.perform]
      rw [(openAlert_eq event tx).2]
      exact ⟨sound.keyed, sound.listed⟩
  | resolveAlert event =>
      simp only [TxOp.perform]
      rw [(resolveAlert_eq event tx).2]
      exact ⟨sound.keyed, sound.listed⟩
  | enqueue message => exact ⟨sound.keyed, sound.listed⟩

theorem touchDevice_eq (id : String) (instant : Time) (tx : Tx F) :
    ∃ devices, (touchDevice id instant tx).2.store = { tx.store with devices } ∧
      ∀ other, devices.lookup other =
        if other = id then (tx.store.devices.lookup id).map fun old =>
          if old.lastSeen < instant then { old with lastSeen := instant } else old
        else tx.store.devices.lookup other := by
  simp only [touchDevice]
  split
  · next missing =>
      refine ⟨tx.store.devices, rfl, fun other => ?_⟩
      split_ifs with same
      · rw [same, missing, Option.map_none]
      · rfl
  · next old found =>
      split_ifs with newer
      · refine ⟨_, rfl, fun other => ?_⟩
        rw [StringMap.lookup_insert_ite, found, Option.map_some, if_pos newer]
      · refine ⟨tx.store.devices, rfl, fun other => ?_⟩
        rw [found, Option.map_some, if_neg newer]
        split_ifs with same
        · rw [same, found]
        · rfl

theorem insertTransition_eq (transition : Transition) (tx : Tx F) :
    ∃ transitions trOrder,
      (insertTransition transition tx).2.store = { tx.store with transitions, trOrder } ∧
        ∀ id, transitions.lookup id =
          if id = transition.transitionID then
            some ((tx.store.transitions.lookup transition.transitionID).getD transition)
          else tx.store.transitions.lookup id := by
  simp only [insertTransition]
  split
  · next old found =>
      refine ⟨tx.store.transitions, tx.store.trOrder, rfl, fun id => ?_⟩
      split_ifs with same
      · rw [same, found, Option.getD_some]
      · rfl
  · next fresh =>
      exact ⟨_, _, rfl, fun id => by simp [StringMap.lookup_insert_ite, fresh]⟩

theorem insertEvent_eq (event : Event) (tx : Tx F) :
    (insertEvent event tx).1 = (tx.store.events.lookup event.eventID).isNone ∧
      ∃ events evOrder, (insertEvent event tx).2.store = { tx.store with events, evOrder } ∧
        ∀ id, events.lookup id =
          if id = event.eventID then some ((tx.store.events.lookup event.eventID).getD event)
          else tx.store.events.lookup id := by
  simp only [insertEvent]
  split
  · next old found =>
      refine ⟨by rw [found]; rfl, tx.store.events, tx.store.evOrder, rfl, fun id => ?_⟩
      split_ifs with same
      · rw [same, found, Option.getD_some]
      · rfl
  · next fresh =>
      exact ⟨by simp [fresh], _, _, rfl, fun id => by simp [StringMap.lookup_insert_ite, fresh]⟩

theorem perform_event [GoFloat F]
    {op : TxOp F}
    {tx : Tx F}
    {id : String}
    {event : Event}
    (found : (op.perform tx).2.store.events.lookup id = some event) :
    tx.store.events.lookup id = some event ∨ op = .insertEvent event ∧ id = event.eventID := by
  cases op with
  | insertObservation sample =>
      simp only [TxOp.perform, insertObservation] at found
      split at found <;> exact Or.inl found
  | touchDevice id instant =>
      obtain ⟨devices, store, -⟩ := touchDevice_eq id instant tx
      simp only [TxOp.perform, store] at found
      exact Or.inl found
  | insertTransition transition =>
      obtain ⟨table, order, store, -⟩ := insertTransition_eq transition tx
      simp only [TxOp.perform, store] at found
      exact Or.inl found
  | insertEvent new =>
      obtain ⟨-, table, order, store, lookup⟩ := insertEvent_eq new tx
      simp only [TxOp.perform, store, lookup] at found
      split_ifs at found with same
      · cases old : tx.store.events.lookup new.eventID with
        | some earlier =>
            rw [old] at found
            exact Or.inl (same ▸ old.trans found)
        | none =>
            rw [old] at found
            obtain rfl := Option.some.inj found
            exact Or.inr ⟨rfl, same⟩
      · exact Or.inl found
  | openAlert event =>
      simp only [TxOp.perform, (openAlert_eq event tx).2] at found
      exact Or.inl found
  | resolveAlert event =>
      simp only [TxOp.perform, (resolveAlert_eq event tx).2] at found
      exact Or.inl found
  | _ => exact Or.inl found

/-! ## Operations and scopes -/

variable {scope : Scope F}

theorem any_fires_congr
    {key : String}
    {left right : List Alert}
    (same : alertsOf key left = alertsOf key right) :
    left.any (Alert.fires key) = right.any (Alert.fires key) := by
  rw [Bool.eq_iff_iff, any_fires_iff, any_fires_iff, same]

theorem alertsOf_opened (key : String) (event : Event) (alerts : List Alert) :
    alertsOf key (alerts ++ [Alert.opened event]) =
      alertsOf key alerts ++ alertsOf key [Alert.opened event] := by
  simp [alertsOf]

theorem alertsOf_resolved (event : Event) (alerts : List Alert) :
    alertsOf event.alertKey (FirstMatch.amendFirst (Alert.fires event.alertKey)
        (·.resolvedBy event) alerts) =
      FirstMatch.amendFirst (Alert.fires event.alertKey) (·.resolvedBy event)
        (alertsOf event.alertKey alerts) := by
  unfold alertsOf
  refine FirstMatch.filter_amendFirst (fun alert fires => ?_) (fun _ => by rfl) alerts
  simp only [Alert.fires, Bool.and_eq_true] at fires
  exact fires.1

theorem alertsOf_resolved_of_ne
    {key : String}
    {event : Event}
    (other : event.alertKey ≠ key)
    (alerts : List Alert) :
    alertsOf key (FirstMatch.amendFirst (Alert.fires event.alertKey)
        (·.resolvedBy event) alerts) = alertsOf key alerts := by
  unfold alertsOf
  refine FirstMatch.filter_amendFirst_of_dropped (fun alert fires => ?_) (fun _ => by rfl) alerts
  simp only [Alert.fires, Bool.and_eq_true, decide_eq_true_eq] at fires
  simpa [fires.1] using other

/-- An operation that reads the scope only has the same answer in stores that
agree, and keeps them in agreement. -/
theorem perform_agrees [GoFloat F]
    {op : TxOp F}
    (reads : op.Reads scope)
    {left right : Tx F}
    (soundLeft : left.store.Sound)
    (soundRight : right.store.Sound)
    (agree : Agree scope left.store right.store) :
    (op.perform left).1 = (op.perform right).1 ∧
      Agree scope (op.perform left).2.store (op.perform right).2.store := by
  cases op with
  | insertObservation sample =>
      have same := agree.observation _ reads
      simp only [TxOp.perform, insertObservation]
      rw [← same]
      cases fresh : left.store.observation.lookup sample.observationID with
      | some old => exact ⟨rfl, agree⟩
      | none =>
          refine ⟨rfl, { agree with rows := ?_, observation := fun id member => ?_ }⟩
          · rw [MemStore.rows_insert soundLeft fresh,
              MemStore.rows_insert soundRight (same ▸ fresh), List.filter_append,
              List.filter_append, agree.rows]
          · simp only [StringMap.lookup_insert_ite, agree.observation id member]
  | touchDevice id instant =>
      obtain ⟨leftDevices, leftStore, leftLookup⟩ := touchDevice_eq id instant left
      obtain ⟨rightDevices, rightStore, rightLookup⟩ := touchDevice_eq id instant right
      simp only [TxOp.perform]
      rw [leftStore, rightStore]
      refine ⟨trivial, { agree with devices := fun other member => ?_ }⟩
      rw [leftLookup, rightLookup]
      split_ifs with same
      · rw [← same, agree.devices other member]
      · exact agree.devices other member
  | samples deviceID metric labels since until_ =>
      refine ⟨?_, agree⟩
      have series : ∀ rows : List (Observation F),
          (rows.filterMap fun sample =>
            if sample.deviceID ≠ deviceID ∨ sample.metric ≠ metric ∨
                labelsKey sample.labels ≠ labels then none
            else if ¬ since < sample.observedAt ∨ until_ < sample.observedAt then none
            else samplePoint sample) =
          (rows.filter scope.rows).filterMap fun sample =>
            if sample.deviceID ≠ deviceID ∨ sample.metric ≠ metric ∨
                labelsKey sample.labels ≠ labels then none
            else if ¬ since < sample.observedAt ∨ until_ < sample.observedAt then none
            else samplePoint sample := by
        intro rows
        induction rows with
        | nil => rfl
        | cons sample rest ih =>
            by_cases listed : scope.rows sample = true
            · rw [List.filter_cons_of_pos listed, List.filterMap_cons, List.filterMap_cons,
                ih]
            · rw [List.filter_cons_of_neg listed, List.filterMap_cons_none, ih]
              rw [if_pos]
              by_contra none
              simp only [not_or, ne_eq, not_not] at none
              exact listed (reads sample none.1 none.2.1 none.2.2)
      change (samples deviceID metric labels since until_ left).1 =
        (samples deviceID metric labels since until_ right).1
      rw [samples_eq, samples_eq, series, agree.rows, ← series]
  | getState key => exact ⟨agree.states key reads, agree⟩
  | putState record =>
      refine ⟨rfl, { agree with states := fun key member => ?_ }⟩
      simp only [TxOp.perform, putState, StringMap.lookup_insert_ite, agree.states key member]
  | insertTransition transition =>
      obtain ⟨leftTable, leftOrder, leftStore, leftLookup⟩ := insertTransition_eq transition left
      obtain ⟨rightTable, rightOrder, rightStore, rightLookup⟩ :=
        insertTransition_eq transition right
      simp only [TxOp.perform]
      rw [leftStore, rightStore]
      refine ⟨trivial, { agree with transitions := fun id member => ?_ }⟩
      rw [leftLookup, rightLookup]
      split_ifs with same
      · rw [← same, agree.transitions id member]
      · exact agree.transitions id member
  | insertEvent event =>
      obtain ⟨leftNew, leftTable, leftOrder, leftStore, leftLookup⟩ := insertEvent_eq event left
      obtain ⟨rightNew, rightTable, rightOrder, rightStore, rightLookup⟩ :=
        insertEvent_eq event right
      simp only [TxOp.perform]
      rw [leftStore, rightStore, leftNew, rightNew, agree.events _ reads]
      refine ⟨rfl, { agree with events := fun id member => ?_ }⟩
      rw [leftLookup, rightLookup, agree.events _ reads]
      split_ifs
      · rfl
      · exact agree.events id member
  | openAlert event =>
      obtain ⟨leftNew, leftStore⟩ := openAlert_eq event left
      obtain ⟨rightNew, rightStore⟩ := openAlert_eq event right
      have firing := any_fires_congr (agree.alerts _ reads)
      simp only [TxOp.perform]
      rw [leftStore, rightStore, leftNew, rightNew, firing]
      refine ⟨rfl, { agree with alerts := fun key member => ?_ }⟩
      dsimp only
      split_ifs
      · exact agree.alerts key member
      · rw [alertsOf_opened, alertsOf_opened, agree.alerts key member]
  | resolveAlert event =>
      obtain ⟨leftNew, leftStore⟩ := resolveAlert_eq event left
      obtain ⟨rightNew, rightStore⟩ := resolveAlert_eq event right
      have firing := any_fires_congr (agree.alerts _ reads)
      simp only [TxOp.perform]
      rw [leftStore, rightStore, leftNew, rightNew, firing]
      refine ⟨rfl, { agree with alerts := fun key member => ?_ }⟩
      dsimp only
      by_cases same : event.alertKey = key
      · subst same
        rw [alertsOf_resolved, alertsOf_resolved, agree.alerts _ member]
      · rw [alertsOf_resolved_of_ne same, alertsOf_resolved_of_ne same, agree.alerts key member]
  | enqueue message =>
      refine ⟨rfl, { agree with outbox := ?_ }⟩
      simp only [TxOp.perform, enqueue, MemStore.enqueue, List.map_append, List.filter_append,
        agree.outbox]
      rfl

theorem perform_spares [GoFloat F]
    {op : TxOp F}
    (spares : op.Spares scope)
    {tx : Tx F}
    (sound : tx.store.Sound) :
    Agree scope tx.store (op.perform tx).2.store := by
  have start := Agree.refl scope tx.store
  cases op with
  | insertObservation sample =>
      simp only [TxOp.perform, insertObservation]
      cases fresh : tx.store.observation.lookup sample.observationID with
      | some old => exact start
      | none =>
          refine { start with rows := ?_, observation := fun id member => ?_ }
          · rw [MemStore.rows_insert sound fresh, List.filter_append]
            simp [spares.2]
          · rw [StringMap.lookup_insert_ite, if_neg]
            rintro rfl
            exact spares.1 member
  | touchDevice id instant =>
      obtain ⟨devices, store, lookup⟩ := touchDevice_eq id instant tx
      simp only [TxOp.perform]
      rw [store]
      refine { start with devices := fun other member => ?_ }
      rw [lookup, if_neg]
      rintro rfl
      exact spares member
  | samples deviceID metric labels since until_ => exact start
  | getState key => exact start
  | putState record =>
      refine { start with states := fun key member => ?_ }
      simp only [TxOp.perform, putState, StringMap.lookup_insert_ite]
      rw [if_neg]
      rintro rfl
      exact spares member
  | insertTransition transition =>
      obtain ⟨table, order, store, lookup⟩ := insertTransition_eq transition tx
      simp only [TxOp.perform]
      rw [store]
      refine { start with transitions := fun id member => ?_ }
      rw [lookup, if_neg]
      rintro rfl
      exact spares member
  | insertEvent event =>
      obtain ⟨-, table, order, store, lookup⟩ := insertEvent_eq event tx
      simp only [TxOp.perform]
      rw [store]
      refine { start with events := fun id member => ?_ }
      rw [lookup, if_neg]
      rintro rfl
      exact spares member
  | openAlert event =>
      simp only [TxOp.perform]
      rw [(openAlert_eq event tx).2]
      refine { start with alerts := fun key member => ?_ }
      have other : event.alertKey ≠ key := fun same => spares (same ▸ member)
      dsimp only
      split_ifs
      · rfl
      · simp [alertsOf, Alert.opened, other]
  | resolveAlert event =>
      simp only [TxOp.perform]
      rw [(resolveAlert_eq event tx).2]
      refine { start with alerts := fun key member => ?_ }
      have other : event.alertKey ≠ key := fun same => spares (same ▸ member)
      exact (alertsOf_resolved_of_ne other _).symm
  | enqueue message =>
      refine { start with outbox := ?_ }
      simp only [TxOp.perform, enqueue, MemStore.enqueue, List.map_append, List.filter_append]
      have skipped : scope.messages { message with id := 0 } = false := spares
      simp [OutboxRow.unnumbered, skipped]

end Tx

end InfraObserver
