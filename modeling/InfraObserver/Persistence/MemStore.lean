import InfraObserver.Domain.Ids
import InfraObserver.Library.Prog

/-!
# The in-memory store and its transactions

`MemStore` holds the tables. A transaction works on the tables directly and
keeps an undo log: when its body fails, the log is run backwards. The body is
a program over the operations of `Tx`, so that a failure can be injected at any
operation.
-/

namespace InfraObserver

/-- A message queued for publication. -/
structure OutboxMessage where
  id : ℕ
  subject : String
  msgID : String
  payload : String
  headers : StringMap String
  deriving DecidableEq

/-- A row of the outbox. -/
structure OutboxRow where
  msg : OutboxMessage
  published : Bool
  deriving DecidableEq

/-- The tables of the store. -/
structure MemStore (F : Type) where
  devices : StringMap Device
  observation : StringMap (Observation F)
  obsOrder : List String
  states : StringMap StateRecord
  transitions : StringMap Transition
  trOrder : List String
  events : StringMap Event
  evOrder : List String
  alerts : List Alert
  outbox : List OutboxRow
  nextOutbox : ℕ
  autoReq : StringMap AutomationRequest
  autoOrder : List String
  autoRes : StringMap AutomationResult
  autoClaim : StringMap Time
  deriving DecidableEq

namespace MemStore

variable {F : Type}

/-- `NewMemStore`. -/
def new : MemStore F where
  devices := ∅
  observation := ∅
  obsOrder := []
  states := ∅
  transitions := ∅
  trOrder := []
  events := ∅
  evOrder := []
  alerts := []
  outbox := []
  nextOutbox := 0
  autoReq := ∅
  autoOrder := []
  autoRes := ∅
  autoClaim := ∅

/-- `ListStates`: every state record, in order of the keys. -/
def listStates (store : MemStore F) : List StateRecord :=
  store.states.toSortedList.map Prod.snd

/-- Add messages to the outbox, each with the next id. -/
def enqueue (store : MemStore F) (message : OutboxMessage) : MemStore F :=
  { store with
    outbox := store.outbox ++ [⟨{ message with id := store.nextOutbox + 1 }, false⟩]
    nextOutbox := store.nextOutbox + 1 }

end MemStore

/-- The alert fires for a key. -/
def Alert.fires (key : String) (alert : Alert) : Bool :=
  alert.alertKey = key && alert.status = .firing

/-- The alert that an event opens. -/
def Alert.opened (event : Event) : Alert where
  alertKey := event.alertKey
  deviceID := event.deviceID
  source := event.source
  severity := event.severity
  status := .firing
  summary := event.message
  labels := event.labels
  openEventID := event.eventID
  openedAt := event.occurredAt
  resolvedAt := 0

/-- The alert after its resolution by an event. -/
def Alert.resolvedBy (alert : Alert) (event : Event) : Alert :=
  { alert with status := .resolved, resolvedAt := event.occurredAt }

/-! ## Operations of a transaction -/

/-- A transaction in progress: the tables, and the undo log, newest entry
first. -/
structure Tx (F : Type) where
  store : MemStore F
  undo : List (MemStore F → MemStore F)

namespace Tx

variable {F : Type} [GoFloat F]

/-- Take back everything the transaction did. -/
def rollback (tx : Tx F) : MemStore F :=
  tx.undo.foldl (fun store revert => revert store) tx.store

/-- `InsertObservation`. -/
def insertObservation (sample : Observation F) (tx : Tx F) : Bool × Tx F :=
  let store := tx.store
  match store.observation.lookup sample.observationID with
  | some _ => (false, tx)
  | none =>
      (true,
        { store := { store with
            observation := store.observation.insert sample.observationID sample
            obsOrder := store.obsOrder ++ [sample.observationID] }
          undo := (fun store => { store with
            observation := store.observation.erase sample.observationID
            obsOrder := store.obsOrder.dropLast }) :: tx.undo })

/-- `TouchDevice`: advance the last-seen instant, never backwards. -/
def touchDevice (id : String) (instant : Time) (tx : Tx F) : Unit × Tx F :=
  let store := tx.store
  match store.devices.lookup id with
  | none => ((), tx)
  | some old =>
      if ¬ old.lastSeen < instant then ((), tx)
      else
        ((),
          { store := { store with
              devices := store.devices.insert id { old with lastSeen := instant } }
            undo := (fun store => { store with
              devices := store.devices.insert id old }) :: tx.undo })

/-- The stored point of an observation, when its value is numeric or boolean. -/
def samplePoint (sample : Observation F) : Option (Sample F) :=
  sample.value.float.map fun number =>
    { instant := sample.observedAt, num := number, bool := sample.value.asBool }

/-- `Samples`: the points of one series with `since < observedAt ≤ until_`,
oldest first. -/
def samples
    (deviceID metric labels : String)
    (since until_ : Time)
    (tx : Tx F) : List (Sample F) × Tx F :=
  let found := tx.store.obsOrder.filterMap fun id =>
    match tx.store.observation.lookup id with
    | none => none
    | some sample =>
        if sample.deviceID ≠ deviceID ∨ sample.metric ≠ metric ∨
            labelsKey sample.labels ≠ labels then none
        else if ¬ since < sample.observedAt ∨ until_ < sample.observedAt then none
        else samplePoint sample
  -- Insertion sort is stable.
  (found.insertionSort fun left right => left.instant ≤ right.instant, tx)

/-- `GetState`. -/
def getState (key : String) (tx : Tx F) : Option StateRecord × Tx F :=
  (tx.store.states.lookup key, tx)

/-- `PutState`. -/
def putState (record : StateRecord) (tx : Tx F) : Unit × Tx F :=
  let store := tx.store
  ((),
    { store := { store with states := store.states.insert record.key record }
      undo := (match store.states.lookup record.key with
        | some old => fun store => { store with states := store.states.insert record.key old }
        | none => fun store => { store with states := store.states.erase record.key }) ::
          tx.undo })

/-- `InsertTransition`. -/
def insertTransition (transition : Transition) (tx : Tx F) : Unit × Tx F :=
  let store := tx.store
  match store.transitions.lookup transition.transitionID with
  | some _ => ((), tx)
  | none =>
      ((),
        { store := { store with
            transitions := store.transitions.insert transition.transitionID transition
            trOrder := store.trOrder ++ [transition.transitionID] }
          undo := (fun store => { store with
            transitions := store.transitions.erase transition.transitionID
            trOrder := store.trOrder.dropLast }) :: tx.undo })

/-- `InsertEvent`. -/
def insertEvent (event : Event) (tx : Tx F) : Bool × Tx F :=
  let store := tx.store
  match store.events.lookup event.eventID with
  | some _ => (false, tx)
  | none =>
      (true,
        { store := { store with
            events := store.events.insert event.eventID event
            evOrder := store.evOrder ++ [event.eventID] }
          undo := (fun store => { store with
            events := store.events.erase event.eventID
            evOrder := store.evOrder.dropLast }) :: tx.undo })

/-- `OpenAlert`: open an alert unless one is firing for the key. -/
def openAlert (event : Event) (tx : Tx F) : Bool × Tx F :=
  let store := tx.store
  if store.alerts.any (Alert.fires event.alertKey) then (false, tx)
  else
    (true,
      { store := { store with alerts := store.alerts ++ [Alert.opened event] }
        undo := (fun store => { store with alerts := store.alerts.dropLast }) :: tx.undo })

/-- `ResolveAlert`: close the first alert that fires for the key, if any. -/
def resolveAlert (event : Event) (tx : Tx F) : Bool × Tx F :=
  let store := tx.store
  match store.alerts.findIdx? (Alert.fires event.alertKey) with
  | none => (false, tx)
  | some index =>
      match store.alerts[index]? with
      | none => (false, tx)
      | some old =>
          (true,
            { store := { store with alerts := store.alerts.set index (old.resolvedBy event) }
              undo := (fun store => { store with
                alerts := store.alerts.set index old }) :: tx.undo })

/-- `Enqueue`. -/
def enqueue (message : OutboxMessage) (tx : Tx F) : Unit × Tx F :=
  ((),
    { store := tx.store.enqueue message
      undo := (fun store => { store with
        outbox := store.outbox.dropLast
        nextOutbox := store.nextOutbox - 1 }) :: tx.undo })

end Tx

/-- The operations available inside one atomic unit of work. -/
inductive TxOp (F : Type)
  | insertObservation (sample : Observation F)
  | touchDevice (id : String) (instant : Time)
  | samples (deviceID metric labels : String) (since until_ : Time)
  | getState (key : String)
  | putState (record : StateRecord)
  | insertTransition (transition : Transition)
  | insertEvent (event : Event)
  | openAlert (event : Event)
  | resolveAlert (event : Event)
  | enqueue (message : OutboxMessage)

namespace TxOp

variable {F : Type} [GoFloat F]

/-- What an operation returns when it does not fail. -/
def Answer : TxOp F → Type
  | .insertObservation _ | .insertEvent _ | .openAlert _ | .resolveAlert _ => Bool
  | .samples .. => List (Sample F)
  | .getState _ => Option StateRecord
  | _ => Unit

/-- What an operation does when it does not fail. -/
def perform : (op : TxOp F) → Tx F → op.Answer × Tx F
  | .insertObservation sample => Tx.insertObservation sample
  | .touchDevice id instant => Tx.touchDevice id instant
  | .samples deviceID metric labels since until_ =>
      Tx.samples deviceID metric labels since until_
  | .getState key => Tx.getState key
  | .putState record => Tx.putState record
  | .insertTransition transition => Tx.insertTransition transition
  | .insertEvent event => Tx.insertEvent event
  | .openAlert event => Tx.openAlert event
  | .resolveAlert event => Tx.resolveAlert event
  | .enqueue message => Tx.enqueue message

end TxOp

/-- The result of an operation, which can fail. -/
abbrev TxRes {F : Type} (op : TxOp F) : Type := Except Error op.Answer

/-- The body of a transaction. -/
abbrev TxM (F α : Type) : Type := Fallible (TxOp F) TxRes Error α

namespace TxM

variable {F α : Type}

/-- Issue one operation; its failure is a failure of the body. -/
def perform (op : TxOp F) : TxM F op.Answer :=
  ExceptT.mk (Prog.request op)

/-- `tx.InsertObservation`. -/
def insertObservation (sample : Observation F) : TxM F Bool :=
  perform (.insertObservation sample)

/-- `tx.TouchDevice`. -/
def touchDevice (id : String) (instant : Time) : TxM F Unit :=
  perform (.touchDevice id instant)

/-- `tx.Samples`. -/
def samples (deviceID metric labels : String) (since until_ : Time) : TxM F (List (Sample F)) :=
  perform (.samples deviceID metric labels since until_)

/-- `tx.GetState`. -/
def getState (key : String) : TxM F (Option StateRecord) :=
  perform (.getState key)

/-- `tx.PutState`. -/
def putState (record : StateRecord) : TxM F Unit :=
  perform (.putState record)

/-- `tx.InsertTransition`. -/
def insertTransition (transition : Transition) : TxM F Unit :=
  perform (.insertTransition transition)

/-- `tx.InsertEvent`. -/
def insertEvent (event : Event) : TxM F Bool :=
  perform (.insertEvent event)

/-- `tx.OpenAlert`. -/
def openAlert (event : Event) : TxM F Bool :=
  perform (.openAlert event)

/-- `tx.ResolveAlert`. -/
def resolveAlert (event : Event) : TxM F Bool :=
  perform (.resolveAlert event)

/-- `tx.Enqueue`. -/
def enqueue (message : OutboxMessage) : TxM F Unit :=
  perform (.enqueue message)

variable [GoFloat F]

/-- Answer the operations of a transaction. The schedule says which of them
fail, by position; a failed operation has no effect. -/
def handler (faults : ℕ → Option Error) (op : TxOp F) (session : Tx F × ℕ) :
    TxRes op × Tx F × ℕ :=
  match faults session.2 with
  | some failure => (.error failure, session.1, session.2 + 1)
  | none => (.ok (op.perform session.1).1, (op.perform session.1).2, session.2 + 1)

end TxM

namespace MemStore

variable {F α : Type} [GoFloat F]

/-- `Do`: run the body atomically. `refused` is the error with which the
transaction is refused before it starts, if any (an injected outage or an ended
context). -/
def transact
    (refused : Option Error)
    (faults : ℕ → Option Error)
    (body : TxM F α)
    (store : MemStore F) : Except Error α × MemStore F :=
  match refused with
  | some failure => (.error failure, store)
  | none =>
      match Prog.exec (TxM.handler faults) body (⟨store, []⟩, 0) with
      | (.ok value, tx, _) => (.ok value, tx.store)
      | (.error failure, tx, _) => (.error failure, tx.rollback)

end MemStore

end InfraObserver
