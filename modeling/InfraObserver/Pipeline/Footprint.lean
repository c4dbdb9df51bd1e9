import InfraObserver.Pipeline.Redelivery
import InfraObserver.Pipeline.Scope

/-!
# What a call of `Process` reads and writes

The transaction of an observation reads and writes the state records and alerts
of the keys that the definitions and rules have for it, the samples of its own
series, and events and messages whose ids name its device and the observation.
So a scope that holds all of this decides what the call does, and a scope that
holds none of it is left alone.
-/

namespace InfraObserver

/-! ## Transactions that stay within a footprint -/

namespace MemStore

variable {F α : Type} [GoFloat F] {terms : TxM.Terms F} {scope : Scope F}
variable {body : TxM F α} {goal : α → Tx F → Prop}

/-- What every operation preserves, a transaction preserves. -/
theorem transact_preserves
    (invariant : MemStore F → Prop)
    (preserved : ∀ (op : TxOp F) tx, terms.may tx.store op → invariant tx.store →
      invariant (op.perform tx).2.store)
    {store : MemStore F}
    (holds : invariant store)
    (follows : TxM.Follows terms body ⟨store, []⟩ goal)
    (refused : Option Error)
    {faults : ℕ → Option Error}
    (admits : terms.Admits faults) :
    invariant (store.transact refused faults body).2 := by
  cases outcome : (store.transact refused faults body).1 with
  | error failure => rwa [transact_error outcome]
  | ok value =>
      unfold transact at outcome ⊢
      cases refused with
      | some reason => simp at outcome
      | none =>
          have kept := Prog.exec_keeps (TxM.handler faults) Prod.fst (TxM.handler_keeps admits)
            (fun session => invariant session.1.store)
            (fun op session allowed holds => by
              unfold TxM.handler
              split
              · exact holds
              · exact preserved op session.1 allowed holds)
            (⟨store, []⟩, 0) holds follows
          dsimp only at outcome ⊢
          split at outcome
          · next result => rwa [result] at kept
          · simp at outcome

theorem transact_agrees
    (reads : ∀ store op, terms.may store op → op.Reads scope)
    {left right : MemStore F}
    (soundLeft : left.Sound)
    (soundRight : right.Sound)
    (agree : Agree scope left right)
    (follows : TxM.Follows terms body ⟨left, []⟩ goal)
    (refused : Option Error)
    {faults : ℕ → Option Error}
    (admits : terms.Admits faults) :
    (left.transact refused faults body).1 = (right.transact refused faults body).1 ∧
      Agree scope (left.transact refused faults body).2
        (right.transact refused faults body).2 := by
  cases refused with
  | some reason => exact ⟨rfl, agree⟩
  | none =>
      let related : Tx F × ℕ → Tx F × ℕ → Prop := fun left right =>
        left.2 = right.2 ∧ left.1.store.Sound ∧ right.1.store.Sound ∧
          Agree scope left.1.store right.1.store
      have start : related (⟨left, []⟩, 0) (⟨right, []⟩, 0) :=
        ⟨rfl, soundLeft, soundRight, agree⟩
      have answers : ∀ op (left right : Tx F × ℕ), terms.may left.1.store op → related left right →
          (TxM.handler faults op left).1 = (TxM.handler faults op right).1 ∧
            related (TxM.handler faults op left).2 (TxM.handler faults op right).2 := by
        rintro op ⟨left, position⟩ ⟨right, _⟩ allowed ⟨rfl, leftSound, rightSound, agree⟩
        unfold TxM.handler
        dsimp only
        cases faults position with
        | some failure => exact ⟨rfl, rfl, leftSound, rightSound, agree⟩
        | none =>
            obtain ⟨answer, after⟩ :=
              Tx.perform_agrees (reads _ op allowed) leftSound rightSound agree
            exact ⟨by rw [answer], rfl, Tx.perform_sound op left leftSound,
              Tx.perform_sound op right rightSound, after⟩
      obtain ⟨result, -, -, -, still⟩ := Prog.exec_related (TxM.handler faults) Prod.fst
        (TxM.handler_keeps admits) related answers start follows
      have same : (left.transact none faults body).1 = (right.transact none faults body).1 := by
        simp only [transact]
        revert result
        rcases Prog.exec (TxM.handler faults) body (⟨left, []⟩, 0) with ⟨_ | _, _⟩ <;>
          rcases Prog.exec (TxM.handler faults) body (⟨right, []⟩, 0) with ⟨_ | _, _⟩ <;>
          simp
      refine ⟨same, ?_⟩
      cases outcome : (left.transact none faults body).1 with
      | error failure => rwa [transact_error outcome, transact_error (same ▸ outcome)]
      | ok value =>
          have outcomeRight := same ▸ outcome
          simp only [transact] at outcome outcomeRight ⊢
          split at outcome
          · next leftRun =>
              split at outcomeRight
              · next rightRun =>
                  rw [leftRun, rightRun] at still
                  exact still
              · simp at outcomeRight
          · simp at outcome

end MemStore

/-! ## The footprint of an observation -/

variable {F : Type} [GoFloat F] [Platform]

/-- The event names its sample: it carries the id of the observation, and its own
id is a digest of the device, its type, the observation and two more parts. -/
def Event.Names (sample : Observation F) (event : Event) : Prop :=
  event.observationID = sample.observationID ∧ ∃ source labels, event.eventID =
    stableID ["evt", sample.deviceID, source, labels, event.type, sample.observationID]

/-- An event that the transaction of a sample can record: about one of the keys,
and with an id that names the device and the observation. -/
def Event.Of (keys : String → Prop) (sample : Observation F) (event : Event) : Prop :=
  keys event.alertKey ∧ event.Names sample

/-- The operations that the transaction of a sample can issue, when the state
records it uses have certain keys. -/
def Footprint (keys : String → Prop) (sample : Observation F) : TxOp F → Prop
  | .insertObservation stored => stored = sample
  | .touchDevice id _ => id = sample.deviceID
  | .samples deviceID metric labels _ _ =>
      deviceID = sample.deviceID ∧ metric = sample.metric ∧ labels = labelsKey sample.labels
  | .getState key => keys key
  | .putState record => keys record.key
  | .insertTransition transition =>
      ∃ key, keys key ∧ transition.transitionID = stableID ["tr", key, sample.observationID]
  | .insertEvent event | .openAlert event | .resolveAlert event => event.Of keys sample
  | .enqueue message => ∃ event : Event, event.Of keys sample ∧
      (message.subject = subjectEventDevice ∧ message.msgID = event.eventID ∨
        message.subject = subjectEventAlert ∧ message.msgID = event.eventID ++ ".alert")

/-- What an update of the record `key` carries. -/
structure Update.About (key : String) (sample : Observation F) (update : Update) : Prop where
  record : update.ignored = .notIgnored → update.record.key = key
  transitions : ∀ transition ∈ update.transitions,
    transition.transitionID = stableID ["tr", key, sample.observationID]
  events : ∀ event ∈ update.events, event.alertKey = key ∧ event.Names sample

variable {previous : Option StateRecord} {sample : Observation F}

theorem Definition.evaluate_about
    (definition : Definition F)
    (keyed : ∀ record ∈ previous,
      record.key = definition.keyFor sample.deviceID sample.labels) :
    (definition.evaluate previous sample).About
      (definition.keyFor sample.deviceID sample.labels) sample where
  record applied := (evaluate_moves keyed applied).sameKey
  transitions := by
    have made : ∀ record good,
        ∀ transition ∈ (definition.applySample record good sample).transitions,
          transition.transitionID = stableID
            ["tr", definition.keyFor sample.deviceID sample.labels, sample.observationID] := by
      intro record good transition member
      simp only [applySample] at member
      split_ifs at member
      · simp at member
      · rw [List.mem_singleton.mp member]
        rfl
    unfold evaluate
    cases previous with
    | none =>
        dsimp only
        split
        · exact made _ _
        · simp [Update.ignore]
    | some record =>
        dsimp only
        split_ifs
        · simp [Update.ignore]
        · split
          · exact made _ _
          · simp [Update.ignore]
        · simp [Update.ignore]
  events := by
    intro event member
    obtain ⟨digest, sameSample⟩ := evaluate_event_id member
    refine ⟨?_, sameSample, _, _, digest⟩
    rcases definition.evaluate_cases previous sample with
      ⟨_, silent⟩ | ⟨good, judged, result, _⟩
    · simp [silent] at member
    · rw [result] at member
      simp only [applySample] at member
      split_ifs at member
      · simp at member
      · simp only [Option.mem_toList, eventFor] at member
        split_ifs at member <;> obtain ⟨rfl⟩ := member <;> rfl

theorem Rule.evaluate_about
    (rule : Rule F)
    {samples : List (Sample F)}
    (keyed : ∀ record ∈ previous, record.key = rule.keyFor sample.deviceID sample.labels) :
    (rule.evaluate previous samples sample).About
      (rule.keyFor sample.deviceID sample.labels) sample := by
  have sameKey : (previous.getD (rule.freshRecord sample)).key =
      rule.keyFor sample.deviceID sample.labels := by
    cases previous with
    | none => rfl
    | some record => exact keyed record rfl
  have applied : (rule.applySamples previous samples sample).About
      (rule.keyFor sample.deviceID sample.labels) sample := by
    simp only [applySamples]
    split
    · split <;> exact ⟨fun _ => sameKey, by simp, by simp⟩
    · refine ⟨fun _ => sameKey, ?_, ?_⟩
      · intro transition member
        rw [List.mem_singleton.mp member]
        rfl
      · intro event member
        rw [List.mem_singleton.mp member]
        exact ⟨rfl, rfl, _, _, rfl⟩
  have ignored : ∀ record reason, reason ≠ .notIgnored → (Update.ignore record reason).About
      (rule.keyFor sample.deviceID sample.labels) sample := by
    intro record reason given
    exact ⟨fun none => absurd none given, by simp [Update.ignore], by simp [Update.ignore]⟩
  unfold evaluate
  cases previous with
  | none => exact applied
  | some record =>
      dsimp only
      split_ifs
      · exact ignored _ _ (by simp)
      · exact applied
      · exact ignored _ _ (by simp)

theorem Tracker.evaluate_about
    (tracker : Tracker F)
    {store : MemStore F}
    (keyed : ∀ record ∈ previous, record.key = tracker.keyFor sample.deviceID sample.labels) :
    (tracker.evaluate store sample previous).About
      (tracker.keyFor sample.deviceID sample.labels) sample := by
  cases tracker with
  | state definition => exact definition.evaluate_about keyed
  | rule watch => exact watch.evaluate_about keyed

namespace Processor

/-- The keys that the definitions and rules of a processor have for a sample. -/
def Uses (processor : Processor F) (sample : Observation F) (device : Device) (key : String) :
    Prop :=
  (∃ definition ∈ processor.states.forMetric sample.metric device.deviceType,
      key = definition.keyFor sample.deviceID sample.labels) ∨
    ∃ rule ∈ processor.rules.forMetric sample.metric device,
      key = rule.keyFor sample.deviceID sample.labels

theorem uses_of_mem
    {processor : Processor F}
    {sample : Observation F}
    {device : Device}
    {tracker : Tracker F}
    (member : tracker ∈ processor.trackers sample device) :
    processor.Uses sample device (tracker.keyFor sample.deviceID sample.labels) := by
  rcases List.mem_append.mp member with state | rule
  · obtain ⟨definition, listed, rfl⟩ := List.mem_map.mp state
    exact Or.inl ⟨definition, listed, rfl⟩
  · obtain ⟨watch, listed, rfl⟩ := List.mem_map.mp rule
    exact Or.inr ⟨watch, listed, rfl⟩

/-- The transaction of a new observation stays within its footprint. -/
theorem permits_footprint
    (processor : Processor F)
    {sample : Observation F}
    (device : Device)
    {store : MemStore F}
    (sound : store.Sound)
    (fresh : store.observation.lookup sample.observationID = none) :
    Permits ⟨fun _ => Footprint (processor.Uses sample device) sample, True⟩ MemStore.Sound
      processor sample device store := by
  have inserted := Tx.perform_sound (.insertObservation sample) ⟨store, []⟩ sound
  simp only [TxOp.perform, Tx.insertObservation, fresh] at inserted
  refine ⟨rfl, ?_, fun tracker member => ?_⟩
  · unfold MemStore.touched
    split
    · exact inserted
    · exact Tx.perform_sound (.touchDevice _ _) ⟨store.withObservation sample, []⟩ inserted
  · have used := uses_of_mem member
    refine ⟨fun _ => used, fun _ _ _ => ⟨rfl, rfl, rfl⟩, fun current sound applied => ?_⟩
    have about : (tracker.evaluate store sample (current.states.lookup _)).About
      (tracker.keyFor sample.deviceID sample.labels) sample :=
        tracker.evaluate_about (sound.keyed _)
    constructor
    · change processor.Uses sample device _
      rwa [about.record applied]
    · exact Tx.perform_sound (.putState _) ⟨current, []⟩ sound
    · intro transition member after sound
      obtain ⟨_, _, same⟩ := after.withTransition_eq transition
      rw [same]
      exact ⟨⟨_, used, about.transitions transition member⟩, sound.keyed, sound.listed⟩
    · intro event member after sound
      obtain ⟨alertKey, names⟩ := about.events event member
      have ofSample : event.Of (processor.Uses sample device) sample := ⟨alertKey ▸ used, names⟩
      obtain ⟨_, _, _, _, _, same⟩ := after.withEvent_eq event
      rw [same]
      exact ⟨⟨ofSample, fun _ _ => ⟨⟨event, ofSample, Or.inl ⟨rfl, rfl⟩⟩,
        ⟨event, ofSample, Or.inr ⟨rfl, rfl⟩⟩⟩, Or.inl trivial, fun _ _ _ => ⟨ofSample, ofSample⟩⟩,
        sound.keyed, sound.listed⟩

theorem body_follows
    (processor : Processor F)
    (sample : Observation F)
    (device : Device)
    {store : MemStore F}
    (sound : store.Sound) :
    TxM.Follows ⟨fun _ => Footprint (processor.Uses sample device) sample, True⟩
      (processor.body sample device) ⟨store, []⟩ fun _ _ => True := by
  cases fresh : store.observation.lookup sample.observationID with
  | none =>
      exact (body_effect fresh rfl (processor.permits_footprint device sound fresh)).mono
        fun _ _ _ => trivial
  | some old => exact (body_repeated _ processor device fresh rfl).mono fun _ _ _ => trivial

end Processor

/-! ## Calls and scopes -/

/-- A key keeps its record and its alerts. -/
def Untouched (key : String) (store after : MemStore F) : Prop :=
  after.states.lookup key = store.states.lookup key ∧
    alertsOf key after.alerts = alertsOf key store.alerts

namespace Scope

/-- The record and the alerts of one key. -/
def ofKey (key : String) : Scope F where
  keys other := other = key
  rows _ := false
  ids _ := False
  events _ := False
  transitions _ := False
  devices _ := False
  messages _ := false

variable {scope : Scope F} {keys : String → Prop} {sample : Observation F}

/-- The scope holds everything that the transaction of a sample reads. -/
structure Holds (scope : Scope F) (used : String → Prop) (sample : Observation F) : Prop where
  keys : ∀ key, used key → scope.keys key
  ids : scope.ids sample.observationID
  rows : ∀ row : Observation F, row.deviceID = sample.deviceID → row.metric = sample.metric →
    labelsKey row.labels = labelsKey sample.labels → scope.rows row = true
  events : ∀ event : Event, event.Of used sample → scope.events event.eventID

/-- The scope holds nothing that the transaction of a sample writes. -/
structure Misses (scope : Scope F) (used : String → Prop) (sample : Observation F) : Prop where
  keys : ∀ key, used key → ¬scope.keys key
  ids : ¬scope.ids sample.observationID
  rows : scope.rows sample = false
  events : ∀ event : Event, event.Of used sample → ¬scope.events event.eventID
  transitions : ∀ key, used key →
    ¬scope.transitions (stableID ["tr", key, sample.observationID])
  devices : ¬scope.devices sample.deviceID
  messages : ∀ event : Event, event.Of used sample → ∀ message : OutboxMessage,
    message.subject = subjectEventDevice ∧ message.msgID = event.eventID ∨
      message.subject = subjectEventAlert ∧ message.msgID = event.eventID ++ ".alert" →
        scope.messages message = false

omit [GoFloat F] in
theorem Holds.reads
    (holds : scope.Holds keys sample)
    {op : TxOp F}
    (issued : Footprint keys sample op) :
    op.Reads scope := by
  cases op with
  | insertObservation stored =>
      obtain rfl := issued
      exact holds.ids
  | samples deviceID metric labels since until_ =>
      obtain ⟨rfl, rfl, rfl⟩ := issued
      exact holds.rows
  | getState key => exact holds.keys key issued
  | insertEvent event => exact holds.events event issued
  | openAlert event => exact holds.keys _ issued.1
  | resolveAlert event => exact holds.keys _ issued.1
  | _ => trivial

omit [GoFloat F] in
theorem Misses.spares
    (misses : scope.Misses keys sample)
    {op : TxOp F}
    (issued : Footprint keys sample op) :
    op.Spares scope := by
  cases op with
  | insertObservation stored =>
      obtain rfl := issued
      exact ⟨misses.ids, misses.rows⟩
  | touchDevice id instant =>
      obtain rfl := issued
      exact misses.devices
  | putState record => exact misses.keys _ issued
  | insertTransition transition =>
      obtain ⟨key, used, same⟩ := issued
      change ¬scope.transitions transition.transitionID
      rw [same]
      exact misses.transitions key used
  | insertEvent event => exact misses.events event issued
  | openAlert event => exact misses.keys _ issued.1
  | resolveAlert event => exact misses.keys _ issued.1
  | enqueue message =>
      obtain ⟨event, ofSample, kind⟩ := issued
      exact misses.messages event ofSample _ kind
  | _ => trivial

end Scope

namespace Processor

variable {processor : Processor F} {attempt : Attempt F} {sample : Observation F}
variable {store : MemStore F}

theorem process_sound
    (processor : Processor F)
    (attempt : Attempt F)
    (sample : Observation F)
    (sound : store.Sound) :
    (processor.process attempt sample store).2.Sound := by
  unfold process
  split
  · exact sound
  · exact sound
  · split
    · exact sound
    · exact MemStore.transact_preserves MemStore.Sound (fun op tx _ => Tx.perform_sound op tx)
        sound (body_follows processor _ _ sound) _ (Or.inl trivial)

/-- A call that reads a scope only ends in the same way from stores that agree on
it, and keeps them in agreement. -/
theorem process_agrees
    {scope : Scope F}
    (holds : ∀ enriched device, processor.Prepares attempt sample enriched device →
      scope.Holds (processor.Uses enriched device) enriched)
    {left right : MemStore F}
    (soundLeft : left.Sound)
    (soundRight : right.Sound)
    (agree : Agree scope left right) :
    (processor.process attempt sample left).1 = (processor.process attempt sample right).1 ∧
      Agree scope (processor.process attempt sample left).2
        (processor.process attempt sample right).2 := by
  unfold process
  split
  · exact ⟨rfl, agree⟩
  · exact ⟨rfl, agree⟩
  · next attached device found =>
      split
      · exact ⟨rfl, agree⟩
      · next enriched hooked =>
          have reads := (holds enriched device ⟨attached, found, hooked⟩)
          exact MemStore.transact_agrees (fun _ op => reads.reads) soundLeft soundRight agree
            (body_follows processor enriched device soundLeft) _ (Or.inl trivial)

theorem process_spares
    {scope : Scope F}
    (misses : ∀ enriched device, processor.Prepares attempt sample enriched device →
      scope.Misses (processor.Uses enriched device) enriched)
    (sound : store.Sound) :
    Agree scope store (processor.process attempt sample store).2 := by
  unfold process
  split
  · exact .refl _ _
  · exact .refl _ _
  · next attached device found =>
      split
      · exact .refl _ _
      · next enriched hooked =>
          have spares := misses enriched device ⟨attached, found, hooked⟩
          have kept : ∀ (op : TxOp F) tx,
              Footprint (processor.Uses enriched device) enriched op →
                tx.store.Sound ∧ Agree scope store tx.store →
                  (op.perform tx).2.store.Sound ∧ Agree scope store (op.perform tx).2.store := by
            rintro op tx issued ⟨stillSound, agree⟩
            exact ⟨Tx.perform_sound op tx stillSound,
              agree.trans (Tx.perform_spares (spares.spares issued) stillSound)⟩
          exact (MemStore.transact_preserves
            (fun after => after.Sound ∧ Agree scope store after) kept ⟨sound, .refl _ _⟩
            (body_follows processor enriched device sound) _ (Or.inl trivial)).2

theorem process_untouched
    (sound : store.Sound)
    {key : String}
    (unused : ∀ enriched device, processor.Prepares attempt sample enriched device →
      ¬processor.Uses enriched device key) :
    Untouched key store (processor.process attempt sample store).2 := by
  have agree : Agree (Scope.ofKey key) store (processor.process attempt sample store).2 := by
    refine process_spares (fun enriched device prepares => ?_) sound
    refine ⟨?_, id, rfl, fun _ _ => id, fun _ _ => id, id, fun _ _ _ _ => rfl⟩
    rintro other used rfl
    exact unused enriched device prepares used
  exact ⟨(agree.states key rfl).symm, (agree.alerts key rfl).symm⟩

theorem process_event
    (sound : store.Sound)
    {id : String}
    {event : Event}
    (found : (processor.process attempt sample store).2.events.lookup id = some event) :
    store.events.lookup id = some event ∨
      ∃ enriched device, processor.Prepares attempt sample enriched device ∧
        event.Of (processor.Uses enriched device) enriched ∧ id = event.eventID := by
  rcases processor.process_cases attempt sample store with
    ⟨-, result⟩ | ⟨failure, result⟩ | ⟨enriched, device, prepares, result⟩
  · rw [result] at found
    exact Or.inl found
  · rw [result] at found
    exact Or.inl found
  · rw [result] at found
    have stored := MemStore.transact_preserves
      (fun after => ∀ id event, after.events.lookup id = some event →
        store.events.lookup id = some event ∨
          event.Of (processor.Uses enriched device) enriched ∧ id = event.eventID)
      (fun op tx issued earlier id event found => by
        rcases Tx.perform_event found with old | ⟨rfl, own⟩
        · exact earlier id event old
        · exact Or.inr ⟨issued, own⟩)
      (fun _ _ => Or.inl) (body_follows processor enriched device sound)
      attempt.refused (Or.inl trivial : TxM.Terms.Admits _ attempt.faults)
    exact (stored id event found).imp_right fun new => ⟨enriched, device, prepares, new⟩

end Processor

/-! ## Script hooks -/

/-- What `decodeEnrich` lets through: a script may change metadata only. -/
def Extension.MetadataOnly (extension : Extension F) : Prop :=
  ∀ sample device enriched, extension.enrich sample device = .ok enriched →
    enriched = { sample with metadata := enriched.metadata }

/-- The hook of the attempt, if there is one, changes metadata only. -/
def Attempt.MetadataOnly (attempt : Attempt F) : Prop :=
  ∀ extension ∈ attempt.extension, extension.MetadataOnly

omit [GoFloat F] [Platform] in
theorem Attempt.plain_metadataOnly : (Attempt.plain F).MetadataOnly := by
  intro extension member
  cases member

variable {device : Device}
variable {processor : Processor F}

/-- The transaction gets the observation that was delivered, with other
metadata, and its device from the inventory. -/
theorem Processor.Prepares.same
    {attempt : Attempt F}
    {enriched : Observation F}
    (prepares : processor.Prepares attempt sample enriched device)
    (faithful : attempt.MetadataOnly) :
    enriched = { sample with metadata := enriched.metadata } ∧
      processor.inventory.lookup sample.deviceID = some device ∧ device.enabled = true := by
  obtain ⟨attached, found, hooked⟩ := prepares
  have inventory : attached = { sample with metadata := attached.metadata } ∧
      processor.inventory.lookup sample.deviceID = some device ∧ device.enabled = true := by
    unfold enrich at found
    split at found
    · simp at found
    · next known lookup =>
        split at found
        · simp at found
        · next enabled =>
            obtain ⟨rfl, rfl⟩ := Prod.mk.inj (Except.ok.inj found)
            exact ⟨rfl, lookup, by simpa using enabled⟩
  refine ⟨?_, inventory.2⟩
  unfold extended at hooked
  split at hooked
  · obtain ⟨rfl⟩ := hooked
    exact inventory.1
  · next extension configured =>
      have kept := faithful extension configured attached device enriched hooked
      rw [kept, inventory.1]

theorem Processor.not_disabled
    (registered : processor.inventory.lookup sample.deviceID = some device)
    (enabled : device.enabled = true) :
    processor.enrich sample ≠ .error .deviceDisabled := by
  simp [enrich, registered, enabled]

/-- The hook of the attempt, if there is one, neither sets nor removes the mark of
synthetic samples. -/
def Attempt.KeepsMark (attempt : Attempt F) : Prop :=
  ∀ extension ∈ attempt.extension, ∀ sample device enriched,
    extension.enrich sample device = .ok enriched →
      enriched.metadata.lookup "stale" = sample.metadata.lookup "stale"

omit [GoFloat F] [Platform] in
theorem Attempt.plain_keepsMark : (Attempt.plain F).KeepsMark := by
  intro extension member
  cases member

/-- The transaction gets the mark that was delivered: the inventory context has
other names. -/
theorem Processor.Prepares.mark
    {attempt : Attempt F}
    {enriched : Observation F}
    (prepares : processor.Prepares attempt sample enriched device)
    (kept : attempt.KeepsMark) :
    enriched.metadata.lookup "stale" = sample.metadata.lookup "stale" := by
  have unnamed : ∀ (entries : List (String × String)) (metadata : StringMap String),
      (∀ entry ∈ entries, entry.1 ≠ "stale") →
        (entries.foldl setMetadata metadata).lookup "stale" = metadata.lookup "stale" := by
    intro entries
    induction entries with
    | nil => exact fun _ _ => rfl
    | cons entry rest ih =>
        intro metadata names
        rw [List.forall_mem_cons] at names
        rw [List.foldl_cons, ih _ names.2, setMetadata]
        split
        · rfl
        · rw [StringMap.lookup_insert_ite, if_neg names.1.symm]
  obtain ⟨attached, found, hooked⟩ := prepares
  have inventory : attached.metadata.lookup "stale" = sample.metadata.lookup "stale" := by
    unfold enrich at found
    split at found
    · simp at found
    · split at found
      · simp at found
      · obtain ⟨rfl, rfl⟩ := Prod.mk.inj (Except.ok.inj found)
        refine unnamed _ _ ?_
        split <;> simp
  rw [← inventory]
  unfold extended at hooked
  split at hooked
  · obtain ⟨rfl⟩ := hooked
    rfl
  · next extension configured => exact kept extension configured attached device enriched hooked

end InfraObserver
