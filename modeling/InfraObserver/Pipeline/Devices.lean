import InfraObserver.Library.Keyed
import InfraObserver.Pipeline.Advance

/-!
# Devices do not influence each other

The processor is sharded by device: calls of different devices may run in any
order. Two interleavings of the same calls that keep the order of each device's
own calls leave the same tables, up to the order of rows and the numbers of
outbox messages.
-/

namespace InfraObserver

variable {F : Type} [GoFloat F] [Platform]

namespace Processor

/-- For these samples, distinct trackers, devices or labels have distinct keys. -/
def DistinctKeys (processor : Processor F) (samples : List (Observation F)) : Prop :=
  ∀ first second, processor.Tracks first → processor.Tracks second →
    ∀ sample ∈ samples, ∀ other ∈ samples,
      first.keyFor sample.deviceID sample.labels = second.keyFor other.deviceID other.labels →
        first = second ∧ sample.deviceID = other.deviceID ∧
          first.labelsOf sample.labels = second.labelsOf other.labels

end Processor

/-- Two stores hold the same records, up to the order of alerts and messages and
the numbers of the messages. -/
structure SameTables (left right : MemStore F) : Prop where
  states : left.states = right.states
  observation : left.observation = right.observation
  transitions : left.transitions = right.transitions
  events : left.events = right.events
  alerts : left.alerts.Perm right.alerts
  devices : left.devices = right.devices
  outbox : (left.outbox.map OutboxRow.unnumbered).Perm (right.outbox.map OutboxRow.unnumbered)

namespace Processor

variable {processor : Processor F} {calls : List (Call F)}

/-! ## The part of the store of one device -/

/-- An event id that names a device. -/
def EventOfDevice (deviceID id : String) : Prop :=
  ∃ source labels type observationID,
    id = stableID ["evt", deviceID, source, labels, type, observationID]

/-- A message about an event whose id names a device. -/
def MessageOfDevice (deviceID : String) (message : OutboxMessage) : Prop :=
  ∃ id, EventOfDevice deviceID id ∧
    (message.subject = subjectEventDevice ∧ message.msgID = id ∨
      message.subject = subjectEventAlert ∧ message.msgID = id ++ ".alert")

/-- A key that some call uses for a device. -/
def KeyOfDevice (processor : Processor F) (calls : List (Call F)) (deviceID key : String) :
    Prop :=
  ∃ call ∈ calls, call.sample.deviceID = deviceID ∧
    ∃ tracker, processor.Tracks tracker ∧ key = tracker.keyFor deviceID call.sample.labels

open Classical in
/-- The part of the store that belongs to a device. -/
noncomputable def deviceScope
    (processor : Processor F)
    (calls : List (Call F))
    (deviceID : String) : Scope F where
  keys := processor.KeyOfDevice calls deviceID
  rows row := row.deviceID = deviceID
  ids id := ∃ call ∈ calls, call.sample.deviceID = deviceID ∧ call.sample.observationID = id
  events := EventOfDevice deviceID
  transitions id := ∃ key observationID, processor.KeyOfDevice calls deviceID key ∧
    id = stableID ["tr", key, observationID]
  devices id := id = deviceID
  messages message := MessageOfDevice deviceID message

open Classical in
/-- The part of the store that belongs to no device of the calls. -/
noncomputable def otherScope (processor : Processor F) (calls : List (Call F)) : Scope F where
  keys key := ∀ deviceID, ¬(processor.deviceScope calls deviceID).keys key
  rows _ := false
  ids id := ∀ deviceID, ¬(processor.deviceScope calls deviceID).ids id
  events id := ∀ deviceID, ¬(processor.deviceScope calls deviceID).events id
  transitions id := ∀ deviceID, ¬(processor.deviceScope calls deviceID).transitions id
  devices id := ∀ call ∈ calls, call.sample.deviceID ≠ id
  messages message := ∀ deviceID, (processor.deviceScope calls deviceID).messages message = false

variable {call : Call F} {enriched : Observation F} {device : Device}

theorem deviceScope_holds
    (member : call ∈ calls)
    (faithful : call.attempt.MetadataOnly)
    (prepares : processor.Prepares call.attempt call.sample enriched device) :
    (processor.deviceScope calls call.sample.deviceID).Holds
      (processor.Uses enriched device) enriched := by
  obtain ⟨same, -⟩ := prepares.same faithful
  rw [same]
  refine ⟨fun key used => ?_, ⟨call, member, rfl, rfl⟩, fun row device _ _ => ?_, ?_⟩
  · obtain ⟨tracker, known, -, keyEq⟩ := used.tracker
    exact ⟨call, member, rfl, tracker, known, keyEq⟩
  · simpa [deviceScope] using device
  · rintro event ⟨-, -, source, labels, digest⟩
    exact ⟨source, labels, _, _, digest⟩

theorem deviceScope_misses
    (injective : Function.Injective (stableID : List String → String))
    (ids : ∀ first ∈ calls, ∀ second ∈ calls,
      first.sample.observationID = second.sample.observationID →
        first.sample.deviceID = second.sample.deviceID)
    (distinct : processor.DistinctKeys (calls.map Call.sample))
    (member : call ∈ calls)
    (faithful : call.attempt.MetadataOnly)
    {deviceID : String}
    (other : call.sample.deviceID ≠ deviceID)
    (prepares : processor.Prepares call.attempt call.sample enriched device) :
    (processor.deviceScope calls deviceID).Misses (processor.Uses enriched device) enriched := by
  obtain ⟨same, -⟩ := prepares.same faithful
  rw [same]
  have keys : ∀ key, processor.Uses { call.sample with metadata := enriched.metadata } device key →
      ¬processor.KeyOfDevice calls deviceID key := by
    rintro key used ⟨second, secondMember, rfl, tracker, known, keyEq⟩
    obtain ⟨first, firstKnown, -, firstKey⟩ := used.tracker
    exact other (distinct first tracker firstKnown known _ (List.mem_map_of_mem member) _
      (List.mem_map_of_mem secondMember) (firstKey.symm.trans keyEq)).2.1
  have events : ∀ event : Event, event.Of (processor.Uses
      { call.sample with metadata := enriched.metadata } device)
      { call.sample with metadata := enriched.metadata } →
        ¬EventOfDevice deviceID event.eventID := by
    rintro event ⟨-, -, source, labels, digest⟩ ⟨source', labels', type, observationID, named⟩
    have parts := injective (digest.symm.trans named)
    simp only [List.cons.injEq, true_and] at parts
    exact other parts.1
  refine ⟨keys, ?_, ?_, events, ?_, other, ?_⟩
  · rintro ⟨second, secondMember, rfl, sameID⟩
    exact other (ids call member second secondMember sameID.symm)
  · simpa [deviceScope] using other
  · rintro key used ⟨key', observationID, owned, digest⟩
    have parts := injective digest
    simp only [List.cons.injEq, true_and] at parts
    exact keys key used (parts.1 ▸ owned)
  · intro event ofSample message kind
    have unowned : ¬MessageOfDevice deviceID message := by
      rintro ⟨id, owned, kind'⟩
      refine events event ofSample ?_
      rcases kind with ⟨subject, msgID⟩ | ⟨subject, msgID⟩ <;>
        rcases kind' with ⟨subject', msgID'⟩ | ⟨subject', msgID'⟩
      · rwa [← msgID, msgID']
      · rw [subject] at subject'
        exact absurd subject' (by decide)
      · rw [subject] at subject'
        exact absurd subject' (by decide)
      · rw [msgID, String.append_left_inj] at msgID'
        rwa [msgID']
    simp [deviceScope, unowned]

theorem otherScope_misses
    (member : call ∈ calls)
    (faithful : call.attempt.MetadataOnly)
    (prepares : processor.Prepares call.attempt call.sample enriched device) :
    (processor.otherScope calls).Misses (processor.Uses enriched device) enriched := by
  have holds := deviceScope_holds member faithful prepares
  obtain ⟨same, -⟩ := prepares.same faithful
  rw [same] at holds ⊢
  refine ⟨fun key used apart => apart _ (holds.keys key used), fun apart => apart _ holds.ids,
    rfl, fun event ofSample apart => apart _ (holds.events event ofSample),
    fun key used apart => apart _ ⟨key, _, holds.keys key used, rfl⟩,
    fun apart => apart call member rfl, ?_⟩
  intro event ofSample message kind
  have owned : MessageOfDevice call.sample.deviceID message :=
    ⟨event.eventID, holds.events event ofSample, kind⟩
  simp only [otherScope, decide_eq_false_iff_not, not_forall]
  exact ⟨call.sample.deviceID, by simp [deviceScope, owned]⟩

/-! ## Whole runs -/

theorem runCalls_spares
    {scope : Scope F}
    (calls : List (Call F))
    (misses : ∀ call ∈ calls, ∀ enriched device,
      processor.Prepares call.attempt call.sample enriched device →
        scope.Misses (processor.Uses enriched device) enriched)
    {store : MemStore F}
    (sound : store.Sound) :
    Agree scope store (processor.runCalls calls store) := by
  induction calls generalizing store with
  | nil => exact .refl _ _
  | cons call rest ih =>
      rw [List.forall_mem_cons] at misses
      have first := process_spares misses.1 sound
      exact first.trans
        (ih misses.2 (processor.process_sound _ _ sound))

/-- For one device a run does what the calls of the device do on their own. -/
theorem runCalls_filter
    (injective : Function.Injective (stableID : List String → String))
    (ids : ∀ first ∈ calls, ∀ second ∈ calls,
      first.sample.observationID = second.sample.observationID →
        first.sample.deviceID = second.sample.deviceID)
    (distinct : processor.DistinctKeys (calls.map Call.sample))
    (faithful : ∀ call ∈ calls, call.attempt.MetadataOnly)
    (deviceID : String)
    (run : List (Call F))
    (members : ∀ call ∈ run, call ∈ calls)
    {left right : MemStore F}
    (soundLeft : left.Sound)
    (soundRight : right.Sound)
    (agree : Agree (processor.deviceScope calls deviceID) left right) :
    Agree (processor.deviceScope calls deviceID) (processor.runCalls run left)
      (processor.runCalls (run.filter fun call => call.sample.deviceID = deviceID) right) := by
  induction run generalizing left right with
  | nil => exact agree
  | cons call rest ih =>
      rw [List.forall_mem_cons] at members
      have nextLeft := processor.process_sound call.attempt call.sample soundLeft
      by_cases own : call.sample.deviceID = deviceID
      · rw [List.filter_cons_of_pos (by simpa using own)]
        have holds : ∀ enriched device,
            processor.Prepares call.attempt call.sample enriched device →
              (processor.deviceScope calls call.sample.deviceID).Holds
                (processor.Uses enriched device) enriched :=
          fun _ _ => deviceScope_holds members.1 (faithful call members.1)
        rw [own] at holds
        obtain ⟨-, after⟩ := process_agrees holds soundLeft soundRight agree
        exact ih members.2 nextLeft
          (processor.process_sound call.attempt call.sample soundRight) after
      · rw [List.filter_cons_of_neg (by simpa using own)]
        have spared := process_spares (fun enriched device => deviceScope_misses injective ids
          distinct members.1 (faithful call members.1) own) soundLeft
        exact ih members.2 nextLeft soundRight (spared.symm.trans agree)

/-- Two interleavings of the same calls that keep the order of each device's own
calls leave the same tables. -/
theorem devices_independent
    (injective : Function.Injective (stableID : List String → String))
    (processor : Processor F)
    (store : MemStore F)
    (sound : store.Sound)
    (left right : List (Call F))
    (sameOrder : ∀ deviceID, left.filter (fun call => call.sample.deviceID = deviceID) =
      right.filter fun call => call.sample.deviceID = deviceID)
    (faithful : ∀ call ∈ left, call.attempt.MetadataOnly)
    (ids : ∀ first ∈ left, ∀ second ∈ left,
      first.sample.observationID = second.sample.observationID →
        first.sample.deviceID = second.sample.deviceID)
    (distinct : processor.DistinctKeys (left.map Call.sample)) :
    SameTables (processor.runCalls left store) (processor.runCalls right store) := by
  have members : ∀ call ∈ right, call ∈ left := by
    intro call member
    have listed : call ∈ right.filter fun other =>
        other.sample.deviceID = call.sample.deviceID := by simp [member]
    rw [← sameOrder] at listed
    exact (List.mem_filter.mp listed).1
  have inside : ∀ deviceID, Agree (processor.deviceScope left deviceID)
      (processor.runCalls left store) (processor.runCalls right store) := by
    intro deviceID
    have first := runCalls_filter injective ids distinct faithful deviceID left (fun _ => id)
      sound sound (.refl _ _)
    have second := runCalls_filter injective ids distinct faithful deviceID right members
      sound sound (.refl _ _)
    rw [sameOrder] at first
    exact first.trans second.symm
  have outside : Agree (processor.otherScope left)
      (processor.runCalls left store) (processor.runCalls right store) := by
    have first : Agree (processor.otherScope left) store (processor.runCalls left store) :=
      runCalls_spares left (fun call member _ _ =>
        otherScope_misses member (faithful call member)) sound
    have second : Agree (processor.otherScope left) store (processor.runCalls right store) :=
      runCalls_spares right (fun call member _ _ =>
        otherScope_misses (members call member) (faithful call (members call member))) sound
    exact first.symm.trans second
  -- Every record belongs to a device of the calls or to none.
  let part := processor.deviceScope left
  refine ⟨StringMap.ext_of_parts (fun deviceID => (part deviceID).keys)
      (fun deviceID => (inside deviceID).states) outside.states,
    StringMap.ext_of_parts (fun deviceID => (part deviceID).ids)
      (fun deviceID => (inside deviceID).observation) outside.observation,
    StringMap.ext_of_parts (fun deviceID => (part deviceID).transitions)
      (fun deviceID => (inside deviceID).transitions) outside.transitions,
    StringMap.ext_of_parts (fun deviceID => (part deviceID).events)
      (fun deviceID => (inside deviceID).events) outside.events, ?_,
    Finmap.ext_lookup fun id => (inside id).devices id rfl, ?_⟩
  · refine Keyed.perm_of_filter fun alert => ⟨fun other => other.alertKey = alert.alertKey, ?_, ?_⟩
    · simp
    · by_cases owned : ∃ deviceID, (part deviceID).keys alert.alertKey
      · obtain ⟨deviceID, owns⟩ := owned
        exact (inside deviceID).alerts _ owns
      · exact outside.alerts _ (not_exists.mp owned)
  · refine Keyed.perm_of_filter fun row => ?_
    by_cases owned : ∃ deviceID, (part deviceID).messages row.msg = true
    · obtain ⟨deviceID, owns⟩ := owned
      exact ⟨_, owns, (inside deviceID).outbox⟩
    · refine ⟨_, ?_, outside.outbox⟩
      simp only [otherScope, decide_eq_true_eq]
      intro deviceID
      exact Bool.eq_false_iff.mpr (not_exists.mp owned deviceID)

end Processor

end InfraObserver

namespace InfraObserver.Processor

attribute [local instance] Platform.plain GoFloat.integer

/-- Two switches with a definition and a rule over the same metric. -/
def pairProcessor : Processor ℤ :=
  { flapProcessor with
    inventory := flapProcessor.inventory.insert "sw-2" { plainSwitch with id := "sw-2" } }

/-- A call for an unreachable sample of a switch. -/
def pairCall (deviceID : String) : Call ℤ :=
  ⟨Attempt.plain ℤ,
    { Definition.reachabilitySample ("o-" ++ deviceID) 1 false with deviceID }⟩

/-- The samples of two switches can be processed in either order. -/
theorem pair_independent :
    SameTables (pairProcessor.runCalls [pairCall "sw-1", pairCall "sw-2"] .new)
      (pairProcessor.runCalls [pairCall "sw-2", pairCall "sw-1"] .new) := by
  refine devices_independent plainDigest_injective pairProcessor .new
    (Reached.start ∅).sound _ _ ?_ ?_ ?_ ?_
  · intro deviceID
    by_cases first : "sw-1" = deviceID
    · subst first
      rfl
    · by_cases second : "sw-2" = deviceID
      · subst second
        rfl
      · simp [pairCall, first, second]
  · simp [pairCall, Attempt.plain, Attempt.MetadataOnly]
  · simp [pairCall, Definition.reachabilitySample]
  · intro first second known known' sample member other member' same
    have states : ∀ definition ∈ pairProcessor.states.all, definition = flapDefinition := by
      intro definition listed
      exact List.mem_singleton.mp listed
    have rules : ∀ rule ∈ pairProcessor.rules.all, rule = flapRule := by
      intro rule listed
      exact List.mem_singleton.mp listed
    revert same
    simp only [List.map_cons, List.map_nil, List.mem_cons, List.not_mem_nil, or_false]
      at member member'
    cases first with
    | state definition =>
        obtain rfl := states definition known
        cases second with
        | state definition =>
            obtain rfl := states definition known'
            rcases member with rfl | rfl <;> rcases member' with rfl | rfl <;> decide +kernel
        | rule rule =>
            obtain rfl := rules rule known'
            rcases member with rfl | rfl <;> rcases member' with rfl | rfl <;> decide +kernel
    | rule rule =>
        obtain rfl := rules rule known
        cases second with
        | state definition =>
            obtain rfl := states definition known'
            rcases member with rfl | rfl <;> rcases member' with rfl | rfl <;> decide +kernel
        | rule rule =>
            obtain rfl := rules rule known'
            rcases member with rfl | rfl <;> rcases member' with rfl | rfl <;> decide +kernel

end InfraObserver.Processor
