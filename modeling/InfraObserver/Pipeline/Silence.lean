import InfraObserver.Pipeline.Advance
import InfraObserver.Pipeline.Sweep

/-!
# What silence touches

The synthetic sample of a silent entity goes through `Process` like any other
sample: every definition and rule of its metric sees it, also those that never
asked for silence to count. And `Sweep` ends at the first sample that fails, so
the entities after it wait.
-/

namespace InfraObserver

variable {F : Type} [GoFloat F] [Platform]

/-! ## Turns that leave a key alone -/

omit [GoFloat F] [Platform] in
theorem Untouched.refl (key : String) (store : MemStore F) : Untouched key store store :=
  ⟨rfl, rfl⟩

omit [GoFloat F] [Platform] in
theorem Untouched.trans
    {key : String}
    {store middle after : MemStore F}
    (first : Untouched key store middle)
    (second : Untouched key middle after) :
    Untouched key store after :=
  ⟨second.1.trans first.1, second.2.trans first.2⟩

omit [GoFloat F] in
theorem MemStore.withEvent_untouched
    {key : String}
    {event : Event}
    (other : event.alertKey ≠ key)
    (store : MemStore F) :
    Untouched key store (store.withEvent event) := by
  obtain ⟨_, _, _, _, _, same⟩ := store.withEvent_eq event
  refine ⟨by rw [same], ?_⟩
  rcases store.withEvent_notes event with unnoted | notes
  · rw [unnoted]
  · rcases notes.alerts with kept | ⟨-, opened⟩ | resolved
    · rw [kept]
    · rw [opened]
      simp [alertsOf, Alert.opened, other]
    · rw [resolved, Tx.alertsOf_resolved_of_ne other]

omit [GoFloat F] in
theorem Update.stored_untouched
    {key : String}
    {update : Update}
    (record : update.record.key ≠ key)
    (events : ∀ event ∈ update.events, event.alertKey ≠ key)
    (store : MemStore F) :
    Untouched key store (update.stored store) := by
  have noted : ∀ (events : List Event) (store : MemStore F),
      (∀ event ∈ events, event.alertKey ≠ key) →
        Untouched key store (events.foldl MemStore.withEvent store) := by
    intro events
    induction events with
    | nil => exact fun store _ => .refl key store
    | cons event rest ih =>
        intro store others
        rw [List.forall_mem_cons] at others
        exact (MemStore.withEvent_untouched others.1 store).trans (ih _ others.2)
  refine Untouched.trans ?_ (noted update.events _ events)
  obtain ⟨_, _, moved⟩ := MemStore.foldl_withTransition_eq update.transitions
    { store with states := store.states.insert update.record.key update.record }
  rw [moved]
  exact ⟨Finmap.lookup_insert_of_ne _ (Ne.symm record), rfl⟩

namespace Tracker

variable {before store : MemStore F} {sample : Observation F} {tracker : Tracker F}

theorem turn_untouched
    (keyed : ∀ key record, store.states.lookup key = some record → record.key = key)
    {key : String}
    (spared : tracker.keyFor sample.deviceID sample.labels = key →
      tracker.applies before sample (store.states.lookup key) = false) :
    Untouched key store (tracker.turn before sample store) := by
  simp only [turn]
  split
  · next applied =>
      have about : (tracker.evaluate before sample (store.states.lookup
          (tracker.keyFor sample.deviceID sample.labels))).About
            (tracker.keyFor sample.deviceID sample.labels) sample :=
        tracker.evaluate_about fun record => keyed _ record
      have other : tracker.keyFor sample.deviceID sample.labels ≠ key := by
        rintro rfl
        rw [spared rfl] at applied
        cases applied
      refine Update.stored_untouched ?_ (fun event member => ?_) store
      · rwa [about.record (of_decide_eq_true applied)]
      · rwa [(about.events event member).1]
  · exact .refl key store

theorem turn_keyed
    (keyed : ∀ key record, store.states.lookup key = some record → record.key = key) :
    ∀ key record, (tracker.turn before sample store).states.lookup key = some record →
      record.key = key := by
  simp only [turn]
  split
  · obtain ⟨_, _, _, _, _, _, _, same⟩ := (tracker.evaluate before sample
      (store.states.lookup (tracker.keyFor sample.deviceID sample.labels))).stored_eq store
    intro key record found
    rw [same] at found
    dsimp only at found
    rw [StringMap.lookup_insert_ite] at found
    split_ifs at found with own
    · rw [own, ← Option.some.inj found]
    · exact keyed key record found
  · exact keyed

theorem foldl_turn_untouched
    {key : String}
    (trackers : List (Tracker F))
    (spared : ∀ tracker ∈ trackers, tracker.keyFor sample.deviceID sample.labels = key →
      tracker.applies before sample (before.states.lookup key) = false)
    (keyed : ∀ key record, store.states.lookup key = some record → record.key = key)
    (same : store.states.lookup key = before.states.lookup key) :
    Untouched key store (trackers.foldl (turn before sample) store) := by
  induction trackers generalizing store with
  | nil => exact .refl key store
  | cons tracker rest ih =>
      rw [List.forall_mem_cons] at spared
      have own : Untouched key store (tracker.turn before sample store) :=
        turn_untouched keyed (same ▸ spared.1)
      exact own.trans (ih spared.2 (turn_keyed keyed) (own.1.trans same))

end Tracker

/-! ## Whose records change -/

namespace Processor

variable {processor : Processor F} {store : MemStore F} {call : Call F} {key : String}

/-- A call changes the record of a key: it succeeds and takes the observation in, for a
device that is enabled, and a definition or rule of the key does not ignore it. -/
def Touches (processor : Processor F) (store : MemStore F) (call : Call F) (key : String) :
    Prop :=
  processor.Succeeds store call ∧ ∃ enriched device,
    processor.Prepares call.attempt call.sample enriched device ∧
    store.observation.lookup enriched.observationID = none ∧
    ∃ tracker ∈ processor.trackers enriched device,
      tracker.keyFor enriched.deviceID enriched.labels = key ∧
        tracker.applies store enriched (store.states.lookup key) = true

theorem Touches.newer
    (touches : processor.Touches store call key)
    (sound : store.Sound) :
    ∃ record, (processor.after store call).states.lookup key = some record ∧
      ∀ old ∈ store.states.lookup key, old.lastObservedAt < record.lastObservedAt := by
  obtain ⟨⟨outcome, succeeded⟩, enriched, device, prepares, fresh, tracker, member, own, applied⟩ :=
    touches
  rcases process_advances succeeded with
      ⟨-, -, disabled | stored⟩ | ⟨other, attached, same, advances⟩
  · obtain ⟨attached, found, -⟩ := prepares
    rw [disabled] at found
    cases found
  · rw [← prepares.same_id, fresh] at stored
    cases stored
  · obtain ⟨_, found, hooked⟩ := prepares
    obtain ⟨_, found', hooked'⟩ := same
    obtain ⟨rfl, rfl⟩ := Prod.mk.inj (Except.ok.inj (found.symm.trans found'))
    obtain rfl := Except.ok.inj (hooked.symm.trans hooked')
    have first : (processor.advancer enriched device store key).isSome = true := by
      rw [advancer, List.find?_isSome]
      exact ⟨tracker, member, by simp [own, applied]⟩
    obtain ⟨advancing, chosen⟩ := Option.isSome_iff_exists.mp first
    obtain ⟨at_, newer⟩ := Tracker.evaluate_newer (mem_of_advancer chosen).2.2
    refine ⟨_, (advances.states sound key).trans (by rw [chosen]; rfl), ?_⟩
    rw [at_]
    exact newer

/-- A call leaves the record and the alerts of a key alone exactly unless it touches the
key. -/
theorem untouched_iff (sound : store.Sound) :
    Untouched key store (processor.after store call) ↔ ¬processor.Touches store call key := by
  constructor
  · intro untouched touches
    obtain ⟨record, found, newer⟩ := touches.newer sound
    rw [untouched.1] at found
    exact lt_irrefl _ (newer record found)
  · intro spared
    by_cases succeeds : processor.Succeeds store call
    · rcases processor.process_effect call.attempt call.sample store with
        ⟨same, -⟩ | ⟨enriched, device, prepares, fresh, result, -⟩
      · rw [after, same]
        exact .refl key store
      · rw [after, result]
        obtain ⟨devices, same⟩ := (store.withObservation enriched).touched_eq enriched
        have arrived : Untouched key store ((store.withObservation enriched).touched enriched) := by
          rw [same]
          exact ⟨rfl, rfl⟩
        refine arrived.trans (Tracker.foldl_turn_untouched _ (fun tracker member own => ?_) ?_
          arrived.1)
        · rw [← Bool.not_eq_true]
          exact fun applied => spared ⟨succeeds, enriched, device, prepares, fresh, tracker, member,
            own, applied⟩
        · rw [same]
          exact sound.keyed
    · rw [after_of_fails succeeds]
      exact .refl key store

/-! ## The calls of a sweep -/

/-- The calls of `Process` that the loop of `Sweep` makes, each with the store that it
finds. -/
def sweepCalls (processor : Processor F) (attempts : ℕ → Attempt F) :
    List (Observation F) → ℕ → MemStore F → List (Call F × MemStore F)
  | [], _, _ => []
  | sample :: rest, count, store =>
      (⟨attempts count, sample⟩, store) ::
        match processor.process (attempts count) sample store with
        | (.error _, _) => []
        | (.ok _, after) => processor.sweepCalls attempts rest (count + 1) after

variable {attempts : ℕ → Attempt F} {samples : List (Observation F)}

theorem sweepLoop_later
    (sound : store.Sound)
    (count : ℕ)
    {record : StateRecord}
    (found : store.states.lookup key = some record) :
    ∃ later, (processor.sweepLoop attempts samples count store).2.states.lookup key = some later ∧
      record.lastObservedAt ≤ later.lastObservedAt := by
  refine (sweepLoop_preserves (fun after => after.Sound ∧ ∃ later,
    after.states.lookup key = some later ∧ record.lastObservedAt ≤ later.lastObservedAt)
    attempts samples ?_ count ⟨sound, record, found, le_rfl⟩).2
  rintro position sample - before ⟨soundBefore, current, present, moved⟩
  refine ⟨processor.process_sound _ _ soundBefore, ?_⟩
  by_cases touches : processor.Touches before ⟨attempts position, sample⟩ key
  · obtain ⟨later, written, newer⟩ := touches.newer soundBefore
    exact ⟨later, written, moved.trans (newer current present).le⟩
  · exact ⟨current, ((untouched_iff soundBefore).mpr touches).1.trans present, moved⟩

/-- A sweep leaves a key alone exactly unless one of its calls touches it. -/
theorem sweepLoop_untouched_iff
    (sound : store.Sound)
    (count : ℕ) :
    Untouched key store (processor.sweepLoop attempts samples count store).2 ↔
      ∀ made ∈ processor.sweepCalls attempts samples count store,
        ¬processor.Touches made.2 made.1 key := by
  induction samples generalizing count store with
  | nil => exact iff_of_true (.refl key store) (List.forall_mem_nil _)
  | cons sample rest ih =>
      have first := @untouched_iff _ _ _ processor store ⟨attempts count, sample⟩ key sound
      have soundAfter := processor.process_sound (attempts count) sample sound
      unfold sweepLoop sweepCalls
      rw [List.forall_mem_cons, ← first, after]
      rcases result : processor.process (attempts count) sample store with
          ⟨failure | outcome, after⟩
      · exact (and_iff_left (List.forall_mem_nil _)).symm
      · rw [result] at soundAfter
        dsimp only
        rw [← ih soundAfter (count + 1)]
        refine ⟨fun whole => ?_, fun parts => parts.1.trans parts.2⟩
        have own : Untouched key store after := by
          by_contra moved
          rw [Processor.after, result] at first
          obtain ⟨record, written, newer⟩ := (not_not.mp (mt first.mpr moved)).newer sound
          rw [Processor.after, result] at written
          obtain ⟨later, present, atLeast⟩ := @sweepLoop_later _ _ _ processor _ key attempts rest
            soundAfter (count + 1) record written
          rw [whole.1] at present
          exact (newer later present).not_ge atLeast
        exact ⟨own, whole.1.trans own.1.symm, whole.2.trans own.2.symm⟩

/-- Silence touches only what opted in, exactly where nothing else follows the metric:
the call for the synthetic sample of an entity leaves all other records and alerts alone
if and only if it touches no other key; and a sweep leaves a key alone if and only if
none of its calls touches it. -/
theorem silence_contained
    (processor : Processor F)
    (store : MemStore F)
    (sound : store.Sound)
    (now : Time)
    (devices : List Device)
    (listing : Option Error)
    (attempts : ℕ → Attempt F) :
    (∀ record definition, processor.Watched devices store record →
      processor.Overdue now definition record → ∀ attempt (before : MemStore F), before.Sound →
        let call : Call F := ⟨attempt, definition.synthetic now processor.sweepInterval record⟩
        ((∀ key ≠ record.key, Untouched key before (processor.after before call)) ↔
          ∀ key, processor.Touches before call key → key = record.key)) ∧
    ∀ key, Untouched key store (processor.sweep now devices listing attempts store).2 ↔
      (listing = none → ∀ made ∈ processor.sweepCalls attempts
        (processor.sweepSamples now devices store) 0 store,
          ¬processor.Touches made.2 made.1 key) := by
  refine ⟨fun record definition _ _ attempt before soundBefore => ?_, fun key => ?_⟩
  · simp only [untouched_iff soundBefore]
    exact forall_congr' fun key => not_imp_not
  · cases listing with
    | some failure => exact iff_of_true (.refl key store) (by simp)
    | none =>
        exact (sweepLoop_untouched_iff sound 0).trans
          ⟨fun spared _ => spared, fun spared => spared rfl⟩

/-! ## How far a sweep gets -/

/-- A call is made for a sample exactly when all calls before it succeed. -/
theorem sweepCalls_iff
    (earlier : List (Observation F))
    (sample : Observation F)
    (later : List (Observation F))
    (count : ℕ) :
    (∃ found, (processor.sweepCalls attempts (earlier ++ sample :: later) count
        store)[earlier.length]? = some (⟨attempts (count + earlier.length), sample⟩, found)) ↔
      ∀ made ∈ (processor.sweepCalls attempts (earlier ++ sample :: later) count store).take
        earlier.length, processor.Succeeds made.2 made.1 := by
  induction earlier generalizing count store with
  | nil => simp [sweepCalls]
  | cons other rest ih =>
      rw [List.cons_append, sweepCalls, List.length_cons, List.take_succ_cons, List.forall_mem_cons,
        List.getElem?_cons_succ]
      rcases result : processor.process (attempts count) other store with ⟨failure | outcome, after⟩
      · simp [Succeeds, result]
      · rw [show count + (rest.length + 1) = count + 1 + rest.length by omega]
        refine (ih (count + 1)).trans (and_iff_right ?_).symm
        exact ⟨outcome, by rw [result]⟩

theorem sweepLoop_settles
    {made : Call F × MemStore F}
    (count : ℕ)
    (member : made ∈ processor.sweepCalls attempts samples count store)
    (succeeds : processor.Succeeds made.2 made.1) :
    processor.Settled (processor.sweepLoop attempts samples count store).2 made.1.sample := by
  induction samples generalizing count store with
  | nil => cases member
  | cons sample rest ih =>
      unfold sweepCalls at member
      unfold sweepLoop
      rcases result : processor.process (attempts count) sample store with
          ⟨failure | outcome, after⟩
      · rw [result] at member
        obtain rfl := List.mem_singleton.mp member
        simp [Succeeds, result] at succeeds
      · rw [result] at member
        rcases List.mem_cons.mp member with rfl | within
        · have settled := settled_of_succeeds succeeds
          rw [Processor.after, result] at settled
          exact sweepLoop_preserves (fun store => processor.Settled store sample) attempts rest
            (fun position other _ store settled => settled.after ⟨attempts position, other⟩)
            (count + 1) settled
        · exact ih (count + 1) within

/-- A sweep calls `Process` for the synthetic sample of an overdue entity exactly when the
calls that it makes before all succeed. If the entity's own call succeeds, then the
sample of a registered and enabled device is stored. -/
theorem sweep_processes_overdue
    (processor : Processor F)
    (store : MemStore F)
    (now : Time)
    (devices : List Device)
    (attempts : ℕ → Attempt F)
    (record : StateRecord)
    (definition : Definition F)
    (overdue : processor.Overdue now definition record)
    (earlier later : List StateRecord)
    (listed : store.listStates ++ processor.missingRecords store.listStates devices =
      earlier ++ record :: later) :
    let calls := processor.sweepCalls attempts (processor.sweepSamples now devices store) 0 store
    let position := (processor.states.staleSamples earlier now processor.staleAfter
      processor.sweepInterval).length
    let call : Call F :=
      ⟨attempts position, definition.synthetic now processor.sweepInterval record⟩
    ((∃ found, calls[position]? = some (call, found)) ↔
      ∀ made ∈ calls.take position, processor.Succeeds made.2 made.1) ∧
    ∀ found device, calls[position]? = some (call, found) → processor.Succeeds found call →
      processor.inventory.lookup record.deviceID = some device → device.enabled = true →
        ((processor.sweep now devices none attempts store).2.observation.lookup
          call.sample.observationID).isSome = true := by
  intro calls position call
  have made := (processor.staleSample_eq_some_iff now record call.sample).mpr
    ⟨definition, overdue, rfl⟩
  have samples : processor.sweepSamples now devices store =
      processor.states.staleSamples earlier now processor.staleAfter processor.sweepInterval ++
        call.sample :: processor.states.staleSamples later now processor.staleAfter
          processor.sweepInterval := by
    simp only [sweepSamples, listed, Definitions.staleSamples, List.filterMap_append,
      List.filterMap_cons, made]
  constructor
  · have exactly := @sweepCalls_iff _ _ _ processor store attempts
      (processor.states.staleSamples earlier now processor.staleAfter processor.sweepInterval)
      call.sample (processor.states.staleSamples later now processor.staleAfter
        processor.sweepInterval) 0
    rw [← samples, Nat.zero_add] at exactly
    exact exactly
  · intro found device reached succeeds registered enabled
    rcases sweepLoop_settles 0 (List.mem_of_getElem? reached) succeeds with disabled | stored
    · exact absurd disabled (not_disabled registered enabled)
    · exact stored

end Processor

end InfraObserver

namespace InfraObserver.Processor

attribute [local instance] Platform.plain GoFloat.integer

/-- A processor that tracks the reachability of two switches. -/
def twoSwitches : Processor ℤ :=
  { plainProcessor with
    inventory := plainProcessor.inventory.insert "sw-0" { plainSwitch with id := "sw-0" } }

/-- Both switches answered once, the second one right at the start. -/
def bothAnswered (instant : Time) : MemStore ℤ :=
  twoSwitches.runCalls
    [⟨Attempt.plain ℤ, { Definition.reachabilitySample "o0" instant true with deviceID := "sw-0" }⟩,
      ⟨Attempt.plain ℤ, Definition.reachabilitySample "o1" 1 true⟩] .new

/-- The time of the sweep. -/
def twoHours : Time := 7200000000000

/-- The synthetic observation of the second switch at that time. -/
def silentID : String :=
  stableID ["stale", "reachability/sw-1/", toString (Time.unix twoHours)]

/-- A sweep that finds the second switch silent leaves the first one alone: none of its
calls touches it. -/
theorem first_switch_untouched :
    let store := bothAnswered twoHours
    let swept := (twoSwitches.sweep twoHours [plainSwitch] none (fun _ => Attempt.plain ℤ) store).2
    (swept.observation.lookup silentID).isSome = true ∧
      Untouched "reachability/sw-0/" store swept ∧
      ∀ made ∈ twoSwitches.sweepCalls (fun _ => Attempt.plain ℤ)
        (twoSwitches.sweepSamples twoHours [plainSwitch] store) 0 store,
          ¬twoSwitches.Touches made.2 made.1 "reachability/sw-0/" := by
  intro store swept
  have sound : store.Sound := ((Reached.start ∅).runCalls twoSwitches _).sound
  have same : Untouched "reachability/sw-0/" store swept := by
    unfold Untouched
    decide +kernel
  exact ⟨by decide +kernel, same, ((silence_contained twoSwitches store sound twoHours [plainSwitch]
    none fun _ => Attempt.plain ℤ).2 _).mp same rfl⟩

/-- A processor with a definition that never asked for silence to count, and a
rule, on the metric of the stale definition. -/
def mixedProcessor : Processor ℤ :=
  { flapProcessor with
    states :=
      { all := [Definition.reachability, { flapDefinition with stale := false }]
        valid := by
          intro definition member
          rw [Definition.valid_iff_problems]
          revert definition
          decide +kernel
        distinct := by decide } }

/-- One sweep after the switch answered once: the definition that is not stale
goes DOWN and alerts, and so does the rule. -/
theorem silence_alerts_others :
    let store := mixedProcessor.runCalls
      [⟨Attempt.plain ℤ, Definition.reachabilitySample "o1" 1 true⟩] .new
    let swept := (mixedProcessor.sweep twoHours [] none (fun _ => Attempt.plain ℤ) store).2
    (mixedProcessor.sweepSamples twoHours [] store).map Observation.observationID = [silentID] ∧
      ∀ key ∈ ["flap/sw-1/", "rule:flap/sw-1/"],
        (store.states.lookup key).map StateRecord.state = some .up ∧
        store.alerts.any (Alert.fires key) = false ∧
        (swept.states.lookup key).map StateRecord.state = some .down ∧
        swept.alerts.any (Alert.fires key) = true := by
  decide +kernel

/-- The sweep reaches the second switch after the first one. -/
theorem second_switch_swept :
    let store := bothAnswered 1
    let record := (store.states.lookup "reachability/sw-1/").getD .zero
    let sample := Definition.reachability.synthetic twoHours twoSwitches.sweepInterval record
    let swept := (twoSwitches.sweep twoHours [plainSwitch] none (fun _ => Attempt.plain ℤ) store).2
    sample.observationID = silentID ∧
      (swept.observation.lookup sample.observationID).isSome = true := by
  intro store record sample swept
  let calls := twoSwitches.sweepCalls (fun _ => Attempt.plain ℤ)
    (twoSwitches.sweepSamples twoHours [plainSwitch] store) 0 store
  have both : (calls.take 2).all (fun made => (twoSwitches.process made.1.attempt made.1.sample
      made.2).1.isOk) = true := by decide +kernel
  have succeed : ∀ made ∈ calls.take 2, twoSwitches.Succeeds made.2 made.1 := by
    intro made member
    have ended := List.all_eq_true.mp both made member
    unfold Succeeds
    cases result : (twoSwitches.process made.1.attempt made.1.sample made.2).1 with
    | error failure => rw [result] at ended; cases ended
    | ok outcome => exact ⟨outcome, rfl⟩
  obtain ⟨exactly, stores⟩ := sweep_processes_overdue twoSwitches store twoHours [plainSwitch]
    (fun _ => Attempt.plain ℤ) record Definition.reachability
    ⟨List.mem_singleton.mpr rfl, by decide +kernel, rfl, by decide +kernel, by decide +kernel⟩
    [(store.states.lookup "reachability/sw-0/").getD .zero] [] (by decide +kernel)
  have second : (twoSwitches.states.staleSamples [(store.states.lookup
      "reachability/sw-0/").getD .zero] twoHours twoSwitches.staleAfter
      twoSwitches.sweepInterval).length = 1 := by decide +kernel
  rw [second] at exactly stores
  obtain ⟨found, made⟩ := exactly.mpr fun made member =>
    succeed made (List.take_subset_take_left calls (by decide) member)
  have within : (calls.take 2)[1]? = calls[1]? := List.getElem?_take_of_lt (by decide)
  exact ⟨by decide +kernel, stores found plainSwitch made
    (succeed _ (List.mem_of_getElem? (within.trans made))) (by decide +kernel) rfl⟩

/-- When the first switch was removed from the inventory, its record ends the
sweep, and the second switch is not swept. -/
theorem removed_device_stops_sweep :
    let store := bothAnswered 1
    let record := (store.states.lookup "reachability/sw-1/").getD .zero
    let swept := plainProcessor.sweep twoHours [plainSwitch] none (fun _ => Attempt.plain ℤ) store
    (plainProcessor.states.staleSample twoHours plainProcessor.staleAfter
        plainProcessor.sweepInterval record).map Observation.observationID = some silentID ∧
      plainProcessor.inventory.lookup "sw-1" = some plainSwitch ∧ plainSwitch.enabled = true ∧
      swept.1.1 = 0 ∧ swept.1.2.isSome = true ∧
      swept.2.observation.lookup silentID = none := by
  decide +kernel

end InfraObserver.Processor
