import InfraObserver.Pipeline.Window
import InfraObserver.Rules.Question

/-!
# When a rule fires

Observations of a series that arrive in order are judged as the rule asks: after
each of them the rule's record is DOWN exactly when the exact values of the window
meet the condition, and a call emits an event exactly when this changes.
-/

namespace InfraObserver

variable {F : Type} [GoFloat F] {value : F → ℚ}

namespace Rule

/-- The exact values of the numeric and boolean observations in the window that
ends at an instant. -/
def values
    (rule : Rule F)
    (value : F → ℚ)
    (instant : Time)
    (observations : List (Observation F)) : List ℚ :=
  (observations.filter fun sample =>
    Time.addNeg instant rule.window < sample.observedAt ∧ sample.observedAt ≤ instant).filterMap
      fun sample => sample.value.float.map value

/-- The values of the window that ends at the last observation meet the condition. -/
def MetAfter (rule : Rule F) (value : F → ℚ) (observations : List (Observation F)) : Prop :=
  ∃ last ∈ observations.getLast?,
    rule.condition.Met value (rule.values value last.observedAt observations)

variable {rule : Rule F} {instant : Time} {observations : List (Observation F)}

theorem pointsSorted_of_increasing
    (increasing : observations.Pairwise fun first second => first.observedAt < second.observedAt) :
    rule.pointsSorted instant observations = rule.points instant observations := by
  refine List.Pairwise.insertionSort_eq ?_
  exact rule.points_pairwise instant (increasing.imp le_of_lt)

theorem map_points :
    (rule.points instant observations).map (fun point => value point.num) =
      rule.values value instant observations := by
  simp only [points, values, List.map_filterMap]
  refine List.filterMap_congr fun sample _ => ?_
  simp only [Tx.samplePoint, Option.map_map]
  rfl

theorem points_plain (exact : GoFloat.Exact value) :
    Condition.Plain (rule.points instant observations) := by
  intro point member
  obtain ⟨sample, -, found⟩ := List.mem_filterMap.mp member
  obtain ⟨number, float, rfl⟩ := Option.map_eq_some_iff.mp found
  have nonzero : (1 : F) ≠ 0 := by
    intro same
    have values := congrArg value same
    rw [exact.one, exact.zero] at values
    exact one_ne_zero values
  unfold Condition.truthy
  cases kind : sample.value <;> rw [kind] at float
  case bool flag =>
      cases flag <;> obtain rfl := Option.some.inj float <;> simp [Value.asBool, nonzero]
  all_goals simp [Value.asBool]

/-- With exact numbers, `condition` answers the question of the rule. -/
theorem holds_iff_met
    [Platform]
    (exact : GoFloat.Exact value)
    (valid : rule.Valid)
    (increasing : observations.Pairwise fun first second => first.observedAt < second.observedAt)
    {last : Observation F}
    (final : observations.getLast? = some last) :
    (rule.condition.holds (rule.pointsSorted last.observedAt observations)).1 = true ↔
      rule.MetAfter value observations := by
  rw [valid_iff_problems, problems, List.append_eq_nil_iff] at valid
  rw [pointsSorted_of_increasing increasing,
    Condition.holds_iff_met exact valid.2 (points_plain exact), map_points]
  simp [MetAfter, final]

end Rule

namespace Processor

variable [Platform] {processor : Processor F} {rule : Rule F} {series : Series}
variable {start : MemStore F} {calls : List (Call F)}

section

variable (exact : GoFloat.Exact value) (monitors : processor.Monitors rule series)
  (unshared : processor.Unshared rule series) (blank : Blank rule series start)
  (delivers : processor.Delivers series start calls)
include exact monitors unshared blank delivers

theorem Delivers.judged
    (increasing : calls.Pairwise fun first second =>
      first.sample.observedAt < second.sample.observedAt)
    {done rest : List (Call F)}
    {call : Call F}
    (position : calls = done ++ call :: rest) :
    let store := processor.runCalls done start
    let active := (store.states.lookup (rule.keyOf series)).any fun record => record.state = .down
    ∃ outcome record holds, (processor.process call.attempt call.sample store).1 = .ok outcome ∧
      (processor.after store call).states.lookup (rule.keyOf series) = some record ∧
      decide (record.state = .down) = holds ∧
      (holds = true ↔ rule.MetAfter value (done.map Call.sample ++ [call.sample])) ∧
      ∃ enriched measured,
        (outcome.events.filter fun event => event.alertKey = rule.keyOf series) =
          if active = holds then [] else [rule.makeEvent active enriched measured] := by
  intro store active
  have kept := delivers.kept monitors blank done (call :: rest) position
  have other := delivers.fresh_of_position position
  have amongAll : call ∈ calls := by
    rw [position]
    simp
  have ordered : (done.map Call.sample ++ [call.sample]).Pairwise
      fun first second => first.observedAt < second.observedAt := by
    rw [position, ← List.singleton_append, ← List.append_assoc] at increasing
    rw [← List.map_singleton, ← List.map_append, List.pairwise_map]
    exact (List.pairwise_append.mp increasing).1
  obtain ⟨outcome, succeeded⟩ := delivers.succeed done call rest position
  obtain ⟨⟨record, found, -, state⟩, enriched, events⟩ := kept.judged monitors unshared
    (delivers.faithful call amongAll) (delivers.member call amongAll)
    ((kept.others _ other).trans (delivers.fresh call amongAll)) other
    (fun earlier member => (List.pairwise_append.mp ordered).2.2 earlier member _ (by simp))
    succeeded
  have valid := processor.rules.valid rule monitors.known
  exact ⟨outcome, record, _, succeeded, found, state,
    Rule.holds_iff_met exact valid ordered (by simp), enriched, _, events⟩

theorem Delivers.active_iff
    (increasing : calls.Pairwise fun first second =>
      first.sample.observedAt < second.sample.observedAt)
    {done rest : List (Call F)}
    (position : calls = done ++ rest) :
    (((processor.runCalls done start).states.lookup (rule.keyOf series)).any
        fun record => record.state = .down) = true ↔
      rule.MetAfter value (done.map Call.sample) := by
  rcases List.eq_nil_or_concat done with rfl | ⟨init, last, rfl⟩
  · simp [runCalls, blank.unrecorded, Rule.MetAfter]
  · rw [List.concat_eq_append] at position ⊢
    rw [List.append_assoc, List.singleton_append] at position
    obtain ⟨-, record, holds, -, found, state, met, -⟩ :=
      delivers.judged exact monitors unshared blank increasing position
    rw [runCalls, List.foldl_append, List.foldl_cons, List.foldl_nil, List.map_append,
      List.map_singleton, ← met, ← state]
    change (((processor.after (processor.runCalls init start) last).states.lookup _).any _) =
      true ↔ _
    rw [found]
    rfl

end

/-- Rule activation is exact for observations in order. After each of them, the
record is DOWN exactly when the values of the window meet the condition. The call
emits one opening event when this becomes true, one clearing event when it becomes
false, and no event of the rule's key otherwise. -/
theorem activation_exact
    (exact : GoFloat.Exact value)
    (processor : Processor F)
    (rule : Rule F)
    (series : Series)
    (monitors : processor.Monitors rule series)
    (unshared : processor.Unshared rule series)
    (start : MemStore F)
    (blank : Blank rule series start)
    (calls : List (Call F))
    (delivers : processor.Delivers series start calls)
    (increasing : calls.Pairwise fun first second =>
      first.sample.observedAt < second.sample.observedAt)
    (done rest : List (Call F))
    (call : Call F)
    (position : calls = done ++ call :: rest) :
    let store := processor.runCalls done start
    let was := rule.MetAfter value (done.map Call.sample)
    let holds := rule.MetAfter value (done.map Call.sample ++ [call.sample])
    ∃ outcome record, (processor.process call.attempt call.sample store).1 = .ok outcome ∧
      (processor.after store call).states.lookup (rule.keyOf series) = some record ∧
      (record.state = .down ↔ holds) ∧
      let emitted := outcome.events.filter fun event => event.alertKey = rule.keyOf series
      (¬was ∧ holds → ∃ event, emitted = [event] ∧ event.resolves = false ∧
          event.type = rule.eventName) ∧
        (was ∧ ¬holds → ∃ event, emitted = [event] ∧ event.resolves = true ∧
          event.type = rule.clearEventName) ∧
        ((was ↔ holds) → emitted = []) := by
  intro store was holds
  have active := delivers.active_iff exact monitors unshared blank increasing
    position
  obtain ⟨outcome, record, judged, succeeded, found, state, met, enriched, measured, events⟩ :=
    delivers.judged exact monitors unshared blank increasing position
  refine ⟨outcome, record, succeeded, found, ?_, ?_⟩
  · rw [← state, decide_eq_true_iff] at met
    exact met
  · intro emitted
    change emitted = _ at events
    rw [events]
    refine ⟨?_, ?_, ?_⟩
    · rintro ⟨wasNot, starts⟩
      rw [Bool.eq_false_iff.mpr (mt active.mp wasNot), met.mpr starts]
      exact ⟨_, rfl, rfl, rfl⟩
    · rintro ⟨before, stops⟩
      rw [active.mpr before, Bool.eq_false_iff.mpr (mt met.mp stops)]
      exact ⟨_, rfl, rfl, rfl⟩
    · intro same
      rw [if_pos]
      exact Bool.eq_iff_iff.mpr ((active.trans same).trans met.symm)

end Processor

end InfraObserver

namespace InfraObserver.Processor

attribute [local instance] Platform.plain GoFloat.rational

/-- A load that stays high on average. -/
def loadRule : Rule ℚ where
  id := "load"
  matchOn := { deviceType := [], metric := "cpu.load", site := "", tags := [] }
  condition :=
    { transitions := 0
      within := .zero
      averageOver := .hour
      maxOver := .zero
      minOver := .zero
      greaterThan := some (3 / 2)
      lessThan := none
      minSamples := 0 }
  severity := .warning
  event := ""
  clearEvent := ""
  message := ""

/-- A processor with one rule and no definitions. -/
def ruleProcessor (rule : Rule ℚ) (valid : rule.Valid) : Processor ℚ where
  inventory := (∅ : StringMap Device).insert "sw-1" plainSwitch
  states := ⟨[], by simp, by simp⟩
  rules :=
    { all := [rule]
      valid := by
        intro other member
        rw [List.mem_singleton.mp member]
        exact valid
      distinct := List.nodup_singleton _ }
  staleAfter := .hour
  sweepInterval := .minute
  startedAt := 0

/-- The processor of the load. -/
def loadWatcher : Processor ℚ :=
  ruleProcessor loadRule ((Rule.valid_iff_problems _).mpr (by decide +kernel))

/-- The load of the switch. -/
def loadSeries : Series := ⟨"sw-1", "cpu.load", ""⟩

/-- A call with a load. -/
def loadCall (id : String) (instant : Time) (load : ℚ) : Call ℚ :=
  ⟨Attempt.plain ℚ,
    { observationID := id
      correlationID := id
      deviceID := "sw-1"
      source := "collector"
      metric := "cpu.load"
      value := .float64 load
      labels := ∅
      observedAt := instant
      receivedAt := instant
      metadata := ∅ }⟩

/-- The third load makes an average of two, which is beyond the limit. -/
theorem third_load_fires :
    let calls := [loadCall "o1" 1 1, loadCall "o2" 2 2, loadCall "o3" 3 3]
    ∃ record, (loadWatcher.runCalls calls .new).states.lookup "rule:load/sw-1/" = some record ∧
      record.state = .down := by
  intro calls
  have delivers : loadWatcher.Delivers loadSeries .new calls := by
    refine ⟨?_, by decide +kernel, by decide +kernel, by decide +kernel, ?_⟩
    · simp [calls, loadCall, Attempt.plain_metadataOnly]
    · exact succeed_of_positions (by decide +kernel)
  have monitors : loadWatcher.Monitors loadRule loadSeries :=
    ⟨List.mem_singleton.mpr rfl, rfl, plainSwitch, by decide +kernel, rfl, rfl⟩
  obtain ⟨outcome, record, -, found, state, -⟩ := activation_exact GoFloat.rational_exact
    loadWatcher loadRule loadSeries monitors (by rintro _ ⟨⟩) .new (.start _ _ ∅) calls delivers
    (by decide +kernel) [loadCall "o1" 1 1, loadCall "o2" 2 2] [] (loadCall "o3" 3 3) rfl
  refine ⟨record, found, state.mpr ⟨(loadCall "o3" 3 3).sample, rfl, ?_⟩⟩
  have values : loadRule.values id 3 (calls.map Call.sample) = [1, 2, 3] := by decide +kernel
  change loadRule.condition.Met id (loadRule.values id 3 (calls.map Call.sample))
  rw [values]
  refine ⟨by decide +kernel, 2, ?_, Or.inl ⟨3 / 2, rfl, by norm_num⟩⟩
  change (2 : ℚ) = [1, 2, 3].sum / (3 : ℕ)
  norm_num

/-! ## Numbers that change -/

/-- One change within an hour. -/
def changeRule : Rule ℚ :=
  { loadRule with
    condition :=
      { loadRule.condition with
        transitions := 1
        within := .hour
        averageOver := .zero
        greaterThan := none } }

/-- The processor of the changes. -/
def changeWatcher : Processor ℚ :=
  ruleProcessor changeRule ((Rule.valid_iff_problems _).mpr (by decide +kernel))

/-- A load changes from one to two: a value changes within the window, but the rule
does not fire, since neither value is zero. -/
theorem number_change_ignored :
    let calls := [loadCall "o1" 1 1, loadCall "o2" 2 2]
    let values := changeRule.values id 2 (calls.map Call.sample)
    changeRule.condition.transitions = 1 ∧
      ((values.zip values.tail).countP fun pair => pair.1 ≠ pair.2) = 1 ∧
      ((changeWatcher.runCalls calls .new).states.lookup "rule:load/sw-1/").map
        StateRecord.state = some .up := by
  decide +kernel

end InfraObserver.Processor
