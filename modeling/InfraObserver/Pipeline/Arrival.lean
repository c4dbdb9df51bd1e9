import InfraObserver.Library.Keyed
import InfraObserver.Pipeline.Activation
import Mathlib.Data.Set.Finite.Lemmas

/-!
# The order of arrival

A rule takes no sample that is older than the last one it has taken. So the latest
observation decides, over the points of its window that have arrived before it.
When all of them have, the order in which the observations arrived does not matter.
-/

namespace InfraObserver

variable {F : Type} [GoFloat F]

theorem Rule.pointsSorted_of_perm
    (rule : Rule F)
    (instant : Time)
    {left right : List (Observation F)}
    (permutation : left.Perm right)
    (distinct : (left.map Observation.observedAt).Nodup) :
    rule.pointsSorted instant left = rule.pointsSorted instant right := by
  refine Keyed.insertionSort_eq_of_perm ((permutation.filter _).filterMap _) ?_
  rw [List.Nodup, List.pairwise_map] at distinct ⊢
  exact rule.points_pairwise instant distinct

namespace Processor

/-- When the latest observation arrives, all numeric and boolean observations of its
window have arrived. -/
def WindowFirst (rule : Rule F) (calls : List (Call F)) : Prop :=
  ∀ done latest rest, calls = done ++ latest :: rest →
    (∀ other ∈ calls, other.sample.observedAt ≤ latest.sample.observedAt) →
      ∀ late ∈ rest, late.sample.value.float = none ∨
        late.sample.observedAt ≤ Time.addNeg latest.sample.observedAt rule.window

theorem windowFirst_concat
    {rule : Rule F}
    (calls : List (Call F))
    (latest : Call F)
    (newer : ∀ call ∈ calls, call.sample.observedAt < latest.sample.observedAt) :
    WindowFirst rule (calls ++ [latest]) := by
  intro done other rest split last late member
  obtain ⟨middle, final, rfl⟩ :=
      List.eq_nil_or_concat rest |>.resolve_left (List.ne_nil_of_mem member)
  rw [List.concat_eq_append, ← List.cons_append, ← List.append_assoc] at split
  obtain ⟨rfl, -⟩ := List.append_inj' split rfl
  have before := newer other (by simp)
  exact absurd before (not_lt.mpr (last latest (by simp)))

variable [Platform] {processor : Processor F} {rule : Rule F} {series : Series}

theorem runCalls_late
    {key : String}
    {record : StateRecord}
    (calls : List (Call F))
    (faithful : ∀ call ∈ calls, call.attempt.MetadataOnly)
    (late : ∀ call ∈ calls, call.sample.observedAt ≤ record.lastObservedAt)
    {store : MemStore F}
    (sound : store.Sound)
    (found : store.states.lookup key = some record) :
    (processor.runCalls calls store).states.lookup key = some record := by
  induction calls generalizing store with
  | nil => exact found
  | cons call rest ih =>
      rw [List.forall_mem_cons] at faithful late
      refine ih faithful.2 late.2 (processor.process_sound _ _ sound) ?_
      by_contra changed
      rw [← found] at changed
      have newer := (after_newer sound faithful.1 changed).2 record found
      exact absurd newer (not_lt.mpr late.1)

theorem Delivers.latest_decides
    (monitors : processor.Monitors rule series)
    (unshared : processor.Unshared rule series)
    {start : MemStore F}
    (blank : Blank rule series start)
    {calls : List (Call F)}
    (delivers : processor.Delivers series start calls)
    (instants : (calls.map fun call => call.sample.observedAt).Nodup)
    (windowFirst : WindowFirst rule calls)
    {latest : Call F}
    (member : latest ∈ calls)
    (last : ∀ other ∈ calls, other.sample.observedAt ≤ latest.sample.observedAt) :
    ((processor.runCalls calls start).states.lookup (rule.keyOf series)).map
        (fun record => decide (record.state = .down)) =
      some (rule.condition.holds
        (rule.pointsSorted latest.sample.observedAt (calls.map Call.sample))).1 := by
  obtain ⟨done, rest, position⟩ := List.append_of_mem member
  have kept := delivers.kept monitors blank done (latest :: rest) position
  have other := delivers.fresh_of_position position
  have newer : ∀ earlier ∈ done.map Call.sample,
      earlier.observedAt < latest.sample.observedAt := by
    intro earlier among
    obtain ⟨call, listed, rfl⟩ := List.mem_map.mp among
    refine (last call (by rw [position]; simp [listed])).lt_of_ne fun same => ?_
    rw [position, List.map_append, List.map_cons, List.nodup_middle, List.nodup_cons] at instants
    exact instants.1 (same ▸ List.mem_append_left _ (List.mem_map_of_mem listed))
  obtain ⟨outcome, succeeded⟩ := delivers.succeed done latest rest position
  obtain ⟨⟨record, found, stamp, state⟩, -⟩ := kept.judged monitors unshared
    (delivers.faithful latest member) (delivers.member latest member)
    ((kept.others _ other).trans (delivers.fresh latest member)) other newer succeeded
  -- What comes later is too old for the record, and not in the window.
  have final : (processor.runCalls calls start).states.lookup (rule.keyOf series) =
      some record := by
    rw [position, runCalls, List.foldl_append, List.foldl_cons]
    refine runCalls_late rest (fun call listed => ?_) (fun call listed => ?_)
      (processor.process_sound _ _ kept.sound) found
    · exact delivers.faithful call (by rw [position]; simp [listed])
    · rw [stamp]
      exact last call (by rw [position]; simp [listed])
  have outside : rule.points latest.sample.observedAt (rest.map Call.sample) = [] := by
    rw [Rule.points, List.filterMap_eq_nil_iff]
    intro sample among
    obtain ⟨listed, within⟩ := List.mem_filter.mp among
    obtain ⟨call, late, rfl⟩ := List.mem_map.mp listed
    rcases windowFirst done latest rest position last call late with missing | old
    · rw [Tx.samplePoint, missing]
      rfl
    · exact absurd (of_decide_eq_true within).1 (not_lt.mpr old)
  have points : rule.pointsSorted latest.sample.observedAt
      (done.map Call.sample ++ [latest.sample]) =
        rule.pointsSorted latest.sample.observedAt (calls.map Call.sample) := by
    have all : calls.map Call.sample =
        (done.map Call.sample ++ [latest.sample]) ++ rest.map Call.sample := by
      rw [position]
      simp
    unfold Rule.pointsSorted
    rw [all, rule.points_append _ (done.map Call.sample ++ [latest.sample]), outside,
      List.append_nil]
  rw [final, ← points, Option.map_some, state]

/-- Rules are insensitive to the order of arrival, as long as the observations in
the window of the latest one arrive before it. -/
theorem order_irrelevant
    (processor : Processor F)
    (rule : Rule F)
    (series : Series)
    (monitors : processor.Monitors rule series)
    (unshared : processor.Unshared rule series)
    (devices : StringMap Device)
    (first second : List (Call F))
    (permutation : (first.map Call.sample).Perm (second.map Call.sample))
    (instants : (first.map fun call => call.sample.observedAt).Nodup)
    (delivers : processor.Delivers series { MemStore.new with devices } first)
    (delivers' : processor.Delivers series { MemStore.new with devices } second)
    (windowFirst : WindowFirst rule first)
    (windowFirst' : WindowFirst rule second) :
    ((processor.runCalls first { MemStore.new with devices }).states.lookup
        (rule.keyOf series)).map (fun record => decide (record.state = .down)) =
      ((processor.runCalls second { MemStore.new with devices }).states.lookup
        (rule.keyOf series)).map (fun record => decide (record.state = .down)) := by
  have blank : Blank rule series { MemStore.new with devices } := .start rule series devices
  have instants' : (second.map fun call => call.sample.observedAt).Nodup := by
    have sameInstants := permutation.map Observation.observedAt
    rw [List.map_map, List.map_map] at sameInstants
    exact sameInstants.nodup_iff.mp instants
  by_cases none : first = []
  · rw [none, List.map_nil, List.nil_perm, List.map_eq_nil_iff] at permutation
    rw [none, permutation]
  · obtain ⟨latest, member, last⟩ := Set.exists_max_image { call | call ∈ first }
      (fun call => call.sample.observedAt) (List.finite_toSet first)
      (List.exists_mem_of_ne_nil first none)
    obtain ⟨latest', member', sameSample⟩ := List.mem_map.mp
      (permutation.mem_iff.mp (List.mem_map_of_mem member))
    have last' : ∀ other ∈ second, other.sample.observedAt ≤ latest'.sample.observedAt := by
      intro other listed
      obtain ⟨call, among, same⟩ := List.mem_map.mp
        (permutation.mem_iff.mpr (List.mem_map_of_mem listed))
      rw [← same, sameSample]
      exact last call among
    rw [delivers.latest_decides monitors unshared blank instants windowFirst member last,
      delivers'.latest_decides monitors unshared blank instants' windowFirst' member' last',
      sameSample, rule.pointsSorted_of_perm _ permutation (by rw [List.map_map]; exact instants)]

end Processor

end InfraObserver

namespace InfraObserver.Processor

attribute [local instance] Platform.plain GoFloat.rational

/-- Two loads that arrive in either order before a third one. -/
theorem loads_in_either_order :
    let first := [loadCall "o1" 1 1, loadCall "o2" 2 2, loadCall "o3" 3 3]
    let second := [loadCall "o2" 2 2, loadCall "o1" 1 1, loadCall "o3" 3 3]
    let firing := fun calls => ((loadWatcher.runCalls calls .new).states.lookup
      "rule:load/sw-1/").map fun record => decide (record.state = .down)
    firing first = some true ∧ firing first = firing second := by
  intro first second firing
  refine ⟨by decide +kernel, ?_⟩
  have monitors : loadWatcher.Monitors loadRule loadSeries :=
    ⟨List.mem_singleton.mpr rfl, rfl, plainSwitch, by decide +kernel, rfl, rfl⟩
  refine order_irrelevant loadWatcher loadRule loadSeries monitors (by rintro _ ⟨⟩) ∅ first second
    (.swap _ _ _) (by decide +kernel) ?_ ?_ ?_ ?_
  · refine ⟨?_, by decide +kernel, by decide +kernel, by decide +kernel, ?_⟩
    · simp [first, loadCall, Attempt.plain_metadataOnly]
    · exact succeed_of_positions (by decide +kernel)
  · refine ⟨?_, by decide +kernel, by decide +kernel, by decide +kernel, ?_⟩
    · simp [second, loadCall, Attempt.plain_metadataOnly]
    · exact succeed_of_positions (by decide +kernel)
  · exact windowFirst_concat [loadCall "o1" 1 1, loadCall "o2" 2 2] _ (by decide +kernel)
  · exact windowFirst_concat [loadCall "o2" 2 2, loadCall "o1" 1 1] _ (by decide +kernel)

/-- Two loads are enough. -/
def pairRule : Rule ℚ :=
  { loadRule with condition := { loadRule.condition with minSamples := 2 } }

/-- The processor of two loads. -/
def pairWatcher : Processor ℚ :=
  ruleProcessor pairRule ((Rule.valid_iff_problems _).mpr (by decide +kernel))

/-- The same two loads fire the rule in one order and not in the other, in which the
older one comes too late. -/
theorem late_load_missed :
    let first := [loadCall "o1" 1 2, loadCall "o2" 2 2]
    let second := [loadCall "o2" 2 2, loadCall "o1" 1 2]
    let state := fun calls => ((pairWatcher.runCalls calls .new).states.lookup
      "rule:load/sw-1/").map StateRecord.state
    first.Perm second ∧ state first = some .down ∧ state second = some .up := by
  exact ⟨.swap _ _ _, by decide +kernel, by decide +kernel⟩

end InfraObserver.Processor
