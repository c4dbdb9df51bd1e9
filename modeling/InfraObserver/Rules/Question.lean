import InfraObserver.Rules.Rule
import Mathlib.Algebra.Order.Field.Rat
import Mathlib.Order.Bounds.Image

/-!
# The question a rule asks

A rule asks about the exact values of a series, with true and false as one and
zero: how often neighbours differ in being zero, or whether the average, the
greatest or the least value is beyond a limit. With exact arithmetic, this is
what `condition` answers.
-/

namespace InfraObserver

variable {F : Type} [GoFloat F] {value : F → ℚ}

/-- The numbers are rationals, and computing with them is exact. -/
structure GoFloat.Exact (value : F → ℚ) : Prop where
  zero : value 0 = 0
  one : value 1 = 1
  add : ∀ left right, value (left + right) = value left + value right
  div : ∀ left right, value (left / right) = value left / value right
  natCast : ∀ count : ℕ, value (count : F) = count
  lt_iff : ∀ left right, value left < value right ↔ left < right

namespace GoFloat.Exact

theorem strictMono (exact : Exact value) : StrictMono value :=
  fun left right less => (exact.lt_iff left right).mpr less

theorem eq_zero_iff (exact : Exact value) (number : F) : value number = 0 ↔ number = 0 := by
  rw [← exact.zero]
  exact exact.strictMono.injective.eq_iff

theorem foldl_add
    (exact : Exact value)
    (samples : List (Sample F))
    (start : F) :
    value (samples.foldl (fun sum sample => sum + sample.num) start) =
      value start + (samples.map fun sample => value sample.num).sum := by
  induction samples generalizing start with
  | nil => simp
  | cons sample rest ih =>
      rw [List.foldl_cons, ih, exact.add, List.map_cons, List.sum_cons, add_assoc]

end GoFloat.Exact

/-- Rationals in the place of `float64`. -/
@[reducible] def GoFloat.rational : GoFloat ℚ where
  formatShortest := toString
  formatGeneral := toString

theorem GoFloat.rational_exact : @GoFloat.Exact ℚ GoFloat.rational id :=
  @GoFloat.Exact.mk ℚ GoFloat.rational id rfl rfl (fun _ _ => rfl) (fun _ _ => rfl)
    (fun _ => rfl) fun _ _ => Iff.rfl

namespace Condition

/-- How often neighbouring values differ in being zero. -/
def changes (values : List ℚ) : ℕ :=
  (values.zip values.tail).countP fun pair => decide (pair.1 = 0) ≠ decide (pair.2 = 0)

variable (condition : Condition F)

/-- How many values an aggregate needs. -/
def minimum : ℤ :=
  if condition.minSamples = 0 then 3 else condition.minSamples

/-- The number is the average, the greatest or the least of the values. -/
def IsAggregate (values : List ℚ) (number : ℚ) : Prop :=
  if Duration.zero < condition.averageOver then number = values.sum / values.length
  else if Duration.zero < condition.maxOver then IsGreatest { entry | entry ∈ values } number
  else IsLeast { entry | entry ∈ values } number

/-- The number is beyond the limit of the condition. -/
def Beyond (value : F → ℚ) (number : ℚ) : Prop :=
  (∃ limit ∈ condition.greaterThan, value limit < number) ∨
    ∃ limit ∈ condition.lessThan, number < value limit

/-- The values meet the condition. -/
def Met (value : F → ℚ) (values : List ℚ) : Prop :=
  if 0 < condition.transitions then condition.transitions ≤ changes values
  else condition.minimum ≤ values.length ∧
    ∃ number, condition.IsAggregate values number ∧ condition.Beyond value number

/-- The value of a sample tells its truth. -/
def Plain (samples : List (Sample F)) : Prop :=
  ∀ sample ∈ samples, truthy sample = decide (sample.num ≠ 0)

variable {samples : List (Sample F)}

/-- The flips of the samples are the changes of their values. -/
theorem flips_eq_changes
    (exact : GoFloat.Exact value)
    (plain : Plain samples) :
    flips samples = changes (samples.map fun sample => value sample.num) := by
  induction samples using flips.induct with
  | case1 earlier later rest ih =>
      have tail : Plain (later :: rest) := fun sample member => plain sample (.tail _ member)
      have first := plain earlier (by simp)
      have second := plain later (by simp)
      have split : ∀ left right : F, ((decide (right ≠ 0) : Bool) ≠ decide (left ≠ 0)) ↔
          ((decide (value left = 0) : Bool) ≠ decide (value right = 0)) := by
        intro left right
        simp only [exact.eq_zero_iff]
        by_cases zeroLeft : left = 0 <;> by_cases zeroRight : right = 0 <;>
          simp [zeroLeft, zeroRight]
      rw [flips, ih tail, first, second, if_congr (split _ _) rfl rfl]
      simp only [changes, List.map_cons, List.tail_cons, List.zip_cons_cons, List.countP_cons,
        decide_eq_true_eq]
      omega
  | case2 samples short =>
      match samples, short with
      | [], _ => rfl
      | [_], _ => rfl
      | earlier :: later :: rest, short => exact absurd rfl (short earlier later rest)

theorem isAggregate_iff
    (exact : GoFloat.Exact value)
    (condition : Condition F)
    (present : samples ≠ [])
    (number : ℚ) :
    condition.IsAggregate (samples.map fun sample => value sample.num) number ↔
      number = value (condition.aggregate samples) := by
  obtain ⟨first, rest, rfl⟩ := List.exists_cons_of_ne_nil present
  have image : { entry | entry ∈ (first :: rest).map fun sample => value sample.num } =
      value '' { entry | entry ∈ (first :: rest).map Sample.num } := by
    ext entry
    simp [eq_comm]
  unfold IsAggregate aggregate
  split_ifs
  · rw [exact.div, exact.foldl_add, exact.zero, zero_add, exact.natCast, List.length_map]
  · have greatest : IsGreatest { entry | entry ∈ (first :: rest).map Sample.num }
        ((first :: rest).foldl (fun measured sample => max measured sample.num) first.num) := by
      rw [List.foldl_cons, max_self, ← List.foldl_map]
      exact List.max?_eq_some_iff.mp (by rw [List.map_cons, List.max?_cons'])
    rw [image]
    have mapped := exact.strictMono.monotone.map_isGreatest greatest
    exact ⟨fun given => given.unique mapped, fun same => same ▸ mapped⟩
  · have least : IsLeast { entry | entry ∈ (first :: rest).map Sample.num }
        ((first :: rest).foldl (fun measured sample => min measured sample.num) first.num) := by
      rw [List.foldl_cons, min_self, ← List.foldl_map]
      exact List.min?_eq_some_iff.mp (by rw [List.map_cons, List.min?_cons'])
    rw [image]
    have mapped := exact.strictMono.monotone.map_isLeast least
    exact ⟨fun given => given.unique mapped, fun same => same ▸ mapped⟩

omit [GoFloat F] in
/-- What validation says about an aggregate: it has exactly one limit, and needs
at least one sample. -/
theorem limits_of_valid
    {condition : Condition F}
    (valid : condition.problems = [])
    (aggregates : ¬0 < condition.transitions) :
    condition.greaterThan.isNone ≠ condition.lessThan.isNone ∧ 0 < condition.minimum := by
  simp only [problems, List.append_eq_nil_iff, problemIf_eq_nil] at valid
  obtain ⟨⟨⟨⟨⟨counts, -⟩, -⟩, limits⟩, kinds⟩, samples⟩ := valid
  have notCounting : ¬Duration.zero < condition.within := by
    intro within
    simp only [within, decide_true, Bool.or_true, Bool.true_and, Bool.or_eq_false_iff,
      decide_eq_false_iff_not] at counts
    omega
  simp only [aggregates, notCounting, decide_false, Bool.or_self, Bool.false_eq_true,
    if_false, zero_add, decide_eq_false_iff_not, ne_eq, ite_eq_left_iff, not_not] at kinds
  constructor
  · by_cases single : (condition.aggregates.filter fun window => window.ns ≠ 0).length = 1
    · rw [if_pos single, problemIf_eq_nil, beq_eq_false_iff_ne] at limits
      exact limits
    · exact absurd (kinds single) (by decide)
  · simp only [decide_eq_false_iff_not, not_lt] at samples
    unfold minimum
    split_ifs <;> omega

/-- With exact numbers, `condition` holds exactly when the values meet it. -/
theorem holds_iff_met
    (exact : GoFloat.Exact value)
    {condition : Condition F}
    (valid : condition.problems = [])
    (plain : Plain samples) :
    (condition.holds samples).1 = true ↔
      condition.Met value (samples.map fun sample => value sample.num) := by
  unfold holds Met
  by_cases counting : 0 < condition.transitions
  · rw [if_pos counting, if_pos counting, decide_eq_true_eq, flips_eq_changes exact plain]
  · rw [if_neg counting, if_neg counting, List.length_map]
    obtain ⟨limits, positive⟩ := limits_of_valid valid counting
    rw [minimum] at positive ⊢
    by_cases few : (samples.length : ℤ) <
        (if condition.minSamples = 0 then 3 else condition.minSamples)
    · rw [if_pos few]
      simp [not_le.mpr few]
    · have present : samples ≠ [] := by
        rintro rfl
        simp only [List.length_nil, Nat.cast_zero] at few
        exact few positive
      rw [if_neg few]
      simp only [isAggregate_iff exact condition present, exists_eq_left, not_lt.mp few, true_and,
        Beyond]
      cases greater : condition.greaterThan with
      | some limit =>
          cases less : condition.lessThan with
          | some other => simp [greater, less] at limits
          | none => simp [exact.lt_iff]
      | none =>
          cases less : condition.lessThan with
          | some limit => simp [exact.lt_iff]
          | none => simp [greater, less] at limits

end Condition

end InfraObserver
