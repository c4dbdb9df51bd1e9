import Mathlib.Algebra.Order.Ring.Int
import Mathlib.Tactic.Linarith

/-!
# Instants and durations

An instant is a number of nanoseconds since Go's zero time, so the zero value
of `time.Time` is `0`. A duration is a signed 64-bit number of nanoseconds,
and the difference of two instants saturates at the ends of that range.
-/

namespace InfraObserver

/-- An instant, in nanoseconds since the zero time. -/
abbrev Time := ℤ

/-- A `time.Duration`: nanoseconds in the range of a signed 64-bit integer. -/
@[ext] structure Duration where
  ns : ℤ
  lower : -2 ^ 63 ≤ ns
  upper : ns < 2 ^ 63
  deriving DecidableEq

namespace Duration

instance : LE Duration := ⟨fun left right => left.ns ≤ right.ns⟩

instance : LT Duration := ⟨fun left right => left.ns < right.ns⟩

instance : DecidableLE Duration := fun left right =>
  inferInstanceAs (Decidable (left.ns ≤ right.ns))

instance : DecidableLT Duration := fun left right =>
  inferInstanceAs (Decidable (left.ns < right.ns))

theorem le_def (left right : Duration) : left ≤ right ↔ left.ns ≤ right.ns := Iff.rfl

theorem lt_def (left right : Duration) : left < right ↔ left.ns < right.ns := Iff.rfl

/-- The empty duration, the zero value of `time.Duration`. -/
def zero : Duration := ⟨0, by decide, by decide⟩

@[simp] theorem zero_ns : zero.ns = 0 := rfl

/-- One minute. -/
def minute : Duration := ⟨60000000000, by decide, by decide⟩

/-- Five minutes. -/
def fiveMinutes : Duration := ⟨300000000000, by decide, by decide⟩

/-- Fifteen minutes. -/
def fifteenMinutes : Duration := ⟨900000000000, by decide, by decide⟩

/-- One hour. -/
def hour : Duration := ⟨3600000000000, by decide, by decide⟩

/-- The duration closest to a number of nanoseconds. -/
def saturate (ns : ℤ) : Duration where
  ns := max (-2 ^ 63) (min (2 ^ 63 - 1) ns)
  lower := le_max_left _ _
  upper := by
    have bounded : min (2 ^ 63 - 1) ns ≤ 2 ^ 63 - 1 := min_le_left _ _
    omega

end Duration

namespace Time

/-- `t.Sub(u)`, which saturates instead of overflowing. -/
def sub (later earlier : Time) : Duration :=
  Duration.saturate (later - earlier)

/-- `t.Add(d)`. -/
def add (instant : Time) (duration : Duration) : Time :=
  instant + duration.ns

/-- `t.Add(-d)`. -/
def addNeg (instant : Time) (duration : Duration) : Time :=
  instant - duration.ns

/-- `t.Truncate(d)`: round down to a multiple of `d` since the zero time. -/
def truncate (instant : Time) (bucket : Duration) : Time :=
  if bucket.ns ≤ 0 then instant else instant - instant % bucket.ns

/-- `t.Unix()`: whole seconds since 1970, which is 62135596800 seconds after
the zero time. -/
def unix (instant : Time) : ℤ :=
  (instant - 62135596800 * 1000000000) / 1000000000

/-- Weekday (Sunday is 0) and minute of the day of an instant in UTC. The zero
time is the midnight at which a Monday began. -/
def utcClock (instant : Time) : ℕ × ℕ :=
  let minutes := instant / 60000000000
  (((minutes / 1440 + 1) % 7).toNat, (minutes % 1440).toNat)

/-- Saturation never changes a comparison with a duration that is not
negative. -/
theorem le_sub_iff
    {duration : Duration}
    (nonnegative : Duration.zero ≤ duration)
    (later earlier : Time) :
    duration ≤ sub later earlier ↔ duration.ns ≤ later - earlier := by
  have upper := duration.upper
  rw [Duration.le_def, Duration.zero_ns] at nonnegative
  rw [Duration.le_def]
  simp only [sub, Duration.saturate, le_max_iff, le_min_iff]
  constructor
  · rintro (least | ⟨_, bound⟩)
    · omega
    · exact bound
  · intro bound
    exact Or.inr ⟨by omega, bound⟩

theorem sub_anti
    (now : Time)
    {earlier later : Time}
    (ordered : earlier ≤ later) :
    sub now later ≤ sub now earlier := by
  rw [Duration.le_def]
  exact max_le_max (le_refl _) (min_le_min (le_refl _) (sub_le_sub_left ordered now))

theorem truncate_eq
    {bucket : Duration}
    (positive : 0 < bucket.ns)
    (instant : Time) :
    truncate instant bucket = bucket.ns * (instant / bucket.ns) := by
  rw [truncate, if_neg (not_le.mpr positive), Int.emod_def, sub_sub_cancel]

/-- Buckets of at least a second lie in different seconds. -/
theorem unix_truncate_injective
    {bucket : Duration}
    (seconds : 1000000000 ≤ bucket.ns)
    {left right : Time}
    (same : unix (truncate left bucket) = unix (truncate right bucket)) :
    truncate left bucket = truncate right bucket := by
  have positive : 0 < bucket.ns := by omega
  rw [truncate_eq positive, truncate_eq positive] at same ⊢
  -- Multiples of a number above a second that differ are at least a second apart.
  have apart : ∀ low high : ℤ, low < high → bucket.ns * low + 1000000000 ≤ bucket.ns * high := by
    intro low high less
    nlinarith
  unfold unix at same
  rcases lt_trichotomy (left / bucket.ns) (right / bucket.ns) with less | equal | greater
  · have far := apart _ _ less
    omega
  · rw [equal]
  · have far := apart _ _ greater
    omega

end Time

end InfraObserver
