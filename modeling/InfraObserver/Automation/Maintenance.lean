import InfraObserver.Automation.Policy

/-!
# Maintenance windows on the weekly cycle

A recurring window is a union of half-open intervals on the cycle of the minutes
of a week, one for each listed day; the window that goes past midnight belongs to
the day on which it begins. `Active` decides membership with a comparison of
minutes and weekday arithmetic, and the two agree on validated windows.
-/

namespace InfraObserver

/-! ## Intervals on the week -/

/-- The minutes of a week. -/
def minutesOfWeek : ℕ := 7 * 1440

/-- The minute of the week of a minute on a weekday. -/
def weekMinute (weekday minute : ℕ) : ℕ :=
  1440 * weekday + minute

/-- A point of the cycle lies in the half-open interval `[first, last)` once the
week is unrolled far enough. -/
def InWeek (first last point : ℕ) : Prop :=
  ∃ weeks, first ≤ point + minutesOfWeek * weeks ∧ point + minutesOfWeek * weeks < last

variable {minute : ℕ}

theorem inWeek_sameDay
    {day weekday start finish : ℕ}
    (days : day < 7)
    (weekdays : weekday < 7)
    (finishes : finish < 1440)
    (minutes : minute < 1440) :
    InWeek (weekMinute day start) (weekMinute day finish) (weekMinute weekday minute) ↔
      day = weekday ∧ start ≤ minute ∧ minute < finish := by
  unfold InWeek weekMinute minutesOfWeek
  constructor
  · rintro ⟨weeks, after, before⟩
    omega
  · rintro ⟨rfl, after, before⟩
    exact ⟨0, by omega, by omega⟩

theorem inWeek_nextDay
    {day weekday start finish : ℕ}
    (days : day < 7)
    (weekdays : weekday < 7)
    (starts : start < 1440)
    (finishes : finish < 1440)
    (minutes : minute < 1440) :
    InWeek (weekMinute day start) (weekMinute (day + 1) finish) (weekMinute weekday minute) ↔
      day = weekday ∧ start ≤ minute ∨ day = (weekday + 6) % 7 ∧ minute < finish := by
  unfold InWeek weekMinute minutesOfWeek
  constructor
  · rintro ⟨weeks, after, before⟩
    omega
  · rintro (⟨rfl, after⟩ | ⟨rfl, before⟩)
    · exact ⟨0, by omega, by omega⟩
    · -- Saturday's interval reaches into the Sunday of the week that follows.
      by_cases sunday : weekday = 0
      · exact ⟨1, by omega, by omega⟩
      · exact ⟨0, by omega, by omega⟩

/-! ## What a window says -/

variable [Platform]

/-- What the time package guarantees about clocks: they show a weekday and a
minute of the day, and the zone database has a zone for every instant or for
none. -/
structure Platform.Calendar : Prop where
  bounded : ∀ zone instant point, Platform.localClock zone instant = some point →
    point.1 < 7 ∧ point.2 < 1440
  kept : ∀ zone instant, (Platform.localClock zone 0).isSome →
    (Platform.localClock zone instant).isSome

namespace Recurrence

/-- The wall clock in the zone of the recurrence, which is UTC if none is named. -/
def Shows (recurrence : Recurrence) (now : Time) (weekday minute : ℕ) : Prop :=
  if recurrence.timezone = "" then Time.utcClock now = (weekday, minute)
  else Platform.localClock recurrence.timezone now = some (weekday, minute)

omit [Platform] in
/-- The day is listed, or none is. -/
def Listed (recurrence : Recurrence) (day : ℕ) : Prop :=
  if recurrence.days = [] then day < 7
  else ∃ name ∈ recurrence.days, dayNumber name = some day

omit [Platform] in
/-- The point lies in one of the intervals that begin on a listed day, and end on
the next day if the end is earlier than the start. -/
def Includes (recurrence : Recurrence) (weekday minute : ℕ) : Prop :=
  ∃ day start finish, recurrence.Listed day ∧
    parseHM recurrence.start = some start ∧ parseHM recurrence.finish = some finish ∧
    InWeek (weekMinute day start) (weekMinute (if finish < start then day + 1 else day) finish)
      (weekMinute weekday minute)

end Recurrence

/-- What a window means: it covers the device, and the instant lies between its
bounds or the wall clock in one of its intervals. -/
def Window.Holds (window : Window) (now : Time) (device : Device) : Prop :=
  window.covers device = true ∧
    (window.recurring = none ∧ (window.starts = 0 ∨ window.starts ≤ now) ∧
        (window.ends = 0 ∨ now < window.ends) ∨
      ∃ recurrence weekday minute, window.recurring = some recurrence ∧
        recurrence.Shows now weekday minute ∧ recurrence.Includes weekday minute)

/-! ## Clocks and texts -/

omit [Platform] in
theorem utcClock_bounded (now : Time) :
    (Time.utcClock now).1 < 7 ∧ (Time.utcClock now).2 < 1440 := by
  unfold Time.utcClock
  constructor <;> dsimp only <;> omega

omit [Platform] in
theorem dayNumber_lt
    {name : String}
    {day : ℕ}
    (named : dayNumber name = some day) :
    day < 7 :=
  (List.findIdx?_eq_some_iff_getElem.mp named).1

omit [Platform] in
theorem minuteOfDay_lt
    {hour : ℕ}
    {tens ones : Char}
    (read : minuteOfDay hour tens ones = some minute) :
    minute < 1440 := by
  simp only [minuteOfDay, Option.bind_eq_bind, Option.bind_eq_some_iff,
    Option.ite_none_right_eq_some, Option.some.injEq] at read
  obtain ⟨high, -, low, -, ⟨hours, minutes⟩, rfl⟩ := read
  omega

omit [Platform] in
theorem parseHM_lt
    {text : String}
    (read : parseHM text = some minute) :
    minute < 1440 := by
  unfold parseHM at read
  split at read
  · obtain ⟨hour, -, rest⟩ := Option.bind_eq_some_iff.mp read
    exact minuteOfDay_lt rest
  · obtain ⟨high, -, rest⟩ := Option.bind_eq_some_iff.mp read
    obtain ⟨low, -, rest⟩ := Option.bind_eq_some_iff.mp rest
    exact minuteOfDay_lt rest
  · cases read

/-- What validation checks of a recurrence. -/
structure Recurrence.Sound (recurrence : Recurrence) : Prop where
  start : (parseHM recurrence.start).isSome
  finish : (parseHM recurrence.finish).isSome
  days : ∀ name ∈ recurrence.days, (dayNumber name).isSome
  zone : recurrence.timezone = "" ∨ (Platform.localClock recurrence.timezone 0).isSome

theorem sound_of_validateRecurrence
    {id : String}
    {recurrence : Recurrence}
    (accepted : Window.validateRecurrence id recurrence = .ok ()) :
    recurrence.Sound := by
  simp only [Window.validateRecurrence, check_bind_ok_iff, forM_ok_iff, ensure_ok_iff,
    Bool.or_eq_true, decide_eq_true_eq] at accepted
  obtain ⟨start, finish, days, zone⟩ := accepted
  exact ⟨start, finish, days, zone⟩

/-- A validated window is either absolute or recurring, and what recurs is
sound. -/
theorem Window.Valid.cases
    {window : Window}
    (valid : window.Valid) :
    (window.recurring = none ∧ (window.starts ≠ 0 ∨ window.ends ≠ 0)) ∨
      ∃ recurrence, window.recurring = some recurrence ∧ recurrence.Sound ∧
        window.starts = 0 ∧ window.ends = 0 := by
  simp only [Window.Valid, Window.validateWindow, check_bind_ok_iff, ensure_ok_iff] at valid
  obtain ⟨-, oneOf, recurs⟩ := valid
  cases kind : window.recurring with
  | none =>
      rw [kind] at oneOf
      exact .inl ⟨rfl, by simpa using oneOf⟩
  | some recurrence =>
      rw [kind] at oneOf recurs
      refine .inr ⟨recurrence, rfl, sound_of_validateRecurrence recurs, ?_⟩
      simpa using oneOf

/-! ## What the code decides -/

section Decide

variable {recurrence : Recurrence} {now : Time} {weekday minute : ℕ}

theorem localTime_bounded
    (calendar : Platform.Calendar)
    (recurrence : Recurrence)
    (now : Time) :
    (Window.localTime recurrence now).1 < 7 ∧ (Window.localTime recurrence now).2 < 1440 := by
  unfold Window.localTime
  split_ifs
  · exact utcClock_bounded now
  · cases shown : Platform.localClock recurrence.timezone now with
    | none => exact utcClock_bounded now
    | some point => exact calendar.bounded _ _ _ shown

theorem shows_iff
    (calendar : Platform.Calendar)
    (sound : recurrence.Sound) :
    recurrence.Shows now weekday minute ↔
      Window.localTime recurrence now = (weekday, minute) := by
  unfold Recurrence.Shows Window.localTime
  split_ifs with unnamed
  · rfl
  · obtain ⟨point, shown⟩ :=
      Option.isSome_iff_exists.mp (calendar.kept _ now (sound.zone.resolve_left unnamed))
    rw [shown, Option.some.injEq, Option.getD_some]

theorem dayOK_iff
    (sound : recurrence.Sound)
    (weekdays : weekday < 7) :
    Window.dayOK recurrence weekday = true ↔ recurrence.Listed weekday := by
  unfold Window.dayOK Recurrence.Listed
  split_ifs with none
  · simp [none, weekdays]
  · simp only [List.isEmpty_iff, none, Bool.or_eq_true, List.any_eq_true,
      decide_eq_true_eq, false_or]
    refine exists_congr fun name => and_congr_right fun listed => ?_
    obtain ⟨day, named⟩ := Option.isSome_iff_exists.mp (sound.days name listed)
    rw [named, Option.getD_some, Option.some.injEq]

omit [Platform] in
theorem Recurrence.Listed.lt
    {day : ℕ}
    (listed : recurrence.Listed day) :
    day < 7 := by
  unfold Recurrence.Listed at listed
  split_ifs at listed
  · exact listed
  · obtain ⟨name, -, named⟩ := listed
    exact dayNumber_lt named

/-- The weekday arithmetic decides membership in the intervals. -/
theorem recurs_iff
    (calendar : Platform.Calendar)
    (sound : recurrence.Sound) :
    Window.recurs recurrence now = true ↔
      recurrence.Includes (Window.localTime recurrence now).1
        (Window.localTime recurrence now).2 := by
  obtain ⟨weekdays, minutes⟩ := localTime_bounded calendar recurrence now
  obtain ⟨start, startRead⟩ := Option.isSome_iff_exists.mp sound.start
  obtain ⟨finish, finishRead⟩ := Option.isSome_iff_exists.mp sound.finish
  have starts := parseHM_lt startRead
  have finishes := parseHM_lt finishRead
  have dayBefore : ((Window.localTime recurrence now).1 + 6) % 7 < 7 := Nat.mod_lt _ (by decide)
  have included : recurrence.Includes (Window.localTime recurrence now).1
      (Window.localTime recurrence now).2 ↔
        ∃ day, recurrence.Listed day ∧ InWeek (weekMinute day start)
          (weekMinute (if finish < start then day + 1 else day) finish)
          (weekMinute (Window.localTime recurrence now).1
            (Window.localTime recurrence now).2) := by
    simp [Recurrence.Includes, startRead, finishRead]
  rw [included]
  unfold Window.recurs
  simp only [startRead, finishRead, Option.getD_some]
  generalize (Window.localTime recurrence now).1 = weekday at *
  generalize (Window.localTime recurrence now).2 = minute at *
  by_cases ordered : start ≤ finish
  · -- Interval and point are on the same day.
    simp only [if_pos ordered, if_neg (Nat.not_lt.mpr ordered)]
    rw [Bool.and_eq_true, Bool.and_eq_true, dayOK_iff sound weekdays, decide_eq_true_eq,
      decide_eq_true_eq]
    constructor
    · rintro ⟨⟨listed, after⟩, before⟩
      exact ⟨weekday, listed,
        (inWeek_sameDay weekdays weekdays finishes minutes).mpr ⟨rfl, after, before⟩⟩
    · rintro ⟨day, listed, inside⟩
      obtain ⟨rfl, after, before⟩ :=
        (inWeek_sameDay listed.lt weekdays finishes minutes).mp inside
      exact ⟨⟨listed, after⟩, before⟩
  simp only [if_neg ordered, if_pos (Nat.lt_of_not_le ordered)]
  split_ifs with late early
  · -- The evening of the day on which the interval begins.
    rw [dayOK_iff sound weekdays]
    constructor
    · intro listed
      exact ⟨weekday, listed,
        (inWeek_nextDay weekdays weekdays starts finishes minutes).mpr (.inl ⟨rfl, late⟩)⟩
    · rintro ⟨day, listed, inside⟩
      rcases (inWeek_nextDay listed.lt weekdays starts finishes minutes).mp inside with
        ⟨rfl, -⟩ | ⟨-, before⟩
      · exact listed
      · omega
  · -- The morning after.
    rw [dayOK_iff sound dayBefore]
    constructor
    · intro listed
      exact ⟨_, listed,
        (inWeek_nextDay dayBefore weekdays starts finishes minutes).mpr (.inr ⟨rfl, early⟩)⟩
    · rintro ⟨day, listed, inside⟩
      rcases (inWeek_nextDay listed.lt weekdays starts finishes minutes).mp inside with
        ⟨-, after⟩ | ⟨rfl, -⟩
      · omega
      · exact listed
  · -- Between the end and the start.
    simp only [false_iff, not_exists, not_and]
    intro day listed inside
    rcases (inWeek_nextDay listed.lt weekdays starts finishes minutes).mp inside with
      ⟨-, after⟩ | ⟨-, before⟩
    · omega
    · omega

end Decide

theorem Window.active_iff
    {window : Window}
    (calendar : Platform.Calendar)
    (valid : window.Valid)
    (now : Time)
    (device : Device) :
    window.active now device = true ↔ window.Holds now device := by
  unfold Window.active Window.Holds
  cases covered : window.covers device with
  | false => simp
  | true =>
      simp only [Bool.not_true, Bool.false_eq_true, if_false, true_and]
      rcases valid.cases with ⟨absolute, bounds⟩ | ⟨recurrence, recurring, sound, starts, ends⟩
      · rw [if_pos bounds]
        simp only [absolute, true_and, reduceCtorEq, false_and, exists_false, or_false,
          Bool.and_eq_true, Bool.not_eq_true', Bool.and_eq_false_iff, decide_eq_false_iff_not,
          ne_eq, not_not, not_lt, not_le]
      · rw [if_neg (by simp [starts, ends])]
        simp only [recurring, Option.any_some, recurs_iff calendar sound, reduceCtorEq, false_and,
          false_or, Option.some.injEq]
        constructor
        · intro inside
          exact ⟨recurrence, _, _, rfl, (shows_iff calendar sound).mpr rfl, inside⟩
        · rintro ⟨other, weekday, minute, rfl, shown, inside⟩
          rw [(shows_iff calendar sound).mp shown]
          exact inside

/-- `InMaintenance` reports a window exactly when some window holds, and the one
that it reports does. -/
theorem in_maintenance_exact
    (calendar : Platform.Calendar)
    (policies : Policies)
    (now : Time)
    (device : Device) :
    ((policies.inMaintenance now device).isSome ↔
        ∃ window ∈ policies.windows, window.Holds now device) ∧
      ∀ id, policies.inMaintenance now device = some id →
        ∃ window ∈ policies.windows, window.id = id ∧ window.Holds now device := by
  have holds : ∀ window ∈ policies.windows,
      window.active now device = true ↔ window.Holds now device :=
    fun window listed => window.active_iff calendar (policies.windowsValid window listed) now device
  constructor
  · rw [Policies.inMaintenance, Option.isSome_map, List.find?_isSome]
    exact exists_congr fun window => and_congr_right fun listed => holds window listed
  · intro id reported
    obtain ⟨window, found, rfl⟩ := Option.map_eq_some_iff.mp reported
    have listed := List.mem_of_find?_eq_some found
    have active : window.active now device = true := by
      simpa using List.find?_some found
    exact ⟨window, listed, rfl, (holds window listed).mp active⟩

end InfraObserver

/-! ## A night at the weekend -/

namespace InfraObserver.Maintenance

attribute [local instance] Platform.plain

theorem plain_calendar : Platform.Calendar where
  bounded := by
    rintro zone instant point ⟨⟩
    decide
  kept _ _ known := known

/-- From Saturday, ten in the evening, until six in the morning, for every
device. -/
def night : Window where
  id := "night"
  matchOn := ⟨[], "", []⟩
  recurring := some ⟨["Sat"], "22:00", "06:00", ""⟩
  starts := 0
  ends := 0

theorem night_valid : night.Valid := by
  unfold Window.Valid
  decide +kernel

/-- A policy file with this window only. -/
def policies : Policies :=
  .empty [] [] [night] fun window listed => by
    rw [List.mem_singleton.mp listed]
    exact night_valid

/-- A switch. -/
def switch : Device where
  id := "sw-1"
  hostname := "core"
  deviceType := .switch
  vendor := "acme"
  model := "x1"
  site := "lab"
  tags := []
  capabilities := []
  enabled := true
  lastSeen := 0
  protocol := "snmp"
  attributes := ∅

/-- Three in the morning of a Sunday, in UTC. -/
def sunday : Time := (6 * 1440 + 180) * 60000000000

/-- The window of Saturday is reported on Sunday morning, and it holds then. -/
theorem sunday_morning_maintained :
    policies.inMaintenance sunday switch = some "night" ∧
      ∃ window ∈ policies.windows, window.id = "night" ∧ window.Holds sunday switch := by
  have reported : policies.inMaintenance sunday switch = some "night" := by decide +kernel
  exact ⟨reported, (in_maintenance_exact plain_calendar policies sunday switch).2 _ reported⟩

end InfraObserver.Maintenance
