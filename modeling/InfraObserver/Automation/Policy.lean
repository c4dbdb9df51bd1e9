import InfraObserver.Automation.Actions
import InfraObserver.State.Definition

/-!
# Automation policies

A policy connects an event to a controlled action. A policy file also has the
allowlist for live mutation, the approved extensions and the maintenance windows
in which automation is suppressed. Only validated policies enter `Policies`.
-/

namespace InfraObserver

/-! ## Policies -/

/-- Selects the events a policy reacts to. -/
structure Trigger where
  event : String
  deviceType : List String
  site : String
  tags : List String
  /-- The empty text stands for no bound. -/
  minSeverity : Severity
  deriving DecidableEq

/-- Checked when the request is due, not when it is created. -/
structure Conditions where
  duration : Duration
  /-- Caps executed attempts per policy and alert; zero means no cap. -/
  retriesBelow : ℤ
  deriving DecidableEq

/-- A static action configured on a policy. -/
structure ActionRef where
  type : String
  target : String
  params : StringMap String
  deriving DecidableEq

/-- Delegates the choice of the action to a script. -/
structure ProposalRef where
  script : String
  allowedActions : List String
  deriving DecidableEq

/-- The guard rails of a policy. -/
structure Safety where
  dryRun : Option Bool
  cooldown : Duration
  requireTag : String
  requireApproval : Bool
  approvalTimeout : Duration
  deriving DecidableEq

/-- Connects an event to a controlled action. -/
structure Policy where
  id : String
  trigger : Trigger
  conditions : Conditions
  action : Option ActionRef
  proposal : Option ProposalRef
  safety : Safety
  deriving DecidableEq

/-- `DefaultRequireTag`. -/
def defaultRequireTag : String := "automation-enabled"

/-- `DefaultCooldown`. -/
def defaultCooldown : Duration := Duration.fifteenMinutes

/-- `DefaultApprovalTimeout`. -/
def defaultApprovalTimeout : Duration := Duration.hour

/-- `hasTemplate`. -/
def hasTemplate (params : StringMap String) : Bool :=
  params.toSortedList.any fun entry => hasBrace entry.2

namespace Policy

variable (policy : Policy)

/-- A policy runs dry unless it says otherwise. -/
def dryRun (policy : Policy) : Bool :=
  policy.safety.dryRun.getD true

/-- The defaults `Parse` sets before it validates: a policy never runs without a
tag gate, and repeated actions are rate limited. -/
def withDefaults : Policy :=
  { policy with
    safety := { policy.safety with
      requireTag :=
        if policy.safety.requireTag = "" then defaultRequireTag else policy.safety.requireTag
      cooldown :=
        if policy.safety.cooldown = Duration.zero then defaultCooldown
        else policy.safety.cooldown
      approvalTimeout :=
        if policy.safety.requireApproval ∧ policy.safety.approvalTimeout = Duration.zero then
          defaultApprovalTimeout
        else policy.safety.approvalTimeout } }

/-- Setting the defaults a second time changes nothing. -/
theorem withDefaults_withDefaults : policy.withDefaults.withDefaults = policy.withDefaults := by
  have tag : defaultRequireTag ≠ "" := by decide
  have cooldown : defaultCooldown ≠ Duration.zero := by decide
  have timeout : defaultApprovalTimeout ≠ Duration.zero := by decide
  simp only [withDefaults]
  congr 2
  · split_ifs <;> simp_all
  · split_ifs <;> simp_all
  · split_ifs <;> simp_all

variable [Platform]

/-- The problems of a static action. One without templates is validated at
once; of several wrong parameters the source names any. -/
def actionProblems (action : ActionRef) : List String :=
  match catalogSpec action.type with
  | none =>
      ["unknown action type " ++ quote action.type ++ " (catalog: " ++
        String.intercalate ", " catalogNames ++ ")"]
  | some spec =>
      if hasBrace action.target || hasTemplate action.params then []
      else
        match validateShape spec ⟨action.type, action.target, action.params, ""⟩
            action.params.sortedVisit with
        | .ok _ => []
        | .error failure => [failure.text]

/-- The problems of a delegated action. -/
def proposalProblems (proposal : ProposalRef) : List String :=
  problemIf (proposal.script = "") "proposal.script is required" ++
    problemIf proposal.allowedActions.isEmpty
      "proposal.allowed_actions is required: a policy must bound what a script may propose" ++
    (proposal.allowedActions.filter fun name => (catalogSpec name).isNone).map fun name =>
      "proposal.allowed_actions: unknown action " ++ quote name

/-- The problems `validatePolicy` collects, in its order. -/
def problems : List String :=
  problemIf (policy.id = "") "id is required" ++
    problemIf (policy.trigger.event = "") "trigger.event is required" ++
    ((policy.trigger.deviceType.filter fun text => !DeviceType.valid text).map fun text =>
      "unknown device type " ++ quote text) ++
    problemIf (policy.trigger.minSeverity ≠ .unknown "" && !policy.trigger.minSeverity.valid)
      "trigger.min_severity is invalid" ++
    problemIf (policy.action.isNone == policy.proposal.isNone)
      "exactly one of action or proposal is required" ++
    (policy.action.map actionProblems).getD [] ++
    (policy.proposal.map proposalProblems).getD [] ++
    problemIf (policy.conditions.duration < Duration.zero || policy.conditions.retriesBelow < 0 ||
        policy.safety.cooldown < Duration.zero || policy.safety.approvalTimeout < Duration.zero)
      "durations and counts must not be negative"

/-- `validatePolicy`. -/
def validatePolicy : Except Error Unit :=
  match policy.problems with
  | [] => .ok ()
  | found => .error (Error.errorf .validation
      ("policy " ++ quote policy.id ++ ": " ++ String.intercalate "; " found))

/-- A policy that validation accepts. -/
def Valid : Prop :=
  policy.validatePolicy = .ok ()

theorem valid_iff_problems : policy.Valid ↔ policy.problems = [] := by
  unfold Valid validatePolicy
  split
  · next none => simp [none]
  · next some => simpa using some

theorem Valid.bounds
    {policy : Policy}
    (valid : policy.Valid) :
    Duration.zero ≤ policy.conditions.duration ∧ 0 ≤ policy.conditions.retriesBelow ∧
      Duration.zero ≤ policy.safety.cooldown ∧
      Duration.zero ≤ policy.safety.approvalTimeout := by
  rw [valid_iff_problems] at valid
  simp only [problems, List.append_eq_nil_iff, problemIf_eq_nil, Bool.or_eq_false_iff,
    decide_eq_false_iff_not, Duration.lt_def] at valid
  simp only [Duration.le_def]
  omega

/-- The trigger part of `Match`. -/
def triggeredBy (event : Event) (device : Device) : Bool :=
  let trigger := policy.trigger
  trigger.event = event.type &&
    (trigger.deviceType.isEmpty || trigger.deviceType.contains device.deviceType.name) &&
    (trigger.site = "" || trigger.site = device.site) &&
    (trigger.minSeverity = .unknown "" || trigger.minSeverity.rank ≤ event.severity.rank) &&
    trigger.tags.all device.hasTag

end Policy

/-! ## Maintenance windows -/

/-- The devices of a window. -/
structure WindowMatch where
  devices : List String
  site : String
  tags : List String
  deriving DecidableEq

/-- A window that recurs every week. -/
structure Recurrence where
  days : List String
  start : String
  finish : String
  timezone : String
  deriving DecidableEq

/-- A maintenance window. -/
structure Window where
  id : String
  matchOn : WindowMatch
  recurring : Option Recurrence
  /-- The zero time stands for no bound. -/
  starts : Time
  ends : Time
  deriving DecidableEq

/-- `unicode.ToLower` as far as the names of days can tell: of the letters
outside ASCII, only the dotted capital I becomes a letter of such a name. -/
def lowerLetter (char : Char) : Char :=
  if char.toNat = 0x130 then 'i' else char.toLower

/-- `dayNames[strings.ToLower(name)]`. -/
def dayNumber (name : String) : Option ℕ :=
  ["sun", "mon", "tue", "wed", "thu", "fri", "sat"].findIdx? fun day =>
    day.toList = name.toList.map lowerLetter

/-- The value of a decimal digit. -/
def digitValue (char : Char) : Option ℕ :=
  if char.isDigit then some (char.toNat - '0'.toNat) else none

/-- Minutes since midnight of an hour and a minute, when both are in range. -/
def minuteOfDay (hour : ℕ) (tens ones : Char) : Option ℕ := do
  let tens ← digitValue tens
  let ones ← digitValue ones
  if hour < 24 ∧ 10 * tens + ones < 60 then some (hour * 60 + 10 * tens + ones) else none

/-- `parseHM`: the layout `15:04` takes one or two digits for the hour and two
for the minute. -/
def parseHM (text : String) : Option ℕ :=
  match text.toList with
  | [hour, ':', tens, ones] => do
      let hour ← digitValue hour
      minuteOfDay hour tens ones
  | [high, low, ':', tens, ones] => do
      let high ← digitValue high
      let low ← digitValue low
      minuteOfDay (10 * high + low) tens ones
  | _ => none

example : parseHM "22:30" = some 1350 ∧ parseHM "7:05" = some 425 ∧ parseHM "24:00" = none := by
  decide

namespace Window

/-- `covers`: a window that names nothing covers every device. -/
def covers (window : Window) (device : Device) : Bool :=
  let chosen := window.matchOn
  (chosen.devices.isEmpty && chosen.site = "" && chosen.tags.isEmpty) ||
    chosen.devices.contains device.id ||
    (chosen.site ≠ "" && chosen.site = device.site) ||
    chosen.tags.any device.hasTag

variable [Platform]

/-- Weekday and minute of the day in the zone of a recurrence; an unknown zone
falls back to UTC. -/
def localTime (recurrence : Recurrence) (now : Time) : ℕ × ℕ :=
  if recurrence.timezone = "" then Time.utcClock now
  else (Platform.localClock recurrence.timezone now).getD (Time.utcClock now)

/-- `dayOK`: a name that is not a day reads as the zero weekday. -/
def dayOK (recurrence : Recurrence) (weekday : ℕ) : Bool :=
  recurrence.days.isEmpty ||
    recurrence.days.any fun name => (dayNumber name).getD 0 = weekday

/-- The recurring part of `Active`. -/
def recurs (recurrence : Recurrence) (now : Time) : Bool :=
  let (weekday, current) := localTime recurrence now
  let start := (parseHM recurrence.start).getD 0
  let finish := (parseHM recurrence.finish).getD 0
  if start ≤ finish then dayOK recurrence weekday && start ≤ current && current < finish
  -- The window crosses midnight and belongs to the day it started on.
  else if start ≤ current then dayOK recurrence weekday
  else if current < finish then dayOK recurrence ((weekday + 6) % 7)
  else false

/-- `Active`: whether the window holds for a device at an instant. -/
def active (window : Window) (now : Time) (device : Device) : Bool :=
  if !window.covers device then false
  else if window.starts ≠ 0 ∨ window.ends ≠ 0 then
    !(window.starts ≠ 0 && now < window.starts) && !(window.ends ≠ 0 && window.ends ≤ now)
  else window.recurring.any fun recurrence => recurs recurrence now

/-- The checks of `validateWindow` on a recurrence. -/
def validateRecurrence (id : String) (recurrence : Recurrence) : Except Error Unit := do
  ensure (parseHM recurrence.start).isSome
    ("window " ++ quote id ++ " start: " ++ quote recurrence.start ++ " is not HH:MM")
  ensure (parseHM recurrence.finish).isSome
    ("window " ++ quote id ++ " end: " ++ quote recurrence.finish ++ " is not HH:MM")
  recurrence.days.forM fun day =>
    ensure (dayNumber day).isSome ("window " ++ quote id ++ ": unknown day " ++ quote day)
  ensure (recurrence.timezone = "" || (Platform.localClock recurrence.timezone 0).isSome)
    ("window " ++ quote id ++ ": unknown timezone " ++ quote recurrence.timezone)

/-- `validateWindow`. -/
def validateWindow (window : Window) : Except Error Unit := do
  ensure (window.id ≠ "") "maintenance window needs an id"
  ensure ((window.starts ≠ 0 || window.ends ≠ 0) != window.recurring.isSome)
    ("maintenance window " ++ quote window.id ++
      " needs exactly one of recurring or from/until")
  match window.recurring with
  | none => .ok ()
  | some recurrence => validateRecurrence window.id recurrence

/-- A window that validation accepts. -/
def Valid (window : Window) : Prop :=
  window.validateWindow = .ok ()

end Window

/-! ## Policy files -/

/-- A validated policy file. -/
structure Policies [Platform] where
  allowlist : List String
  allowedExtensions : List String
  windows : List Window
  all : List Policy
  windowsValid : ∀ window ∈ windows, window.Valid
  valid : ∀ policy ∈ all, policy.Valid
  defaulted : ∀ policy ∈ all, policy.withDefaults = policy
  distinct : (all.map Policy.id).Nodup

namespace Policies

variable [Platform]

/-- The loop of `Parse` over the decoded policies. -/
def parsePolicies : List Policy → Policies → Except Error Policies
  | [], kept => .ok kept
  | decoded :: rest, kept =>
      match accepted : decoded.withDefaults.validatePolicy with
      | .error failure => .error failure
      | .ok _ =>
          if taken : decoded.id ∈ kept.all.map Policy.id then
            .error (Error.errorf .validation ("duplicate policy id " ++ quote decoded.id))
          else
            parsePolicies rest
              { kept with
                all := kept.all ++ [decoded.withDefaults]
                valid := List.forall_mem_append.mpr
                  ⟨kept.valid, List.forall_mem_singleton.mpr accepted⟩
                defaulted := List.forall_mem_append.mpr
                  ⟨kept.defaulted, List.forall_mem_singleton.mpr decoded.withDefaults_withDefaults⟩
                distinct := Keyed.nodup_map_concat kept.distinct taken }

/-- A file without policies. -/
def empty
    (allowlist allowedExtensions : List String)
    (windows : List Window)
    (windowsValid : ∀ window ∈ windows, window.Valid) : Policies where
  allowlist := allowlist
  allowedExtensions := allowedExtensions
  windows := windows
  all := []
  windowsValid := windowsValid
  valid := by simp
  defaulted := by simp
  distinct := List.nodup_nil

/-- A file with one policy and without windows. -/
def single
    (allowlist : List String)
    (policy : Policy)
    (valid : policy.Valid)
    (defaulted : policy.withDefaults = policy) : Policies :=
  { empty allowlist [] [] (by simp) with
    all := [policy]
    valid := by simpa using valid
    defaulted := by simpa using defaulted
    distinct := List.nodup_singleton _ }

/-- `Parse` of a decoded file. -/
def parse
    (allowlist allowedExtensions : List String)
    (windows : List Window)
    (policies : List Policy) : Except Error Policies :=
  match accepted : windows.forM Window.validateWindow with
  | .error failure => .error failure
  | .ok _ =>
      parsePolicies policies
        (empty allowlist allowedExtensions windows
          ((forM_ok_iff windows Window.validateWindow).mp accepted))

theorem parsePolicies_ok_iff (policies all : List Policy) (kept : Policies) :
    (∃ file, parsePolicies policies kept = .ok file ∧ file.all = all) ↔
      (∀ policy ∈ policies, policy.withDefaults.Valid) ∧
        ((kept.all ++ policies.map Policy.withDefaults).map Policy.id).Nodup ∧
        all = kept.all ++ policies.map Policy.withDefaults := by
  induction policies generalizing kept with
  | nil => simpa [parsePolicies, eq_comm] using fun _ => kept.distinct
  | cons decoded rest ih =>
      rw [parsePolicies, List.forall_mem_cons]
      split
      · next failure refused => simp [Policy.Valid, refused]
      · next accepted =>
          split
          · next taken =>
              refine iff_of_false (by simp) fun well => ?_
              have distinct := well.2.1
              rw [List.map_append, List.nodup_append] at distinct
              exact absurd rfl (distinct.2.2 _ taken decoded.id (by simp [Policy.withDefaults]))
          · rw [List.map_cons, List.append_cons kept.all decoded.withDefaults (rest.map _),
              and_assoc]
            exact (ih _).trans (and_iff_right accepted).symm

/-- `Parse` accepts exactly the files whose windows and policies are valid, with distinct
ids, and keeps every policy in order, with its defaults. -/
theorem parse_exact
    (allowlist allowedExtensions : List String)
    (windows : List Window)
    (policies all : List Policy) :
    (∃ file, parse allowlist allowedExtensions windows policies = .ok file ∧ file.all = all) ↔
      (∀ window ∈ windows, window.Valid) ∧ (∀ policy ∈ policies, policy.withDefaults.Valid) ∧
        (policies.map Policy.id).Nodup ∧ all = policies.map Policy.withDefaults := by
  have sameIds : (policies.map Policy.withDefaults).map Policy.id = policies.map Policy.id :=
    List.map_map ..
  rw [← sameIds]
  unfold parse
  split
  · next failure refused =>
      refine iff_of_false (by simp) fun well => ?_
      rw [(forM_ok_iff windows Window.validateWindow).mpr well.1] at refused
      cases refused
  · next accepted =>
      have valid := (forM_ok_iff windows Window.validateWindow).mp accepted
      exact (parsePolicies_ok_iff policies all (empty ..)).trans (and_iff_right valid).symm

/-- `Get`. -/
def get (policies : Policies) (id : String) : Option Policy :=
  policies.all.find? fun policy => policy.id = id

variable (policies : Policies)

theorem get_eq_some_iff
    (id : String)
    (policy : Policy) :
    policies.get id = some policy ↔ policy ∈ policies.all ∧ policy.id = id :=
  Keyed.find?_eq_some_iff policies.distinct id policy

/-- `Allowlisted`: the device may be the target of live mutation. -/
def allowlisted (deviceID : String) : Bool :=
  policies.allowlist.contains deviceID

/-- `ExtensionApproved`: the script may be invoked as an action. -/
def extensionApproved (script : String) : Bool :=
  policies.allowedExtensions.contains script

/-- `InMaintenance`: the id of an active window that covers the device. -/
def inMaintenance (now : Time) (device : Device) : Option String :=
  (policies.windows.find? fun window => window.active now device).map Window.id

theorem inMaintenance_eq_none_iff
    (now : Time)
    (device : Device) :
    policies.inMaintenance now device = none ↔
      ∀ window ∈ policies.windows, window.active now device = false := by
  simp [inMaintenance]

/-- `Match`: the policies triggered by an event on a device. -/
def matching (event : Event) (device : Device) : List Policy :=
  policies.all.filter fun policy => policy.triggeredBy event device

theorem guarded
    {policy : Policy}
    (member : policy ∈ policies.all) :
    policy.safety.requireTag ≠ "" ∧ Duration.zero < policy.safety.cooldown := by
  have bounds := (policies.valid policy member).bounds.2.2.1
  have tag : defaultRequireTag ≠ "" := by decide
  have cooldown : Duration.zero < defaultCooldown := by decide
  rw [← policies.defaulted policy member] at bounds ⊢
  simp only [Policy.withDefaults] at bounds ⊢
  constructor
  · split_ifs with empty
    · exact tag
    · exact empty
  · split_ifs with unset
    · exact cooldown
    · rw [if_neg unset] at bounds
      rw [Duration.le_def] at bounds
      rw [Duration.lt_def]
      exact lt_of_le_of_ne bounds fun same => unset (Duration.ext same.symm)

end Policies

end InfraObserver
