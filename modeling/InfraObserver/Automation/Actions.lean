import InfraObserver.Domain.Ids
import InfraObserver.Library.Keyed

/-!
# The catalog of automation actions

Actions come from a closed catalog with typed parameters. A policy or a script
only proposes one; `validate` is the check that every proposal passes before
anything else looks at it, and `Fits` is what the check means.
-/

namespace InfraObserver

/-- An anchored regular expression, as the set of texts that it matches. -/
abbrev Pattern := String → Bool

/-- `^[A-Za-z][A-Za-z0-9/._-]{0,31}$`. -/
def reIface : Pattern :=
  Text.classPattern Char.isAlpha
    (fun char => char.isAlphanum || "/._-".toList.contains char) 31

/-- `^[a-z][a-z0-9_.-]{0,47}$`. -/
def reName : Pattern :=
  Text.classPattern Char.isLower
    (fun char => char.isLower || char.isDigit || "_.-".toList.contains char) 47

/-- `^[A-Za-z0-9 .,:/@()_'-]{0,120}$`. -/
def reText : Pattern :=
  Text.runPattern (fun char => char.isAlphanum || " .,:/@()_'-".toList.contains char) 0 120

/-- `^[0-9]{1,4}$`. -/
def reVLAN : Pattern :=
  Text.runPattern Char.isDigit 1 4

/-- `^[a-z][a-z0-9_-]{0,47}$`. -/
def reEnpoint : Pattern :=
  Text.classPattern Char.isLower
    (fun char => char.isLower || char.isDigit || "_-".toList.contains char) 47

/-- `^(info|warning|critical)$`. -/
def reSeverity : Pattern := fun text =>
  text = "info" || text = "warning" || text = "critical"

/-- One allowed parameter of an action. -/
structure ParamSpec where
  name : String
  required : Bool
  pattern : Pattern

/-- One action of the catalog. -/
structure ActionSpec where
  name : String
  /-- The device types the action applies to; none means any. -/
  deviceTypes : List DeviceType := []
  /-- The capability the device must advertise; empty means none. -/
  capability : String := ""
  /-- `NeedsTarget` with the pattern of the target. -/
  target : Option Pattern := none
  params : List ParamSpec := []
  disruptive : Bool := false
  distinct : (params.map ParamSpec.name).Nodup := by decide

/-- The zero value of a specification. -/
def ActionSpec.zero : ActionSpec where
  name := ""

/-- Switches and routers. -/
def netTypes : List DeviceType := [.switch, .router]

/-- Servers and workstations. -/
def hostTypes : List DeviceType := [.server, .workstation]

/-- `Catalog`: the complete list of things automation can do. -/
def catalog : List ActionSpec :=
  [ { name := "disable_interface", deviceTypes := netTypes, capability := "interface-admin"
      target := some reIface, disruptive := true },
    { name := "enable_interface", deviceTypes := netTypes, capability := "interface-admin"
      target := some reIface, disruptive := true },
    { name := "bounce_interface", deviceTypes := netTypes, capability := "interface-admin"
      target := some reIface, disruptive := true },
    { name := "set_interface_description", deviceTypes := netTypes
      capability := "interface-admin", target := some reIface, disruptive := true
      params := [⟨"description", true, reText⟩] },
    { name := "query_interface_state", deviceTypes := netTypes ++ [.accessPoint]
      target := some reIface },
    { name := "query_vlan_state", deviceTypes := netTypes, params := [⟨"vlan", false, reVLAN⟩] },
    { name := "restart_ap_service", deviceTypes := [.accessPoint]
      capability := "service-restart", disruptive := true
      params := [⟨"service", true, reName⟩] },
    { name := "query_ap_clients", deviceTypes := [.accessPoint] },
    { name := "update_ap_config", deviceTypes := [.accessPoint], capability := "config-update"
      disruptive := true, params := [⟨"key", true, reName⟩, ⟨"value", true, reText⟩] },
    { name := "restart_service", deviceTypes := hostTypes, capability := "service-restart"
      disruptive := true, params := [⟨"service", true, reName⟩] },
    { name := "collect_diagnostics", deviceTypes := hostTypes, capability := "diagnostics" },
    { name := "run_maintenance_task", deviceTypes := hostTypes, capability := "diagnostics"
      disruptive := true, params := [⟨"task", true, reName⟩] },
    { name := "send_webhook"
      params := [⟨"endpoint", true, reEnpoint⟩, ⟨"message", false, reText⟩] },
    { name := "create_event_record"
      params := [⟨"message", true, reText⟩, ⟨"severity", false, reSeverity⟩] },
    { name := "invoke_extension", params := [⟨"script", true, reName⟩] },
    { name := "noop" } ]

/-- `Catalog[name]`. -/
def catalogSpec (name : String) : Option ActionSpec :=
  catalog.find? fun spec => spec.name = name

/-- `CatalogNames`: the action names, sorted. -/
def catalogNames : List String :=
  (catalog.map ActionSpec.name).insertionSort (· ≤ ·)

theorem catalog_names_nodup : (catalog.map ActionSpec.name).Nodup := by
  decide

/-- A request to perform one action of the catalog. -/
structure Proposal where
  action : String
  target : String
  params : StringMap String
  reason : String
  deriving DecidableEq

/-! ## Sequences of checks -/

/-- Fail unless a condition holds. -/
def ensure (condition : Bool) (message : String) : Except Error Unit :=
  if condition then .ok () else .error (Error.errorf .validation message)

@[simp] theorem ensure_ok_iff
    (condition : Bool)
    (message : String) :
    ensure condition message = .ok () ↔ condition = true := by
  cases condition <;> simp [ensure]

theorem check_bind_ok_iff (first second : Except Error Unit) :
    (first >>= fun _ => second) = .ok () ↔ first = .ok () ∧ second = .ok () := by
  cases first <;> simp [bind, Except.bind]

theorem forM_ok_iff
    {α : Type}
    (items : List α)
    (check : α → Except Error Unit) :
    items.forM check = .ok () ↔ ∀ item ∈ items, check item = .ok () := by
  induction items with
  | nil => simp [pure, Except.pure]
  | cons item rest ih =>
      change (check item >>= fun _ => rest.forM check) = .ok () ↔ _
      rw [check_bind_ok_iff, ih]
      simp

/-! ## Validation -/

section Validation

variable [Platform] (spec : ActionSpec) (proposal : Proposal)

/-- The target check of `validateShape`. -/
def ActionSpec.checkTarget : Except Error Unit :=
  match spec.target with
  | some pattern =>
      ensure (proposal.target ≠ "" && pattern proposal.target)
        ("action " ++ spec.name ++ " needs a valid target, got " ++ quote proposal.target)
  | none => ensure (proposal.target = "") ("action " ++ spec.name ++ " takes no target")

/-- The check of one given parameter. The names of the specifications are
distinct, so the first one is the one of the map `allowed`. -/
def ActionSpec.checkParam (entry : String × String) : Except Error Unit :=
  match spec.params.find? fun param => param.name = entry.1 with
  | none => .error (Error.errorf .validation
      ("action " ++ spec.name ++ " has no parameter " ++ quote entry.1))
  | some param =>
      ensure (param.pattern entry.2)
        ("parameter " ++ entry.1 ++ " of " ++ spec.name ++ " has an invalid value")

/-- The check that one parameter is given when it is required. -/
def ActionSpec.checkRequired (param : ParamSpec) :
    Except Error Unit :=
  ensure (!param.required || (proposal.params.lookup param.name).isSome)
    ("action " ++ spec.name ++ " requires parameter " ++ quote param.name)

/-- `validateShape`: target and parameters, without reference to a device. The
source ranges over the parameters in no fixed order, and the first one that is wrong
is named in the error. -/
def validateShape (visit : proposal.params.Visit) :
    Except Error Unit := do
  spec.checkTarget proposal
  visit.1.forM spec.checkParam
  spec.params.forM (spec.checkRequired proposal)
  ensure (proposal.reason.utf8ByteSize ≤ 240) "reason is too long"

/-- The device check of `Validate`. -/
def checkDeviceType (device : Device) :
    Except Error Unit :=
  ensure (spec.deviceTypes.isEmpty || spec.deviceTypes.contains device.deviceType)
    ("action " ++ proposal.action ++ " does not apply to " ++ device.deviceType.name ++
      " devices")

/-- `Validate`: check a proposal against the catalog and a device. -/
def validate (proposal : Proposal) (device : Device) (visit : proposal.params.Visit) :
    Except Error Unit :=
  match catalogSpec proposal.action with
  | none => .error (Error.errorf .validation ("unknown action " ++ quote proposal.action))
  | some spec => do
      validateShape spec proposal visit
      checkDeviceType spec proposal device

end Validation

/-! ## What validation means -/

/-- A proposal that has the target and the parameters its action asks for. -/
structure ActionSpec.Fits (spec : ActionSpec) (proposal : Proposal) : Prop where
  /-- An action with a target gets one that matches, the others get none. -/
  target : (∃ pattern, spec.target = some pattern ∧ proposal.target ≠ "" ∧
      pattern proposal.target = true) ∨
    (spec.target = none ∧ proposal.target = "")
  /-- Every given parameter is declared and matches its pattern. -/
  declared : ∀ name value, proposal.params.lookup name = some value →
    ∃ param ∈ spec.params, param.name = name ∧ param.pattern value = true
  complete : ∀ param ∈ spec.params, param.required = true →
    (proposal.params.lookup param.name).isSome = true
  reason : proposal.reason.utf8ByteSize ≤ 240

/-- A proposal that the catalog allows for a device. -/
structure Proposal.Allowed (proposal : Proposal) (device : Device) (spec : ActionSpec) :
    Prop where
  listed : spec ∈ catalog ∧ spec.name = proposal.action
  applies : spec.deviceTypes = [] ∨ device.deviceType ∈ spec.deviceTypes
  fits : spec.Fits proposal

variable [Platform] (spec : ActionSpec) (proposal : Proposal)

theorem ActionSpec.checkTarget_ok_iff : spec.checkTarget proposal = .ok () ↔
      (∃ pattern, spec.target = some pattern ∧ proposal.target ≠ "" ∧
        pattern proposal.target = true) ∨
      (spec.target = none ∧ proposal.target = "") := by
  unfold checkTarget
  split
  · next pattern required => simp [required]
  · next absent => simp [absent]

theorem ActionSpec.checkParam_ok_iff (entry : String × String) :
    spec.checkParam entry = .ok () ↔
      ∃ param ∈ spec.params, param.name = entry.1 ∧ param.pattern entry.2 = true := by
  unfold checkParam
  split
  · next missing =>
      simp only [List.find?_eq_none, decide_eq_true_eq] at missing
      constructor
      · intro impossible
        cases impossible
      · rintro ⟨param, member, named, _⟩
        exact absurd named (missing param member)
  · next param found =>
      obtain ⟨member, named⟩ := (Keyed.find?_eq_some_iff spec.distinct _ _).mp found
      rw [ensure_ok_iff]
      constructor
      · intro accepted
        exact ⟨param, member, named, accepted⟩
      · rintro ⟨other, otherMember, otherNamed, accepted⟩
        have same : other = param :=
          List.inj_on_of_nodup_map spec.distinct otherMember member (otherNamed.trans named.symm)
        exact same ▸ accepted

/-- The order does not matter to what is accepted. -/
theorem validateShape_ok_iff (visit : proposal.params.Visit) :
    validateShape spec proposal visit = .ok () ↔ spec.Fits proposal := by
  simp only [validateShape, check_bind_ok_iff, forM_ok_iff, spec.checkTarget_ok_iff,
    spec.checkParam_ok_iff, ActionSpec.checkRequired, ensure_ok_iff, Prod.forall,
    StringMap.mem_visit, Bool.or_eq_true, Bool.not_eq_true', decide_eq_true_eq]
  constructor
  · rintro ⟨target, declared, complete, reason⟩
    refine ⟨target, declared, ?_, reason⟩
    intro param member required
    exact (complete param member).resolve_left (by simp [required])
  · rintro ⟨target, declared, complete, reason⟩
    refine ⟨target, declared, ?_, reason⟩
    intro param member
    cases required : param.required with
    | false => exact Or.inl rfl
    | true => exact Or.inr (complete param member required)

/-- `Validate` accepts exactly the proposals that the catalog allows. -/
theorem validate_ok_iff
    (proposal : Proposal)
    (device : Device)
    (visit : proposal.params.Visit) :
    validate proposal device visit = .ok () ↔
      ∃ spec, catalogSpec proposal.action = some spec ∧ proposal.Allowed device spec := by
  unfold validate
  split
  · next unknown => simp [unknown]
  · next spec found =>
      have listed := (Keyed.find?_eq_some_iff catalog_names_nodup _ _).mp found
      simp only [check_bind_ok_iff, validateShape_ok_iff, checkDeviceType, ensure_ok_iff,
        Bool.or_eq_true, List.isEmpty_iff, List.contains_iff_mem]
      constructor
      · rintro ⟨fits, applies⟩
        exact ⟨spec, found, listed, applies, fits⟩
      · rintro ⟨other, same, allowed⟩
        obtain rfl : spec = other := by simpa [found] using same
        exact ⟨allowed.fits, allowed.applies⟩

/-! ## Templates -/

/-- `strings.Contains(text, "{")`. -/
def hasBrace (text : String) : Bool :=
  text.toList.contains '\x7b'

/-- `expand`: substitute the device, the event type and the event's labels. -/
def expand (template : String) (event : Event) : String :=
  if !hasBrace template then template
  else
    Text.replace
      ([("\x7bdevice\x7d", event.deviceID), ("\x7bevent\x7d", event.type)] ++
        labelPairs event.labels)
      template

end InfraObserver
