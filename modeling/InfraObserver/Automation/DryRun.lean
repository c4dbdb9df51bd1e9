import InfraObserver.Automation.Adapters
import InfraObserver.Automation.Gates

/-!
# Dry runs

A dry run of an adapter only reads. With the global switch on, every call of an
adapter is a dry run.
-/

namespace InfraObserver

open Interleaving (World Machine)

/-- The request changes something: equipment, records, the outside world or what
the adapter stores. -/
def AdapterOp.effect : AdapterOp → Bool
  | .command .. | .record _ | .invoke .. | .send _ | .swapDescription .. | .writeConfig .. => true
  | _ => false

/-! ## Adapters -/

/-- An adapter that only reads. -/
def readOnly : Prog.Contract AdapterOp AdapterRes Unit where
  pre _ op := op.effect = false
  post _ _ _ _ := True

/-- A program that only reads and reports that nothing was changed. -/
abbrev Inspects (program : AdapterM ActionResult) : Prop :=
  Prog.wp readOnly (fun result _ => (ActionResult.returned result).1.changed = false) program ()

section Inspects

variable {device : Device} {action : Action} {reader : Bool}

theorem inspects_ask
    {op : AdapterOp}
    {follow : AdapterRes op → AdapterM ActionResult}
    (reads : op.effect = false)
    (next : ∀ answer, Inspects (follow answer)) :
    Inspects (AdapterM.ask op >>= follow) := by
  refine (Fallible.wp_bind _ _ _).mpr ((Fallible.wp_lift _ _).mpr ⟨reads, ?_⟩)
  intro answer _ _
  exact next answer

theorem inspects_try
    {α : Type}
    {asked : AdapterM (Except Error α)}
    {follow : α → AdapterM ActionResult}
    (reads : Prog.wp readOnly (fun _ _ => True) asked ())
    (next : ∀ value, Inspects (follow value)) :
    Inspects (AdapterM.try_ asked >>= follow) := by
  refine (Fallible.wp_bind _ _ _).mpr ((Fallible.wp_bind _ _ _).mpr (Prog.wp_mono ?_ reads))
  rintro (failure | failure | value) _ _
  · rfl
  · rfl
  · exact next value

theorem inspects_interfaceState
    {iface : String}
    {follow : InterfaceState → AdapterM ActionResult}
    (next : ∀ state, Inspects (follow state)) :
    Inspects (Switch.interfaceState reader device iface >>= follow) := by
  unfold Switch.interfaceState
  split_ifs
  · exact inspects_try ⟨rfl, fun _ _ _ => trivial⟩ next
  · exact next _

section

variable (dry : action.dryRun = true)
include dry

theorem inspects_mutate :
    Inspects (Switch.mutate reader device action) := by
  refine inspects_interfaceState fun state => ?_
  rw [if_pos dry]
  rfl

theorem inspects_switch :
    Inspects (Switch.execute reader device action) := by
  unfold Switch.execute
  split
  · exact inspects_interfaceState fun _ => rfl
  · rfl
  · exact inspects_mutate dry
  · exact inspects_mutate dry
  · exact inspects_mutate dry
  · exact inspects_mutate dry
  · rfl

theorem inspects_accessPoint :
    Inspects (AccessPoint.execute reader device action) := by
  unfold AccessPoint.execute
  split
  · split_ifs
    · exact inspects_try ⟨rfl, fun _ _ _ => trivial⟩ fun _ => rfl
    · rfl
  · split_ifs
    · exact inspects_try ⟨rfl, fun _ _ _ => trivial⟩ fun _ => rfl
    · rfl
  · rw [if_pos dry]
    rfl
  · refine inspects_ask rfl fun before => ?_
    rw [if_pos dry]
    rfl
  · rfl

variable [Platform]

theorem inspects_host (tasks : Option (StringMap String)) :
    Inspects (Host.execute reader tasks device action) := by
  unfold Host.execute
  split
  · dsimp only
    rw [if_pos dry]
    rfl
  · split_ifs
    · exact inspects_try ⟨rfl, fun _ _ _ => trivial⟩ fun _ => rfl
    · rfl
  · dsimp only
    split
    · rfl
    · rw [if_pos dry]
      rfl
  · rfl

variable [Wire]

theorem inspects_generic (settings : Generic) :
    Inspects (settings.execute device action) := by
  unfold Generic.execute
  split
  · rfl
  · dsimp only
    rw [if_pos dry]
    rfl
  · dsimp only
    rw [if_pos dry]
    rfl
  · unfold Generic.webhook
    dsimp only
    rw [if_pos dry]
    rfl
  · rfl

/-- Every adapter only reads in a dry run. -/
theorem inspects_execute (adapter : DeviceAdapter) :
    Inspects (adapter.execute device action) := by
  cases adapter with
  | switch reader => exact inspects_switch dry
  | accessPoint reader => exact inspects_accessPoint dry
  | host reader tasks => exact inspects_host dry tasks
  | generic settings => exact inspects_generic dry settings

end

end Inspects

theorem AdapterRun.respond_quiet
    {op : AdapterOp}
    (quiet : op.effect = false)
    (answers : Answers)
    (run : AdapterRun) :
    (respond answers op run).2.state = run.state ∧
      ((respond answers op run).2.asked = run.asked ∨
        (respond answers op run).2.asked = run.asked ++ [op]) := by
  cases op with
  | readConfig key => exact ⟨rfl, Or.inl rfl⟩
  | swapDescription key description => cases quiet
  | writeConfig key value => cases quiet
  | _ => exact ⟨rfl, Or.inr rfl⟩

/-- A dry run asks nothing of others but reads, stores nothing, and reports no
change. -/
theorem DeviceAdapter.run_dry [Platform] [Wire]
    (adapter : DeviceAdapter)
    (device : Device)
    {action : Action}
    (dry : action.dryRun = true)
    (state : AdapterState)
    (answers : Answers) :
    (∀ op ∈ (adapter.run device action state answers).2.asked, op.effect = false) ∧
      (adapter.run device action state answers).2.state = state ∧
      (adapter.run device action state answers).1.1.changed = false := by
  have inspects : Inspects (adapter.execute device action) := inspects_execute dry adapter
  have kept := Prog.exec_keeps (AdapterRun.respond answers) (fun _ => ()) (fun _ _ _ => trivial)
    (fun run => (∀ op ∈ run.asked, op.effect = false) ∧ run.state = state)
    (by
      rintro op run quiet ⟨earlier, same⟩
      obtain ⟨stored, asked | asked⟩ := AdapterRun.respond_quiet quiet answers run
      · exact ⟨asked ▸ earlier, stored.trans same⟩
      · refine ⟨?_, stored.trans same⟩
        rw [asked]
        intro other member
        rcases List.mem_append.mp member with old | new
        · exact earlier other old
        · rw [List.mem_singleton.mp new]
          exact quiet)
    ⟨state, []⟩ ⟨fun _ impossible => (by cases impossible), rfl⟩ inspects
  have unchanged := Prog.exec_of_wp (AdapterRun.respond answers) (fun _ => ())
    (fun _ _ _ => trivial) (⟨state, []⟩ : AdapterRun) inspects
  exact ⟨kept.1, kept.2, unchanged⟩

/-! ## The engine -/

variable {F : Type} [Platform]

/-- The operator leaves the global switch on. -/
def SwitchOn [GoFloat F] (_ : EngineWorld F) : EngineAction F → Prop
  | .disturb (.configure config) => config.globalDryRun = true
  | _ => True

instance [GoFloat F] (world : EngineWorld F) : DecidablePred (SwitchOn world)
  | .disturb (.configure config) => inferInstanceAs (Decidable (config.globalDryRun = true))
  | .disturb (.setClock _) => isTrue trivial
  | .disturb (.process ..) => isTrue trivial
  | .start _ => isTrue trivial
  | .step .. => isTrue trivial
  | .crash _ => isTrue trivial

theorem dry_of_switchOn [GoFloat F]
    {engine : Engine}
    {clock : Time}
    {config : Config}
    {world : EngineWorld F}
    (start : config.globalDryRun = true)
    (reached : (system F engine).Reaches SwitchOn (fresh F clock config) world)
    {thread : ℕ}
    {call : EngineCall}
    {device : Device}
    {action : Action}
    {answer : ActionResult × Option Error}
    {before : Shared F}
    (asked : ⟨thread, call, .execute device action, answer, before⟩ ∈ world.trace) :
    action.dryRun = true := by
  obtain ⟨later, earlier, split⟩ := List.append_of_mem asked
  refine reached.every_entry (fun entry _ => ∀ device action, entry.op = .execute device action →
    action.dryRun = true) ?_ split device action rfl
  rintro world thread call op rest choice reached running _ device action rfl
  obtain ⟨claim, known, now, policy, spec, cleared⟩ := cleared_of_reaches reached running
  have switch := (config_of_reaches (fun config => config.globalDryRun = true)
    (fun _ _ permitted => permitted) start reached).2 thread known cleared.configured
  rw [cleared.action]
  simp [Engine.dry, switch]

/-- A dry run changes nothing, and with the global switch on every call of an
adapter is a dry run. -/
theorem dry_run_changes_nothing [GoFloat F] [Wire] :
    (∀ (adapter : DeviceAdapter) (device : Device) (action : Action) (state : AdapterState)
      (answers : Answers), action.dryRun = true →
      (∀ op ∈ (adapter.run device action state answers).2.asked, op.effect = false) ∧
        (adapter.run device action state answers).2.state = state ∧
        (adapter.run device action state answers).1.1.changed = false) ∧
      ∀ (engine : Engine) (clock : Time) (config : Config) (world : EngineWorld F),
        config.globalDryRun = true →
        (system F engine).Reaches SwitchOn (fresh F clock config) world →
        ∀ thread call device action answer before,
          (⟨thread, call, .execute device action, answer, before⟩ : EngineEntry F) ∈ world.trace →
            action.dryRun = true := by
  constructor
  · intro adapter device action state answers dry
    exact adapter.run_dry device dry state answers
  · intro engine clock config world start reached thread call device action answer before asked
    exact dry_of_switchOn start reached asked

end InfraObserver

namespace InfraObserver

open Interleaving (World Machine)

attribute [local instance] Platform.plain GoFloat.integer Wire.plain

/-- A rehearsal of a bounced interface. -/
def bounceRehearsal : Action where
  type := "bounce_interface"
  target := "eth1"
  params := ∅
  dryRun := true
  requestID := "r1"
  correlationID := "c1"

/-- Nobody fails, and every port is up. -/
def agreeable : Answers
  | _, .readInterface _ name => .ok ⟨"1", name, "up", "up"⟩
  | _, .readClients _ => .ok 0
  | _, .readHost _ => .ok ⟨"", 0, [], ""⟩
  | _, .command .. => none
  | _, .record _ => none
  | _, .invoke .. => .ok ""
  | _, .resolve _ => .ok ∅
  | _, .send _ => some 200
  | _, .now => (0 : ℤ)
  | _, .swapDescription .. => ""
  | _, .readConfig _ => ""
  | _, .writeConfig .. => ()

/-- The configuration of the switch with the global switch on. -/
def rehearsalConfig : Config :=
  { bounceConfig false with globalDryRun := true }

/-- The rehearsal reads the port and nothing else, and the engine asks for a dry
run. -/
theorem bounce_rehearsed :
    let rehearsed := (DeviceAdapter.switch true).run managedSwitch bounceRehearsal ⟨∅, ∅⟩ agreeable
    let world := (system ℤ plainEngine).run (fresh ℤ 10 rehearsalConfig)
      (switchGoesDown ++ .start .tick :: steps 1 15)
    (rehearsed.2.asked = [.readInterface managedSwitch "eth1"] ∧
      (∀ op ∈ rehearsed.2.asked, op.effect = false) ∧ rehearsed.2.state = ⟨∅, ∅⟩ ∧
      rehearsed.1.1.changed = false) ∧
    ∃ thread call device action answer before,
      (⟨thread, call, .execute device action, answer, before⟩ : EngineEntry ℤ) ∈ world.trace ∧
        action.dryRun = true := by
  intro rehearsed world
  have acted : executedIn bounceID world.trace = true := by decide +kernel
  have permits : (system ℤ plainEngine).Permits SwitchOn (fresh ℤ 10 rehearsalConfig)
      (switchGoesDown ++ .start .tick :: steps 1 15) := by decide +kernel
  obtain ⟨thread, call, device, action, answer, before, member, _⟩ := executedIn_iff.mp acted
  obtain ⟨adapters, engines⟩ := dry_run_changes_nothing (F := ℤ)
  exact ⟨⟨by decide +kernel, adapters (.switch true) managedSwitch bounceRehearsal
      ⟨∅, ∅⟩ agreeable rfl⟩,
    thread, call, device, action, answer, before, member,
    engines plainEngine 10 rehearsalConfig world rfl
      (Machine.reaches_run _ permits) thread call device action answer before member⟩

end InfraObserver
