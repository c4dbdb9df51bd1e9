import InfraObserver.Automation.DryRun

/-!
# What a result says about the state before

Automation does not roll back; the result of an action records the state of the
interface before it, so that an operator can. `execute` takes the details of the
result from the adapter, and an adapter that fails returns none: a bounce whose
second command is refused leaves the port down and no record of how it was.
-/

namespace InfraObserver

/-! ## Executing with an adapter -/

section Execution

variable [Platform]

/-- `execute` at work: what the adapter stores and has asked of others, and the
results that were handed to the store. -/
structure Execution where
  adapter : AdapterRun
  recorded : List AutomationResult
  count : ℕ

namespace Execution

/-- Before anything was asked. -/
def start (state : AdapterState) : Execution :=
  ⟨⟨state, []⟩, [], 0⟩

variable (adapters : AdapterSet) (answers : Answers) (others : ℕ → (op : EngineOp) → EngineRes op)

/-- Answer a request of the engine: adapters are found and run, and everybody else
answers arbitrarily. -/
def respond [Wire] :
    (op : EngineOp) → Execution → EngineRes op × Execution
  | .adapterFor device action, execution =>
      ((adapters.adapterFor device action).map fun _ => (), execution)
  | .execute device action, execution =>
      match adapters.adapterFor device action.type with
      | .error failure => ((⟨"", ∅, false⟩, some failure), execution)
      | .ok adapter =>
          let (answer, after) := adapter.run device action execution.adapter.state answers
          (answer, { execution with adapter := after })
  | .store (.completeAutomation result message), execution =>
      (others execution.count (.store (.completeAutomation result message)),
        { execution with
          recorded := execution.recorded ++ [result]
          count := execution.count + 1 })
  | op, execution =>
      (others execution.count op, { execution with count := execution.count + 1 })

/-- Execute a live action. -/
def live [Wire]
    (config : Config)
    (request : AutomationRequest)
    (device : Device)
    (state : AdapterState) : Execution :=
  ((Engine.execute config request device false).exec (respond adapters answers others)
    (start state)).2

end Execution

end Execution

/-! ## Commands to the controller -/

/-- The arguments of a command about an interface. -/
abbrev interfaceArgs (target : String) : StringMap String :=
  detail [("interface", target)]

/-- The command that switches a port off. -/
abbrev adminDown (device : Device) (target : String) : AdapterOp :=
  .command device.id "interface-admin-down" (interfaceArgs target)

/-- The command that switches a port on. -/
abbrev adminUp (device : Device) (target : String) : AdapterOp :=
  .command device.id "interface-admin-up" (interfaceArgs target)

/-- The event of a command that the controller carried out. -/
def Answers.carriedOut (answers : Answers) (position : ℕ) : AdapterOp → Option String
  | .command device event args =>
      if (answers position (.command device event args) : Option Error) = none then some event
      else none
  | _ => none

/-- The commands that the controller carried out, oldest first. -/
def AdapterRun.carriedOut (run : AdapterRun) (answers : Answers) : List String :=
  run.asked.zipIdx.filterMap fun entry => answers.carriedOut entry.2 entry.1

/-- The administrative status after a command. -/
def adminAfter (admin event : String) : String :=
  if event = "interface-admin-down" then "down"
  else if event = "interface-admin-up" then "up"
  else admin

/-- The actions on an interface that change it. -/
def interfaceActions : List String :=
  ["disable_interface", "enable_interface", "bounce_interface", "set_interface_description"]

/-- The details tell how the interface was. -/
def RecordsState (details : StringMap String) (prior : InterfaceState) : Prop :=
  details.lookup "before_admin" = some prior.admin ∧ details.lookup "before_oper" = some prior.oper

instance (details : StringMap String) (prior : InterfaceState) :
    Decidable (RecordsState details prior) :=
  inferInstanceAs (Decidable (_ ∧ _))

/-! ## Switches -/

section Run

variable {device : Device} {action : Action} {answers : Answers}
variable {state : AdapterState} {prior : InterfaceState}

/-- The details of a result of `mutate`. -/
def priorDetails (target : String) (prior : InterfaceState) : StringMap String :=
  detail [("interface", target), ("before_oper", prior.oper), ("before_admin", prior.admin)]

theorem recordsState_insert
    {details : StringMap String}
    {name value : String}
    (admin : "before_admin" ≠ name)
    (oper : "before_oper" ≠ name) :
    RecordsState (details.insert name value) prior ↔ RecordsState details prior := by
  rw [RecordsState, Finmap.lookup_insert_of_ne _ admin, Finmap.lookup_insert_of_ne _ oper]
  rfl

theorem recordsState_priorDetails (target : String) (shown prior : InterfaceState) :
    RecordsState (priorDetails target shown) prior ↔
      shown.admin = prior.admin ∧ shown.oper = prior.oper := by
  simp [RecordsState, priorDetails, detail]

theorem not_recordsState_empty (prior : InterfaceState) : ¬RecordsState ∅ prior := by
  simp [RecordsState]

/-- How the port looks to a switch: without a reader, nothing is known. -/
def shownState (reader : Bool) (target : String) (prior : InterfaceState) : InterfaceState :=
  if reader then prior else ⟨"", target, "unknown", "unknown"⟩

/-- What a switch asks before its first command. -/
def readings (reader : Bool) (device : Device) (target : String) : List AdapterOp :=
  if reader then [.readInterface device target] else []

theorem exec_interfaceState (reader : Bool) (iface : String) (state : AdapterState) :
    Prog.exec (AdapterRun.respond answers) (Switch.interfaceState reader device iface) ⟨state, []⟩ =
      (if reader then (answers 0 (.readInterface device iface) : Except Error InterfaceState)
        else .ok ⟨"", iface, "unknown", "unknown"⟩, ⟨state, readings reader device iface⟩) := by
  cases reader with
  | false => rfl
  | true =>
      have asked : Prog.exec (AdapterRun.respond answers)
          (AdapterM.ask (.readInterface device iface)) ⟨state, []⟩ =
          (.ok (answers 0 (.readInterface device iface)),
            ⟨state, [.readInterface device iface]⟩) := rfl
      rw [Switch.interfaceState, if_pos rfl, AdapterM.try_, Fallible.exec_bind, asked]
      simp only [if_true]
      generalize answers 0 (.readInterface device iface) = answer
      cases answer <;> rfl

theorem exec_command
    (event target : String)
    {run : AdapterRun}
    (position : ℕ)
    (asked : run.asked.length = position) :
    Prog.exec (AdapterRun.respond answers)
        (AdapterM.check (AdapterM.ask (.command device.id event (interfaceArgs target)))) run =
      ((match (answers position (.command device.id event (interfaceArgs target)) :
          Option Error) with
        | some failure => .error failure
        | none => .ok ()),
        { run with asked := run.asked ++ [.command device.id event (interfaceArgs target)] }) := by
  have answered : Prog.exec (AdapterRun.respond answers)
      (AdapterM.ask (.command device.id event (interfaceArgs target))) run =
      (.ok (answers run.asked.length (.command device.id event (interfaceArgs target))),
        { run with asked := run.asked ++ [.command device.id event (interfaceArgs target)] }) := rfl
  rw [AdapterM.check, Fallible.exec_bind, answered, asked]
  generalize answers position (.command device.id event (interfaceArgs target)) = answer
  cases answer <;> rfl

theorem carriedOut_command
    (state : AdapterState)
    (asked : List AdapterOp)
    (device event : String)
    (args : StringMap String) :
    AdapterRun.carriedOut ⟨state, asked ++ [.command device event args]⟩ answers =
      AdapterRun.carriedOut ⟨state, asked⟩ answers ++
        if (answers asked.length (.command device event args) : Option Error) = none then [event]
        else [] := by
  simp only [AdapterRun.carriedOut, List.zipIdx_append, List.filterMap_append]
  by_cases done : (answers asked.length (.command device event args) : Option Error) = none <;>
    simp [Answers.carriedOut, done]

theorem carriedOut_readings (reader : Bool) (target : String) :
    AdapterRun.carriedOut ⟨state, readings reader device target⟩ answers = [] := by
  cases reader <;> rfl

theorem carriedOut_single {reader : Bool} (event target : String) :
    AdapterRun.carriedOut ⟨state, readings reader device target ++
        [.command device.id event (interfaceArgs target)]⟩ answers =
      if (answers (readings reader device target).length
        (.command device.id event (interfaceArgs target)) : Option Error) = none
      then [event] else [] := by
  rw [carriedOut_command, carriedOut_readings, List.nil_append]

section

variable (reader : Bool) (device : Device) (action : Action) (answers : Answers)

/-- The first command of a live action is carried out; the port can be read, if the
switch has a reader. -/
def Commanded : Prop :=
  (reader = true → ∃ found, answers 0 (.readInterface device action.target) = .ok found) ∧
    (if action.type = "set_interface_description" then False
    else if action.type = "enable_interface" then
      (answers (readings reader device action.target).length (adminUp device action.target) :
        Option Error) = none
    else
      (answers (readings reader device action.target).length (adminDown device action.target) :
        Option Error) = none)

/-- The second command of a bounce is refused. -/
def Halved : Prop :=
  action.type = "bounce_interface" ∧
    (answers ((readings reader device action.target).length + 1) (adminUp device action.target) :
      Option Error) ≠ none

end

/-- How a live action on an interface ends: without a command that was carried
out, with the state that was read in its details, or as a bounce whose second command
was refused. -/
inductive Ended
    (reader : Bool)
    (device : Device)
    (action : Action)
    (answers : Answers)
    (prior : InterfaceState)
    (outcome : (ActionResult × Option Error) × AdapterRun) : Prop
  | untouched (nothing : outcome.2.carriedOut answers = [])
      (idle : ¬Commanded reader device action answers)
  | told (some : outcome.2.carriedOut answers ≠ [])
      (details : outcome.1.1.details =
        priorDetails action.target (shownState reader action.target prior))
      (commanded : Commanded reader device action answers)
      (whole : ¬Halved reader device action answers)
      (switched : action.type = "bounce_interface" →
        outcome.2.carriedOut answers = ["interface-admin-down", "interface-admin-up"])
  | halfway (some : outcome.2.carriedOut answers ≠ [])
      (details : outcome.1.1.details = ∅)
      (commanded : Commanded reader device action answers)
      (half : Halved reader device action answers)
      (asked : outcome.2.asked = readings reader device action.target ++
        [adminDown device action.target] ++ [adminUp device action.target])

/-- The first command of an action decides whether the switch was touched. -/
theorem first_ended
    {reader : Bool}
    (event : String)
    {next : Unit → AdapterM ActionResult}
    (first : Commanded reader device action answers ↔
      (answers (readings reader device action.target).length
        (.command device.id event (interfaceArgs action.target)) : Option Error) = none)
    (later : Commanded reader device action answers →
      (answers (readings reader device action.target).length
        (.command device.id event (interfaceArgs action.target)) : Option Error) = none →
      let outcome := Prog.exec (AdapterRun.respond answers) (next ())
        ⟨state, readings reader device action.target ++
          [.command device.id event (interfaceArgs action.target)]⟩
      Ended reader device action answers prior (ActionResult.returned outcome.1, outcome.2)) :
    let outcome := Prog.exec (AdapterRun.respond answers)
      (AdapterM.check (AdapterM.ask (.command device.id event (interfaceArgs action.target))) >>=
        next : AdapterM ActionResult) ⟨state, readings reader device action.target⟩
    Ended reader device action answers prior (ActionResult.returned outcome.1, outcome.2) := by
  rw [Fallible.exec_bind, exec_command _ _ _ rfl]
  cases answered : (answers (readings reader device action.target).length
      (.command device.id event (interfaceArgs action.target)) : Option Error) with
  | some failure =>
      rw [answered] at first
      exact .untouched (by simp [carriedOut_single, answered]) (by simp [first])
  | none => exact later (first.mpr answered) answered

variable [Platform] [Wire]

theorem switch_ended
    (reader : Bool)
    (live : action.dryRun = false)
    (interface : action.type ∈ interfaceActions)
    (read : ∀ found, answers 0 (.readInterface device action.target) = .ok found → found = prior) :
    Ended reader device action answers prior
      ((DeviceAdapter.switch reader).run device action state answers) := by
  have executed : (DeviceAdapter.switch reader).execute device action =
      Switch.mutate reader device action := by
    simp only [interfaceActions, List.mem_cons, List.not_mem_nil, or_false] at interface
    unfold DeviceAdapter.execute Switch.execute
    rcases interface with type | type | type | type <;> rw [type] <;> rfl
  rw [DeviceAdapter.run, executed, Switch.mutate, Fallible.exec_bind, exec_interfaceState]
  cases shown : (if reader then (answers 0 (.readInterface device action.target) :
      Except Error InterfaceState) else .ok ⟨"", action.target, "unknown", "unknown"⟩) with
  | error failure =>
      refine .untouched (carriedOut_readings reader action.target) fun commanded => ?_
      cases reader with
      | false => cases shown
      | true =>
          obtain ⟨found, readable⟩ := commanded.1 rfl
          rw [if_pos rfl, readable] at shown
          cases shown
  | ok before =>
      have same : before = shownState reader action.target prior := by
        cases reader with
        | false => exact (Except.ok.inj shown).symm
        | true => exact read before shown
      have readable : reader = true →
          ∃ found, answers 0 (.readInterface device action.target) = .ok found := by
        rintro rfl
        exact ⟨before, shown⟩
      subst same
      simp only [live, Bool.false_eq_true, if_false]
      simp only [interfaceActions, List.mem_cons, List.not_mem_nil, or_false] at interface
      rcases interface with type | type | type | type <;> simp only [type]
      · refine first_ended _ (by simpa [Commanded, type] using fun _ => readable) ?_
        exact fun commanded down => .told ((carriedOut_single _ _).trans_ne (by simp [down])) rfl
          commanded (fun half => by simp [Halved, type] at half) (by simp [type])
      · refine first_ended _ (by simpa [Commanded, type] using fun _ => readable) ?_
        exact fun commanded up => .told ((carriedOut_single _ _).trans_ne (by simp [up])) rfl
          commanded (fun half => by simp [Halved, type] at half) (by simp [type])
      · refine first_ended _ (by simpa [Commanded, type] using fun _ => readable) ?_
        intro commanded down
        have both : AdapterRun.carriedOut ⟨state, readings reader device action.target ++
            [adminDown device action.target] ++ [adminUp device action.target]⟩ answers =
              "interface-admin-down" ::
                if (answers ((readings reader device action.target).length + 1)
                  (adminUp device action.target) : Option Error) = none
                then ["interface-admin-up"] else [] := by
          rw [carriedOut_command, carriedOut_single, if_pos down, List.length_append]
          rfl
        rw [Fallible.exec_bind, exec_command _ _ _ rfl, List.length_append]
        cases up : (answers ((readings reader device action.target).length + 1)
            (adminUp device action.target) : Option Error) with
        | some failure =>
            refine .halfway (both.trans_ne (by simp)) ?_ commanded ⟨type, by simp [up]⟩ ?_
            · simp [ActionResult.returned]
            · simp
        | none =>
            refine .told (both.trans_ne (by simp)) ?_ commanded (fun half => half.2 up) fun _ => ?_
            · simp
              rfl
            · exact both.trans (by rw [if_pos up])
      · refine .untouched (carriedOut_readings reader action.target) fun commanded => ?_
        simp [Commanded, type] at commanded

theorem other_ended
    {adapter : DeviceAdapter}
    (other : ∀ reader, adapter ≠ .switch reader)
    (interface : action.type ∈ interfaceActions) :
    (adapter.run device action state answers).2.carriedOut answers = [] := by
  have refused : ∃ failure, adapter.execute device action = throw failure := by
    simp only [interfaceActions, List.mem_cons, List.not_mem_nil, or_false] at interface
    cases adapter with
    | switch reader => exact absurd rfl (other reader)
    | accessPoint reader =>
        unfold DeviceAdapter.execute AccessPoint.execute
        rcases interface with type | type | type | type <;> rw [type] <;> exact ⟨_, rfl⟩
    | host reader tasks =>
        unfold DeviceAdapter.execute Host.execute
        rcases interface with type | type | type | type <;> rw [type] <;> exact ⟨_, rfl⟩
    | generic settings =>
        unfold DeviceAdapter.execute Generic.execute
        rcases interface with type | type | type | type <;> rw [type] <;> exact ⟨_, rfl⟩
  obtain ⟨failure, thrown⟩ := refused
  rw [DeviceAdapter.run, thrown]
  rfl

end Run

/-! ## Results -/

section Results

variable [Platform] [Wire] {adapters : AdapterSet} {answers : Answers}
variable {others : ℕ → (op : EngineOp) → EngineRes op}

theorem exec_finishErr (result : AutomationResult) (execution : Execution) :
    let after := ((Engine.finishErr result).exec (Execution.respond adapters answers others)
      execution).2
    after.adapter = execution.adapter ∧
      (execution.recorded = [] → ∀ other ∈ after.recorded, other = result) := by
  intro after
  simp only [after, Engine.finishErr, Engine.finish]
  cases resultMessage result with
  | error failure =>
      refine ⟨rfl, fun empty other listed => ?_⟩
      have unrecorded : other ∈ execution.recorded := listed
      rw [empty] at unrecorded
      cases unrecorded
  | ok message =>
      rw [Prog.exec_bind]
      have answered : (EngineM.store (.completeAutomation result message)).exec
          (Execution.respond adapters answers others) execution =
            (others execution.count (.store (.completeAutomation result message)),
              { execution with
                recorded := execution.recorded ++ [result]
                count := execution.count + 1 }) := rfl
      rw [answered]
      cases others execution.count (.store (.completeAutomation result message)) <;>
        exact ⟨rfl, fun empty other listed => by simpa [Prog.exec, pure, empty] using listed⟩

/-- The action that `execute` hands to the adapter. -/
def liveAction (request : AutomationRequest) : Action where
  type := request.action
  target := request.target
  params := request.params
  dryRun := false
  requestID := request.requestID
  correlationID := request.correlationID

theorem live_cases
    (adapters : AdapterSet)
    (answers : Answers)
    (others : ℕ → (op : EngineOp) → EngineRes op)
    (config : Config)
    (request : AutomationRequest)
    (device : Device)
    (state : AdapterState) :
    let execution := Execution.live adapters answers others config request device state
    (execution.adapter = ⟨state, []⟩ ∧
        ∃ failure, adapters.adapterFor device request.action = .error failure) ∨
      ∃ adapter, adapters.adapterFor device request.action = .ok adapter ∧
        execution.adapter = (adapter.run device (liveAction request) state answers).2 ∧
        ∀ result ∈ execution.recorded, ∃ name value, name ∈ ["error_category", "changed"] ∧
          result.details = Engine.withDetail
            (adapter.run device (liveAction request) state answers).1.1 name value := by
  intro execution
  have now : ∀ execution : Execution, EngineM.now.exec (Execution.respond adapters answers others)
      execution = (others execution.count .now, { execution with count := execution.count + 1 }) :=
    fun _ => rfl
  have searched : ∀ execution : Execution, (EngineM.adapterFor device request.action).exec
      (Execution.respond adapters answers others) execution =
        ((adapters.adapterFor device request.action).map fun _ => (), execution) := fun _ => rfl
  simp only [execution, Execution.live, Engine.execute, Prog.exec_bind, now, searched]
  cases found : adapters.adapterFor device request.action with
  | error failure =>
      left
      simp only [Except.map, Prog.exec_bind, now]
      exact ⟨(exec_finishErr _ _).1, failure, rfl⟩
  | ok adapter =>
      right
      have ran : ∀ execution : Execution, execution.adapter.state = state →
          (EngineM.executeBy device (liveAction request)).exec
            (Execution.respond adapters answers others) execution =
          ((adapter.run device (liveAction request) state answers).1,
            { execution with
              adapter := (adapter.run device (liveAction request) state answers).2 }) := by
        rintro execution rfl
        change Execution.respond adapters answers others
          (.execute device (liveAction request)) _ = _
        simp only [Execution.respond, liveAction, found]
      refine ⟨adapter, rfl, ?_⟩
      simp only [Except.map, Prog.exec_bind, now]
      rw [show (⟨request.action, request.target, request.params, false, request.requestID,
        request.correlationID⟩ : Action) = liveAction request from rfl, ran _ rfl]
      generalize adapter.run device (liveAction request) state answers = outcome
      obtain ⟨⟨result, failure⟩, after⟩ := outcome
      cases failure with
      | some failure =>
          refine ⟨(exec_finishErr _ _).1, fun other listed => ?_⟩
          rw [(exec_finishErr _ _).2 rfl other listed]
          exact ⟨_, _, by simp, rfl⟩
      | none =>
          refine ⟨(exec_finishErr _ _).1, fun other listed => ?_⟩
          rw [(exec_finishErr _ _).2 rfl other listed]
          exact ⟨_, _, by simp, rfl⟩

omit [Platform] [Wire] in
theorem adapterFor_eq_ok
    {device : Device}
    {action : String}
    (interface : action ∈ interfaceActions)
    (adapter : DeviceAdapter) :
    adapters.adapterFor device action = .ok adapter ↔
      adapters.byType device.deviceType = some adapter := by
  have specific : AdapterSet.genericActions.contains action = false := by
    simp only [interfaceActions, List.mem_cons, List.not_mem_nil, or_false] at interface
    rcases interface with rfl | rfl | rfl | rfl <;> decide
  rw [AdapterSet.adapterFor, specific, if_neg Bool.false_ne_true]
  cases adapters.byType device.deviceType <;> simp

/-- A change of which a result does not tell how the port was: the first command is
carried out, and the second command of a bounce is refused, or the switch has no reader
and the port is in a known state. -/
def Untold
    (adapters : AdapterSet)
    (answers : Answers)
    (request : AutomationRequest)
    (device : Device)
    (prior : InterfaceState) : Prop :=
  ∃ reader, adapters.byType device.deviceType = some (.switch reader) ∧
    Commanded reader device (liveAction request) answers ∧
    (Halved reader device (liveAction request) answers ∨
      reader = false ∧ ¬(prior.admin = "unknown" ∧ prior.oper = "unknown"))

/-- A live action on an interface carries no command out, or its results tell how the
port was unless the change is untold. -/
theorem live_told
    (config : Config)
    (request : AutomationRequest)
    (device : Device)
    (state : AdapterState)
    (prior : InterfaceState)
    (interface : request.action ∈ interfaceActions)
    (read : ∀ found, answers 0 (.readInterface device request.target) = .ok found →
      found = prior) :
    let execution := Execution.live adapters answers others config request device state
    (execution.adapter.carriedOut answers = [] ∧ ¬Untold adapters answers request device prior) ∨
      execution.adapter.carriedOut answers ≠ [] ∧
      (∀ result ∈ execution.recorded, (RecordsState result.details prior ↔
        ¬Untold adapters answers request device prior)) ∧
      (request.action = "bounce_interface" → prior.admin = "up" →
        (execution.adapter.carriedOut answers).foldl adminAfter prior.admin = "down" →
        ∃ position, execution.adapter.asked[position]? = some (adminUp device request.target) ∧
          (answers position (adminUp device request.target) : Option Error) ≠ none) := by
  intro execution
  rcases live_cases adapters answers others config request device state with
    ⟨untouched, failure, missing⟩ | ⟨adapter, found, ran, recorded⟩
  · refine .inl ⟨by rw [show execution.adapter = _ from untouched]; rfl, ?_⟩
    rintro ⟨reader, known, -⟩
    rw [(adapterFor_eq_ok interface _).mpr known] at missing
    cases missing
  rw [adapterFor_eq_ok interface] at found
  have ran : execution.adapter = (adapter.run device (liveAction request) state answers).2 := ran
  have kept : ∀ result ∈ execution.recorded, (RecordsState result.details prior ↔
      RecordsState (adapter.run device (liveAction request) state answers).1.1.details prior) := by
    intro result listed
    obtain ⟨name, value, named, details⟩ := recorded result listed
    rw [details, Engine.withDetail]
    refine recordsState_insert ?_ ?_ <;>
      · rintro rfl
        exact absurd named (by decide)
  by_cases switch : ∃ reader, adapter = .switch reader
  · obtain ⟨reader, rfl⟩ := switch
    have untold : Untold adapters answers request device prior ↔
        Commanded reader device (liveAction request) answers ∧
          (Halved reader device (liveAction request) answers ∨
            reader = false ∧ ¬(prior.admin = "unknown" ∧ prior.oper = "unknown")) := by
      simp [Untold, found]
    have ended : Ended reader device (liveAction request) answers prior
        ((DeviceAdapter.switch reader).run device (liveAction request) state answers) :=
      switch_ended reader rfl interface read
    cases ended with
    | untouched nothing uncommanded =>
        exact .inl ⟨ran ▸ nothing, fun isUntold => uncommanded (untold.mp isUntold).1⟩
    | told some details commanded whole switched =>
        refine .inr ⟨ran ▸ some, fun result listed => ?_, fun bounce up down => ?_⟩
        · rw [kept result listed, details, recordsState_priorDetails, untold]
          cases reader <;> simp [shownState, commanded, whole, eq_comm]
        · rw [ran, switched bounce, up] at down
          exact absurd down (by decide)
    | halfway some details commanded half asked =>
        refine .inr ⟨ran ▸ some, fun result listed => ?_, fun _ _ _ => ⟨_, ?_, half.2⟩⟩
        · rw [kept result listed, details, untold]
          exact iff_of_false (not_recordsState_empty prior)
            fun clear => clear ⟨commanded, .inl half⟩
        · rw [ran, asked]
          simp [liveAction]
  · refine .inl ⟨ran ▸ other_ended (not_exists.mp switch) interface, ?_⟩
    rintro ⟨reader, known, -⟩
    exact switch ⟨reader, Option.some.inj (found.symm.trans known)⟩

/-- The results of a live action on an interface tell how the port was, once a command
was carried out, exactly unless the change is untold and has a result; and a bounce
leaves a port down only if it was refused to switch it on. -/
theorem change_reversible
    (adapters : AdapterSet)
    (answers : Answers)
    (others : ℕ → (op : EngineOp) → EngineRes op)
    (config : Config)
    (request : AutomationRequest)
    (device : Device)
    (state : AdapterState)
    (prior : InterfaceState)
    (interface : request.action ∈ interfaceActions)
    (read : ∀ found, answers 0 (.readInterface device request.target) = .ok found →
      found = prior) :
    let execution := Execution.live adapters answers others config request device state
    ((execution.adapter.carriedOut answers ≠ [] →
        ∀ result ∈ execution.recorded, RecordsState result.details prior) ↔
      (execution.recorded ≠ [] → ¬Untold adapters answers request device prior)) ∧
      (request.action = "bounce_interface" → prior.admin = "up" →
        (execution.adapter.carriedOut answers).foldl adminAfter prior.admin = "down" →
        ∃ position, execution.adapter.asked[position]? = some (adminUp device request.target) ∧
          (answers position (adminUp device request.target) : Option Error) ≠ none) := by
  intro execution
  rcases live_told config request device state prior interface read with
    ⟨nothing, clear⟩ | ⟨some, kept, lowered⟩
  · -- Where no command was carried out, there is nothing to tell.
    refine ⟨iff_of_true (fun some => absurd nothing some) fun _ => clear, fun _ up down => ?_⟩
    rw [nothing, List.foldl_nil, up] at down
    exact absurd down (by decide)
  · refine ⟨⟨fun records filled => ?_, fun clear _ result listed => ?_⟩, lowered⟩
    · obtain ⟨result, listed⟩ := List.exists_mem_of_ne_nil _ filled
      exact (kept result listed).mp (records some result listed)
    · exact (kept result listed).mpr (clear (List.ne_nil_of_mem listed))

end Results

end InfraObserver

/-! ## A port that stays down -/

namespace InfraObserver.Rollback

attribute [local instance] Platform.plain GoFloat.integer Wire.plain

/-- A live request to bounce a port. -/
def bounce : AutomationRequest where
  requestID := "r1"
  correlationID := "c1"
  policyID := "bounce"
  eventID := "e1"
  alertKey := ""
  deviceID := managedSwitch.id
  action := "bounce_interface"
  target := "eth1"
  params := ∅
  reason := ""
  proposer := "policy"
  dryRun := false
  status := .executing
  notBefore := 0
  createdAt := 0
  approvedBy := ""

/-- The port before, as `agreeable` reports it. -/
def port : InterfaceState := ⟨"1", "eth1", "up", "up"⟩

/-- A clock that stands still and a store that takes every result. -/
def others : ℕ → (op : EngineOp) → EngineRes op
  | _, .now => (0 : ℤ)
  | _, .config => bounceConfig false
  | _, .propose .. => .ok none
  | _, .store (.completeAutomation ..) => .ok true
  | _, .store _ => .error (.errorf .transient "not asked")
  | _, .range params => params.sortedVisit
  | _, .adapterFor .. => .ok ()
  | _, .execute .. => (⟨"", ∅, false⟩, none)

/-- The standard adapters, with a reader. -/
def adapters : AdapterSet := .newSet true none

/-- With a controller that obeys, the result tells how the port was. -/
theorem bounce_on_record :
    let execution := Execution.live adapters agreeable others (bounceConfig false) bounce
      managedSwitch ⟨∅, ∅⟩
    execution.adapter.carriedOut agreeable = ["interface-admin-down", "interface-admin-up"] ∧
      execution.recorded.length = 1 ∧
      ∀ result ∈ execution.recorded, RecordsState result.details port := by
  intro execution
  have done : execution.adapter.carriedOut agreeable =
      ["interface-admin-down", "interface-admin-up"] := by decide +kernel
  refine ⟨done, by decide +kernel, ?_⟩
  refine (change_reversible adapters agreeable others (bounceConfig false) bounce
    managedSwitch ⟨∅, ∅⟩ port (by decide) ?_).1.mpr (fun _ => ?_) (by rw [done]; simp)
  · rintro found ⟨⟩
    rfl
  · rintro ⟨reader, ⟨⟩, -, half | ⟨⟨⟩, -⟩⟩
    exact half.2 rfl

/-- A controller that refuses the third request, which is the command to switch
the port on. -/
def refusing : Answers := fun position op =>
  match op with
  | .command device event args =>
      if position = 2 then some (.errorf .transient "no answer")
      else agreeable position (.command device event args)
  | op => agreeable position op

/-- The port is left down, and the recorded failure does not tell how it was. -/
theorem halfway_bounce_untold :
    let execution := Execution.live adapters refusing others (bounceConfig false) bounce
      managedSwitch ⟨∅, ∅⟩
    refusing 0 (.readInterface managedSwitch "eth1") = .ok port ∧
      execution.adapter.carriedOut refusing = ["interface-admin-down"] ∧
      (execution.recorded.map fun result => (result.status, result.details.lookup "before_admin",
        result.details.lookup "before_oper")) = [(.failed, none, none)] := by
  decide +kernel

end InfraObserver.Rollback
