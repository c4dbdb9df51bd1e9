import InfraObserver.Automation.Account
import InfraObserver.Automation.Gates

/-!
# Redelivered events

The bus delivers an event again when its handling failed. A delivery that fails
has done the first part of the work, and a later one skips what it finds done.
Requests, results and notifications end up as after one delivery without a
failure, as long as no denial is lost: a request that is stored before its denial
could be recorded is taken for done. The text of a denial names the first wrong
parameter in the order in which the delivery goes through them.
-/

namespace InfraObserver

/-! ## Deliveries -/

/-- What one delivery meets: the clock readings, the orders in which it goes through
maps and the calls of the store that fail, all by the position of the request. -/
structure Delivery where
  clock : ℕ → Time
  visit : ℕ → (params : StringMap String) → params.Visit
  faults : ℕ → AutomationOp → Option Error

namespace Delivery

/-- No call of the store fails. -/
def Undisturbed (delivery : Delivery) : Prop :=
  ∀ position op, delivery.faults position op = none

/-- No outcome is lost. -/
def KeepsOutcomes (delivery : Delivery) : Prop :=
  ∀ position result message,
    delivery.faults position (.completeAutomation result message) = none

/-- The orders in which the delivery goes through a map. -/
def Meets (delivery : Delivery) (params : StringMap String) (visit : params.Visit) : Prop :=
  ∃ position, delivery.visit position params = visit

end Delivery

/-- What all deliveries of an event share: the configuration and a proposer that
answers the same question in the same way. -/
structure Surroundings [Platform] where
  config : Config
  proposer : Policy → Event → Device → Except Error (Option Proposal)

namespace Surroundings

variable {F : Type} [Platform] (surroundings : Surroundings)

/-- The answers that a delivery gets; the state counts the calls made so far.
`HandleEvent` never asks for an adapter. -/
def respond (delivery : Delivery) :
    (op : EngineOp) → MemStore F × ℕ → EngineRes op × (MemStore F × ℕ)
  | .now, (store, position) => (delivery.clock position, store, position + 1)
  | .config, (store, position) => (surroundings.config, store, position + 1)
  | .propose policy event device, (store, position) =>
      (surroundings.proposer policy event device, store, position + 1)
  | .store op, (store, position) =>
      match delivery.faults position op with
      | some failure => (.error failure, store, position + 1)
      | none => ((op.perform store).1, (op.perform store).2, position + 1)
  | .range params, (store, position) => (delivery.visit position params, store, position + 1)
  | .adapterFor .., (store, position) => (.ok (), store, position + 1)
  | .execute .., (store, position) => ((⟨"", ∅, false⟩, none), store, position + 1)

/-- The store after a delivery of an event. -/
def deliver
    (event : Event)
    (store : MemStore F)
    (delivery : Delivery) : MemStore F :=
  ((Engine.handleEvent event).exec (surroundings.respond delivery) (store, 0)).2.1

/-! ## What a policy asks for -/

/-- What is proposed for a policy. -/
def proposed (event : Event) (device : Device) (policy : Policy) :
    Except Error (Option Proposal) :=
  match policy.action with
  | some action =>
      .ok (some
        { action := action.type
          target := expand action.target event
          params := Engine.expandParams action.params event
          reason := "policy " ++ policy.id ++ " reacting to " ++ event.type })
  | none =>
      if !surroundings.config.hasProposer then
        .error (Error.errorf .unsupported
          ("policy " ++ policy.id ++ " needs a script proposer but none is configured"))
      else surroundings.proposer policy event device

variable (visits : (params : StringMap String) → params.Visit) (event : Event)

/-- Why a request is denied, if it is, when its parameters are gone through in the given
order. -/
def denialIn
    (policy : Policy)
    (device : Device) : Except Error Proposal → Option String
  | .error failure => some ("proposal failed: " ++ failure.text)
  | .ok proposal => Engine.rejection policy device proposal (visits proposal.params)

/-- The denial of a request, without its instants. -/
def denialOf (request : AutomationRequest) (text : String) :
    AutomationResult :=
  Engine.resultOf surroundings.config request .denied text (gateDetails "proposal") 0 0

/-- The request for a proposal without its instants, and its denial, if it is
denied. -/
def draft
    (device : Device)
    (policy : Policy)
    (answer : Except Error Proposal) : AutomationRequest × Option AutomationResult :=
  let request :=
    Engine.withProposal (Engine.blankRequest surroundings.config event device policy 0) answer
  match denialIn visits policy device answer with
  | none => (request, none)
  | some text =>
      (Engine.deniedRequest request 0,
        some (surroundings.denialOf (Engine.deniedRequest request 0) text))

/-- The plan for a proposal; a request that cannot be encoded ends the handling. -/
def submission
    (device : Device)
    (policy : Policy)
    (answer : Except Error Proposal) : Plan :=
  let (request, denied) := surroundings.draft visits event device policy answer
  match requestMessage request with
  | .error _ => .stuck
  | .ok _ => .submit request denied

/-- The plan for a policy. -/
def plan
    (device : Device)
    (policy : Policy) : Plan :=
  match surroundings.proposed event device policy with
  | .error failure =>
      if failure.isRetryable then .stuck
      else surroundings.submission visits event device policy (.error failure)
  | .ok none => .nothing
  | .ok (some proposal) => surroundings.submission visits event device policy (.ok proposal)

/-- The plans for an event. -/
def plans : List Plan :=
  if event.resolves || event.alertKey = "" then []
  else
    match surroundings.config.devices.get event.deviceID with
    | none => []
    | some device =>
        (surroundings.config.policies.matching event device).map
          (surroundings.plan visits event device)

/-- The orders in `seen` reject what is proposed for a policy with the same text as the
given order, if they reject it. -/
def SameText
    (seen : (params : StringMap String) → params.Visit → Prop)
    (event : Event)
    (device : Device)
    (policy : Policy) : Prop :=
  ∀ proposal, surroundings.proposed event device policy = .ok (some proposal) →
    ∀ visit, seen proposal.params visit →
      Engine.rejection policy device proposal visit =
        Engine.rejection policy device proposal (visits proposal.params)

/-- The same for every policy that an event triggers. -/
def SameTexts (seen : (params : StringMap String) → params.Visit → Prop) : Prop :=
  ∀ device, surroundings.config.devices.get event.deviceID = some device →
    ∀ policy ∈ surroundings.config.policies.matching event device,
      surroundings.SameText visits seen event device policy

theorem plans_sound : ∀ plan ∈ surroundings.plans visits event, plan.Sound := by
  have submitted : ∀ device policy answer,
      (surroundings.submission visits event device policy answer).Sound := by
    intro device policy answer
    unfold submission draft
    cases denialIn visits policy device answer with
    | none =>
        dsimp only
        split <;> trivial
    | some text =>
        dsimp only
        split
        · trivial
        · exact ⟨rfl, rfl⟩
  intro plan member
  unfold plans at member
  split_ifs at member
  · cases member
  · split at member
    · cases member
    · obtain ⟨policy, -, rfl⟩ := List.mem_map.mp member
      unfold Surroundings.plan
      split
      · split_ifs
        · trivial
        · exact submitted _ _ _
      · trivial
      · exact submitted _ _ _

/-! ## What one delivery does -/

/-- What a delivery can meet when only the operations in `faulty` fail and the orders are
those in `seen`. -/
def contract
    (faulty : AutomationOp → Prop)
    (seen : (params : StringMap String) → params.Visit → Prop) :
    Prog.Contract EngineOp EngineRes (MemStore F) where
  pre _ _ := True
  post store op answer after :=
    match op, answer with
    | .config, answer => answer = surroundings.config ∧ after = store
    | .propose policy event device, answer =>
        answer = surroundings.proposer policy event device ∧ after = store
    | .store op, answer =>
        (faulty op ∧ (∃ failure, answer = .error failure) ∧ after = store) ∨
          (answer = (op.perform store).1 ∧ after = (op.perform store).2)
    | .range params, answer => seen params answer ∧ after = store
    | _, _ => after = store

variable {surroundings visits event} {faulty : AutomationOp → Prop}
variable {seen : (params : StringMap String) → params.Visit → Prop}
variable {account : Account} {store : MemStore F}

/-- Encoding a result always succeeds, and whether a request can be encoded does
not depend on its instants. -/
structure Encodes : Prop where
  results : ∀ result : AutomationResult, ∃ payload, Platform.encodeResult result = .ok payload
  requests : ∀ left right : AutomationRequest, left.untimed = right.untimed →
    (∃ payload, Platform.encodeRequest left = .ok payload) →
      ∃ payload, Platform.encodeRequest right = .ok payload

variable {request : AutomationRequest}

theorem fits_file
    (fits : account.Fits store)
    {message : OutboxMessage}
    (encoded : requestMessage request = .ok message) :
    (account.file request.untimed).Fits (store.withRequest request message) := by
  obtain ⟨requests, results, order, notices, count⟩ := fits
  refine ⟨fun id => ?_, results, ?_, ?_, ?_⟩
  · simp only [Account.file, MemStore.withRequest, MemStore.enqueue, StringMap.lookup_insert_ite]
    by_cases same : id = request.requestID
    · subst same
      simp [AutomationRequest.untimed]
    · rw [if_neg same, Function.update_of_ne, requests]
      exact same
  · simp [Account.file, MemStore.withRequest, MemStore.enqueue, order, AutomationRequest.untimed]
  · refine List.rel_append notices ?_
    exact .cons ⟨request, message, rfl, encoded, by rw [count]⟩ .nil
  · simp [Account.file, MemStore.withRequest, MemStore.enqueue, count]

/-- A result is recorded for a request that already has its status. -/
theorem fits_settle
    (fits : account.Fits store)
    {result : AutomationResult}
    {message : OutboxMessage}
    (found : store.autoReq.lookup result.requestID = some request)
    (status : request.status = result.status)
    (unfinished : store.autoRes.lookup result.requestID = none)
    (encoded : resultMessage result = .ok message) :
    (account.settle result.untimed).Fits (store.withResult request result message) := by
  obtain ⟨requests, results, order, notices, count⟩ := fits
  have unsettled : ¬(account.results result.untimed.requestID).isSome = true := by
    rw [results, show result.untimed.requestID = result.requestID from rfl, unfinished]
    simp
  rw [Account.settle, if_neg unsettled]
  refine ⟨fun id => ?_, fun id => ?_, order, ?_, ?_⟩
  · simp only [MemStore.withResult, MemStore.enqueue, StringMap.lookup_insert_ite]
    rw [requests, ← status]
    split_ifs with same
    · rw [same, found]
    · rfl
  · simp only [MemStore.withResult, MemStore.enqueue, StringMap.lookup_insert_ite]
    by_cases same : id = result.requestID
    · subst same
      simp [AutomationResult.untimed]
    · rw [if_neg same, Function.update_of_ne, results]
      exact same
  · refine List.rel_append notices ?_
    exact .cons ⟨result, message, rfl, encoded, by rw [count]⟩ .nil
  · simp [MemStore.withResult, MemStore.enqueue, count]

/-- What a part of a delivery comes to: it ends the delivery without an effect, or
it carries out its plan. -/
def Carries (account : Account) (plan : Plan) (faulty : AutomationOp → Prop)
    (outcome : List AutomationRequest × Option Error) (after : MemStore F) : Prop :=
  (outcome.2.isSome = true ∧ account.Fits after ∧ (plan = .stuck ∨ ∃ op, faulty op)) ∨
    (outcome.2 = none ∧ plan ≠ .stuck ∧ (account.apply plan).Fits after)

theorem finishErr_carries
    (surroundings : Surroundings)
    (result : AutomationResult)
    (encodes : Encodes)
    (keeps : ∀ result message, ¬faulty (.completeAutomation result message))
    (fits : account.Fits store)
    (found : store.autoReq.lookup result.requestID = some request)
    (status : request.status = result.status) :
    (Engine.finishErr result).wp (surroundings.contract faulty seen)
      (fun failure after => failure = none ∧ (account.settle result.untimed).Fits after) store := by
  obtain ⟨payload, encoded⟩ := encodes.results result
  have message : ∃ message, resultMessage result = .ok message := by
    simp [resultMessage, encoded, Except.map]
  obtain ⟨message, made⟩ := message
  unfold Engine.finishErr Engine.finish
  rw [Prog.wp_bind, made]
  refine ⟨trivial, ?_⟩
  rintro answer after (⟨fault, _⟩ | ⟨rfl, rfl⟩)
  · exact absurd fault (keeps _ _)
  · simp only [AutomationOp.perform, MemStore.completeAutomation, found]
    cases settled : store.autoRes.lookup result.requestID with
    | some earlier =>
        have present : (account.results result.untimed.requestID).isSome = true := by
          rw [fits.results, show result.untimed.requestID = result.requestID from rfl, settled]
          rfl
        refine ⟨rfl, ?_⟩
        rw [Account.settle, if_pos present]
        exact fits
    | none => exact ⟨rfl, fits_settle fits found status settled made⟩

theorem submit_carries
    (encodes : Encodes)
    (keeps : ∀ result message, ¬faulty (.completeAutomation result message))
    (fits : account.Fits store)
    {denied : Option String}
    {message : OutboxMessage}
    (encoded : requestMessage request = .ok message)
    (status : denied.isSome = true → request.status = .denied) :
    (Engine.submit surroundings.config request denied).wp (surroundings.contract faulty seen)
      (Carries account (.submit request.untimed
        (denied.map (surroundings.denialOf request.untimed))) faulty) store := by
  unfold Engine.submit
  simp only [encoded]
  rw [Prog.wp_bind]
  refine ⟨trivial, ?_⟩
  rintro answer after (⟨fault, ⟨failure, rfl⟩, rfl⟩ | ⟨rfl, rfl⟩)
  · exact Or.inl ⟨rfl, fits, Or.inr ⟨_, fault⟩⟩
  have known : account.requests request.untimed.requestID =
      (store.autoReq.lookup request.requestID).map AutomationRequest.untimed := fits.requests _
  simp only [AutomationOp.perform, MemStore.insertAutomationRequest]
  cases stored : store.autoReq.lookup request.requestID with
  | some earlier =>
      refine Or.inr ⟨rfl, by simp, ?_⟩
      rw [Account.apply_of_done]
      · exact fits
      · simp [Account.Done, known, stored]
  | none =>
      have filed := fits_file fits encoded
      have missing : ¬(account.requests request.untimed.requestID).isSome = true := by
        simp [known, stored]
      cases denied with
      | none =>
          refine Or.inr ⟨rfl, by simp, ?_⟩
          simp only [Account.apply, if_neg missing]
          exact filed
      | some text =>
          have stored : (store.withRequest request message).autoReq.lookup request.requestID =
              some request := Finmap.lookup_insert _
          refine ⟨trivial, ?_⟩
          rintro started _ rfl
          refine ⟨trivial, ?_⟩
          rintro finished _ rfl
          let result := Engine.resultOf surroundings.config request .denied text
            (gateDetails "proposal") started finished
          change Prog.wp _ _
            (Engine.finishErr result >>= fun failure => pure ([request], failure)) _
          rw [Prog.wp_bind]
          refine Prog.wp_mono ?_
            (finishErr_carries surroundings result encodes keeps filed stored (status rfl))
          rintro failure after ⟨rfl, settled⟩
          refine Or.inr ⟨rfl, by simp, ?_⟩
          simp only [Account.apply, if_neg missing]
          exact settled

theorem Encodes.message
    (encodes : Encodes)
    {left right : AutomationRequest}
    (same : left.untimed = right.untimed)
    {message : OutboxMessage}
    (encoded : requestMessage left = .ok message) :
    ∃ message, requestMessage right = .ok message := by
  have readable : ∃ payload, Platform.encodeRequest left = .ok payload := by
    cases left : Platform.encodeRequest left with
    | ok payload => exact ⟨payload, rfl⟩
    | error failure => simp [requestMessage, left, Except.map] at encoded
  obtain ⟨payload, made⟩ := encodes.requests left right same readable
  simp [requestMessage, made, Except.map]

section

variable (encodes : Encodes)
  (keeps : ∀ result message, ¬faulty (.completeAutomation result message))
  (fits : account.Fits store)
include encodes keeps fits

theorem submit_planned
    (denied : Option String)
    {drafted : AutomationRequest}
    (same : request.untimed = drafted)
    (status : denied.isSome = true → request.status = .denied) :
    (Engine.submit surroundings.config request denied).wp (surroundings.contract faulty seen)
      (Carries account
        (match requestMessage drafted with
        | .error _ => .stuck
        | .ok _ => .submit drafted (denied.map (surroundings.denialOf drafted))) faulty)
      store := by
  have again : request.untimed = drafted.untimed := by
    rw [← same]
    simp only [AutomationRequest.untimed]
    split_ifs <;> rfl
  cases planned : requestMessage drafted with
  | ok message =>
      obtain ⟨message, encoded⟩ := encodes.message again.symm planned
      subst same
      exact submit_carries encodes keeps fits encoded status
  | error failure =>
      cases encoded : requestMessage request with
      | ok message =>
          obtain ⟨message, made⟩ := encodes.message again encoded
          rw [planned] at made
          cases made
      | error failure =>
          unfold Engine.submit
          simp only [encoded]
          exact Or.inl ⟨rfl, fits, Or.inl rfl⟩

theorem file_carries
    (event : Event)
    (device : Device)
    (policy : Policy)
    (answer : Except Error Proposal)
    (created : Time) :
    (Engine.file surroundings.config (Engine.withProposal
        (Engine.blankRequest surroundings.config event device policy created) answer)
      (denialIn visits policy device answer)).wp (surroundings.contract faulty seen)
      (Carries account (surroundings.submission visits event device policy answer) faulty)
      store := by
  unfold submission draft
  cases denialIn visits policy device answer with
  | none =>
      refine submit_planned encodes keeps fits none ?_ (fun denied => nomatch denied)
      cases answer <;> rfl
  | some text =>
      refine ⟨trivial, ?_⟩
      rintro now _ rfl
      refine submit_planned encodes keeps fits (some text) ?_ (fun _ => rfl)
      cases answer <;> rfl

theorem record_carries
    (event : Event)
    (device : Device)
    (policy : Policy)
    (answer : Except Error Proposal)
    (agrees : ∀ proposal, answer = .ok proposal → ∀ visit, seen proposal.params visit →
      Engine.rejection policy device proposal visit =
        Engine.rejection policy device proposal (visits proposal.params)) :
    (Engine.record surroundings.config event device policy answer).wp
      (surroundings.contract faulty seen)
      (Carries account (surroundings.submission visits event device policy answer) faulty)
      store := by
  refine ⟨trivial, ?_⟩
  rintro created _ rfl
  cases answer with
  | error failure => exact file_carries encodes keeps fits event device policy _ created
  | ok proposal =>
      refine ⟨trivial, ?_⟩
      rintro visit after ⟨met, rfl⟩
      change Prog.wp _ _ (Engine.file _ _ (Engine.rejection policy device proposal visit)) _
      rw [agrees proposal rfl visit met]
      exact file_carries encodes keeps fits event device policy (.ok proposal) created

theorem handlePolicy_carries
    {device : Device}
    {policy : Policy}
    (agrees : surroundings.SameText visits seen event device policy) :
    (Engine.handlePolicy surroundings.config event device policy).wp
      (surroundings.contract faulty seen)
      (Carries account (surroundings.plan visits event device policy) faulty) store := by
  have handled : (Engine.handleProposal surroundings.config event device policy
      (surroundings.proposed event device policy)).wp (surroundings.contract faulty seen)
      (Carries account (surroundings.plan visits event device policy) faulty) store := by
    unfold plan
    rcases proposed : surroundings.proposed event device policy with failure | _ | proposal
    · simp only [Engine.handleProposal]
      split_ifs
      · exact Or.inl ⟨rfl, fits, Or.inl rfl⟩
      · exact record_carries encodes keeps fits event device policy _ (by rintro _ ⟨⟩)
    · exact Or.inr ⟨rfl, by simp, fits⟩
    · refine record_carries encodes keeps fits event device policy _ ?_
      rintro _ ⟨⟩
      exact agrees proposal proposed
  unfold Engine.handlePolicy
  rw [Prog.wp_bind]
  unfold Engine.propose
  unfold proposed at handled
  cases action : policy.action with
  | some action =>
      rw [action] at handled
      exact handled
  | none =>
      rw [action] at handled
      dsimp only at handled ⊢
      split_ifs at handled ⊢ with missing
      · exact handled
      · refine ⟨trivial, ?_⟩
        rintro answer after ⟨rfl, rfl⟩
        exact handled

end

/-- A delivery carries out a first part of the firm plans, and all of them if no
call can fail. -/
def CarriesAll (account : Account) (plans : List Plan) (faulty : AutomationOp → Prop)
    (after : MemStore F) : Prop :=
  ∃ done, done <+: Plan.firm plans ∧ (account.applyAll done).Fits after ∧
    ((∀ op, ¬faulty op) → done = Plan.firm plans)

theorem handlePolicies_carries
    (encodes : Encodes)
    (keeps : ∀ result message, ¬faulty (.completeAutomation result message))
    {device : Device}
    {policies : List Policy}
    (agrees : ∀ policy ∈ policies, surroundings.SameText visits seen event device policy)
    (created : List AutomationRequest)
    (account : Account)
    (store : MemStore F)
    (fits : account.Fits store) :
    (Engine.handlePolicies surroundings.config event device policies created).wp
      (surroundings.contract faulty seen)
      (fun _ after => CarriesAll account (policies.map (surroundings.plan visits event device))
        faulty after) store := by
  induction policies generalizing created account store with
  | nil => exact ⟨[], List.prefix_refl _, fits, fun _ => rfl⟩
  | cons policy others ih =>
      unfold Engine.handlePolicies
      rw [Prog.wp_bind]
      rw [List.forall_mem_cons] at agrees
      refine Prog.wp_mono ?_ (handlePolicy_carries encodes keeps fits agrees.1)
      rintro ⟨new, failure⟩ after (⟨failed, kept, cause⟩ | ⟨rfl, free, carried⟩)
      · obtain ⟨failure, rfl⟩ := Option.isSome_iff_exists.mp failed
        refine ⟨[], List.nil_prefix, kept, fun reliable => ?_⟩
        rcases cause with stuck | ⟨op, fault⟩
        · rw [List.map_cons, stuck]
          rfl
        · exact absurd fault (reliable op)
      · refine Prog.wp_mono ?_ (ih agrees.2 (created ++ new) _ after carried)
        rintro _ final ⟨done, first, fitted, whole⟩
        refine ⟨surroundings.plan visits event device policy :: done, ?_, fitted,
          fun reliable => ?_⟩
        · rw [List.map_cons, Plan.firm_cons free]
          exact List.prefix_cons_inj _ |>.mpr first
        · rw [List.map_cons, Plan.firm_cons free, whole reliable]

theorem handleEvent_carries
    (encodes : Encodes)
    (keeps : ∀ result message, ¬faulty (.completeAutomation result message))
    (fits : account.Fits store)
    (agrees : surroundings.SameTexts visits event seen) :
    (Engine.handleEvent event).wp (surroundings.contract faulty seen)
      (fun _ after => CarriesAll account (surroundings.plans visits event) faulty after) store := by
  have nothing : CarriesAll account [] faulty store :=
    ⟨[], List.prefix_refl _, fits, fun _ => rfl⟩
  unfold Engine.handleEvent plans
  split_ifs
  · exact nothing
  · rw [Prog.wp_bind]
    refine ⟨trivial, ?_⟩
    rintro config after ⟨rfl, rfl⟩
    rw [Prog.wp_ret]
    cases known : surroundings.config.devices.get event.deviceID with
    | none => exact nothing
    | some device => exact handlePolicies_carries encodes keeps (agrees device known) _ _ _ fits

theorem deliver_carries
    (encodes : Encodes)
    {delivery : Delivery}
    (keeps : delivery.KeepsOutcomes)
    (fits : account.Fits store)
    (agrees : surroundings.SameTexts visits event delivery.Meets) :
    CarriesAll account (surroundings.plans visits event)
      (fun op => ∃ position, (delivery.faults position op).isSome = true)
      (surroundings.deliver event store delivery) := by
  let faulty : AutomationOp → Prop :=
    fun op => ∃ position, (delivery.faults position op).isSome = true
  have kept : ∀ result message, ¬faulty (.completeAutomation result message) := by
    rintro result message ⟨position, fault⟩
    simp [keeps position result message] at fault
  have answered : ∀ op (state : MemStore F × ℕ),
      (surroundings.contract faulty delivery.Meets).pre state.1 op →
        (surroundings.contract faulty delivery.Meets).post state.1 op
          (surroundings.respond delivery op state).1
          (surroundings.respond delivery op state).2.1 := by
    rintro op ⟨current, position⟩ -
    cases op with
    | store op =>
        simp only [contract, respond]
        cases fault : delivery.faults position op with
        | none => exact Or.inr ⟨rfl, rfl⟩
        | some failure => exact Or.inl ⟨⟨position, by simp [fault]⟩, ⟨failure, rfl⟩, rfl⟩
    | config => exact ⟨rfl, rfl⟩
    | propose policy event device => exact ⟨rfl, rfl⟩
    | range params => exact ⟨⟨position, rfl⟩, rfl⟩
    | _ => rfl
  exact Prog.exec_of_wp (surroundings.respond delivery) Prod.fst answered (store, 0)
    (handleEvent_carries encodes kept fits agrees)

theorem deliveries_carry
    (encodes : Encodes)
    (event : Event)
    (deliveries : List Delivery)
    (keeps : ∀ delivery ∈ deliveries, delivery.KeepsOutcomes)
    (agrees : ∀ delivery ∈ deliveries, surroundings.SameTexts visits event delivery.Meets)
    {earlier : List Plan}
    (first : earlier <+: Plan.firm (surroundings.plans visits event))
    (fits : (account.applyAll earlier).Fits store) :
    ∃ done, done <+: Plan.firm (surroundings.plans visits event) ∧ earlier <+: done ∧
      (account.applyAll done).Fits (deliveries.foldl (surroundings.deliver event) store) := by
  induction deliveries generalizing earlier store with
  | nil => exact ⟨earlier, first, List.prefix_refl _, fits⟩
  | cons delivery others ih =>
      obtain ⟨now, nowFirst, carried, -⟩ :=
        deliver_carries encodes (keeps delivery List.mem_cons_self) fits
          (agrees delivery List.mem_cons_self)
      obtain ⟨longer, either, onward, -, same⟩ :=
        account.applyAll_applyAll (List.prefix_or_prefix_of_prefix first nowFirst)
      rw [same] at carried
      have longerFirst : longer <+: Plan.firm (surroundings.plans visits event) := by
        rcases either with rfl | rfl <;> assumption
      obtain ⟨done, doneFirst, further, final⟩ := ih
        (fun other member => keeps other (List.mem_cons_of_mem _ member))
        (fun other member => agrees other (List.mem_cons_of_mem _ member)) longerFirst carried
      exact ⟨done, doneFirst, onward.trans further, final⟩

theorem deliver_completes
    (encodes : Encodes)
    {delivery : Delivery}
    (undisturbed : delivery.Undisturbed)
    (agrees : surroundings.SameTexts visits event delivery.Meets)
    {earlier : List Plan}
    (first : earlier <+: Plan.firm (surroundings.plans visits event))
    (fits : (account.applyAll earlier).Fits store) :
    (account.applyAll (Plan.firm (surroundings.plans visits event))).Fits
      (surroundings.deliver event store delivery) := by
  obtain ⟨now, nowFirst, carried, whole⟩ := deliver_carries encodes
    (fun position result message => undisturbed position _) fits agrees
  have complete := whole (by simp [undisturbed _ _])
  obtain ⟨longer, either, -, further, same⟩ :=
    account.applyAll_applyAll (List.prefix_or_prefix_of_prefix first nowFirst)
  rw [same] at carried
  have all : longer = Plan.firm (surroundings.plans visits event) := by
    rcases either with rfl | rfl
    · exact first.eq_of_length_le (complete ▸ further).length_le
    · exact complete
  rwa [all] at carried

/-- However the earlier deliveries of an event failed, as long as no outcome was
lost and all deliveries reject a proposal with the same text, a delivery without a
failure ends with the requests, the results and the notifications of a single
delivery. In particular the first proposal for a request that is denied has its
denial recorded. -/
theorem deliveries_converge
    (surroundings : Surroundings)
    (visits : (params : StringMap String) → params.Visit)
    (event : Event)
    (store : MemStore F)
    (deliveries : List Delivery)
    (last single : Delivery)
    (encodes : Encodes)
    (keeps : ∀ delivery ∈ deliveries, delivery.KeepsOutcomes)
    (complete : last.Undisturbed)
    (undisturbed : single.Undisturbed)
    (agree : ∀ delivery ∈ last :: single :: deliveries,
      surroundings.SameTexts visits event delivery.Meets) :
    let final :=
      surroundings.deliver event (deliveries.foldl (surroundings.deliver event) store) last
    SameAccount final (surroundings.deliver event store single) ∧
      ∀ before request denial rest,
        surroundings.plans visits event = before ++ .submit request (some denial) :: rest →
        (∀ plan ∈ before, plan ≠ .stuck ∧ plan.requestID ≠ some request.requestID) →
        store.autoReq.lookup request.requestID = none →
        store.autoRes.lookup request.requestID = none →
        ∃ result, final.autoRes.lookup request.requestID = some result ∧
          result.status = .denied ∧ result.message = denial.message := by
  intro final
  have start : (store.account.applyAll []).Fits store := store.account_fits
  simp only [List.forall_mem_cons] at agree
  obtain ⟨lastly, once, earlier⟩ := agree
  obtain ⟨done, first, -, carried⟩ :=
    deliveries_carry encodes event deliveries keeps earlier List.nil_prefix start
  have completed := deliver_completes encodes complete lastly first carried
  refine ⟨⟨_, completed, deliver_completes encodes undisturbed once List.nil_prefix start⟩, ?_⟩
  intro before request denial rest planned clear unfiled unsettled
  have sound := surroundings.plans_sound visits event
  rw [planned] at completed sound
  have firm : Plan.firm (before ++ .submit request (some denial) :: rest) =
      before ++ .submit request (some denial) :: Plan.firm rest := by
    rw [Plan.firm_append _ fun plan member => (clear plan member).1, Plan.firm_cons (by simp)]
  have firmSound : ∀ plan ∈ before ++ .submit request (some denial) :: Plan.firm rest,
      plan.Sound := by
    intro plan member
    rw [← firm] at member
    exact sound plan ((List.takeWhile_sublist _).mem member)
  have recorded := store.account.applyAll_denied (Plan.firm rest) firmSound
    (fun plan member => (clear plan member).2)
    (by simp [MemStore.account, unfiled]) (by simp [MemStore.account, unsettled])
  rw [firm] at completed
  rw [completed.results] at recorded
  obtain ⟨result, found, rfl⟩ := Option.map_eq_some_iff.mp recorded
  have denied := firmSound (.submit request (some result.untimed)) (by simp)
  exact ⟨result, found, denied.2, rfl⟩

end Surroundings

end InfraObserver

/-! ## A script policy without a proposer -/

namespace InfraObserver

attribute [local instance] Platform.plain GoFloat.integer

/-- A policy that leaves the action to a script. -/
def scriptPolicy : Policy :=
  { bouncePolicy false with
    id := "script"
    action := none
    proposal := some ⟨"bounce.js", ["bounce_interface"]⟩ }

/-- The script policy on its own; no proposer is configured, so every proposal
fails. -/
def scriptOnly : Surroundings where
  config :=
    { bounceConfig false with
      policies :=
        .single ["sw-1"] scriptPolicy
          (by
            rw [Policy.valid_iff_problems]
            decide +kernel)
          (by decide +kernel) }
  proposer _ _ _ := .ok none

/-- The request that the event causes. -/
def scriptID : String := requestID "script" switchDown.eventID

/-- A delivery in which no call fails. -/
def Delivery.smooth (instant : Time) : Delivery :=
  ⟨fun _ => instant, fun _ => StringMap.sortedVisit, fun _ _ => none⟩

/-- A delivery in which no request can be stored. -/
def Delivery.unstored : Delivery where
  clock _ := 7
  visit _ := StringMap.sortedVisit
  faults
    | _, .insertAutomationRequest .. => some (Error.errorf .transient "connection lost")
    | _, _ => none

/-- A delivery in which no outcome can be recorded. -/
def Delivery.unrecorded : Delivery where
  clock _ := 7
  visit _ := StringMap.sortedVisit
  faults
    | _, .completeAutomation .. => some (Error.errorf .transient "connection lost")
    | _, _ => none

/-- A proposal with a parameter that the action does not have. -/
def forcedBounce : Proposal where
  action := "bounce_interface"
  target := "Gi0/1"
  params := (∅ : StringMap String).insert "force" "yes"
  reason := ""

/-- The script policy with a script that always proposes it. -/
def scriptForces : Surroundings where
  config := { scriptOnly.config with hasProposer := true }
  proposer _ _ _ := .ok (some forcedBounce)

theorem scriptForces_sameTexts (seen : (params : StringMap String) → params.Visit → Prop) :
    scriptForces.SameTexts StringMap.sortedVisit switchDown seen := by
  intro device _ policy member proposal proposed visit _
  rw [List.mem_singleton.mp (List.mem_filter.mp member).1] at proposed
  cases proposed
  have single : forcedBounce.params.toSortedList = [("force", "yes")] := by decide +kernel
  have same : visit = forcedBounce.params.sortedVisit := by
    obtain ⟨order, listed⟩ := visit
    rw [single] at listed
    exact Subtype.ext ((List.perm_singleton.mp listed).trans single.symm)
  rw [same]

/-- The proposal is rejected, and its denial is recorded although the first delivery
could not store the request. -/
theorem script_denial_recorded :
    let final := scriptForces.deliver switchDown
      (scriptForces.deliver switchDown (MemStore.new : MemStore ℤ) .unstored) (.smooth 9)
    SameAccount final (scriptForces.deliver switchDown .new (.smooth 5)) ∧
      ∃ result, final.autoRes.lookup scriptID = some result ∧ result.status = .denied ∧
        result.message =
          "proposal rejected: validation: action bounce_interface has no parameter \"force\"" := by
  intro final
  obtain ⟨same, recorded⟩ := Surroundings.deliveries_converge scriptForces StringMap.sortedVisit
    switchDown (MemStore.new : MemStore ℤ) [.unstored] (.smooth 9) (.smooth 5)
    ⟨fun _ => ⟨_, rfl⟩, fun _ _ _ _ => ⟨_, rfl⟩⟩
    (by simp [Delivery.KeepsOutcomes, Delivery.unstored]) (fun _ _ => rfl) (fun _ _ => rfl)
    (fun _ _ => scriptForces_sameTexts _)
  refine ⟨same, ?_⟩
  have planned : ∃ request denial,
      scriptForces.plans StringMap.sortedVisit switchDown = [.submit request (some denial)] ∧
        request.requestID = scriptID ∧ denial.message =
          "proposal rejected: validation: action bounce_interface has no parameter \"force\"" :=
    ⟨_, _, rfl, rfl, rfl⟩
  obtain ⟨request, denial, planned, id, message⟩ := planned
  rw [← id, ← message]
  obtain ⟨result, found, denied, text⟩ := recorded [] request denial [] planned (by simp) rfl rfl
  exact ⟨result, found, denied, text⟩

/-- When the denial could not be recorded, the delivery after it finds the request
and leaves it at that, while a single delivery records the denial. -/
theorem script_denial_lost :
    let final := scriptOnly.deliver switchDown
      (scriptOnly.deliver switchDown (MemStore.new : MemStore ℤ) .unrecorded) (.smooth 9)
    let direct := scriptOnly.deliver switchDown (MemStore.new : MemStore ℤ) (.smooth 5)
    (final.autoReq.lookup scriptID).map (·.status) = some .denied ∧
      final.autoRes.lookup scriptID = none ∧ (direct.autoRes.lookup scriptID).isSome = true ∧
      ¬SameAccount final direct := by
  intro final direct
  have missing : final.autoRes.lookup scriptID = none := by decide +kernel
  have recorded : (direct.autoRes.lookup scriptID).isSome = true := by decide +kernel
  refine ⟨by decide +kernel, missing, recorded, ?_⟩
  rintro ⟨account, left, right⟩
  have both := (left.results scriptID).symm.trans (right.results scriptID)
  rw [missing] at both
  obtain ⟨result, found⟩ := Option.isSome_iff_exists.mp recorded
  rw [found] at both
  cases both

end InfraObserver
