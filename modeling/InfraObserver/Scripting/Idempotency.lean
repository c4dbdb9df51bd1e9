import InfraObserver.Scripting.HostApi

/-!
# Idempotency keys

An event is delivered to an integration at least once. The host adds a key to every
request by which the receiver is to recognise a repetition; the key is made of the
script and the event. It therefore does not tell two requests for one event apart.
-/

namespace InfraObserver
namespace HostApi

variable {F : Type} [Platform] [Wire]

/-- `RunHandle` for an event: the requests of the script, whose calls depend on the
event alone. -/
def Deps.handle (deps : Deps F) (script : ScriptInfo) (handler : Event → List (HostCall F))
    (event : Event) : List Sent :=
  (deps.invoke ⟨script, event.correlationID, event.eventID, event.deviceID⟩ (handler event)).sent

/-- The requests that deliveries of events cause, each with its event. -/
def Deps.deliver (deps : Deps F) (script : ScriptInfo) (handler : Event → List (HostCall F))
    (deliveries : List Event) : List (Event × Sent) :=
  deliveries.flatMap fun event => (deps.handle script handler event).map (event, ·)

/-- The key of a request. -/
def Sent.key (sent : Sent) : Option String :=
  sent.request.headers.lookup "Idempotency-Key"

/-- What makes a request the request it is. -/
def Sent.content (sent : Sent) : String × String × String × Option String :=
  (sent.endpoint, sent.request.method, sent.path, sent.request.body)

/-- A receiver processes a request unless it has seen its key. -/
def receive (processed : List (Event × Sent)) (request : Event × Sent) : List (Event × Sent) :=
  if request.2.key ≠ none ∧ request.2.key ∈ processed.map (·.2.key) then processed
  else processed ++ [request]

/-- What is sent is one request, however often it is sent. -/
def SingleRequest (requests : List Sent) : Prop :=
  ∀ sent ∈ requests, ∀ other ∈ requests, sent.content = other.content

/-! ## The receiver -/

/-- What a receiver has processed after a sequence of requests with keys. -/
structure Processed (log processed : List (Event × Sent)) : Prop where
  received : ∀ request ∈ processed, request ∈ log
  distinct : (processed.map (·.2.key)).Nodup
  complete : ∀ request ∈ log, request.2.key ∈ processed.map (·.2.key)

omit [Platform] [Wire] in
theorem foldl_receive
    {log : List (Event × Sent)}
    (keyed : ∀ request ∈ log, request.2.key ≠ none) :
    Processed log (log.foldl receive []) := by
  induction log using List.reverseRecOn with
  | nil => exact ⟨nofun, List.nodup_nil, nofun⟩
  | append_singleton log last ih =>
      have earlier := ih fun request listed => keyed request (List.mem_append_left _ listed)
      rw [List.foldl_concat]
      generalize log.foldl receive [] = processed at earlier ⊢
      unfold receive
      split_ifs with seen
      · refine ⟨fun request listed => List.mem_append_left _ (earlier.received request listed),
          earlier.distinct, fun request listed => ?_⟩
        rcases List.mem_append.mp listed with before | now
        · exact earlier.complete request before
        · rw [List.mem_singleton.mp now]
          exact seen.2
      · have fresh : last.2.key ∉ processed.map (·.2.key) := fun member =>
          seen ⟨keyed last (by simp), member⟩
        refine ⟨fun request listed => ?_, ?_, fun request listed => ?_⟩
        · rcases List.mem_append.mp listed with before | now
          · exact List.mem_append_left _ (earlier.received request before)
          · exact List.mem_append_right _ now
        · rw [List.map_append]
          exact List.Nodup.append earlier.distinct (List.nodup_singleton _)
            (List.disjoint_singleton.mpr fresh)
        · rw [List.map_append]
          rcases List.mem_append.mp listed with before | now
          · exact List.mem_append_left _ (earlier.complete request before)
          · exact List.mem_append_right _ (List.mem_map_of_mem now)

/-! ## Keys and contents -/

variable {deps : Deps F} {script : ScriptInfo} {handler : Event → List (HostCall F)}

theorem key_of_mem_handle
    {event : Event}
    (identified : event.eventID ≠ "")
    {sent : Sent}
    (listed : sent ∈ deps.handle script handler event) :
    sent.key = some (stableID ["idem", script.key, event.eventID]) := by
  obtain ⟨same, within⟩ := deps.invoke_within
    ⟨script, event.correlationID, event.eventID, event.deviceID⟩ (handler event)
  obtain ⟨asked, -, prepared⟩ := within.asked sent listed
  rw [same] at prepared
  obtain ⟨secret, base, made⟩ := deps.prepare_ok prepared
  obtain ⟨headers, -, headed⟩ := made.headers
  rw [Sent.key, headed]
  exact lookup_idempotencyKey identified secret _

theorem mem_deliver
    {deliveries : List Event}
    {request : Event × Sent} :
    request ∈ deps.deliver script handler deliveries ↔
      request.1 ∈ deliveries ∧ request.2 ∈ deps.handle script handler request.1 := by
  obtain ⟨event, sent⟩ := request
  simp only [Deps.deliver, List.mem_flatMap, List.mem_map, Prod.mk.injEq]
  constructor
  · rintro ⟨_, delivered, _, listed, rfl, rfl⟩
    exact ⟨delivered, listed⟩
  · rintro ⟨delivered, listed⟩
    exact ⟨event, delivered, sent, listed, rfl, rfl⟩

/-- Equal keys mean equal requests, repetitions keep their key, and a receiver that ignores
the keys it has seen processes the request of every event exactly once, exactly when a
single request is sent for each event. -/
theorem receiver_deduplicates
    (injective : Function.Injective (stableID : List String → String))
    (deps : Deps F)
    (script : ScriptInfo)
    (handler : Event → List (HostCall F))
    (deliveries : List Event)
    (identified : ∀ event ∈ deliveries, event.eventID ≠ "")
    (repeated : ∀ event ∈ deliveries, ∀ other ∈ deliveries,
      event.eventID = other.eventID → event = other) :
    let log := deps.deliver script handler deliveries
    ((∀ request ∈ log, ∀ other ∈ log,
        request.2.key = other.2.key → request.2.content = other.2.content) ∧
      (∀ request ∈ log, ∀ other ∈ log,
        request.1 = other.1 → request.2.key = other.2.key ∧ request.2.key ≠ none) ∧
      ∀ request ∈ log, ∃ processed,
        (log.foldl receive []).filter (·.1 = request.1) = [(request.1, processed)] ∧
          processed.content = request.2.content) ↔
      ∀ event ∈ deliveries, SingleRequest (deps.handle script handler event) := by
  have keyed : ∀ request ∈ deps.deliver script handler deliveries,
      request.2.key = some (stableID ["idem", script.key, request.1.eventID]) := by
    intro request listed
    obtain ⟨delivered, sent⟩ := mem_deliver.mp listed
    exact key_of_mem_handle (identified _ delivered) sent
  have sameEvent : ∀ request ∈ deps.deliver script handler deliveries,
      ∀ other ∈ deps.deliver script handler deliveries,
        request.2.key = other.2.key → request.1 = other.1 := by
    intro request listed other also same
    rw [keyed request listed, keyed other also, Option.some_inj] at same
    have ids := injective same
    simp only [List.cons.injEq, and_true, true_and] at ids
    exact repeated _ (mem_deliver.mp listed).1 _ (mem_deliver.mp also).1 ids
  constructor
  · rintro ⟨recognised, -⟩ event delivered sent listed other also
    have first := mem_deliver.mpr (⟨delivered, listed⟩ : (event, sent).1 ∈ deliveries ∧ _)
    have second := mem_deliver.mpr (⟨delivered, also⟩ : (event, other).1 ∈ deliveries ∧ _)
    exact recognised _ first _ second ((keyed _ first).trans (keyed _ second).symm)
  intro single
  have sameContent : ∀ request ∈ deps.deliver script handler deliveries,
      ∀ other ∈ deps.deliver script handler deliveries,
        request.1 = other.1 → request.2.content = other.2.content := by
    intro request listed other also same
    obtain ⟨delivered, sent⟩ := mem_deliver.mp listed
    exact single request.1 delivered _ sent _ (same ▸ (mem_deliver.mp also).2)
  refine ⟨fun request listed other also same =>
      sameContent request listed other also (sameEvent request listed other also same),
    fun request listed other also same => ?_, fun request listed => ?_⟩
  · rw [keyed request listed, keyed other also, same]
    exact ⟨rfl, nofun⟩
  · have processed := foldl_receive fun request listed => by
      rw [keyed request listed]
      exact nofun
    obtain ⟨found, kept, key⟩ := List.mem_map.mp (processed.complete request listed)
    have ofFound := processed.received found kept
    have event := sameEvent found ofFound request listed key
    have only : ∀ other ∈ (deps.deliver script handler deliveries).foldl receive [],
        decide (other.1 = request.1) = decide (other = found) := by
      intro other also
      rw [decide_eq_decide]
      refine ⟨fun same => ?_, fun same => same ▸ event⟩
      apply List.inj_on_of_nodup_map processed.distinct also kept
      rw [keyed other (processed.received other also), keyed found ofFound, same, event]
    refine ⟨found.2, ?_, sameContent found ofFound request listed event⟩
    rw [List.filter_congr only, List.filter_eq,
      List.count_eq_one_of_mem processed.distinct.of_map kept, List.replicate_one, ← event]

end HostApi
end InfraObserver

namespace InfraObserver
namespace HostApi

attribute [local instance] Platform.plain Wire.plain

/-- An integration that may talk to one endpoint. -/
def notifier : ScriptInfo where
  key := "integrations/notify"
  kind := .integrations
  id := "notify"
  config := (∅ : StringMap ConfigValue).insert "endpoint_ref" (.text "tickets")

def notifierDeps : Deps ℤ where
  inventory := none
  endpoints := (∅ : StringMap Endpoint).insert "tickets" ⟨"tickets", .zero⟩
  secrets := some fun _ => some ((∅ : StringMap String).insert "url" "http://webhook:8090")
  invalid _ _ := none

/-- A request to open or to update a ticket. -/
def ticket (body : String) : HostCall ℤ :=
  .request (.ok ⟨"tickets", "post", "/v1/tickets", [], body⟩)

def outage : Event where
  eventID := "evt-1"
  correlationID := "corr-1"
  deviceID := "sw-1"
  type := "device.unreachable"
  severity := .critical
  message := "down"
  labels := ∅
  occurredAt := 0
  observationID := ""
  source := ""
  alertKey := ""
  resolves := false

/-- The two requests of one invocation carry one key, and the receiver ignores the
second of them, which is another request. -/
theorem second_request_ignored :
    let log := notifierDeps.deliver notifier (fun _ => [ticket "open", ticket "assign"]) [outage]
    log.map (·.2.request.body) = [some "open", some "assign"] ∧
      (log.map (·.2.key)).dedup.length = 1 ∧
      (log.foldl receive []).map (·.2.request.body) = [some "open"] := by
  decide +kernel

/-- A script that opens a ticket and asks for another one in a way that is refused, for an
event that is delivered twice. -/
theorem repeated_ticket_processed_once :
    let refused : HostCall ℤ := .request (.ok ⟨"tickets", "patch", "/v1/tickets", [], ""⟩)
    let log := notifierDeps.deliver notifier (fun _ => [ticket "open", refused]) [outage, outage]
    log.map (fun request => Wire.renderURL request.2.request.url) =
        ["http://webhook:8090/v1/tickets", "http://webhook:8090/v1/tickets"] ∧
      ∀ request ∈ log, ∃ processed,
        (log.foldl receive []).filter (·.1 = request.1) = [(request.1, processed)] ∧
          processed.content = request.2.content := by
  intro refused log
  refine ⟨by decide +kernel, ((receiver_deduplicates plainDigest_injective notifierDeps notifier
    (fun _ => [ticket "open", refused]) [outage, outage] (by simp [outage]) (by simp)).mpr ?_).2.2⟩
  have single : (notifierDeps.handle notifier (fun _ => [ticket "open", refused]) outage).length =
      1 := by decide +kernel
  obtain ⟨only, sent⟩ := List.length_eq_one_iff.mp single
  intro event delivered first listed second also
  obtain rfl : event = outage := by simpa using delivered
  rw [sent, List.mem_singleton] at listed also
  rw [listed, also]

end HostApi
end InfraObserver
