import InfraObserver.Automation.Adapters
import InfraObserver.Scripting.Registry

/-!
# The host functions of a script

A script acts on the world through a few functions. Each of them checks that the
kind of the script may use it and that the invocation has something left of its
budget, and validates what it is given. A script may catch what a function throws
and go on, so an invocation is an arbitrary sequence of calls.

The deadline of a request and the answer to it are left out: no later request
depends on them except through what the script does next, which is arbitrary.
-/

namespace InfraObserver
namespace HostApi

/-! ## Invocations -/

/-- `MaxLogLines`. -/
def maxLogLines : ℕ := 20

/-- `MaxHTTPCalls`. -/
def maxHTTPCalls : ℕ := 3

/-- `MaxEvents`. -/
def maxEvents : ℕ := 10

/-- `MaxObservations`. -/
def maxObservations : ℕ := 100

/-- `MaxRequestBody`. -/
def maxRequestBody : ℕ := 65536

/-- `MaxLogMessage`. -/
def maxLogMessage : ℕ := 512

/-- `MaxLogFields`. -/
def maxLogFields : ℕ := 16

/-- `MaxLogFieldValue`. -/
def maxLogFieldValue : ℕ := 256

/-- The optional capabilities. -/
structure Permission where
  http : Bool
  events : Bool
  metrics : Bool

/-- `permissions`. -/
def permissions : ScriptKind → Permission
  | .transforms | .enrichers | .automation => ⟨false, false, false⟩
  | .integrations => ⟨true, true, true⟩
  | .collectors => ⟨true, false, true⟩

/-- A value of a script's configuration, as far as the host reads it. -/
inductive ConfigValue
  | text (text : String)
  /-- The elements that are texts, and a gap for every other one. -/
  | list (elements : List (Option String))
  | other

/-- `ScriptInfo`. -/
structure ScriptInfo where
  key : String
  kind : ScriptKind
  id : String
  config : StringMap ConfigValue

/-- What an invocation is about: the part of `Call` that no function changes. -/
structure Invocation where
  script : ScriptInfo
  correlationID : String
  trigger : String
  deviceID : String

/-- A request handed to the client, with the endpoint and the path that the script
asked for. -/
structure Sent where
  endpoint : String
  path : String
  request : OutgoingRequest
  deriving DecidableEq

/-- `Call`, with the requests that were handed to the client. -/
structure Call (F : Type) extends Invocation where
  logLines : ℕ
  httpCalls : ℕ
  events : List Event
  observations : List (Observation F)
  sent : List Sent

/-- `NewCall`. -/
def newCall (F : Type) (invocation : Invocation) : Call F :=
  { invocation with logLines := 0, httpCalls := 0, events := [], observations := [], sent := [] }

/-- `Deps`: the services that the functions use. -/
structure Deps (F : Type) where
  /-- Whether `Inventory.Get` finds a device, when there is an inventory. -/
  inventory : Option (String → Bool)
  endpoints : StringMap Endpoint
  /-- `Secrets.Resolve`, when there is a resolver. -/
  secrets : Option (String → Option (StringMap String))
  invalid : Time → Observation F → Option String

variable {F : Type} [Platform]

/-- `require`, and the decoding of the argument by `fromJS`. -/
def permit {α : Type} (invocation : Invocation) (allowed : Bool) (name : String)
    (argument : Except String α) : Except String α :=
  if allowed = false then
    .error (name ++ " is not available to " ++ invocation.script.kind.name ++ " scripts")
  else
    match argument with
    | .error problem => .error (name ++ ": " ++ problem)
    | .ok value => .ok value

/-- The check of a budget. -/
def budget (used limit : ℕ) (name things : String) : Except String Unit :=
  if limit ≤ used then
    .error (name ++ ": at most " ++ toString limit ++ " " ++ things ++ " per invocation")
  else .ok ()

/-! ## Events and observations -/

/-- `requestedEvent`. -/
structure RequestedEvent where
  type : String
  severity : String
  message : String
  deviceID : String
  labels : StringMap String

/-- `requestedMetric`. -/
structure RequestedMetric (F : Type) where
  metric : String
  value : Value F
  labels : StringMap String
  deviceID : String

/-- `eventTypeRe`, the expression `^[a-z][a-z0-9_]*(\.[a-z0-9_]+)+$`. -/
def eventType (text : String) : Bool :=
  let parts := text.toList.splitOn '.'
  text.toList.head?.any Char.isLower && 2 ≤ parts.length &&
    parts.all fun part => !part.isEmpty &&
      part.all fun char => char.isLower || char.isDigit || char = '_'

/-- `validLabels`: what is wrong with the labels. -/
def labelProblem (labels : StringMap String) : Option String :=
  if maxLogFields < labels.toSortedList.length then
    some ("at most " ++ toString maxLogFields ++ " labels")
  else
    (labels.toSortedList.find? fun entry => entry.1 = "" || 64 < entry.1.utf8ByteSize ||
      maxLogFieldValue < entry.2.utf8ByteSize).map
        fun entry => "label " ++ quote entry.1 ++ " is too long or empty"

/-- `knownDevice`. -/
def Deps.knownDevice (deps : Deps F) (id : String) : Bool :=
  deps.inventory.all (· id)

/-- `events.emit` up to the recording of the event. -/
def Deps.event (deps : Deps F) (call : Call F) (argument : Except String RequestedEvent)
    (now : Time) : Except String Event := do
  let asked ← permit call.toInvocation (permissions call.script.kind).events "events.emit" argument
  budget call.events.length maxEvents "events.emit" "events"
  let deviceID := if asked.deviceID = "" then call.deviceID else asked.deviceID
  let severity := Severity.ofText asked.severity
  if eventType asked.type = false then
    throw "events.emit: type must be dotted lower-case, e.g. ticket.created"
  if severity.valid = false then
    throw "events.emit: severity must be info, warning or critical"
  if deviceID = "" ∨ deps.knownDevice deviceID = false then
    throw ("events.emit: unknown device " ++ quote deviceID)
  if maxLogMessage < asked.message.utf8ByteSize then
    throw "events.emit: message too long"
  if let some problem := labelProblem asked.labels then
    throw ("events.emit: " ++ problem)
  return { eventID := stableID ["evt", "script", call.script.key, deviceID, asked.type,
             labelsKey asked.labels, call.trigger]
           correlationID := call.correlationID, deviceID, type := asked.type, severity
           message := asked.message, labels := asked.labels, occurredAt := now
           observationID := "", source := "script:" ++ call.script.id
           alertKey := "", resolves := false }

/-- `metrics.emit` up to the recording of the observation. -/
def Deps.observation (deps : Deps F) (call : Call F)
    (argument : Except String (RequestedMetric F)) (now : Time) :
    Except String (Observation F) := do
  let asked ← permit call.toInvocation
      (permissions call.script.kind).metrics "metrics.emit" argument
  budget call.observations.length maxObservations "metrics.emit" "observations"
  let deviceID := if asked.deviceID = "" then call.deviceID else asked.deviceID
  if deps.knownDevice deviceID = false then
    throw ("metrics.emit: unknown device " ++ quote deviceID)
  let observation : Observation F :=
    { observationID := newObservationID (stableID [call.script.key, call.trigger]) deviceID
        asked.metric asked.labels
      correlationID := if call.correlationID = "" then
          stableID ["corr", call.script.key, call.trigger]
        else call.correlationID
      deviceID, source := "script:" ++ call.script.id, metric := asked.metric
      value := asked.value, labels := asked.labels, observedAt := now
      receivedAt := 0, metadata := ∅ }
  if let some problem := deps.invalid now observation then
    throw ("metrics.emit: " ++ problem)
  return observation

/-! ## Requests -/

/-- `requestedHTTP`; the headers stand in the order in which the loop visits them. -/
structure RequestedHTTP where
  endpoint : String
  method : String
  path : String
  headers : List (String × String)
  body : String

/-- `AllowedEndpoints`. -/
def allowedEndpoints (config : StringMap ConfigValue) : List String :=
  config.toSortedList.flatMap fun entry =>
    if "endpoint_ref".toList <:+ entry.1.toList then
      match entry.2 with
      | .text name => [name]
      | _ => []
    else if "endpoint_refs".toList <:+ entry.1.toList then
      match entry.2 with
      | .list elements => elements.filterMap id
      | _ => []
    else []

/-- The error for an endpoint that is not granted or does not exist. -/
def unavailable (name : String) : String :=
  "http.request: endpoint " ++ quote name ++ " is not available to this script"

/-- The grant, the configuration and the resolver for an endpoint. -/
def Deps.grant (deps : Deps F) (script : ScriptInfo) (name : String) :
    Except String (Endpoint × (String → Option (StringMap String))) :=
  match deps.endpoints.lookup name, deps.secrets with
  | some endpoint, some resolve =>
      if name ∈ allowedEndpoints script.config then .ok (endpoint, resolve)
      else .error (unavailable name)
  | _, _ => .error (unavailable name)

variable {name : String}
variable {deps : Deps F}

theorem Deps.grant_ok
    {script : ScriptInfo}
    {endpoint : Endpoint}
    {resolve : String → Option (StringMap String)}
    (granted : deps.grant script name = .ok (endpoint, resolve)) :
    name ∈ allowedEndpoints script.config ∧ deps.endpoints.lookup name = some endpoint ∧
      deps.secrets = some resolve := by
  unfold Deps.grant at granted
  split at granted
  · next configured present =>
      split_ifs at granted with allowed
      · obtain ⟨rfl, rfl⟩ := Prod.mk.inj (Except.ok.inj granted)
        exact ⟨allowed, configured, present⟩
  · cases granted

/-- `unicode.ToUpper` as far as the names of methods can tell: of the letters outside
ASCII, only the long s becomes a letter of such a name. -/
def upperLetter (char : Char) : Char :=
  if char.toNat = 0x17F then 'S' else char.toUpper

/-- The methods that scripts may use. -/
def methods : List String := ["GET", "POST", "PUT"]

/-- The method of a request. -/
def requestMethod (method : String) : Except String String :=
  let upper := String.ofList (method.toList.map upperLetter)
  let chosen := if upper = "" then "GET" else upper
  if chosen ∈ methods then .ok chosen
  else .error ("http.request: method " ++ quote method ++ " is not allowed (GET, POST, PUT)")

theorem requestMethod_ok
    {method chosen : String}
    (accepted : requestMethod method = .ok chosen) :
    chosen ∈ methods := by
  simp only [requestMethod] at accepted
  generalize (if String.ofList (method.toList.map upperLetter) = "" then "GET"
    else String.ofList (method.toList.map upperLetter)) = named at accepted
  split_ifs at accepted with member
  cases accepted
  exact member

/-- The path is absolute, and nothing in it can be read as another host. -/
def absolutePath (path : String) : Bool :=
  ['/'].isPrefixOf path.toList && ! ['/', '/'].isPrefixOf path.toList &&
    !decide ("://".toList <:+: path.toList) &&
    path.toList.all fun char => char ≠ '\r' && char ≠ '\n' && char ≠ ' '

/-- The headers that scripts may set. -/
def scriptHeaders : List String := ["Content-Type", "Accept", "X-Request-Id"]

/-- `allowedHeaders[strings.ToLower(name)]`. The names of the table are those of
`scriptHeaders` in small letters. -/
def allowedHeader (name : String) : Option String :=
  scriptHeaders.find? fun canonical =>
    canonical.toList.map Char.toLower = name.toList.map lowerLetter

/-- The headers that the script sets. -/
def requestHeaders : List (String × String) → StringMap String →
    Except String (StringMap String)
  | [], headers => .ok headers
  | (name, value) :: rest, headers =>
      match allowedHeader name with
      | none => .error ("http.request: header " ++ quote name ++ " is not allowed")
      | some canonical => requestHeaders rest (headers.insert canonical value)

/-- Every header satisfies a condition on its name and its value. -/
def Every (condition : String → String → Prop) (headers : StringMap String) : Prop :=
  ∀ name value, headers.lookup name = some value → condition name value

variable {headers : StringMap String}

omit [Platform] in
theorem Every.insert
    {condition : String → String → Prop}
    (every : Every condition headers)
    {value : String}
    (added : condition name value) :
    Every condition (headers.insert name value) := by
  intro other found present
  rw [StringMap.lookup_insert_ite] at present
  split_ifs at present with same
  · cases present
    exact same ▸ added
  · exact every other found present

omit [Platform] in
theorem Every.ite
    {condition : String → String → Prop}
    {other : StringMap String}
    {chosen : Prop}
    [Decidable chosen]
    (first : Every condition headers)
    (second : Every condition other) :
    Every condition (if chosen then headers else other) := by
  split_ifs
  · exact first
  · exact second

/-- The name of a header is one that scripts may set. -/
def ScriptHeader (name _value : String) : Prop :=
  name ∈ scriptHeaders

theorem requestHeaders_ok
    {given : List (String × String)} :
    ∀ {start headers : StringMap String}, Every ScriptHeader start →
      requestHeaders given start = .ok headers → Every ScriptHeader headers := by
  induction given with
  | nil =>
      rintro start _ allowed ⟨⟩
      exact allowed
  | cons entry rest ih =>
      intro start headers allowed accepted
      simp only [requestHeaders] at accepted
      split at accepted
      · cases accepted
      · next canonical found =>
          exact ih (allowed.insert (List.mem_of_find?_eq_some found)) accepted

/-- `http.Header.Get`. -/
def header (headers : StringMap String) (name : String) : String :=
  (headers.lookup name).getD ""

/-- The body of a request is within the limit. -/
def boundedBody (body : Option (String × Bool)) : Bool :=
  body.all fun payload => payload.1.utf8ByteSize ≤ maxRequestBody

/-- The headers with the content type of a JSON body. -/
def withContentType (body : Option (String × Bool)) (headers : StringMap String) :
    StringMap String :=
  if body.any Prod.snd && header headers "Content-Type" = "" then
    headers.insert "Content-Type" "application/json"
  else headers

omit [Platform] in
theorem withContentType_every
    (allowed : Every ScriptHeader headers)
    (body : Option (String × Bool)) :
    Every ScriptHeader (withContentType body headers) := by
  exact Every.ite (allowed.insert (by decide : "Content-Type" ∈ scriptHeaders)) allowed

/-- The URL of a secret. -/
def secretURL (secret : StringMap String) : String :=
  if header secret "url" = "" then header secret "value" else header secret "url"

/-- The URL of a request: the path of the script below that of the endpoint. -/
def target (base : URL) (path : String) : URL :=
  let below := (base.path.toList.reverse.dropWhile (· = '/')).reverse
  let given := path.toList.span (· ≠ '?')
  match given.2 with
  | [] => { base with path := String.ofList (below ++ path.toList) }
  | _ :: query =>
      { base with path := String.ofList (below ++ given.1), rawQuery := String.ofList query }

/-- The token of a secret as a header. -/
def bearer (secret : StringMap String) : String :=
  "Bearer " ++ header secret "token"

/-- The `Idempotency-Key` of an invocation. -/
def idempotencyKey (invocation : Invocation) : String :=
  stableID ["idem", invocation.script.key, invocation.trigger]

/-- The headers of a request, after those that the host adds. -/
def hostHeaders (invocation : Invocation) (secret headers : StringMap String) :
    StringMap String :=
  let authorized := if header secret "token" = "" then headers
    else headers.insert "Authorization" (bearer secret)
  let named := authorized.insert "User-Agent" "infra-observer-script/1"
  let keyed := if invocation.trigger = "" then named
    else named.insert "Idempotency-Key" (idempotencyKey invocation)
  if invocation.correlationID ≠ "" ∧ header keyed "X-Request-Id" = "" then
    keyed.insert "X-Request-Id" invocation.correlationID
  else keyed

/-- A header is one that the script may set, or has the value that the host gives it. -/
def Attributed (invocation : Invocation) (secret : StringMap String) (name value : String) : Prop :=
  name ∈ scriptHeaders ∨
    (name, value) ∈ [("Authorization", bearer secret), ("User-Agent", "infra-observer-script/1"),
      ("Idempotency-Key", idempotencyKey invocation)]

theorem hostHeaders_every
    (allowed : Every ScriptHeader headers)
    (invocation : Invocation)
    (secret : StringMap String) :
    Every (Attributed invocation secret) (hostHeaders invocation secret headers) := by
  have given : Every (Attributed invocation secret) headers := fun name value present =>
    .inl (allowed name value present)
  unfold hostHeaders
  refine Every.ite (Every.insert ?_ (.inl (by decide))) ?_
  all_goals
    refine Every.ite ?_ (Every.insert ?_ (.inr (by simp))) <;>
      exact (Every.ite given (given.insert (.inr (by simp)))).insert (.inr (by simp))

theorem lookup_authorization
    (allowed : Every ScriptHeader headers)
    (invocation : Invocation)
    (secret : StringMap String) :
    (hostHeaders invocation secret headers).lookup "Authorization" =
      if header secret "token" = "" then none else some (bearer secret) := by
  have absent : headers.lookup "Authorization" = none := by
    cases found : headers.lookup "Authorization" with
    | none => rfl
    | some value => exact absurd (allowed _ _ found) (by decide : "Authorization" ∉ scriptHeaders)
  unfold hostHeaders
  dsimp only
  split_ifs <;> simp [absent]

variable {invocation : Invocation}

theorem lookup_idempotencyKey
    (triggered : invocation.trigger ≠ "")
    (secret headers : StringMap String) :
    (hostHeaders invocation secret headers).lookup "Idempotency-Key" =
      some (idempotencyKey invocation) := by
  unfold hostHeaders
  dsimp only
  rw [if_neg triggered]
  split_ifs <;> simp

variable [Wire]

/-- The payload of a body, and whether it is JSON rather than a text. -/
def payload (body : String) : Option (String × Bool) :=
  if body = "" ∨ body = "null" then none
  else
    match Wire.decodeString body with
    | some text => some (text, false)
    | none => some (body, true)

/-- `http.request` from the check of the endpoint to the call of the client. -/
def Deps.prepare (deps : Deps F) (invocation : Invocation) (asked : RequestedHTTP) :
    Except String Sent := do
  let (endpoint, resolve) ← deps.grant invocation.script asked.endpoint
  let method ← requestMethod asked.method
  if absolutePath asked.path = false then
    throw "http.request: path must be an absolute path such as /v1/events"
  let headers ← requestHeaders asked.headers ∅
  let body := payload asked.body
  if boundedBody body = false then
    throw ("http.request: body exceeds " ++ toString maxRequestBody ++ " bytes")
  match resolve endpoint.urlRef with
  | none => throw (unavailable asked.endpoint)
  | some secret =>
      match Wire.parseURL (secretURL secret) with
      | none => throw ("http.request: endpoint " ++ quote asked.endpoint ++ " is misconfigured")
      | some base =>
          if base.web = false then
            throw ("http.request: endpoint " ++ quote asked.endpoint ++ " is misconfigured")
          match newRequest method (Wire.renderURL (target base asked.path)) (body.map Prod.fst) with
          | .error _ => throw "http.request: cannot build request"
          | .ok request =>
              return { endpoint := asked.endpoint, path := asked.path
                       request := { request with
                         headers := hostHeaders invocation secret (withContentType body headers) } }

/-- What a request was made of. -/
structure Prepared (deps : Deps F) (invocation : Invocation) (asked : RequestedHTTP)
    (sent : Sent) (secret : StringMap String) (base : URL) : Prop where
  granted : ∃ endpoint resolve,
    deps.grant invocation.script asked.endpoint = .ok (endpoint, resolve) ∧
      resolve endpoint.urlRef = some secret
  parsed : Wire.parseURL (secretURL secret) = some base
  scheme : sent.request.url.scheme = base.scheme
  host : sent.request.url.host = removeEmptyPort base.host
  endpoint : sent.endpoint = asked.endpoint
  path : sent.path = asked.path
  method : requestMethod asked.method = .ok sent.request.method
  body : sent.request.body = (payload asked.body).map Prod.fst
  bounded : boundedBody (payload asked.body) = true
  headers : ∃ headers, requestHeaders asked.headers ∅ = .ok headers ∧
    sent.request.headers =
      hostHeaders invocation secret (withContentType (payload asked.body) headers)

omit [Platform] in
theorem newRequest_target
    {text method path : String}
    {base : URL}
    {body : Option String}
    {request : OutgoingRequest}
    (parsed : Wire.parseURL text = some base)
    (web : base.web = true)
    (made : newRequest method (Wire.renderURL (target base path)) body = .ok request) :
    request.method = method ∧ request.body = body ∧ request.url.scheme = base.scheme ∧
      request.url.host = removeEmptyPort base.host := by
  unfold newRequest at made
  split at made
  · cases made
  · next url read =>
      cases made
      have same : url.scheme = base.scheme ∧ url.host = base.host := by
        unfold target at read
        dsimp only at read
        split at read
        · exact Wire.points text base _ _ url parsed web read
        · exact Wire.points text base _ _ url parsed web read
      exact ⟨rfl, rfl, same.1, congrArg removeEmptyPort same.2⟩

omit [Platform] [Wire] in
theorem ok_of_bind
    {α β : Type}
    {first : Except String α}
    {rest : α → Except String β}
    {result : β}
    (made : first >>= rest = .ok result) :
    ∃ value, first = .ok value ∧ rest value = .ok result := by
  cases first with
  | error => cases made
  | ok value => exact ⟨value, rfl, made⟩

variable {asked : RequestedHTTP}

theorem Deps.prepare_ok
    {sent : Sent}
    (prepared : deps.prepare invocation asked = .ok sent) :
    ∃ secret base, Prepared deps invocation asked sent secret base := by
  obtain ⟨⟨endpoint, resolve⟩, granted, prepared⟩ := ok_of_bind prepared
  obtain ⟨method, chosen, prepared⟩ := ok_of_bind prepared
  dsimp only at prepared
  split at prepared
  · cases prepared
  obtain ⟨headers, given, prepared⟩ := ok_of_bind prepared
  split at prepared
  · cases prepared
  next bounded =>
  split at prepared
  · cases prepared
  next secret resolved =>
  split at prepared
  · cases prepared
  next base parsed =>
  split at prepared
  · cases prepared
  next web =>
  split at prepared
  · cases prepared
  next request made =>
  cases prepared
  obtain ⟨sameMethod, sameBody, scheme, host⟩ :=
    newRequest_target parsed (Bool.of_not_eq_false web) made
  exact ⟨secret, base,
    { granted := ⟨endpoint, resolve, granted, resolved⟩
      parsed, scheme, host
      endpoint := rfl
      path := rfl
      method := sameMethod ▸ chosen
      body := sameBody
      bounded := Bool.of_not_eq_false bounded
      headers := ⟨headers, given, rfl⟩ }⟩

/-! ## Runs -/

/-- A call of a host function, with its argument as far as it could be decoded and
what the clock says. -/
inductive HostCall (F : Type)
  /-- `log.debug`, `log.info`, `log.warn` or `log.error`. -/
  | log
  /-- A function of `device`, `inventory`, `state` or `config`: they only read. -/
  | read
  | emitEvent (argument : Except String RequestedEvent) (now : Time)
  | emitMetric (argument : Except String (RequestedMetric F)) (now : Time)
  | request (argument : Except String RequestedHTTP)

/-- The checks of `http.request` before the budget is charged. -/
def admitRequest (call : Call F) (argument : Except String RequestedHTTP) :
    Except String RequestedHTTP := do
  let asked ← permit call.toInvocation (permissions call.script.kind).http "http.request" argument
  budget call.httpCalls maxHTTPCalls "http.request" "requests"
  return asked

/-- `http.request`: the budget is charged before the request is validated. -/
def Deps.request (deps : Deps F) (call : Call F) (argument : Except String RequestedHTTP) :
    Call F :=
  match admitRequest call argument with
  | .error _ => call
  | .ok asked =>
      let charged := { call with httpCalls := call.httpCalls + 1 }
      match deps.prepare call.toInvocation asked with
      | .error _ => charged
      | .ok sent => { charged with sent := call.sent ++ [sent] }

/-- What a call of a host function leaves behind. -/
def Deps.perform (deps : Deps F) (call : Call F) : HostCall F → Call F
  | .log =>
      if maxLogLines ≤ call.logLines then call else { call with logLines := call.logLines + 1 }
  | .read => call
  | .emitEvent argument now =>
      match deps.event call argument now with
      | .error _ => call
      | .ok event => { call with events := call.events ++ [event] }
  | .emitMetric argument now =>
      match deps.observation call argument now with
      | .error _ => call
      | .ok observation => { call with observations := call.observations ++ [observation] }
  | .request argument => deps.request call argument

/-- An invocation in which the script makes a sequence of calls. -/
def Deps.invoke (deps : Deps F) (invocation : Invocation) (calls : List (HostCall F)) : Call F :=
  calls.foldl deps.perform (newCall F invocation)

/-- What holds after a sequence of calls. -/
structure Within (deps : Deps F) (call : Call F) (made : List (HostCall F)) : Prop where
  charged : call.sent.length ≤ call.httpCalls
  requests : call.httpCalls ≤ maxHTTPCalls
  events : call.events.length ≤ maxEvents
  observations : call.observations.length ≤ maxObservations
  noRequests : (permissions call.script.kind).http = false → call.sent = []
  noEvents : (permissions call.script.kind).events = false → call.events = []
  noObservations : (permissions call.script.kind).metrics = false → call.observations = []
  /-- Every request was asked for and passed the checks. -/
  asked : ∀ sent ∈ call.sent, ∃ asked, .request (.ok asked) ∈ made ∧
    deps.prepare call.toInvocation asked = .ok sent

omit [Platform] [Wire] in
theorem admit_ok
    {α : Type}
    {allowed : Bool}
    {argument : Except String α}
    {value : α}
    (admitted : permit invocation allowed name argument = .ok value) :
    allowed = true ∧ argument = .ok value := by
  cases allowed <;> cases argument <;> simp_all [permit]

omit [Platform] [Wire] in
theorem budget_ok
    {used limit : ℕ}
    {things : String}
    {paid : Unit}
    (charged : budget used limit name things = .ok paid) :
    used < limit := by
  unfold budget at charged
  split_ifs at charged with full
  exact not_le.mp full

omit [Platform] [Wire] in
theorem admitRequest_ok
    {call : Call F}
    {argument : Except String RequestedHTTP}
    (admitted : admitRequest call argument = .ok asked) :
    (permissions call.script.kind).http = true ∧ argument = .ok asked ∧
      call.httpCalls < maxHTTPCalls := by
  obtain ⟨decoded, permitted, made⟩ := ok_of_bind admitted
  obtain ⟨_, charged, same⟩ := ok_of_bind made
  cases same
  exact ⟨(admit_ok permitted).1, (admit_ok permitted).2, budget_ok charged⟩

omit [Wire] in
theorem Deps.event_ok
    {call : Call F}
    {argument : Except String RequestedEvent}
    {now : Time}
    {event : Event}
    (made : deps.event call argument now = .ok event) :
    (permissions call.script.kind).events = true ∧ call.events.length < maxEvents := by
  obtain ⟨asked, admitted, made⟩ := ok_of_bind made
  obtain ⟨_, charged, -⟩ := ok_of_bind made
  exact ⟨(admit_ok admitted).1, budget_ok charged⟩

omit [Wire] in
theorem Deps.observation_ok
    {call : Call F}
    {argument : Except String (RequestedMetric F)}
    {now : Time}
    {observation : Observation F}
    (made : deps.observation call argument now = .ok observation) :
    (permissions call.script.kind).metrics = true ∧
      call.observations.length < maxObservations := by
  obtain ⟨asked, admitted, made⟩ := ok_of_bind made
  obtain ⟨_, charged, -⟩ := ok_of_bind made
  exact ⟨(admit_ok admitted).1, budget_ok charged⟩

@[simp] theorem Deps.perform_toInvocation
    (deps : Deps F)
    (call : Call F)
    (next : HostCall F) :
    (deps.perform call next).toInvocation = call.toInvocation := by
  cases next with
  | log => simp only [Deps.perform]; split_ifs <;> rfl
  | read => rfl
  | emitEvent argument now => simp only [Deps.perform]; split <;> rfl
  | emitMetric argument now => simp only [Deps.perform]; split <;> rfl
  | request argument =>
      simp only [Deps.perform, Deps.request]
      split
      · rfl
      · split <;> rfl

namespace Within

variable {deps : Deps F} {call : Call F} {made : List (HostCall F)}

theorem append
    (within : Within deps call made)
    (next : HostCall F) :
    Within deps call (made ++ [next]) :=
  { within with
    asked := fun sent listed =>
      let ⟨asked, called, prepared⟩ := within.asked sent listed
      ⟨asked, List.mem_append_left _ called, prepared⟩ }

theorem perform_request
    (within : Within deps call made)
    (argument : Except String RequestedHTTP) :
    Within deps (deps.request call argument) (made ++ [.request argument]) := by
  have kept := within.append (.request argument)
  unfold Deps.request
  split
  · exact kept
  next asked admitted =>
  obtain ⟨permitted, rfl, room⟩ := admitRequest_ok admitted
  split
  · exact { kept with
      charged := Nat.le_succ_of_le kept.charged
      requests := room }
  next sent prepared =>
  refine { kept with charged := ?_, requests := room, noRequests := ?_, asked := ?_ }
  · simpa using kept.charged
  · intro denied
    exact absurd permitted (by simp [denied])
  · intro listed member
    rcases List.mem_append.mp member with earlier | last
    · exact kept.asked listed earlier
    · rw [List.mem_singleton.mp last]
      exact ⟨asked, by simp, prepared⟩

theorem perform
    (within : Within deps call made)
    (next : HostCall F) :
    Within deps (deps.perform call next) (made ++ [next]) := by
  have kept := within.append next
  cases next with
  | log =>
      simp only [Deps.perform]
      split_ifs
      · exact kept
      · exact { kept with }
  | read => exact kept
  | emitEvent argument now =>
      simp only [Deps.perform]
      split
      · exact kept
      next event emitted =>
      obtain ⟨permitted, room⟩ := Deps.event_ok emitted
      refine { kept with events := ?_, noEvents := ?_ }
      · simpa using Nat.succ_le_of_lt room
      · intro denied
        exact absurd permitted (by simp [denied])
  | emitMetric argument now =>
      simp only [Deps.perform]
      split
      · exact kept
      next observation emitted =>
      obtain ⟨permitted, room⟩ := Deps.observation_ok emitted
      refine { kept with observations := ?_, noObservations := ?_ }
      · simpa using Nat.succ_le_of_lt room
      · intro denied
        exact absurd permitted (by simp [denied])
  | request argument => exact within.perform_request argument

end Within

/-- What holds at the end of an invocation. -/
theorem Deps.invoke_within
    (deps : Deps F)
    (invocation : Invocation)
    (calls : List (HostCall F)) :
    (deps.invoke invocation calls).toInvocation = invocation ∧
      Within deps (deps.invoke invocation calls) calls := by
  induction calls using List.reverseRecOn with
  | nil =>
      exact ⟨rfl, { charged := le_rfl, requests := Nat.zero_le _, events := Nat.zero_le _
                    observations := Nat.zero_le _, noRequests := fun _ => rfl
                    noEvents := fun _ => rfl, noObservations := fun _ => rfl, asked := nofun }⟩
  | append_singleton calls next ih =>
      rw [Deps.invoke, List.foldl_concat]
      exact ⟨(deps.perform_toInvocation _ next).trans ih.1, ih.2.perform next⟩

/-! ## Confinement -/

/-- A request goes where the configuration lets the script go, in a form that the host
decides. -/
structure Confined (deps : Deps F) (invocation : Invocation) (sent : Sent)
    (secret : StringMap String) (base : URL) : Prop where
  /-- The endpoint is named in the script's own configuration. -/
  allowed : sent.endpoint ∈ allowedEndpoints invocation.script.config
  /-- The endpoint is configured, and the secret is its secret. -/
  configured : ∃ endpoint resolve, deps.endpoints.lookup sent.endpoint = some endpoint ∧
    deps.secrets = some resolve ∧ resolve endpoint.urlRef = some secret
  parsed : Wire.parseURL (secretURL secret) = some base
  scheme : sent.request.url.scheme = base.scheme
  /-- The host, of which the client drops a colon without a port. -/
  host : sent.request.url.host = removeEmptyPort base.host
  method : sent.request.method ∈ methods
  body : ∀ body, sent.request.body = some body → body.utf8ByteSize ≤ maxRequestBody
  headers : Every (Attributed invocation secret) sent.request.headers
  /-- The credential is that of the endpoint, when it has one. -/
  authorization : sent.request.headers.lookup "Authorization" =
    if header secret "token" = "" then none else some (bearer secret)

theorem Prepared.confined
    {sent : Sent}
    {secret : StringMap String}
    {base : URL}
    (prepared : Prepared deps invocation asked sent secret base) :
    Confined deps invocation sent secret base := by
  obtain ⟨endpoint, resolve, granted, resolved⟩ := prepared.granted
  obtain ⟨allowed, configured, present⟩ := Deps.grant_ok granted
  obtain ⟨headers, given, same⟩ := prepared.headers
  have none : Every ScriptHeader ∅ := by simp [Every]
  have permitted := withContentType_every (requestHeaders_ok none given) (payload asked.body)
  refine { prepared with
    allowed := prepared.endpoint ▸ allowed
    configured := ⟨endpoint, resolve, prepared.endpoint ▸ configured, present, resolved⟩
    method := requestMethod_ok prepared.method
    body := ?_
    headers := same ▸ hostHeaders_every permitted invocation secret
    authorization := same ▸ lookup_authorization permitted invocation secret }
  intro body found
  have bounded := prepared.bounded
  rw [prepared.body, Option.map_eq_some_iff] at found
  obtain ⟨content, chosen, rfl⟩ := found
  simpa [boundedBody, chosen] using bounded

/-- Scripts that are not meant to talk to the outside world cause nothing at all; the
others keep to their budgets, and every request goes to an endpoint that was granted
to the script. -/
theorem invocation_confined
    (deps : Deps F)
    (invocation : Invocation)
    (calls : List (HostCall F)) :
    let call := deps.invoke invocation calls
    (invocation.script.kind ∈ [.transforms, .enrichers, .automation] →
      call.sent = [] ∧ call.events = [] ∧ call.observations = []) ∧
    (call.sent.length ≤ maxHTTPCalls ∧ call.events.length ≤ maxEvents ∧
      call.observations.length ≤ maxObservations) ∧
    ∀ sent ∈ call.sent, ∃ secret base, Confined deps invocation sent secret base := by
  obtain ⟨same, within⟩ := deps.invoke_within invocation calls
  refine ⟨fun pure => ?_, ⟨within.charged.trans within.requests, within.events,
    within.observations⟩, fun sent listed => ?_⟩
  · have denied : permissions (deps.invoke invocation calls).script.kind =
        ⟨false, false, false⟩ := by
      rw [same]
      simp only [List.mem_cons, List.not_mem_nil, or_false] at pure
      rcases pure with kind | kind | kind <;> rw [kind] <;> rfl
    exact ⟨within.noRequests (by rw [denied]), within.noEvents (by rw [denied]),
      within.noObservations (by rw [denied])⟩
  · obtain ⟨asked, -, prepared⟩ := within.asked sent listed
    rw [same] at prepared
    obtain ⟨secret, base, made⟩ := deps.prepare_ok prepared
    exact ⟨secret, base, made.confined⟩

end HostApi
end InfraObserver
