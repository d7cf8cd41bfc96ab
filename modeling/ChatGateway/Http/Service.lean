import ChatGateway.Gateway.Directory
import ChatGateway.Http.MediaType
import ChatGateway.Http.Message
import ChatGateway.Http.Route
import ChatGateway.Json.Stream
import ChatGateway.Number.Integer

/-!
The HTTP interface of a gateway. Of several faults of a request the first in this order counts:
the tenant's token, the variable segments of the path, the query or body, the rules on their
members, and then what the gateway says.
-/

namespace ChatGateway.Http

def version : String := "0.1.0"

structure Call where
  request : Request
  captured : List (Segment × List Char)

/-- The steps of an endpoint end early with the reply to a fault. -/
abbrev Answer (α : Type) := Except Reply α

namespace Call

variable {σ : Type}

def decoded? (c : Call) : Option (List (Segment × String)) :=
  c.captured.mapM fun v => (Text.Utf8.decode? (percentDecode v.2)).map (v.1, ·)

/-- The tenant a request is for: named by the path, or else by a header. -/
def token (c : Call) : Answer String :=
  -- One segment that is not UTF-8 hides the token beside it.
  let fromPath := (c.decoded?.bind (·.lookup .token)).map Text.trim
  let fromHeader := (c.request.asciiHeader? "x-wagate-token").map Text.trim
  match fromPath.filter (!·.isEmpty), fromHeader.filter (!·.isEmpty) with
  | some token, _ => .ok token
  | none, some token => .ok token
  | none, none => .error (.ofFailure (.authentication "Missing tenant token"))

def segments (c : Call) : Answer (List (Segment × String)) :=
  match c.decoded? with
  | some vs => .ok vs
  | none => .error (.bare 400)

def messageId (vs : List (Segment × String)) : Answer String :=
  match ((vs.lookup .id).map Text.trim).filter (!·.isEmpty) with
  | some id => .ok id
  | none => .error (.ofFailure (.validation "Missing path parameter: id"))

def query {α : Type} (c : Call) (name : String) (read : String → Option α) : Answer (Option α) :=
  match c.request.target.queryValue name with
  | .error _ => .error (.bare 400)
  | .ok none => .ok none
  | .ok (some text) => match read text with
    | some a => .ok (some a)
    | none => .error (.bare 400)

/-- The structure in the body, which has to be declared as JSON and must not be over the limit. -/
def body (c : Call) (limit : Nat) (fields : List (Field σ)) (start : σ) : Answer σ :=
  if !((c.request.asciiHeader? "content-type").map MediaType.isJson).getD false then
    .error (.bare 415)
  else if limit < Text.Utf8.size c.request.body then .error (.bare 413)
  else match Json.readText fields start c.request.body with
    | .ok s => .ok s
    | .error .syntaxError => .error (.bare 400)
    | .error .wrongShape => .error (.bare 422)

end Call

def orFail {α : Type} : Except Failure α → Answer α := Except.mapError Reply.ofFailure

structure PairRequest where
  wid : String := ""

namespace PairRequest

def fields : List (Field PairRequest) :=
  [.req "wid" Decoder.string (fun v r => { r with wid := v })]

def violations (r : PairRequest) : List Violation :=
  Violation.missing "wid" r.wid "wid is required"

end PairRequest

structure ToggleRequest where
  url : String := ""
  option : String := ""

namespace ToggleRequest

def fields : List (Field ToggleRequest) :=
  [.req "url" Decoder.string (fun v r => { r with url := v }),
   .req "option" Decoder.string (fun v r => { r with option := v })]

def violations (r : ToggleRequest) : List Violation :=
  Violation.missing "url" r.url "Webhook url is required" ++
    Violation.missing "option" r.option "Option is required"

end ToggleRequest

structure Service where
  gateway : Gateway
  startedAt : Instant

namespace Service

variable {α : Type}

def act (s : Service) (step : Gateway → Gateway × Except Failure α) (reply : α → Reply) :
    Service × Reply :=
  let (g, result) := step s.gateway
  ({ s with gateway := g }, match result with
    | .ok a => reply a
    | .error f => .ofFailure f)

def view (s : Service) (answer : Answer Json) : Service × Reply :=
  (s, match answer with
    | .ok data => .success data
    | .error reply => reply)

def uptime (s : Service) : Service × Nat :=
  let (now, host) := s.gateway.host.now
  ({ s with gateway := { s.gateway with host := host } },
    (now.second - s.startedAt.second).toNat)

def healthMembers (healthy : Bool) (uptime : Nat) : List (String × Json) :=
  [("status", .str (if healthy then "ok" else "degraded")), ("version", .str version),
    ("uptime_seconds", .ofNat uptime)]

def health (s : Service) : Service × Reply :=
  let (s, uptime) := s.uptime
  (s, .success (.obj (healthMembers true uptime)))

def detailedHealth (s : Service) : Service × Reply :=
  let (s, uptime) := s.uptime
  let g := s.gateway
  (s, .success (.obj (healthMembers g.isHealthy uptime ++
    [("database", .str (if g.isHealthy then "connected" else "unavailable")),
      ("tenants", .ofNat g.tenants.length),
      ("push_connections", .ofNat g.host.hub.connectionCount),
      ("delivery", g.host.metrics.toJson), ("push", g.host.hub.metrics.toJson)])))

def info (s : Service) (c : Call) : Service × Reply :=
  s.view do
    let h ← orFail (s.gateway.get (← c.token))
    return h.info.toJson

def bodyLimit (s : Service) : Nat := s.gateway.host.settings.server.bodyLimit

def pair (s : Service) (c : Call) : Service × Reply :=
  let request : Answer (String × PairRequest) := do
    let token ← c.token
    let r ← c.body s.bodyLimit PairRequest.fields {}
    orFail (Violation.check r.violations)
    return (token, r)
  match request with
  | .error reply => (s, reply)
  | .ok (token, r) => s.act (·.pair token r.wid) fun i => .success i.toJson

def since (seconds : Option Int) : Answer (Option Instant) :=
  match seconds with
  | none => .ok none
  | some n => match Instant.ofSeconds? n with
    | some t => .ok (some t)
    | none => .error (.ofFailure (.validation ("Invalid timestamp: " ++ toString n)))

def receive (s : Service) (c : Call) : Service × Reply :=
  s.view do
    let token ← c.token
    let seconds ← c.query "timestamp" Number.signed64?
    let h ← orFail (s.gateway.get token)
    return .arr ((h.receive (← since seconds)).map Message.toJson)

def getMessage (s : Service) (c : Call) : Service × Reply :=
  s.view do
    let token ← c.token
    let id ← Call.messageId (← c.segments)
    let h ← orFail (s.gateway.get token)
    return Json.ofOption Message.toJson (h.tenant.messages.get? id)

def revoke (s : Service) (c : Call) : Service × Reply :=
  let request : Answer (String × String × Bool) := do
    let token ← c.token
    let vs ← c.segments
    let byBeginning ← c.query "prefix" boolean?
    return (token, ← Call.messageId vs, byBeginning.getD false)
  match request with
  | .error reply => (s, reply)
  | .ok (token, id, byBeginning) =>
    s.act (·.withTenant token (·.revoke id byBeginning)) fun report => .success report.toJson

def send (s : Service) (c : Call) : Service × Reply :=
  let request : Answer (String × Outbound.Request) := do
    let token ← c.token
    return (token, ← c.body s.bodyLimit Outbound.Request.fields {})
  match request with
  | .error reply => (s, reply)
  | .ok (token, r) => s.act (·.send token r) fun m => .success (Outbound.receipt m)

def listWebhooks (s : Service) (c : Call) : Service × Reply :=
  s.view do
    let h ← orFail (s.gateway.get (← c.token))
    return .arr (h.tenant.webhookList.map Webhook.toJson)

def addWebhook (s : Service) (c : Call) : Service × Reply :=
  let request : Answer (String × Webhook) := do
    let token ← c.token
    return (token, ← c.body s.bodyLimit Webhook.fields { url := "" })
  match request with
  | .error reply => (s, reply)
  | .ok (token, w) => s.act (·.addWebhook token w) fun w => .success w.toJson

def removeWebhook (s : Service) (c : Call) : Service × Reply :=
  let request : Answer (String × String) := do
    let token ← c.token
    match ← c.query "url" some with
    | none => .error (.bare 400)
    | some url =>
      orFail (Violation.check (Violation.missing "url" url "Webhook url is required"))
      return (token, url)
  match request with
  | .error reply => (s, reply)
  | .ok (token, url) => s.act (·.removeWebhook token url) fun removed =>
    if removed then .note "Webhook removed"
    else .ofFailure (.notFound ("webhook '" ++ url ++ "' not found"))

def toggle (s : Service) (c : Call) : Service × Reply :=
  let request : Answer (String × String × WebhookOption) := do
    let token ← c.token
    let r ← c.body s.bodyLimit ToggleRequest.fields {}
    orFail (Violation.check r.violations)
    return (token, r.url, ← orFail (WebhookOption.parse r.option))
  match request with
  | .error reply => (s, reply)
  | .ok (token, url, option) => s.act (·.toggleWebhook token url option) fun value =>
    .success (.obj [("url", .str url), ("option", option.toJson), ("value", .str value)])

def deleteTenant (s : Service) (c : Call) : Service × Reply :=
  match c.token with
  | .error reply => (s, reply)
  | .ok token => s.act (fun g => ((g.delete token).1, .ok (g.delete token).2)) fun existed =>
    if existed then .note "Tenant deleted"
    else .ofFailure (.notFound ("tenant '" ++ token ++ "' not found"))

/-- What the interface says to a request to open a push connection. A well-formed one is refused
as well, since the connection it came on cannot be taken over. -/
def openSocket (r : Request) : Reply :=
  let has (name value : String) : Bool :=
    (r.header? name).map Text.lowerAsciiText == some value
  let isUpgrade := ((r.header? "connection").map fun v =>
    Text.occursIn "upgrade".toList (Text.lowerAsciiText v).toList).getD false
  if r.method != "GET" then .bare 405
  else if isUpgrade && has "upgrade" "websocket" && (r.header? "sec-websocket-key").isSome &&
    has "sec-websocket-version" "13" then .bare 426
  else .bare 400

def answer (s : Service) (e : Endpoint) (c : Call) : Service × Reply :=
  match e with
  | .health => s.health
  | .detailedHealth => s.detailedHealth
  | .info => s.info c
  | .pair => s.pair c
  | .receive => s.receive c
  | .message => if c.request.method == "DELETE" then s.revoke c else s.getMessage c
  | .send => s.send c
  | .webhooks =>
    if c.request.method == "POST" then s.addWebhook c
    else if c.request.method == "DELETE" then s.removeWebhook c
    else s.listWebhooks c
  | .toggle => s.toggle c
  | .tenant => s.deleteTenant c
  | .socket => (s, openSocket c.request)

def dispatch (s : Service) (r : Request) : Service × Reply :=
  match r.target.segments?.bind Route.find? with
  | none => (s, .bare 404)
  | some (e, captured) =>
    if !e.answers r.method then (s, .bare 405)
    else
      let (s, reply) := s.answer e ⟨r, captured⟩
      (s, if r.method == "HEAD" then { reply with body := none } else reply)

end Service

end ChatGateway.Http
