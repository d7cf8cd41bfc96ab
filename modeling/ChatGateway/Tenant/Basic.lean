import ChatGateway.Cache.Messages
import ChatGateway.Cache.Titles
import ChatGateway.Delivery.Trigger
import ChatGateway.Session.Exchange
import ChatGateway.Store.Repository
import ChatGateway.Webhook.Post

namespace ChatGateway

structure Tenant where
  profile : Profile
  status : TenantStatus
  wid : Option String
  messages : Cache.Messages := {}
  titles : Cache.Titles := {}
  fanout : Delivery.Fanout
  webhooks : List Webhook := []
  /-- The session in use. -/
  link : Option Session.LinkId := none
  /-- The session whose events are listened to. -/
  pump : Option Session.LinkId := none
  cancelled : Bool := false

/-- What all tenants of a gateway share. -/
structure Host where
  settings : Settings
  office : PostOffice
  repository : Store.Repository := {}
  hub : Push.Hub
  exchange : Session.Exchange := {}
  metrics : Delivery.Metrics := {}
  clock : Clock
  nextId : Nat := 0

structure Hosted where
  tenant : Tenant
  host : Host

namespace Host

def open? (settings : Settings) (clock : Clock) : Except Failure Host :=
  (PostOffice.open? settings.delivery).map fun office =>
    { settings := settings, office := office, hub := { settings := settings.push }, clock := clock }

def now (h : Host) : Instant × Host :=
  let (t, clock) := h.clock.read
  (t, { h with clock := clock })

def freshNumber (h : Host) : Nat × Host := (h.nextId, { h with nextId := h.nextId + 1 })

def save (h : Host) (p : Profile) : Host :=
  let (t, h) := h.now
  { h with repository := h.repository.save p t }

end Host

namespace Tenant

/-- A tenant as it is loaded: without a session, in the status its profile implies. -/
def ofProfile (settings : Settings) (p : Profile) (cancelled : Bool) : Tenant where
  profile := p
  status := p.initialStatus
  wid := p.identity
  titles := Cache.Titles.ofSettings settings.cache
  fanout := { capacity := settings.delivery.queueCapacity, cancelled := cancelled }
  cancelled := cancelled

def token (t : Tenant) : String := t.profile.token

/-- Move on to a status, if the present one allows it; tells whether it is now in force. -/
def setStatus (t : Tenant) (next : TenantStatus) : Tenant × Bool :=
  if t.status.allows next then ({ t with status := next }, true) else (t, false)

def webhookList (t : Tenant) : List Webhook := t.webhooks.mergeSort fun a b => a.url ≤ b.url

def webhook? (t : Tenant) (url : String) : Option Webhook := Keyed.find? Webhook.url url t.webhooks

/-- Stop all work for good. Sessions and stored data are left alone. -/
def cancel (t : Tenant) : Tenant := { t with cancelled := true, fanout := t.fanout.cancel }

/-- The session whose events still reach the tenant. -/
def heard (t : Tenant) : Option Session.LinkId := if t.cancelled then none else t.pump

def readyLink (t : Tenant) : Except Failure Session.LinkId :=
  if !t.status.isReady then
    .error (.unavailable ("tenant is not ready (" ++ t.status.name ++ ")"))
  else match t.link with
    | none => .error (.unavailable "tenant has no active connection")
    | some id => .ok id

end Tenant

namespace Hosted

def options (h : Hosted) : TenantOptions := h.tenant.profile.options h.host.settings.defaults

def updateProfile (h : Hosted) (change : Profile → Profile) : Hosted :=
  let (t, host) := h.host.now
  let profile := { change h.tenant.profile with updatedAt := t }
  { tenant := { h.tenant with profile := profile }, host := host.save profile }

def setStatus (h : Hosted) (next : TenantStatus) : Hosted × Bool :=
  let (tenant, done) := h.tenant.setStatus next
  ({ h with tenant := tenant }, done)

def trigger (h : Hosted) (m : Message) : Hosted × Nat :=
  let (fanout, hub, metrics, n) :=
    h.tenant.fanout.trigger h.host.hub h.tenant.token m h.host.metrics
  ({ tenant := { h.tenant with fanout := fanout }
     host := { h.host with metrics := metrics, hub := hub } }, n)

def modifyLink (h : Hosted) (id : Session.LinkId) (change : Session.Link → Session.Link) :
    Hosted :=
  { h with host := { h.host with exchange := h.host.exchange.modify id change } }

def attempt (h : Hosted) (id : Session.LinkId)
    (act : Session.Link → Except Failure Session.Link) : Hosted × Except Failure Unit :=
  let (exchange, result) := h.host.exchange.attempt id act
  ({ h with host := { h.host with exchange := exchange } }, result)

end Hosted

end ChatGateway
