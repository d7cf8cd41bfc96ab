import ChatGateway.Tenant.Events

namespace ChatGateway

namespace Webhook

/-- The deliveries of the webhooks of a tenant, told apart by subscriber. A record for a webhook
that is gone is skipped. -/
def deliverTo (office : PostOffice) (net : Network) (wid : Option String) (id : String) :
    Delivery.Subscriber (List Webhook × Clock) := fun m (webhooks, clock) =>
  match webhooks.find? (subscriberId ·.url == id) with
  | none => some (.skipped, webhooks, clock)
  | some w =>
    let (outcome, w, clock) := w.deliver office net wid m clock
    some (outcome, Keyed.put Webhook.url w webhooks, clock)

end Webhook

namespace Hosted

def takeEvents (h : Hosted) : Hosted :=
  match h.tenant.heard with
  | none => h
  | some id =>
    let (exchange, events) := h.host.exchange.takeEvents id
    events.foldl handle { h with host := { h.host with exchange := exchange } }

def deliver (h : Hosted) (net : Network) : Hosted :=
  let (fanout, metrics, webhooks, clock) :=
    h.tenant.fanout.run (Webhook.deliverTo h.host.office net h.tenant.wid) h.host.metrics
      (h.tenant.webhooks, h.host.clock)
  { tenant := { h.tenant with fanout := fanout, webhooks := webhooks }
    host := { h.host with metrics := metrics, clock := clock } }

def settle (h : Hosted) (net : Network) : Hosted :=
  let h := h.takeEvents
  let exchange := h.host.exchange.dropUnheard fun id => h.tenant.heard == some id
  { h with host := { h.host with exchange := exchange } }.deliver net

end Hosted

end ChatGateway
