import ChatGateway.Tenant.Basic

namespace ChatGateway.Hosted

/-- Post records to a webhook from now on; one of the same address gets the new settings. -/
def attach (h : Hosted) (w : Webhook) : Hosted :=
  let t := h.tenant
  if Keyed.has Webhook.url w.url t.webhooks then
    { h with tenant := { t with
        webhooks := Keyed.modify Webhook.url w.url (·.applySettings w) t.webhooks } }
  else
    -- The times that came with the webhook are kept.
    { h with tenant := { t with
        fanout := (t.fanout.register (Webhook.subscriberId w.url)).1
        webhooks := t.webhooks ++ [w] } }

def attachAll (h : Hosted) (ws : List Webhook) : Hosted := ws.foldl attach h

def isWebAddress (url : String) : Bool :=
  Text.beginsWith url "http://" || Text.beginsWith url "https://"

def addWebhook (h : Hosted) (w : Webhook) : Hosted × Except Failure Webhook :=
  -- Only here are the blanks around an address left out.
  let url := Text.trim w.url
  if !isWebAddress url then (h, .error (.validation ("invalid webhook url: '" ++ url ++ "'")))
  else
    let w := { w with url := url, token := h.tenant.token }
    let h := { h with host := { h.host with repository := h.host.repository.putWebhook w } }
    let h := h.attach w
    (h, .ok ((h.tenant.webhook? url).getD w))

def removeWebhook (h : Hosted) (url : String) : Hosted × Bool :=
  let t := h.tenant
  let (repository, affected) := h.host.repository.removeWebhook t.token url
  let h := { h with host := { h.host with repository := repository } }
  if Keyed.has Webhook.url url t.webhooks then
    let (fanout, removed) := t.fanout.unregister (Webhook.subscriberId url)
    ({ h with tenant := { t with fanout := fanout
                                 webhooks := Keyed.erase Webhook.url url t.webhooks } },
      removed || 0 < affected)
  else (h, 0 < affected)

def toggleWebhook (h : Hosted) (url : String) (option : WebhookOption) :
    Hosted × Except Failure String :=
  match h.tenant.webhook? url with
  | none => (h, .error (.notFound ("webhook '" ++ url ++ "' not found")))
  | some w =>
    let (w', value) := w.toggle option
    ({ tenant := { h.tenant with
         webhooks := Keyed.modify Webhook.url url (·.applySettings w') h.tenant.webhooks }
       host := { h.host with repository := h.host.repository.putWebhook w' } }, .ok value)

end ChatGateway.Hosted
