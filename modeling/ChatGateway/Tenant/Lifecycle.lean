import ChatGateway.Tenant.Events

namespace ChatGateway.Hosted

/-- Close the session in use and let go of it. -/
def dropLink (h : Hosted) : Hosted :=
  match h.tenant.link with
  | none => h
  | some id =>
    { h with tenant := { h.tenant with link := none } }.modifyLink id Session.Link.disconnect

/-- Open a session and listen to it, in place of the one before. Nothing changes if none can be
opened. -/
def start (h : Hosted) : Hosted × Except Failure Unit :=
  match h.host.exchange.connect h.tenant.profile with
  | .error e => (h, .error e)
  | .ok (exchange, link) =>
    -- The session before is closed only once there is another.
    let h := { h with host := { h.host with exchange := exchange } }.dropLink
    ({ h with tenant := { h.tenant with wid := some link.wid, link := some link.id
                                        pump := some link.id } }, .ok ())

/-- Close the session, keeping subscribers and messages. -/
def stop (h : Hosted) : Hosted :=
  ({ h with tenant := { h.tenant with pump := none } }.dropLink.setStatus .disconnected).1

def shutdown (h : Hosted) : Hosted :=
  let t := h.tenant.cancel
  { h with tenant := { t with fanout := t.fanout.clear, webhooks := [] } }.dropLink

/-- End the session on the network, if it can be reached, and stop everything. -/
def logout (h : Hosted) : Hosted :=
  match h.tenant.link with
  | some id => (h.attempt id Session.Link.logout).1.shutdown
  | none => h.shutdown

def pair (h : Hosted) (wid : String) : Hosted :=
  ((h.confirm wid).setWid wid |>.setStatus .ready).1

end ChatGateway.Hosted
