import ChatGateway.Gateway.Basic

namespace ChatGateway.Gateway

def retire (g : Gateway) (token : String) : Gateway :=
  match g.find? token with
  | some h => { g with host := h.shutdown.host }
  | none => g

/-- Load a stored tenant with its webhooks, in place of one loaded before under its token. -/
def load (g : Gateway) (p : Profile) : Gateway :=
  let g := g.retire p.token
  let tenant := Tenant.ofProfile g.host.settings p g.closing
  g.put (Hosted.attachAll ⟨tenant, g.host⟩ (g.host.repository.webhooksOf p.token))

/-- Open the session of a loaded tenant; it is no matter if that fails. -/
def startTenant (g : Gateway) (token : String) : Gateway :=
  match g.find? token with
  | none => g
  | some h => g.put h.start.1

/-- Load a stored tenant, and start it unless it has to be paired again. -/
def loadAndStart (g : Gateway) (p : Profile) : Gateway :=
  let g := g.load p
  match g.find? p.token with
  | some h => if h.tenant.status.startsItself then g.startTenant p.token else g
  | none => g

def loadAll (g : Gateway) : Gateway × Nat :=
  let stored := g.host.repository.all
  (stored.foldl loadAndStart g, stored.length)

/-- What is stored under a token, or else a fresh tenant, which is then stored. -/
def findOrCreate (g : Gateway) (token : String) : Gateway × Profile :=
  match g.host.repository.find? token with
  | some p => (g, p)
  | none =>
    let (now, host) := g.host.now
    let p := Profile.fresh token now
    ({ g with host := host.save p }, p)

def ensureLoaded (g : Gateway) (token : String) : Gateway :=
  if g.has token then g
  else
    let (g, p) := g.findOrCreate token
    g.load p

def isTaken (g : Gateway) (wid token : String) : Bool :=
  match g.host.repository.findByWid? wid with
  | some owner => owner.token != token
  | none => false

/-- Pair a tenant with an identity, making the tenant if need be, and start it. Gives the tenant as
it is then. -/
def pair (g : Gateway) (token wid : String) : Gateway × Except Failure TenantInfo :=
  let token := Text.trim token
  let wid := Text.trim wid
  if token.isEmpty then (g, .error (.validation "token is required"))
  else if wid.isEmpty then (g, .error (.validation "wid is required"))
  else if g.isTaken wid token then
    (g, .error (.conflict ("wid '" ++ wid ++ "' is already paired with another tenant")))
  else (g.ensureLoaded token).withTenant token fun h =>
    let h := (h.pair wid).start.1
    (h, .ok h.info)

/-- Log a tenant out and remove all of it; tells whether there was one. -/
def delete (g : Gateway) (token : String) : Gateway × Bool :=
  let loaded := g.find? token
  let g := match loaded with
    | some h => { g.remove token with host := h.logout.host }
    | none => g
  -- The push connections stay bound to the token.
  let (repository, stored) := g.host.repository.delete token
  ({ g with host := { g.host with repository := repository } }, loaded.isSome || stored)

def send (g : Gateway) (token : String) (r : Outbound.Request) :
    Gateway × Except Failure Message :=
  g.withTenant token fun h =>
    let (now, host) := h.host.now
    match r.message now with
    | .error e => (h, .error e)
    | .ok m => { h with host := host }.send m

def addWebhook (g : Gateway) (token : String) (w : Webhook) : Gateway × Except Failure Webhook :=
  g.withTenant token (·.addWebhook w)

def removeWebhook (g : Gateway) (token url : String) : Gateway × Except Failure Bool :=
  g.withTenant token fun h =>
    let (h, removed) := h.removeWebhook url
    (h, .ok removed)

def toggleWebhook (g : Gateway) (token url : String) (option : WebhookOption) :
    Gateway × Except Failure String :=
  g.withTenant token (·.toggleWebhook url option)

def isHealthy (_ : Gateway) : Bool := true

def shutdown (g : Gateway) : Gateway :=
  let host := g.tenants.foldl (fun host t => (Hosted.shutdown ⟨t, host⟩).host) g.host
  { host := { host with hub := host.hub.closeAll }, tenants := [], closing := true }

end ChatGateway.Gateway
