import ChatGateway.Tenant.Profile
import ChatGateway.Webhook.Basic
import ChatGateway.Keyed

namespace ChatGateway.Store

structure Repository where
  tenants : List Profile := []
  webhooks : List (String × List Webhook) := []
  deriving Inhabited

namespace Repository

def find? (r : Repository) (token : String) : Option Profile :=
  Keyed.find? Profile.token token r.tenants

def findByWid? (r : Repository) (wid : String) : Option Profile :=
  r.tenants.find? fun p => p.identity == some wid

def has (r : Repository) (token : String) : Bool := Keyed.has Profile.token token r.tenants

def all (r : Repository) : List Profile :=
  r.tenants.mergeSort fun a b => a.createdAt.notAfter b.createdAt

def save (r : Repository) (p : Profile) (now : Instant) : Repository :=
  { r with tenants := Keyed.put Profile.token { p with updatedAt := now } r.tenants }

def delete (r : Repository) (token : String) : Repository × Bool :=
  ({ tenants := Keyed.erase Profile.token token r.tenants
     webhooks := Keyed.erase Prod.fst token r.webhooks }, r.has token)

def webhooksOf (r : Repository) (token : String) : List Webhook :=
  (r.webhooks.lookup token).getD []

/-- New settings for the webhook of the same address, or else the webhook at the end. -/
def upsert (w : Webhook) : List Webhook → List Webhook
  | [] => [w]
  | v :: rest => if v.url == w.url then v.applySettings w :: rest else v :: upsert w rest

def putWebhook (r : Repository) (w : Webhook) : Repository :=
  { r with webhooks := Keyed.put Prod.fst (w.token, upsert w (r.webhooksOf w.token)) r.webhooks }

def removeWebhook (r : Repository) (token url : String) : Repository × Nat :=
  match r.webhooks.lookup token with
  | none => (r, 0)
  | some ws =>
    let kept := Keyed.erase Webhook.url url ws
    ({ r with webhooks := Keyed.put Prod.fst (token, kept) r.webhooks },
      ws.length - kept.length)

end Repository

end ChatGateway.Store
