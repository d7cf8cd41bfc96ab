import ChatGateway.Outbound.Request
import ChatGateway.Tenant.Info
import ChatGateway.Tenant.Lifecycle
import ChatGateway.Tenant.Outgoing
import ChatGateway.Tenant.Settle
import ChatGateway.Tenant.Webhooks

namespace ChatGateway

structure Gateway where
  host : Host
  tenants : List Tenant := []
  closing : Bool := false

namespace Gateway

def open? (settings : Settings) (clock : Clock) : Except Failure Gateway :=
  (Host.open? settings clock).map fun host => { host := host }

def has (g : Gateway) (token : String) : Bool := Keyed.has Tenant.token token g.tenants

def tokens (g : Gateway) : List String := (g.tenants.map Tenant.token).mergeSort (· ≤ ·)

def find? (g : Gateway) (token : String) : Option Hosted :=
  (Keyed.find? Tenant.token token g.tenants).map fun t => ⟨t, g.host⟩

def put (g : Gateway) (h : Hosted) : Gateway :=
  { g with host := h.host, tenants := Keyed.put Tenant.token h.tenant g.tenants }

def remove (g : Gateway) (token : String) : Gateway :=
  { g with tenants := Keyed.erase Tenant.token token g.tenants }

def get (g : Gateway) (token : String) : Except Failure Hosted :=
  match g.find? token with
  | some h => .ok h
  | none => .error (.notFound ("tenant '" ++ token ++ "' not found"))

variable {α : Type}

def withTenant (g : Gateway) (token : String) (act : Hosted → Hosted × Except Failure α) :
    Gateway × Except Failure α :=
  match g.get token with
  | .error e => (g, .error e)
  | .ok h =>
    let (h, result) := act h
    (g.put h, result)

end Gateway

end ChatGateway
