import ChatGateway.Http.Target

/-!
Which endpoint a path leads to. Every endpoint of a tenant has two paths: one with the tenant's
token, and one without it for clients that send the token in a header. Fixed segments win over
variable ones, the earlier segment deciding.
-/

namespace ChatGateway.Http

inductive Endpoint where
  | health
  | detailedHealth
  | info
  | pair
  | receive
  | message
  | send
  | webhooks
  | toggle
  | tenant
  | socket
  deriving DecidableEq, Repr

namespace Endpoint

def methods : Endpoint → List String
  | health | detailedHealth | info | receive | socket => ["GET"]
  | pair | send | toggle => ["POST"]
  | message => ["GET", "DELETE"]
  | webhooks => ["GET", "POST", "DELETE"]
  | tenant => ["DELETE"]

/-- HEAD is answered where GET is. -/
def answers (e : Endpoint) (method : String) : Bool :=
  e.methods.contains method || (method == "HEAD" && e.methods.contains "GET")

end Endpoint

inductive Segment where
  | fixed (text : String)
  | token
  | id
  deriving DecidableEq, Repr

structure Route where
  pattern : List Segment
  endpoint : Endpoint
  deriving Repr

namespace Route

def ofTenant : List Route :=
  [⟨[.fixed "info"], .info⟩, ⟨[.fixed "pair"], .pair⟩, ⟨[.fixed "receive"], .receive⟩,
    ⟨[.fixed "message", .id], .message⟩, ⟨[.fixed "send"], .send⟩,
    ⟨[.fixed "webhooks"], .webhooks⟩, ⟨[.fixed "webhooks", .fixed "toggle"], .toggle⟩]

def under (before : List Segment) (r : Route) : Route := { r with pattern := before ++ r.pattern }

/-- Every path, those with fixed segments before those with variable ones in their place. -/
def all : List Route :=
  [⟨[.fixed "health"], .health⟩, ⟨[.fixed "health", .fixed "detailed"], .detailedHealth⟩,
    ⟨[.fixed "ws"], .socket⟩] ++
  ofTenant.map (under [.fixed "api"]) ++
  ofTenant.map (under [.fixed "api", .token]) ++
  [⟨[.fixed "api", .token], .tenant⟩]

/-- The variable segments of a path that fits a pattern. The last segment must not be empty. -/
def fit : List Segment → List (List Char) → Option (List (Segment × List Char))
  | [], [] => some []
  | .fixed text :: pattern, part :: parts =>
    if text.toList = part then fit pattern parts else none
  | s :: pattern, part :: parts =>
    if pattern.isEmpty && part.isEmpty then none else (fit pattern parts).map ((s, part) :: ·)
  | _, _ => none

def find? (parts : List (List Char)) : Option (Endpoint × List (Segment × List Char)) :=
  all.findSome? fun r => (fit r.pattern parts).map (r.endpoint, ·)

end Route

end ChatGateway.Http
