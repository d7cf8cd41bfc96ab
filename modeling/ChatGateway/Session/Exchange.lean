import ChatGateway.Session.Link
import ChatGateway.Tenant.Profile

namespace ChatGateway.Session

structure Exchange where
  links : List Link := []
  latest : List (String × LinkId) := []
  nextId : LinkId := 0
  deriving Inhabited

namespace Exchange

def connect (x : Exchange) (p : Profile) : Except Failure (Exchange × Link) :=
  match p.identity with
  | none => .error (.unavailable "tenant is not paired")
  | some wid =>
    let link := Link.opened x.nextId wid
    .ok ({ links := x.links ++ [link]
           latest := Keyed.put Prod.fst (p.token, x.nextId) x.latest
           nextId := x.nextId + 1 }, link)

def link? (x : Exchange) (id : LinkId) : Option Link := Keyed.find? Link.id id x.links

def latest? (x : Exchange) (token : String) : Option Link :=
  (x.latest.lookup token).bind x.link?

def update (x : Exchange) (l : Link) : Exchange :=
  { x with links := Keyed.put Link.id l x.links }

/-- Try something on a session, which is left alone if it fails. -/
def attempt (x : Exchange) (id : LinkId) (act : Link → Except Failure Link) :
    Exchange × Except Failure Unit :=
  match x.link? id with
  | none => (x, .error (.unavailable "connection closed"))
  | some l => match act l with
    | .ok l' => (x.update l', .ok ())
    | .error e => (x, .error e)

def modify (x : Exchange) (id : LinkId) (change : Link → Link) : Exchange :=
  { x with links := Keyed.modify Link.id id change x.links }

def takeEvents (x : Exchange) (id : LinkId) : Exchange × List Event :=
  match x.link? id with
  | none => (x, [])
  | some l => (x.update { l with mailbox := [] }, l.mailbox)

/-- Sessions no tenant listens to take no more events. -/
def dropUnheard (x : Exchange) (heard : LinkId → Bool) : Exchange :=
  { x with links := x.links.map fun l => if heard l.id then l else l.stopListening }

end Exchange

end ChatGateway.Session
