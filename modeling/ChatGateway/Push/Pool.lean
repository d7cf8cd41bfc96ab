import ChatGateway.Push.Handle
import ChatGateway.Keyed

/-!
Which connections are registered and which tokens they are bound to. Bindings do not depend on
registration: an unregistered connection can be bound, and is passed over when records are pushed.
The bindings are kept in two indexes, by token to find the connections a record goes to, and by
connection to find what to drop when it is removed.
-/

namespace ChatGateway.Push

/-- A set for each key; the sets are lists without repetitions. -/
abbrev Index (κ β : Type) := List (κ × List β)

namespace Index

variable {κ β : Type} [BEq κ] [BEq β]

def including (b : β) (members : List β) : List β :=
  if members.contains b then members else members ++ [b]

def setOf (k : κ) (index : Index κ β) : List β := (index.lookup k).getD []

def link (k : κ) (b : β) (index : Index κ β) : Index κ β :=
  Keyed.put Prod.fst (k, including b (setOf k index)) index

/-- Take a member out of the set of a key; a set that is empty then goes with its key. -/
def unlink (b : β) (index : Index κ β) (k : κ) : Index κ β :=
  match index.lookup k with
  | none => index
  | some members =>
    let left := members.filter (· != b)
    if left.isEmpty then Keyed.erase Prod.fst k index
    else Keyed.put Prod.fst (k, left) index

end Index

structure Pool where
  registered : List ConnectionId := []
  byToken : Index String ConnectionId := []
  tokensOf : Index ConnectionId String := []
  deriving Repr

namespace Pool

def add (p : Pool) (id : ConnectionId) : Pool :=
  { p with registered := Index.including id p.registered }

def isRegistered (p : Pool) (id : ConnectionId) : Bool := p.registered.contains id

def boundTo (p : Pool) (token : String) : List ConnectionId := Index.setOf token p.byToken

def tokens (p : Pool) (id : ConnectionId) : List String := Index.setOf id p.tokensOf

def bind (p : Pool) (id : ConnectionId) (token : String) : Pool × Bool :=
  ({ p with
      byToken := Index.link token id p.byToken
      tokensOf := Index.link id token p.tokensOf }, !(p.boundTo token).contains id)

/-- Unregister a connection and take it out of the sets of the tokens it is bound to; tells whether
it was registered. -/
def remove (p : Pool) (id : ConnectionId) : Pool × Bool :=
  ({ registered := p.registered.filter (· != id)
     byToken := (p.tokens id).foldl (Index.unlink id) p.byToken
     tokensOf := Keyed.erase Prod.fst id p.tokensOf }, p.isRegistered id)

def reached (p : Pool) (token : String) : List ConnectionId :=
  (p.boundTo token).filter p.isRegistered

def connectionCount (p : Pool) : Nat := p.registered.length

def tokenCount (p : Pool) : Nat := p.byToken.length

end Pool

end ChatGateway.Push
