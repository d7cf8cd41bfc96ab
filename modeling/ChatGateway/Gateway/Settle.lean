import ChatGateway.Gateway.Basic

namespace ChatGateway.Gateway

def forEach (g : Gateway) (act : Hosted → Hosted) : Gateway :=
  g.tenants.foldl (fun g t => match g.find? t.token with
    | some h => g.put (act h)
    | none => g) g

def hears (g : Gateway) (id : Session.LinkId) : Bool := g.tenants.any (·.heard == some id)

def settle (g : Gateway) (net : Network) : Gateway :=
  let g := g.forEach Hosted.takeEvents
  let exchange := g.host.exchange.dropUnheard g.hears
  { g with host := { g.host with exchange := exchange } }.forEach (·.deliver net)

end ChatGateway.Gateway
