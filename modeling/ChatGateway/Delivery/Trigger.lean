import ChatGateway.Delivery.Fanout
import ChatGateway.Push.Hub

namespace ChatGateway.Delivery.Fanout

/-- Gives the number of queues that took the record. -/
def trigger (f : Fanout) (hub : Push.Hub) (token : String) (m : Message) (k : Metrics) :
    Fanout × Push.Hub × Metrics × Nat :=
  let (f, k, n) := f.submit m k
  (f, (hub.dispatch token m).1, k, n)

end ChatGateway.Delivery.Fanout
