import ChatGateway.Delivery.Queue
import ChatGateway.Keyed

namespace ChatGateway.Delivery

structure Registration where
  id : String
  queue : Queue
  deriving Repr

structure Fanout where
  capacity : Nat
  registrations : List Registration := []
  cancelled : Bool := false
  deriving Repr

namespace Fanout

def register (f : Fanout) (id : String) : Fanout × Bool :=
  if Keyed.has Registration.id id f.registrations then (f, false)
  else
    let queue := { Queue.ofCapacity f.capacity with cancelled := f.cancelled }
    ({ f with registrations := f.registrations ++ [⟨id, queue⟩] }, true)

def unregister (f : Fanout) (id : String) : Fanout × Bool :=
  ({ f with registrations := Keyed.erase Registration.id id f.registrations },
    Keyed.has Registration.id id f.registrations)

def clear (f : Fanout) : Fanout := { f with registrations := [] }

def cancel (f : Fanout) : Fanout :=
  { f with
    cancelled := true
    registrations := f.registrations.map fun r => { r with queue := r.queue.close } }

def shutdown (f : Fanout) : Fanout := f.cancel.clear

def submitAll (m : Message) : List Registration → Metrics → List Registration × Metrics × Nat
  | [], k => ([], k, 0)
  | r :: rest, k =>
    let (queue, k, result) := r.queue.submit m k
    let (rest, k, n) := submitAll m rest k
    (⟨r.id, queue⟩ :: rest, k, match result with
      | .ok _ => n + 1
      | .error _ => n)

/-- Queue a record for every subscriber; gives the number of queues that took it. -/
def submit (f : Fanout) (m : Message) (k : Metrics) : Fanout × Metrics × Nat :=
  let (registrations, k, n) := submitAll m f.registrations k
  ({ f with registrations := registrations }, k, n)

def isAttached (f : Fanout) : Bool := !f.registrations.isEmpty

def subscriberIds (f : Fanout) : List String := f.registrations.map Registration.id

variable {σ : Type}

def runAll (deliver : String → Subscriber σ) : List Registration → Metrics → σ →
    List Registration × Metrics × σ
  | [], k, s => ([], k, s)
  | r :: rest, k, s =>
    let (queue, k, s) := r.queue.run (deliver r.id) k s
    let (rest, k, s) := runAll deliver rest k s
    (⟨r.id, queue⟩ :: rest, k, s)

/-- Every worker runs until it can do no more. -/
def run (deliver : String → Subscriber σ) (f : Fanout) (k : Metrics) (s : σ) :
    Fanout × Metrics × σ :=
  let (registrations, k, s) := runAll deliver f.registrations k s
  ({ f with registrations := registrations }, k, s)

end Fanout

end ChatGateway.Delivery
