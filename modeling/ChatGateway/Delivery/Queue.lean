import ChatGateway.Delivery.Metrics
import ChatGateway.Message.Basic

/-!
One subscriber's queue and the worker that drains it. Submitting never waits: a record that finds
no room is dropped for this subscriber alone. The worker delivers one record at a time, in the
order of submission, and once the queue is cancelled it starts no further delivery.
-/

namespace ChatGateway.Delivery

inductive SubmitError where
  | full
  | closed
  deriving DecidableEq, Repr

namespace SubmitError

def message : SubmitError → String
  | full => "delivery queue is full"
  | closed => "delivery queue is closed"

end SubmitError

structure Queue where
  capacity : Nat
  waiting : List Message := []
  inFlight : Option Message := none
  cancelled : Bool := false
  deriving Repr

namespace Queue

def ofCapacity (n : Nat) : Queue := { capacity := max n 1 }

def submit (q : Queue) (m : Message) (k : Metrics) : Queue × Metrics × Except SubmitError Unit :=
  if q.cancelled then (q, k.refused, .error .closed)
  else if q.capacity ≤ q.waiting.length then (q, k.refused, .error .full)
  else ({ q with waiting := q.waiting ++ [m] }, k.accepted, .ok ())

def take (q : Queue) : Queue :=
  match q.cancelled, q.inFlight, q.waiting with
  | false, none, m :: rest => { q with waiting := rest, inFlight := some m }
  | _, _, _ => q

/-- The delivery in flight ends; when the worker was told to stop nobody hears of it. -/
def finish (q : Queue) (outcome : Outcome) (k : Metrics) : Queue × Metrics :=
  match q.cancelled, q.inFlight with
  | false, some _ => ({ q with inFlight := none }, k.finished outcome)
  | _, _ => (q, k)

def close (q : Queue) : Queue := { q with cancelled := true }

/-- A worker told to stop leaves, and what it had is abandoned. -/
def halt (q : Queue) : Queue :=
  if q.cancelled then { q with waiting := [], inFlight := none } else q

def pending (q : Queue) : Nat := q.waiting.length

end Queue

/-- A subscriber's side of a delivery: how it ends and what the subscriber becomes, or nothing as
long as the subscriber holds the record. -/
abbrev Subscriber (σ : Type) := Message → σ → Option (Outcome × σ)

namespace Queue

variable {σ : Type}

def deliverAll (deliver : Subscriber σ) : List Message → Metrics → σ →
    (Option Message × List Message) × Metrics × σ
  | [], k, s => ((none, []), k, s)
  | m :: rest, k, s =>
    match deliver m s with
    | none => ((some m, rest), k, s)
    | some (outcome, s') => deliverAll deliver rest (k.finished outcome) s'

/-- The worker runs until it has nothing left to do, is held, or is told to stop. -/
def run (deliver : Subscriber σ) (q : Queue) (k : Metrics) (s : σ) : Queue × Metrics × σ :=
  if q.cancelled then (q.halt, k, s)
  else
    let ((held, rest), k', s') := deliverAll deliver (q.inFlight.toList ++ q.waiting) k s
    ({ q with inFlight := held, waiting := rest }, k', s')

end Queue

end ChatGateway.Delivery
