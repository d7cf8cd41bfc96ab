import ChatGateway.Message.Basic
import ChatGateway.Keyed

namespace ChatGateway.Cache

/-- A tenant's recent messages, one of each key, in key order. The number of entries is kept beside
them, and is what decides whether anything has to go. -/
structure Messages where
  entries : List Message := []
  count : Int := 0
  deriving Repr

namespace Messages

def insert (m : Message) : List Message → List Message
  | [] => [m]
  | e :: rest =>
    if m.key < e.key then m :: e :: rest
    else if m.key = e.key then m :: rest
    else e :: insert m rest

/-- Keep a message; tells whether it is new or of other content than the one it replaces. -/
def put (c : Messages) (m : Message) : Messages × Bool :=
  match Keyed.find? Message.key m.key c.entries with
  | some previous => ({ c with entries := insert m c.entries }, !previous.sameContent m)
  | none => (⟨insert m c.entries, c.count + 1⟩, true)

def get? (c : Messages) (id : String) : Option Message :=
  Keyed.find? Message.key (Message.keyOf id) c.entries

/-- The messages whose ids begin as given, in whatever case. -/
def startingWith (c : Messages) (beginning : String) : List Message :=
  c.entries.filter fun m => Text.beginsWith m.key (Message.keyOf beginning)

def since (c : Messages) (t : Instant) : List Message :=
  c.entries.filter fun m => t.before m.timestamp

def ordered (c : Messages) : List Message := Message.chronological c.entries

/-- The earliest message with a real time that has passed. -/
def oldest? (c : Messages) (now : Instant) : Option Message :=
  (Message.chronological
    (c.entries.filter fun m => m.hasTimestamp && m.timestamp.before now)).head?

def deleteKey (c : Messages) (key : String) : Messages × Option Message :=
  match Keyed.find? Message.key key c.entries with
  | some m => (⟨Keyed.erase Message.key key c.entries, c.count - 1⟩, some m)
  | none => (c, none)

def delete (c : Messages) (id : String) : Messages × Option Message :=
  c.deleteKey (Message.keyOf id)

/-- Take out the earliest messages until at most `max` are left, and tell how many went. No bound
is set by 0. -/
def cleanUp (c : Messages) (max : Nat) : Messages × Nat :=
  if max = 0 ∨ c.count ≤ max then (c, 0)
  else
    -- How many go depends on the entries, not on the counter.
    let victims := (c.ordered.take (c.entries.length - max)).map Message.key
    (victims.foldl (fun c key => (c.deleteKey key).1) c, victims.length)

def clear (_ : Messages) : Messages := {}

end Messages

end ChatGateway.Cache
