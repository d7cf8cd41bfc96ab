namespace ChatGateway.Push

abbrev ConnectionId := Nat

/-- A push connection: a bounded buffer, filled by the gateway and drained by the client. The
gateway takes the connection to be up while it is `alive`; the client takes frames while it is
`listening`. -/
structure Handle (φ : Type) where
  id : ConnectionId
  capacity : Nat
  buffer : List φ := []
  alive : Bool := true
  listening : Bool := true

inductive SendOutcome where
  | sent
  | dropped
  | closed
  deriving DecidableEq, Repr

namespace SendOutcome

def label : SendOutcome → String
  | sent => "sent"
  | dropped => "dropped"
  | closed => "closed"

end SendOutcome

namespace Handle

variable {φ : Type}

/-- Queue a frame. A client found to be gone takes the connection down. -/
def send (h : Handle φ) (frame : φ) : Handle φ × SendOutcome :=
  if !h.alive then (h, .closed)
  else if !h.listening then ({ h with alive := false }, .closed)
  else if h.capacity ≤ h.buffer.length then (h, .dropped)
  else ({ h with buffer := h.buffer ++ [frame] }, .sent)

def markDead (h : Handle φ) : Handle φ := { h with alive := false }

/-- The client takes no more frames; those that wait can still be read. -/
def stopListening (h : Handle φ) : Handle φ := { h with listening := false }

def abandon (h : Handle φ) : Handle φ := { h with listening := false, buffer := [] }

def receive (h : Handle φ) : Handle φ × Option φ :=
  ({ h with buffer := h.buffer.tail }, h.buffer.head?)

def drain (h : Handle φ) : Handle φ × List φ := ({ h with buffer := [] }, h.buffer)

end Handle

end ChatGateway.Push
