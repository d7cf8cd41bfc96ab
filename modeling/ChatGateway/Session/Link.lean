import ChatGateway.Session.Event
import ChatGateway.Failure
import ChatGateway.Text.Ascii
import ChatGateway.Keyed

namespace ChatGateway.Session

abbrev LinkId := Nat

/-- A session that stays inside the process: what is sent is written down, and events come from
whoever injects them. -/
structure Link where
  id : LinkId
  wid : String
  connected : Bool := true
  loggedOut : Bool := false
  sent : List Message := []
  revoked : List String := []
  read : List String := []
  rejected : List String := []
  /-- The messages before which history was asked for. -/
  history : List String := []
  titles : List (String × String) := []
  mailbox : List Event := []
  listening : Bool := true
  deriving Inhabited

def messageId (n : Nat) : String := "3EB0" ++ String.ofList (Text.hexUpper 16 n)

namespace Link

def inject (l : Link) (e : Event) : Link × Bool :=
  if l.listening then ({ l with mailbox := l.mailbox ++ [e] }, true) else (l, false)

/-- A new session, on which the tenant will find that it is connected. -/
def opened (id : LinkId) (wid : String) : Link :=
  ({ id := id, wid := wid : Link }.inject (.connected wid)).1

/-- The tenant takes no more events, and those that wait are lost. -/
def stopListening (l : Link) : Link := { l with listening := false, mailbox := [] }

def setTitle (l : Link) (chat title : String) : Link :=
  { l with titles := Keyed.put Prod.fst (chat, title) l.titles }

def title? (l : Link) (chat : String) : Option String := l.titles.lookup chat

def disconnect (l : Link) : Link := { l with connected := false }

def whileConnected (l : Link) (change : Link → Link) : Except Failure Link :=
  if l.connected then .ok (change l) else .error (.unavailable "connection closed")

/-- Send a message under its own id, or under `freshId` if it has none. -/
def send (l : Link) (m : Message) (freshId : String) : Except Failure (Link × String) :=
  let id := if m.id.isEmpty then freshId else m.id
  (l.whileConnected fun l => { l with sent := l.sent ++ [{ m with id := id }] }).map (·, id)

def revoke (l : Link) (m : Message) : Except Failure Link :=
  l.whileConnected fun l => { l with revoked := l.revoked ++ [m.id] }

def markRead (l : Link) (m : Message) : Except Failure Link :=
  l.whileConnected fun l => { l with read := l.read ++ [m.id] }

def rejectCall (l : Link) (m : Message) : Except Failure Link :=
  l.whileConnected fun l => { l with rejected := l.rejected ++ [m.id] }

def requestHistory (l : Link) (anchor : Message) : Except Failure Link :=
  l.whileConnected fun l => { l with history := l.history ++ [anchor.id] }

def logout (l : Link) : Except Failure Link :=
  l.whileConnected fun l => { l with loggedOut := true, connected := false }

end Link

end ChatGateway.Session
