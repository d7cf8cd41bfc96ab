import ChatGateway.Message.Kind
import ChatGateway.Time.Instant
import ChatGateway.Text.Case
import ChatGateway.Text.Affix

namespace ChatGateway

structure Chat where
  id : String
  title : String := ""
  deriving DecidableEq, Repr, Inhabited

namespace Chat

def isGroup (c : Chat) : Bool := Text.endsWith c.id "@g.us"

/-- Status updates, broadcast lists and newsletters. -/
def isBroadcast (c : Chat) : Bool :=
  c.id == "status" || Text.endsWith c.id "@broadcast" || Text.endsWith c.id "@newsletter"

end Chat

structure Attachment where
  mime : String
  fileLength : Nat := 0
  fileName : String := ""
  thumbnail : Option String := none
  seconds : Option Nat := none
  latitude : Option Binary64 := none
  longitude : Option Binary64 := none
  content : Option (List UInt8) := none
  canDownload : Bool := false
  deriving DecidableEq, Repr, Inhabited

namespace Attachment

def unplaced (a : Attachment) : Attachment := { a with latitude := none, longitude := none }

def sameCoordinate : Option Binary64 → Option Binary64 → Bool
  | some x, some y => x.sameValue y
  | none, none => true
  | _, _ => false

/-- Whether all members agree; coordinates are compared as numbers. -/
def same (a b : Attachment) : Bool :=
  a.unplaced == b.unplaced && sameCoordinate a.latitude b.latitude &&
    sameCoordinate a.longitude b.longitude

def same? : Option Attachment → Option Attachment → Bool
  | some a, some b => a.same b
  | none, none => true
  | _, _ => false

end Attachment

structure Message where
  id : String
  trackId : String := ""
  timestamp : Instant
  kind : MessageKind
  chat : Chat
  participant : Option Chat := none
  text : String := ""
  attachment : Option Attachment := none
  fromMe : Bool := false
  fromInternal : Bool := false
  edited : Bool := false
  forwardingScore : Nat := 0
  inReply : String := ""
  synopsis : String := ""
  deriving DecidableEq, Repr, Inhabited

namespace Message

def keyOf (id : String) : String := Text.upper id

def key (m : Message) : String := keyOf m.id

def readReceiptId : String := "readreceipt"

def fromGroup (m : Message) : Bool := m.chat.isGroup
def fromBroadcast (m : Message) : Bool := m.chat.isBroadcast
def isReadReceipt (m : Message) : Bool := m.kind == .system && m.id == readReceiptId
def isCall (m : Message) : Bool := m.kind == .call
def hasTimestamp (m : Message) : Bool := Instant.epoch.before m.timestamp

/-- What a subscriber would see change: kind, text, edit mark, and type and size of the
attachment. -/
def content (m : Message) : MessageKind × String × Bool × Option (String × Nat) :=
  (m.kind, m.text, m.edited, m.attachment.map fun a => (a.mime, a.fileLength))

def sameContent (a b : Message) : Bool := a.content == b.content

def same (a b : Message) : Bool :=
  { a with attachment := none } == { b with attachment := none } &&
    Attachment.same? a.attachment b.attachment

/-- Earlier first, and by key within an instant. -/
def earlier (a b : Message) : Bool :=
  a.timestamp.before b.timestamp || (a.timestamp == b.timestamp && a.key < b.key)

def inOrder (a b : Message) : Bool := !b.earlier a

def chronological (ms : List Message) : List Message := ms.mergeSort inOrder

end Message

/-- A text that is not too long, or its beginning and a mark; the mark is never cut. -/
def synopsis (text : String) (max : Nat) : String :=
  let cs := text.toList
  if cs.length ≤ max then text else String.ofList (cs.take (max - 4) ++ " ...".toList)

end ChatGateway
