import ChatGateway.Tenant.Ingest

namespace ChatGateway.Hosted

/-- Pass a read receipt on, if wanted. It is not kept. -/
def onReceipt (h : Hosted) (chat : Chat) (ids : List String) (timestamp : Instant) : Hosted :=
  if !h.options.readReceipts || ids.isEmpty then h
  else
    (h.trigger { id := Message.readReceiptId, timestamp := timestamp, kind := .system,
                 chat := chat, text := ",".intercalate ids }).1

/-- Take a call in as a message, or else reject it. -/
def onCall (h : Hosted) (id : String) (caller : Chat) (timestamp : Instant) : Hosted :=
  let m : Message := { id := id, timestamp := timestamp, kind := .call, chat := caller }
  if h.options.calls then (h.ingest m).1
  else match h.tenant.link with
    | some link => (h.attempt link (·.rejectCall m)).1
    | none => h

def requestHistory (h : Hosted) : Hosted :=
  if !h.options.historySync then h
  else match h.tenant.link with
    | none => h
    | some link =>
      let (now, host) := h.host.now
      let h := { h with host := host }
      match h.tenant.messages.oldest? now with
      | none => h
      | some anchor => (h.attempt link (·.requestHistory anchor)).1

def setWid (h : Hosted) (wid : String) : Hosted :=
  { h with tenant := { h.tenant with wid := some wid } }

def confirm (h : Hosted) (wid : String) : Hosted :=
  h.updateProfile fun p => { p with wid := some wid, verified := true }

def onConnected (h : Hosted) (wid : String) : Hosted :=
  let h := h.setWid wid
  let p := h.tenant.profile
  -- Whether the identity is another tenant's is not asked.
  let h := if p.identity == some wid && p.verified then h else h.confirm wid
  (h.setStatus .ready).1.requestHistory

def logoutNotice (number : Nat) (now : Instant) (reason : String) : Message where
  id := "SYSTEM-" ++ String.ofList (Text.hexUpper 32 number)
  timestamp := now
  kind := .system
  chat := ⟨"system", "Internal System Message"⟩
  text := if reason.isEmpty then "session logged out" else "session logged out: " ++ reason

def onLoggedOut (h : Hosted) (reason : String) : Hosted :=
  match h.setStatus .loggedOut with
  | (h, false) => h
  | (h, true) =>
    let h := h.updateProfile fun p => { p with verified := false }
    -- The session is let go of without being closed, and still listened to.
    let h := { h with tenant := { h.tenant with link := none } }
    let (number, host) := h.host.freshNumber
    let (now, host) := host.now
    (({ h with host := host }).store (logoutNotice number now reason)).1

def ingestAll (h : Hosted) (ms : List Message) : Hosted :=
  (Message.chronological ms).foldl (fun h m => (h.ingest m).1) h

def handle (h : Hosted) : Session.Event → Hosted
  | .message m => (h.ingest m).1
  | .history ms => if h.options.historySync then h.ingestAll ms else h
  | .receipt chat ids timestamp => h.onReceipt chat ids timestamp
  | .call id caller timestamp => h.onCall id caller timestamp
  | .connected wid => h.onConnected wid
  | .disconnected _ => (h.setStatus .disconnected).1
  | .loggedOut reason => h.onLoggedOut reason

end ChatGateway.Hosted
