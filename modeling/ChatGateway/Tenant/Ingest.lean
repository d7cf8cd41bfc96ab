import ChatGateway.Tenant.Basic

namespace ChatGateway.Hosted

def keep (h : Hosted) (m : Message) : Hosted × Bool :=
  let (messages, changed) := h.tenant.messages.put m
  let (messages, _) := messages.cleanUp h.host.settings.cache.maxMessages
  ({ h with tenant := { h.tenant with messages := messages } }, changed)

/-- Keep a message and pass it on, unless it only repeats what was known. -/
def store (h : Hosted) (m : Message) : Hosted × Bool :=
  let (h, changed) := h.keep m
  if changed || !h.host.settings.cache.debounceDispatch then ((h.trigger m).1, true)
  else (h, false)

def admits (h : Hosted) (m : Message) : Bool :=
  !(m.fromGroup && !h.options.groups) && !(m.fromBroadcast && !h.options.broadcasts)

/-- The title of a chat, if the session in use knows one. -/
def lookUpTitle (h : Hosted) (chat : String) : Option String :=
  (h.tenant.link.bind h.host.exchange.link?).bind (·.title? chat)

def withTitle (h : Hosted) (m : Message) : Hosted × Message :=
  if m.chat.title.isEmpty && h.tenant.link.isSome then
    match h.tenant.titles.getOrFetch m.chat.id (h.lookUpTitle m.chat.id) with
    | (titles, some title, _) =>
      ({ h with tenant := { h.tenant with titles := titles } },
        { m with chat := { m.chat with title := title } })
    | (titles, none, _) => ({ h with tenant := { h.tenant with titles := titles } }, m)
  else (h, m)

/-- A reply without a preview gets one of the message it replies to, if that is kept. -/
def withSynopsis (h : Hosted) (m : Message) : Message :=
  if !m.inReply.isEmpty && m.synopsis.isEmpty then
    match h.tenant.messages.get? m.inReply with
    | some replied =>
      { m with synopsis := synopsis replied.text h.host.settings.cache.synopsisLength }
    | none => m
  else m

def marksRead (h : Hosted) (m : Message) : Bool :=
  h.options.readUpdate && !m.fromMe && !m.fromBroadcast && m.kind != .system

def markRead (h : Hosted) (m : Message) : Hosted :=
  match h.tenant.link with
  | some id => (h.attempt id (·.markRead m)).1
  | none => h

/-- Take a message in, unless the filters keep it out; tells whether it was passed on. -/
def ingest (h : Hosted) (m : Message) : Hosted × Bool :=
  if !h.admits m then (h, false)
  else
    let (h, m) := h.withTitle m
    let m := h.withSynopsis m
    let marks := h.marksRead m
    let (h, triggered) := h.store m
    (if marks then h.markRead m else h, triggered)

end ChatGateway.Hosted
