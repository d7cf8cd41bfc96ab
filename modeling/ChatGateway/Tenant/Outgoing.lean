import ChatGateway.Tenant.Ingest

namespace ChatGateway

structure RevokeReport where
  revoked : List String := []
  errors : List (String × String) := []
  deriving Repr

namespace RevokeReport

def accept (r : RevokeReport) (id : String) : RevokeReport :=
  { r with revoked := r.revoked ++ [id] }

def reject (r : RevokeReport) (id : String) (f : Failure) : RevokeReport :=
  { r with errors := Json.insertMember id f.display r.errors }

variable {σ : Type}

/-- Revoke messages one by one, each attempt on its own, and report on all of them. -/
def collect (revoke : Message → σ → σ × Except Failure Unit) :
    List Message → σ → RevokeReport → σ × RevokeReport
  | [], s, r => (s, r)
  | m :: rest, s, r =>
    match revoke m s with
    | (s, .ok _) => collect revoke rest s (r.accept m.id)
    | (s, .error f) => collect revoke rest s (r.reject m.id f)

def toJson (r : RevokeReport) : Json :=
  .obj ([("revoked", .arr (r.revoked.map .str))] ++
    if r.errors.isEmpty then [] else
      [("errors", .obj (r.errors.map fun e => (e.1, .str e.2)))])

end RevokeReport

namespace Hosted

def sendOn (h : Hosted) (id : Session.LinkId) (m : Message) : Hosted × Except Failure String :=
  let (number, host) := h.host.freshNumber
  let h := { h with host := host }
  match h.host.exchange.link? id with
  | none => (h, .error (.unavailable "connection closed"))
  | some link => match link.send m (Session.messageId number) with
    | .error e => (h, .error e)
    | .ok (link, sentId) =>
      ({ h with host := { h.host with exchange := h.host.exchange.update link } }, .ok sentId)

/-- A message as it is kept once sent: with a time, and without the bytes of its attachment. -/
def sealed (h : Hosted) (m : Message) : Hosted × Message :=
  let m := { m with attachment := m.attachment.map fun a => { a with content := none } }
  if m.hasTimestamp then (h, m)
  else
    let (now, host) := h.host.now
    ({ h with host := host }, { m with timestamp := now })

/-- Send a message, keep it and pass it on. The tenant's filters do not apply. -/
def send (h : Hosted) (m : Message) : Hosted × Except Failure Message :=
  match h.tenant.readyLink with
  | .error e => (h, .error e)
  | .ok link =>
    let m := { m with fromMe := true, fromInternal := true }
    match h.sendOn link m with
    | (h, .error e) => (h, .error e)
    | (h, .ok id) =>
      let (h, m) := h.sealed { m with id := id }
      ((h.store m).1, .ok m)

/-- The messages kept that a revocation means: one by its id, or all whose ids begin so. -/
def revocable (h : Hosted) (id : String) (byBeginning : Bool) : List Message :=
  if byBeginning then h.tenant.messages.startingWith id
  else (h.tenant.messages.get? id).toList

variable {σ : Type}

/-- Revoke one message, or every message whose id begins as given, on a session of any kind; each
attempt on it has an answer of its own. -/
def revokeOn (h : Hosted) (attempt : Session.LinkId → Message → σ → σ × Except Failure Unit) (s : σ)
    (id : String) (byBeginning : Bool) : σ × Except Failure RevokeReport :=
  match h.tenant.readyLink with
  | .error e => (s, .error e)
  | .ok link =>
    let (s, report) := RevokeReport.collect (attempt link) (h.revocable id byBeginning) s {}
    (s, .ok report)

def revoke (h : Hosted) (id : String) (byBeginning : Bool) : Hosted × Except Failure RevokeReport :=
  h.revokeOn (fun link m h => h.attempt link (·.revoke m)) h id byBeginning

/-- The messages kept after an instant, or all, from the earliest to the latest. -/
def receive (h : Hosted) : Option Instant → List Message
  | none => h.tenant.messages.ordered
  | some t => Message.chronological (h.tenant.messages.since t)

end Hosted

end ChatGateway
