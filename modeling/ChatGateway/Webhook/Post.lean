import ChatGateway.Webhook.Filter
import ChatGateway.Webhook.Wire
import ChatGateway.Delivery.Queue
import ChatGateway.Settings.Basic

namespace ChatGateway

structure Post where
  url : String
  wid : String
  userAgent : String
  body : Json

inductive PostReply where
  | status (code : Nat)
  | timedOut
  | lost
  deriving DecidableEq, Repr

/-- The network is a parameter that tells what becomes of each post. -/
abbrev Network := Post → PostReply

def Network.down : Network := fun _ => .lost

namespace PostReply

def fault? : PostReply → Option String
  | status code => if code = 200 then none else some ("unexpected status " ++ toString code)
  | timedOut => some "request timed out"
  | lost => some "transport error"

end PostReply

structure PostOffice where
  userAgent : String
  deriving Repr

namespace PostOffice

def open? (s : DeliverySettings) : Except Failure PostOffice :=
  if s.userAgent.toList.all Text.isHeaderChar then .ok ⟨s.userAgent⟩
  else .error (.configuration "Failed to build webhook HTTP client")

end PostOffice

namespace Webhook

def body (w : Webhook) (m : Message) : Json :=
  .obj [("message", m.toJson), ("extra", w.extra.getD .null)]

/-- Post a record unless a filter keeps it back, and keep the times of success and failure. -/
def deliver (w : Webhook) (office : PostOffice) (net : Network) (wid : Option String)
    (m : Message) (clock : Clock) : Delivery.Outcome × Webhook × Clock :=
  match w.skipReason? m with
  | some _ => (.skipped, w, clock)
  | none =>
    let (now, clock) := clock.read
    match (net ⟨w.url, wid.getD "", office.userAgent, w.body m⟩).fault? with
    | none => (.sent, w.succeededAt now, clock)
    | some fault => (.transient fault, w.failedAt now, clock)

end Webhook

end ChatGateway
