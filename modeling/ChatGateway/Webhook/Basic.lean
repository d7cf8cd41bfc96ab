import ChatGateway.Message.Basic
import ChatGateway.Json.Decode
import ChatGateway.Text.Ascii
import ChatGateway.Failure

namespace ChatGateway

/-- A subscription. An unset filter lets its records through; `false` keeps them back. `trackId` is
the mark of the system behind the address, which is spared its own records; `failure` is when the
current outage began, `success` when a record was last posted. -/
structure Webhook where
  token : String := ""
  url : String
  forwardInternal : Bool := false
  trackId : String := ""
  extra : Option Json := none
  groups : Option Bool := none
  broadcasts : Option Bool := none
  readReceipts : Option Bool := none
  calls : Option Bool := none
  failure : Option Instant := none
  success : Option Instant := none
  deriving Inhabited

inductive WebhookOption where
  | groups
  | broadcasts
  | readReceipts
  | calls
  | forwardInternal
  deriving DecidableEq, Repr

namespace WebhookOption

def all : List WebhookOption := [groups, broadcasts, readReceipts, calls, forwardInternal]

def name : WebhookOption → String
  | groups => "groups"
  | broadcasts => "broadcasts"
  | readReceipts => "readreceipts"
  | calls => "calls"
  | forwardInternal => "forwardinternal"

def ofName? (s : String) : Option WebhookOption := all.find? (·.name == s)

/-- An option from text: blanks around it, the case of ASCII letters and underscores do not
matter. -/
def parse (s : String) : Except Failure WebhookOption :=
  let word := String.ofList ((Text.lowerAsciiText (Text.trim s)).toList.filter (· != '_'))
  match ofName? word with
  | some o => .ok o
  | none => .error (.validation ("Unknown webhook option: " ++ word))

def ofWord? (s : String) : Option WebhookOption :=
  if s == "read_receipts" then some readReceipts
  else if s == "forward_internal" then some forwardInternal
  else ofName? s

def decode : Decoder WebhookOption := Decoder.variant ofWord?

def toJson (o : WebhookOption) : Json := .str o.name

end WebhookOption

def nextFilter : Option Bool → Option Bool
  | none => some true
  | some true => some false
  | some false => none

def filterText : Option Bool → String
  | none => ""
  | some b => toString b

namespace Webhook

/-- Advance an option; the text of its new value comes with the webhook. -/
def toggle (w : Webhook) : WebhookOption → Webhook × String
  | .groups =>
    let v := nextFilter w.groups
    ({ w with groups := v }, filterText v)
  | .broadcasts =>
    let v := nextFilter w.broadcasts
    ({ w with broadcasts := v }, filterText v)
  | .readReceipts =>
    let v := nextFilter w.readReceipts
    ({ w with readReceipts := v }, filterText v)
  | .calls =>
    let v := nextFilter w.calls
    ({ w with calls := v }, filterText v)
  | .forwardInternal => ({ w with forwardInternal := !w.forwardInternal },
      toString !w.forwardInternal)

/-- The settings of `other`, with the owner, address and delivery times of `w`. -/
def applySettings (w other : Webhook) : Webhook :=
  { other with token := w.token, url := w.url, failure := w.failure, success := w.success }

/-- A post failed: an outage begins now unless one is going on. -/
def failedAt (w : Webhook) (now : Instant) : Webhook :=
  { w with failure := some (w.failure.getD now) }

def succeededAt (w : Webhook) (now : Instant) : Webhook :=
  { w with failure := none, success := some now }

/-- The name under which the webhook receives the records of its tenant. -/
def subscriberId (url : String) : String := "webhook:" ++ url

end Webhook

end ChatGateway
