import ChatGateway.Webhook.Basic

namespace ChatGateway

inductive SkipReason where
  | notDeliverable
  | emptyText
  | readReceipts
  | groups
  | broadcasts
  | calls
  | internal
  deriving DecidableEq, Repr

namespace SkipReason

def label : SkipReason → String
  | notDeliverable => "not_deliverable"
  | emptyText => "empty_text"
  | readReceipts => "read_receipts"
  | groups => "groups"
  | broadcasts => "broadcasts"
  | calls => "calls"
  | internal => "internal"

end SkipReason

namespace Webhook

/-- Whether a record sent through the gateway is posted: never back to the system it came from,
and otherwise if the webhook forwards such records or has a mark to tell its own by. -/
def forwards (w : Webhook) (m : Message) : Bool :=
  if !w.trackId.isEmpty && w.trackId == m.trackId then false
  else w.forwardInternal || !w.trackId.isEmpty

def skipReason? (w : Webhook) (m : Message) : Option SkipReason :=
  if !m.kind.isDeliverable then some .notDeliverable
  else if m.kind == .text && Text.isBlankText m.text then some .emptyText
  else if m.isReadReceipt && w.readReceipts == some false then some .readReceipts
  else if m.fromGroup && w.groups == some false then some .groups
  else if m.fromBroadcast && w.broadcasts == some false then some .broadcasts
  else if m.isCall && w.calls == some false then some .calls
  else if m.fromInternal && !w.forwards m then some .internal
  else none

end Webhook

end ChatGateway
