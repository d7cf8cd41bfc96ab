import ChatGateway.Message.Wire

namespace ChatGateway.Session

inductive Event where
  | message (m : Message)
  | receipt (chat : Chat) (ids : List String) (timestamp : Instant)
  | call (id : String) (caller : Chat) (timestamp : Instant)
  | connected (wid : String)
  | disconnected (reason : String)
  | loggedOut (reason : String)
  | history (ms : List Message)
  deriving Inhabited

namespace Event

def kind : Event → String
  | message _ => "new_message"
  | receipt .. => "delivery_receipt"
  | call .. => "call_offer"
  | connected _ => "connected"
  | disconnected _ => "disconnected"
  | loggedOut _ => "logged_out"
  | history _ => "history_batch"

end Event

end ChatGateway.Session
