import ChatGateway.Json.Parser
import ChatGateway.Message.Wire

namespace ChatGateway.Push

structure Frame where
  target : String
  args : List Json
  deriving Inhabited

namespace Frame

def record (target : String) (m : Message) : Frame := ⟨target, [m.toJson]⟩

def bound (token : String) : Frame := ⟨"bound", [.str token]⟩

def error (code message : String) : Frame := ⟨"error", [.str code, .str message]⟩

def toJson (f : Frame) : Json := .obj [("target", .str f.target), ("args", .arr f.args)]

end Frame

inductive FrameFault where
  | syntaxError
  | wrongShape
  deriving DecidableEq, Repr

namespace FrameFault

def message : FrameFault → String
  | syntaxError => "Failed to parse message: <syntax>"
  | wrongShape =>
    "Failed to parse message: data did not match any variant of untagged enum InboundMessage"

end FrameFault

def tokenOf : Json → Option String
  | .obj members =>
    match members.filter (·.1 == "token") with
    | [(_, .str token)] => some token
    | _ => none
  | _ => none

/-- The token a client asks to be bound to. The shape of the value is looked at before what
follows it. -/
def bindRequest (raw : String) : Except FrameFault String :=
  match Json.value Json.maxDepth raw.toList with
  | none => .error .syntaxError
  | some (j, rest) =>
    match tokenOf j with
    | none => .error .wrongShape
    | some token => if (Json.skipBlanks rest).isEmpty then .ok token else .error .syntaxError

end ChatGateway.Push
