import ChatGateway.Http.Target
import ChatGateway.Failure
import ChatGateway.Json.Basic
import ChatGateway.Text.Blank

namespace ChatGateway.Http

structure Request where
  method : String
  target : Target
  headers : List (String × String) := []
  body : String := ""

inductive RequestFault where
  | method
  | target (f : TargetFault)
  | headerName
  | headerValue
  deriving DecidableEq, Repr

namespace RequestFault

def message : RequestFault → String
  | method => "invalid HTTP method"
  | target f => f.message
  | headerName => "invalid HTTP header name"
  | headerValue => "failed to parse header value"

end RequestFault

structure Reply where
  status : Nat
  body : Option Json := none
  headers : List (String × String) := []

def isToken (s : String) : Bool := !s.isEmpty && s.toList.all Text.isTokenChar

namespace Request

def ofTexts (method target : String) (headers : List (String × String)) (body : String) :
    Except RequestFault Request := do
  if !isToken method then throw .method
  let target ← (Target.parse target).mapError .target
  if !headers.all fun h => isToken h.1 then throw .headerName
  if !headers.all fun h => h.2.toList.all Text.isHeaderChar then throw .headerValue
  return { method := method, target := target, headers := headers, body := body }

def header? (r : Request) (name : String) : Option String :=
  (r.headers.find? fun h => Text.lowerAsciiText h.1 == name).map Prod.snd

/-- The value of a header of visible ASCII characters only. -/
def asciiHeader? (r : Request) (name : String) : Option String :=
  (r.header? name).filter fun v => v.toList.all fun c =>
    c == '\t' || (32 ≤ c.toNat && c.toNat < 127)

end Request

namespace Reply

def bare (status : Nat) : Reply := { status := status }

def success (data : Json) : Reply :=
  { status := 200, body := some (.obj [("success", .bool true), ("data", data)]) }

def ofFailure (f : Failure) : Reply :=
  let (status, code) := f.status
  { status := status, body := some (.obj [("error", .str code), ("message", .str f.message)]) }

def note (text : String) : Reply := success (.obj [("message", .str text)])

end Reply

end ChatGateway.Http
