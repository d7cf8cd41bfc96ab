import ChatGateway.Text.Ascii
import ChatGateway.Text.Utf8

namespace ChatGateway.Http

/-- The bytes a text stands for. A percent escape that is not well formed stands for itself. -/
def percentDecode : List Char → List UInt8
  | [] => []
  | '%' :: a :: b :: rest =>
    match Text.hexDigit? a, Text.hexDigit? b with
    | some x, some y => .ofNat (x * 16 + y) :: percentDecode rest
    | _, _ => Text.Utf8.encodeChar '%' ++ percentDecode (a :: b :: rest)
  | c :: rest => Text.Utf8.encodeChar c ++ percentDecode rest

/-- A name or value of a query: a plus sign stands for a blank. -/
def queryText (cs : List Char) : String :=
  Text.Utf8.decodeLossy (percentDecode (cs.map fun c => if c = '+' then ' ' else c))

def boolean? (s : String) : Option Bool :=
  if s == "true" then some true else if s == "false" then some false else none

end ChatGateway.Http
