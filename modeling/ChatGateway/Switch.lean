import ChatGateway.Text.Blank
import ChatGateway.Text.Ascii
import ChatGateway.Failure
import ChatGateway.Json.Decode

namespace ChatGateway

/-- On, off or unset, where on and off may be forced on every tenant. -/
inductive Switch where
  | unset
  | off
  | forcedOff
  | on
  | forcedOn
  deriving DecidableEq, Repr, Inhabited

namespace Switch

def ofBool (b : Bool) : Switch := if b then on else off

def ofBool? : Option Bool → Switch
  | some b => ofBool b
  | none => unset

def isSet (s : Switch) : Bool := s != unset
def isOn (s : Switch) : Bool := s == on || s == forcedOn
def isOff (s : Switch) : Bool := s == off || s == forcedOff
def isForced (s : Switch) : Bool := s == forcedOn || s == forcedOff

/-- The value in force: the tenant's own, unless it is unset or the default is forced. -/
def resolve (default tenant : Switch) : Bool :=
  if default.isForced || !tenant.isSet then default.isOn else tenant.isOn

def toInt : Switch → Int
  | unset => 0
  | on => 1
  | off => -1
  | forcedOn => 2
  | forcedOff => -2

def ofInt? (n : Int) : Option Switch :=
  if n = 0 then some unset
  else if n = 1 then some on
  else if n = -1 then some off
  else if n = 2 then some forcedOn
  else if n = -2 then some forcedOff
  else none

def ofInt (n : Int) : Switch := (ofInt? n).getD unset

def text : Switch → String
  | unset => ""
  | on => "true"
  | off => "false"
  | forcedOn => "forcedtrue"
  | forcedOff => "forcedfalse"

def ofWord? (w : String) : Option Switch :=
  match w with
  | "" | "0" | "unset" => some unset
  | "1" | "t" | "true" | "yes" => some on
  | "-1" | "f" | "false" | "no" => some off
  | "2" | "forcedtrue" => some forcedOn
  | "-2" | "forcedfalse" => some forcedOff
  | _ => none

def parse (s : String) : Except Failure Switch :=
  let w := Text.lowerAsciiText (Text.trim s)
  match ofWord? w with
  | some v => .ok v
  | none => .error (.configuration ("Invalid option boolean value: " ++ w))

def decodeInt (n : Int) : Except DecodeError Switch :=
  if n < Int.pow 2 63 then
    match ofInt? n with
    | some v => .ok v
    | none => .error (.refused ("option boolean out of range: " ++ toString n))
  else .error (.refused "option boolean out of range")

def decodeText (s : String) : Except DecodeError Switch :=
  match parse s with
  | .ok v => .ok v
  | .error f => .error (.refused f.message)

def decode : Decoder Switch
  | .null => .ok unset
  | .bool b => .ok (ofBool b)
  | .int n => decodeInt n
  | .str s => decodeText s
  | _ => .error .wrongType

def toJson (s : Switch) : Json := .str s.text

end Switch

end ChatGateway
