import ChatGateway.Settings.Document
import ChatGateway.Settings.Place
import ChatGateway.Json.Parser
import ChatGateway.Number.Integer
import ChatGateway.Text.Case

/-!
Settings gathered from files and environment variables. Later sources win: tables are merged member
by member, all other values are replaced. A key may name a place deep in the document. Values may
be written as text and are converted to the type of their member.
-/

namespace ChatGateway

namespace Dialect

def wordBool? (s : String) : Option Bool :=
  match Text.lower s with
  | "true" | "on" | "yes" => some true
  | "false" | "off" | "no" => some false
  | _ => none

def lenientBool : Decoder Bool
  | .bool b => .ok b
  | .int n => .ok (n != 0)
  | .float x => .ok !x.isZero
  | .str s =>
    match s, wordBool? s with
    | "1", _ => .ok true
    | "0", _ => .ok false
    | _, some b => .ok b
    | _, none => .error .wrongType
  | _ => .error .wrongType

def lenientNat (bits : Nat) : Decoder Nat
  | .bool b => .ok b.toNat
  | .int n => Decoder.nat bits (.int n)
  | .float x => Decoder.nat bits (.int x.toNatClamped)
  | .str s =>
    match wordBool? s, Number.unsigned? s with
    | some b, _ => .ok b.toNat
    | none, some n => Decoder.nat bits (.int n)
    | none, none => .error .wrongType
  | _ => .error .wrongType

def lenientString : Decoder String
  | .str s => .ok s
  | .bool b => .ok (toString b)
  | .int n => .ok (toString n)
  | .float x => .ok x.toPlainText
  | _ => .error .wrongType

def lenient : Dialect := ⟨lenientBool, lenientNat, lenientString, Switch.decode, true⟩

end Dialect

namespace Settings

/-- Put one value over another: a table is merged into what is there, which becomes a table if it is
none; anything else replaces. The nesting of the incoming value bounds `depth`. -/
def overlay : (depth : Nat) → (incoming : Json) → Json → Json
  | depth + 1, .obj incoming, old =>
    incoming.foldl (fun j m => j.changeAt (overlay depth m.2) [.member m.1]) (.obj old.members)
  | _, incoming, _ => incoming

/-- The place a key names; a key that is no written place is the name of a member. -/
def placeOf (key : List Char) : Place :=
  (Place.parse? key).getD [.member (String.ofList key)]

def put (key : List Char) (value tree : Json) : Json :=
  tree.changeAt (overlay (Json.maxDepth + 1) value) (placeOf key)

def withoutMark (text : String) : String :=
  match text.toList with
  | '\uFEFF' :: rest => String.ofList rest
  | _ => text

def putFile (text : String) (tree : Json) : Except Failure Json :=
  match (Json.parse? (withoutMark text)).map Json.canonical with
  | some (.obj members) => .ok (members.foldl (fun t m => put m.1.toList m.2 t) tree)
  | _ => .error (.configuration "Failed to build config")

def exponentText? : List Char → Option Int
  | [] => some 0
  | c :: rest =>
    if c = 'e' ∨ c = 'E' then
      let (negative, ds) := Number.splitSign rest
      if ds.isEmpty ∨ !ds.all Text.isDigit then none
      else
        let n : Int := Text.decimalValue ds
        some (if negative then -n else n)
    else none

/-- Decimal digits, among which or beside which a point may stand, and an exponent. -/
def decimalText? (negative : Bool) (cs : List Char) : Option Binary64 :=
  let (whole, rest) := cs.span Text.isDigit
  let (fraction, rest) := match rest with
    | '.' :: r => r.span Text.isDigit
    | r => ([], r)
  if whole.isEmpty ∧ fraction.isEmpty then none
  else (exponentText? rest).map fun e =>
    Binary64.ofDecimal ⟨negative, Text.decimalValue (whole ++ fraction), e - fraction.length⟩

def floatText? (s : String) : Option Binary64 :=
  let (negative, cs) := Number.splitSign s.toList
  match String.ofList (cs.map Text.lowerAscii) with
  | "inf" | "infinity" => some (Binary64.infinity negative)
  | "nan" => some Binary64.nan
  | _ => decimalText? negative cs

/-- What the text of a variable stands for: a boolean, an integer, a double, or itself. -/
def variableValue (s : String) : Json :=
  match Text.lower s with
  | "true" => .bool true
  | "false" => .bool false
  | _ =>
    match Number.signed64? s, floatText? s with
    | some n, _ => .int n
    | none, some x => .float x
    | none, none => .str s

def dotted : List Char → List Char
  | '_' :: '_' :: rest => '.' :: dotted rest
  | c :: rest => c :: dotted rest
  | [] => []

def variableStart : List Char := "wagate__".toList

def putVariable (name value : String) (tree : Json) : Json :=
  let cs := (Text.lower name).toList
  if variableStart.isPrefixOf cs then
    put (dotted (cs.drop variableStart.length)) (variableValue value) tree
  else tree

/-- The text a name stands for among the texts of files, which are named without their ending
`.json`: that of the file whose full name it is, or else of the one it names without the ending.
The empty name stands for none. -/
def fileNamed? (files : List (String × String)) (name : String) : Option String :=
  if name.isEmpty then none
  else match files.find? fun f => f.1 ++ ".json" == name with
    | some f => some f.2
    | none => files.lookup name

/-- The settings for a named surrounding: those of the file `default`, then those of the file of
that name, then those of variables. -/
def load (files : List (String × String)) (name : String)
    (environment : List (String × String)) : Except Failure Settings := do
  let texts := ["default", name].filterMap (fileNamed? files)
  let tree ← texts.foldlM (fun t text => putFile text t) (.obj [])
  match Settings.decode .lenient (environment.foldl (fun t v => putVariable v.1 v.2 t) tree) with
  | .ok s => .ok s
  | .error _ => .error (.configuration "Failed to deserialize config")

end Settings

end ChatGateway
