import ChatGateway.Json.Basic
import ChatGateway.Text.Ascii

/-!
Places in a document: how they are written, as in `server.cors.allowed_origins[-1]`, and how a
value there is changed. What is in the way of a place gives way to it, and what is missing is
made.
-/

namespace ChatGateway

inductive Place.Step where
  | member (name : String)
  | item (position : Int)
  deriving DecidableEq, Repr

abbrev Place := List Place.Step

namespace Place

def isNameChar (c : Char) : Bool := c.isAlphanum || c == '_' || c == '-'

def takeName? (cs : List Char) : Option (Step × List Char) :=
  let (name, rest) := cs.span isNameChar
  if name.isEmpty then none else some (.member (String.ofList name), rest)

def skipGap (cs : List Char) : List Char := cs.dropWhile fun c => c == ' ' || c == '\t'

def takePosition? (cs : List Char) : Option (Step × List Char) :=
  let (negative, body) := match skipGap cs with
    | '-' :: rest => (true, rest)
    | rest => (false, rest)
  let (ds, rest) := body.span Text.isDigit
  let n : Int := Text.decimalValue ds
  let position := if negative then -n else n
  match skipGap rest with
  | ']' :: rest =>
    if ds.isEmpty ∨ position < -Int.pow 2 63 ∨ Int.pow 2 63 ≤ position then none
    else some (.item position, rest)
  | _ => none

def steps? : (fuel : Nat) → List Char → Option Place
  | _, [] => some []
  | 0, _ => none
  | fuel + 1, c :: rest => do
    let (step, rest) ← match c with
      | '.' => takeName? rest
      | '[' => takePosition? rest
      | _ => none
    return step :: (← steps? fuel rest)

def parse? (cs : List Char) : Option Place := do
  let (step, rest) ← takeName? cs
  return step :: (← steps? rest.length rest)

end Place

namespace Json

/-- Members of a value taken as a table; a value of another kind has none. -/
def members : Json → List (String × Json)
  | .obj ms => ms
  | _ => []

def items : Json → List Json
  | .arr js => js
  | _ => []

/-- The items with the one at a position changed. If there is none, nulls are put behind the last
item up to that position, or before the first. -/
def changeItem (change : Json → Json) (position : Int) (js : List Json) : List Json :=
  let n := position.natAbs
  if 0 ≤ position then (js ++ List.replicate (n + 1 - js.length) null).modify n change
  else
    let js := List.replicate (n - js.length) null ++ js
    js.modify (js.length - n) change

def changeAt (change : Json → Json) : Place → Json → Json
  | [], j => change j
  | .member name :: place, j =>
    let ms := j.members
    .obj (insertMember name (changeAt change place ((ms.lookup name).getD null)) ms)
  | .item position :: place, j => .arr (changeItem (changeAt change place) position j.items)

end Json

end ChatGateway
