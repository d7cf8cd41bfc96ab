import ChatGateway.Number.Binary64

/-!
JSON values. Integers within 64 bits, signed or unsigned, are kept exactly; every other number is
a double. An object keeps its members as they were written, repeated names included.
-/

namespace ChatGateway

inductive Json where
  | null
  | bool (b : Bool)
  | int (n : Int)
  | float (x : Binary64)
  | str (s : String)
  | arr (items : List Json)
  | obj (members : List (String × Json))
  deriving Inhabited

namespace Json

variable {α : Type}

def ofNat (n : Nat) : Json := .int n

def ofOption (f : α → Json) : Option α → Json
  | some a => f a
  | none => .null

def minInt : Int := -Int.pow 2 63
def maxInt : Int := Int.pow 2 64 - 1

def isExact (n : Int) : Bool := minInt ≤ n && n ≤ maxInt

/-- The last member of that name. -/
def get? (name : String) : Json → Option Json
  | .obj members => members.reverse.lookup name
  | _ => none

/-- The member put in by name order, in place of one of the same name. -/
def insertMember (name : String) (value : α) : List (String × α) → List (String × α)
  | [] => [(name, value)]
  | m :: rest =>
    if name < m.1 then (name, value) :: m :: rest
    else if name = m.1 then (name, value) :: rest
    else m :: insertMember name value rest

def sortMembers (members : List (String × α)) : List (String × α) :=
  members.foldl (fun done m => insertMember m.1 m.2 done) []

mutual

/-- The same value with the members of every object in name order and none repeated. -/
def canonical : Json → Json
  | .arr items => .arr (canonicalItems items)
  | .obj members => .obj (sortMembers (canonicalMembers members))
  | j => j

def canonicalItems : List Json → List Json
  | [] => []
  | j :: rest => canonical j :: canonicalItems rest

def canonicalMembers : List (String × Json) → List (String × Json)
  | [] => []
  | (name, j) :: rest => (name, canonical j) :: canonicalMembers rest

end

end Json

end ChatGateway
