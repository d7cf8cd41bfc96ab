import ChatGateway.Http.Url
import ChatGateway.Text.Ascii
import ChatGateway.Text.Split

/-!
Request targets: a path with a query, alone or after a scheme and an authority; an authority alone;
or an asterisk. Scheme and authority have to be well formed and play no further part.
-/

namespace ChatGateway.Http

inductive TargetFault where
  | empty
  | tooLong
  | character
  | schemeTooLong
  | authority
  | form
  deriving DecidableEq, Repr

namespace TargetFault

def message : TargetFault → String
  | empty => "empty string"
  | tooLong => "uri too long"
  | character => "invalid uri character"
  | schemeTooLong => "scheme too long"
  | authority => "invalid authority"
  | form => "invalid format"

end TargetFault

/-- A request target: the path, and the query after the question mark. An authority alone has
neither. -/
structure Target where
  path : List Char := []
  query : List Char := []
  deriving DecidableEq, Repr

namespace Target

def maxLength : Nat := 65534

def maxScheme : Nat := 64

def isSchemeChar (c : Char) : Bool := c.isAlphanum || c == '+' || c == '-' || c == '.'

def afterScheme? (cs : List Char) : Except TargetFault (Option (List Char)) :=
  match cs.dropWhile isSchemeChar with
  | ':' :: '/' :: '/' :: rest =>
    if maxScheme < (cs.takeWhile isSchemeChar).length then .error .schemeTooLong
    else .ok (some rest)
  | _ => .ok none

def isAuthorityChar (c : Char) : Bool :=
  c.isAlphanum || "!$%&'()*+,-.:;=@[]_~".toList.contains c

/-- What has been seen of an authority. Colons and percent signs count from the last `@` or
bracket on. -/
structure AuthorityScan where
  colons : Nat := 0
  percent : Bool := false
  opened : Bool := false
  closed : Bool := false
  deriving DecidableEq, Repr

namespace AuthorityScan

/-- Take one more character. Brackets come as one pair, and no percent sign before them. -/
def next (s : AuthorityScan) (c : Char) : Except TargetFault AuthorityScan :=
  if !isAuthorityChar c then .error .character
  else match c with
    | ':' => if s.colons < 8 then .ok { s with colons := s.colons + 1 } else .error .authority
    | '[' => if s.percent || s.opened then .error .authority else .ok { s with opened := true }
    | ']' =>
      if !s.opened || s.closed then .error .authority
      else .ok { s with closed := true, colons := 0, percent := false }
    | '@' => .ok { s with colons := 0, percent := false }
    | '%' => .ok { s with percent := true }
    | _ => .ok s

def isComplete (s : AuthorityScan) : Bool :=
  s.opened == s.closed && s.colons ≤ 1 && !s.percent

end AuthorityScan

def endsAuthority (c : Char) : Bool := c == '/' || c == '?' || c == '#'

def splitAuthority (cs : List Char) : Except TargetFault (List Char × List Char) := do
  let (authority, rest) := cs.span (!endsAuthority ·)
  let scan ← authority.foldlM AuthorityScan.next {}
  if scan.isComplete && authority.getLast? != some '@' then .ok (authority, rest)
  else .error .authority

def isPathChar (c : Char) : Bool := 0x21 ≤ c.toNat && !"<>`".toList.contains c

def isQueryChar (c : Char) : Bool := 0x21 ≤ c.toNat && !"\"<>".toList.contains c

/-- A path and a query. What follows a hash sign is left out. -/
def ofPath (cs : List Char) : Except TargetFault Target :=
  let (path, query) := Text.splitFirst '?' (cs.takeWhile (· != '#'))
  if path.all isPathChar && query.all isQueryChar then .ok ⟨path, query⟩ else .error .character

def ofAbsolute (cs : List Char) : Except TargetFault Target := do
  let (authority, rest) ← splitAuthority cs
  if authority.isEmpty then .error .form
  else
    let t ← ofPath rest
    return if t.path.isEmpty then { t with path := ['/'] } else t

def ofAuthority (cs : List Char) : Except TargetFault Target := do
  let (_, rest) ← splitAuthority cs
  if rest.isEmpty then .ok {} else .error .form

def parse (text : String) : Except TargetFault Target :=
  if maxLength < text.utf8ByteSize then .error .tooLong
  else match text.toList with
    | [] => .error .empty
    | ['*'] => .ok ⟨['*'], []⟩
    | '/' :: rest => ofPath ('/' :: rest)
    | cs => do
      match ← afterScheme? cs with
      | some rest => ofAbsolute rest
      | none => ofAuthority cs

/-- The segments of the path after its leading slash, as they are written. A path without one
leads nowhere. -/
def segments? (t : Target) : Option (List (List Char)) :=
  match t.path with
  | '/' :: rest => some (Text.splitOn '/' rest)
  | _ => none

def queryMembers (t : Target) : List (String × String) :=
  ((Text.splitOn '&' t.query).filter (!·.isEmpty)).map fun part =>
    let (name, value) := Text.splitFirst '=' part
    (queryText name, queryText value)

/-- The value of a member of the query. A member that is given twice is an error. -/
def queryValue (t : Target) (name : String) : Except Unit (Option String) :=
  match t.queryMembers.filter (·.1 == name) with
  | [] => .ok none
  | [m] => .ok (some m.2)
  | _ => .error ()

end Target

end ChatGateway.Http
