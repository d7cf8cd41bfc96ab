
namespace ChatGateway.Text

def lowerAscii (c : Char) : Char :=
  if 'A' ≤ c ∧ c ≤ 'Z' then Char.ofNat (c.toNat + 32) else c

def lowerAsciiText (s : String) : String := String.ofList (s.toList.map lowerAscii)

def isDigit (c : Char) : Bool := '0' ≤ c && c ≤ '9'

/-- The characters of a token, as methods, header names and media types are made of. -/
def isTokenChar (c : Char) : Bool := c.isAlphanum || "!#$%&'*+-.^_`|~".toList.contains c

/-- The characters of a header value: all but control characters other than the tab. -/
def isHeaderChar (c : Char) : Bool := c == '\t' || (32 ≤ c.toNat && c.toNat != 127)

def hexDigit? (c : Char) : Option Nat :=
  if isDigit c then some (c.toNat - 48)
  else if 'a' ≤ c ∧ c ≤ 'f' then some (c.toNat - 87)
  else if 'A' ≤ c ∧ c ≤ 'F' then some (c.toNat - 55)
  else none

def hexChar (n : Nat) : Char := if n < 10 then Char.ofNat (48 + n) else Char.ofNat (55 + n)

def hexUpper : (width : Nat) → Nat → List Char
  | 0, _ => []
  | w + 1, n => hexUpper w (n / 16) ++ [hexChar (n % 16)]

def appendDigit (n : Nat) (digit : Char) : Nat := 10 * n + (digit.toNat - 48)

def decimalValue (ds : List Char) : Nat := ds.foldl appendDigit 0

end ChatGateway.Text
