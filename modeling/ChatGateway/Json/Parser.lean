import ChatGateway.Json.Basic
import ChatGateway.Number.Integer
import ChatGateway.Number.Scaling

/-!
Reading JSON text. A reader returns a value and the text after it. The text is one value with
blanks around it; containers nest at most 127 deep; a number beyond the doubles, a lone half of a
surrogate pair and a bare control character are errors.
-/

namespace ChatGateway.Json

open Text

def isJsonBlank (c : Char) : Bool := c = ' ' || c = '\t' || c = '\n' || c = '\r'

def skipBlanks (cs : List Char) : List Char := cs.dropWhile isJsonBlank

def hex4? (a b c d : Char) : Option Nat := do
  return (← hexDigit? a) * 4096 + (← hexDigit? b) * 256 + (← hexDigit? c) * 16 + (← hexDigit? d)

def isHighSurrogate (n : Nat) : Bool := 0xD800 ≤ n && n ≤ 0xDBFF

def isLowSurrogate (n : Nat) : Bool := 0xDC00 ≤ n && n ≤ 0xDFFF

def pairChar (high low : Nat) : Char :=
  Char.ofNat (0x10000 + (high - 0xD800) * 0x400 + (low - 0xDC00))

def simpleEscape? (c : Char) : Option Char :=
  match c with
  | '"' => some '"'
  | '\\' => some '\\'
  | '/' => some '/'
  | 'b' => some (Char.ofNat 8)
  | 'f' => some (Char.ofNat 12)
  | 'n' => some '\n'
  | 'r' => some '\r'
  | 't' => some '\t'
  | _ => none

/-- The rest of a string after its opening quote; `done` holds what was read, the last first. -/
def stringRest : (done : List Char) → List Char → Option (String × List Char)
  | _, [] => none
  | done, '"' :: rest => some (String.ofList done.reverse, rest)
  | done, '\\' :: 'u' :: a :: b :: c :: d :: rest =>
    match hex4? a b c d with
    | none => none
    | some n =>
      if isLowSurrogate n then none
      else if isHighSurrogate n then
        match rest with
        | '\\' :: 'u' :: e :: f :: g :: h :: rest =>
          match hex4? e f g h with
          | none => none
          | some low =>
            if isLowSurrogate low then stringRest (pairChar n low :: done) rest else none
        | _ => none
      else stringRest (Char.ofNat n :: done) rest
  | done, '\\' :: e :: rest =>
    match simpleEscape? e with
    | none => none
    | some c => stringRest (c :: done) rest
  | done, c :: rest =>
    if c = '\\' ∨ c.toNat < 0x20 then none else stringRest (c :: done) rest

def stringBody (cs : List Char) : Option (String × List Char) := stringRest [] cs

def digits (cs : List Char) : List Char × List Char := cs.span isDigit

def exponentPart (cs : List Char) : Option (Option Int × List Char) :=
  match cs with
  | [] => some (none, [])
  | c :: rest =>
    if c = 'e' ∨ c = 'E' then
      let (negative, body) := Number.splitSign rest
      let (ds, rest') := digits body
      if ds.isEmpty then none
      else
        let n : Int := decimalValue ds
        some (some (if negative then -n else n), rest')
    else some (none, cs)

def fractionPart (cs : List Char) : Option (Option (List Char) × List Char) :=
  match cs with
  | '.' :: rest =>
    let (ds, rest') := digits rest
    if ds.isEmpty then none else some (some ds, rest')
  | _ => some (none, cs)

def integerPart (cs : List Char) : Option (List Char × List Char) :=
  match digits cs with
  | ([], _) => none
  | ('0' :: _ :: _, _) => none
  | (ds, rest) => some (ds, rest)

/-- A number without fraction and exponent is an integer; minus zero and integers beyond 64 bits
are doubles. -/
def number (cs : List Char) : Option (Json × List Char) := do
  let (negative, body) := match cs with
    | '-' :: r => (true, r)
    | r => (false, r)
  let (whole, rest) ← integerPart body
  let (fraction, rest) ← fractionPart rest
  let (exponent, rest) ← exponentPart rest
  let n : Int := decimalValue whole
  let i := if negative then -n else n
  if fraction.isNone ∧ exponent.isNone ∧ isExact i ∧ ¬ (negative ∧ n = 0) then
    return (.int i, rest)
  else
    let x ← Binary64.ofDigits? negative whole (fraction.getD []) (exponent.getD 0)
    return (.float x, rest)

/-- How strings, after the opening quote, and numbers are read. -/
structure Leaves where
  string : List Char → Option (String × List Char)
  number : List Char → Option (Json × List Char)

def Leaves.kept : Leaves := ⟨stringBody, Json.number⟩

def arrayItems (item : List Char → Option (Json × List Char)) :
    (fuel : Nat) → List Char → Option (List Json × List Char)
  | 0, _ => none
  | fuel + 1, cs => do
    let (j, rest) ← item cs
    match skipBlanks rest with
    | ',' :: rest' =>
      let (js, rest'') ← arrayItems item fuel rest'
      return (j :: js, rest'')
    | ']' :: rest' => return ([j], rest')
    | _ => none

def objectMembers (name : List Char → Option (String × List Char))
    (item : List Char → Option (Json × List Char)) :
    (fuel : Nat) → List Char → Option (List (String × Json) × List Char)
  | 0, _ => none
  | fuel + 1, cs =>
    match skipBlanks cs with
    | '"' :: rest => do
      let (n, rest) ← name rest
      match skipBlanks rest with
      | ':' :: rest =>
        let (j, rest) ← item rest
        match skipBlanks rest with
        | ',' :: rest' =>
          let (ms, rest'') ← objectMembers name item fuel rest'
          return ((n, j) :: ms, rest'')
        | '\x7d' :: rest' => return ([(n, j)], rest')
        | _ => none
      | _ => none
    | _ => none

def word (expected : String) (value : Json) (cs : List Char) : Option (Json × List Char) :=
  if expected.toList.isPrefixOf cs then some (value, cs.drop expected.length) else none

/-- One value, with at most `depth` containers inside one another and `width` items in each. -/
def valueOf (k : Leaves) (width : Nat) : (depth : Nat) → List Char → Option (Json × List Char)
  | depth, cs =>
    match skipBlanks cs with
    | 'n' :: rest => word "ull" .null rest
    | 't' :: rest => word "rue" (.bool true) rest
    | 'f' :: rest => word "alse" (.bool false) rest
    | '"' :: rest => do
      let (s, rest) ← k.string rest
      return (.str s, rest)
    | '[' :: rest =>
      match depth with
      | 0 => none
      | inner + 1 =>
        match skipBlanks rest with
        | ']' :: rest' => some (.arr [], rest')
        | _ => do
          let (js, rest) ← arrayItems (valueOf k width inner) width rest
          return (.arr js, rest)
    | '\x7b' :: rest =>
      match depth with
      | 0 => none
      | inner + 1 =>
        match skipBlanks rest with
        | '\x7d' :: rest' => some (.obj [], rest')
        | _ => do
          let (ms, rest) ← objectMembers k.string (valueOf k width inner) width rest
          return (.obj ms, rest)
    | rest => k.number rest

def value (depth : Nat) (cs : List Char) : Option (Json × List Char) :=
  valueOf .kept cs.length depth cs

def maxDepth : Nat := 127

def parse? (text : String) : Option Json :=
  match value maxDepth text.toList with
  | some (j, rest) => if (skipBlanks rest).isEmpty then some j else none
  | none => none

/-! Values nobody wants are only passed over: their numbers may be beyond the doubles, halves of
surrogate pairs may stand alone, and containers may nest to any depth. -/

/-- The text after a string, given the text after its opening quote. -/
def skipString : List Char → Option (List Char)
  | [] => none
  | '"' :: rest => some rest
  | '\\' :: 'u' :: a :: b :: c :: d :: rest =>
    if (hex4? a b c d).isSome then skipString rest else none
  | '\\' :: e :: rest => if (simpleEscape? e).isSome then skipString rest else none
  | c :: rest => if c = '\\' ∨ c.toNat < 0x20 then none else skipString rest

def skipNumber (cs : List Char) : Option (List Char) := do
  let body := match cs with
    | '-' :: r => r
    | r => r
  let (_, rest) ← integerPart body
  let (_, rest) ← fractionPart rest
  let (_, rest) ← exponentPart rest
  return rest

def Leaves.skipped : Leaves :=
  ⟨fun cs => (skipString cs).map ("", ·), fun cs => (skipNumber cs).map (.null, ·)⟩

/-- The text after a value. -/
def skipValue (cs : List Char) : Option (List Char) :=
  (valueOf .skipped cs.length cs.length cs).map Prod.snd

end ChatGateway.Json
