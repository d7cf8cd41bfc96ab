import ChatGateway.Text.Ascii
import ChatGateway.Text.Split

namespace ChatGateway.Http.MediaType

open Text (isTokenChar)

def isQuotedChar (c : Char) : Bool := 31 < c.toNat && c.toNat != 127

def afterQuote : List Char → Option (List Char)
  | [] => none
  | c :: rest =>
    if c = '"' then some rest
    else if isQuotedChar c then afterQuote rest
    else none

/-- What follows a quoted value, given the text after its opening quote. A value has at least one
character, whichever that is. -/
def quotedValue : List Char → Option (List Char)
  | [] => none
  | c :: rest => if isQuotedChar c then afterQuote rest else none

/-- A parameter value; gives what follows the semicolon after it, or nothing at the end. -/
def value : List Char → Option (List Char)
  | '"' :: rest =>
    match quotedValue rest with
    | none => none
    | some rest => match rest.dropWhile (· == ' ') with
      | [] => some []
      | ';' :: rest => some rest
      | _ => none
  | cs =>
    match cs.dropWhile isTokenChar with
    | [] => some []
    | ';' :: rest => if (cs.takeWhile isTokenChar).isEmpty then none else some rest
    | _ => none

def areParameters : (fuel : Nat) → List Char → Bool
  | 0, _ => false
  | fuel + 1, cs =>
    match cs.dropWhile (· == ' ') with
    | [] => true
    | cs =>
      match cs.dropWhile isTokenChar with
      | '=' :: rest =>
        if (cs.takeWhile isTokenChar).isEmpty then false
        else match value rest with
          | none => false
          | some rest => areParameters fuel rest
      | _ => false

/-- A subtype and its suffix, which is what follows the last plus sign that is not in front. -/
def splitSuffix (subtype : List Char) : List Char × Option (List Char) :=
  match Text.splitLast? '+' subtype with
  | some (base, suffix) => if base.isEmpty then (subtype, none) else (base, some suffix)
  | none => (subtype, none)

/-- Whether a media type is that of JSON: `application/json`, or with the suffix `json`. -/
def isJson (text : String) : Bool :=
  let cs := (Text.lowerAsciiText text).toList
  match cs.dropWhile isTokenChar with
  | '/' :: rest =>
    let subtype := rest.takeWhile isTokenChar
    let (base, suffix) := splitSuffix subtype
    let wellFormed := match rest.dropWhile isTokenChar with
      | [] => true
      | ';' :: ps => !subtype.isEmpty && areParameters (ps.length + 1) ps
      | _ => false
    wellFormed && cs.takeWhile isTokenChar == "application".toList &&
      (base == "json".toList || suffix == some "json".toList)
  | _ => false

end ChatGateway.Http.MediaType
