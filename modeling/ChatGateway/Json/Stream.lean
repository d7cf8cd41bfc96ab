import ChatGateway.Json.Decode
import ChatGateway.Json.Parser

/-!
Reading a structure straight off a text, front to back. The first fault decides, be it one of
syntax or of shape, so a member of the wrong type counts even if the text breaks off after it.
-/

namespace ChatGateway

inductive TextFault where
  | syntaxError
  | wrongShape
  deriving DecidableEq, Repr

namespace Json

variable {σ : Type}

abbrev Reading (σ : Type) := Except TextFault (σ × List Char)

/-- Hand a value to a field as soon as it is known. Of a container that breaks off, only its kind
is known. -/
def readField (f : Field σ) (cs : List Char) (s : σ) : Reading σ :=
  let offer (j : Json) : Except TextFault σ := (f.read j s).mapError fun _ => .wrongShape
  match value (maxDepth - 1) cs with
  | some (j, rest) => (offer j).map (·, rest)
  | none =>
    match skipBlanks cs with
    | '[' :: _ => (offer (.arr [])).bind fun _ => .error .syntaxError
    | '\x7b' :: _ => (offer (.obj [])).bind fun _ => .error .syntaxError
    | _ => .error .syntaxError

def readMember (fields : List (Field σ)) (cs : List Char) (seen : List String) (s : σ) :
    Reading (List String × σ) :=
  match skipBlanks cs with
  | '"' :: rest =>
    match stringBody rest with
    | none => .error .syntaxError
    | some (name, rest) =>
      match fields.find? (·.matchesName name), skipBlanks rest with
      | none, ':' :: rest =>
        match skipValue rest with
        | some rest => .ok ((seen, s), rest)
        | none => .error .syntaxError
      | none, _ => .error .syntaxError
      | some f, rest =>
        if seen.contains f.name then .error .wrongShape
        else match rest with
          | ':' :: rest => (readField f rest s).map fun (s, rest) => ((f.name :: seen, s), rest)
          | _ => .error .syntaxError
  | _ => .error .syntaxError

def readMembers (fields : List (Field σ)) :
    (fuel : Nat) → List Char → List String → σ → Reading (List String × σ)
  | 0, _, _, _ => .error .syntaxError
  | fuel + 1, cs, seen, s =>
    match readMember fields cs seen s with
    | .error e => .error e
    | .ok ((seen, s), rest) =>
      match skipBlanks rest with
      | ',' :: rest => readMembers fields fuel rest seen s
      | '\x7d' :: rest => .ok ((seen, s), rest)
      | _ => .error .syntaxError

def readItems : List (Field σ) → (first : Bool) → List Char → σ → Reading σ
  | [], _, cs, s =>
    match skipBlanks cs with
    | ']' :: rest => .ok (s, rest)
    | _ => .error .syntaxError
  | f :: fields, first, cs, s =>
    match skipBlanks cs with
    | ']' :: _ => if f.required then .error .wrongShape else readItems fields first cs s
    | ',' :: rest =>
      if first then .error .syntaxError
      else match skipBlanks rest with
        | ']' :: _ => .error .syntaxError
        | _ => next f fields rest s
    | _ => if first then next f fields cs s else .error .syntaxError
where
  next (f : Field σ) (fields : List (Field σ)) (cs : List Char) (s : σ) : Reading σ :=
    match readField f cs s with
    | .error e => .error e
    | .ok (s, rest) => readItems fields false rest s

def readText (fields : List (Field σ)) (start : σ) (text : String) : Except TextFault σ :=
  let finish (r : Reading σ) : Except TextFault σ := r.bind fun (s, rest) =>
    if (skipBlanks rest).isEmpty then .ok s else .error .syntaxError
  match skipBlanks text.toList with
  | '\x7b' :: rest =>
    let members : Reading (List String × σ) := match skipBlanks rest with
      | '\x7d' :: rest => .ok (([], start), rest)
      | _ => readMembers fields (rest.length + 1) rest [] start
    finish (members.bind fun ((seen, s), rest) =>
      if fields.any (fun f => f.required && !seen.contains f.name) then .error .wrongShape
      else .ok (s, rest))
  | '[' :: rest => finish (readItems fields true rest start)
  | cs => match value maxDepth cs with
    | some _ => .error .wrongShape
    | none => .error .syntaxError

end Json

end ChatGateway
