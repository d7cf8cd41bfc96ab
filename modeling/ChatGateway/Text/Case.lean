import ChatGateway.Text.Case.Upper
import ChatGateway.Text.Case.Lower
import ChatGateway.Text.Case.Context

/-!
Full Unicode case mapping of text. A character may become several; a capital sigma that ends a
word becomes the final sigma.
-/

namespace ChatGateway.Text

open Case

def upperCodes (n : Nat) : List Nat :=
  if n < 0x80 then [if 0x61 ≤ n ∧ n ≤ 0x7A then n - 32 else n]
  else match upperExpansions.find? (·.1 == n) with
    | some e => e.2
    | none => [mapRuns upperRuns n]

/-- The code points `n` stands for in lower case, away from the end of a word. -/
def lowerCodes (n : Nat) : List Nat :=
  if n < 0x80 then [if 0x41 ≤ n ∧ n ≤ 0x5A then n + 32 else n]
  else match lowerExpansions.find? (·.1 == n) with
    | some e => e.2
    | none => [mapRuns lowerRuns n]

def upperChars (cs : List Char) : List Char :=
  cs.flatMap fun c => (upperCodes c.toNat).map Char.ofNat

def upper (s : String) : String := String.ofList (upperChars s.toList)

/-- Whether the nearest character that takes part in casing has a case. -/
def meetsCased (cs : List Char) : Bool :=
  match cs.dropWhile (fun c => inRanges ignorableRanges c.toNat) with
  | [] => false
  | c :: _ => inRanges casedRanges c.toNat

/-- Lower case of the rest of a text; `before` holds what precedes it, the nearest first. -/
def lowerFrom : (before : List Char) → List Char → List Char
  | _, [] => []
  | before, c :: rest =>
    (if c = 'Σ' then
      [if meetsCased before && !meetsCased rest then 'ς' else 'σ']
    else (lowerCodes c.toNat).map Char.ofNat) ++ lowerFrom (c :: before) rest

def lower (s : String) : String := String.ofList (lowerFrom [] s.toList)

end ChatGateway.Text
