import ChatGateway.Time.Instant
import ChatGateway.Text.Blank
import ChatGateway.Text.Ascii

/-!
Written instants: `2024-05-01T12:00:00.5-03:00`. Printing is in universal time with the fewest of
0, 3, 6 or 9 decimals that lose nothing. Reading takes any offset, any number of decimals, blanks
between the parts, short fields and a leap second.
-/

namespace ChatGateway.Instant

open Text Calendar

def padded (width n : Nat) : String :=
  let ds := toString n
  String.ofList (List.replicate (width - ds.length) '0') ++ ds

/-- Four digits, with a sign and perhaps more digits outside 0 to 9999. -/
def yearText (y : Int) : String :=
  if 0 ≤ y ∧ y ≤ 9999 then padded 4 y.toNat
  else (if y < 0 then "-" else "+") ++ padded 4 y.natAbs

def fractionText (n : Nat) : String :=
  if n = 0 then ""
  else if n % 1000000 = 0 then "." ++ padded 3 (n / 1000000)
  else if n % 1000 = 0 then "." ++ padded 6 (n / 1000)
  else "." ++ padded 9 n

def print (t : Instant) : String :=
  let d := Date.ofDays (t.second / 86400)
  let s := (t.second % 86400).toNat
  let leap := nanosPerSecond ≤ t.nano
  yearText d.year ++ "-" ++ padded 2 d.month ++ "-" ++ padded 2 d.day ++ "T" ++
    padded 2 (s / 3600) ++ ":" ++ padded 2 (s / 60 % 60) ++ ":" ++
    padded 2 (if leap then s % 60 + 1 else s % 60) ++
    fractionText (if leap then t.nano - nanosPerSecond else t.nano) ++ "Z"

def numberPart (width : Nat) (cs : List Char) : Option (Nat × List Char) :=
  let cs := trimStart cs
  let ds := (cs.take width).takeWhile isDigit
  if ds.isEmpty then none else some (decimalValue ds, cs.drop ds.length)

def yearPart (cs : List Char) : Option (Int × List Char) :=
  match trimStart cs with
  | '-' :: rest => signed (-1) rest
  | '+' :: rest => signed 1 rest
  | rest => (numberPart 4 rest).map fun (n, r) => ((n : Int), r)
where
  signed (sign : Int) (cs : List Char) : Option (Int × List Char) :=
    let ds := cs.takeWhile isDigit
    if ds.isEmpty then none else some (sign * decimalValue ds, cs.drop ds.length)

def markPart (mark : Char) (cs : List Char) : Option (List Char) :=
  match trimStart cs with
  | c :: rest => if c = mark then some rest else none
  | [] => none

/-- Nanoseconds of an optional fraction; digits after the ninth are dropped. -/
def nanoPart (cs : List Char) : Option (Nat × List Char) :=
  match cs with
  | '.' :: rest =>
    let ds := rest.takeWhile isDigit
    if ds.isEmpty then none
    else
      let kept := ds.take 9
      some (decimalValue kept * Nat.pow 10 (9 - kept.length), rest.drop ds.length)
  | _ => some (0, cs)

/-- Seconds east of Greenwich: `Z`, `UTC`, or a sign, two digits, colons or blanks, two digits. -/
def offsetPart (cs : List Char) : Option (Int × List Char) :=
  match cs with
  | 'Z' :: rest => some (0, rest)
  | 'z' :: rest => some (0, rest)
  | '+' :: rest => hoursMinutes 1 rest
  | '-' :: rest => hoursMinutes (-1) rest
  | '−' :: rest => hoursMinutes (-1) rest
  | a :: b :: c :: rest =>
    if [a, b, c].map lowerAscii = ['u', 't', 'c'] then some (0, rest) else none
  | _ => none
where
  hoursMinutes (sign : Int) (cs : List Char) : Option (Int × List Char) :=
    match cs with
    | h₁ :: h₂ :: rest =>
      match rest.dropWhile fun c => c == ':' || isBlank c with
      | m₁ :: m₂ :: rest' =>
        if [h₁, h₂, m₁, m₂].all isDigit ∧ m₁ < '6' then
          some (sign * (decimalValue [h₁, h₂] * 3600 + decimalValue [m₁, m₂] * 60), rest')
        else none
      | _ => none
    | _ => none

def ofParts? (d : Date) (hour minute second nano : Nat) (offset : Int) : Option Instant :=
  if d.isValid ∧ hour < 24 ∧ minute < 60 ∧ second ≤ 60 ∧ -86400 < offset ∧ offset < 86400 then
    let leap := second = 60
    let s : Int := d.toDays * 86400 + hour * 3600 + minute * 60 +
      (if leap then 59 else second : Nat) - offset
    if (Date.ofDays (s / 86400)).isValid then
      some ⟨s, if leap then nano + nanosPerSecond else nano⟩
    else none
  else none

def parse? (text : String) : Option Instant := do
  let (year, cs) ← yearPart text.toList
  let cs ← markPart '-' cs
  let (month, cs) ← numberPart 2 cs
  let cs ← markPart '-' cs
  let (day, cs) ← numberPart 2 cs
  let cs ← match cs with
    | c :: rest => if c = 'T' ∨ c = 't' ∨ c = ' ' then some rest else none
    | [] => none
  let (hour, cs) ← numberPart 2 cs
  let cs ← markPart ':' cs
  let (minute, cs) ← numberPart 2 cs
  let cs ← markPart ':' cs
  let (second, cs) ← numberPart 2 cs
  let (nano, cs) ← nanoPart cs
  let (offset, cs) ← offsetPart (trimStart cs)
  if (trimStart cs).isEmpty then ofParts? ⟨year, month, day⟩ hour minute second nano offset
  else none

end ChatGateway.Instant
