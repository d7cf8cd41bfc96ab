/-!
Double precision numbers, kept as their bits. Reading a decimal rounds to the nearest double, ties
to even; the digits written back are the fewest that read as the same number.
-/

namespace ChatGateway

structure Binary64 where
  bits : UInt64
  deriving DecidableEq, Repr, Inhabited

/-- A decimal `digits · 10 ^ exponent`, negated when `negative`. -/
structure Decimal where
  negative : Bool
  digits : Nat
  exponent : Int
  deriving DecidableEq, Repr

namespace Binary64

def signBit : Nat := Nat.pow 2 63
def fractionLimit : Nat := Nat.pow 2 52
def infinityBits : Nat := 2047 * Nat.pow 2 52

def ofMagnitude (negative : Bool) (magnitude : Nat) : Binary64 :=
  ⟨UInt64.ofNat (if negative then signBit + magnitude else magnitude)⟩

def zero (negative : Bool) : Binary64 := ofMagnitude negative 0
def infinity (negative : Bool) : Binary64 := ofMagnitude negative infinityBits
def nan : Binary64 := ofMagnitude false (infinityBits + Nat.pow 2 51)

def isNegative (x : Binary64) : Bool := signBit ≤ x.bits.toNat

/-- The bits below the sign. Magnitudes are ordered as these numbers are. -/
def magnitude (x : Binary64) : Nat := x.bits.toNat % signBit

def isFinite (x : Binary64) : Bool := x.magnitude < infinityBits
def isInfinite (x : Binary64) : Bool := x.magnitude == infinityBits
def isZero (x : Binary64) : Bool := x.magnitude == 0

/-- `(m, q)` with the value `m · 2 ^ q`, for a finite magnitude. -/
def scaled (x : Binary64) : Nat × Int :=
  let e := x.magnitude / fractionLimit
  let f := x.magnitude % fractionLimit
  if e = 0 then (f, -1074) else (f + fractionLimit, (e : Int) - 1075)

def roundHalfEven (num den : Nat) : Nat :=
  let q := num / den
  let r := num % den
  if 2 * r < den then q
  else if den < 2 * r then q + 1
  else if q % 2 = 0 then q else q + 1

def inUnits (num den : Nat) (q : Int) : Nat × Nat :=
  if 0 ≤ q then (num, den * Nat.pow 2 q.toNat) else (num * Nat.pow 2 (-q).toNat, den)

/-- The double nearest to `num / den`. -/
def ofRatio (negative : Bool) (num den : Nat) : Binary64 :=
  if num = 0 ∨ den = 0 then zero negative
  else
    let q₁ : Int := (num.log2 : Int) - den.log2 - 52
    let (n₁, d₁) := inUnits num den q₁
    let q₂ := if n₁ / d₁ < fractionLimit then q₁ - 1 else q₁
    let q := max q₂ (-1074)
    let (n, d) := inUnits num den q
    let m := roundHalfEven n d
    let magnitude := if m < fractionLimit then m else (q + 1074).toNat * fractionLimit + m
    if infinityBits ≤ magnitude then infinity negative else ofMagnitude negative magnitude

/-- The double nearest to a decimal. Exponents beyond the range are answered without computing
the power. -/
def ofDecimal (d : Decimal) : Binary64 :=
  if d.digits = 0 then zero d.negative
  else
    let places : Int := (d.digits.log2 : Int) * 3 / 10 + d.exponent
    if 400 < places then infinity d.negative
    else if places < -400 then zero d.negative
    else if 0 ≤ d.exponent then ofRatio d.negative (d.digits * Nat.pow 10 d.exponent.toNat) 1
    else ofRatio d.negative d.digits (Nat.pow 10 (-d.exponent).toNat)

def ofNat (n : Nat) : Binary64 := ofRatio false n 1

def ofInt (i : Int) : Binary64 := ofRatio (i < 0) i.natAbs 1

/-- Equality of numbers: both zeros are equal, and a value that is no number equals nothing. -/
def sameValue (x y : Binary64) : Bool :=
  (x.isZero && y.isZero) || (x.bits == y.bits && x.magnitude ≤ infinityBits)

def ratio (x : Binary64) : Nat × Nat :=
  let (m, q) := x.scaled
  if 0 ≤ q then (m * Nat.pow 2 q.toNat, 1) else (m, Nat.pow 2 (-q).toNat)

def negate (x : Binary64) : Binary64 := ofMagnitude (!x.isNegative) x.magnitude

def mul (x y : Binary64) : Binary64 :=
  let (n₁, d₁) := x.ratio
  let (n₂, d₂) := y.ratio
  ofRatio (x.isNegative != y.isNegative) (n₁ * n₂) (d₁ * d₂)

def div (x y : Binary64) : Binary64 :=
  let (n₁, d₁) := x.ratio
  let (n₂, d₂) := y.ratio
  ofRatio (x.isNegative != y.isNegative) (n₁ * d₂) (d₁ * n₂)

/-- The largest `e` with `10 ^ e ≤ num / den`, from an estimate that is at most one too small. -/
def decimalExponent (num den : Nat) : Int :=
  let guess : Int := ((num.log2 : Int) - den.log2 - 1) * 30103 / 100000 - 1
  let reaches (e : Int) : Bool :=
    if 0 ≤ e then den * Nat.pow 10 e.toNat ≤ num else den ≤ num * Nat.pow 10 (-e).toNat
  if reaches (guess + 2) then guess + 2
  else if reaches (guess + 1) then guess + 1
  else guess

/-- The decimals with last place `10 ^ e` next to `num / den`, the nearer one first. -/
def neighbours (num den : Nat) (e : Int) : List Nat :=
  let (n, d) := if 0 ≤ e then (num, den * Nat.pow 10 e.toNat)
    else (num * Nat.pow 10 (-e).toNat, den)
  let low := n / d
  let r := n % d
  if r = 0 then [low] else if 2 * r < d ∨ (2 * r = d ∧ low % 2 = 0) then [low, low + 1]
  else [low + 1, low]

/-- The first grid, of 1, 2, … 17 digits, with a neighbour that reads back. -/
def searchShortest (x : Binary64) (num den : Nat) (top : Int) : (left : Nat) → Decimal
  | 0 => ⟨x.isNegative, 0, 0⟩
  | left + 1 =>
    let e := top - (17 - (left + 1) : Nat)
    match (neighbours num den e).find? (fun n => ofDecimal ⟨x.isNegative, n, e⟩ == x) with
    | some n => ⟨x.isNegative, n, e⟩
    | none => searchShortest x num den top left

def trimZeros : (fuel : Nat) → Decimal → Decimal
  | 0, d => d
  | fuel + 1, d =>
    if d.digits % 10 = 0 ∧ d.digits ≠ 0 then
      trimZeros fuel { d with digits := d.digits / 10, exponent := d.exponent + 1 }
    else d

/-- The decimal with the fewest digits that reads as the finite number `x`. -/
def shortest (x : Binary64) : Decimal :=
  if x.isZero then ⟨x.isNegative, 0, 0⟩
  else
    let (num, den) := x.ratio
    trimZeros 20 (searchShortest x num den (decimalExponent num den) 17)

def zeros (n : Nat) : String := String.ofList (List.replicate n '0')

def positional (d : Decimal) : String :=
  let ds := toString d.digits
  let body :=
    if 0 ≤ d.exponent then (if d.digits = 0 then "0" else ds ++ zeros d.exponent.toNat)
    else
      let places := (-d.exponent).toNat
      let cs := ds.toList
      if cs.length ≤ places then "0." ++ zeros (places - cs.length) ++ ds
      else String.ofList (cs.take (cs.length - places)) ++ "." ++
        String.ofList (cs.drop (cs.length - places))
  if d.negative then "-" ++ body else body

def toPlainText (x : Binary64) : String :=
  if x.isFinite then positional x.shortest
  else if x.isInfinite then (if x.isNegative then "-inf" else "inf")
  else "NaN"

/-- The text of a finite number in JSON: positional between `10 ^ -5` and `10 ^ 16` and then with
at least one decimal, with an exponent beyond. -/
def toJsonText (x : Binary64) : String :=
  let d := x.shortest
  let ds := toString d.digits
  let point : Int := ds.length + d.exponent
  if d.digits = 0 then (if d.negative then "-0.0" else "0.0")
  else if 0 ≤ d.exponent ∧ point ≤ 16 then positional d ++ ".0"
  else if -5 < point ∧ point ≤ 16 then positional d
  else
    let lead := String.ofList (ds.toList.take 1)
    let rest := String.ofList (ds.toList.drop 1)
    let mantissa := if rest.isEmpty then lead else lead ++ "." ++ rest
    (if d.negative then "-" else "") ++ mantissa ++ "e" ++ toString (point - 1)

/-- The number rounded to the nearest integer, a half away from zero, and clamped to the 64-bit
naturals; a value that is no number counts as zero. -/
def toNatClamped (x : Binary64) : Nat :=
  if x.isNegative then 0
  else if x.isInfinite then Nat.pow 2 64 - 1
  else if !x.isFinite then 0
  else
    let (num, den) := x.ratio
    min ((2 * num + den) / (2 * den)) (Nat.pow 2 64 - 1)

end Binary64

end ChatGateway
