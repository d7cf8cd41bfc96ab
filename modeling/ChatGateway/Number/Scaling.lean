import ChatGateway.Number.Binary64
import ChatGateway.Text.Ascii

/-!
Decimals read by scaling. The leading digits that fit into 64 bits make an integer, and its double
is multiplied or divided by a power of ten in double precision. Every step rounds, so the result
may differ from the nearest double in its last digit. A number too great for a double is refused.
-/

namespace ChatGateway

namespace Number

/-- The digits put behind `n` for as long as the number fits into 64 bits, and those left over. -/
def appendDigits : (n : Nat) → List Char → Nat × List Char
  | n, [] => (n, [])
  | n, c :: rest =>
    let m := Text.appendDigit n c
    if m < Nat.pow 2 64 then appendDigits m rest else (n, c :: rest)

end Number

namespace Binary64

def maxPower : Nat := 308

def powerOfTen (n : Nat) : Binary64 := ofNat (Nat.pow 10 n)

/-- Division by `10 ^ n`, in steps by the greatest power until one is left that is finite. -/
def divPower (x : Binary64) (n : Nat) : Binary64 :=
  if n ≤ maxPower then x.div (powerOfTen n)
  else if x.isZero then x
  else divPower (x.div (powerOfTen maxPower)) (n - maxPower)
termination_by n
decreasing_by
  have : 0 < maxPower := by decide
  omega

def mulPower? (x : Binary64) (n : Nat) : Option Binary64 :=
  if n ≤ maxPower then (some (x.mul (powerOfTen n))).filter isFinite
  else if x.isZero then some x
  else none

/-- The number `whole.fraction · 10 ^ exponent`. Digits left over before the point still count as
places, those behind it do not. -/
def ofDigits? (negative : Bool) (whole fraction : List Char) (exponent : Int) :
    Option Binary64 :=
  let (n, left) := Number.appendDigits 0 whole
  let (n, unread) := Number.appendDigits n fraction
  let e : Int := exponent + left.length - (fraction.length - unread.length : Nat)
  let x := if 0 ≤ e then (ofNat n).mulPower? e.toNat else some ((ofNat n).divPower (-e).toNat)
  x.map fun x => if negative then x.negate else x

end Binary64

end ChatGateway
