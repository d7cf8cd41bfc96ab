/-!
UTF-8. Reading cuts bytes into characters and broken pieces; a broken piece is the longest run of
bytes with which a character could begin, or a single byte with which none could.
-/

namespace ChatGateway.Text.Utf8

def encodeChar (c : Char) : List UInt8 :=
  let n := c.toNat
  if n < 0x80 then [.ofNat n]
  else if n < 0x800 then [.ofNat (0xC0 + n / 64), .ofNat (0x80 + n % 64)]
  else if n < 0x10000 then
    [.ofNat (0xE0 + n / 4096), .ofNat (0x80 + n / 64 % 64), .ofNat (0x80 + n % 64)]
  else
    [.ofNat (0xF0 + n / 262144), .ofNat (0x80 + n / 4096 % 64), .ofNat (0x80 + n / 64 % 64),
      .ofNat (0x80 + n % 64)]

def encode (cs : List Char) : List UInt8 := cs.flatMap encodeChar

/-- What the first byte of a longer character says. -/
structure Lead where
  follow : Nat
  bits : Nat
  /-- The bounds of the next byte, which keep out surrogates and needless length. -/
  low : Nat := 0x80
  high : Nat := 0xBF

def lead? (b : Nat) : Option Lead :=
  if 0xC2 ≤ b ∧ b ≤ 0xDF then some { follow := 1, bits := b - 0xC0 }
  else if b = 0xE0 then some { follow := 2, bits := 0, low := 0xA0 }
  else if b = 0xED then some { follow := 2, bits := 13, high := 0x9F }
  else if 0xE1 ≤ b ∧ b ≤ 0xEF then some { follow := 2, bits := b - 0xE0 }
  else if b = 0xF0 then some { follow := 3, bits := 0, low := 0x90 }
  else if 0xF1 ≤ b ∧ b ≤ 0xF3 then some { follow := 3, bits := b - 0xF0 }
  else if b = 0xF4 then some { follow := 3, bits := 4, high := 0x8F }
  else none

/-- Take the bytes that follow a first byte: the character number if all are there, and how many
fit. -/
def follow : (count low high bits : Nat) → List UInt8 → Option Nat × Nat
  | 0, _, _, bits, _ => (some bits, 0)
  | _ + 1, _, _, _, [] => (none, 0)
  | count + 1, low, high, bits, b :: rest =>
    if low ≤ b.toNat ∧ b.toNat ≤ high then
      let (n, taken) := follow count 0x80 0xBF (bits * 64 + (b.toNat - 0x80)) rest
      (n, taken + 1)
    else (none, 0)

def pieces : List UInt8 → List (Option Char)
  | [] => []
  | b :: rest =>
    if b.toNat < 0x80 then some (Char.ofNat b.toNat) :: pieces rest
    else match lead? b.toNat with
      | none => none :: pieces rest
      | some l =>
        let (n, taken) := follow l.follow l.low l.high l.bits rest
        n.map Char.ofNat :: pieces (rest.drop taken)
termination_by bs => bs.length
decreasing_by all_goals simp only [List.length_drop, List.length_cons]; omega

def decode? (bs : List UInt8) : Option String := ((pieces bs).mapM id).map String.ofList

/-- The text of any bytes, with U+FFFD for each broken piece. -/
def decodeLossy (bs : List UInt8) : String :=
  String.ofList ((pieces bs).map (·.getD (Char.ofNat 0xFFFD)))

def size (s : String) : Nat := (encode s.toList).length

end ChatGateway.Text.Utf8
