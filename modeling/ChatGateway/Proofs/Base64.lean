import ChatGateway.Base64
import ChatGateway.Text.Blank

namespace ChatGateway.Base64

theorem value?_digit {n : Nat} (small : n < 64) : value? (digit n) = some n := by
  have each : ∀ n, n < 64 → value? (digit n) = some n := by decide +kernel
  exact each n small

theorem value?_small {c : Char} {n : Nat} (read : value? c = some n) : c.toNat < 128 := by
  unfold value? at read
  split at read
  · next letter => exact Nat.lt_of_le_of_lt letter.2 (by decide)
  split at read
  · next letter => exact Nat.lt_of_le_of_lt letter.2 (by decide)
  split at read
  · next decimal => exact Nat.lt_of_le_of_lt decimal.2 (by decide)
  split at read
  · next plus => rw [plus]; decide
  split at read
  · next slash => rw [slash]; decide
  · cases read

theorem digit_of_value? {c : Char} {n : Nat} (read : value? c = some n) :
    n < 64 ∧ digit n = c := by
  have each : ∀ k, k < 128 → ∀ n ∈ value? (Char.ofNat k), n < 64 ∧ digit n = Char.ofNat k := by
    decide +kernel
  have own := each c.toNat (value?_small read)
  rw [Char.ofNat_toNat] at own
  exact own n read

theorem value?_padding : value? '=' = none := rfl

section Group

variable {p q r s : Char} {x y z w : Nat}

/-- The bytes of four digits. -/
def octets (x y z w : Nat) : List UInt8 :=
  [UInt8.ofNat (x * 4 + y / 16), UInt8.ofNat (y % 16 * 16 + z / 4), UInt8.ofNat (z % 4 * 64 + w)]

theorem lastGroup_one (first : value? p = some x) (second : value? q = some y) :
    lastGroup p q '=' '=' = if y % 16 = 0 then some [UInt8.ofNat (x * 4 + y / 16)] else none := by
  simp [lastGroup, first, second]

theorem lastGroup_two (first : value? p = some x) (second : value? q = some y)
    (third : value? r = some z) :
    lastGroup p q r '=' = if z % 4 = 0 then
      some [UInt8.ofNat (x * 4 + y / 16), UInt8.ofNat (y % 16 * 16 + z / 4)] else none := by
  have digit : r ≠ '=' := fun same => by rw [same, value?_padding] at third; cases third
  simp [lastGroup, first, second, third, digit]

theorem lastGroup_three (first : value? p = some x) (second : value? q = some y)
    (third : value? r = some z) (fourth : value? s = some w) :
    lastGroup p q r s = some (octets x y z w) := by
  have digit : r ≠ '=' := fun same => by rw [same, value?_padding] at third; cases third
  have digit' : s ≠ '=' := fun same => by rw [same, value?_padding] at fourth; cases fourth
  simp [lastGroup, first, second, third, fourth, digit, digit', octets]

theorem decode_group (first : value? p = some x) (second : value? q = some y)
    (third : value? r = some z) (fourth : value? s = some w) (rest : List Char) :
    decode (p :: q :: r :: s :: rest) = (decode rest).map (octets x y z w ++ ·) := by
  cases rest with
  | nil => exact lastGroup_three first second third fourth
  | cons c rest =>
      rw [decode, first, second, third, fourth]
      · cases decode (c :: rest) <;> rfl
      · exact List.cons_ne_nil c rest

/-- What a last group is read as, and of which digits it is made. -/
theorem lastGroup_cases {bytes : List UInt8} (read : lastGroup p q r s = some bytes) :
    ∃ x y, value? p = some x ∧ value? q = some y ∧
      (r = '=' ∧ s = '=' ∧ y % 16 = 0 ∧ bytes = [UInt8.ofNat (x * 4 + y / 16)] ∨
      ∃ z, value? r = some z ∧
        (s = '=' ∧ z % 4 = 0 ∧
          bytes = [UInt8.ofNat (x * 4 + y / 16), UInt8.ofNat (y % 16 * 16 + z / 4)] ∨
        ∃ w, value? s = some w ∧ bytes = octets x y z w)) := by
  simp only [lastGroup, Option.bind_eq_bind, Option.bind_eq_some_iff] at read
  obtain ⟨x, first, y, second, read⟩ := read
  refine ⟨x, y, first, second, ?_⟩
  split at read
  · next padded =>
    split at read
    · next unused => exact Or.inl ⟨padded.1, padded.2, unused, (Option.some.inj read).symm⟩
    · cases read
  obtain ⟨z, third, read⟩ := Option.bind_eq_some_iff.mp read
  refine Or.inr ⟨z, third, ?_⟩
  split at read
  · next padded =>
    split at read
    · next unused => exact Or.inl ⟨padded, unused, (Option.some.inj read).symm⟩
    · cases read
  obtain ⟨w, fourth, read⟩ := Option.bind_eq_some_iff.mp read
  exact Or.inr ⟨w, fourth, (Option.some.inj read).symm⟩

end Group

section Octets

variable {x y z w : Nat} (hx : x < 64) (hy : y < 64) (hz : z < 64) (hw : w < 64)

include hx hy in
theorem toNat_first : (UInt8.ofNat (x * 4 + y / 16)).toNat = x * 4 + y / 16 :=
  UInt8.toNat_ofNat_of_lt' (show _ < 256 by omega)

include hz in
theorem toNat_second : (UInt8.ofNat (y % 16 * 16 + z / 4)).toNat = y % 16 * 16 + z / 4 :=
  UInt8.toNat_ofNat_of_lt' (show _ < 256 by omega)

include hw in
theorem toNat_third : (UInt8.ofNat (z % 4 * 64 + w)).toNat = z % 4 * 64 + w :=
  UInt8.toNat_ofNat_of_lt' (show _ < 256 by omega)

include hy hz hw in
/-- The digits of a number have the values that it is put together from. -/
theorem digit_values (x : Nat) :
    (x * 262144 + y * 4096 + z * 64 + w) / 262144 = x ∧
      (x * 262144 + y * 4096 + z * 64 + w) / 4096 % 64 = y ∧
      (x * 262144 + y * 4096 + z * 64 + w) / 64 % 64 = z ∧
      (x * 262144 + y * 4096 + z * 64 + w) % 64 = w := by
  refine ⟨?_, ?_, ?_, ?_⟩ <;> omega

include hx hy in
theorem encode_one (unused : y % 16 = 0) :
    encode [UInt8.ofNat (x * 4 + y / 16)] = [digit x, digit y, '=', '='] := by
  have whole : (x * 4 + y / 16) * 65536 = x * 262144 + y * 4096 + 0 * 64 + 0 := by omega
  obtain ⟨dx, dy, _⟩ := digit_values hy (show 0 < 64 by decide) (show 0 < 64 by decide) x
  simp only [encode, toNat_first hx hy, whole, dx, dy]

include hx hy hz in
theorem encode_two (unused : z % 4 = 0) :
    encode [UInt8.ofNat (x * 4 + y / 16), UInt8.ofNat (y % 16 * 16 + z / 4)] =
      [digit x, digit y, digit z, '='] := by
  have whole : (x * 4 + y / 16) * 65536 + (y % 16 * 16 + z / 4) * 256 =
      x * 262144 + y * 4096 + z * 64 + 0 := by omega
  obtain ⟨dx, dy, dz, _⟩ := digit_values hy hz (show 0 < 64 by decide) x
  simp only [encode, toNat_first hx hy, toNat_second hz, whole, dx, dy, dz]

include hx hy hz hw in
theorem encode_group (rest : List UInt8) :
    encode (octets x y z w ++ rest) = digit x :: digit y :: digit z :: digit w :: encode rest := by
  have whole : (x * 4 + y / 16) * 65536 + (y % 16 * 16 + z / 4) * 256 + (z % 4 * 64 + w) =
      x * 262144 + y * 4096 + z * 64 + w := by omega
  obtain ⟨dx, dy, dz, dw⟩ := digit_values hy hz hw x
  simp only [octets, List.cons_append, List.nil_append, encode, toNat_first hx hy, toNat_second hz,
    toNat_third hw, whole, dx, dy, dz, dw]

end Octets

theorem exists_octets (a b c : UInt8) :
    ∃ x y z w, (x < 64 ∧ y < 64 ∧ z < 64 ∧ w < 64) ∧ octets x y z w = [a, b, c] := by
  have low := a.toNat_lt
  have mid := b.toNat_lt
  have high := c.toNat_lt
  refine ⟨a.toNat / 4, a.toNat % 4 * 16 + b.toNat / 16, b.toNat % 16 * 4 + c.toNat / 64,
    c.toNat % 64, ⟨by omega, by omega, by omega, by omega⟩, ?_⟩
  have first : a.toNat / 4 * 4 + (a.toNat % 4 * 16 + b.toNat / 16) / 16 = a.toNat := by omega
  have second : (a.toNat % 4 * 16 + b.toNat / 16) % 16 * 16 +
      (b.toNat % 16 * 4 + c.toNat / 64) / 4 = b.toNat := by omega
  have third : (b.toNat % 16 * 4 + c.toNat / 64) % 4 * 64 + c.toNat % 64 = c.toNat := by omega
  rw [octets, first, second, third, UInt8.ofNat_toNat, UInt8.ofNat_toNat, UInt8.ofNat_toNat]

theorem exists_pair (a b : UInt8) :
    ∃ x y z, (x < 64 ∧ y < 64 ∧ z < 64) ∧ z % 4 = 0 ∧
      [UInt8.ofNat (x * 4 + y / 16), UInt8.ofNat (y % 16 * 16 + z / 4)] = [a, b] := by
  have low := a.toNat_lt
  have high := b.toNat_lt
  refine ⟨a.toNat / 4, a.toNat % 4 * 16 + b.toNat / 16, b.toNat % 16 * 4,
    ⟨by omega, by omega, by omega⟩, by omega, ?_⟩
  have first : a.toNat / 4 * 4 + (a.toNat % 4 * 16 + b.toNat / 16) / 16 = a.toNat := by omega
  have second : (a.toNat % 4 * 16 + b.toNat / 16) % 16 * 16 + b.toNat % 16 * 4 / 4 = b.toNat := by
    omega
  rw [first, second, UInt8.ofNat_toNat, UInt8.ofNat_toNat]

theorem exists_single (a : UInt8) :
    ∃ x y, (x < 64 ∧ y < 64) ∧ y % 16 = 0 ∧ [UInt8.ofNat (x * 4 + y / 16)] = [a] := by
  have small := a.toNat_lt
  refine ⟨a.toNat / 4, a.toNat % 4 * 16, ⟨by omega, by omega⟩, by omega, ?_⟩
  have first : a.toNat / 4 * 4 + a.toNat % 4 * 16 / 16 = a.toNat := by omega
  rw [first, UInt8.ofNat_toNat]

theorem decode_encode (bytes : List UInt8) : decode (encode bytes) = some bytes := by
  induction bytes using encode.induct with
  | case1 => rfl
  | case2 a =>
      obtain ⟨x, y, ⟨hx, hy⟩, unused, same⟩ := exists_single a
      rw [← same, encode_one hx hy unused]
      exact (lastGroup_one (value?_digit hx) (value?_digit hy)).trans (if_pos unused)
  | case3 a b =>
      obtain ⟨x, y, z, ⟨hx, hy, hz⟩, unused, same⟩ := exists_pair a b
      rw [← same, encode_two hx hy hz unused]
      exact (lastGroup_two (value?_digit hx) (value?_digit hy) (value?_digit hz)).trans
        (if_pos unused)
  | case4 a b c rest ih =>
      obtain ⟨x, y, z, w, ⟨hx, hy, hz, hw⟩, same⟩ := exists_octets a b c
      have whole : a :: b :: c :: rest = octets x y z w ++ rest := by rw [same]; rfl
      rw [whole, encode_group hx hy hz hw, decode_group (value?_digit hx) (value?_digit hy)
        (value?_digit hz) (value?_digit hw), ih, Option.map_some]

theorem encode_of_lastGroup {p q r s : Char} {bytes : List UInt8}
    (read : lastGroup p q r s = some bytes) : encode bytes = [p, q, r, s] := by
  obtain ⟨x, y, first, second, ending⟩ := lastGroup_cases read
  obtain ⟨hx, rfl⟩ := digit_of_value? first
  obtain ⟨hy, rfl⟩ := digit_of_value? second
  rcases ending with ⟨hr, hs, unused, group⟩ | ⟨z, third, ending⟩
  · rw [group, hr, hs, encode_one hx hy unused]
  obtain ⟨hz, rfl⟩ := digit_of_value? third
  rcases ending with ⟨hs, unused, group⟩ | ⟨w, fourth, group⟩
  · rw [group, hs, encode_two hx hy hz unused]
  obtain ⟨hw, rfl⟩ := digit_of_value? fourth
  rw [group]
  exact encode_group hx hy hz hw []

theorem encode_of_decode {cs : List Char} {bytes : List UInt8} (read : decode cs = some bytes) :
    encode bytes = cs := by
  induction cs using decode.induct generalizing bytes with
  | case1 =>
      cases read
      rfl
  | case2 p q r s => exact encode_of_lastGroup read
  | case3 p q r s rest long ih =>
      rw [decode.eq_3 p q r s rest long] at read
      simp only [Option.bind_eq_bind, Option.bind_eq_some_iff] at read
      obtain ⟨x, first, y, second, z, third, w, fourth, behind, later, group⟩ := read
      obtain ⟨hx, rfl⟩ := digit_of_value? first
      obtain ⟨hy, rfl⟩ := digit_of_value? second
      obtain ⟨hz, rfl⟩ := digit_of_value? third
      obtain ⟨hw, rfl⟩ := digit_of_value? fourth
      rw [← ih later, ← Option.some.inj group]
      exact encode_group hx hy hz hw behind
  | case4 cs none four more =>
      rw [decode] at read
      · cases read
      · exact none
      · exact four
      · exact more

/-- A text stands for some bytes exactly if it is how they are written. -/
theorem decode_eq_some_iff {cs : List Char} {bytes : List UInt8} :
    decode cs = some bytes ↔ cs = encode bytes :=
  ⟨fun read => (encode_of_decode read).symm, fun written => written ▸ decode_encode bytes⟩

theorem encode_injective {bytes bytes' : List UInt8} (same : encode bytes = encode bytes') :
    bytes = bytes' := by
  have back := decode_encode bytes
  rw [same, decode_encode] at back
  exact (Option.some.inj back).symm

theorem encode_eq_nil_iff {bytes : List UInt8} : encode bytes = [] ↔ bytes = [] :=
  ⟨fun nothing => encode_injective (nothing.trans encode.eq_1.symm), fun empty => empty ▸ rfl⟩

theorem digit_unblank (n : Nat) : Text.isBlank (digit n) = false := by
  have letters : alphabet.any Text.isBlank = false := by decide +kernel
  rw [digit, List.getD_eq_getElem?_getD]
  cases found : alphabet[n]? with
  | none => rfl
  | some c =>
      exact Bool.eq_false_iff.mpr (List.any_eq_false.mp letters c (List.mem_of_getElem? found))

theorem encode_unblank (bytes : List UInt8) : ∀ c ∈ encode bytes, Text.isBlank c = false := by
  have padding : Text.isBlank '=' = false := by decide
  induction bytes using encode.induct with
  | case1 => exact nofun
  | case2 a => simp [encode, digit_unblank, padding]
  | case3 a b => simp [encode, digit_unblank, padding]
  | case4 a b c rest ih => simpa [encode, digit_unblank] using ih

end ChatGateway.Base64
