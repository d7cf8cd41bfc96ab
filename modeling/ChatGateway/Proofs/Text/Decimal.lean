import Mathlib.Data.Nat.Digits.Defs
import ChatGateway.Text.Ascii
import ChatGateway.Text.Blank

namespace ChatGateway.Text

theorem isDigit_iff {c : Char} : isDigit c = true ↔ 48 ≤ c.toNat ∧ c.toNat ≤ 57 := by
  simp only [isDigit, Bool.and_eq_true, decide_eq_true_eq, Char.le_def, UInt32.le_iff_toNat_le]
  rfl

theorem isDigit_eq (c : Char) : isDigit c = c.isDigit := by
  rw [Bool.eq_iff_iff, isDigit_iff]
  simp only [Char.isDigit, Bool.and_eq_true, decide_eq_true_eq, ge_iff_le, UInt32.le_iff_toNat_le]
  rfl

theorem isDigit_unblank {c : Char} (digit : isDigit c = true) : isBlank c = false := by
  have code := isDigit_iff.mp digit
  simp only [isBlank]
  generalize c.toNat = n at code
  simp
  omega

/-- The digits of a number. -/
def decimal (n : Nat) : List Char := Nat.toDigits 10 n

theorem toString_decimal (n : Nat) : (toString n).toList = decimal n := by
  rw [Nat.toString_eq_ofList_toDigits, String.toList_ofList, decimal]

theorem decimal_digits (n : Nat) : ∀ c ∈ decimal n, isDigit c = true := fun c member => by
  rw [isDigit_eq]
  exact Nat.isDigit_of_mem_toDigits (by decide) (by decide) member

theorem toString_int_chars (n : Int) : ∀ c ∈ (toString n).toList, c = '-' ∨ isDigit c = true := by
  intro c member
  cases n with
  | ofNat n =>
      change c ∈ (toString n).toList at member
      rw [toString_decimal] at member
      exact .inr (decimal_digits n c member)
  | negSucc n =>
      change c ∈ ("-" ++ toString (n + 1)).toList at member
      rw [String.toList_append, toString_decimal] at member
      rcases List.mem_append.mp member with sign | digit
      · exact .inl (List.mem_singleton.mp sign)
      · exact .inr (decimal_digits _ c digit)

theorem decimalValue_eq (ds : List Char) : decimalValue ds = Nat.ofDigitChars 10 ds 0 := by
  rw [Nat.ofDigitChars_eq_foldl]
  rfl

theorem decimalValue_decimal (n : Nat) : decimalValue (decimal n) = n := by
  rw [decimalValue_eq, decimal, Nat.ofDigitChars_ten_toDigits]

theorem decimal_ne_nil (n : Nat) : decimal n ≠ [] := Nat.toDigits_ne_nil

theorem decimal_small {n : Nat} (small : n < 10) : decimal n = [n.digitChar] :=
  Nat.toDigits_of_lt_base small

theorem decimal_lead {n : Nat} {rest : List Char} (led : decimal n = '0' :: rest) : n = 0 := by
  induction n using Nat.strongRecOn generalizing rest with
  | ind n ih =>
      by_cases small : n < 10
      · rw [decimal_small small, List.cons.injEq] at led
        have zero : ∀ n, n < 10 → n.digitChar = '0' → n = 0 := by decide
        exact zero n small led.1
      · rw [decimal, Nat.toDigits_of_base_le (by decide) (by omega)] at led
        cases front : Nat.toDigits 10 (n / 10) with
        | nil => exact absurd front Nat.toDigits_ne_nil
        | cons d ds =>
            rw [front, List.cons_append, List.cons.injEq] at led
            have none := ih (n / 10) (by omega) (front.trans (congrArg (· :: ds) led.1))
            omega

/-- The digits of a number behind so many zeros that there are `width` of them. -/
def padding (width n : Nat) : List Char :=
  List.replicate (width - (decimal n).length) '0' ++ decimal n

theorem decimal_length {width n : Nat} (wide : 0 < width) (below : n < 10 ^ width) :
    (decimal n).length ≤ width := Nat.toDigits_length 10 n width wide below

theorem padding_length {width n : Nat} (wide : 0 < width) (below : n < 10 ^ width) :
    (padding width n).length = width := by
  have short := decimal_length wide below
  rw [padding, List.length_append, List.length_replicate]
  omega

theorem padding_full (width n : Nat) : (padding width n).isEmpty = false := by
  rw [List.isEmpty_eq_false_iff, padding]
  exact List.append_ne_nil_of_right_ne_nil _ (decimal_ne_nil n)

theorem padding_digits (width n : Nat) : ∀ c ∈ padding width n, isDigit c = true := by
  intro c member
  rcases List.mem_append.mp member with zero | digit
  · rw [(List.mem_replicate.mp zero).2]
    decide
  · exact decimal_digits n c digit

theorem decimalValue_padding (width n : Nat) : decimalValue (padding width n) = n := by
  rw [decimalValue_eq, padding, Nat.ofDigitChars_append, Nat.ofDigitChars_replicate_zero,
    Nat.mul_zero, ← decimalValue_eq, decimalValue_decimal]

theorem takeWhile_digits {ds rest : List Char} (digits : ∀ c ∈ ds, isDigit c = true)
    (stop : ∀ c ∈ rest.head?, isDigit c = false) : (ds ++ rest).takeWhile isDigit = ds := by
  rw [List.takeWhile_append_of_pos digits]
  cases rest with
  | nil => rw [List.takeWhile_nil, List.append_nil]
  | cons c rest =>
      rw [List.takeWhile_cons_of_neg (by rw [stop c rfl]; decide), List.append_nil]

theorem dropWhile_digits {ds rest : List Char} (digits : ∀ c ∈ ds, isDigit c = true)
    (stop : ∀ c ∈ rest.head?, isDigit c = false) : (ds ++ rest).dropWhile isDigit = rest := by
  rw [List.dropWhile_append_of_pos digits]
  cases rest with
  | nil => rfl
  | cons c rest => rw [List.dropWhile_cons_of_neg (by rw [stop c rfl]; decide)]

end ChatGateway.Text
