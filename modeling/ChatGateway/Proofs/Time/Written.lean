import ChatGateway.Time.Written
import ChatGateway.Proofs.Text.Decimal
import ChatGateway.Proofs.Text.Parts
import ChatGateway.Proofs.Time.Calendar

namespace ChatGateway.Instant

open Text Calendar

/-- An instant of the years 0 to 9999. A leap second ends a minute. -/
structure Common (t : Instant) : Prop where
  year_low : 0 ≤ (Date.ofDays (t.second / 86400)).year
  year_high : (Date.ofDays (t.second / 86400)).year ≤ 9999
  nano : t.nano < nanosPerSecond ∨ t.nano < 2 * nanosPerSecond ∧ t.second % 60 = 59

theorem padded_toList (width n : Nat) : (padded width n).toList = padding width n := by
  rw [padded, String.toList_append, String.toList_ofList, ← String.length_toList,
    toString_decimal, padding]

theorem trimStart_digit {cs : List Char} (digit : ∀ c ∈ cs.head?, isDigit c = true) :
    trimStart cs = cs := trimStart_of_first fun c first => isDigit_unblank (digit c first)

section Parts

variable {width n : Nat} (rest : List Char)

theorem padding_head : ∀ c ∈ (padding width n ++ rest).head?, isDigit c = true := by
  intro c first
  cases digits : padding width n with
  | nil => cases (digits ▸ padding_full width n : ([] : List Char).isEmpty = false)
  | cons d ds =>
      rw [digits] at first
      cases first
      exact padding_digits width n c (digits ▸ List.mem_cons_self)

variable (wide : 0 < width) (below : n < 10 ^ width)

include wide below

theorem numberPart_padding : numberPart width (padding width n ++ rest) = some (n, rest) := by
  have long := padding_length wide below
  have taken : (padding width n ++ rest).take width = padding width n := List.take_left' long
  have kept : (padding width n).takeWhile isDigit = padding width n := by
    have whole := @takeWhile_digits (padding width n) [] (padding_digits width n) nofun
    rwa [List.append_nil] at whole
  simp only [numberPart, trimStart_digit (padding_head rest), taken, kept, padding_full,
    decimalValue_padding, List.drop_left]
  rfl

theorem nanoPart_padding (narrow : width ≤ 9) (stop : ∀ c ∈ rest.head?, isDigit c = false) :
    nanoPart ('.' :: (padding width n ++ rest)) = some (n * 10 ^ (9 - width), rest) := by
  have long := padding_length wide below
  have taken : (padding width n).take 9 = padding width n :=
    List.take_of_length_le (Nat.le_trans (Nat.le_of_eq long) narrow)
  simp only [nanoPart, takeWhile_digits (padding_digits width n) stop, taken, padding_full,
    decimalValue_padding, List.drop_left' long, long]
  rfl

end Parts

theorem yearPart_padding {n : Nat} (below : n < 10 ^ 4) (rest : List Char) :
    yearPart (padding 4 n ++ rest) = some ((n : Int), rest) := by
  have read := numberPart_padding rest (by decide) below
  have head := @padding_head 4 n rest
  unfold yearPart
  rw [trimStart_digit head]
  split
  · next minus =>
    rw [minus] at head
    exact absurd (head '-' rfl) (by decide)
  · next plus =>
    rw [plus] at head
    exact absurd (head '+' rfl) (by decide)
  · rw [read]
    rfl

theorem markPart_mark {mark : Char} (unblank : isBlank mark = false) (rest : List Char) :
    markPart mark (mark :: rest) = some rest := by
  rw [markPart, trimStart, List.dropWhile_cons_of_neg (by rw [unblank]; decide)]
  exact if_pos rfl

theorem nanoPart_fraction {n : Nat} (below : n < nanosPerSecond) {rest : List Char}
    (stop : ∀ c ∈ rest.head?, c = 'Z') :
    nanoPart ((fractionText n).toList ++ rest) = some (n, rest) := by
  have undigit : ∀ c ∈ rest.head?, isDigit c = false := fun c first => by
    rw [stop c first]
    decide
  have read : ∀ width, 0 < width → width ≤ 9 → n % 10 ^ (9 - width) = 0 →
      nanoPart (("." ++ padded width (n / 10 ^ (9 - width))).toList ++ rest) = some (n, rest) := by
    intro width wide narrow even
    have total : 10 ^ (9 - width) * 10 ^ width = nanosPerSecond := by
      rw [← Nat.pow_add, Nat.sub_add_cancel narrow]
      rfl
    have small : n / 10 ^ (9 - width) < 10 ^ width := Nat.div_lt_of_lt_mul (total ▸ below)
    have whole := nanoPart_padding rest wide small narrow undigit
    rw [Nat.div_mul_cancel (Nat.dvd_of_mod_eq_zero even)] at whole
    rw [String.toList_append, padded_toList]
    exact whole
  unfold fractionText
  split
  · next zero =>
    subst zero
    cases rest with
    | nil => rfl
    | cons c rest =>
        cases stop c rfl
        rfl
  split
  · next millis => exact read 3 (by decide) (by decide) millis
  split
  · next micros => exact read 6 (by decide) (by decide) micros
  · have whole := read 9 (by decide) (by decide) (Nat.mod_one n)
    rwa [show n / 10 ^ (9 - 9) = n from Nat.div_one n] at whole

theorem bind_of {α β : Type} {x : Option α} {a : α} {f : α → Option β} {b : Option β}
    (first : x = some a) (later : f a = b) : (x >>= f) = b := by
  rw [first]
  exact later

/-- What is read where each part is followed by its mark. -/
theorem parse?_parts {text : String} {year : Int} {month day hour minute second nano : Nat}
    {c₁ c₂ c₃ c₄ c₅ c₆ : List Char} (years : yearPart text.toList = some (year, '-' :: c₁))
    (months : numberPart 2 c₁ = some (month, '-' :: c₂))
    (days : numberPart 2 c₂ = some (day, 'T' :: c₃))
    (hours : numberPart 2 c₃ = some (hour, ':' :: c₄))
    (minutes : numberPart 2 c₄ = some (minute, ':' :: c₅))
    (seconds : numberPart 2 c₅ = some (second, c₆)) (nanos : nanoPart c₆ = some (nano, ['Z'])) :
    parse? text = ofParts? ⟨year, month, day⟩ hour minute second nano 0 := by
  have zone : offsetPart (trimStart ['Z']) = some (0, []) := rfl
  have dash : ∀ rest, markPart '-' ('-' :: rest) = some rest := markPart_mark (by decide)
  have colon : ∀ rest, markPart ':' (':' :: rest) = some rest := markPart_mark (by decide)
  unfold parse?
  refine bind_of years (bind_of (dash c₁) (bind_of months (bind_of (dash c₂) (bind_of days ?_))))
  refine bind_of (rfl : some c₃ = some c₃) ?_
  refine bind_of hours (bind_of (colon c₄) (bind_of minutes (bind_of (colon c₅) ?_)))
  exact bind_of seconds (bind_of nanos (bind_of zone rfl))

/-- The parts of a written instant, as they are put together. -/
def assemble (year month day hour minute second nano : Nat) : List Char :=
  padding 4 year ++ '-' :: (padding 2 month ++ '-' :: (padding 2 day ++ 'T' ::
    (padding 2 hour ++ ':' :: (padding 2 minute ++ ':' :: (padding 2 second ++
      ((fractionText nano).toList ++ ['Z']))))))

theorem parse?_assemble {year month day hour minute second nano : Nat} (years : year < 10 ^ 4)
    (months : month < 10 ^ 2) (days : day < 10 ^ 2) (hours : hour < 10 ^ 2)
    (minutes : minute < 10 ^ 2) (seconds : second < 10 ^ 2) (nanos : nano < nanosPerSecond) :
    parse? (String.ofList (assemble year month day hour minute second nano)) =
      ofParts? ⟨year, month, day⟩ hour minute second nano 0 := by
  have two : 0 < 2 := by decide
  refine parse?_parts ?_ (numberPart_padding _ two months) (numberPart_padding _ two days)
    (numberPart_padding _ two hours) (numberPart_padding _ two minutes)
    (numberPart_padding _ two seconds)
    (nanoPart_fraction nanos fun c first => (Option.mem_some.mp first).symm)
  rw [String.toList_ofList]
  exact yearPart_padding years _

/-- The seconds that are shown: those of the minute, or the one more that a leap second is. -/
def shownSecond (t : Instant) : Nat :=
  let s := (t.second % 86400).toNat
  if nanosPerSecond ≤ t.nano then s % 60 + 1 else s % 60

def shownNano (t : Instant) : Nat :=
  if nanosPerSecond ≤ t.nano then t.nano - nanosPerSecond else t.nano

theorem print_assemble {t : Instant} (low : 0 ≤ (Date.ofDays (t.second / 86400)).year)
    (high : (Date.ofDays (t.second / 86400)).year ≤ 9999) :
    t.print = String.ofList (assemble (Date.ofDays (t.second / 86400)).year.toNat
      (Date.ofDays (t.second / 86400)).month (Date.ofDays (t.second / 86400)).day
      ((t.second % 86400).toNat / 3600) ((t.second % 86400).toNat / 60 % 60) t.shownSecond
      t.shownNano) := by
  apply String.toList_inj.mp
  rw [String.toList_ofList, assemble, print, yearText, if_pos ⟨low, high⟩]
  simp only [String.toList_append, padded_toList, List.append_assoc]
  rfl

/-- A leap second is told from the next minute by its number. -/
theorem ofParts?_shown {t : Instant} (common : t.Common) :
    ofParts? (Date.ofDays (t.second / 86400)) ((t.second % 86400).toNat / 3600)
      ((t.second % 86400).toNat / 60 % 60) t.shownSecond t.shownNano 0 = some t := by
  obtain ⟨low, high, nano⟩ := common
  have valid : (Date.ofDays (t.second / 86400)).isValid = true :=
    ofDays_valid (Int.le_trans (by decide) low) (Int.le_trans high (by decide))
  have shown : t.shownSecond ≤ 60 := by
    unfold shownSecond
    dsimp only
    split <;> omega
  have read : (Date.ofDays (t.second / 86400)).toDays * 86400 +
      (((t.second % 86400).toNat / 3600 : Nat) : Int) * 3600 +
      (((t.second % 86400).toNat / 60 % 60 : Nat) : Int) * 60 +
      ((if t.shownSecond = 60 then 59 else t.shownSecond : Nat) : Int) - 0 = t.second ∧
      (if t.shownSecond = 60 then t.shownNano + nanosPerSecond else t.shownNano) = t.nano := by
    rw [toDays_ofDays]
    unfold shownSecond shownNano
    dsimp only
    by_cases leap : nanosPerSecond ≤ t.nano
    · have last : t.second % 60 = 59 := by omega
      simp only [if_pos leap]
      rw [if_pos (by omega), if_pos (by omega)]
      omega
    · simp only [if_neg leap]
      rw [if_neg (by omega), if_neg (by omega)]
      omega
  unfold ofParts?
  rw [if_pos ⟨valid, by omega, by omega, shown, by decide, by decide⟩]
  dsimp only
  rw [read.1, read.2, if_pos valid]

theorem parse?_print {t : Instant} (common : t.Common) : parse? t.print = some t := by
  obtain ⟨low, high, nano⟩ := id common
  have month := ofDays_month (t.second / 86400)
  have day := ofDays_day (t.second / 86400)
  have short : daysInMonth (Date.ofDays (t.second / 86400)).year
      (Date.ofDays (t.second / 86400)).month ≤ 31 := by
    unfold daysInMonth
    split
    · split <;> decide
    split <;> decide
  have shown : t.shownSecond < 10 ^ 2 := by
    unfold shownSecond
    dsimp only
    split <;> omega
  have shownNano : t.shownNano < nanosPerSecond := by
    unfold shownNano
    split <;> omega
  rw [print_assemble low high, parse?_assemble (by omega) (by omega) (by omega) (by omega)
    (by omega) shown shownNano, Int.toNat_of_nonneg low]
  exact ofParts?_shown common

end ChatGateway.Instant
