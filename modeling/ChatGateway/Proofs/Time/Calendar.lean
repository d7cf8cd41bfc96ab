import ChatGateway.Time.Calendar

namespace ChatGateway.Calendar

section YearOfEra

variable {dayOfEra yearOfEra : Int} (low : 0 ≤ dayOfEra) (high : dayOfEra < 146097)
  (year : yearOfEra =
    (dayOfEra - dayOfEra / 1460 + dayOfEra / 36524 - dayOfEra / 146096) / 365)

include low high year

/-- The leap day that ends an era is in its last century, which no other century's length allows. -/
theorem century_of_day : 0 ≤ yearOfEra ∧ yearOfEra < 400 ∧
    (dayOfEra / 36524 = yearOfEra / 100 ∨ dayOfEra = 146096 ∧ yearOfEra = 399) := by
  omega

/-- A day is in the year it is counted to. -/
theorem day_within_year : 365 * yearOfEra + yearOfEra / 4 - yearOfEra / 100 ≤ dayOfEra ∧
    dayOfEra ≤ 365 * yearOfEra + yearOfEra / 4 - yearOfEra / 100 + 365 := by
  obtain ⟨_, _, same | ⟨rfl, rfl⟩⟩ := century_of_day low high year
  · have centuries : dayOfEra / 36524 = 0 ∨ dayOfEra / 36524 = 1 ∨ dayOfEra / 36524 = 2 ∨
        dayOfEra / 36524 = 3 := by omega
    rcases centuries with century | century | century | century <;> omega
  · decide

/-- Only a leap year has a day 366. -/
theorem last_day_leap (last : dayOfEra =
      365 * yearOfEra + yearOfEra / 4 - yearOfEra / 100 + 365) :
    (yearOfEra + 1) % 4 = 0 ∧ ((yearOfEra + 1) % 100 ≠ 0 ∨ yearOfEra = 399) := by
  obtain ⟨_, _, same | ⟨rfl, rfl⟩⟩ := century_of_day low high year
  · have whole : dayOfEra / 146096 = 0 := by omega
    have quarter : yearOfEra / 4 < dayOfEra / 1460 := by omega
    have fourth : yearOfEra - 4 * (yearOfEra / 4) = 3 := by omega
    refine ⟨by omega, ?_⟩
    omega
  · decide

end YearOfEra

theorem isLeap_iff {year : Int} :
    isLeap year = true ↔ year % 4 = 0 ∧ (year % 100 ≠ 0 ∨ year % 400 = 0) := by
  simp [isLeap]

/-- The parts of the date of a day: the era, its year, the month and the day of the month, counted
from March. -/
structure Parts (days era year month day : Int) : Prop where
  year_low : 0 ≤ year
  year_high : year < 400
  month_low : 0 ≤ month
  month_high : month ≤ 11
  day_low : 1 ≤ day
  total : era * 146097 + (year * 365 + year / 4 - year / 100 +
    ((153 * month + 2) / 5 + day - 1)) - 719468 = days
  day_high : day ≤ (153 * (month + 1) + 2) / 5 - (153 * month + 2) / 5
  february : month = 11 → day ≤ 29 ∧ (day = 29 →
    (year + 1) % 4 = 0 ∧ ((year + 1) % 100 ≠ 0 ∨ year = 399))
  date : Date.ofDays days = ⟨if month < 10 then year + era * 400 else year + era * 400 + 1,
    (if month < 10 then month + 3 else month - 9).toNat, day.toNat⟩

theorem parts_of_days (days : Int) : ∃ era year month day, Parts days era year month day := by
  have low : 0 ≤ (days + 719468) % 146097 := by omega
  have high : (days + 719468) % 146097 < 146097 := by omega
  obtain ⟨dayOfEra, same⟩ : ∃ d, d = (days + 719468) % 146097 := ⟨_, rfl⟩
  rw [← same] at low high
  obtain ⟨yearOfEra, year⟩ : ∃ y, y =
    (dayOfEra - dayOfEra / 1460 + dayOfEra / 36524 - dayOfEra / 146096) / 365 := ⟨_, rfl⟩
  obtain ⟨yearLow, yearHigh, -⟩ := century_of_day low high year
  obtain ⟨first, final⟩ := day_within_year low high year
  have leap := last_day_leap low high year
  obtain ⟨dayOfYear, day⟩ : ∃ d, d =
    dayOfEra - (365 * yearOfEra + yearOfEra / 4 - yearOfEra / 100) := ⟨_, rfl⟩
  obtain ⟨month, march⟩ : ∃ m, m = (5 * dayOfYear + 2) / 153 := ⟨_, rfl⟩
  refine ⟨(days + 719468) / 146097, yearOfEra, month,
    dayOfYear - (153 * month + 2) / 5 + 1, ?_⟩
  constructor
  · exact yearLow
  · exact yearHigh
  · omega
  · omega
  · omega
  · omega
  · omega
  · intro last
    refine ⟨by omega, fun whole => leap (by omega)⟩
  · simp only [Date.ofDays, ← same, ← year, ← day, ← march]
    by_cases before : month < 10
    · rw [if_pos before, if_pos before, if_neg (by omega)]
    · rw [if_neg before, if_neg before, if_pos (by omega)]

theorem toDays_ofDays (days : Int) : (Date.ofDays days).toDays = days := by
  obtain ⟨era, year, month, day, parts⟩ := parts_of_days days
  obtain ⟨yearLow, yearHigh, monthLow, monthHigh, dayLow, total, -, -, date⟩ := parts
  rw [date]
  by_cases before : month < 10
  · have month' : ((month + 3).toNat + 9) % 12 = month.toNat := by omega
    simp only [Date.toDays, if_pos before, if_neg (show ¬(month + 3).toNat ≤ 2 by omega), month']
    omega
  · have month' : ((month - 9).toNat + 9) % 12 = month.toNat := by omega
    simp only [Date.toDays, if_neg before, if_pos (show (month - 9).toNat ≤ 2 by omega), month']
    omega

theorem ofDays_month (days : Int) :
    1 ≤ (Date.ofDays days).month ∧ (Date.ofDays days).month ≤ 12 := by
  obtain ⟨era, year, month, day, parts⟩ := parts_of_days days
  obtain ⟨-, -, monthLow, monthHigh, -, -, -, -, date⟩ := parts
  rw [date]
  dsimp only
  split <;> omega

theorem ofDays_day (days : Int) : 1 ≤ (Date.ofDays days).day ∧
    (Date.ofDays days).day ≤ daysInMonth (Date.ofDays days).year (Date.ofDays days).month := by
  obtain ⟨era, year, month, day, parts⟩ := parts_of_days days
  obtain ⟨yearLow, yearHigh, monthLow, monthHigh, dayLow, -, dayHigh, february, date⟩ := parts
  rw [date]
  refine ⟨by dsimp only; omega, ?_⟩
  dsimp only
  by_cases last : month = 11
  · obtain ⟨short, leap⟩ := february last
    subst last
    rw [if_neg (by decide), if_neg (by decide), show (11 - 9 : Int).toNat = 2 from rfl, daysInMonth,
      if_pos rfl]
    split
    · omega
    · next common =>
      rw [isLeap_iff] at common
      omega
  · have months : month = 0 ∨ month = 1 ∨ month = 2 ∨ month = 3 ∨ month = 4 ∨ month = 5 ∨
        month = 6 ∨ month = 7 ∨ month = 8 ∨ month = 9 ∨ month = 10 := by omega
    rcases months with rfl | rfl | rfl | rfl | rfl | rfl | rfl | rfl | rfl | rfl | rfl <;>
      · simp [daysInMonth]
        omega

/-- The date of a day is a date of the calendar, if only its year is. -/
theorem ofDays_valid {days : Int} (low : minYear ≤ (Date.ofDays days).year)
    (high : (Date.ofDays days).year ≤ maxYear) : (Date.ofDays days).isValid = true := by
  simp only [Date.isValid, low, high, ofDays_month, ofDays_day, decide_true, Bool.and_self]

end ChatGateway.Calendar
