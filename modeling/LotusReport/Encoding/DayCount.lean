import LotusReport.Encoding.Calendar
import LotusReport.Encoding.DateTime

/-!
# The count of days

The days of the calendar are counted from 1 January of year 1. The count grows
with the order of dates, and `CalendarDate.ofDays` finds the date of a count.
-/

namespace Encoding

section Years

/-- The days of a year. -/
def daysInYear (year : Nat) : Nat := if isLeap year then 366 else 365

/-- The days of a year before the first of a month. -/
def daysBeforeMonth (year : Nat) : Nat → Nat
  | 0 => 0
  | 1 => 0
  | month + 1 => daysBeforeMonth year month + daysInMonth year month

theorem daysBeforeMonth_succ (year : Nat) {month : Nat} (h : 1 ≤ month) :
    daysBeforeMonth year (month + 1) = daysBeforeMonth year month + daysInMonth year month := by
  obtain ⟨n, rfl⟩ : ∃ n, month = n + 1 := ⟨month - 1, by omega⟩
  rfl

theorem daysBeforeMonth_twelve (year : Nat) :
    daysBeforeMonth year 12 + daysInMonth year 12 = daysInYear year := by
  unfold daysInYear
  cases hleap : isLeap year <;> simp [daysBeforeMonth, daysInMonth, hleap]

/-- A month ends before a later one begins. -/
theorem daysBeforeMonth_add_le (year : Nat) {m n : Nat} (hm : 1 ≤ m) (h : m < n) :
    daysBeforeMonth year m + daysInMonth year m ≤ daysBeforeMonth year n := by
  induction n, h using Nat.le_induction with
  | base => exact le_of_eq (daysBeforeMonth_succ year hm).symm
  | succ n hn ih =>
      rw [daysBeforeMonth_succ year (by omega)]
      omega

theorem isLeap_iff (year : Nat) :
    isLeap year = true ↔ year % 4 = 0 ∧ (year % 100 ≠ 0 ∨ year % 400 = 0) := by
  simp only [isLeap, Bool.and_eq_true, Bool.or_eq_true, decide_eq_true_eq]

theorem daysBeforeYear_eq (n : Nat) :
    daysBeforeYear (n + 1) = n * 365 + n / 4 - n / 100 + n / 400 := rfl

theorem daysBeforeYear_succ {year : Nat} (h : 1 ≤ year) :
    daysBeforeYear (year + 1) = daysBeforeYear year + daysInYear year := by
  obtain ⟨n, rfl⟩ : ∃ n, year = n + 1 := ⟨year - 1, by omega⟩
  have hfour : (n + 1) / 4 = n / 4 + if (n + 1) % 4 = 0 then 1 else 0 := by
    split <;> omega
  have hhundred : (n + 1) / 100 = n / 100 + if (n + 1) % 100 = 0 then 1 else 0 := by
    split <;> omega
  have hfourHundred : (n + 1) / 400 = n / 400 + if (n + 1) % 400 = 0 then 1 else 0 := by
    split <;> omega
  have hless : n / 100 ≤ n / 4 := by omega
  have hleap := isLeap_iff (n + 1)
  rw [daysBeforeYear_eq, daysBeforeYear_eq, hfour, hhundred, hfourHundred]
  generalize n / 4 = fours at *
  generalize n / 100 = hundreds at *
  generalize n / 400 = fourHundreds at *
  unfold daysInYear
  by_cases hcase : isLeap (n + 1) = true
  · rw [if_pos hcase]
    obtain ⟨hby4, hby⟩ := hleap.mp hcase
    rw [if_pos hby4]
    rcases hby with hby | hby
    · rw [if_neg hby, if_neg (by omega)]
      omega
    · rw [if_pos (by omega), if_pos hby]
      omega
  · rw [if_neg hcase]
    rw [hleap] at hcase
    by_cases hby4 : (n + 1) % 4 = 0
    · have hby100 : (n + 1) % 100 = 0 := by omega
      have hby400 : (n + 1) % 400 ≠ 0 := by omega
      rw [if_pos hby4, if_pos hby100, if_neg hby400]
      omega
    · rw [if_neg hby4, if_neg (by omega), if_neg (by omega)]
      omega

/-- A year ends before a later one begins. -/
theorem daysBeforeYear_add_le {y z : Nat} (hy : 1 ≤ y) (h : y < z) :
    daysBeforeYear y + daysInYear y ≤ daysBeforeYear z := by
  induction z, h using Nat.le_induction with
  | base => exact le_of_eq (daysBeforeYear_succ hy).symm
  | succ z hz ih =>
      rw [daysBeforeYear_succ (by omega)]
      omega

end Years

namespace CalendarDate

variable {a b d : CalendarDate}

/-- The days from 1 January of year 1 to the date. -/
def dayNumber (d : CalendarDate) : Nat :=
  daysBeforeYear d.year + daysBeforeMonth d.year d.month + (d.day - 1)

/-- The date lies in a month of the calendar, whatever the year. -/
structure InMonth (d : CalendarDate) : Prop where
  year : 1 ≤ d.year
  month : 1 ≤ d.month ∧ d.month ≤ 12
  day : 1 ≤ d.day ∧ d.day ≤ daysInMonth d.year d.month

/-- The count within a year stays below the length of the year. -/
theorem InMonth.lt_daysInYear (h : d.InMonth) :
    daysBeforeMonth d.year d.month + (d.day - 1) < daysInYear d.year := by
  obtain ⟨-, ⟨hmonth, htwelve⟩, hday, hdays⟩ := h
  have hyear := daysBeforeMonth_twelve d.year
  rcases Nat.lt_or_eq_of_le htwelve with hless | heq
  · have hmonths := daysBeforeMonth_add_le d.year hmonth hless
    omega
  · rw [heq] at hdays ⊢
    omega

theorem dayNumber_lt_of_before (ha : a.InMonth) (h : a.before b = true) :
    a.dayNumber < b.dayNumber := by
  unfold dayNumber
  have hin := ha.lt_daysInYear
  rcases before_iff_lex.mp h with hyear | ⟨hyear, hmonth | ⟨hmonth, hday⟩⟩
  · have hyears := daysBeforeYear_add_le ha.year hyear
    omega
  · have hmonths := daysBeforeMonth_add_le a.year ha.month.1 hmonth
    have hdays := ha.day
    rw [← hyear]
    omega
  · have hdays := ha.day
    rw [← hyear, ← hmonth]
    omega

/-- Dates compare as their counts do. -/
theorem before_iff_dayNumber (ha : a.InMonth) (hb : b.InMonth) :
    a.before b = true ↔ a.dayNumber < b.dayNumber := by
  constructor
  · exact dayNumber_lt_of_before ha
  · intro hlt
    by_contra hnot
    have hupTo : b.upTo a := eq_false_of_ne_true hnot
    by_cases hback : b.before a = true
    · have hgt := dayNumber_lt_of_before hb hback
      omega
    · have heq : a = b := eq_of_upTo (eq_false_of_ne_true hback) hupTo
      rw [heq] at hlt
      omega

end CalendarDate

section Search

/-- The search by months ends at the date of the count. -/
theorem addDays_spec {fuel : Nat} : ∀ {year month day : Nat}, 1 ≤ year → 1 ≤ month → month ≤ 12 →
    day < 28 * fuel → (addDays fuel year month day).InMonth ∧
      (addDays fuel year month day).dayNumber =
        daysBeforeYear year + daysBeforeMonth year month + day := by
  induction fuel with
  | zero =>
      intro year month day _ _ _ hfuel
      omega
  | succ fuel ih =>
      intro year month day hyear hmonth htwelve hfuel
      have hlength := CalendarDate.daysInMonth_pos year month
      unfold addDays
      split
      · rename_i hday
        exact ⟨⟨hyear, ⟨hmonth, htwelve⟩, Nat.succ_pos _, hday⟩, rfl⟩
      · split
        · rename_i hday hdecember
          have hrest : day - daysInMonth year month < 28 * fuel := by omega
          obtain ⟨hin, hcount⟩ := ih (show 1 ≤ year + 1 by omega) (le_refl 1) (by decide) hrest
          refine ⟨hin, hcount.trans ?_⟩
          have hyears := daysBeforeYear_succ hyear
          have hmonths := daysBeforeMonth_twelve year
          have hfirst : daysBeforeMonth (year + 1) 1 = 0 := rfl
          rw [hdecember] at hday ⊢
          omega
        · rename_i hday hdecember
          have hrest : day - daysInMonth year month < 28 * fuel := by omega
          have hnext : month + 1 ≤ 12 := by omega
          obtain ⟨hin, hcount⟩ := ih hyear (show 1 ≤ month + 1 by omega) hnext hrest
          refine ⟨hin, hcount.trans ?_⟩
          have hmonths := daysBeforeMonth_succ year hmonth
          omega

/-- `CalendarDate.ofDays` finds the date of a count, for the years that can be written. -/
theorem ofDays_spec {days : Nat} (h : days < 3652059) :
    (CalendarDate.ofDays days).InMonth ∧ (CalendarDate.ofDays days).dayNumber = days := by
  have hstart : daysBeforeYear (days / 366 + 1) ≤ days := by
    rw [daysBeforeYear_eq]
    omega
  have hrest : days - daysBeforeYear (days / 366 + 1) < 28 * 360 := by
    rw [daysBeforeYear_eq]
    omega
  obtain ⟨hin, hcount⟩ := addDays_spec (show 1 ≤ days / 366 + 1 by omega) (le_refl 1) (by decide)
    hrest
  refine ⟨hin, hcount.trans ?_⟩
  have hfirst : daysBeforeMonth (days / 366 + 1) 1 = 0 := rfl
  omega

/-- The last year that can be written is 9999. -/
theorem valid_ofDays {days : Nat} (h : days < 3652059) :
    (CalendarDate.ofDays days).valid = true := by
  obtain ⟨hin, hcount⟩ := ofDays_spec h
  rw [CalendarDate.valid_iff]
  refine ⟨⟨hin.year, ?_⟩, hin.month, hin.day⟩
  by_contra hyear
  have hlate := daysBeforeYear_add_le (y := 9999) (by decide) (by omega :
    9999 < (CalendarDate.ofDays days).year)
  have hend : daysBeforeYear 9999 + daysInYear 9999 = 3652059 := by decide
  unfold CalendarDate.dayNumber at hcount
  omega

/-- Dates found from counts compare as the counts do. -/
theorem before_ofDays_iff {m n : Nat} (hm : m < 3652059) (hn : n < 3652059) :
    (CalendarDate.ofDays m).before (CalendarDate.ofDays n) = true ↔ m < n := by
  obtain ⟨hin, hcount⟩ := ofDays_spec hm
  obtain ⟨hin', hcount'⟩ := ofDays_spec hn
  rw [CalendarDate.before_iff_dayNumber hin hin', hcount, hcount']

end Search

end Encoding
