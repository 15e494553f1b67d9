import LotusReport.Encoding.Calendar
import LotusReport.Encoding.Validation
import LotusReport.Encoding.Written
import Mathlib.Order.Cover

/-!
# Successive days

The day after a date is the next one in the order of the calendar, and it is the
first of a month exactly behind the last of one. The ISO text of a date is read
back as the date.
-/

namespace Encoding

open Json

namespace CalendarDate

variable {a b d : CalendarDate}

/-- Only the last day of the calendar has no day after it. -/
theorem valid_next_iff (h : d.valid = true) : d.next.valid = true ↔ d ≠ ⟨9999, 12, 31⟩ := by
  obtain ⟨⟨hyear, hlast⟩, ⟨hmonth, htwelve⟩, hday, hdays⟩ := valid_iff.mp h
  have hmax := daysInMonth_le d.year d.month
  unfold next
  split
  · rename_i hinside
    rw [valid_iff]
    constructor
    · rintro - rfl
      exact absurd hinside (by decide)
    · intro _
      exact ⟨⟨hyear, hlast⟩, ⟨hmonth, htwelve⟩, Nat.succ_pos _, hinside⟩
  · rename_i hend
    split
    · rename_i hinside
      rw [valid_iff]
      have hfirst := daysInMonth_pos d.year (d.month + 1)
      constructor
      · rintro - rfl
        exact absurd hinside (by decide)
      · intro _
        exact ⟨⟨hyear, hlast⟩, ⟨Nat.succ_pos _, hinside⟩, le_refl _, by
          show 1 ≤ daysInMonth d.year (d.month + 1)
          omega⟩
    · rename_i hdecember
      have hmonth12 : d.month = 12 := by omega
      have hlength : daysInMonth d.year d.month = 31 := by
        rw [hmonth12]
        rfl
      have hday31 : d.day = 31 := by omega
      rw [valid_iff]
      constructor
      · rintro ⟨⟨-, hyears⟩, -⟩ rfl
        exact absurd hyears (by decide)
      · intro hne
        have hyear' : d.year ≠ 9999 := fun heq => hne (by
          cases d
          simp_all)
        refine ⟨⟨Nat.succ_pos _, ?_⟩, ⟨le_refl _, ?_⟩, le_refl _, ?_⟩
        · show d.year + 1 ≤ 9999
          omega
        · show 1 ≤ 12
          omega
        · show 1 ≤ daysInMonth (d.year + 1) 1
          exact le_trans (by decide) (daysInMonth_pos _ _)

/-- A month begins behind the last day of a month. -/
theorem next_day_eq_one_iff (h : d.valid = true) :
    d.next.day = 1 ↔ d.day = daysInMonth d.year d.month := by
  obtain ⟨-, -, hday, hdays⟩ := valid_iff.mp h
  unfold next
  split
  · show d.day + 1 = 1 ↔ _
    omega
  · split
    · simp only [true_iff]
      omega
    · simp only [true_iff]
      omega

/-- No day lies between a day and the next. -/
theorem before_iff_next_upTo (ha : a.valid = true) (hb : b.valid = true) :
    a.before b = true ↔ a.next.upTo b := by
  obtain ⟨-, ⟨hmonth, htwelve⟩, hday, hdays⟩ := valid_iff.mp ha
  obtain ⟨-, ⟨hmonth', htwelve'⟩, hday', hdays'⟩ := valid_iff.mp hb
  have hsame : b.year = a.year → b.month = a.month → b.day ≤ daysInMonth a.year a.month := by
    intro hyears hmonths
    rwa [hyears, hmonths] at hdays'
  rw [before_iff_lex, upTo_iff_lex]
  unfold next
  split
  · simp only
    omega
  · split
    · simp only
      omega
    · simp only
      omega

end CalendarDate

theorem Date.next?_eq_none_iff (d : Date) : d.next? = none ↔ d.1 = ⟨9999, 12, 31⟩ := by
  unfold Date.next?
  rw [dite_eq_right_iff]
  simp only [reduceCtorEq, imp_false]
  rw [CalendarDate.valid_next_iff d.2, not_not]

theorem Date.next?_eq_some {d e : Date} (h : d.next? = some e) : e.1 = d.1.next := by
  unfold Date.next? at h
  split at h
  · cases h
    rfl
  · cases h

section Months

/-- The months of the calendar in one count, January of year zero being the first. -/
def monthOf (d : CalendarDate) : Nat := d.year * 12 + (d.month - 1)

/-- The first day of a month. -/
def monthFirst (n : Nat) : CalendarDate := ⟨n / 12, n % 12 + 1, 1⟩

/-- The last day of a month. -/
def monthLast (n : Nat) : CalendarDate := ⟨n / 12, n % 12 + 1, daysInMonth (n / 12) (n % 12 + 1)⟩

/-- The first and the last day of a month. -/
def monthSpan (n : Nat) : CalendarDate × CalendarDate := (monthFirst n, monthLast n)

/-- A month begins on the day after the month before it. -/
theorem next_monthLast (n : Nat) : (monthLast n).next = monthFirst (n + 1) := by
  have hlast : ¬ (monthLast n).day < daysInMonth (monthLast n).year (monthLast n).month :=
    lt_irrefl _
  unfold CalendarDate.next monthFirst
  rw [if_neg hlast]
  by_cases hmonth : (monthLast n).month < 12
  · have hcount : n % 12 + 1 < 12 := hmonth
    have hyear : (n + 1) / 12 = n / 12 := by omega
    have hnext : (n + 1) % 12 = n % 12 + 1 := by omega
    rw [if_pos hmonth, hyear, hnext]
    rfl
  · have hcount : ¬ n % 12 + 1 < 12 := hmonth
    have hyear : (n + 1) / 12 = n / 12 + 1 := by omega
    have hnext : (n + 1) % 12 = 0 := by omega
    rw [if_neg hmonth, hyear, hnext]
    rfl

theorem monthFirst_monthOf {d : CalendarDate} (h : d.valid = true) (hone : d.day = 1) :
    monthFirst (monthOf d) = d := by
  obtain ⟨-, ⟨hmonth, htwelve⟩, -⟩ := CalendarDate.valid_iff.mp h
  have hyear : (d.year * 12 + (d.month - 1)) / 12 = d.year := by omega
  have hrest : (d.year * 12 + (d.month - 1)) % 12 + 1 = d.month := by omega
  unfold monthFirst monthOf
  rw [hyear, hrest, ← hone]

theorem monthOf_monthFirst (n : Nat) : monthOf (monthFirst n) = n := by
  show n / 12 * 12 + (n % 12 + 1 - 1) = n
  omega

end Months

section Order

/-- Dates in the order of the calendar. -/
instance : LinearOrder Date where
  le a b := a.1.upTo b.1
  lt a b := a.1.before b.1 = true
  le_refl a := by
    rw [CalendarDate.upTo_iff_lex]
    omega
  le_trans a b c := by
    rw [CalendarDate.upTo_iff_lex, CalendarDate.upTo_iff_lex, CalendarDate.upTo_iff_lex]
    omega
  lt_iff_le_not_ge a b := by
    rw [CalendarDate.before_iff_lex, CalendarDate.upTo_iff_lex, CalendarDate.upTo_iff_lex]
    omega
  le_antisymm a b h h' := Subtype.ext (CalendarDate.eq_of_upTo h h')
  le_total a b := by
    rw [CalendarDate.upTo_iff_lex, CalendarDate.upTo_iff_lex]
    omega
  toDecidableLE a b := inferInstanceAs (Decidable (a.1.upTo b.1))
  toDecidableLT a b := inferInstanceAs (Decidable (a.1.before b.1 = true))
  toDecidableEq := inferInstance

theorem Date.le_iff {a b : Date} : a ≤ b ↔ a.1.upTo b.1 := Iff.rfl

theorem Date.lt_iff {a b : Date} : a < b ↔ a.1.before b.1 = true := Iff.rfl

/-- The next day covers the day before it. -/
theorem Date.covBy_of_next? {d e : Date} (h : d.next? = some e) : d ⋖ e := by
  have hnext : e.1 = d.1.next := Date.next?_eq_some h
  have hafter : ∀ x : Date, d < x ↔ e ≤ x := by
    intro x
    rw [Date.lt_iff, Date.le_iff, hnext]
    exact CalendarDate.before_iff_next_upTo d.2 x.2
  constructor
  · exact (hafter e).mpr (le_refl e)
  · intro x hx
    exact not_lt.mpr ((hafter x).mp hx)

end Order

section Texts

theorem digit_of_padded {width n : Nat} {c : Char} (hc : c ∈ (padded width n).toList) :
    c.isDigit = true := by
  rw [padded, String.toList_append, String.toList_ofList, List.mem_append] at hc
  rcases hc with hc | hc
  · rw [List.eq_of_mem_replicate hc]
    rfl
  · exact digit_of_mem (n := n) (by simpa using hc)

/-- The number that a padded text writes. -/
theorem ofDigitChars_padded (width n : Nat) :
    Nat.ofDigitChars 10 (padded width n).toList 0 = n := by
  rw [padded, String.toList_append, String.toList_ofList, Nat.ofDigitChars_append,
    Nat.ofDigitChars_replicate_zero, Nat.mul_zero]
  simp

theorem padded_inj {width m n : Nat} (h : padded width m = padded width n) : m = n := by
  rw [← ofDigitChars_padded width m, h, ofDigitChars_padded]

/-- A number that fits is written in the width. -/
theorem length_padded {width n : Nat} (hwidth : 0 < width) (h : n < 10 ^ width) :
    (padded width n).toList.length = width := by
  have hdigits : (toString n).length = (Nat.toDigits 10 n).length := by
    simp [toString, ← String.length_toList]
  have hlength := (Nat.length_toDigits_le_iff (by decide) hwidth).mpr h
  rw [padded, String.toList_append, String.toList_ofList, List.length_append, List.length_replicate,
    String.length_toList, hdigits]
  omega

theorem foldl_digits (cs : List Char) (n : Nat) :
    cs.foldl (fun n c => n * 10 + (c.toNat - 48)) n = Nat.ofDigitChars 10 cs n := by
  induction cs generalizing n with
  | nil => simp
  | cons c cs ih =>
      rw [List.foldl_cons, ih, Nat.ofDigitChars_cons, Nat.mul_comm n]
      rfl

theorem digitsToNat?_padded {width : Nat} (hwidth : 0 < width) {n : Nat} (h : n < 10 ^ width) :
    digitsToNat? (padded width n).toList = some n := by
  have hlength := length_padded hwidth h
  have hne : (padded width n).toList.isEmpty = false := by
    rw [List.isEmpty_eq_false_iff]
    intro hnil
    rw [hnil, List.length_nil] at hlength
    omega
  have hall : ((padded width n).toList.all fun c => '0' ≤ c && c ≤ '9') = true := by
    rw [List.all_eq_true]
    intro c hc
    exact digit_of_padded hc
  unfold digitsToNat?
  rw [hne, hall, foldl_digits, ofDigitChars_padded]
  rfl

/-- The digits of a date's text. -/
theorem toList_isoformat (d : CalendarDate) : d.isoformat.toList =
    (padded 4 d.year).toList ++ '-' :: ((padded 2 d.month).toList ++
      '-' :: (padded 2 d.day).toList) := by
  simp [CalendarDate.isoformat]

theorem fits_of_valid {d : CalendarDate} (h : d.valid = true) :
    d.year < 10 ^ 4 ∧ d.month < 10 ^ 2 ∧ d.day < 10 ^ 2 := by
  obtain ⟨⟨-, hyear⟩, ⟨-, hmonth⟩, -, hday⟩ := CalendarDate.valid_iff.mp h
  have hmax := CalendarDate.daysInMonth_le d.year d.month
  omega

/-- `date.fromisoformat` reads what `date.isoformat` writes. -/
theorem dateFromIsoformat_isoformat {d : CalendarDate} (h : d.valid = true) :
    dateFromIsoformat d.isoformat = some d := by
  obtain ⟨hyear, hmonth, hday⟩ := fits_of_valid h
  have hyears := digitsToNat?_padded (by decide) hyear
  have hmonths := digitsToNat?_padded (by decide) hmonth
  have hdays := digitsToNat?_padded (by decide) hday
  have hdate : ofDigits? (padded 4 d.year).toList (padded 2 d.month).toList
      (padded 2 d.day).toList = some d := by
    unfold ofDigits?
    rw [hyears, hmonths, hdays]
    exact if_pos h
  obtain ⟨d₁, d₂, hd⟩ := List.length_eq_two.mp (length_padded (by decide) hday)
  obtain ⟨m₁, m₂, hm⟩ := List.length_eq_two.mp (length_padded (by decide) hmonth)
  have hw : m₁ ≠ 'W' := by
    rintro rfl
    have hdigit : Char.isDigit 'W' = true := digit_of_padded (n := d.month) (hm ▸ List.mem_cons_self)
    cases hdigit
  obtain ⟨y₁, y₂, y₃, y₄, hy⟩ := List.length_eq_four.mp (length_padded (by decide) hyear)
  rw [hy, hm, hd] at hdate
  unfold dateFromIsoformat
  rw [toList_isoformat, hy, hm, hd]
  simp only [List.cons_append, List.nil_append]
  split
  · rename_i heq
    simp only [List.cons.injEq] at heq
    exact absurd heq.2.2.2.2.2.1 hw
  · rename_i heq
    simp only [List.cons.injEq, and_true, true_and] at heq
    obtain ⟨rfl, rfl, rfl, rfl, rfl, rfl, rfl, rfl⟩ := heq
    exact hdate
  case h_7 _ _ hcalendar _ _ _ _ => exact (hcalendar _ _ _ _ _ _ _ _ rfl).elim
  all_goals
    rename_i heq
    simp only [List.cons.injEq, reduceCtorEq, and_false] at heq

theorem valid_of_digits {year month day : List Char} {d : CalendarDate}
    (h : ofDigits? year month day = some d) : d.valid = true := by
  simp only [ofDigits?, Option.bind_eq_bind, Option.bind_eq_some_iff] at h
  obtain ⟨y, -, m, -, n, -, h⟩ := h
  split at h
  · rename_i hvalid
    cases h
    exact hvalid
  · cases h

theorem valid_of_weekDigits {year week weekday : List Char} {d : CalendarDate}
    (h : ofWeekDigits? year week weekday = some d) : d.valid = true := by
  simp only [ofWeekDigits?, Option.bind_eq_bind, Option.bind_eq_some_iff] at h
  obtain ⟨y, -, w, -, n, -, date, -, h⟩ := h
  split at h
  · rename_i hvalid
    cases h
    exact hvalid
  · cases h

/-- Every text that is read as a date is read as one of the calendar. -/
theorem valid_of_dateFromIsoformat {text : String} {d : CalendarDate}
    (h : dateFromIsoformat text = some d) : d.valid = true := by
  unfold dateFromIsoformat at h
  split at h
  · exact valid_of_weekDigits h
  · exact valid_of_digits h
  · exact valid_of_weekDigits h
  · exact valid_of_weekDigits h
  · exact valid_of_digits h
  · exact valid_of_weekDigits h
  · cases h

/-- The text of a date ends in its day. -/
theorem isSuffixOf_isoformat {d : CalendarDate} (h : d.valid = true) :
    "-01".toList.isSuffixOf d.isoformat.toList = true ↔ d.day = 1 := by
  obtain ⟨-, -, hday⟩ := fits_of_valid h
  have hlength := length_padded (by decide) hday
  have hone : "-01".toList = '-' :: (padded 2 1).toList := by decide
  have hsuffix : [] ++ '-' :: (padded 2 1).toList <:+ ((padded 4 d.year).toList ++
      '-' :: (padded 2 d.month).toList) ++ '-' :: (padded 2 d.day).toList ↔ _ :=
    List.suffix_append_inj_of_length_eq (by rw [List.length_cons, List.length_cons, hlength]; rfl)
  rw [List.isSuffixOf_iff_suffix, toList_isoformat, hone, ← List.cons_append, ← List.append_assoc,
    ← List.nil_append ('-' :: (padded 2 1).toList), hsuffix, List.cons.injEq]
  constructor
  · rintro ⟨-, -, hday⟩
    exact (padded_inj (String.ext hday)).symm
  · intro hday
    rw [hday]
    exact ⟨List.nil_suffix, rfl, rfl⟩

/-- The first seven characters are the year and the month. -/
theorem take_isoformat_inj {a b : CalendarDate} (ha : a.valid = true) (hb : b.valid = true) :
    a.isoformat.toList.take 7 = b.isoformat.toList.take 7 ↔ a.year = b.year ∧ a.month = b.month := by
  have htake : ∀ {d : CalendarDate}, d.valid = true →
      d.isoformat.toList.take 7 = (padded 4 d.year).toList ++ '-' :: (padded 2 d.month).toList := by
    intro d h
    obtain ⟨hyear, hmonth, -⟩ := fits_of_valid h
    have hyears := length_padded (by decide) hyear
    have hmonths := length_padded (by decide) hmonth
    rw [toList_isoformat, ← List.cons_append, ← List.append_assoc]
    apply List.take_left'
    rw [List.length_append, List.length_cons, hyears, hmonths]
  rw [htake ha, htake hb]
  constructor
  · intro heq
    obtain ⟨hyear, hmonth, -⟩ := fits_of_valid ha
    obtain ⟨hyear', hmonth', -⟩ := fits_of_valid hb
    obtain ⟨hyears, hmonths⟩ := List.append_inj heq (by
      rw [length_padded (by decide) hyear, length_padded (by decide) hyear'])
    rw [List.cons.injEq] at hmonths
    exact ⟨padded_inj (String.ext hyears), padded_inj (String.ext hmonths.2)⟩
  · rintro ⟨hyear, hmonth⟩
    rw [hyear, hmonth]

end Texts

end Encoding
