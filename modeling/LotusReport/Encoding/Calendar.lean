import LotusReport.Encoding.Date

/-!
# The order of calendar dates

Dates compare by year, month and day, so questions about their order become
arithmetic.
-/

namespace Encoding

namespace CalendarDate

variable {a b d : CalendarDate}

theorem daysInMonth_pos (year month : Nat) : 28 ≤ daysInMonth year month := by
  unfold daysInMonth
  split
  · split <;> omega
  · split <;> omega

theorem daysInMonth_le (year month : Nat) : daysInMonth year month ≤ 31 := by
  unfold daysInMonth
  split
  · split <;> omega
  · split <;> omega

theorem valid_iff : d.valid = true ↔ (1 ≤ d.year ∧ d.year ≤ 9999) ∧ (1 ≤ d.month ∧ d.month ≤ 12) ∧
    1 ≤ d.day ∧ d.day ≤ daysInMonth d.year d.month := by
  simp only [valid, Bool.and_eq_true, decide_eq_true_eq]
  omega

theorem before_iff_lex : a.before b = true ↔ a.year < b.year ∨ a.year = b.year ∧
    (a.month < b.month ∨ a.month = b.month ∧ a.day < b.day) := by
  simp only [before, Bool.or_eq_true, Bool.and_eq_true, decide_eq_true_eq]

theorem before_asymm (h : a.before b = true) : b.before a = false := by
  rw [← Bool.not_eq_true, before_iff_lex]
  rw [before_iff_lex] at h
  omega

/-- The date lies no later than the other. -/
def upTo (a b : CalendarDate) : Prop := b.before a = false

instance : DecidableRel upTo := fun a b => inferInstanceAs (Decidable (b.before a = false))

theorem upTo_iff_lex : a.upTo b ↔ a.year < b.year ∨ a.year = b.year ∧
    (a.month < b.month ∨ a.month = b.month ∧ a.day ≤ b.day) := by
  rw [upTo, ← Bool.not_eq_true, before_iff_lex]
  omega

instance : Std.Total upTo := ⟨fun a b => by
  rw [upTo_iff_lex, upTo_iff_lex]
  omega⟩

instance : IsTrans CalendarDate upTo := ⟨fun a b c => by
  rw [upTo_iff_lex, upTo_iff_lex, upTo_iff_lex]
  omega⟩

theorem eq_of_upTo (h : a.upTo b) (h' : b.upTo a) : a = b := by
  rw [upTo_iff_lex] at h h'
  have hyear : a.year = b.year := by omega
  have hmonth : a.month = b.month := by omega
  have hday : a.day = b.day := by omega
  exact congr (congr (congrArg mk hyear) hmonth) hday

/-- `day - timedelta(days=1)`, which the first day of the calendar does not have. -/
def dayBefore (d : CalendarDate) : Option CalendarDate :=
  if 1 < d.day then some { d with day := d.day - 1 }
  else if 1 < d.month then some ⟨d.year, d.month - 1, daysInMonth d.year (d.month - 1)⟩
  else if 1 < d.year then some ⟨d.year - 1, 12, 31⟩
  else none

example : (⟨2024, 3, 1⟩ : CalendarDate).dayBefore = some ⟨2024, 2, 29⟩ ∧
    (⟨2023, 1, 1⟩ : CalendarDate).dayBefore = some ⟨2022, 12, 31⟩ := by decide

end CalendarDate

end Encoding
