import LotusReport.Composite.Tables.SourceContext
import LotusReport.Encoding.Days

/-!
# Whole months

Three places test whether the windows of a selection are calendar months: the
table builder on the texts of their dates, the product contract on the dates,
and the return products by the length of the month. The first two step to the
day after a window, which the last day of the calendar does not have.
-/

namespace LotusReport.Composite

open Encoding Fallible

section Tests

/-- The days of a window are the days of one month. -/
def CompositeWindowPin.IsCalendarMonth (w : CompositeWindowPin) : Prop :=
  ∃ year month, ∀ d : Date,
    w.periodStart.1.upTo d.1 ∧ d.1.upTo w.periodEnd.1 ↔ d.1.year = year ∧ d.1.month = month

/-- The test of `require_product_table_layout` on one window. -/
def CompositeWindowPin.layoutMonth (w : CompositeWindowPin) : Except CaptureError Bool :=
  if w.periodStart.1.day = 1 ∧ w.periodStart.1.year = w.periodEnd.1.year ∧
      w.periodStart.1.month = w.periodEnd.1.month then
    match w.periodEnd.next? with
    | some day => .ok (day.1.day == 1)
    | none => .error (.raised "OverflowError")
  else .ok false

/-- The test of `_require_complete_months` on one window. -/
def CompositeWindowPin.completeMonth (w : CompositeWindowPin) : Except Invalid Unit :=
  if w.wholeMonth then .ok () else .error .refused

/-- The window starts a month and ends with the calendar. -/
def CompositeWindowPin.endsCalendar (w : CompositeWindowPin) : Bool :=
  w.periodStart.1.day == 1 && w.periodEnd.1 == ⟨9999, 12, 31⟩

variable (w : CompositeWindowPin)

theorem CompositeWindowPin.wholeMonth_iff : w.wholeMonth = true ↔ w.periodStart.1.day = 1 ∧
    w.periodStart.1.year = w.periodEnd.1.year ∧ w.periodStart.1.month = w.periodEnd.1.month ∧
    w.periodEnd.1.day = daysInMonth w.periodEnd.1.year w.periodEnd.1.month := by
  unfold wholeMonth
  simp only [Bool.and_eq_true, beq_iff_eq]
  constructor
  · rintro ⟨⟨⟨hday, hyear⟩, hmonth⟩, hlast⟩
    exact ⟨hday, hyear, hmonth, hyear ▸ hmonth ▸ hlast⟩
  · rintro ⟨hday, hyear, hmonth, hlast⟩
    exact ⟨⟨⟨hday, hyear⟩, hmonth⟩, by rw [hlast, hyear, hmonth]⟩

theorem CompositeWindowPin.wholeMonth_iff_isCalendarMonth :
    w.wholeMonth = true ↔ w.IsCalendarMonth := by
  have hordered : w.periodStart.1.upTo w.periodEnd.1 := w.ordered
  obtain ⟨hyears, hmonths, hday, hdays⟩ := CalendarDate.valid_iff.mp w.periodStart.2
  obtain ⟨hyears', hmonths', hday', hdays'⟩ := CalendarDate.valid_iff.mp w.periodEnd.2
  rw [wholeMonth_iff]
  constructor
  · rintro ⟨hone, hyear, hmonth, hlast⟩
    refine ⟨w.periodEnd.1.year, w.periodEnd.1.month, fun d => ?_⟩
    obtain ⟨-, -, hpos, hlength⟩ := CalendarDate.valid_iff.mp d.2
    rw [CalendarDate.upTo_iff_lex, CalendarDate.upTo_iff_lex]
    constructor
    · omega
    · rintro ⟨hyear', hmonth'⟩
      rw [hyear', hmonth'] at hlength
      omega
  · rintro ⟨year, month, hwindow⟩
    obtain ⟨hstart, hstart'⟩ := (hwindow w.periodStart).mp ⟨by
      rw [CalendarDate.upTo_iff_lex]
      omega, hordered⟩
    obtain ⟨hend, hend'⟩ := (hwindow w.periodEnd).mp ⟨hordered, by
      rw [CalendarDate.upTo_iff_lex]
      omega⟩
    rw [hend, hend'] at hdays'
    rw [hend] at hyears'
    rw [hend'] at hmonths'
    have hlong := CalendarDate.daysInMonth_pos year month
    -- the first and the last day of the month lie in the window
    have hfirst : (⟨year, month, 1⟩ : CalendarDate).valid = true :=
      CalendarDate.valid_iff.mpr ⟨hyears', hmonths', le_refl _, by
        show 1 ≤ daysInMonth year month
        omega⟩
    have hfinal : (⟨year, month, daysInMonth year month⟩ : CalendarDate).valid = true :=
      CalendarDate.valid_iff.mpr ⟨hyears', hmonths', by
        show 1 ≤ daysInMonth year month
        omega, le_refl _⟩
    have hleft := ((hwindow ⟨_, hfirst⟩).mpr ⟨rfl, rfl⟩).1
    have hright := ((hwindow ⟨_, hfinal⟩).mpr ⟨rfl, rfl⟩).2
    rw [CalendarDate.upTo_iff_lex] at hleft hright
    simp only at hleft hright
    rw [hend, hend']
    omega

/-- Behind a window that does not end the calendar the next-day test sees the month's end. -/
theorem CompositeWindowPin.next?_periodEnd (h : w.periodEnd.1 ≠ ⟨9999, 12, 31⟩) :
    ∃ day : Date, w.periodEnd.next? = some day ∧ day.1 = w.periodEnd.1.next ∧
      (day.1.day = 1 ↔ w.periodEnd.1.day = daysInMonth w.periodEnd.1.year w.periodEnd.1.month) := by
  cases hnext : w.periodEnd.next? with
  | none => exact absurd ((Date.next?_eq_none_iff _).mp hnext) h
  | some day =>
      have hday := Date.next?_eq_some hnext
      refine ⟨day, rfl, hday, ?_⟩
      rw [hday]
      exact CalendarDate.next_day_eq_one_iff w.periodEnd.2

/-- The next-day test on dates agrees with the month lengths unless it leaves the calendar. -/
theorem CompositeWindowPin.layoutMonth_eq (h : w.endsCalendar = false) :
    w.layoutMonth = .ok w.wholeMonth := by
  unfold layoutMonth
  split
  · rename_i hmonth
    have hend : w.periodEnd.1 ≠ ⟨9999, 12, 31⟩ := by
      intro heq
      simp [endsCalendar, hmonth.1, heq] at h
    obtain ⟨day, hnext, -, hone⟩ := w.next?_periodEnd hend
    rw [hnext]
    simp only [Except.ok.injEq]
    rw [Bool.eq_iff_iff, beq_iff_eq, wholeMonth_iff, hone]
    exact ⟨fun hlast => ⟨hmonth.1, hmonth.2.1, hmonth.2.2, hlast⟩, fun hwhole => hwhole.2.2.2⟩
  · rename_i hmonth
    simp only [Except.ok.injEq]
    symm
    rw [← Bool.not_eq_true, wholeMonth_iff]
    exact fun hwhole => hmonth ⟨hwhole.1, hwhole.2.1, hwhole.2.2.1⟩

theorem dateOf_str {text : String} {d : CalendarDate} (h : dateFromIsoformat text = some d) :
    dateOf (.str text) = .ok d := by
  simp only [dateOf, textOf, bind, Except.bind, h]

theorem monthEnd_str {text : String} {d : CalendarDate} (h : dateFromIsoformat text = some d) :
    SourceContext.monthEnd (.str text) =
      if d.next.valid then .ok (d.next.day = 1 : Bool) else .error (.raised "OverflowError") := by
  unfold SourceContext.monthEnd
  rw [dateOf_str h]
  rfl

theorem isMonth_of_texts {window : Json} {first last : String} {d : CalendarDate}
    (hfirst : subscript window "period_start" = .ok (.str first))
    (hlast : subscript window "period_end" = .ok (.str last))
    (hdate : dateFromIsoformat last = some d) : SourceContext.isMonth window =
      if "-01".toList.isSuffixOf first.toList then
        if d.next.valid then
          .ok (d.next.day = 1 && first.toList.take 7 = last.toList.take 7)
        else .error (.raised "OverflowError")
      else .ok false := by
  unfold SourceContext.isMonth
  rw [hfirst, hlast]
  simp only [bind, Except.bind, pure, Except.pure, textOf]
  rw [monthEnd_str hdate]
  generalize "-01".toList.isSuffixOf first.toList = starts
  cases starts with
  | false => rfl
  | true =>
      by_cases hvalid : d.next.valid = true
      · by_cases hone : d.next.day = 1
        · simp [hvalid, hone]
        · simp [hvalid, hone]
      · simp [hvalid]

/-- What the test on texts does with the texts of two dates. -/
theorem CompositeWindowPin.isMonth_dump : SourceContext.isMonth w.dump =
    if w.periodStart.1.day = 1 then
      if w.periodEnd.1.next.valid then
        .ok (w.periodEnd.1.next.day = 1 && (w.periodStart.1.year = w.periodEnd.1.year &&
          w.periodStart.1.month = w.periodEnd.1.month))
      else .error (.raised "OverflowError")
    else .ok false := by
  have hsuffix := isSuffixOf_isoformat w.periodStart.2
  have htake := take_isoformat_inj w.periodStart.2 w.periodEnd.2
  have hstart : subscript w.dump "period_start" = .ok (.str w.periodStart.1.isoformat) := rfl
  rw [isMonth_of_texts hstart rfl (dateFromIsoformat_isoformat w.periodEnd.2)]
  simp only [hsuffix, htake, Bool.decide_and]

/-- The test on texts agrees with the month lengths unless it leaves the calendar. -/
theorem CompositeWindowPin.isMonth_dump_eq (h : w.endsCalendar = false) :
    SourceContext.isMonth w.dump = .ok w.wholeMonth := by
  rw [isMonth_dump]
  split
  · rename_i hone
    have hend : w.periodEnd.1 ≠ ⟨9999, 12, 31⟩ := by
      intro heq
      simp [endsCalendar, hone, heq] at h
    rw [if_pos ((CalendarDate.valid_next_iff w.periodEnd.2).mpr hend)]
    simp only [Except.ok.injEq]
    rw [Bool.eq_iff_iff, wholeMonth_iff]
    simp only [Bool.and_eq_true, decide_eq_true_eq, CalendarDate.next_day_eq_one_iff w.periodEnd.2]
    exact ⟨fun ⟨hlast, hyear, hmonth⟩ => ⟨hone, hyear, hmonth, hlast⟩,
      fun ⟨_, hyear, hmonth, hlast⟩ => ⟨hlast, hyear, hmonth⟩⟩
  · rename_i hone
    simp only [Except.ok.injEq]
    symm
    rw [← Bool.not_eq_true, wholeMonth_iff]
    exact fun hwhole => hone hwhole.1

theorem CompositeWindowPin.isMonth_dump_raises (h : w.endsCalendar = true) :
    SourceContext.isMonth w.dump = .error (.raised "OverflowError") := by
  unfold endsCalendar at h
  rw [Bool.and_eq_true, beq_iff_eq, beq_iff_eq] at h
  rw [isMonth_dump, if_pos h.1, if_neg (by rw [CalendarDate.valid_next_iff w.periodEnd.2, h.2]; simp)]

/-- The three tests give one verdict: whether the window is a calendar month. -/
def CompositeWindowPin.TestsAgree : Prop :=
  ∃ verdict : Bool, SourceContext.isMonth w.dump = .ok verdict ∧ w.layoutMonth = .ok verdict ∧
    w.completeMonth = (if verdict then .ok () else .error .refused) ∧
    (verdict = true ↔ w.IsCalendarMonth)

/-- The three tests agree on a window exactly when it does not run from the first of a month to
the last day of the calendar. -/
theorem CompositeWindowPin.testsAgree_iff : w.TestsAgree ↔ w.endsCalendar = false := by
  constructor
  · rintro ⟨verdict, htexts, -⟩
    rw [← Bool.not_eq_true]
    intro h
    rw [w.isMonth_dump_raises h] at htexts
    cases htexts
  · intro h
    exact ⟨w.wholeMonth, w.isMonth_dump_eq h, w.layoutMonth_eq h, rfl,
      w.wholeMonth_iff_isCalendarMonth⟩

/-- The last month that the calendar has. -/
def lastMonth : CompositeWindowPin where
  materializationId := "6f1b0c52-4b7e-4c39-9d25-0f6f7f0a9999"
  periodStart := ⟨⟨9999, 12, 1⟩, by decide⟩
  periodEnd := ⟨⟨9999, 12, 31⟩, by decide⟩
  restatementSequence := 1
  definitionContentHash := repeatedDigest '1'
  membershipContentHash := repeatedDigest '2'
  attestationContentHash := repeatedDigest '3'
  sourceCutId := "cut-1"
  methodBinding := [("return_method", "TWR")]
  retainedReceiptFingerprint := repeatedDigest '4'
  methodKeys := by decide
  ordered := by decide
  stated := by decide
  nonblank := by decide

/-- The return products accept December 9999; the other two tests overflow on it. -/
theorem not_testsAgree_lastMonth : ¬ lastMonth.TestsAgree ∧
    SourceContext.isMonth lastMonth.dump = .error (.raised "OverflowError") ∧
    lastMonth.layoutMonth = .error (.raised "OverflowError") ∧ lastMonth.completeMonth = .ok () := by
  have hraises := lastMonth.isMonth_dump_raises (by decide)
  refine ⟨?_, hraises, by decide, by decide⟩
  rintro ⟨verdict, htexts, -⟩
  rw [hraises] at htexts
  cases htexts

end Tests

end LotusReport.Composite
