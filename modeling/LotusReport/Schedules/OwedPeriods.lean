import LotusReport.Encoding.Calendar
import LotusReport.Encoding.DateTime
import LotusReport.Fallible.Checks
import LotusReport.Schedules.Scheduler

/-!
# Owed periods

`due_as_of_dates` steps back from the last period end until the effective date
of the cadence or until the limit, and `due_definitions_for_scheduler` warns
about a schedule when the limit cut an owed period off. The period ends of a
cadence are numbered by their periods, so a walk over dates is a walk over
numbers.
-/

namespace LotusReport.Schedules

open Encoding Fallible

section Dates

/-- What date arithmetic raises at the start of the calendar. -/
inductive DateError where
  | valueError
  | overflowError
deriving DecidableEq, Repr

/-- `month_end`. -/
def monthEnd (day : CalendarDate) : CalendarDate :=
  ⟨day.year, day.month, daysInMonth day.year day.month⟩

/-- `quarter_end`. -/
def quarterEnd (day : CalendarDate) : CalendarDate :=
  let endMonth := (day.month - 1) / 3 * 3 + 3
  ⟨day.year, endMonth, daysInMonth day.year endMonth⟩

/-- `_period_end_on_or_after`. -/
def periodEndOnOrAfter (cadence : ScheduleCadence) (day : CalendarDate) : CalendarDate :=
  match cadence with
  | .monthlyEnd => monthEnd day
  | .quarterEnd => quarterEnd day

/-- The month in which the period of a day starts. -/
def firstMonth (cadence : ScheduleCadence) (day : CalendarDate) : Nat :=
  match cadence with
  | .monthlyEnd => day.month
  | .quarterEnd => (day.month - 1) / 3 * 3 + 1

/-- `_previous_period_end`, which returns a date whenever it returns. -/
def previousPeriodEnd (cadence : ScheduleCadence) (day : CalendarDate) :
    Except DateError CalendarDate :=
  let candidate := periodEndOnOrAfter cadence day
  if !day.before candidate then .ok candidate
  else
    let first := firstMonth cadence day
    if first = 1 then
      -- the calendar has no year zero
      if day.year = 1 then .error .valueError
      else .ok (periodEndOnOrAfter cadence ⟨day.year - 1, 12, 31⟩)
    else .ok (periodEndOnOrAfter cadence (monthEnd ⟨day.year, first - 1, 1⟩))

/-- `due_as_of_date`. -/
def dueAsOfDate (cadence : ScheduleCadence) (today createdOn : CalendarDate) :
    Except DateError (Option CalendarDate) := do
  let latest ← previousPeriodEnd cadence today
  return if latest.before createdOn then none else some latest

/-- `STORED_SCHEDULE_BACKFILL_LIMIT`. -/
def storedScheduleBackfillLimit : Int := 12

/-- The loop of `due_as_of_dates`, with the number of rounds that the limit leaves. -/
def owedFrom (cadence : ScheduleCadence) (createdOn : CalendarDate) :
    Nat → Option CalendarDate → Except DateError (List CalendarDate)
  | 0, _ => .ok []
  | _ + 1, none => .ok []
  | n + 1, some cursor =>
      match cursor.dayBefore with
      | none => .error .overflowError
      | some day => do
          let next ← dueAsOfDate cadence day createdOn
          let owed ← owedFrom cadence createdOn n next
          return cursor :: owed

/-- `due_as_of_dates`. -/
def dueAsOfDates (cadence : ScheduleCadence) (today createdOn : CalendarDate) (limit : Int) :
    Except DateError (List CalendarDate) := do
  let cursor ← dueAsOfDate cadence today createdOn
  let owed ← owedFrom cadence createdOn limit.toNat cursor
  return owed.insertionSort CalendarDate.upTo

end Dates

section Periods

variable {cadence : ScheduleCadence} {d : CalendarDate} {k : Nat}

/-- A period end of the cadence: a month end, or the end of a calendar quarter. -/
structure IsPeriodEnd (cadence : ScheduleCadence) (d : CalendarDate) : Prop where
  valid : d.valid = true
  monthEnd : d.day = daysInMonth d.year d.month
  quarterEnd : cadence = .quarterEnd → d.month ∈ [3, 6, 9, 12]

/-- The number of the period of a day. -/
def periodIndex (cadence : ScheduleCadence) (d : CalendarDate) : Nat :=
  match cadence with
  | .monthlyEnd => d.year * 12 + (d.month - 1)
  | .quarterEnd => d.year * 4 + (d.month - 1) / 3

/-- The month in which a period ends, the months being numbered from year zero on. -/
def endMonth (cadence : ScheduleCadence) (k : Nat) : Nat :=
  match cadence with
  | .monthlyEnd => k
  | .quarterEnd => 3 * k + 2

/-- The end of a period. -/
def periodEnd (cadence : ScheduleCadence) (k : Nat) : CalendarDate :=
  let year := endMonth cadence k / 12
  let month := endMonth cadence k % 12 + 1
  ⟨year, month, daysInMonth year month⟩

theorem periodEndOnOrAfter_eq (hd : d.valid = true) :
    periodEndOnOrAfter cadence d = periodEnd cadence (periodIndex cadence d) := by
  obtain ⟨-, hmonth, -⟩ := CalendarDate.valid_iff.mp hd
  cases cadence with
  | monthlyEnd =>
      have hyear : (d.year * 12 + (d.month - 1)) / 12 = d.year := by omega
      have hmonth' : (d.year * 12 + (d.month - 1)) % 12 + 1 = d.month := by omega
      simp only [periodEndOnOrAfter, monthEnd, periodEnd, endMonth, periodIndex, hyear, hmonth']
  | quarterEnd =>
      have hyear : (3 * (d.year * 4 + (d.month - 1) / 3) + 2) / 12 = d.year := by omega
      have hmonth' : (3 * (d.year * 4 + (d.month - 1) / 3) + 2) % 12 + 1 =
          (d.month - 1) / 3 * 3 + 3 := by omega
      simp only [periodEndOnOrAfter, quarterEnd, periodEnd, endMonth, periodIndex, hyear, hmonth']

/-- The years of a period end are those of the calendar. -/
theorem valid_periodEnd (hlow : 12 ≤ endMonth cadence k) (hhigh : endMonth cadence k < 120000) :
    (periodEnd cadence k).valid = true := by
  have hday := CalendarDate.daysInMonth_pos (endMonth cadence k / 12) (endMonth cadence k % 12 + 1)
  rw [CalendarDate.valid_iff]
  simp only [periodEnd]
  omega

/-- A period ends before a day exactly if it lies before the period of the day. -/
theorem periodEnd_before_iff (hd : d.valid = true) :
    (periodEnd cadence k).before d = true ↔ k < periodIndex cadence d := by
  obtain ⟨-, hmonth, -, hday⟩ := CalendarDate.valid_iff.mp hd
  rw [CalendarDate.before_iff_lex]
  simp only [periodEnd]
  constructor
  · rintro (hyear | ⟨hyear, hmonth' | ⟨hmonth', hshort⟩⟩)
    · cases cadence <;> simp only [endMonth, periodIndex] at * <;> omega
    · cases cadence <;> simp only [endMonth, periodIndex] at * <;> omega
    · rw [hyear, hmonth'] at hshort
      omega
  · intro hlt
    cases cadence <;> simp only [endMonth, periodIndex] at * <;> omega

/-- The number of the last period that has ended by a day. -/
def lastIndex (cadence : ScheduleCadence) (d : CalendarDate) : Nat :=
  if d.before (periodEnd cadence (periodIndex cadence d)) then periodIndex cadence d - 1
  else periodIndex cadence d

/-- A day of a later year than the first has a period before its own. -/
theorem periodIndex_pos (cadence : ScheduleCadence) (hd : d.valid = true) (hyear : 1 < d.year) :
    12 < endMonth cadence (periodIndex cadence d - 1) + 1 ∧
      endMonth cadence (periodIndex cadence d) < 120000 := by
  obtain ⟨hyears, hmonth, -⟩ := CalendarDate.valid_iff.mp hd
  cases cadence <;> simp only [endMonth, periodIndex] <;> omega

theorem before_periodEnd_of_lt (hd : d.valid = true) (hk : periodIndex cadence d < k) :
    d.before (periodEnd cadence k) = true := by
  obtain ⟨-, hmonth, -⟩ := CalendarDate.valid_iff.mp hd
  rw [CalendarDate.before_iff_lex]
  cases cadence <;> simp only [periodEnd, endMonth, periodIndex] at * <;> omega

theorem ended_iff (hd : d.valid = true) (hyear : 1 < d.year) :
    d.before (periodEnd cadence k) = false ↔ k ≤ lastIndex cadence d := by
  have hpos := (periodIndex_pos cadence hd hyear).1
  rcases Nat.lt_trichotomy k (periodIndex cadence d) with hlt | heq | hgt
  · have hended := CalendarDate.before_asymm ((periodEnd_before_iff hd).mpr hlt)
    have hle : k ≤ lastIndex cadence d := by
      unfold lastIndex
      split <;> omega
    exact ⟨fun _ => hle, fun _ => hended⟩
  · subst heq
    cases hopen : d.before (periodEnd cadence (periodIndex cadence d)) with
    | false => simp [lastIndex, hopen]
    | true =>
        have hpast : 1 ≤ periodIndex cadence d := by
          obtain ⟨hyears, -⟩ := CalendarDate.valid_iff.mp hd
          cases cadence <;> simp only [periodIndex] <;> omega
        simp only [lastIndex, hopen, if_true]
        constructor
        · exact fun h => nomatch h
        · omega
  · have hopen := before_periodEnd_of_lt hd hgt
    have hnot : ¬ k ≤ lastIndex cadence d := by
      unfold lastIndex
      split <;> omega
    simp [hopen, hnot]

theorem previousPeriodEnd_eq (hd : d.valid = true) (hyear : 1 < d.year) :
    previousPeriodEnd cadence d = .ok (periodEnd cadence (lastIndex cadence d)) := by
  obtain ⟨hyears, hmonth, hday⟩ := CalendarDate.valid_iff.mp hd
  unfold previousPeriodEnd lastIndex
  rw [periodEndOnOrAfter_eq hd]
  cases hopen : d.before (periodEnd cadence (periodIndex cadence d)) with
  | false => simp [hopen]
  | true =>
      -- the period before the one of the day, from its last month
      have hprevious : ∀ e : CalendarDate, e.valid = true →
          periodIndex cadence e = periodIndex cadence d - 1 →
            Except.ok (ε := DateError) (periodEndOnOrAfter cadence e) =
              .ok (periodEnd cadence (periodIndex cadence d - 1)) := by
        intro e he hindex
        rw [periodEndOnOrAfter_eq he, hindex]
      simp only [hopen, Bool.not_true, Bool.false_eq_true, if_false, if_true]
      split
      · rename_i hfirst
        rw [if_neg (by omega)]
        apply hprevious
        · simp only [CalendarDate.valid_iff, daysInMonth]
          simp
          omega
        · cases cadence <;> simp only [periodIndex, firstMonth] at * <;> omega
      · rename_i hfirst
        apply hprevious
        · have hdays := CalendarDate.daysInMonth_pos d.year (firstMonth cadence d - 1)
          have hbound : 1 ≤ firstMonth cadence d ∧ firstMonth cadence d ≤ 12 := by
            cases cadence <;> simp only [firstMonth] <;> omega
          simp only [CalendarDate.valid_iff, monthEnd]
          omega
        · cases cadence <;> simp only [periodIndex, firstMonth, monthEnd] at * <;> omega

end Periods

section Walk

variable {cadence : ScheduleCadence} {today createdOn : CalendarDate} {k : Nat}

theorem dueAsOfDate_eq (htoday : today.valid = true) (hyear : 1 < today.year)
    (hcreated : createdOn.valid = true) :
    dueAsOfDate cadence today createdOn = .ok (if lastIndex cadence today <
      periodIndex cadence createdOn then none else some (periodEnd cadence (lastIndex cadence today))) := by
  simp only [dueAsOfDate, previousPeriodEnd_eq htoday hyear, bind, Except.bind, pure, Except.pure,
    periodEnd_before_iff hcreated]

/-- The day before a period end lies in the period, behind the end of the period before it. -/
theorem dayBefore_periodEnd (hlow : 24 ≤ endMonth cadence k) (hhigh : endMonth cadence k < 120000) :
    ∃ d, (periodEnd cadence k).dayBefore = some d ∧ d.valid = true ∧ 1 < d.year ∧
      lastIndex cadence d = k - 1 := by
  have hdays := CalendarDate.daysInMonth_pos (endMonth cadence k / 12) (endMonth cadence k % 12 + 1)
  let d : CalendarDate := { periodEnd cadence k with day := (periodEnd cadence k).day - 1 }
  have hindex : periodIndex cadence d = k := by
    cases cadence <;> simp only [d, periodIndex, periodEnd, endMonth] <;> omega
  have hopen : d.before (periodEnd cadence k) = true := by
    have hshorter : (periodEnd cadence k).day - 1 < (periodEnd cadence k).day := by
      simp only [periodEnd]
      omega
    exact CalendarDate.before_iff_lex.mpr (Or.inr ⟨rfl, Or.inr ⟨rfl, hshorter⟩⟩)
  refine ⟨d, ?_, ?_, ?_, ?_⟩
  · rw [CalendarDate.dayBefore, if_pos]
    simp only [periodEnd]
    omega
  · rw [CalendarDate.valid_iff]
    simp only [d, periodEnd]
    omega
  · simp only [d, periodEnd]
    omega
  · rw [lastIndex, hindex, hopen, if_pos rfl]

/-- The loop collects the period ends from the cursor down, until the effective date or until the
limit. -/
theorem owedFrom_eq (hcreated : createdOn.valid = true) (hyear : 1 < createdOn.year) (n : Nat)
    (hk : periodIndex cadence createdOn ≤ k) (hhigh : endMonth cadence k < 120000) :
    owedFrom cadence createdOn n (some (periodEnd cadence k)) =
      .ok ((List.range (min n (k + 1 - periodIndex cadence createdOn))).map fun i =>
        periodEnd cadence (k - i)) := by
  induction n generalizing k with
  | zero => simp [owedFrom]
  | succ n ih =>
      have hlow : 24 ≤ endMonth cadence k := by
        cases cadence <;> simp only [endMonth, periodIndex] at * <;> omega
      obtain ⟨d, hbefore, hd, hdyear, hlast⟩ := dayBefore_periodEnd hlow hhigh
      simp only [owedFrom, hbefore, dueAsOfDate_eq hd hdyear hcreated, hlast, bind, Except.bind]
      have hpos : 1 ≤ periodIndex cadence createdOn := by
        cases cadence <;> simp only [periodIndex] <;> omega
      by_cases hend : k - 1 < periodIndex cadence createdOn
      · have hone : min (n + 1) (k + 1 - periodIndex cadence createdOn) = 1 := by omega
        rw [if_pos hend, hone]
        cases n <;> rfl
      · have hnext : endMonth cadence (k - 1) < 120000 := by
          cases cadence <;> simp only [endMonth] at * <;> omega
        have hsize : min (n + 1) (k + 1 - periodIndex cadence createdOn) =
            min n (k - 1 + 1 - periodIndex cadence createdOn) + 1 := by omega
        rw [if_neg hend, ih (by omega) hnext, hsize, List.range_succ_eq_map]
        simp only [pure, Except.pure, List.map_cons, List.map_map, Nat.sub_zero, Except.ok.injEq,
          List.cons.injEq, true_and]
        apply List.map_congr_left
        intro i _
        simp only [Function.comp_apply]
        congr 1
        omega

theorem periodEnd_before_periodEnd {j : Nat} (h : j < k) :
    (periodEnd cadence j).before (periodEnd cadence k) = true := by
  rw [CalendarDate.before_iff_lex]
  cases cadence <;> simp only [periodEnd, endMonth] <;> omega

/-- The period ends from the effective date to today. -/
def owedPeriods (cadence : ScheduleCadence) (today createdOn : CalendarDate) : List CalendarDate :=
  let first := periodIndex cadence createdOn
  (List.range' first (lastIndex cadence today + 1 - first)).map (periodEnd cadence)

theorem pairwise_periodEnds (first n : Nat) : ((List.range' first n).map (periodEnd cadence)).Pairwise
    fun a b => a.before b = true := by
  rw [List.pairwise_map]
  exact (List.pairwise_lt_range' 1).imp periodEnd_before_periodEnd

theorem sorted_descending (first n : Nat) :
    ((List.range' first n).map (periodEnd cadence)).reverse.insertionSort CalendarDate.upTo =
      (List.range' first n).map (periodEnd cadence) := by
  have hsorted : ((List.range' first n).map (periodEnd cadence)).Pairwise CalendarDate.upTo :=
    (pairwise_periodEnds first n).imp CalendarDate.before_asymm
  have hperm := (List.perm_insertionSort CalendarDate.upTo
    ((List.range' first n).map (periodEnd cadence)).reverse).trans (List.reverse_perm _)
  exact hperm.eq_of_pairwise (fun _ _ _ _ => CalendarDate.eq_of_upTo)
    (List.pairwise_insertionSort CalendarDate.upTo _) hsorted

theorem lastIndex_bound (cadence : ScheduleCadence) (htoday : today.valid = true)
    (hyear : 1 < today.year) :
    endMonth cadence (lastIndex cadence today) < 120000 := by
  have hbound := (periodIndex_pos cadence htoday hyear).2
  have hle : lastIndex cadence today ≤ periodIndex cadence today := by
    unfold lastIndex
    split <;> omega
  cases cadence <;> simp only [endMonth] at * <;> omega

theorem dueAsOfDates_eq (htoday : today.valid = true) (hyear : 1 < today.year)
    (hcreated : createdOn.valid = true) (hcreatedYear : 1 < createdOn.year) (limit : Int) :
    dueAsOfDates cadence today createdOn limit =
      .ok ((owedPeriods cadence today createdOn).drop
        ((owedPeriods cadence today createdOn).length - limit.toNat)) := by
  simp only [dueAsOfDates, dueAsOfDate_eq htoday hyear hcreated, bind, Except.bind]
  by_cases hnone : lastIndex cadence today < periodIndex cadence createdOn
  · have hempty : owedPeriods cadence today createdOn = [] := by
      simp only [owedPeriods]
      rw [Nat.sub_eq_zero_of_le hnone]
      rfl
    rw [if_pos hnone, hempty]
    cases limit.toNat <;> simp [owedFrom, pure, Except.pure]
  · have hhigh := lastIndex_bound cadence htoday hyear
    rw [if_neg hnone, owedFrom_eq hcreated hcreatedYear _ (by omega) hhigh]
    let size := lastIndex cadence today + 1 - periodIndex cadence createdOn
    let kept := min limit.toNat size
    have hdown : (List.range kept).map (fun i => periodEnd cadence (lastIndex cadence today - i)) =
        ((List.range' (lastIndex cadence today + 1 - kept) kept).map (periodEnd cadence)).reverse := by
      rw [← List.map_reverse, List.reverse_range', List.map_map]
      apply List.map_congr_left
      intro i hi
      have hi' := List.mem_range.mp hi
      simp only [Function.comp_apply]
      congr 1
      omega
    have hup : (owedPeriods cadence today createdOn).drop
        ((owedPeriods cadence today createdOn).length - limit.toNat) =
          (List.range' (lastIndex cadence today + 1 - kept) kept).map (periodEnd cadence) := by
      simp only [owedPeriods, List.length_map, List.length_range', ← List.map_drop,
        List.drop_range']
      congr 2 <;> omega
    simp only [pure, Except.pure]
    rw [hdown, sorted_descending, hup]

end Walk

section Scheduler

/-- The date of a day that is counted from the start of 1970. -/
def dateOfDay (day : Int) : CalendarDate := CalendarDate.ofDays (day + epochDays).toNat

/-- `_first_owed_period`. -/
def firstOwedPeriod (schedule : StoredBatchSchedule) (today : CalendarDate) : Option CalendarDate :=
  let first := periodEndOnOrAfter schedule.cadence (dateOfDay schedule.cadenceEffectiveOn)
  if today.before first then none else some first

/-- The schedule is enabled and bound to the scope of the scheduler. -/
def StoredBatchSchedule.runsUnder (schedule : StoredBatchSchedule) (region : String)
    (bookingCenterCode : Option String) : Bool :=
  schedule.enabled && schedule.region == region && schedule.bookingCenterCode == bookingCenterCode

/-- The loop of `due_definitions_for_scheduler`: the definitions, and the schedules for which
`stored_schedule_backfill_truncated` is logged. -/
def dueDefinitions (region : String) (bookingCenterCode : Option String) (today : CalendarDate) :
    List StoredBatchSchedule →
      Except DateError (List BatchScheduleDefinition × List StoredBatchSchedule)
  | [] => .ok ([], [])
  | schedule :: schedules =>
      if !schedule.runsUnder region bookingCenterCode then
        dueDefinitions region bookingCenterCode today schedules
      else do
        let owed ← dueAsOfDates schedule.cadence today (dateOfDay schedule.cadenceEffectiveOn)
          storedScheduleBackfillLimit
        let truncated := !owed.isEmpty && decide (owed.head? ≠ firstOwedPeriod schedule today)
        let (definitions, logged) ← dueDefinitions region bookingCenterCode today schedules
        return (owed.map (storedScheduleToDefinition schedule) ++ definitions,
          if truncated then schedule :: logged else logged)

/-- `due_definitions_for_scheduler`. -/
def dueDefinitionsForScheduler (s : ScheduleStore) (tenantId region : String)
    (bookingCenterCode : Option String) (today : CalendarDate) :
    Except DateError (List BatchScheduleDefinition × List StoredBatchSchedule) :=
  dueDefinitions region bookingCenterCode today (s.listScheduleDefinitions tenantId)

variable {cadence : ScheduleCadence} {today createdOn d : CalendarDate} {region : String}
  {bookingCenterCode : Option String} {schedule : StoredBatchSchedule}

/-- A period end from the effective date to today. -/
structure Owed (cadence : ScheduleCadence) (today createdOn d : CalendarDate) : Prop where
  periodEnd : IsPeriodEnd cadence d
  created : createdOn.upTo d
  past : d.upTo today

/-- The dates are the most recent owed periods, in ascending order and each of them once. -/
structure OwedExactly (cadence : ScheduleCadence) (today createdOn : CalendarDate) (limit : Int)
    (dates : List CalendarDate) : Prop where
  ascending : dates.Pairwise fun a b => a.before b = true
  recent : ∃ owed : List CalendarDate, owed.Pairwise (fun a b => a.before b = true) ∧
    (∀ d, d ∈ owed ↔ Owed cadence today createdOn d) ∧ dates = owed.drop (owed.length - limit.toNat)

/-- The warnings are about the schedules of the scope that owe a period beyond the dates for which
they are run. -/
def WarnsExactly (s : ScheduleStore) (tenantId region : String) (bookingCenterCode : Option String)
    (today : CalendarDate) : Prop :=
  ∃ definitions logged,
    dueDefinitionsForScheduler s tenantId region bookingCenterCode today = .ok (definitions, logged) ∧
      ∀ schedule, schedule ∈ logged ↔ schedule ∈ s.listScheduleDefinitions tenantId ∧
        schedule.runsUnder region bookingCenterCode = true ∧
        ∃ dates, dueAsOfDates schedule.cadence today (dateOfDay schedule.cadenceEffectiveOn)
          storedScheduleBackfillLimit = .ok dates ∧
            ∃ d, Owed schedule.cadence today (dateOfDay schedule.cadenceEffectiveOn) d ∧ d ∉ dates

theorem periodEnd_of_isPeriodEnd (h : IsPeriodEnd cadence d) :
    periodEnd cadence (periodIndex cadence d) = d := by
  obtain ⟨-, hmonth, -⟩ := CalendarDate.valid_iff.mp h.valid
  have hquarter := h.quarterEnd
  rw [← periodEndOnOrAfter_eq h.valid]
  cases cadence with
  | monthlyEnd => simp only [periodEndOnOrAfter, monthEnd, ← h.monthEnd]
  | quarterEnd =>
      have hlast : (d.month - 1) / 3 * 3 + 3 = d.month := by
        have hmem := hquarter rfl
        simp only [List.mem_cons, List.not_mem_nil, or_false] at hmem
        omega
      simp only [periodEndOnOrAfter, quarterEnd, hlast, ← h.monthEnd]

theorem isPeriodEnd_periodEnd {k : Nat} (hlow : 12 ≤ endMonth cadence k)
    (hhigh : endMonth cadence k < 120000) : IsPeriodEnd cadence (periodEnd cadence k) := by
  refine ⟨valid_periodEnd hlow hhigh, rfl, ?_⟩
  rintro rfl
  simp only [periodEnd, endMonth, List.mem_cons, List.not_mem_nil, or_false]
  omega

theorem mem_owedPeriods (htoday : today.valid = true) (hyear : 1 < today.year)
    (hcreated : createdOn.valid = true) :
    d ∈ owedPeriods cadence today createdOn ↔ Owed cadence today createdOn d := by
  have hstart : ∀ k, createdOn.upTo (periodEnd cadence k) ↔ periodIndex cadence createdOn ≤ k := by
    intro k
    rw [CalendarDate.upTo, ← Bool.not_eq_true, periodEnd_before_iff hcreated, Nat.not_lt]
  have hend : ∀ k, (periodEnd cadence k).upTo today ↔ k ≤ lastIndex cadence today :=
    fun k => ended_iff htoday hyear
  simp only [owedPeriods, List.mem_map, List.mem_range'_1]
  constructor
  · rintro ⟨k, hk, rfl⟩
    have hperiod : IsPeriodEnd cadence (periodEnd cadence k) := by
      have hbound := lastIndex_bound cadence htoday hyear
      obtain ⟨hyears, -⟩ := CalendarDate.valid_iff.mp hcreated
      apply isPeriodEnd_periodEnd
      · cases cadence <;> simp only [endMonth, periodIndex] at * <;> omega
      · cases cadence <;> simp only [endMonth] at * <;> omega
    exact ⟨hperiod, (hstart k).mpr hk.1, (hend k).mpr (by omega)⟩
  · rintro ⟨hperiod, hfirst, hlast⟩
    rw [← periodEnd_of_isPeriodEnd hperiod, hstart] at hfirst
    rw [← periodEnd_of_isPeriodEnd hperiod, hend] at hlast
    exact ⟨periodIndex cadence d, by omega, periodEnd_of_isPeriodEnd hperiod⟩

/-- What a list without repetitions loses at its start is seen at its head. -/
theorem head_drop_ne_iff {α : Type} {l : List α} (h : l.Nodup) {n : Nat} (hn : n < l.length) :
    (l.drop n).head? ≠ l.head? ↔ ∃ a ∈ l, a ∉ l.drop n := by
  cases n with
  | zero => simp
  | succ n =>
      cases l with
      | nil => simp at hn
      | cons a l =>
          have hgone : a ∉ l.drop n := fun hmem =>
            (List.nodup_cons.mp h).1 (List.mem_of_mem_drop hmem)
          constructor
          · exact fun _ => ⟨a, List.mem_cons_self, hgone⟩
          · intro _ hhead
            exact hgone (List.mem_of_head? hhead)

theorem truncated_iff (htoday : today.valid = true) (hyear : 1 < today.year)
    (hcreated : (dateOfDay schedule.cadenceEffectiveOn).valid = true)
    (hcreatedYear : 1 < (dateOfDay schedule.cadenceEffectiveOn).year)
    {dates : List CalendarDate} (hdates : dueAsOfDates schedule.cadence today
      (dateOfDay schedule.cadenceEffectiveOn) storedScheduleBackfillLimit = .ok dates) :
    (!dates.isEmpty && decide (dates.head? ≠ firstOwedPeriod schedule today)) = true ↔
      ∃ d, Owed schedule.cadence today (dateOfDay schedule.cadenceEffectiveOn) d ∧ d ∉ dates := by
  rw [dueAsOfDates_eq htoday hyear hcreated hcreatedYear] at hdates
  cases hdates
  simp only [← mem_owedPeriods htoday hyear hcreated]
  set owed := owedPeriods schedule.cadence today (dateOfDay schedule.cadenceEffectiveOn) with howed
  by_cases hnone : lastIndex schedule.cadence today <
      periodIndex schedule.cadence (dateOfDay schedule.cadenceEffectiveOn)
  · have hempty : owed = [] := by
      simp only [howed, owedPeriods]
      rw [Nat.sub_eq_zero_of_le hnone]
      rfl
    simp [hempty]
  · have hsize : 0 < owed.length := by
      simp only [howed, owedPeriods, List.length_map, List.length_range']
      omega
    have hshorter : owed.length - storedScheduleBackfillLimit.toNat < owed.length := by
      have hlimit : storedScheduleBackfillLimit.toNat = 12 := rfl
      omega
    have hfirst : firstOwedPeriod schedule today = owed.head? := by
      have hpast : today.before (periodEnd schedule.cadence
          (periodIndex schedule.cadence (dateOfDay schedule.cadenceEffectiveOn))) = false :=
        (ended_iff htoday hyear).mpr (by omega)
      have hsucc : lastIndex schedule.cadence today + 1 - periodIndex schedule.cadence
          (dateOfDay schedule.cadenceEffectiveOn) = lastIndex schedule.cadence today -
            periodIndex schedule.cadence (dateOfDay schedule.cadenceEffectiveOn) + 1 := by omega
      simp only [firstOwedPeriod, periodEndOnOrAfter_eq hcreated, hpast, howed, owedPeriods, hsucc,
        List.range'_succ]
      rfl
    have hnodup : owed.Nodup := by
      apply (pairwise_periodEnds _ _).imp
      intro a b hbefore heq
      rw [heq] at hbefore
      rw [CalendarDate.before_asymm hbefore] at hbefore
      cases hbefore
    have hkept : (owed.drop (owed.length - storedScheduleBackfillLimit.toNat)).isEmpty = false := by
      simp only [List.isEmpty_eq_false_iff, ne_eq, List.drop_eq_nil_iff]
      omega
    rw [hkept, hfirst, Bool.not_false, Bool.true_and, decide_eq_true_eq]
    exact head_drop_ne_iff hnodup hshorter

theorem warnsExactly_dueDefinitions (htoday : today.valid = true) (hyear : 1 < today.year)
    (schedules : List StoredBatchSchedule)
    (heffective : ∀ schedule ∈ schedules, (dateOfDay schedule.cadenceEffectiveOn).valid = true ∧
      1 < (dateOfDay schedule.cadenceEffectiveOn).year) :
    ∃ definitions logged,
      dueDefinitions region bookingCenterCode today schedules = .ok (definitions, logged) ∧
        ∀ schedule, schedule ∈ logged ↔ schedule ∈ schedules ∧
          schedule.runsUnder region bookingCenterCode = true ∧
          ∃ dates, dueAsOfDates schedule.cadence today (dateOfDay schedule.cadenceEffectiveOn)
            storedScheduleBackfillLimit = .ok dates ∧
              ∃ d, Owed schedule.cadence today (dateOfDay schedule.cadenceEffectiveOn) d ∧
                d ∉ dates := by
  induction schedules with
  | nil => exact ⟨[], [], rfl, by simp⟩
  | cons first schedules ih =>
      obtain ⟨definitions, logged, hrest, hlogged⟩ :=
        ih fun schedule hmem => heffective schedule (List.mem_cons_of_mem first hmem)
      obtain ⟨hcreated, hcreatedYear⟩ := heffective first List.mem_cons_self
      cases hruns : first.runsUnder region bookingCenterCode with
      | false =>
          refine ⟨definitions, logged, by simp [dueDefinitions, hruns, hrest], ?_⟩
          intro schedule
          rw [hlogged, List.mem_cons]
          constructor
          · exact fun h => ⟨Or.inr h.1, h.2⟩
          · rintro ⟨rfl | hmem, hscope, hcut⟩
            · rw [hruns] at hscope
              cases hscope
            · exact ⟨hmem, hscope, hcut⟩
      | true =>
          obtain ⟨dates, hdates⟩ : ∃ dates, dueAsOfDates first.cadence today
              (dateOfDay first.cadenceEffectiveOn) storedScheduleBackfillLimit = .ok dates :=
            ⟨_, dueAsOfDates_eq htoday hyear hcreated hcreatedYear _⟩
          have hcut := truncated_iff htoday hyear hcreated hcreatedYear hdates
          refine ⟨dates.map (storedScheduleToDefinition first) ++ definitions,
            if !dates.isEmpty && decide (dates.head? ≠ firstOwedPeriod first today) then
              first :: logged else logged, ?_, ?_⟩
          · simp only [dueDefinitions, hruns, hdates, hrest, bind, Except.bind, pure, Except.pure,
              Bool.not_true, Bool.false_eq_true, if_false]
          intro schedule
          split
          · rename_i htruncated
            rw [List.mem_cons, hlogged, List.mem_cons]
            constructor
            · rintro (rfl | ⟨hmem, hrest⟩)
              · exact ⟨Or.inl rfl, hruns, dates, hdates, hcut.mp htruncated⟩
              · exact ⟨Or.inr hmem, hrest⟩
            · rintro ⟨rfl | hmem, hrest⟩
              · exact Or.inl rfl
              · exact Or.inr ⟨hmem, hrest⟩
          · rename_i hwhole
            rw [hlogged, List.mem_cons]
            constructor
            · exact fun h => ⟨Or.inr h.1, h.2⟩
            · rintro ⟨rfl | hmem, hscope, hleft⟩
              · obtain ⟨dates', hsame, hcutOff⟩ := hleft
                rw [hdates] at hsame
                cases hsame
                exact (hwhole (hcut.mpr hcutOff)).elim
              · exact ⟨hmem, hscope, hleft⟩

/-- The dates for which schedules are run are exactly the most recent owed periods, and a warning is
logged exactly where one was cut off. -/
theorem owed_periods_exact (cadence : ScheduleCadence) (today createdOn : CalendarDate) (limit : Int)
    (s : ScheduleStore) (tenantId region : String) (bookingCenterCode : Option String)
    (htoday : today.valid = true ∧ 1 < today.year)
    (hcreated : createdOn.valid = true ∧ 1 < createdOn.year)
    (heffective : ∀ schedule ∈ s.listScheduleDefinitions tenantId,
      (dateOfDay schedule.cadenceEffectiveOn).valid = true ∧
        1 < (dateOfDay schedule.cadenceEffectiveOn).year) :
    (∃ dates, dueAsOfDates cadence today createdOn limit = .ok dates ∧
      OwedExactly cadence today createdOn limit dates) ∧
      WarnsExactly s tenantId region bookingCenterCode today := by
  constructor
  · refine ⟨_, dueAsOfDates_eq htoday.1 htoday.2 hcreated.1 hcreated.2 limit, ?_, ?_⟩
    · exact (pairwise_periodEnds _ _).drop
    · exact ⟨_, pairwise_periodEnds _ _, fun d => mem_owedPeriods htoday.1 htoday.2 hcreated.1, rfl⟩
  · exact warnsExactly_dueDefinitions htoday.1 htoday.2 _ heffective

/-- A monthly schedule that is effective since the start of 1970. -/
def monthlySchedule : StoredBatchSchedule where
  cadence := .monthlyEnd
  portfolioIds := ["PF_1"]
  requestedOutputFormats := ["pdf"]
  reportingCurrency := none
  options := []
  maxBatchSize := 250
  enabled := true
  scheduleId := "S"
  tenantId := "tenant-1"
  region := "SG"
  bookingCenterCode := none
  ownerActor := "advisor"
  cadenceEffectiveOn := 0
  createdAt := 0
  updatedAt := none

/-- The store of the one schedule. -/
def monthlySchedules : ScheduleStore :=
  { ScheduleStore.empty with
    definitions := (Relational.Table.empty.insert? ⟨monthlySchedule, "f"⟩).getD Relational.Table.empty }

theorem owed_periods_exact_leap_year :
    (∃ dates, dueAsOfDates .quarterEnd ⟨2024, 5, 20⟩ ⟨2023, 12, 31⟩ 12 = .ok dates ∧
      OwedExactly .quarterEnd ⟨2024, 5, 20⟩ ⟨2023, 12, 31⟩ 12 dates) ∧
      WarnsExactly monthlySchedules "tenant-1" "SG" none ⟨2024, 5, 20⟩ :=
  owed_periods_exact .quarterEnd ⟨2024, 5, 20⟩ ⟨2023, 12, 31⟩ 12 monthlySchedules "tenant-1" "SG" none
    (by decide) (by decide) (by decide +kernel)

example : dueAsOfDates .monthlyEnd ⟨2024, 3, 15⟩ ⟨2023, 12, 31⟩ 12 =
    .ok [⟨2023, 12, 31⟩, ⟨2024, 1, 31⟩, ⟨2024, 2, 29⟩] := by decide

example : (dueDefinitionsForScheduler monthlySchedules "tenant-1" "SG" none ⟨1971, 2, 1⟩).toOption.map
    (fun due => (due.1.length, due.2.length)) = some (12, 1) := by decide +kernel

end Scheduler

end LotusReport.Schedules
