import Mathlib.Data.List.Basic

/-!
# Calendar dates

Dates of the proleptic Gregorian calendar and the ISO texts that write them:
the calendar form with or without dashes and the week form.
-/

namespace Encoding

/-- A calendar date. -/
structure CalendarDate where
  year : Nat
  month : Nat
  day : Nat
deriving DecidableEq, Repr

/-- The Gregorian leap-year rule. -/
def isLeap (year : Nat) : Bool :=
  year % 4 = 0 && (year % 100 ≠ 0 || year % 400 = 0)

/-- The number of days of a month. -/
def daysInMonth (year month : Nat) : Nat :=
  if month = 2 then if isLeap year then 29 else 28
  else if month ∈ [4, 6, 9, 11] then 30
  else 31

/-- The days before 1 January of a year, counted from 1 January of year 1. -/
def daysBeforeYear (year : Nat) : Nat :=
  let y := year - 1
  y * 365 + y / 4 - y / 100 + y / 400

/-- The date lies in the range of years 1 to 9999 and in its month. -/
def CalendarDate.valid (d : CalendarDate) : Bool :=
  1 ≤ d.year && d.year ≤ 9999 && 1 ≤ d.month && d.month ≤ 12 && 1 ≤ d.day &&
    d.day ≤ daysInMonth d.year d.month

/-- The date lies before the other. -/
def CalendarDate.before (a b : CalendarDate) : Bool :=
  a.year < b.year || (a.year = b.year && (a.month < b.month ||
    (a.month = b.month && a.day < b.day)))

/-- The date that lies `day` days, counted from zero, after the first of `month`. -/
def addDays : Nat → Nat → Nat → Nat → CalendarDate
  | 0, year, month, day => ⟨year, month, day + 1⟩
  | fuel + 1, year, month, day =>
      if day < daysInMonth year month then ⟨year, month, day + 1⟩
      else if month = 12 then addDays fuel (year + 1) 1 (day - daysInMonth year month)
      else addDays fuel year (month + 1) (day - daysInMonth year month)

/-- The ISO calendar date of a year, a week and a weekday. -/
def ofIsoWeek (year week weekday : Nat) : Option CalendarDate :=
  -- the weekday of 1 January, Monday being zero
  let first := daysBeforeYear year % 7
  let longYear := first = 3 || (first = 2 && isLeap year)
  if year = 0 || week = 0 || 53 < week || (week = 53 && !longYear) || weekday = 0 || 7 < weekday then
    none
  else
    -- day zero of week one is the Monday of the week with 4 January
    let back := if first ≤ 3 then first else 0
    let ahead := if first ≤ 3 then 0 else 7 - first
    let day := ahead + (week - 1) * 7 + (weekday - 1)
    if back ≤ day then some (addDays 14 year 1 (day - back))
    else some ⟨year - 1, 12, 32 - (back - day)⟩

/-- A number written in decimal digits only. -/
def digitsToNat? (cs : List Char) : Option Nat :=
  if cs.isEmpty || !cs.all (fun c => '0' ≤ c && c ≤ '9') then none
  else some (cs.foldl (fun n c => n * 10 + (c.toNat - 48)) 0)

/-- The calendar date of year, month and day digits. -/
def ofDigits? (year month day : List Char) : Option CalendarDate := do
  let date : CalendarDate := ⟨← digitsToNat? year, ← digitsToNat? month, ← digitsToNat? day⟩
  if date.valid then some date else none

/-- The calendar date of year, week and weekday digits. -/
def ofWeekDigits? (year week weekday : List Char) : Option CalendarDate := do
  let date ← ofIsoWeek (← digitsToNat? year) (← digitsToNat? week) (← digitsToNat? weekday)
  if date.valid then some date else none

/-- `date.fromisoformat`. -/
def dateFromIsoformat (text : String) : Option CalendarDate :=
  match text.toList with
  | [y₁, y₂, y₃, y₄, '-', 'W', w₁, w₂, '-', d] => ofWeekDigits? [y₁, y₂, y₃, y₄] [w₁, w₂] [d]
  | [y₁, y₂, y₃, y₄, '-', m₁, m₂, '-', d₁, d₂] => ofDigits? [y₁, y₂, y₃, y₄] [m₁, m₂] [d₁, d₂]
  | [y₁, y₂, y₃, y₄, '-', 'W', w₁, w₂] => ofWeekDigits? [y₁, y₂, y₃, y₄] [w₁, w₂] ['1']
  | [y₁, y₂, y₃, y₄, 'W', w₁, w₂, d] => ofWeekDigits? [y₁, y₂, y₃, y₄] [w₁, w₂] [d]
  | [y₁, y₂, y₃, y₄, m₁, m₂, d₁, d₂] => ofDigits? [y₁, y₂, y₃, y₄] [m₁, m₂] [d₁, d₂]
  | [y₁, y₂, y₃, y₄, 'W', w₁, w₂] => ofWeekDigits? [y₁, y₂, y₃, y₄] [w₁, w₂] ['1']
  | _ => none

/-- A number padded with zeros to a width. -/
def padded (width n : Nat) : String :=
  let text := toString n
  String.ofList (List.replicate (width - text.length) '0') ++ text

/-- `date.isoformat()`. -/
def CalendarDate.isoformat (d : CalendarDate) : String :=
  padded 4 d.year ++ "-" ++ padded 2 d.month ++ "-" ++ padded 2 d.day

example : (dateFromIsoformat "2026-04-22").map CalendarDate.isoformat = some "2026-04-22" := by
  decide

example : dateFromIsoformat "2021-W01-1" = some ⟨2021, 1, 4⟩ ∧
    dateFromIsoformat "2020-W01-1" = some ⟨2019, 12, 30⟩ ∧
    dateFromIsoformat "2020-W53-7" = some ⟨2021, 1, 3⟩ := by decide

end Encoding
