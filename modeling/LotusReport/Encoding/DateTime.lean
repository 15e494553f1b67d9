import LotusReport.Encoding.Date
import LotusReport.Encoding.Timestamp

/-!
# Instants as texts

An instant counts microseconds from the start of 1970 in UTC. Its ISO text
gives the date, the time of the day, the fraction of the second where there is
one, and the offset.
-/

namespace Encoding

/-- The date that lies a number of days after 1 January of year 1. -/
def CalendarDate.ofDays (days : Nat) : CalendarDate :=
  -- no year is longer than 366 days; the rest is counted in months from that year on
  let year := days / 366 + 1
  addDays 360 year 1 (days - daysBeforeYear year)

/-- The days from 1 January of year 1 to 1 January 1970. -/
def epochDays : Int := 719162

/-- `datetime.isoformat()` of an instant in UTC. -/
def isoText (t : Instant) : String :=
  let second := t / 1000000
  let microsecond := (t % 1000000).toNat
  let day := second / 86400 + epochDays
  let time := (second % 86400).toNat
  (CalendarDate.ofDays day.toNat).isoformat ++ "T" ++ padded 2 (time / 3600) ++ ":" ++
    padded 2 (time / 60 % 60) ++ ":" ++ padded 2 (time % 60) ++
    (if microsecond = 0 then "" else "." ++ padded 6 microsecond) ++ "+00:00"

example : isoText 0 = "1970-01-01T00:00:00+00:00" ∧
    isoText 1776848404000120 = "2026-04-22T09:00:04.000120+00:00" := by decide +kernel

end Encoding
