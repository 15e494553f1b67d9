import Mathlib.Algebra.Order.Ring.Int

/-!
# Stored timestamps

A stored timestamp is the ISO text of an instant in UTC, ending in `Z` or in
`+00:00`, and a query compares these texts. The texts of two instants of
different seconds compare as the instants do. Within one second the text ends
at the second when there is no fraction, so the next character decides:
`+` sorts before `.`, which sorts before `Z`.
-/

namespace Encoding

/-- Microseconds since a fixed origin. -/
abbrev Instant := Int

/-- A number of seconds as a duration. -/
def seconds (n : Int) : Int := n * 1000000

/-- The text of an instant. -/
structure Timestamp where
  instant : Instant
  offset : Bool
deriving DecidableEq, Repr

namespace Timestamp

/-- The fraction of the second, in microseconds. -/
def fraction (t : Timestamp) : Int := t.instant % 1000000

/-- The position of the text among the texts of one second. -/
def suffixRank (t : Timestamp) : Int :=
  if t.fraction = 0 then if t.offset then 0 else 2000001
  else 2 * t.fraction + if t.offset then 0 else 1

/-- The position of the text in the order of texts. -/
def rank (t : Timestamp) : Int := t.instant / 1000000 * 2000002 + t.suffixRank

/-- The text sorts no later than the other. -/
def le (a b : Timestamp) : Bool := decide (a.rank ≤ b.rank)

/-- The text sorts before the other. -/
def lt (a b : Timestamp) : Bool := decide (a.rank < b.rank)

end Timestamp

/-- The ISO text with the suffix `Z`. -/
def dtToText (t : Instant) : Timestamp := ⟨t, false⟩

/-- The ISO text with the suffix `+00:00`. -/
def isoformat (t : Instant) : Timestamp := ⟨t, true⟩

end Encoding
