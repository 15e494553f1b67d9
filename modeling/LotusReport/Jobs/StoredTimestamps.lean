import LotusReport.Encoding.InstantTexts
import LotusReport.Jobs.Listing

/-!
# Stored times as instants

The SQLite ledgers store a time as its ISO text in UTC and compare the texts:
work is due, a lease is over and events follow one another as the texts say.
The ledgers write `Z` for the offset, custody recovery writes `+00:00` to the
same columns.
-/

namespace LotusReport.Jobs

open Encoding

section Datetimes

/-- An aware `datetime`: what its clock shows, in microseconds from the start of 1970, and the
offset of its zone from UTC. -/
structure AwareDatetime where
  wall : Int
  utcOffset : Int
  inCalendar : InCalendar wall
  withinDay : -86400000000 < utcOffset ∧ utcOffset < 86400000000

/-- The instant of a datetime. -/
def AwareDatetime.instant (d : AwareDatetime) : Int := d.wall - d.utcOffset

/-- The exception of a conversion that leaves the years 1 to 9999. -/
inductive ConversionError where
  | overflowError
deriving DecidableEq, Repr

/-- `value.astimezone(UTC)`. -/
def astimezoneUtc (d : AwareDatetime) : Except ConversionError Int :=
  if InCalendar d.instant then .ok d.instant else .error .overflowError

/-- `_dt_to_text` of both ledgers. -/
def ledgerText (d : AwareDatetime) : Except ConversionError String :=
  (astimezoneUtc d).map fun t => replaceText "+00:00" "Z" (isoText t)

/-- `CustodyRecovery.timestamp` on SQLite. -/
def custodyTimestamp (d : AwareDatetime) : Except ConversionError String :=
  (astimezoneUtc d).map isoText

/-- A text stored for one datetime compares with a text written for another as the instants do,
in each of the comparisons that the queries make. -/
def ComparesAsInstants (stored written : AwareDatetime → Except ConversionError String)
    (a b : AwareDatetime) : Prop :=
  ∃ s t, stored a = .ok s ∧ written b = .ok t ∧ (s < t ↔ a.instant < b.instant) ∧
    (s = t ↔ a.instant = b.instant) ∧ (t < s ↔ b.instant < a.instant) ∧
    (s ≤ t ↔ a.instant ≤ b.instant)

end Datetimes

section Comparisons

variable {a b : AwareDatetime}

theorem ledgerText_eq_ok {s : String} : ledgerText a = .ok s ↔
    InCalendar a.instant ∧ s = (dtToText a.instant).text := by
  unfold ledgerText astimezoneUtc
  split
  · rename_i h
    simp only [Except.map, Except.ok.injEq, h, true_and]
    exact eq_comm
  · rename_i h
    simp [Except.map, h]

theorem custodyTimestamp_eq_ok {s : String} : custodyTimestamp a = .ok s ↔
    InCalendar a.instant ∧ s = (isoformat a.instant).text := by
  unfold custodyTimestamp astimezoneUtc
  split
  · rename_i h
    simp only [Except.map, Except.ok.injEq, h, true_and]
    exact eq_comm
  · rename_i h
    simp [Except.map, h]

/-- Texts of the forms `x` and `y` compare as the instants exactly if their ranks do. -/
theorem comparesAsInstants_iff {stored written : AwareDatetime → Except ConversionError String}
    {x y : Timestamp} (hx : x.instant = a.instant) (hy : y.instant = b.instant)
    (hstored : ∀ s, stored a = .ok s ↔ InCalendar a.instant ∧ s = x.text)
    (hwritten : ∀ t, written b = .ok t ↔ InCalendar b.instant ∧ t = y.text) :
    ComparesAsInstants stored written a b ↔ InCalendar a.instant ∧ InCalendar b.instant ∧
      (x.rank < y.rank ↔ a.instant < b.instant) ∧ (y.rank < x.rank ↔ b.instant < a.instant) := by
  constructor
  · rintro ⟨s, t, hs, ht, hless, -, hgreater, -⟩
    obtain ⟨ha, rfl⟩ := (hstored s).mp hs
    obtain ⟨hb, rfl⟩ := (hwritten t).mp ht
    rw [← hx] at ha
    rw [← hy] at hb
    rw [Timestamp.text_lt_text_iff ha hb] at hless
    rw [Timestamp.text_lt_text_iff hb ha] at hgreater
    rw [hx] at ha
    rw [hy] at hb
    exact ⟨ha, hb, hless, hgreater⟩
  · rintro ⟨ha, hb, hless, hgreater⟩
    refine ⟨x.text, y.text, (hstored _).mpr ⟨ha, rfl⟩, (hwritten _).mpr ⟨hb, rfl⟩, ?_⟩
    rw [← hx] at ha
    rw [← hy] at hb
    rw [Timestamp.text_lt_text_iff ha hb, Timestamp.text_lt_text_iff hb ha,
      Timestamp.text_eq_text_iff ha hb, ← not_lt, Timestamp.text_lt_text_iff hb ha]
    omega

/-- A text with `+00:00` sorts before a text with `Z` unless its instant is later, and then too when
the other text ends at the second. -/
theorem isoformat_rank_lt_iff (s t : Int) :
    (isoformat s).rank < (dtToText t).rank ↔ s ≤ t ∨ StartOf t s := by
  simp only [dtToText, isoformat, Timestamp.rank, Timestamp.suffixRank, Timestamp.fraction, StartOf,
    Bool.false_eq_true, if_false, if_true]
  split <;> split <;> omega

theorem rank_lt_isoformat_iff (s t : Int) :
    (dtToText t).rank < (isoformat s).rank ↔ t < s ∧ ¬ StartOf t s := by
  simp only [dtToText, isoformat, Timestamp.rank, Timestamp.suffixRank, Timestamp.fraction, StartOf,
    Bool.false_eq_true, if_false, if_true]
  split <;> split <;> omega

/-- The texts of the ledgers compare as the instants unless one instant is the start of the second
in which the other lies. -/
theorem ledgerText_compares_iff : ComparesAsInstants ledgerText ledgerText a b ↔
    InCalendar a.instant ∧ InCalendar b.instant ∧ ¬ StartOf a.instant b.instant ∧
      ¬ StartOf b.instant a.instant := by
  rw [comparesAsInstants_iff (x := dtToText a.instant) (y := dtToText b.instant) rfl rfl
    (fun _ => ledgerText_eq_ok) fun _ => ledgerText_eq_ok, rank_lt_rank_iff, rank_lt_rank_iff]
  have hab : StartOf a.instant b.instant → a.instant < b.instant := StartOf.lt
  have hba : StartOf b.instant a.instant → b.instant < a.instant := StartOf.lt
  constructor
  · rintro ⟨ha, hb, hless, hgreater⟩
    refine ⟨ha, hb, fun hstart => ?_, fun hstart => ?_⟩
    · have hback := hgreater.mp (.inr hstart)
      have hlt := hab hstart
      omega
    · have hback := hless.mp (.inr hstart)
      have hlt := hba hstart
      omega
  · rintro ⟨ha, hb, hfirst, hsecond⟩
    simp only [hfirst, hsecond, not_false_eq_true, and_true, or_false]
    exact ⟨ha, hb⟩

/-- A text of custody recovery compares with a text of the ledgers as the instants unless they are
equal or the second is the start of the second in which the first lies. -/
theorem custodyTimestamp_compares_iff : ComparesAsInstants custodyTimestamp ledgerText a b ↔
    InCalendar a.instant ∧ InCalendar b.instant ∧ a.instant ≠ b.instant ∧
      ¬ StartOf b.instant a.instant := by
  rw [comparesAsInstants_iff (x := isoformat a.instant) (y := dtToText b.instant) rfl rfl
    (fun _ => custodyTimestamp_eq_ok) fun _ => ledgerText_eq_ok, isoformat_rank_lt_iff,
    rank_lt_isoformat_iff]
  have hba : StartOf b.instant a.instant → b.instant < a.instant := StartOf.lt
  constructor
  · rintro ⟨ha, hb, hless, -⟩
    refine ⟨ha, hb, fun heq => ?_, fun hstart => ?_⟩
    · have hlt := hless.mp (.inl (le_of_eq heq))
      omega
    · have hback := hless.mp (.inr hstart)
      have hlt := hba hstart
      omega
  · rintro ⟨ha, hb, hne, hstart⟩
    simp only [hstart, not_false_eq_true, and_true, or_false]
    refine ⟨ha, hb, ?_⟩
    omega

/-- When the stored texts decide as the instants would: for two texts of the ledgers, and for a text
of custody recovery beside one of the ledgers. -/
theorem stored_texts_decide_iff (a b : AwareDatetime) :
    (ComparesAsInstants ledgerText ledgerText a b ↔ InCalendar a.instant ∧ InCalendar b.instant ∧
      ¬ StartOf a.instant b.instant ∧ ¬ StartOf b.instant a.instant) ∧
    (ComparesAsInstants custodyTimestamp ledgerText a b ↔ InCalendar a.instant ∧
      InCalendar b.instant ∧ a.instant ≠ b.instant ∧ ¬ StartOf b.instant a.instant) :=
  ⟨ledgerText_compares_iff, custodyTimestamp_compares_iff⟩

/-- The end of a lease at 09:00:04 on 22 April 2026. -/
def leaseEnd : AwareDatetime := ⟨1776848404000000, 0, by decide, by decide⟩

/-- Half a second later. -/
def afterLeaseEnd : AwareDatetime := ⟨1776848404500000, 0, by decide, by decide⟩

/-- The lease is not over for the query half a second after its end. -/
theorem not_comparesAsInstants_leaseEnd :
    ¬ ComparesAsInstants ledgerText ledgerText leaseEnd afterLeaseEnd := by
  rw [ledgerText_compares_iff]
  rintro ⟨-, -, hstart, -⟩
  exact hstart ⟨by decide, by decide, by decide⟩

end Comparisons

end LotusReport.Jobs
