import LotusReport.Composite.Eligibility.Admission
import LotusReport.Encoding.Days

/-!
# Decision intervals

Each decision about a portfolio holds for an interval of days. Admission reads
the intervals one after the other, and accepts them when none ends before it
begins and no two of one portfolio share a day.
-/

namespace LotusReport.Composite.Eligibility

open Encoding Fallible

/-- The interval that a decision about a portfolio holds for. -/
structure HistoryInterval where
  portfolio : Json
  first : CalendarDate
  last : CalendarDate
deriving DecidableEq

/-- `date.max`. -/
def lastDate : CalendarDate := ⟨9999, 12, 31⟩

/-- The last day of an interval; without an end it holds for ever. -/
def endOf : Json → Except CaptureError CalendarDate
  | .null => .ok lastDate
  | value => dateOf value

/-- The interval of a decision. -/
def historyInterval (decision : Json) : Except CaptureError HistoryInterval := do
  let first ← dateAt decision "effective_from"
  let last ← endOf (← subscript decision "effective_to")
  let portfolio ← subscript decision "portfolio_id"
  return ⟨portfolio, first, last⟩

namespace HistoryInterval

variable {i j : HistoryInterval} {day : CalendarDate}

/-- The interval does not end before it begins. -/
def Upright (i : HistoryInterval) : Prop := i.first.upTo i.last

instance : DecidablePred Upright := fun i => inferInstanceAs (Decidable (i.first.upTo i.last))

/-- The day belongs to the interval. -/
def Covers (i : HistoryInterval) (day : CalendarDate) : Prop := i.first.upTo day ∧ day.upTo i.last

/-- One of the intervals ends before the other begins. -/
def Apart (i j : HistoryInterval) : Prop :=
  i.last.before j.first = true ∨ j.last.before i.first = true

instance : DecidableRel Apart := fun i j =>
  inferInstanceAs (Decidable (i.last.before j.first = true ∨ j.last.before i.first = true))

theorem upright_iff : i.Upright ↔ ∃ day, i.Covers day := by
  constructor
  · intro h
    refine ⟨i.first, ?_, h⟩
    exact (Std.Total.total i.first i.first).elim id id
  · rintro ⟨day, hfirst, hlast⟩
    exact IsTrans.trans _ _ _ hfirst hlast

/-- Intervals are apart exactly when they share no day. -/
theorem apart_iff (hi : i.Upright) (hj : j.Upright) :
    i.Apart j ↔ ∀ day, ¬(i.Covers day ∧ j.Covers day) := by
  unfold Apart Upright Covers at *
  simp only [CalendarDate.before_iff_lex, CalendarDate.upTo_iff_lex] at *
  constructor
  · rintro h day ⟨⟨hfirst, hlast⟩, hfirst', hlast'⟩
    omega
  · intro h
    by_contra hmeet
    -- the later of the two first days belongs to both
    rcases Std.Total.total (r := CalendarDate.upTo) i.first j.first with horder | horder
    · apply h j.first
      rw [CalendarDate.upTo_iff_lex] at horder
      omega
    · apply h i.first
      rw [CalendarDate.upTo_iff_lex] at horder
      omega

end HistoryInterval

section Reading

variable {decision : Json} {i : HistoryInterval}

theorem valid_of_dateOf {value : Json} {d : CalendarDate} (h : dateOf value = .ok d) :
    d.valid = true := by
  obtain ⟨text, -, h⟩ := bind_eq_ok.mp h
  split at h
  · rename_i hdate
    cases h
    exact valid_of_dateFromIsoformat hdate
  · cases h

theorem historyInterval_eq_ok : historyInterval decision = .ok i ↔
    dateAt decision "effective_from" = .ok i.first ∧
      (∃ value, subscript decision "effective_to" = .ok value ∧ endOf value = .ok i.last) ∧
      subscript decision "portfolio_id" = .ok i.portfolio := by
  simp only [historyInterval, bind_eq_ok, pure, Except.pure, Except.ok.injEq]
  constructor
  · rintro ⟨first, hfirst, value, hvalue, last, hlast, portfolio, hportfolio, rfl⟩
    exact ⟨hfirst, ⟨value, hvalue, hlast⟩, hportfolio⟩
  · rintro ⟨hfirst, ⟨value, hvalue, hlast⟩, hportfolio⟩
    exact ⟨i.first, hfirst, value, hvalue, i.last, hlast, i.portfolio, hportfolio, rfl⟩

theorem not_lastDate_before {d : CalendarDate} (h : d.valid = true) : lastDate.before d = false := by
  obtain ⟨⟨-, hyear⟩, ⟨-, hmonth⟩, -, hday⟩ := CalendarDate.valid_iff.mp h
  have hmax := CalendarDate.daysInMonth_le d.year d.month
  rw [← Bool.not_eq_true, CalendarDate.before_iff_lex]
  unfold lastDate
  dsimp only
  omega

end Reading

section Admission

variable (lib : SourceLibrary)

/-- The intervals of one portfolio are apart. -/
def ApartFor (i j : HistoryInterval) : Prop := lib.eq i.portfolio j.portfolio = true → i.Apart j

instance : DecidableRel (ApartFor lib) := fun i j =>
  inferInstanceAs (Decidable (lib.eq i.portfolio j.portfolio = true → i.Apart j))

/-- What the loop over the decisions keeps of an interval. -/
def HistoryInterval.entry (i : HistoryInterval) : Json × CalendarDate × CalendarDate :=
  (i.portfolio, i.first, i.last)

/-- The interval ends before it begins, or meets an earlier one of its portfolio. -/
def historyConflict (prior : List (Json × CalendarDate × CalendarDate)) (i : HistoryInterval) :
    Bool :=
  i.last.before i.first || prior.any fun old =>
    lib.eq old.1 i.portfolio && !old.2.2.before i.first && !i.last.before old.2.1

theorem requireHistoryIntervals_cons {prior : List (Json × CalendarDate × CalendarDate)}
    {decision : Json} {decisions : List Json} :
    requireHistoryIntervals lib prior (decision :: decisions) = (do
      let i ← historyInterval decision
      refuseIf (.ok (historyConflict lib prior i))
        "COMPOSITE_ELIGIBILITY_HISTORY_INTERVAL_CONFLICT"
      requireHistoryIntervals lib (i.entry :: prior) decisions) := by
  rw [requireHistoryIntervals]
  unfold historyInterval
  simp only [bind_assoc]
  apply bind_congr
  intro first
  apply bind_congr
  intro value
  cases value <;> rfl

variable {lib} {prior : List HistoryInterval} {decisions : List Json}

theorem historyConflict_eq_ok {i : HistoryInterval} {code : String} {u : Unit} :
    refuseIf (.ok (historyConflict lib (prior.map HistoryInterval.entry) i)) code = .ok u ↔
      i.Upright ∧ ∀ old ∈ prior, ApartFor lib old i := by
  rw [refuseIf_eq_ok, Except.ok.injEq]
  unfold historyConflict
  rw [Bool.or_eq_false_iff, List.any_eq_false, List.forall_mem_map]
  apply and_congr Iff.rfl
  apply forall₂_congr
  intro old _
  simp only [HistoryInterval.entry, ApartFor, HistoryInterval.Apart]
  cases lib.eq old.portfolio i.portfolio <;> cases old.last.before i.first <;>
    cases i.last.before old.first <;> decide

/-- The loop accepts decisions whose intervals are upright, apart for each portfolio, and apart
from the intervals before them. -/
theorem requireHistoryIntervals_after :
    requireHistoryIntervals lib (prior.map HistoryInterval.entry) decisions = .ok () ↔
      ∃ intervals, decisions.mapM historyInterval = .ok intervals ∧
        (∀ i ∈ intervals, i.Upright ∧ ∀ old ∈ prior, ApartFor lib old i) ∧
        intervals.Pairwise (ApartFor lib) := by
  induction decisions generalizing prior with
  | nil =>
      constructor
      · intro _
        refine ⟨[], rfl, ?_, List.Pairwise.nil⟩
        intro i hi
        cases hi
      · intro _
        rfl
  | cons decision decisions ih =>
      have hnext := fun i => @ih (i :: prior)
      simp only [List.map_cons] at hnext
      simp only [requireHistoryIntervals_cons, bind_eq_ok, historyConflict_eq_ok,
        hnext, mapM_eq_ok, List.forall₂_cons_left_iff]
      constructor
      · rintro ⟨i, hi, ⟨⟩, hfits, intervals, hintervals, hall, hpair⟩
        refine ⟨i :: intervals, ⟨i, intervals, hi, hintervals, rfl⟩, ?_, ?_⟩
        · rw [List.forall_mem_cons]
          refine ⟨hfits, ?_⟩
          intro j hj
          exact ⟨(hall j hj).1, fun old hold => (hall j hj).2 old (List.mem_cons_of_mem _ hold)⟩
        · rw [List.pairwise_cons]
          exact ⟨fun j hj => (hall j hj).2 i List.mem_cons_self, hpair⟩
      · rintro ⟨_, ⟨i, intervals, hi, hintervals, rfl⟩, hall, hpair⟩
        rw [List.forall_mem_cons] at hall
        rw [List.pairwise_cons] at hpair
        refine ⟨i, hi, (), hall.1, intervals, hintervals, ?_, hpair.2⟩
        intro j hj
        refine ⟨(hall.2 j hj).1, ?_⟩
        rw [List.forall_mem_cons]
        exact ⟨hpair.1 j hj, (hall.2 j hj).2⟩

/-- `_require_history_intervals` accepts exactly the upright intervals of which no two of one
portfolio meet. -/
theorem requireHistoryIntervals_eq_ok : requireHistoryIntervals lib [] decisions = .ok () ↔
    ∃ intervals, decisions.mapM historyInterval = .ok intervals ∧
      (∀ i ∈ intervals, i.Upright) ∧ intervals.Pairwise (ApartFor lib) := by
  have h := @requireHistoryIntervals_after lib [] decisions
  simpa using h

/-- The decision intervals of a membership are accepted. -/
def requireHistory (lib : SourceLibrary) (membership : Json) : Except CaptureError Unit := do
  requireHistoryIntervals lib [] (← itemsOf (← subscript membership "decisions"))

/-- The document checks of the monthly admission on a membership. -/
def eligibilityVerdict (lib : SourceLibrary) (raw : Json) : Except CaptureError Unit := do
  lib.requireHash true raw
  lib.validate eligibilityMembership raw
  requireHistory lib raw

end Admission

section Publication

variable {lib : SourceLibrary} {selection : EligibilitySelection}

/-- What an accepted publication holds: memberships that passed their document checks, and an
attestation and a proposal that the population checks accept. -/
structure AcceptedPublication (lib : SourceLibrary) (pin : MonthPin) (month : Json) where
  receipt : Json
  member : Json
  attestation : Json
  parent : Json
  proposal : Json
  receiptRead : subscript month "receipt" = .ok receipt
  memberRead : subscript month "membership" = .ok member
  attestationRead : subscript month "universe" = .ok attestation
  parentRead : subscript month "parent_membership" = .ok parent
  proposalRead : readAt receipt ["approval", "proposal"] = .ok proposal
  memberVerdict : eligibilityVerdict lib member = .ok ()
  parentVerdict : eligibilityVerdict lib parent = .ok ()
  attestationShape : lib.validate eligibilityUniverse attestation = .ok ()
  population : requirePublishedPopulation lib pin.month member attestation proposal = .ok ()

theorem eligibilityVerdict_of_parts {raw decisions : Json} {items : List Json}
    (hhash : lib.requireHash true raw = .ok ()) (hshape : lib.validate eligibilityMembership raw = .ok ())
    (hdecisions : subscript raw "decisions" = .ok decisions) (hitems : itemsOf decisions = .ok items)
    (hintervals : requireHistoryIntervals lib [] items = .ok ()) :
    eligibilityVerdict lib raw = .ok () := by
  refine bind_eq_ok.mpr ⟨(), hhash, bind_eq_ok.mpr ⟨(), hshape, ?_⟩⟩
  refine bind_eq_ok.mpr ⟨decisions, hdecisions, bind_eq_ok.mpr ⟨items, hitems, ?_⟩⟩
  exact hintervals

/-- `_require_publication` accepts nothing else. -/
theorem requirePublication_accepted {pin : MonthPin} {month : Json} {version : String} {u : Unit}
    (hpublished : isPublished pin.evidence = true)
    (h : requirePublication lib selection pin month version = .ok u) :
    Nonempty (AcceptedPublication lib pin month) := by
  unfold requirePublication at h
  split at h
  · rename_i hevidence
    rw [hevidence] at hpublished
    cases hpublished
  · simp only [bind_eq_ok] at h
    obtain ⟨receipt, hreceipt, member, hmember, attestation, hattestation, parent, hparent, _, -, _, -,
      _, -, approval, happroval, _, -, _, -, _, hproducts, definition, -, _, -, _, -, _, -,
      _, hmemberShape, _, hparentShape, decisions, hdecisions, items, hitems, _, hhistory,
      earlier, hearlier, earlierItems, hearlierItems, _, hearlierHistory, _, hattestationShape,
      publication, -, _, -, _, -, _, -, _, -, _, -, hjoins⟩ := h
    have hhash := forM_eq_ok.mp hproducts
    simp only [List.forall_mem_cons, bind_eq_ok] at hhash
    obtain ⟨⟨_, -, hmemberHash⟩, -, ⟨_, -, hparentHash⟩, -⟩ := hhash
    simp only [requirePublishedJoins, bind_eq_ok] at hjoins
    obtain ⟨member', hmember', attestation', hattestation', publication', -, receipt', hreceipt',
      _, -, approval', happroval', proposal, hproposal, _, hpopulation, -⟩ := hjoins
    cases hmember.symm.trans hmember'
    cases hattestation.symm.trans hattestation'
    cases hreceipt.symm.trans hreceipt'
    cases happroval.symm.trans happroval'
    have hread : readAt receipt ["approval", "proposal"] = .ok proposal := by
      rw [readAt_of_subscript happroval, readAt_singleton]
      exact hproposal
    exact ⟨{
      receipt, member, attestation, parent, proposal
      receiptRead := hreceipt
      memberRead := hmember
      attestationRead := hattestation
      parentRead := hparent
      proposalRead := hread
      memberVerdict := eligibilityVerdict_of_parts hmemberHash hmemberShape hdecisions hitems hhistory
      parentVerdict :=
        eligibilityVerdict_of_parts hparentHash hparentShape hearlier hearlierItems hearlierHistory
      attestationShape := hattestationShape
      population := hpopulation }⟩

end Publication

end LotusReport.Composite.Eligibility
