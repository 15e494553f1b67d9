import LotusReport.Composite.Selection
import LotusReport.Encoding.Days
import LotusReport.Fallible.Checks
import LotusReport.Relational.Intervals

/-!
# The windows of a horizon

A selection that was accepted divides its horizon: each of its days lies in
exactly one window. The windows of a return product are windows of the primary
selection: the months of a calendar year, or the last months of the report.
-/

namespace LotusReport.Composite

open Encoding Fallible Relational

section Partition

/-- The window holds the day. -/
def CompositeWindowPin.holds (d : Date) (w : CompositeWindowPin) : Bool :=
  decide (w.periodStart ≤ d ∧ d ≤ w.periodEnd)

/-- The windows divide the horizon, in order. -/
structure CompositeReportSelection.Partitioned (s : CompositeReportSelection) : Prop where
  /-- Exactly one window holds a day of the horizon, and none holds another day. -/
  once : ∀ d : Date, s.windows.countP (CompositeWindowPin.holds d) =
    if s.periodStart ≤ d ∧ d ≤ s.periodEnd then 1 else 0
  inOrder : s.windows.Pairwise fun a b => a.periodEnd < b.periodStart

theorem upright_windows (windows : List CompositeWindowPin) :
    Upright CompositeWindowPin.periodStart CompositeWindowPin.periodEnd windows :=
  fun w _ => w.ordered

theorem adjoining_of_contiguous {windows : List CompositeWindowPin}
    (h : contiguous windows = .ok true) :
    Adjoining CompositeWindowPin.periodStart CompositeWindowPin.periodEnd windows := by
  induction windows with
  | nil => exact List.IsChain.nil
  | cons w windows ih =>
      cases windows with
      | nil => exact List.IsChain.singleton w
      | cons v windows =>
          unfold contiguous at h
          split at h
          · cases h
          · rename_i day hnext
            split at h
            · rename_i hstart
              apply List.isChain_cons_cons.mpr
              constructor
              · rw [hstart]
                exact Date.covBy_of_next? hnext
              · exact ih h
            · cases h

theorem CompositeReportSelection.partitioned (s : CompositeReportSelection) : s.Partitioned := by
  have hadjoining := adjoining_of_contiguous s.chained
  have hupright := upright_windows s.windows
  have hcovers := s.covering
  unfold covers at hcovers
  rw [Bool.and_eq_true, beq_iff_eq, beq_iff_eq] at hcovers
  constructor
  · intro d
    cases hwindows : s.windows with
    | nil =>
        rw [hwindows] at hcovers
        cases hcovers.1
    | cons w windows =>
        rw [hwindows] at hadjoining hupright hcovers
        obtain ⟨hfirst, hlast⟩ := hcovers
        rw [List.getLast?_eq_some_getLast (List.cons_ne_nil _ _)] at hlast
        simp only [List.head?_cons, Option.map_some, Option.some.injEq] at hfirst hlast
        rw [← hfirst, ← hlast]
        exact hadjoining.countP hupright d
  · exact hadjoining.pairwise hupright

theorem CompositeReportSelection.within {s : CompositeReportSelection} {w : CompositeWindowPin}
    (hw : w ∈ s.windows) : s.periodStart ≤ w.periodStart ∧ w.periodEnd ≤ s.periodEnd := by
  have hinside : ∀ d : Date, w.holds d = true → s.periodStart ≤ d ∧ d ≤ s.periodEnd := by
    intro d hd
    have hpos : 0 < s.windows.countP (CompositeWindowPin.holds d) :=
      List.countP_pos_iff.mpr ⟨w, hw, hd⟩
    rw [s.partitioned.once d] at hpos
    by_contra hout
    rw [if_neg hout] at hpos
    exact absurd hpos (lt_irrefl 0)
  have hordered : w.periodStart ≤ w.periodEnd := w.ordered
  constructor
  · exact (hinside w.periodStart (decide_eq_true ⟨le_refl _, hordered⟩)).1
  · exact (hinside w.periodEnd (decide_eq_true ⟨hordered, le_refl _⟩)).2

end Partition

section Months

/-- The first and the last day of a window. -/
def CompositeWindowPin.span (w : CompositeWindowPin) : CalendarDate × CalendarDate :=
  (w.periodStart.1, w.periodEnd.1)

theorem CompositeWindowPin.span_of_wholeMonth {w : CompositeWindowPin} (h : w.wholeMonth = true) :
    w.span = monthSpan (monthOf w.periodStart.1) := by
  unfold wholeMonth at h
  simp only [Bool.and_eq_true, beq_iff_eq] at h
  obtain ⟨⟨⟨hone, hyear⟩, hmonth⟩, hlast⟩ := h
  have hfirst := monthFirst_monthOf w.periodStart.2 hone
  have hyears : monthOf w.periodStart.1 / 12 = w.periodStart.1.year :=
    congrArg CalendarDate.year hfirst
  have hmonths : monthOf w.periodStart.1 % 12 + 1 = w.periodStart.1.month :=
    congrArg CalendarDate.month hfirst
  apply Prod.ext
  · exact hfirst.symm
  · show w.periodEnd.1 = monthLast (monthOf w.periodStart.1)
    unfold monthLast
    rw [hyears, hmonths, ← hlast, hyear, hmonth]

theorem months_of_contiguous {w : CompositeWindowPin} {windows : List CompositeWindowPin}
    (h : contiguous (w :: windows) = .ok true)
    (hmonths : (w :: windows).all CompositeWindowPin.wholeMonth = true) :
    (w :: windows).map CompositeWindowPin.span =
      (List.range' (monthOf w.periodStart.1) (windows.length + 1)).map monthSpan := by
  induction windows generalizing w with
  | nil =>
      rw [List.all_cons, Bool.and_eq_true] at hmonths
      rw [List.map_cons, w.span_of_wholeMonth hmonths.1]
      rfl
  | cons v windows ih =>
      rw [List.all_cons, Bool.and_eq_true] at hmonths
      have hspan := w.span_of_wholeMonth hmonths.1
      unfold contiguous at h
      split at h
      · cases h
      · rename_i day hnext
        split at h
        · rename_i hstart
          have hmonth : monthOf v.periodStart.1 = monthOf w.periodStart.1 + 1 := by
            have hlast : w.periodEnd.1 = monthLast (monthOf w.periodStart.1) :=
              congrArg Prod.snd hspan
            rw [hstart, Date.next?_eq_some hnext, hlast, next_monthLast, monthOf_monthFirst]
          rw [List.map_cons, ih h hmonths.2, hspan, hmonth]
          rfl
        · cases h

end Months

section Products

variable {primary : CompositeReportSelection} {product : ReturnProductSelection}

/-- The windows of a product, as its span describes them and as the primary selection has them. -/
structure ReturnProductSelection.DrawnFrom (primary : CompositeReportSelection)
    (product : ReturnProductSelection) : Prop where
  members : ∀ w ∈ product.selection.windows, ∃ v ∈ primary.windows, v.same w = true
  /-- The twelve months of the year, in order. -/
  calendar : ∀ year, product.span = .calendarYear year → ∃ y : Nat, (y : Int) = year ∧
    product.selection.windows.map CompositeWindowPin.span =
      (List.range' 1 12).map fun month => (⟨y, month, 1⟩, ⟨y, month, daysInMonth y month⟩)
  /-- The last windows of the primary selection, consecutive months up to its end. -/
  trailing : ∀ months, product.span = .trailingMonths months → ∃ n : Nat, (n : Int) = months ∧
    n ≤ primary.windows.length ∧
    List.Forall₂ (fun v w => v.same w = true)
      (primary.windows.drop (primary.windows.length - n)) product.selection.windows ∧
    (∃ first, product.selection.windows.map CompositeWindowPin.span =
      (List.range' first n).map monthSpan) ∧
    product.selection.windows.getLast?.map (·.periodEnd) = some primary.periodEnd

theorem CompositeReportSelection.covering_iff (s : CompositeReportSelection) :
    s.windows.head?.map (·.periodStart) = some s.periodStart ∧
      s.windows.getLast?.map (·.periodEnd) = some s.periodEnd := by
  have hcovers := s.covering
  unfold covers at hcovers
  rwa [Bool.and_eq_true, beq_iff_eq, beq_iff_eq] at hcovers

theorem CompositeReportSelection.consecutive {s : CompositeReportSelection}
    (h : s.windows.all CompositeWindowPin.wholeMonth = true) :
    s.windows.map CompositeWindowPin.span =
      (List.range' (monthOf s.periodStart.1) s.windows.length).map monthSpan := by
  have hchained := s.chained
  have hfirst := s.covering_iff.1
  cases hwindows : s.windows with
  | nil => rfl
  | cons w windows =>
      rw [hwindows] at hchained h hfirst
      rw [List.head?_cons, Option.map_some, Option.some.injEq] at hfirst
      rw [← hfirst]
      exact months_of_contiguous hchained h

theorem sameWindows_of_inScope (h : productInScope primary product = true) :
    List.Forall₂ (fun v w => v.same w = true)
      (windowsWithin primary product.selection.periodStart product.selection.periodEnd)
      product.selection.windows := by
  unfold productInScope at h
  simp only [Bool.and_eq_true, beq_iff_eq] at h
  obtain ⟨⟨⟨-, hlength⟩, hsame⟩, -⟩ := h
  rw [List.forall₂_iff_zip]
  refine ⟨hlength, fun {v w} hmem => ?_⟩
  exact List.all_eq_true.mp hsame (v, w) hmem

/-- Up to the end of the primary selection the windows within a period are its last windows. -/
theorem windowsWithin_eq_drop (primary : CompositeReportSelection) (periodStart : Date) :
    windowsWithin primary periodStart primary.periodEnd =
      primary.windows.drop (primary.windows.length -
        (windowsWithin primary periodStart primary.periodEnd).length) := by
  apply filter_eq_drop
  have hinOrder := primary.partitioned.inOrder
  refine hinOrder.imp_of_mem ?_
  intro a b ha hb hab hin
  simp only [Bool.and_eq_true, Bool.not_eq_true'] at hin ⊢
  have hstart : periodStart ≤ a.periodStart := hin.1
  have hordered : a.periodStart ≤ a.periodEnd := a.ordered
  constructor
  · have hlate : periodStart ≤ b.periodStart :=
      le_trans hstart (le_trans hordered hab.le)
    exact hlate
  · exact (CompositeReportSelection.within hb).2

theorem monthSpan_of_lt (year : Nat) {month : Nat} (h : month < 12) :
    monthSpan (year * 12 + month) =
      (⟨year, 1 + month, 1⟩, ⟨year, 1 + month, daysInMonth year (1 + month)⟩) := by
  have hyear : (year * 12 + month) / 12 = year := by omega
  have hmonth : (year * 12 + month) % 12 + 1 = 1 + month := by omega
  unfold monthSpan monthFirst monthLast
  rw [hyear, hmonth]

theorem ReturnProductSelection.months_of_calendar {year : Int}
    (h : product.span = .calendarYear year) : ∃ y : Nat, (y : Int) = year ∧
      product.selection.windows.map CompositeWindowPin.span =
        (List.range' 1 12).map fun month => (⟨y, month, 1⟩, ⟨y, month, daysInMonth y month⟩) := by
  have hfits := product.fitting
  rw [h] at hfits
  simp only [ProductSpan.fits, Bool.and_eq_true, decide_eq_true_eq, beq_iff_eq] at hfits
  obtain ⟨⟨⟨⟨⟨hpos, -⟩, hstart⟩, -⟩, hlength⟩, hmonths⟩ := hfits
  have hfirst : monthOf product.selection.periodStart.1 = year.toNat * 12 := by
    rw [hstart]
    rfl
  refine ⟨year.toNat, by omega, ?_⟩
  rw [CompositeReportSelection.consecutive hmonths, hlength, hfirst, List.range'_eq_map_range,
    List.range'_eq_map_range, List.map_map, List.map_map]
  apply List.map_congr_left
  intro month hmonth
  exact monthSpan_of_lt _ (List.mem_range.mp hmonth)

theorem ReturnProductSelection.months_of_trailing {months : Int}
    (h : product.span = .trailingMonths months) (hscope : productInScope primary product = true) :
    ∃ n : Nat, (n : Int) = months ∧ n ≤ primary.windows.length ∧
      List.Forall₂ (fun v w => v.same w = true)
        (primary.windows.drop (primary.windows.length - n)) product.selection.windows ∧
      (∃ first, product.selection.windows.map CompositeWindowPin.span =
        (List.range' first n).map monthSpan) ∧
      product.selection.windows.getLast?.map (·.periodEnd) = some primary.periodEnd := by
  have hfits := product.fitting
  rw [h] at hfits
  simp only [ProductSpan.fits, Bool.and_eq_true, decide_eq_true_eq, beq_iff_eq] at hfits
  obtain ⟨⟨-, hlength⟩, hmonths⟩ := hfits
  have hsame := sameWindows_of_inScope hscope
  have hend : product.selection.periodEnd = primary.periodEnd := by
    unfold productInScope at hscope
    rw [h] at hscope
    simp only [Bool.and_eq_true, beq_iff_eq] at hscope
    exact hscope.2
  rw [hend] at hsame
  have hcount := hsame.length_eq
  rw [windowsWithin_eq_drop, hcount] at hsame
  refine ⟨product.selection.windows.length, hlength, ?_, hsame, ?_, ?_⟩
  · rw [← hcount]
    exact List.length_filter_le _ _
  · exact ⟨_, CompositeReportSelection.consecutive hmonths⟩
  · rw [← hend]
    exact product.selection.covering_iff.2

theorem drawnFrom_of_inScope (h : productInScope primary product = true) :
    product.DrawnFrom primary := by
  constructor
  · intro w hw
    have hsame := sameWindows_of_inScope h
    obtain ⟨i, rfl⟩ := List.mem_iff_get.mp hw
    have hi : i.1 < (windowsWithin primary product.selection.periodStart
        product.selection.periodEnd).length := by
      rw [hsame.length_eq]
      exact i.2
    exact ⟨_, List.mem_of_mem_filter (List.get_mem _ ⟨i.1, hi⟩), hsame.get hi i.2⟩
  · intro year hspan
    exact product.months_of_calendar hspan
  · intro months hspan
    exact product.months_of_trailing hspan h

end Products

end LotusReport.Composite
