import LotusReport.Allocation.Buckets

/-!
# The presentation of a captured allocation

A package presents a copy of the captured allocation. The copy publishes what the
capture published only while the snapshot still bears it out; what it cannot vouch
for is withheld.
-/

namespace LotusReport.Allocation

open Encoding Decimals Rendering Transactions Fallible

section Presentation

variable (lib : NumberLibrary)

/-- A captured figure as it is shown. -/
def shownFigure (suppress : Bool) (raw : Json) : Json :=
  if suppress then .null else ofNumber (allocationNumber lib raw)

/-- A figure of a bucket as it is presented, whether it was malformed, and whether it is unknown. -/
def presentFigure (suppress : Bool) (row : Fields) (field : String) : Fields × Bool × Bool :=
  let raw := get row field
  (Json.assign row field (shownFigure lib suppress raw), !isFigure lib raw,
    shownFigure lib suppress raw == .null)

/-- A bucket with its contributors admitted, and whether it is malformed; a bucket with a refused
contributor keeps nothing of them and no figure. -/
def admittedBucket (portfolioId : Json) (row : Fields) : Fields × Bool :=
  match qualifyContributors lib portfolioId row with
  | (admitted, some malformed) => (admitted, malformed)
  | (counted, none) =>
      (Json.assign (Json.assign (Json.assign counted "contributors" (.arr [])) "weight" .null)
        "market_value" .null, true)

/-- `_present_snapshot_row`. -/
def presentSnapshotRow (suppress : Bool) (portfolioId : Json) (row : Fields) :
    Fields × Bool × Bool :=
  let qualified := admittedBucket lib portfolioId row
  let weighed := presentFigure lib suppress qualified.1 "weight"
  let valued := presentFigure lib suppress weighed.1 "market_value"
  (valued.1, qualified.2 || weighed.2.1 || valued.2.1, weighed.2.2 || valued.2.2)

/-- The bucket is an object with a group that is not blank. -/
def isGrouped : Json → Bool
  | .obj row => match get row "group" with
      | .str group => strip group != ""
      | _ => false
  | _ => false

/-- The buckets of one view as they are presented. -/
def presentView (suppress : Bool) (portfolioId : Json) : Json → Json × Bool × Bool
  | .arr rows =>
      let presented := (rows.filter isGrouped).map fun row =>
        presentSnapshotRow lib suppress portfolioId (asDict row)
      (.arr (presented.map fun row => .obj row.1),
        rows.any (!isGrouped ·) || presented.any (·.2.1), presented.any (·.2.2))
  | _ => (.arr [], true, false)

/-- `_present_snapshot_buckets`. -/
def presentSnapshotBuckets (suppress : Bool) (portfolioId : Json) :
    List String → Fields → Fields × Bool × Bool
  | [], allocation => (allocation, false, false)
  | key :: keys, allocation =>
      match Json.lookup allocation key with
      | none => presentSnapshotBuckets suppress portfolioId keys allocation
      | some view =>
          let shown := presentView lib suppress portfolioId view
          let rest :=
            presentSnapshotBuckets suppress portfolioId keys (Json.assign allocation key shown.1)
          (rest.1, shown.2.1 || rest.2.1, shown.2.2 || rest.2.2)

/-- `_bounded`, of a value. -/
def bounded : Json → Option String
  | .str text => if isBounded text then some text else none
  | _ => none

/-- The qualification is that of the snapshot's portfolio, date and currency, and its coverage is
the retained one. -/
def isBound (snapshot allocation : Fields) (q : AllocationQualification) : Bool :=
  q.sourceAsOfDate.isSome &&
    pyEq lib.floatValue (.ofText? q.sourcePortfolioId) (get snapshot "portfolio_id") &&
    q.sourcePortfolioId.isSome &&
    pyEq lib.floatValue (.ofText? q.sourceAsOfDate) (get snapshot "as_of_date") &&
    pyEq lib.floatValue (.ofText? q.sourceReportingCurrency) (get snapshot "reportingCurrency") &&
    q.coverage.all fun c => pyEq lib.floatValue (get allocation "valuation_coverage") c.dump

/-- A qualification that vouches for nothing. -/
def unqualified (present : Bool) : AllocationQualification :=
  if present then ⟨.invalid, .valuationInvalid, none, none, none, none, false⟩
  else ⟨.missing, .valuationMissing, none, none, none, none, false⟩

/-- `_captured_qualification`: the qualification, and whether figures are suppressed. -/
def capturedQualification (snapshot allocation : Fields) : AllocationQualification × Bool :=
  match AllocationQualification.validate (get allocation "qualification") with
  | .ok q =>
      if isBound lib snapshot allocation q then (q, false) else (unqualified true, true)
  | .error _ => (unqualified (get allocation "qualification" != .null), true)

/-- The posture of the section. -/
def supportability (q : AllocationQualification) : Json :=
  .obj
    [ ("status", .str (if q.clientPublicationAllowed then "ready" else "partial")),
      ("reason_code", .str q.reasonCode.text),
      ("message", .str q.reasonCode.statement) ]

/-- What the checks of the copy leave of the qualification. -/
def presentedQualification (q : AllocationQualification) (suppress malformed unknown : Bool) :
    AllocationQualification :=
  let q := if malformed && !suppress then
      { q with status := .invalid, reasonCode := .valuationInvalid } else q
  let q := { q with clientPublicationAllowed :=
    q.clientPublicationAllowed && (q.status == .complete && q.coverageComplete) }
  if unknown then
    let q := { q with clientPublicationAllowed := false }
    if q.status == .complete then
      { q with status := .partlyQualified, reasonCode := .numericUnavailable } else q
  else q

/-- The copy with its buckets presented, and whether one was malformed or had an unknown figure. -/
def presentedRows (snapshot original : Fields) : Fields × Bool × Bool :=
  presentSnapshotBuckets lib (capturedQualification lib snapshot original).2
    (.ofText? (bounded (get snapshot "portfolio_id"))) dimensionKeys original

/-- The copy of a captured allocation that is presented. -/
def presentAllocation (snapshot original : Fields) : Except Raised Fields := do
  let captured := capturedQualification lib snapshot original
  let rows := presentedRows lib snapshot original
  let contradictory ← contradictorySourceNumbers lib (get rows.1 "valuation_coverage")
    (get rows.1 "total_market_value_reporting_currency") rows.1
  let malformed := rows.2.1 || contradictory
  let presented := presentedQualification captured.1 captured.2 malformed rows.2.2
  let invalid := captured.1.status == .invalid || (malformed && !captured.2)
  let allocation := if invalid then suppressWeights rows.1 else rows.1
  return Json.assign (Json.assign allocation "supportability" (supportability presented))
    "qualification" presented.dump

/-- `snapshot_allocation`. -/
def snapshotAllocation (snapshot : Fields) (requested : Bool) : Except Raised Fields :=
  match Json.lookup snapshot "allocation" with
  | some (.obj (field :: fields)) => presentAllocation lib snapshot (field :: fields)
  | none => .ok (if requested then [("qualification", (unqualified false).dump)] else [])
  | some raw => .ok [("qualification",
      (unqualified (match raw with | .null | .obj _ => false | _ => true)).dump)]

end Presentation

section Rows

variable {lib : NumberLibrary} {suppress : Bool} {portfolioId : Json}

@[simp] theorem get_assign_self (fields : Fields) (name : String) (value : Json) :
    get (Json.assign fields name value) name = value :=
  get_of_lookup lookup_assign_self

theorem get_assign_of_ne {fields : Fields} {name other : String} {value : Json}
    (hne : other ≠ name) : get (Json.assign fields name value) other = get fields other :=
  congrArg (fun found : Option Json => found.getD Json.null) (lookup_assign_of_ne hne)

theorem get_eq_of_lookup {fields fields' : Fields} {name : String}
    (h : Json.lookup fields name = Json.lookup fields' name) : get fields name = get fields' name :=
  congrArg (fun found : Option Json => found.getD Json.null) h

theorem presentSnapshotRow_eq (row : Fields) : presentSnapshotRow lib suppress portfolioId row =
    (Json.assign (Json.assign (admittedBucket lib portfolioId row).1 "weight"
        (shownFigure lib suppress (get (admittedBucket lib portfolioId row).1 "weight")))
        "market_value"
        (shownFigure lib suppress (get (admittedBucket lib portfolioId row).1 "market_value")),
      (admittedBucket lib portfolioId row).2 ||
        !isFigure lib (get (admittedBucket lib portfolioId row).1 "weight") ||
        !isFigure lib (get (admittedBucket lib portfolioId row).1 "market_value"),
      shownFigure lib suppress (get (admittedBucket lib portfolioId row).1 "weight") == .null ||
        shownFigure lib suppress (get (admittedBucket lib portfolioId row).1 "market_value") ==
          .null) := by
  simp only [presentSnapshotRow, presentFigure]
  rw [get_assign_of_ne (by decide)]

/-- A well-formed bucket with a weight and a market value. -/
structure SoundBucket (lib : NumberLibrary) (portfolioId : Json) (row : Fields) : Prop where
  wellFormed : WellFormedBucket lib portfolioId row
  weighed : (allocationNumber lib (get row "weight")).isSome = true
  valued : (allocationNumber lib (get row "market_value")).isSome = true

theorem admittedBucket_iff {row : Fields} : (admittedBucket lib portfolioId row).2 = false ↔
    WellFormedBucket lib portfolioId row := by
  rw [← qualifyContributors_iff]
  unfold admittedBucket
  rcases qualifyContributors lib portfolioId row with ⟨admitted, _ | malformed⟩
  · exact iff_of_false (by rintro ⟨⟩) (by rintro ⟨⟩)
  · exact Option.some_inj.symm

theorem admittedBucket_wellFormed {row : Fields} (h : WellFormedBucket lib portfolioId row) :
    ∃ admitted, admittedBucket lib portfolioId row = (admitted, false) ∧
      (∀ name, Json.lookup admitted name = Json.lookup row name) ∧
      (Distinct row → admitted = row) := by
  obtain ⟨admitted, hadmitted, hsame⟩ := qualifyContributors_wellFormed h
  refine ⟨admitted, ?_, hsame⟩
  rw [admittedBucket, hadmitted]

theorem shownFigure_false_eq_null {raw : Json} :
    (shownFigure lib false raw == .null) = false ↔ (allocationNumber lib raw).isSome = true := by
  rw [shownFigure, if_neg Bool.false_ne_true, beq_eq_false_iff_ne]
  cases allocationNumber lib raw <;> simp [ofNumber]

/-- A bucket is well formed with known figures exactly if it is sound. -/
theorem presentSnapshotRow_iff {row : Fields} :
    (presentSnapshotRow lib false portfolioId row).2 = (false, false) ↔
      SoundBucket lib portfolioId row := by
  rw [presentSnapshotRow_eq, Prod.mk.injEq]
  simp only [Bool.or_eq_false_iff, shownFigure_false_eq_null, Bool.not_eq_false']
  constructor
  · rintro ⟨⟨⟨hadmitted, -⟩, -⟩, hweighed, hvalued⟩
    have hwell := admittedBucket_iff.mp hadmitted
    obtain ⟨admitted, heq, hsame, -⟩ := admittedBucket_wellFormed hwell
    rw [heq] at hweighed hvalued
    rw [get_eq_of_lookup (hsame _)] at hweighed hvalued
    exact ⟨hwell, hweighed, hvalued⟩
  · intro h
    obtain ⟨admitted, heq, hsame, -⟩ := admittedBucket_wellFormed h.wellFormed
    rw [heq, get_eq_of_lookup (hsame _), get_eq_of_lookup (hsame _)]
    have hweighed : isFigure lib (get row "weight") = true := by simp [isFigure, h.weighed]
    have hvalued : isFigure lib (get row "market_value") = true := by simp [isFigure, h.valued]
    exact ⟨⟨⟨rfl, hweighed⟩, hvalued⟩, h.weighed, h.valued⟩

end Rows

section Views

variable {lib : NumberLibrary} {suppress : Bool} {portfolioId : Json}

/-- A list of sound buckets that are grouped. -/
def SoundView (lib : NumberLibrary) (portfolioId : Json) (view : Json) : Prop :=
  ∃ rows, view = .arr rows ∧
    ∀ item ∈ rows, isGrouped item = true ∧ SoundBucket lib portfolioId (asDict item)

/-- Every view is sound. -/
def SoundAllocation (lib : NumberLibrary) (portfolioId : Json) (allocation : Fields) : Prop :=
  ∀ key ∈ dimensionKeys, ∀ view ∈ Json.lookup allocation key, SoundView lib portfolioId view

theorem presentView_iff {view : Json} :
    (presentView lib false portfolioId view).2 = (false, false) ↔
      SoundView lib portfolioId view := by
  unfold presentView SoundView
  cases view with
  | arr rows =>
      simp only [Prod.mk.injEq, Bool.or_eq_false_iff, List.any_eq_false, List.forall_mem_map,
        List.mem_filter, Json.arr.injEq, exists_eq_left', Bool.not_eq_true', Bool.not_eq_false]
      constructor
      · rintro ⟨⟨hgrouped, hmalformed⟩, hunknown⟩ item hitem
        refine ⟨hgrouped item hitem, presentSnapshotRow_iff.mp ?_⟩
        have hkept := And.intro hitem (hgrouped item hitem)
        exact Prod.ext (Bool.not_eq_true _ ▸ hmalformed item hkept)
          (Bool.not_eq_true _ ▸ hunknown item hkept)
      · intro h
        have hsound : ∀ item ∈ rows, (presentSnapshotRow lib false portfolioId (asDict item)).2 =
            (false, false) := fun item hitem => presentSnapshotRow_iff.mpr (h item hitem).2
        refine ⟨⟨fun item hitem => (h item hitem).1, fun item hitem => ?_⟩, fun item hitem => ?_⟩
        · rw [hsound item hitem.1]
          decide
        · rw [hsound item hitem.1]
          decide
  | _ => simp

/-- The view of each key is presented in its place, and every other field is kept. -/
theorem lookup_presentSnapshotBuckets {keys : List String} (hkeys : keys.Nodup)
    (allocation : Fields) (name : String) :
    Json.lookup (presentSnapshotBuckets lib suppress portfolioId keys allocation).1 name =
      if name ∈ keys then
        (Json.lookup allocation name).map fun view => (presentView lib suppress portfolioId view).1
      else Json.lookup allocation name := by
  induction keys generalizing allocation with
  | nil => rfl
  | cons key keys ih =>
      rw [List.nodup_cons] at hkeys
      rw [presentSnapshotBuckets]
      cases hview : Json.lookup allocation key with
      | none =>
          rw [ih hkeys.2]
          by_cases hname : name = key
          · rw [hname, if_neg hkeys.1, if_pos List.mem_cons_self, hview]
            rfl
          · simp only [List.mem_cons, hname, false_or]
      | some view =>
          dsimp only
          rw [ih hkeys.2]
          by_cases hname : name = key
          · rw [hname, if_neg hkeys.1, if_pos List.mem_cons_self, hview, lookup_assign_self]
            rfl
          · simp only [List.mem_cons, hname, false_or, lookup_assign_of_ne hname]

theorem presentSnapshotBuckets_iff {keys : List String} (hkeys : keys.Nodup)
    (allocation : Fields) :
    (presentSnapshotBuckets lib false portfolioId keys allocation).2 = (false, false) ↔
      ∀ key ∈ keys, ∀ view ∈ Json.lookup allocation key, SoundView lib portfolioId view := by
  induction keys generalizing allocation with
  | nil => simp [presentSnapshotBuckets]
  | cons key keys ih =>
      rw [List.nodup_cons] at hkeys
      rw [presentSnapshotBuckets, List.forall_mem_cons]
      cases hview : Json.lookup allocation key with
      | none => simp [ih hkeys.2]
      | some view =>
          have hrest : ∀ shown : Json, (∀ key' ∈ keys,
              ∀ view' ∈ Json.lookup (Json.assign allocation key shown) key',
                SoundView lib portfolioId view') ↔
              ∀ key' ∈ keys, ∀ view' ∈ Json.lookup allocation key',
                SoundView lib portfolioId view' := by
            intro shown
            refine forall₂_congr fun key' hkey' => ?_
            have hne : key' ≠ key := fun heq => hkeys.1 (heq ▸ hkey')
            rw [lookup_assign_of_ne hne]
          simp only [Option.mem_def, Option.some.injEq, forall_eq'] at ih hrest ⊢
          rw [← hrest (presentView lib false portfolioId view).1, ← ih hkeys.2, ← presentView_iff]
          simp only [Prod.ext_iff, Bool.or_eq_false_iff]
          exact and_and_and_comm

end Views

section Publication

variable {lib : NumberLibrary} {portfolioId : Json} {allocation : Fields}

/-- The value is a number that is zero. -/
def IsZero (lib : NumberLibrary) (value : Json) : Prop :=
  ∃ text, allocationNumber lib value = some text ∧ lib.floatValue text = .finite 0

/-- The totals of the views, which are absent or a dictionary. -/
def viewTotalsOf (allocation : Fields) : Option (List Json) :=
  match (Json.lookup allocation "view_totals").getD (.obj []) with
  | .obj viewTotals => some (viewTotals.map Prod.snd)
  | _ => none

/-- The total of an allocation and those of its views. -/
def totalsOf (allocation : Fields) : Option (List Json) :=
  (viewTotalsOf allocation).map fun viewTotals =>
    get allocation "total_market_value_reporting_currency" :: viewTotals

/-- The numbers of an allocation are those of its covered state. -/
structure NumbersAgree (lib : NumberLibrary) (state : CoverageState) (allocation : Fields) :
    Prop where
  viewed : ∃ key ∈ dimensionKeys, (Json.lookup allocation key).isSome = true
  filled : ∀ key ∈ dimensionKeys, (Json.lookup allocation key).isSome = true →
    (bucketsAt allocation key = [] ↔ state = .loadedEmpty)
  totals : ∃ totals, totalsOf allocation = some totals ∧
    (∀ total ∈ totals, (allocationNumber lib total).isSome = true) ∧
    (state = .measuredZero ∨ state = .loadedEmpty → ∀ total ∈ totals, IsZero lib total)
  values : state = .measuredZero ∨ state = .loadedEmpty →
    ∀ row ∈ bucketsOf allocation, IsZero lib (get row "market_value")

theorem nonzero_ofNumber {number : Option String} : nonzero lib (ofNumber number) = false ↔
    ∃ text, number = some text ∧ lib.floatValue text = .finite 0 := by
  rw [nonzero, Bool.not_eq_false']
  cases number with
  | none => simp [ofNumber]
  | some text =>
      have hvalue : numberOf lib.floatValue (ofNumber (some text)) =
          some (lib.floatValue text) := rfl
      rw [pyEq_of_number hvalue, numbersEq, hvalue]
      show (lib.floatValue text).eq (.finite ((0 : Int) : ℚ)) = true ↔ _
      rw [FloatValue.eq_iff, Int.cast_zero]
      constructor
      · rintro ⟨heq, -⟩
        exact ⟨text, rfl, heq⟩
      · rintro ⟨_, htext, heq⟩
        cases htext
        rw [heq]
        exact ⟨rfl, by simp⟩

theorem numberNonzero_iff {value : Json} :
    numberNonzero lib value = false ↔ IsZero lib value := nonzero_ofNumber

theorem text_eq_loadedEmpty (state : CoverageState) :
    (state.text == "LOADED_EMPTY") = decide (state = .loadedEmpty) := by
  cases state <;> rfl

theorem zero_states (state : CoverageState) :
    ["MEASURED_ZERO", "LOADED_EMPTY"].contains state.text =
      decide (state = .measuredZero ∨ state = .loadedEmpty) := by
  cases state <;> rfl

theorem get_presented_value {row : Fields} (h : SoundBucket lib portfolioId row) :
    get (presentSnapshotRow lib false portfolioId row).1 "market_value" =
      ofNumber (allocationNumber lib (get row "market_value")) := by
  obtain ⟨admitted, heq, hsame, -⟩ := admittedBucket_wellFormed h.wellFormed
  rw [presentSnapshotRow_eq, get_assign_self, heq, get_eq_of_lookup (hsame _)]
  rfl

theorem presentView_sound {view : Json} (h : SoundView lib portfolioId view) :
    ∃ rows, view = .arr rows ∧ (presentView lib false portfolioId view).1 =
      .arr (rows.map fun row =>
        .obj (presentSnapshotRow lib false portfolioId (asDict row)).1) := by
  obtain ⟨rows, rfl, hall⟩ := h
  have hkept : rows.filter isGrouped = rows :=
    List.filter_eq_self.mpr fun row hrow => (hall row hrow).1
  refine ⟨rows, rfl, ?_⟩
  simp only [presentView, hkept, List.map_map]
  rfl

theorem nodup_dimensionKeys : dimensionKeys.Nodup := by decide

theorem bucketsAt_presented (h : SoundAllocation lib portfolioId allocation) {key : String}
    (hkey : key ∈ dimensionKeys) :
    bucketsAt (presentSnapshotBuckets lib false portfolioId dimensionKeys allocation).1 key =
      (bucketsAt allocation key).map fun row =>
        (presentSnapshotRow lib false portfolioId row).1 := by
  unfold bucketsAt
  show bucketsIn ((Json.lookup _ key).getD .null) = _
  rw [lookup_presentSnapshotBuckets nodup_dimensionKeys, if_pos hkey]
  cases hview : Json.lookup allocation key with
  | none =>
      have hnull : get allocation key = .null := get_of_lookup_eq_none hview
      rw [hnull]
      rfl
  | some view =>
      have hsame : get allocation key = view := get_of_lookup hview
      obtain ⟨rows, hrows, hshown⟩ := presentView_sound (h key hkey view hview)
      rw [hsame, hrows, Option.map_some, ← hrows, hshown, hrows]
      simp only [Option.getD_some, bucketsIn, List.map_map]
      rfl

theorem bucketsOf_presented (h : SoundAllocation lib portfolioId allocation) :
    bucketsOf (presentSnapshotBuckets lib false portfolioId dimensionKeys allocation).1 =
      (bucketsOf allocation).map fun row => (presentSnapshotRow lib false portfolioId row).1 := by
  unfold bucketsOf
  rw [List.map_flatMap]
  exact List.flatMap_congr fun key hkey => bucketsAt_presented h hkey

theorem sound_of_mem_bucketsOf (h : SoundAllocation lib portfolioId allocation) {row : Fields}
    (hrow : row ∈ bucketsOf allocation) :
    SoundBucket lib portfolioId row := by
  obtain ⟨key, hkey, hmem⟩ := List.mem_flatMap.mp hrow
  unfold bucketsAt at hmem
  cases hview : Json.lookup allocation key with
  | none =>
      have hnull : get allocation key = .null := get_of_lookup_eq_none hview
      rw [hnull] at hmem
      cases hmem
  | some view =>
      have hsame : get allocation key = view := get_of_lookup hview
      obtain ⟨rows, rfl, hall⟩ := h key hkey view hview
      rw [hsame] at hmem
      obtain ⟨item, hitem, rfl⟩ := List.mem_map.mp hmem
      exact (hall item hitem).2

theorem isSome_presented {key : String} (hkey : key ∈ dimensionKeys) :
    (Json.lookup (presentSnapshotBuckets lib false portfolioId dimensionKeys allocation).1
      key).isSome = (Json.lookup allocation key).isSome := by
  rw [lookup_presentSnapshotBuckets nodup_dimensionKeys, if_pos hkey, Option.isSome_map]

theorem ofNumber_eq_null {number : Option String} : ofNumber number = .null ↔ number = none := by
  cases number <;> simp [ofNumber]

/-- Two checks and a third that depends on the case. -/
theorem checks_eq_false (a b c d : Bool) (p : Prop) [Decidable p] :
    (if a = true then true else if b = true then true else if decide p = true then c else d) =
        false ↔
      a = false ∧ b = false ∧ if p then c = false else d = false := by
  by_cases hp : p <;> cases a <;> cases b <;> simp [hp]

theorem contradictoryCoveredNumbers_eq_false {state : CoverageState} {totals : List Json} :
    contradictoryCoveredNumbers lib state.text allocation totals = false ↔
      ((∃ key ∈ dimensionKeys, (Json.lookup allocation key).isSome = true) ∧
        ∀ key ∈ dimensionKeys, (Json.lookup allocation key).isSome = true →
          (bucketsAt allocation key = [] ↔ state = .loadedEmpty)) ∧
      (∀ total ∈ totals, (allocationNumber lib total).isSome = true) ∧
      if state = .measuredZero ∨ state = .loadedEmpty then
        (∀ total ∈ totals, IsZero lib total) ∧
          ∀ row ∈ bucketsOf allocation, nonzero lib (get row "market_value") = false
      else ∀ row ∈ bucketsOf allocation, get row "market_value" ≠ .null := by
  have hviews : ((dimensionKeys.filter fun key => (Json.lookup allocation key).isSome).isEmpty ||
      (dimensionKeys.filter fun key => (Json.lookup allocation key).isSome).any fun key =>
        !(bucketsAt allocation key).isEmpty == (state.text == "LOADED_EMPTY")) = false ↔
      (∃ key ∈ dimensionKeys, (Json.lookup allocation key).isSome = true) ∧
        ∀ key ∈ dimensionKeys, (Json.lookup allocation key).isSome = true →
          (bucketsAt allocation key = [] ↔ state = .loadedEmpty) := by
    rw [Bool.or_eq_false_iff, List.isEmpty_eq_false_iff, List.any_eq_false, text_eq_loadedEmpty]
    apply and_congr
    · rw [Ne, List.filter_eq_nil_iff]
      push Not
      exact Iff.rfl
    · simp only [List.mem_filter, and_imp]
      refine forall₃_congr fun key _ _ => ?_
      rw [← List.isEmpty_iff]
      by_cases hempty : (bucketsAt allocation key).isEmpty = true <;>
        by_cases hstate : state = .loadedEmpty <;> simp [hempty, hstate]
  have htotals : (totals.any fun value => (allocationNumber lib value).isNone) = false ↔
      ∀ total ∈ totals, (allocationNumber lib total).isSome = true := by
    rw [List.any_eq_false]
    refine forall₂_congr fun total _ => ?_
    cases allocationNumber lib total <;> simp
  have hzero : (totals.any (numberNonzero lib) ||
      (bucketsOf allocation).any fun row => nonzero lib (get row "market_value")) = false ↔
      (∀ total ∈ totals, IsZero lib total) ∧
        ∀ row ∈ bucketsOf allocation, nonzero lib (get row "market_value") = false := by
    simp only [Bool.or_eq_false_iff, List.any_eq_false, Bool.not_eq_true, numberNonzero_iff]
  have hvalued : ((bucketsOf allocation).any fun row => get row "market_value" == .null) = false ↔
      ∀ row ∈ bucketsOf allocation, get row "market_value" ≠ .null := by
    simp only [List.any_eq_false, beq_iff_eq, Ne]
  rw [← hviews, ← htotals, ← hzero, ← hvalued, contradictoryCoveredNumbers, zero_states]
  exact checks_eq_false _ _ _ _ _

/-- The numbers of a sound allocation that is presented do not contradict a covered state exactly if
those captured agree with it. -/
theorem contradictoryCoveredNumbers_iff {state : CoverageState} {totals : List Json}
    (h : SoundAllocation lib portfolioId allocation) (htotals : totalsOf allocation = some totals) :
    contradictoryCoveredNumbers lib state.text
        (presentSnapshotBuckets lib false portfolioId dimensionKeys allocation).1 totals = false ↔
      NumbersAgree lib state allocation := by
  have hviewed : ∀ key ∈ dimensionKeys,
      ((Json.lookup (presentSnapshotBuckets lib false portfolioId dimensionKeys allocation).1
        key).isSome = true ↔ (Json.lookup allocation key).isSome = true) :=
    fun key hkey => by rw [isSome_presented hkey]
  have hempty : ∀ key ∈ dimensionKeys,
      (bucketsAt (presentSnapshotBuckets lib false portfolioId dimensionKeys allocation).1 key =
        [] ↔ bucketsAt allocation key = []) :=
    fun key hkey => by rw [bucketsAt_presented h hkey, List.map_eq_nil_iff]
  have hvalue : ∀ row ∈ bucketsOf allocation,
      get (presentSnapshotRow lib false portfolioId row).1 "market_value" =
        ofNumber (allocationNumber lib (get row "market_value")) :=
    fun row hrow => get_presented_value (sound_of_mem_bucketsOf h hrow)
  rw [contradictoryCoveredNumbers_eq_false, bucketsOf_presented h]
  simp only [List.forall_mem_map]
  constructor
  · rintro ⟨⟨⟨key, hkey, hsome⟩, hfilled⟩, hstated, hzero⟩
    refine ⟨⟨key, hkey, (hviewed key hkey).mp hsome⟩, ?_, ⟨totals, htotals, hstated, ?_⟩, ?_⟩
    · intro key hkey hsome
      rw [← hempty key hkey]
      exact hfilled key hkey ((hviewed key hkey).mpr hsome)
    · intro hstate
      rw [if_pos hstate] at hzero
      exact hzero.1
    · intro hstate row hrow
      rw [if_pos hstate] at hzero
      have hrowZero := hzero.2 row hrow
      rw [hvalue row hrow] at hrowZero
      exact nonzero_ofNumber.mp hrowZero
  · rintro ⟨⟨key, hkey, hsome⟩, hfilled, ⟨totals', htotals', hstated, hzero⟩, hvalues⟩
    rw [htotals] at htotals'
    cases htotals'
    refine ⟨⟨⟨key, hkey, (hviewed key hkey).mpr hsome⟩, ?_⟩, hstated, ?_⟩
    · intro key hkey hsome
      rw [hempty key hkey]
      exact hfilled key hkey ((hviewed key hkey).mp hsome)
    · by_cases hstate : state = .measuredZero ∨ state = .loadedEmpty
      · rw [if_pos hstate]
        refine ⟨hzero hstate, fun row hrow => ?_⟩
        rw [hvalue row hrow]
        exact nonzero_ofNumber.mpr (hvalues hstate row hrow)
      · rw [if_neg hstate]
        intro row hrow
        rw [hvalue row hrow, Ne, ofNumber_eq_null]
        have hsome := (sound_of_mem_bucketsOf h hrow).valued
        intro hnone
        rw [hnone] at hsome
        cases hsome

/-- A presentation publishes: the qualification allows it, and the section is ready. -/
def Publishes (outcome : Except Raised Fields) : Prop :=
  ∃ shown, outcome = .ok shown ∧
    get (asDict (get shown "qualification")) "client_publication_allowed" = .bool true ∧
    get (asDict (get shown "supportability")) "status" = .str "ready"

/-- A captured allocation that may be published: its qualification is valid, allows it and is bound
to the snapshot, every bucket is sound, and the numbers are those of the covered state. -/
def Publishable (lib : NumberLibrary) (snapshot : Fields) : Prop :=
  ∃ original q c, Json.lookup snapshot "allocation" = some (.obj original) ∧
    AllocationQualification.validate (get original "qualification") = .ok q ∧
    q.clientPublicationAllowed = true ∧ isBound lib snapshot original q = true ∧
    q.coverage = some c ∧
    SoundAllocation lib (.ofText? (bounded (get snapshot "portfolio_id"))) original ∧
    NumbersAgree lib c.coverageState original

theorem presentedQualification_unknown (q : AllocationQualification) (suppress malformed : Bool) :
    (presentedQualification q suppress malformed true).clientPublicationAllowed = false := by
  unfold presentedQualification
  dsimp only
  rw [if_pos rfl]
  split <;> split <;> rfl

/-- The presented qualification allows publication where nothing was found and only there. -/
theorem presentedQualification_allowed {q : AllocationQualification} {malformed unknown : Bool} :
    (presentedQualification q false malformed unknown).clientPublicationAllowed = true ↔
      q.clientPublicationAllowed = true ∧ q.status = .complete ∧ q.coverageComplete = true ∧
        malformed = false ∧ unknown = false := by
  cases unknown with
  | true => simp [presentedQualification_unknown]
  | false => cases malformed <;> simp [presentedQualification]

/-- Without a bound qualification nothing is published. -/
theorem presentedQualification_unqualified (present malformed unknown : Bool) :
    (presentedQualification (unqualified present) true malformed unknown).clientPublicationAllowed =
      false := by
  cases unknown with
  | true => exact presentedQualification_unknown _ _ _
  | false => cases present <;> simp [presentedQualification, unqualified]

theorem coverage_of_bound {snapshot : Fields} {q : AllocationQualification}
    (hbound : isBound lib snapshot allocation q = true) (hcomplete : q.coverageComplete = true) :
    ∃ c, q.coverage = some c ∧ c.coverageState ∈ publishableStates ∧
      get (asDict (get allocation "valuation_coverage")) "coverage_state" =
        .str c.coverageState.text := by
  cases hc : q.coverage with
  | none => simp [AllocationQualification.coverageComplete, hc] at hcomplete
  | some c =>
  have hstate : c.coverageState ∈ publishableStates := by
    simpa [AllocationQualification.coverageComplete, hc] using hcomplete
  unfold isBound at hbound
  rw [hc, Bool.and_eq_true, Option.all_some] at hbound
  have hdumped : Json.lookup (asDict c.dump) "coverage_state" =
      some (.str c.coverageState.text) := rfl
  obtain ⟨fields, value, hfields, hvalue, heq⟩ := pyEq_lookup hbound.2 hdumped
  refine ⟨c, rfl, hstate, ?_⟩
  rw [hfields]
  exact (get_of_lookup hvalue).trans (pyEq_str_right.mp heq)

theorem contradictorySourceNumbers_publishable {coverage : Json} (total : Json)
    {state : CoverageState} (hstate : state ∈ publishableStates)
    (hcoverage : get (asDict coverage) "coverage_state" = .str state.text) :
    contradictorySourceNumbers lib coverage total allocation =
      .ok ((viewTotalsOf allocation).elim true fun viewTotals =>
        contradictoryCoveredNumbers lib state.text allocation (total :: viewTotals)) := by
  unfold contradictorySourceNumbers viewTotalsOf
  rw [hcoverage]
  dsimp only
  cases (Json.lookup allocation "view_totals").getD (.obj []) with
  | obj viewTotals =>
      dsimp only
      rw [if_neg (show ¬(!hashable (.str state.text)) = true from Bool.false_ne_true)]
      simp only [publishableStates, List.mem_cons, List.not_mem_nil, or_false] at hstate
      rcases hstate with rfl | rfl | rfl <;> rfl
  | _ => rfl

theorem publishes_presentAllocation {snapshot original : Fields} :
    Publishes (presentAllocation lib snapshot original) ↔
      ∃ contradictory, contradictorySourceNumbers lib
          (get (presentedRows lib snapshot original).1 "valuation_coverage")
          (get (presentedRows lib snapshot original).1 "total_market_value_reporting_currency")
          (presentedRows lib snapshot original).1 = .ok contradictory ∧
        (presentedQualification (capturedQualification lib snapshot original).1
          (capturedQualification lib snapshot original).2
          ((presentedRows lib snapshot original).2.1 || contradictory)
          (presentedRows lib snapshot original).2.2).clientPublicationAllowed = true := by
  constructor
  · rintro ⟨shown, hshown, hallowed, -⟩
    obtain ⟨contradictory, hcontradictory, hdone⟩ := bind_eq_ok.mp hshown
    refine ⟨contradictory, hcontradictory, ?_⟩
    cases hdone
    rw [get_assign_self] at hallowed
    exact Json.bool.inj hallowed
  · rintro ⟨contradictory, hcontradictory, hallowed⟩
    refine ⟨_, bind_eq_ok.mpr ⟨contradictory, hcontradictory, rfl⟩, ?_, ?_⟩
    · rw [get_assign_self]
      exact congrArg Json.bool hallowed
    · rw [get_assign_of_ne (by decide), get_assign_self]
      exact congrArg Json.str (if_pos hallowed)

theorem presentedRows_bound {snapshot original : Fields} {q : AllocationQualification}
    (h : capturedQualification lib snapshot original = (q, false)) :
    presentedRows lib snapshot original = presentSnapshotBuckets lib false
      (.ofText? (bounded (get snapshot "portfolio_id"))) dimensionKeys original := by
  rw [presentedRows, h]

theorem get_presentedRows {snapshot original : Fields} {name : String}
    (hname : name ∉ dimensionKeys) :
    get (presentedRows lib snapshot original).1 name = get original name := by
  apply get_eq_of_lookup
  rw [presentedRows, lookup_presentSnapshotBuckets nodup_dimensionKeys, if_neg hname]

theorem viewTotalsOf_presentedRows (lib : NumberLibrary) (snapshot original : Fields) :
    viewTotalsOf (presentedRows lib snapshot original).1 = viewTotalsOf original := by
  unfold viewTotalsOf
  rw [presentedRows, lookup_presentSnapshotBuckets nodup_dimensionKeys, if_neg (by decide)]

/-- The check finds no contradiction in a sound presented copy exactly if the captured numbers
agree. -/
theorem contradictory_presented_iff {snapshot original : Fields} {q : AllocationQualification}
    {state : CoverageState} (hcaptured : capturedQualification lib snapshot original = (q, false))
    (hstate : state ∈ publishableStates)
    (hcoverage : get (asDict (get original "valuation_coverage")) "coverage_state" =
      .str state.text)
    (hsound : SoundAllocation lib (.ofText? (bounded (get snapshot "portfolio_id"))) original) :
    contradictorySourceNumbers lib
        (get (presentedRows lib snapshot original).1 "valuation_coverage")
        (get (presentedRows lib snapshot original).1 "total_market_value_reporting_currency")
        (presentedRows lib snapshot original).1 = .ok false ↔
      NumbersAgree lib state original := by
  rw [get_presentedRows (by decide), get_presentedRows (by decide),
    contradictorySourceNumbers_publishable _ hstate hcoverage, viewTotalsOf_presentedRows]
  cases htotals : viewTotalsOf original with
  | none =>
      refine iff_of_false (by rintro ⟨⟩) fun hagree => ?_
      obtain ⟨totals, hsome, -⟩ := hagree.totals
      rw [totalsOf, htotals] at hsome
      cases hsome
  | some totals =>
      rw [Option.elim_some, Except.ok.injEq, presentedRows_bound hcaptured]
      refine contradictoryCoveredNumbers_iff hsound ?_
      rw [totalsOf, htotals]
      rfl

/-- A captured allocation is published exactly if its qualification is valid, allows it and is
bound, its buckets are sound and its numbers agree. -/
theorem publishes_presentAllocation_iff {snapshot original : Fields} :
    Publishes (presentAllocation lib snapshot original) ↔
      ∃ q c, AllocationQualification.validate (get original "qualification") = .ok q ∧
        q.clientPublicationAllowed = true ∧ isBound lib snapshot original q = true ∧
        q.coverage = some c ∧
        SoundAllocation lib (.ofText? (bounded (get snapshot "portfolio_id"))) original ∧
        NumbersAgree lib c.coverageState original := by
  rw [publishes_presentAllocation]
  cases hread : AllocationQualification.validate (get original "qualification") with
  | error e =>
      have hcaptured : capturedQualification lib snapshot original =
          (unqualified (get original "qualification" != .null), true) := by
        rw [capturedQualification, hread]
      simp [hcaptured, presentedQualification_unqualified]
  | ok q =>
      by_cases hbound : isBound lib snapshot original q = true
      · have hcaptured : capturedQualification lib snapshot original = (q, false) := by
          rw [capturedQualification, hread]
          exact if_pos hbound
        have hvalid := AllocationQualification.valid_of_validate hread
        have hsound : (presentedRows lib snapshot original).2 = (false, false) ↔
            SoundAllocation lib (.ofText? (bounded (get snapshot "portfolio_id"))) original := by
          rw [presentedRows_bound hcaptured]
          exact presentSnapshotBuckets_iff nodup_dimensionKeys original
        simp only [hcaptured, presentedQualification_allowed, Except.ok.injEq, Bool.or_eq_false_iff]
        constructor
        · rintro ⟨contradictory, hcheck, hallowed, -, hcomplete, ⟨hmalformed, rfl⟩, hunknown⟩
          obtain ⟨c, hc, hstate, hcoverage⟩ := coverage_of_bound hbound hcomplete
          have hrows := hsound.mp (Prod.ext hmalformed hunknown)
          exact ⟨q, c, rfl, hallowed, hbound, hc, hrows,
            (contradictory_presented_iff hcaptured hstate hcoverage hrows).mp hcheck⟩
        · rintro ⟨_, c, rfl, hallowed, -, hc, hrows, hagree⟩
          obtain ⟨hstatus, hcomplete, -⟩ := hvalid.allowed hallowed
          obtain ⟨c', hc', hstate, hcoverage⟩ := coverage_of_bound hbound hcomplete
          cases hc.symm.trans hc'
          have hclean := Prod.mk.inj (hsound.mpr hrows)
          exact ⟨false, (contradictory_presented_iff hcaptured hstate hcoverage hrows).mpr hagree,
            hallowed, hstatus, hcomplete, ⟨hclean.1, rfl⟩, hclean.2⟩
      · have hcaptured : capturedQualification lib snapshot original =
            (unqualified true, true) := by
          rw [capturedQualification, hread]
          exact if_neg hbound
        simp [hcaptured, presentedQualification_unqualified, hbound]

theorem not_publishes_unqualified (present : Bool) :
    ¬Publishes (.ok [("qualification", (unqualified present).dump)]) := by
  rintro ⟨shown, hshown, hallowed, -⟩
  cases hshown
  cases present <;> cases hallowed

/-- A package publishes an allocation exactly if the captured qualification is valid, allows it and
is bound to the portfolio, the date, the currency and the coverage of the snapshot, every bucket is
well formed with a weight and a market value, and the numbers are those of the covered state. -/
theorem snapshotAllocation_publishes_iff (lib : NumberLibrary) (snapshot : Fields)
    (requested : Bool) :
    Publishes (snapshotAllocation lib snapshot requested) ↔ Publishable lib snapshot := by
  unfold snapshotAllocation Publishable
  cases hraw : Json.lookup snapshot "allocation" with
  | none =>
      refine iff_of_false ?_ (by rintro ⟨original, q, c, ⟨⟩, -⟩)
      cases requested with
      | true => exact not_publishes_unqualified false
      | false =>
          rintro ⟨shown, hshown, hallowed, -⟩
          cases hshown
          cases hallowed
  | some raw =>
      cases raw with
      | obj fields =>
          cases fields with
          | nil =>
              refine iff_of_false (not_publishes_unqualified false) ?_
              rintro ⟨original, q, c, hsome, hread, -⟩
              cases hsome
              cases hread
          | cons field fields =>
              rw [publishes_presentAllocation_iff]
              constructor
              · rintro ⟨q, c, h⟩
                exact ⟨_, q, c, rfl, h⟩
              · rintro ⟨original, q, c, hsome, h⟩
                cases hsome
                exact ⟨q, c, h⟩
      | _ =>
          refine iff_of_false (not_publishes_unqualified _) ?_
          rintro ⟨original, q, c, hsome, -⟩
          cases hsome

end Publication

end LotusReport.Allocation
