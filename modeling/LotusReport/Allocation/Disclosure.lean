import LotusReport.Allocation.Presentation
import LotusReport.Encoding.Disclosure

/-!
# What a presented allocation discloses

Whatever the retained snapshot holds, its presentation shows what was captured: every field is
the captured one, its number, or nothing. No weight is shown where the qualification is invalid,
and no figure where the qualification does not bind the snapshot.
-/

namespace LotusReport.Allocation

open Encoding Json Transactions Fallible

section Rows

variable {lib : NumberLibrary} {suppress : Bool} {portfolioId : Json}

/-- A figure is restated by its number. -/
def Restates (lib : NumberLibrary) (captured shown : Json) : Prop :=
  ∃ text, allocationNumber lib captured = some text ∧ shown = .float text

theorem discloses_shownFigure (raw : Json) :
    Discloses (Restates lib) raw (shownFigure lib suppress raw) := by
  unfold shownFigure
  split
  · exact .withheld raw
  · cases hnumber : allocationNumber lib raw with
    | none => exact .withheld raw
    | some text => exact .restated ⟨text, hnumber, rfl⟩

theorem discloses_admitField {holds : Json → Bool} {captured fields : Fields}
    (h : DisclosesFields (Restates lib) captured fields) (name : String) :
    DisclosesFields (Restates lib) captured (admitField holds fields name).1 := by
  unfold admitField
  split
  · split
    · exact h
    · exact h.withhold name
  · exact h

theorem discloses_admitFields {holds : Json → Bool} {captured fields : Fields}
    (h : DisclosesFields (Restates lib) captured fields) (names : List String) :
    DisclosesFields (Restates lib) captured (admitFields holds names fields).1 := by
  induction names generalizing fields with
  | nil => exact h
  | cons name names ih => exact ih (discloses_admitField h name)

theorem admitContributors_eq {items : List Json} {kept : List Json × Bool}
    (h : admitContributors lib portfolioId items = some kept) :
    kept.1 = (items.filter fun item => (dict? item).isSome).map fun item =>
      .obj (admitFields (isFigure lib) contributorFigures (asDict item)).1 := by
  induction items generalizing kept with
  | nil =>
      cases h
      rfl
  | cons item items ih =>
      cases item with
      | obj contributor =>
          rw [admitContributors] at h
          split at h
          · cases h
          · obtain ⟨rest, hrest, rfl⟩ := Option.map_eq_some_iff.mp h
            rw [List.filter_cons_of_pos rfl, List.map_cons, ← ih hrest]
            rfl
      | _ =>
          obtain ⟨rest, hrest, rfl⟩ := Option.map_eq_some_iff.mp h
          have hkept := ih hrest
          exact hkept

theorem discloses_admitContributors {items : List Json} {kept : List Json × Bool}
    (h : admitContributors lib portfolioId items = some kept) :
    Discloses (Restates lib) (.arr items) (.arr kept.1) := by
  rw [admitContributors_eq h]
  refine discloses_filter_map fun item _ hitem => ?_
  cases item with
  | obj contributor => exact .fields (discloses_admitFields (.refl contributor) contributorFigures)
  | _ => cases hitem

theorem lookup_counted {row : Fields} {name : String} (hname : name ∉ countFields) :
    lookup (admitBucketCounts row).1 name = lookup row name :=
  lookup_admitFields_of_not_mem hname

/-- The contributors of a bucket are disclosed as they are admitted. -/
theorem discloses_qualifyContributors (lib : NumberLibrary) (portfolioId : Json) (row : Fields) :
    DisclosesFields (Restates lib) row (qualifyContributors lib portfolioId row).1 := by
  have hcounted : DisclosesFields (Restates lib) row (admitBucketCounts row).1 :=
    discloses_admitFields (.refl row) countFields
  have hsame : lookup (admitBucketCounts row).1 "contributors" = lookup row "contributors" :=
    lookup_counted (by decide)
  unfold qualifyContributors
  dsimp only
  rw [hsame]
  cases hvalue : lookup row "contributors" with
  | none => exact discloses_admitField hcounted residualField
  | some value =>
      have hcaptured : (lookup row "contributors").getD .null = value := by
        rw [hvalue, Option.getD_some]
      cases value with
      | arr items =>
          dsimp only
          cases hadmitted : admitContributors lib portfolioId items with
          | none => exact hcounted
          | some kept =>
              refine discloses_admitField (hcounted.assign ?_) residualField
              rw [hcaptured]
              exact discloses_admitContributors hadmitted
      | _ => exact hcounted.assign (.emptied _)

/-- The field of an admitted bucket is the captured one where nothing admits it. -/
theorem lookup_qualifyContributors {row : Fields} {name : String} (hcount : name ∉ countFields)
    (hcontributors : name ≠ "contributors") (hresidual : name ≠ residualField) :
    lookup (qualifyContributors lib portfolioId row).1 name = lookup row name := by
  have hcounted : lookup (admitBucketCounts row).1 name = lookup row name := lookup_counted hcount
  unfold qualifyContributors
  dsimp only
  split
  · exact (lookup_admitField_of_ne hresidual).trans hcounted
  · split
    · exact hcounted
    · rw [lookup_admitField_of_ne hresidual, lookup_assign_of_ne hcontributors]
      exact hcounted
  · rw [lookup_assign_of_ne hcontributors]
    exact hcounted

theorem discloses_admittedBucket (lib : NumberLibrary) (portfolioId : Json) (row : Fields) :
    DisclosesFields (Restates lib) row (admittedBucket lib portfolioId row).1 := by
  have hqualified := discloses_qualifyContributors lib portfolioId row
  unfold admittedBucket
  generalize qualifyContributors lib portfolioId row = qualified at hqualified ⊢
  rcases qualified with ⟨admitted, _ | malformed⟩
  · have hemptied : DisclosesFields (Restates lib) row
        (Json.assign admitted "contributors" (.arr [])) := hqualified.assign (.emptied _)
    exact (hemptied.withhold "weight").withhold "market_value"
  · exact hqualified

/-- A figure of an admitted bucket is the captured one, or withheld. -/
theorem get_admittedBucket (lib : NumberLibrary) (portfolioId : Json) {row : Fields}
    {name : String} (hcount : name ∉ countFields) (hcontributors : name ≠ "contributors")
    (hresidual : name ≠ residualField) :
    get (admittedBucket lib portfolioId row).1 name = get row name ∨
      get (admittedBucket lib portfolioId row).1 name = .null := by
  have hsame : get (qualifyContributors lib portfolioId row).1 name = get row name :=
    get_eq_of_lookup (lookup_qualifyContributors hcount hcontributors hresidual)
  unfold admittedBucket
  generalize qualifyContributors lib portfolioId row = qualified at hsame ⊢
  rcases qualified with ⟨admitted, _ | malformed⟩
  · dsimp only at hsame ⊢
    by_cases hvalue : name = "market_value"
    · rw [hvalue, get_assign_self]
      exact Or.inr rfl
    · rw [get_assign_of_ne hvalue]
      by_cases hweight : name = "weight"
      · rw [hweight, get_assign_self]
        exact Or.inr rfl
      · rw [get_assign_of_ne hweight, get_assign_of_ne hcontributors]
        exact Or.inl hsame
  · exact Or.inl hsame

theorem discloses_admittedFigure {row : Fields} {name : String} (hcount : name ∉ countFields)
    (hcontributors : name ≠ "contributors") (hresidual : name ≠ residualField) :
    Discloses (Restates lib) (get row name)
      (shownFigure lib suppress (get (admittedBucket lib portfolioId row).1 name)) := by
  rcases get_admittedBucket lib portfolioId hcount hcontributors hresidual with hsame | hnull
  · rw [hsame]
    exact discloses_shownFigure _
  · have hnone : shownFigure lib suppress .null = .null := by
      cases suppress <;> rfl
    rw [hnull, hnone]
    exact .withheld _

theorem discloses_presentSnapshotRow (row : Fields) :
    DisclosesFields (Restates lib) row (presentSnapshotRow lib suppress portfolioId row).1 := by
  rw [presentSnapshotRow_eq]
  have hadmitted := discloses_admittedBucket lib portfolioId row
  exact (hadmitted.assign (discloses_admittedFigure (by decide) (by decide) (by decide))).assign
    (discloses_admittedFigure (by decide) (by decide) (by decide))

end Rows

section Views

variable {lib : NumberLibrary} {suppress : Bool} {portfolioId : Json}

/-- The presented view, without its weights where they are withheld. -/
def finalView (lib : NumberLibrary) (suppress invalid : Bool) (portfolioId view : Json) : Json :=
  if invalid then weightless (presentView lib suppress portfolioId view).1
  else (presentView lib suppress portfolioId view).1

theorem isGrouped_obj {item : Json} (h : isGrouped item = true) : item = .obj (asDict item) := by
  cases item with
  | obj row => rfl
  | _ => cases h

theorem discloses_finalView (invalid : Bool) (view : Json) :
    Discloses (Restates lib) view (finalView lib suppress invalid portfolioId view) := by
  cases view with
  | arr rows =>
      have hrow : ∀ item ∈ rows, isGrouped item = true →
          DisclosesFields (Restates lib) (asDict item)
            (presentSnapshotRow lib suppress portfolioId (asDict item)).1 :=
        fun item _ _ => discloses_presentSnapshotRow (asDict item)
      unfold finalView presentView
      dsimp only
      split
      · rw [weightless, List.map_map, List.map_map]
        refine discloses_filter_map fun item hitem hgrouped => ?_
        rw [isGrouped_obj hgrouped]
        exact .fields ((hrow item hitem hgrouped).withhold "weight")
      · rw [List.map_map]
        refine discloses_filter_map fun item hitem hgrouped => ?_
        rw [isGrouped_obj hgrouped]
        exact .fields (hrow item hitem hgrouped)
  | _ =>
      unfold finalView presentView
      dsimp only
      split <;> exact .emptied _

theorem lookup_suppressWeights_fold {keys : List String} (hkeys : keys.Nodup) (allocation : Fields)
    (name : String) :
    lookup (keys.foldl (fun allocation key =>
        match lookup allocation key with
        | some view => Json.assign allocation key (weightless view)
        | none => allocation) allocation) name =
      if name ∈ keys then (lookup allocation name).map weightless else lookup allocation name := by
  induction keys generalizing allocation with
  | nil => rfl
  | cons key keys ih =>
      rw [List.nodup_cons] at hkeys
      rw [List.foldl_cons, ih hkeys.2]
      cases hview : lookup allocation key with
      | none =>
          dsimp only
          by_cases hname : name = key
          · rw [hname, if_neg hkeys.1, if_pos List.mem_cons_self, hview]
            rfl
          · simp only [List.mem_cons, hname, false_or]
      | some view =>
          dsimp only
          by_cases hname : name = key
          · rw [hname, if_neg hkeys.1, if_pos List.mem_cons_self, hview, lookup_assign_self]
            rfl
          · simp only [List.mem_cons, hname, false_or, lookup_assign_of_ne hname]

theorem lookup_suppressWeights (allocation : Fields) (name : String) :
    lookup (suppressWeights allocation) name =
      if name ∈ dimensionKeys then (lookup allocation name).map weightless
      else lookup allocation name :=
  lookup_suppressWeights_fold nodup_dimensionKeys allocation name

end Views

section Disclosed

variable {lib : NumberLibrary} {snapshot original shown : Fields}

theorem presentedQualification_invalid {q : AllocationQualification}
    {suppress malformed unknown : Bool} :
    (presentedQualification q suppress malformed unknown).status = .invalid ↔
      (q.status == .invalid || (malformed && !suppress)) = true := by
  unfold presentedQualification
  by_cases hmalformed : (malformed && !suppress) = true
  · simp only [hmalformed, if_true, Bool.or_true, iff_true]
    split <;> rfl
  · rw [Bool.not_eq_true] at hmalformed
    simp only [hmalformed, Bool.false_eq_true, if_false, Bool.or_false, beq_iff_eq]
    cases unknown with
    | false => rfl
    | true =>
        simp only [if_true]
        by_cases hcomplete : q.status = .complete
        · rw [if_pos hcomplete, hcomplete]
          exact iff_of_false (by rintro ⟨⟩) (by rintro ⟨⟩)
        · rw [if_neg hcomplete]

/-- What a presentation shows: each view in its final form, the other fields as they were captured,
and the last qualification. -/
theorem presentAllocation_spec (h : presentAllocation lib snapshot original = .ok shown) :
    ∃ (q : AllocationQualification) (invalid : Bool), (q.status = .invalid → invalid = true) ∧
      get shown "qualification" = q.dump ∧
      ∀ name, name ≠ "qualification" → name ≠ "supportability" → lookup shown name =
        if name ∈ dimensionKeys then (lookup original name).map
          (finalView lib (capturedQualification lib snapshot original).2 invalid
            (.ofText? (bounded (get snapshot "portfolio_id"))))
        else lookup original name := by
  obtain ⟨contradictory, -, hdone⟩ := bind_eq_ok.mp h
  cases hdone
  refine ⟨_, _, presentedQualification_invalid.mp, get_assign_self _ _ _, ?_⟩
  intro name hqualification hsupportability
  rw [lookup_assign_of_ne hqualification, lookup_assign_of_ne hsupportability]
  have hrows : lookup (presentedRows lib snapshot original).1 name =
      if name ∈ dimensionKeys then (lookup original name).map fun view =>
        (presentView lib (capturedQualification lib snapshot original).2
          (.ofText? (bounded (get snapshot "portfolio_id"))) view).1
      else lookup original name :=
    lookup_presentSnapshotBuckets nodup_dimensionKeys original name
  split
  · rename_i hinvalid
    rw [lookup_suppressWeights, hrows, hinvalid]
    split
    · rw [Option.map_map]
      rfl
    · rfl
  · rename_i hinvalid
    rw [Bool.not_eq_true] at hinvalid
    rw [hrows, hinvalid]
    rfl

/-- Whatever a snapshot holds, each field of its presented allocation but the two that qualify it
shows what was captured: the value itself, its number, or nothing, and lists leave items out. -/
theorem snapshotAllocation_discloses {requested : Bool} (name : String)
    (h : snapshotAllocation lib snapshot requested = .ok shown)
    (hqualification : name ≠ "qualification") (hsupportability : name ≠ "supportability") :
    Discloses (Restates lib) (get (asDict (get snapshot "allocation")) name) (get shown name) := by
  have hwithheld : ∀ q : AllocationQualification, shown = [("qualification", q.dump)] →
      get shown name = .null := by
    rintro q rfl
    show (lookup _ name).getD .null = .null
    rw [lookup_cons, if_neg hqualification.symm, lookup_nil]
    rfl
  unfold snapshotAllocation at h
  split at h
  · rename_i field fields hsome
    have hcaptured : asDict (get snapshot "allocation") = field :: fields := by
      show asDict ((lookup snapshot "allocation").getD .null) = _
      rw [hsome]
      rfl
    obtain ⟨q, invalid, -, -, hlookup⟩ := presentAllocation_spec h
    have hname := hlookup name hqualification hsupportability
    rw [hcaptured]
    show Discloses (Restates lib) ((lookup (field :: fields) name).getD .null)
      ((lookup shown name).getD .null)
    rw [hname]
    split
    · cases hview : lookup (field :: fields) name with
      | none => exact .same _
      | some view => exact discloses_finalView invalid view
    · exact .same _
  · cases h
    cases requested with
    | true =>
        rw [hwithheld _ rfl]
        exact .withheld _
    | false => exact .withheld _
  · cases h
    rw [hwithheld _ rfl]
    exact .withheld _

/-- The numbers of the samples: one and sixty. -/
def sampleLibrary : NumberLibrary where
  digitOf c := (List.finRange 10).find? fun d => c.toNat == 48 + d.val
  floatOf d := if d = ⟨false, 10, -1⟩ then "1.0" else if d = ⟨false, 600, -1⟩ then "60.0" else "0.0"
  floatValue text := if text = "1.0" then .finite 1 else if text = "60.0" then .finite 60
    else if text = "0.0" then .finite 0 else .nan

/-- A bucket of the samples. -/
def sampleBucket (weight marketValue : Json) : Json :=
  .obj [("group", .str "Equity"), ("weight", weight), ("market_value", marketValue),
    ("position_count", .int 1)]

/-- An allocation that was retained without a qualification. -/
def unqualifiedSnapshot : Fields :=
  [ ("portfolio_id", .str "PB-1"),
    ("allocation", .obj [("byAssetClass", .arr [sampleBucket (.float "1.0") (.float "60.0")])]) ]

/-- Its presentation. -/
def unqualifiedShown : Fields :=
  [ ("byAssetClass", .arr [sampleBucket .null .null]),
    ("supportability", supportability (unqualified false)),
    ("qualification", (unqualified false).dump) ]

theorem snapshotAllocation_unqualifiedSnapshot :
    snapshotAllocation sampleLibrary unqualifiedSnapshot false = .ok unqualifiedShown := by
  rfl

/-- The buckets of a retained allocation without a qualification are disclosed without figures. -/
theorem discloses_unqualifiedSnapshot : Discloses (Restates sampleLibrary)
    (.arr [sampleBucket (.float "1.0") (.float "60.0")]) (.arr [sampleBucket .null .null]) :=
  snapshotAllocation_discloses "byAssetClass" snapshotAllocation_unqualifiedSnapshot (by decide)
    (by decide)

/-- The snapshot has an allocation that is qualified and bound to it. -/
def Bound (lib : NumberLibrary) (snapshot : Fields) : Prop :=
  ∃ original q, lookup snapshot "allocation" = some (.obj original) ∧
    AllocationQualification.validate (get original "qualification") = .ok q ∧
    isBound lib snapshot original q = true

theorem mem_finalView {suppress invalid : Bool} {portfolioId view : Json} {row : Fields}
    (h : row ∈ bucketsIn (finalView lib suppress invalid portfolioId view)) :
    ∃ captured, row = if invalid then
        Json.assign (presentSnapshotRow lib suppress portfolioId captured).1 "weight" .null
      else (presentSnapshotRow lib suppress portfolioId captured).1 := by
  cases view with
  | arr rows =>
      cases invalid with
      | true =>
          simp only [finalView, presentView, if_true, weightless, bucketsIn, List.map_map] at h
          obtain ⟨item, -, rfl⟩ := List.mem_map.mp h
          exact ⟨asDict item, rfl⟩
      | false =>
          simp only [finalView, presentView, Bool.false_eq_true, if_false, bucketsIn,
            List.map_map] at h
          obtain ⟨item, -, rfl⟩ := List.mem_map.mp h
          exact ⟨asDict item, rfl⟩
  | _ => cases invalid <;> cases h

theorem suppressed_figures (lib : NumberLibrary) (portfolioId : Json) (row : Fields) :
    get (presentSnapshotRow lib true portfolioId row).1 "weight" = .null ∧
      get (presentSnapshotRow lib true portfolioId row).1 "market_value" = .null := by
  rw [presentSnapshotRow_eq]
  constructor
  · rw [get_assign_of_ne (by decide), get_assign_self]
    rfl
  · rw [get_assign_self]
    rfl

theorem text_eq_invalid {status : QualificationStatus} (h : status.text = "invalid") :
    status = .invalid := by
  cases status with
  | invalid => rfl
  | _ => revert h; decide

theorem bucketsOf_unqualified (q : AllocationQualification) :
    bucketsOf [("qualification", q.dump)] = [] := rfl

/-- No weight is shown where the presented qualification is invalid, and no figure of a bucket where
the captured one is missing, malformed or not bound to the snapshot. -/
theorem figures_withheld {requested : Bool}
    (h : snapshotAllocation lib snapshot requested = .ok shown) :
    (get (asDict (get shown "qualification")) "status" = .str "invalid" →
      ∀ row ∈ bucketsOf shown, get row "weight" = .null) ∧
    (¬Bound lib snapshot → ∀ row ∈ bucketsOf shown,
      get row "weight" = .null ∧ get row "market_value" = .null) := by
  unfold snapshotAllocation at h
  split at h
  · rename_i field fields hsome
    obtain ⟨q, invalid, hinvalid, hqualification, hlookup⟩ := presentAllocation_spec h
    have hrow : ∀ row ∈ bucketsOf shown, ∃ captured, row = if invalid then
          Json.assign (presentSnapshotRow lib
            (capturedQualification lib snapshot (field :: fields)).2
            (.ofText? (bounded (get snapshot "portfolio_id"))) captured).1 "weight" .null
        else (presentSnapshotRow lib (capturedQualification lib snapshot (field :: fields)).2
          (.ofText? (bounded (get snapshot "portfolio_id"))) captured).1 := by
      intro row hmem
      obtain ⟨key, hkey, hrow⟩ := List.mem_flatMap.mp hmem
      have hshown := hlookup key (fun heq => absurd hkey (heq ▸ by decide))
        (fun heq => absurd hkey (heq ▸ by decide))
      rw [if_pos hkey] at hshown
      change row ∈ bucketsIn ((lookup shown key).getD .null) at hrow
      rw [hshown] at hrow
      cases hview : lookup (field :: fields) key with
      | none =>
          rw [hview] at hrow
          cases hrow
      | some view =>
          rw [hview] at hrow
          exact mem_finalView hrow
    constructor
    · intro hstatus row hmem
      rw [hqualification] at hstatus
      have hq := text_eq_invalid (Json.str.inj hstatus)
      obtain ⟨captured, rfl⟩ := hrow row hmem
      rw [if_pos (hinvalid hq), get_assign_self]
    · intro hbound row hmem
      have hsuppress : (capturedQualification lib snapshot (field :: fields)).2 = true := by
        unfold capturedQualification
        split
        · rename_i q' hread
          rw [if_neg fun hb => hbound ⟨_, q', hsome, hread, hb⟩]
        · rfl
      obtain ⟨captured, rfl⟩ := hrow row hmem
      rw [hsuppress]
      obtain ⟨hweight, hvalue⟩ := suppressed_figures lib
        (.ofText? (bounded (get snapshot "portfolio_id"))) captured
      split
      · rw [get_assign_self, get_assign_of_ne (by decide)]
        exact ⟨rfl, hvalue⟩
      · exact ⟨hweight, hvalue⟩
  · cases h
    have hnone : bucketsOf
        (if requested then [("qualification", (unqualified false).dump)] else []) = [] := by
      cases requested <;> rfl
    rw [hnone]
    exact ⟨fun _ _ hmem => absurd hmem List.not_mem_nil,
      fun _ _ hmem => absurd hmem List.not_mem_nil⟩
  · cases h
    rw [bucketsOf_unqualified]
    exact ⟨fun _ _ hmem => absurd hmem List.not_mem_nil,
      fun _ _ hmem => absurd hmem List.not_mem_nil⟩

/-- Nothing is shown of the figures that no qualification vouches for. -/
theorem figures_withheld_unqualifiedSnapshot :
    get (asDict (sampleBucket .null .null)) "weight" = .null ∧
      get (asDict (sampleBucket .null .null)) "market_value" = .null := by
  refine (figures_withheld snapshotAllocation_unqualifiedSnapshot).2 ?_ _ List.mem_cons_self
  rintro ⟨original, q, hsome, hread, -⟩
  cases hsome
  cases hread

/-- The rows of a view are objects with both figures: no subscript of a row raises. -/
def Subscripted (view : Json) : Prop :=
  ∃ rows : List Fields, view = .arr (rows.map .obj) ∧ ∀ row ∈ rows,
    (lookup row "weight").isSome = true ∧ (lookup row "market_value").isSome = true

theorem subscripted_presentView (suppress : Bool) (portfolioId view : Json) :
    Subscripted (presentView lib suppress portfolioId view).1 := by
  cases view with
  | arr rows =>
      refine ⟨((rows.filter isGrouped).map fun row =>
        presentSnapshotRow lib suppress portfolioId (asDict row)).map Prod.fst, ?_, ?_⟩
      · rw [List.map_map]
        rfl
      · intro row hrow
        obtain ⟨_, hpresented, rfl⟩ := List.mem_map.mp hrow
        obtain ⟨captured, -, rfl⟩ := List.mem_map.mp hpresented
        rw [presentSnapshotRow_eq, lookup_assign_self, lookup_assign_of_ne (by decide),
          lookup_assign_self]
        exact ⟨rfl, rfl⟩
  | _ => exact ⟨[], rfl, by simp⟩

theorem subscripted_presentedRows {key : String} (hkey : key ∈ dimensionKeys) {view : Json}
    (h : lookup (presentedRows lib snapshot original).1 key = some view) : Subscripted view := by
  rw [presentedRows, lookup_presentSnapshotBuckets nodup_dimensionKeys, if_pos hkey] at h
  obtain ⟨captured, -, rfl⟩ := Option.map_eq_some_iff.mp h
  exact subscripted_presentView _ _ captured

theorem contradictorySourceNumbers_raises (lib : NumberLibrary) (coverage total : Json)
    (allocation : Fields) :
    (∃ raised, contradictorySourceNumbers lib coverage total allocation = .error raised) ↔
      (viewTotalsOf allocation).isSome = true ∧
        hashable (get (asDict coverage) "coverage_state") = false := by
  unfold contradictorySourceNumbers viewTotalsOf
  cases (lookup allocation "view_totals").getD (.obj []) with
  | obj viewTotals =>
      cases hstate : get (asDict coverage) "coverage_state" with
      | str state =>
          refine iff_of_false ?_ (by rintro ⟨-, ⟨⟩⟩)
          rintro ⟨raised, hraised⟩
          dsimp only at hraised
          rw [if_neg (show ¬(!hashable (.str state)) = true from Bool.false_ne_true)] at hraised
          split at hraised
          · cases hraised
          · split at hraised <;> cases hraised
      | arr items => exact iff_of_true ⟨.typeError, rfl⟩ ⟨rfl, rfl⟩
      | obj fields => exact iff_of_true ⟨.typeError, rfl⟩ ⟨rfl, rfl⟩
      | _ => exact iff_of_false (by rintro ⟨raised, ⟨⟩⟩) (by rintro ⟨-, ⟨⟩⟩)
  | _ => exact iff_of_false (by rintro ⟨raised, ⟨⟩⟩) (by rintro ⟨⟨⟩, -⟩)

theorem presentAllocation_raises :
    (∃ raised, presentAllocation lib snapshot original = .error raised) ↔
      (viewTotalsOf original).isSome = true ∧
        hashable (get (asDict (get original "valuation_coverage")) "coverage_state") = false := by
  have hcoverage : get (presentedRows lib snapshot original).1 "valuation_coverage" =
      get original "valuation_coverage" := get_presentedRows (by decide)
  rw [← viewTotalsOf_presentedRows lib snapshot, ← hcoverage]
  refine Iff.trans (exists_congr fun raised => ?_) (contradictorySourceNumbers_raises lib _
    (get (presentedRows lib snapshot original).1 "total_market_value_reporting_currency") _)
  constructor
  · intro h
    rcases bind_eq_error.mp h with hraised | ⟨_, _, hdone⟩
    · exact hraised
    · cases hdone
  · intro h
    exact bind_eq_error.mpr (Or.inl h)

/-- The presentation fails exactly where a captured allocation has totals that are absent or a
dictionary, and a coverage whose state is a list or a dictionary; the rows that it reads have the
figures that it subscripts. -/
theorem snapshotAllocation_raises_iff (lib : NumberLibrary) (snapshot : Fields)
    (requested : Bool) :
    ((∃ raised, snapshotAllocation lib snapshot requested = .error raised) ↔
      ∃ original, lookup snapshot "allocation" = some (.obj original) ∧
        (viewTotalsOf original).isSome = true ∧
        hashable (get (asDict (get original "valuation_coverage")) "coverage_state") = false) ∧
    ∀ original, lookup snapshot "allocation" = some (.obj original) → ∀ key ∈ dimensionKeys,
      ∀ view, lookup (presentedRows lib snapshot original).1 key = some view →
        Subscripted view := by
  refine ⟨?_, fun original _ key hkey view => subscripted_presentedRows hkey⟩
  unfold snapshotAllocation
  cases hraw : lookup snapshot "allocation" with
  | none => exact iff_of_false (by rintro ⟨raised, ⟨⟩⟩) (by rintro ⟨original, ⟨⟩, -⟩)
  | some raw =>
      cases raw with
      | obj fields =>
          simp only [Option.some.injEq, Json.obj.injEq, exists_eq_left']
          cases fields with
          | nil => exact iff_of_false (by rintro ⟨raised, ⟨⟩⟩) (by rintro ⟨-, ⟨⟩⟩)
          | cons field fields => exact presentAllocation_raises
      | _ => exact iff_of_false (by rintro ⟨raised, ⟨⟩⟩) (by rintro ⟨original, ⟨⟩, -⟩)

end Disclosed

end LotusReport.Allocation
