import LotusReport.Allocation.Disclosure
import LotusReport.Allocation.Source

/-!
# A captured allocation is presented as it was captured

What the capture settles, the presentation leaves alone: the admitted buckets, their numbers and
the totals pass the same checks again, so an allocation that was captured as publishable is
presented unchanged in the package of its own snapshot.
-/

namespace LotusReport.Allocation

open Encoding Decimals Rendering Transactions Fallible

/-- The text of a floating-point number is read as a decimal that is nearest to that number. -/
def NumberLibrary.Restates (lib : NumberLibrary) : Prop :=
  ∀ (d : Decimal) (r : ℚ), lib.floatValue (lib.floatOf d) = .finite r →
    ∃ e : Decimal, numberOf lib.digitOf (lib.floatOf d) = some (.finite e) ∧
      lib.floatOf e = lib.floatOf d ∧ (r = 0 → e.coeff = 0)

section Numbers

variable {lib : NumberLibrary}

theorem allocationNumber_float (hlib : lib.Restates) {value : Json} {text : String}
    (h : allocationNumber lib value = some text) :
    allocationNumber lib (.float text) = some text := by
  unfold allocationNumber at h
  split at h
  · rename_i d hd
    split at h
    · rename_i r hr
      split at h
      · cases h
      · cases h
        obtain ⟨e, hread, hsame, hzero⟩ := hlib d r hr
        have hcaptured : captured lib.digitOf (.float (lib.floatOf d)) = some (.finite e) := hread
        unfold allocationNumber
        rw [hcaptured]
        dsimp only
        rw [hsame, hr]
        dsimp only
        rw [if_neg fun hlost => hlost.1 (hzero hlost.2)]
    · cases h
  · cases h

theorem allocationNumber_ofNumber (hlib : lib.Restates) (value : Json) :
    allocationNumber lib (ofNumber (allocationNumber lib value)) = allocationNumber lib value := by
  cases h : allocationNumber lib value with
  | none => rfl
  | some text => exact allocationNumber_float hlib h

end Numbers

section Buckets

variable {lib : NumberLibrary} {portfolioId : Json}

/-- A bucket as the capture leaves it: the fields are distinct, the contributors are admitted and
the figures are numbers. -/
structure SettledBucket (lib : NumberLibrary) (portfolioId : Json) (row : Fields) : Prop where
  distinct : Distinct row
  wellFormed : WellFormedBucket lib portfolioId row
  weighed : ∃ text, Json.lookup row "weight" = some (.float text) ∧
    allocationNumber lib (.float text) = some text
  valued : ∃ text, Json.lookup row "market_value" = some (.float text) ∧
    allocationNumber lib (.float text) = some text

theorem presentSnapshotRow_settled {row : Fields} (h : SettledBucket lib portfolioId row) :
    presentSnapshotRow lib false portfolioId row = (row, false, false) := by
  have hshown : ∀ {name text}, Json.lookup row name = some (.float text) →
      allocationNumber lib (.float text) = some text →
      get row name = .float text ∧ shownFigure lib false (get row name) = .float text ∧
        isFigure lib (get row name) = true := by
    intro name text hlookup hown
    have hget : get row name = .float text := get_of_lookup hlookup
    rw [hget, shownFigure, if_neg Bool.false_ne_true, hown, isFigure, hown]
    exact ⟨rfl, rfl, Bool.or_true _⟩
  obtain ⟨admitted, heq, -, hsame⟩ := admittedBucket_wellFormed h.wellFormed
  obtain ⟨weight, hweightAt, hweightOwn⟩ := h.weighed
  obtain ⟨value, hvalueAt, hvalueOwn⟩ := h.valued
  obtain ⟨hgetWeight, hshownWeight, hfigureWeight⟩ := hshown hweightAt hweightOwn
  obtain ⟨hgetValue, hshownValue, hfigureValue⟩ := hshown hvalueAt hvalueOwn
  rw [presentSnapshotRow_eq, heq, hsame h.distinct]
  dsimp only
  rw [hshownWeight, hshownValue, hfigureWeight, hfigureValue, assign_of_lookup h.distinct hweightAt,
    assign_of_lookup h.distinct hvalueAt]
  rfl

/-- A list of settled buckets that are grouped. -/
def SettledView (lib : NumberLibrary) (portfolioId : Json) (view : Json) : Prop :=
  ∃ rows, view = .arr rows ∧ ∀ item ∈ rows, ∃ row, item = .obj row ∧ isGrouped item = true ∧
    SettledBucket lib portfolioId row

theorem presentView_settled {view : Json} (h : SettledView lib portfolioId view) :
    presentView lib false portfolioId view = (view, false, false) := by
  obtain ⟨rows, rfl, hall⟩ := h
  have hgrouped : ∀ item ∈ rows, isGrouped item = true := by
    intro item hitem
    obtain ⟨row, -, hgrouped, -⟩ := hall item hitem
    exact hgrouped
  have hkept : rows.filter isGrouped = rows := List.filter_eq_self.mpr hgrouped
  have hrow : ∀ item ∈ rows, presentSnapshotRow lib false portfolioId (asDict item) =
      (asDict item, false, false) ∧ item = .obj (asDict item) := by
    intro item hitem
    obtain ⟨row, rfl, -, hsettled⟩ := hall item hitem
    exact ⟨presentSnapshotRow_settled hsettled, rfl⟩
  unfold presentView
  dsimp only
  rw [hkept]
  have hrows : (rows.map fun row => presentSnapshotRow lib false portfolioId (asDict row)) =
      rows.map fun row => (asDict row, false, false) :=
    List.map_congr_left fun item hitem => (hrow item hitem).1
  have hsame : (rows.map fun row => Json.obj (asDict row)) = rows :=
    (List.map_congr_left fun item hitem => (hrow item hitem).2.symm).trans (List.map_id rows)
  rw [hrows]
  simp only [List.map_map, Function.comp_def, hsame, List.any_map]
  simpa using hgrouped

theorem presentSnapshotBuckets_settled {keys : List String} {allocation : Fields}
    (hdistinct : Distinct allocation)
    (h : ∀ key ∈ keys, ∀ view ∈ Json.lookup allocation key, SettledView lib portfolioId view) :
    presentSnapshotBuckets lib false portfolioId keys allocation = (allocation, false, false) := by
  induction keys with
  | nil => rfl
  | cons key keys ih =>
      rw [List.forall_mem_cons] at h
      rw [presentSnapshotBuckets]
      cases hview : Json.lookup allocation key with
      | none => exact ih h.2
      | some view =>
          dsimp only
          rw [presentView_settled (h.1 view hview), assign_of_lookup hdistinct hview, ih h.2]
          rfl

end Buckets

section Captured

variable {lib : NumberLibrary} {portfolioId : Json}

theorem distinct_sourceRow (lib : NumberLibrary) (bucket : Fields) (label : String) :
    Distinct (sourceRow lib bucket label) := by
  have hcopied : ∀ names : List String, ((names.filterMap fun field =>
      (Json.lookup bucket field).map fun value => (field, value)).map Prod.fst).Sublist names := by
    intro names
    induction names with
    | nil => exact List.Sublist.refl []
    | cons name names ih =>
        cases hvalue : Json.lookup bucket name with
        | none =>
            rw [List.filterMap_cons_none (by rw [hvalue]; rfl)]
            exact ih.cons name
        | some value =>
            rw [List.filterMap_cons_some (by rw [hvalue]; rfl), List.map_cons]
            exact ih.cons_cons name
  have hnames : (["group", "weight", "market_value", "position_count"] ++ copiedFields).Nodup := by
    decide
  unfold Distinct sourceRow
  rw [List.map_append]
  exact hnames.sublist ((List.Sublist.refl _).append (hcopied copiedFields))

/-- A bucket as the capture makes it, where nothing was malformed. -/
structure CapturedBucket (lib : NumberLibrary) (portfolioId : Json) (row : Fields) : Prop where
  distinct : Distinct row
  grouped : isGrouped (.obj row) = true
  wellFormed : WellFormedBucket lib portfolioId row
  weight : ∃ value, Json.lookup row "weight" = some (ofNumber (allocationNumber lib value))
  value : ∃ value, Json.lookup row "market_value" = some (ofNumber (allocationNumber lib value))

theorem capturedBucket_sourceRow {bucket : Fields} {label : String} {row : Fields}
    (hlabel : strip label ≠ "")
    (h : qualifyContributors lib portfolioId (sourceRow lib bucket label) = (row, some false)) :
    CapturedBucket lib portfolioId row := by
  have hwell : WellFormedBucket lib portfolioId (sourceRow lib bucket label) :=
    qualifyContributors_iff.mp (congrArg Prod.snd h)
  have hdistinct := distinct_sourceRow lib bucket label
  obtain ⟨admitted, hadmitted, -, hsame⟩ := qualifyContributors_wellFormed hwell
  rw [hadmitted, hsame hdistinct] at h
  cases h
  refine ⟨hdistinct, ?_, hwell, ⟨_, rfl⟩, ⟨_, rfl⟩⟩
  show (strip label != "") = true
  exact bne_iff_ne.mpr hlabel

theorem mapSourceBuckets_clean {values rows : List Json}
    (h : mapSourceBuckets lib portfolioId values = .ok (rows, false)) :
    ∀ item ∈ rows, ∃ row, item = .obj row ∧ CapturedBucket lib portfolioId row := by
  induction values generalizing rows with
  | nil =>
      cases h
      exact fun _ hitem => absurd hitem List.not_mem_nil
  | cons value values ih =>
      have hdropped : ∀ {x : Except SourceError (List Json × Bool)},
          x.map (fun rest => (rest.1, true)) ≠ .ok (rows, false) := by
        intro x hx
        cases x <;> cases hx
      rw [mapSourceBuckets] at h
      split at h
      · rename_i label hlabel
        split at h
        · exact absurd h hdropped
        · rename_i hblank
          split at h
          · cases h
          · rename_i row malformed hrow
            cases hrest : mapSourceBuckets lib portfolioId values with
            | error e =>
                rw [hrest] at h
                cases h
            | ok rest =>
                rw [hrest] at h
                obtain ⟨hrows, hclean⟩ := Prod.mk.inj (Except.ok.inj h)
                simp only [Bool.or_eq_false_iff] at hclean
                obtain ⟨⟨hmalformed, -⟩, hcleanRest⟩ := hclean
                rw [hmalformed] at hrow
                rw [← hrows, List.forall_mem_cons]
                refine ⟨⟨row, rfl, capturedBucket_sourceRow hblank hrow⟩, ih ?_⟩
                rw [hrest, ← hcleanRest]
      · exact absurd h hdropped

/-- The views as the capture lays them out, where nothing was malformed. -/
structure CapturedViews (lib : NumberLibrary) (portfolioId : Json) (allocation : Fields) :
    Prop where
  distinct : Distinct allocation
  views : ∀ key ∈ dimensionKeys, ∀ view ∈ Json.lookup allocation key, ∃ rows, view = .arr rows ∧
    ∀ item ∈ rows, ∃ row, item = .obj row ∧ CapturedBucket lib portfolioId row

/-- A further view is laid out beside the others. -/
theorem CapturedViews.add {allocation : Fields} (h : CapturedViews lib portfolioId allocation)
    (key : String) {rows : List Json} (totals : Json)
    (hrows : ∀ item ∈ rows, ∃ row, item = .obj row ∧ CapturedBucket lib portfolioId row) :
    CapturedViews lib portfolioId
      (Json.assign (Json.assign allocation key (.arr rows)) "view_totals" totals) := by
  refine ⟨distinct_assign (distinct_assign h.distinct key _) _ _, ?_⟩
  intro key' hkey' view hview
  have hne : key' ≠ "view_totals" := fun heq => absurd hkey' (heq ▸ by decide)
  rw [lookup_assign_of_ne hne] at hview
  by_cases hsame : key' = key
  · rw [hsame, lookup_assign_self] at hview
    cases hview
    exact ⟨rows, rfl, hrows⟩
  · rw [lookup_assign_of_ne hsame] at hview
    exact h.views key' hkey' view hview

/-- Before the first view nothing is laid out. -/
theorem capturedViews_nil (lib : NumberLibrary) (portfolioId : Json) :
    CapturedViews lib portfolioId [("view_totals", .obj [])] := by
  refine ⟨by simp [Distinct], fun key hkey view hview => ?_⟩
  have hne : "view_totals" ≠ key := fun heq => absurd hkey (heq ▸ by decide)
  rw [Option.mem_def, lookup_cons, if_neg hne] at hview
  cases hview

/-- The loop over the views of the source keeps what the capture lays out. -/
theorem mapSourceViews_clean {views : List Json} {allocation mapped : Fields}
    (hallocation : CapturedViews lib portfolioId allocation)
    (h : mapSourceViews lib portfolioId views allocation = .ok (mapped, false)) :
    CapturedViews lib portfolioId mapped := by
  induction views generalizing allocation with
  | nil =>
      cases h
      exact hallocation
  | cons view views ih =>
      have hdropped : ∀ {x : Except SourceError (Fields × Bool)},
          x.map (fun rest => (rest.1, true)) ≠ .ok (mapped, false) := by
        intro x hx
        cases x <;> cases hx
      rw [mapSourceViews] at h
      dsimp only at h
      split at h
      · rename_i key buckets hkey hbuckets
        split at h
        · exact absurd h hdropped
        · obtain ⟨rows, hrows, h⟩ := bind_eq_ok.mp h
          obtain ⟨rest, hrest, h⟩ := bind_eq_ok.mp h
          obtain ⟨hmapped, hclean⟩ := Prod.mk.inj (Except.ok.inj h)
          rw [Bool.or_eq_false_iff] at hclean
          have hrows' : mapSourceBuckets lib portfolioId buckets = .ok (rows.1, false) := by
            rw [hrows, ← hclean.1]
          apply ih (hallocation.add key _ (mapSourceBuckets_clean hrows'))
          rw [hrest, ← hmapped, ← hclean.2]
      · exact absurd h hdropped

end Captured

section Qualified

variable {lib : NumberLibrary} {payload request allocation : Fields} {malformed : Bool}

/-- The qualification of a source answer that may be published. -/
def publishedQualification (payload : Fields) (c : AllocationValuationCoverage) :
    AllocationQualification where
  status := .complete
  reasonCode := .valuationComplete
  coverage := some c
  sourcePortfolioId := bounded (get (asDict (get payload "scope")) "portfolio_id")
  sourceAsOfDate := textOrNone isIsoDate (get payload "resolved_as_of_date")
  sourceReportingCurrency := textOrNone isCurrency (get payload "reporting_currency")
  clientPublicationAllowed := true

theorem qualify_allowed
    (h : (qualify payload allocation malformed).clientPublicationAllowed = true) :
    malformed = false ∧ ∃ c,
      AllocationValuationCoverage.validate (get payload "valuation_coverage") = .ok c ∧
      c.coverageState ∈ publishableStates ∧
      (∀ row ∈ bucketsOf allocation, get row "weight" ≠ .null ∧ get row "market_value" ≠ .null) ∧
      qualify payload allocation malformed = publishedQualification payload c := by
  unfold qualify at h ⊢
  dsimp only at h ⊢
  split at h
  · split at h <;> cases h
  · rename_i c hread
    split at h
    · cases h
    · rename_i hmalformed
      split at h
      · cases h
      · rename_i hstate
        split at h
        · cases h
        · rename_i hfigures
          refine ⟨by simpa using hmalformed, c, hread, ?_, ?_, ?_⟩
          · revert hstate
            cases c.coverageState <;> decide
          · simpa using hfigures
          · rw [if_neg hmalformed, if_neg hstate, if_neg hfigures, publishedQualification]

theorem get_state {j : Json} {c : AllocationValuationCoverage}
    (h : AllocationValuationCoverage.validate j = .ok c) :
    get (asDict j) "coverage_state" = .str c.coverageState.text := by
  obtain ⟨fields, rfl, hstate⟩ := AllocationValuationCoverage.state_of_validate h
  exact get_of_lookup hstate

end Qualified

section Completed

variable {lib : NumberLibrary} {payload request allocation : Fields} {q : AllocationQualification}

theorem lookup_copyField_of_ne {field name : String} (hne : name ≠ field) :
    Json.lookup (copyField payload allocation field) name = Json.lookup allocation name := by
  unfold copyField
  split
  · exact lookup_assign_of_ne hne
  · rfl

theorem distinct_copyField (h : Distinct allocation) (field : String) :
    Distinct (copyField payload allocation field) := by
  unfold copyField
  split
  · exact distinct_assign h _ _
  · exact h

theorem distinct_completed (h : Distinct allocation) :
    Distinct (completed lib payload allocation q) := by
  unfold completed
  exact distinct_assign (distinct_assign (distinct_assign (distinct_assign
    (distinct_copyField (distinct_copyField h _) _) _ _) _ _) _ _) _ _

/-- The fields that complete an allocation. -/
def completedFields : List String :=
  [ "look_through", "calculation_lineage", "total_market_value_reporting_currency",
    "valuation_coverage", "qualification", "supportability" ]

theorem dimensionKeys_not_completed : ∀ key ∈ dimensionKeys, key ∉ completedFields := by decide

/-- The views and their totals are completed as they were laid out. -/
theorem lookup_completed {name : String} (hname : name ∉ completedFields) :
    Json.lookup (completed lib payload allocation q) name = Json.lookup allocation name := by
  simp only [completedFields, List.mem_cons, List.not_mem_nil, or_false, not_or] at hname
  obtain ⟨hlook, hlineage, htotal, hcoverage, hqualification, hsupportability⟩ := hname
  unfold completed
  dsimp only
  rw [lookup_assign_of_ne hsupportability, lookup_assign_of_ne hqualification,
    lookup_assign_of_ne hcoverage, lookup_assign_of_ne htotal, lookup_copyField_of_ne hlineage,
    lookup_copyField_of_ne hlook]

theorem lookup_completed_supportability :
    Json.lookup (completed lib payload allocation q) "supportability" = some (supportability q) :=
  lookup_assign_self

theorem completed_ne_nil : completed lib payload allocation q ≠ [] := by
  intro hnil
  have hsome : Json.lookup (completed lib payload allocation q) "supportability" = some _ :=
    lookup_completed_supportability
  rw [hnil] at hsome
  cases hsome

theorem lookup_completed_qualification :
    Json.lookup (completed lib payload allocation q) "qualification" = some q.dump := by
  unfold completed
  rw [lookup_assign_of_ne (by decide), lookup_assign_self]

theorem lookup_completed_coverage : Json.lookup (completed lib payload allocation q)
    "valuation_coverage" = some ((q.coverage.map (·.dump)).getD .null) := by
  unfold completed
  rw [lookup_assign_of_ne (by decide), lookup_assign_of_ne (by decide), lookup_assign_self]

theorem lookup_completed_total : Json.lookup (completed lib payload allocation q)
    "total_market_value_reporting_currency" = some
      (ofNumber (allocationNumber lib (get payload "total_market_value_reporting_currency"))) := by
  unfold completed
  rw [lookup_assign_of_ne (by decide), lookup_assign_of_ne (by decide),
    lookup_assign_of_ne (by decide), lookup_assign_self]

end Completed

section RoundTrip

variable {lib : NumberLibrary} {payload request allocation snapshot : Fields}

theorem sourceBinding_true (h : sourceBinding lib payload request = .ok true) :
    pyEq lib.floatValue (get (asDict (get payload "scope")) "portfolio_id")
        (get (asDict (get request "scope")) "portfolio_id") = true ∧
      ∃ date code, get payload "resolved_as_of_date" = .str date ∧ isIsoDate date = true ∧
        get request "as_of_date" = .str date ∧ get payload "reporting_currency" = .str code ∧
        isCurrency code = true ∧
        (get request "reporting_currency" ≠ .null →
          get request "reporting_currency" = .str code) := by
  unfold sourceBinding at h
  dsimp only at h
  split at h
  · cases h
  · rename_i hmatched
    split at h
    · cases h
    · simp only [Except.ok.injEq, Bool.and_eq_true] at h
      obtain ⟨⟨⟨⟨⟨-, hportfolio⟩, -⟩, hdate⟩, hiso⟩, hcurrency⟩ := h
      refine ⟨hportfolio, ?_⟩
      cases hresolved : get payload "resolved_as_of_date" with
      | str date =>
          cases hcode : get payload "reporting_currency" with
          | str code =>
              rw [hresolved] at hdate hiso
              rw [hcode] at hcurrency
              refine ⟨date, code, rfl, hiso, pyEq_str_left.mp hdate, rfl, hcurrency, ?_⟩
              intro hstated
              simp only [Bool.or_eq_true, not_or, Bool.not_eq_true] at hmatched
              have hsame := hmatched.2
              rw [hcode] at hsame
              simp only [mismatched, Bool.and_eq_false_iff, bne_eq_false_iff_eq,
                Bool.not_eq_false'] at hsame
              rcases hsame with (hnull | hnull) | heq
              · cases hnull
              · exact absurd hnull hstated
              · exact pyEq_str_left.mp heq
          | _ =>
              rw [hcode] at hcurrency
              cases hcurrency
      | _ =>
          rw [hresolved] at hiso
          cases hiso

/-- A capture that returns was laid out, checked and qualified. -/
theorem mapSourceAllocation_spec (h : mapSourceAllocation lib payload request = .ok allocation) :
    ∃ (bound : Bool) (mapped : Fields × Bool) (contradictory : Bool),
      sourceBinding lib payload request = .ok bound ∧
      (get payload "valuation_coverage" ≠ .null → bound = true) ∧
      mapSourceViews lib (get (asDict (get request "scope")) "portfolio_id")
        (asList (get payload "views")) [("view_totals", .obj [])] = .ok mapped ∧
      contradictorySourceNumbers lib (get payload "valuation_coverage")
        (get payload "total_market_value_reporting_currency") mapped.1 = .ok contradictory ∧
      ∃ malformed : Bool, (malformed = false → mapped.2 = false ∧ contradictory = false) ∧
        allocation = completed lib payload
          (if (qualify payload mapped.1 malformed).status == .invalid then suppressWeights mapped.1
            else mapped.1) (qualify payload mapped.1 malformed) := by
  obtain ⟨bound, hbound, h⟩ := bind_eq_ok.mp h
  split at h
  · cases h
  · rename_i hbinding
    obtain ⟨mapped, hmapped, h⟩ := bind_eq_ok.mp h
    obtain ⟨contradictory, hcontradictory, h⟩ := bind_eq_ok.mp h
    cases h
    refine ⟨bound, mapped, contradictory, hbound, ?_, hmapped, ?_, _, ?_, rfl⟩
    · intro hstated
      simpa [hstated] using hbinding
    · cases hcheck : contradictorySourceNumbers lib (get payload "valuation_coverage")
          (get payload "total_market_value_reporting_currency") mapped.1 with
      | error e =>
          rw [hcheck] at hcontradictory
          cases hcontradictory
      | ok found =>
          rw [hcheck] at hcontradictory
          cases hcontradictory
          rfl
    · intro hclean
      simp only [Bool.or_eq_false_iff] at hclean
      exact ⟨hclean.1.1.2, hclean.2⟩

/-- A dictionary with distinct keys equals itself, if its values do. -/
theorem pyEq_obj_self {floatValue : String → FloatValue} {fields : Fields}
    (hdistinct : Distinct fields) (hvalues : ∀ f ∈ fields, pyEq floatValue f.2 f.2 = true) :
    pyEq floatValue (.obj fields) (.obj fields) = true :=
  pyEq_obj.mpr ⟨rfl, fun _ hf => ⟨_, (lookup_eq_some_iff hdistinct).mpr hf⟩,
    fun f hf => ⟨_, (lookup_eq_some_iff hdistinct).mpr hf, hvalues f hf⟩⟩

theorem pyEq_int_self (floatValue : String → FloatValue) (n : Int) :
    pyEq floatValue (.int n) (.int n) = true := by
  have hvalue : numberOf floatValue (.int n) = some (.finite n) := rfl
  rw [pyEq_of_number hvalue, numbersEq, hvalue]
  exact FloatValue.eq_iff.mpr ⟨rfl, by simp⟩

/-- A coverage statement that is retained equals itself. -/
theorem pyEq_coverage (floatValue : String → FloatValue) (c : AllocationValuationCoverage) :
    pyEq floatValue c.dump c.dump = true := by
  apply pyEq_obj_self
  · show (["coverage_state", "coverage_reason", "snapshot_row_count",
      "expected_open_position_count", "valued_position_count", "unvalued_position_count"]).Nodup
    decide
  · simp only [List.forall_mem_cons, pyEq_str_left, pyEq_int_self, true_and]
    exact fun _ hf => absurd hf List.not_mem_nil

theorem bounded_isBounded {j : Json} {text : String} (h : bounded j = some text) :
    j = .str text ∧ isBounded text = true := by
  unfold bounded at h
  split at h
  · split at h
    · rename_i hbounded
      cases h
      exact ⟨rfl, hbounded⟩
    · cases h
  · cases h

theorem bounded_str {text : String} (h : isBounded text = true) : bounded (.str text) = some text :=
  if_pos h

/-- The review keeps an allocation beside the portfolio, the date and the currency of the
request. -/
structure Retains (request allocation snapshot : Fields) : Prop where
  allocation : Json.lookup snapshot "allocation" = some (.obj allocation)
  portfolio : get snapshot "portfolio_id" = get (asDict (get request "scope")) "portfolio_id"
  date : get snapshot "as_of_date" = get request "as_of_date"
  currency : get snapshot "reportingCurrency" = get request "reporting_currency"

theorem capturedQualification_of_dump {q : AllocationQualification} (hvalid : q.Valid)
    (hdump : get allocation "qualification" = q.dump)
    (hbound : isBound lib snapshot allocation q = true) :
    capturedQualification lib snapshot allocation = (q, false) := by
  rw [capturedQualification, hdump, AllocationQualification.validate_dump hvalid]
  exact if_pos hbound

theorem presentAllocation_settled {q : AllocationQualification} {pid : String}
    (hdistinct : Distinct allocation)
    (hpid : bounded (get snapshot "portfolio_id") = some pid)
    (hviews : ∀ key ∈ dimensionKeys, ∀ view ∈ Json.lookup allocation key,
      SettledView lib (.str pid) view)
    (hcaptured : capturedQualification lib snapshot allocation = (q, false))
    (hstatus : q.status = .complete) (hallowed : q.clientPublicationAllowed = true)
    (hcomplete : q.coverageComplete = true)
    (hcheck : contradictorySourceNumbers lib (get allocation "valuation_coverage")
      (get allocation "total_market_value_reporting_currency") allocation = .ok false)
    (hqualification : Json.lookup allocation "qualification" = some q.dump)
    (hsupportability : Json.lookup allocation "supportability" = some (supportability q)) :
    presentAllocation lib snapshot allocation = .ok allocation := by
  have hrows : presentedRows lib snapshot allocation = (allocation, false, false) := by
    rw [presentedRows_bound hcaptured, hpid]
    exact presentSnapshotBuckets_settled hdistinct hviews
  have hpresented : presentedQualification q false false false = q := by
    unfold presentedQualification
    simp only [Bool.false_and, Bool.false_eq_true, if_false, hallowed, hstatus, hcomplete,
      beq_self_eq_true, Bool.and_self]
    rw [← hallowed, ← hstatus]
  refine bind_eq_ok.mpr ⟨false, ?_, ?_⟩
  · rw [hrows]
    exact hcheck
  · have hvalid : (q.status == .invalid || (false && !false)) = false := by rw [hstatus]; rfl
    rw [hrows, hcaptured]
    show Except.ok (Json.assign (Json.assign (if (q.status == .invalid || (false && !false)) = true
        then suppressWeights allocation else allocation) "supportability"
          (supportability (presentedQualification q false false false))) "qualification"
            (presentedQualification q false false false).dump) = Except.ok allocation
    rw [hpresented, hvalid, if_neg Bool.false_ne_true, assign_of_lookup hdistinct hsupportability,
      assign_of_lookup hdistinct hqualification]

/-- The totals and the buckets are those of the laid out views, so the check agrees with the one
that the capture made. -/
theorem contradictoryCoveredNumbers_restated (hlib : lib.Restates) {mapped : Fields}
    {state : CoverageState} {total : Json} {viewTotals : List Json}
    (hsame : ∀ key ∈ dimensionKeys, Json.lookup allocation key = Json.lookup mapped key)
    (h : contradictoryCoveredNumbers lib state.text mapped (total :: viewTotals) = false) :
    contradictoryCoveredNumbers lib state.text allocation
      (ofNumber (allocationNumber lib total) :: viewTotals) = false := by
  have hat : ∀ key ∈ dimensionKeys, bucketsAt allocation key = bucketsAt mapped key :=
    fun key hkey => congrArg bucketsIn (get_eq_of_lookup (hsame key hkey))
  have hbuckets : bucketsOf allocation = bucketsOf mapped := List.flatMap_congr hat
  have hzero : IsZero lib (ofNumber (allocationNumber lib total)) ↔ IsZero lib total := by
    unfold IsZero
    rw [allocationNumber_ofNumber hlib]
  rw [contradictoryCoveredNumbers_eq_false] at h ⊢
  rw [List.forall_mem_cons, List.forall_mem_cons] at h ⊢
  obtain ⟨⟨⟨key, hkey, hsome⟩, hfilled⟩, hstated, hnumbers⟩ := h
  refine ⟨⟨⟨key, hkey, ?_⟩, fun key hkey hsome => ?_⟩, ?_, ?_⟩
  · rw [hsame key hkey]
    exact hsome
  · rw [hsame key hkey] at hsome
    rw [hat key hkey]
    exact hfilled key hkey hsome
  · rw [allocationNumber_ofNumber hlib]
    exact hstated
  · rw [hbuckets, hzero]
    exact hnumbers

theorem settledView_of_captured (hlib : lib.Restates) {portfolioId : Json} {mapped : Fields}
    (hmapped : CapturedViews lib portfolioId mapped)
    (hfigures : ∀ row ∈ bucketsOf mapped, get row "weight" ≠ .null ∧ get row "market_value" ≠ .null)
    {key : String} (hkey : key ∈ dimensionKeys) {view : Json}
    (hview : Json.lookup mapped key = some view) : SettledView lib portfolioId view := by
  have hown : ∀ {row : Fields} {name : String} {value : Json},
      Json.lookup row name = some (ofNumber (allocationNumber lib value)) → get row name ≠ .null →
      ∃ text, Json.lookup row name = some (.float text) ∧
        allocationNumber lib (.float text) = some text := by
    intro row name value hlookup hstated
    have hget : get row name = ofNumber (allocationNumber lib value) := get_of_lookup hlookup
    cases hnumber : allocationNumber lib value with
    | none =>
        rw [hget, hnumber] at hstated
        exact absurd rfl hstated
    | some text =>
        rw [hnumber] at hlookup
        exact ⟨text, hlookup, allocationNumber_float hlib hnumber⟩
  obtain ⟨rows, rfl, hall⟩ := hmapped.views key hkey view hview
  refine ⟨rows, rfl, fun item hitem => ?_⟩
  obtain ⟨row, rfl, hrow⟩ := hall item hitem
  have hmem : row ∈ bucketsOf mapped := by
    refine List.mem_flatMap.mpr ⟨key, hkey, ?_⟩
    have hget : get mapped key = .arr rows := get_of_lookup hview
    rw [bucketsAt, hget]
    exact List.mem_map.mpr ⟨.obj row, hitem, rfl⟩
  obtain ⟨hweight, hvalue⟩ := hfigures row hmem
  obtain ⟨_, hweightAt⟩ := hrow.weight
  obtain ⟨_, hvalueAt⟩ := hrow.value
  exact ⟨row, rfl, hrow.grouped, hrow.distinct, hrow.wellFormed, hown hweightAt hweight,
    hown hvalueAt hvalue⟩

theorem mapSourceAllocation_publishable
    (hcapture : mapSourceAllocation lib payload request = .ok allocation)
    (hpublishable : get (asDict (get allocation "qualification")) "client_publication_allowed" =
      .bool true) :
    ∃ (mapped : Fields) (c : AllocationValuationCoverage),
      sourceBinding lib payload request = .ok true ∧
      CapturedViews lib (get (asDict (get request "scope")) "portfolio_id") mapped ∧
      (∀ row ∈ bucketsOf mapped, get row "weight" ≠ .null ∧ get row "market_value" ≠ .null) ∧
      AllocationValuationCoverage.validate (get payload "valuation_coverage") = .ok c ∧
      c.coverageState ∈ publishableStates ∧
      contradictorySourceNumbers lib (get payload "valuation_coverage")
        (get payload "total_market_value_reporting_currency") mapped = .ok false ∧
      allocation = completed lib payload mapped (publishedQualification payload c) := by
  obtain ⟨bound, mapped, contradictory, hbinding, hbound, hmapped, hcheck, malformed, hclean,
    rfl⟩ := mapSourceAllocation_spec hcapture
  have hallowed : (qualify payload mapped.1 malformed).clientPublicationAllowed = true := by
    rw [get_of_lookup lookup_completed_qualification] at hpublishable
    exact Json.bool.inj hpublishable
  obtain ⟨hmalformed, c, hread, hstate, hfigures, hq⟩ := qualify_allowed hallowed
  obtain ⟨hviewsClean, rfl⟩ := hclean hmalformed
  have hlaid : mapSourceViews lib (get (asDict (get request "scope")) "portfolio_id")
      (asList (get payload "views")) [("view_totals", .obj [])] = .ok (mapped.1, false) := by
    rw [hmapped, ← hviewsClean]
  have hcovered : get payload "valuation_coverage" ≠ .null := by
    intro hnull
    rw [hnull] at hread
    cases hread
  rw [hbound hcovered] at hbinding
  refine ⟨mapped.1, c, hbinding, mapSourceViews_clean (capturedViews_nil lib _) hlaid, hfigures,
    hread, hstate, hcheck, ?_⟩
  rw [hq]
  rfl

theorem valid_published {c : AllocationValuationCoverage} {pid date code : String}
    (hstate : c.coverageState ∈ publishableStates) (hpid : isBounded pid = true)
    (hdate : isIsoDate date = true) (hcode : isCurrency code = true) :
    AllocationQualification.Valid
      { status := .complete
        reasonCode := .valuationComplete
        coverage := some c
        sourcePortfolioId := some pid
        sourceAsOfDate := some date
        sourceReportingCurrency := some code
        clientPublicationAllowed := true } := by
  have hcontains : publishableStates.contains c.coverageState = true :=
    List.contains_iff_mem.mpr hstate
  refine ⟨?_, ?_, ?_, ?_⟩
  · simp only [AllocationQualification.coherent, AllocationQualification.coverageComplete,
      Option.any_some, hcontains]
    rfl
  · rintro _ ⟨⟩
    exact hpid
  · rintro _ ⟨⟩
    exact hdate
  · rintro _ ⟨⟩
    exact hcode

theorem snapshotAllocation_of_lookup {requested : Bool} {original : Fields}
    (h : Json.lookup snapshot "allocation" = some (.obj original)) (hne : original ≠ []) :
    snapshotAllocation lib snapshot requested = presentAllocation lib snapshot original := by
  rw [snapshotAllocation, h]
  cases original with
  | nil => exact absurd rfl hne
  | cons field fields => rfl

/-- An allocation that was captured as publishable is presented unchanged in the snapshot that
retains it, where the portfolio identifier is bounded and a reporting currency is stated. -/
theorem presented_as_captured {pid : String} (requested : Bool) (hlib : lib.Restates)
    (hcapture : mapSourceAllocation lib payload request = .ok allocation)
    (hpublishable : get (asDict (get allocation "qualification")) "client_publication_allowed" =
      .bool true)
    (hretains : Retains request allocation snapshot)
    (hpid : bounded (get snapshot "portfolio_id") = some pid)
    (hcurrency : get snapshot "reportingCurrency" ≠ .null) :
    snapshotAllocation lib snapshot requested = .ok allocation := by
  obtain ⟨mapped, c, hbinding, hviews, hfigures, hread, hstate, hcheck, rfl⟩ :=
    mapSourceAllocation_publishable hcapture hpublishable
  obtain ⟨hpidText, hpidBounded⟩ := bounded_isBounded hpid
  obtain ⟨hportfolio, date, code, hdate, hiso, hasOf, hcode, hcurrencyCode, hstated⟩ :=
    sourceBinding_true hbinding
  rw [← hretains.portfolio, hpidText] at hportfolio hviews
  rw [pyEq_str_right] at hportfolio
  rw [← hretains.date] at hasOf
  rw [← hretains.currency] at hstated
  have hq : publishedQualification payload c =
      { status := .complete
        reasonCode := .valuationComplete
        coverage := some c
        sourcePortfolioId := some pid
        sourceAsOfDate := some date
        sourceReportingCurrency := some code
        clientPublicationAllowed := true } := by
    rw [publishedQualification, hportfolio, hdate, hcode, bounded_str hpidBounded, textOrNone,
      textOrNone, if_pos hiso, if_pos hcurrencyCode]
  have hvalid : (publishedQualification payload c).Valid := by
    rw [hq]
    exact valid_published hstate hpidBounded hiso hcurrencyCode
  have hbound : isBound lib snapshot
      (completed lib payload mapped (publishedQualification payload c))
      (publishedQualification payload c) = true := by
    rw [isBound, get_of_lookup lookup_completed_coverage, hq, hpidText, hasOf, hstated hcurrency]
    simp [Json.ofText?, pyEq_coverage]
  have hviewed : ∀ key ∈ dimensionKeys,
      Json.lookup (completed lib payload mapped (publishedQualification payload c)) key =
        Json.lookup mapped key :=
    fun key hkey => lookup_completed fun hmem => dimensionKeys_not_completed key hkey hmem
  rw [snapshotAllocation_of_lookup hretains.allocation]
  · refine presentAllocation_settled (distinct_completed hviews.distinct) hpid ?_
      (capturedQualification_of_dump hvalid (get_of_lookup lookup_completed_qualification) hbound)
      rfl rfl ?_ ?_ lookup_completed_qualification lookup_completed_supportability
    · intro key hkey view hview
      rw [hviewed key hkey] at hview
      exact settledView_of_captured hlib hviews hfigures hkey hview
    · exact (hvalid.allowed rfl).2.1
    · rw [contradictorySourceNumbers_publishable _ hstate (get_state hread)] at hcheck
      rw [get_of_lookup lookup_completed_coverage, get_of_lookup lookup_completed_total,
        contradictorySourceNumbers_publishable _ hstate (by rfl)]
      have htotals : viewTotalsOf
          (completed lib payload mapped (publishedQualification payload c)) =
          viewTotalsOf mapped := by
        rw [viewTotalsOf, lookup_completed (by decide), viewTotalsOf]
      rw [htotals]
      cases hviewTotals : viewTotalsOf mapped with
      | none =>
          rw [hviewTotals] at hcheck
          cases hcheck
      | some viewTotals =>
          rw [hviewTotals] at hcheck
          exact congrArg Except.ok
            (contradictoryCoveredNumbers_restated hlib hviewed (Except.ok.inj hcheck))
  · exact completed_ne_nil

/-- A statement that one position was valued. -/
def sampleCoverage : AllocationValuationCoverage where
  coverageState := .complete
  coverageReason := .allSourcePositionsCovered
  snapshotRowCount := 1
  expectedOpenPositionCount := 1
  valuedPositionCount := 1
  unvaluedPositionCount := 0
  coherent := by decide

/-- A request for the allocation of a portfolio by asset class. -/
def sampleRequest : Fields :=
  [ ("scope", .obj [("portfolio_id", .str "PB-1")]),
    ("as_of_date", .str "2026-05-03"),
    ("reporting_currency", .str "USD"),
    ("dimensions", .arr [.str "asset_class"]) ]

/-- The answer of the source, with one bucket. -/
def samplePayload : Fields :=
  [ ("scope_type", .str "portfolio"),
    ("scope", .obj [("portfolio_id", .str "PB-1")]),
    ("resolved_as_of_date", .str "2026-05-03"),
    ("reporting_currency", .str "USD"),
    ("total_market_value_reporting_currency", .str "60.0"),
    ("valuation_coverage", sampleCoverage.dump),
    ("views", .arr
      [ .obj
        [ ("dimension", .str "asset_class"),
          ("total_market_value_reporting_currency", .str "60.0"),
          ("buckets", .arr
            [ .obj
              [ ("dimension_value", .str "Equity"), ("weight", .str "1.0"),
                ("market_value_reporting_currency", .str "60.0"),
                ("position_count", .int 1) ] ]) ] ]) ]

/-- The allocation that is captured. -/
def sampleAllocation : Fields :=
  [ ("view_totals", .obj [("byAssetClass", .float "60.0")]),
    ("byAssetClass", .arr [sampleBucket (.float "1.0") (.float "60.0")]),
    ("total_market_value_reporting_currency", .float "60.0"),
    ("valuation_coverage", sampleCoverage.dump),
    ("qualification", (publishedQualification samplePayload sampleCoverage).dump),
    ("supportability", supportability (publishedQualification samplePayload sampleCoverage)) ]

/-- The snapshot that retains it. -/
def sampleSnapshot : Fields :=
  [ ("portfolio_id", .str "PB-1"),
    ("as_of_date", .str "2026-05-03"),
    ("reportingCurrency", .str "USD"),
    ("allocation", .obj sampleAllocation) ]

theorem restates_sampleLibrary : sampleLibrary.Restates := by
  intro d r hr
  by_cases hone : d = ⟨false, 10, -1⟩
  · rw [hone] at hr ⊢
    refine ⟨⟨false, 10, -1⟩, rfl, rfl, ?_⟩
    have hr' : FloatValue.finite 1 = .finite r := hr
    cases hr'
    exact fun hzero => absurd hzero one_ne_zero
  · by_cases hsixty : d = ⟨false, 600, -1⟩
    · rw [hsixty] at hr ⊢
      refine ⟨⟨false, 600, -1⟩, rfl, rfl, ?_⟩
      have hr' : FloatValue.finite 60 = .finite r := hr
      cases hr'
      exact fun hzero => absurd hzero (by norm_num)
    · have htext : sampleLibrary.floatOf d = "0.0" := by
        show (if d = ⟨false, 10, -1⟩ then "1.0"
          else if d = ⟨false, 600, -1⟩ then "60.0" else "0.0") = _
        rw [if_neg hone, if_neg hsixty]
      rw [htext]
      exact ⟨⟨false, 0, -1⟩, rfl, rfl, fun _ => rfl⟩

/-- The sample is captured and presented unchanged. -/
theorem presented_as_captured_sample :
    snapshotAllocation sampleLibrary sampleSnapshot true = .ok sampleAllocation :=
  presented_as_captured true restates_sampleLibrary
    (show mapSourceAllocation sampleLibrary samplePayload sampleRequest =
      .ok sampleAllocation by rfl)
    rfl ⟨rfl, rfl, rfl, rfl⟩ (show bounded _ = some "PB-1" by rfl) (by decide)

end RoundTrip

end LotusReport.Allocation
