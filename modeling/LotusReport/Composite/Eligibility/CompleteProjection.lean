import LotusReport.Composite.Eligibility.Corrections
import LotusReport.Composite.Eligibility.RowIds

/-!
# The projection is complete

The tables of an admitted report are its expected rows, no more and no fewer.
-/

namespace LotusReport.Composite.Eligibility

open Encoding Fallible

section Admission

variable {lib : SourceLibrary} {co : Coercions} {isDecimal : String → Bool}

theorem exists_reasonsOf {item : Json} {kind : String} {fields : List (String × Bool × Schema)}
    {isOpen : Bool} (h : (Schema.object isOpen fields).accepts co isDecimal item = true)
    (hfield : (kind, true, Schema.list 0 none anyText) ∈ fields) :
    ∃ reasons, reasonsOf item kind = .ok reasons := by
  obtain ⟨_, hvalue, hlist⟩ := subscript_of_accepts h hfield
  obtain ⟨items, rfl, hitems⟩ := Schema.accepts_list hlist
  have htexts : ∀ item ∈ items, ∃ text, textOf item = .ok text := by
    intro item hitem
    obtain ⟨text, rfl⟩ := Schema.accepts_text (hitems item hitem)
    exact ⟨text, rfl⟩
  obtain ⟨texts, htexts⟩ := exists_mapM_eq textOf htexts
  exact ⟨texts.map Json.str, bind_eq_ok.mpr ⟨_, hvalue, bind_eq_ok.mpr ⟨_, rfl,
    bind_eq_ok.mpr ⟨texts, htexts, rfl⟩⟩⟩⟩

theorem exists_readAssessment {item : Json}
    (h : eligibilityAssessment.accepts co isDecimal item = true) :
    ∃ a, readAssessment item = .ok a := by
  obtain ⟨rule, hrule, -⟩ := subscript_of_accepts h
    (show ("rule", true, Schema.literal ["SIGNIFICANT_FLOW", "CASH", "READINESS"]) ∈ _ by
      simp [field])
  obtain ⟨failures, hfailures⟩ := exists_reasonsOf h
    (show ("failure_reasons", true, Schema.list 0 none anyText) ∈ _ by simp [field])
  obtain ⟨unknowns, hunknowns⟩ := exists_reasonsOf h
    (show ("unknown_reasons", true, Schema.list 0 none anyText) ∈ _ by simp [field])
  exact ⟨⟨item, rule, failures, unknowns⟩, bind_eq_ok.mpr ⟨_, hrule,
    bind_eq_ok.mpr ⟨_, hfailures, bind_eq_ok.mpr ⟨_, hunknowns, rfl⟩⟩⟩⟩

theorem exists_readMember {item : Json} (h : eligibilityMember.accepts co isDecimal item = true) :
    ∃ member, readMember item = .ok member := by
  obtain ⟨_, hvalue, hlist⟩ := subscript_of_accepts h
    (show ("assessments", true, Schema.list 3 (some 3) eligibilityAssessment) ∈ _ by simp [field])
  obtain ⟨items, rfl, hitems⟩ := Schema.accepts_list hlist
  obtain ⟨assessments, hassessments⟩ :=
    exists_mapM_eq readAssessment fun a ha => exists_readAssessment (hitems a ha)
  exact ⟨⟨item, assessments⟩, bind_eq_ok.mpr ⟨_, hvalue, bind_eq_ok.mpr ⟨_, rfl,
    bind_eq_ok.mpr ⟨_, hassessments, rfl⟩⟩⟩⟩

theorem exists_readMembers {evaluation : Json}
    (h : eligibilityEvaluation.accepts co isDecimal evaluation = true) :
    ∃ items members, subscript evaluation "portfolios" = .ok (.arr items) ∧
      items.mapM readMember = .ok members := by
  obtain ⟨_, hvalue, hlist⟩ := subscript_of_accepts h
    (show ("portfolios", true, Schema.list 1 (some 1000) eligibilityMember) ∈ _ by simp [field])
  obtain ⟨items, rfl, hitems⟩ := Schema.accepts_list hlist
  obtain ⟨members, hmembers⟩ :=
    exists_mapM_eq readMember fun item hitem => exists_readMember (hitems item hitem)
  exact ⟨items, members, hvalue, hmembers⟩

theorem exists_readMembership {month item : Json} {product : String}
    (hitem : subscript month product = .ok item) (h : eligibilityVerdict lib item = .ok ()) :
    ∃ membership, readMembership month product = .ok membership := by
  obtain ⟨decisions, -, hdecisions, -⟩ := decisionsOf_of_verdict h
  exact ⟨_, bind_eq_ok.mpr ⟨_, hitem, bind_eq_ok.mpr ⟨_, hdecisions,
    bind_eq_ok.mpr ⟨decisions, rfl, rfl⟩⟩⟩⟩

/-- A month that admission accepts under a pin, whatever the version. -/
def Admitted (lib : SourceLibrary) (pin : MonthPin) (month : Json) : Prop :=
  ∃ selection version, requireSourceMonth lib selection version pin month = .ok ()

theorem kind_of_pin {pin : MonthPin} {month value : Json}
    (h : lib.differ (given (evidenceKind pin.evidence)) (getItem month "evidence_kind") = .ok false)
    (hvalue : subscript month "evidence_kind" = .ok value) :
    value = .str (evidenceKind pin.evidence) := by
  rw [lib.differ_eq_false] at h
  have hget := lib.same_text_left.mp h
  obtain ⟨fields, rfl, hlookup⟩ := subscript_eq_ok.mp hvalue
  rw [getItem, hlookup] at hget
  exact Except.ok.inj hget

theorem published_kind (evidence : PinnedEvidence) :
    (evidenceKind evidence == "PUBLISHED") = isPublished evidence := by
  unfold evidenceKind
  cases isPublished evidence <;> decide

theorem Admitted.exists_readMonth {pin : MonthPin} {month : Json} (h : Admitted lib pin month) :
    ∃ s, readMonth month = .ok s := by
  obtain ⟨selection, version, h⟩ := h
  simp only [requireSourceMonth, bind_eq_ok] at h
  obtain ⟨_, hpinned, _, -, proposal, hproposal, _, hvalid, _, -, _, -, _, -, _, -,
    hpublication⟩ := h
  rw [refuseIf_eq_ok] at hpinned
  obtain ⟨kind, hkind, hproposal⟩ := bind_eq_ok.mp hproposal
  have hpin := kind_of_pin hpinned hkind
  subst hpin
  have hread : readAt month (proposalPath (evidenceKind pin.evidence == "PUBLISHED")) =
      .ok proposal := by
    rw [published_kind]
    unfold evidenceKind at hproposal
    cases hpublished : isPublished pin.evidence with
    | true =>
        rw [hpublished, if_pos rfl, if_pos (lib.eq_text.mpr rfl)] at hproposal
        exact hproposal
    | false =>
        rw [hpublished, if_neg Bool.false_ne_true,
          if_neg fun heq => absurd (Json.str.inj (lib.eq_text.mp heq)) (by decide)] at hproposal
        rw [proposalPath, if_neg Bool.false_ne_true, readAt_singleton]
        exact hproposal
  simp only [requireProposal, bind_eq_ok] at hvalid
  obtain ⟨_, hpopulation, -⟩ := hvalid
  obtain ⟨evaluation, hevaluation, -⟩ := bind_eq_ok.mp hpopulation
  obtain ⟨hevaluation, haccepts⟩ := evaluationForVersion_eq_ok hevaluation
  obtain ⟨items, members, hitems, hmembers⟩ := exists_readMembers haccepts
  have hmemberships : ∃ memberships,
      readMemberships month (evidenceKind pin.evidence) = .ok memberships := by
    unfold readMemberships
    cases hpublished : isPublished pin.evidence with
    | true =>
        obtain ⟨accepted⟩ := requirePublication_accepted hpublished hpublication
        rw [if_neg (by simp [evidenceKind, hpublished])]
        apply exists_mapM_eq
        simp only [membershipProducts, List.forall_mem_cons, List.not_mem_nil, false_implies,
          implies_true, and_true]
        exact ⟨exists_readMembership accepted.parentRead accepted.parentVerdict,
          exists_readMembership accepted.memberRead accepted.memberVerdict⟩
    | false =>
        rw [if_pos (by simp [evidenceKind, hpublished])]
        exact ⟨[], rfl⟩
  obtain ⟨memberships, hmemberships⟩ := hmemberships
  refine ⟨⟨month, evidenceKind pin.evidence, evaluation, members, memberships⟩,
    bind_eq_ok.mpr ⟨_, hkind, bind_eq_ok.mpr ⟨_, rfl, bind_eq_ok.mpr ⟨evaluation, ?_, ?_⟩⟩⟩⟩
  · refine readAt_append.mpr ⟨proposal, hread, ?_⟩
    rw [readAt_singleton]
    exact hevaluation
  · exact bind_eq_ok.mpr ⟨_, hitems, bind_eq_ok.mpr ⟨_, rfl, bind_eq_ok.mpr ⟨_, hmembers,
      bind_eq_ok.mpr ⟨_, hmemberships, rfl⟩⟩⟩⟩

/-- The months of a report were admitted one by one under their pins. -/
theorem requireSourceMonths_admitted {selection : EligibilitySelection} {months : List Json}
    {version : String} (h : requireSourceMonths lib selection months version = .ok ()) :
    List.Forall₂ (Admitted lib) selection.months months := by
  obtain ⟨_, hlength, hmonths⟩ := bind_eq_ok.mp h
  rw [refuseIf_eq_ok, Except.ok.injEq, bne_eq_false_iff_eq] at hlength
  rw [List.forall₂_iff_zip]
  refine ⟨hlength.symm, fun {pin month} hpair => ?_⟩
  exact ⟨selection, version, forM_eq_ok.mp hmonths (pin, month) hpair⟩

theorem requireMonths_admitted {selection : EligibilitySelection} {months : List Json}
    (h : requireMonths lib selection months = .ok ()) :
    List.Forall₂ (Admitted lib) selection.months months := by
  obtain ⟨_, hlength, hmonths⟩ := bind_eq_ok.mp h
  rw [require_eq_ok, Except.ok.injEq, beq_iff_eq] at hlength
  rw [List.forall₂_iff_zip]
  refine ⟨hlength, fun {pin month} hpair => ?_⟩
  obtain ⟨_, hmonth, -⟩ := bind_eq_ok.mp (forM_eq_ok.mp hmonths (pin, month) hpair)
  have hadmitted := requireSourceMonths_admitted hmonth
  exact (List.forall₂_cons.mp hadmitted).1

/-- The months that a family admits. -/
def requireFamilyMonths (lib : SourceLibrary) (selection : EligibilitySelection)
    (months : List Json) : Except CaptureError Unit :=
  if selection.family = .original then requireSourceMonths lib selection months "v1"
  else if selection.family = .amendment then requireAmendmentMonths lib selection months
  else requireMonths lib selection months

theorem requireFamilyMonths_admitted {selection : EligibilitySelection} {months : List Json}
    (h : requireFamilyMonths lib selection months = .ok ()) :
    List.Forall₂ (Admitted lib) selection.months months := by
  unfold requireFamilyMonths at h
  split at h
  · exact requireSourceMonths_admitted h
  · split at h
    · obtain ⟨_, hmonths, -⟩ := bind_eq_ok.mp h
      exact requireSourceMonths_admitted hmonths
    · exact requireMonths_admitted h

theorem exists_readMonths {pins : List MonthPin} {months : List Json}
    (h : List.Forall₂ (Admitted lib) pins months) :
    ∃ sources, months.mapM readMonth = .ok sources ∧ sources.length = pins.length := by
  have heach : ∀ month ∈ months, ∃ s, readMonth month = .ok s := by
    induction h with
    | nil => exact fun _ hmonth => absurd hmonth List.not_mem_nil
    | cons hhead _ ih => exact List.forall_mem_cons.mpr ⟨hhead.exists_readMonth, ih⟩
  obtain ⟨sources, hsources⟩ := exists_mapM_eq readMonth heach
  exact ⟨sources, hsources, (mapM_eq_ok.mp hsources).length_eq.symm.trans h.length_eq.symm⟩

end Admission

section Tables

variable {lib : SourceLibrary} {selection : EligibilitySelection} {months : List Json}
  {sources : List MonthSource}

theorem monthAt_place (hread : months.mapM readMonth = .ok sources)
    {place : (MonthPin × MonthSource) × Nat}
    (h : place ∈ (selection.months.zip sources).zipIdx) :
    MonthAt (eligibilityData selection months) ⟨place.2, place.1.1, place.1.2⟩ := by
  obtain ⟨hpin, hsource⟩ :=
    List.getElem?_zip_eq_some.mp (List.mem_zipIdx_iff_getElem?.mp h)
  rw [mapM_eq_ok, List.forall₂_iff_get] at hread
  obtain ⟨hlength, hget⟩ := hread
  obtain ⟨hbound, hvalue⟩ := List.getElem?_eq_some_iff.mp hsource
  have hin : place.2 < months.length := hlength ▸ hbound
  have hmonth : readMonth months[place.2] = .ok place.1.2 := by
    rw [← hvalue]
    exact hget place.2 hin hbound
  exact monthAt_eligibilityData hpin (List.getElem?_eq_getElem hin) hmonth

/-- What the loops of `eligibility_tables` append. -/
theorem emits_tables (hread : months.mapM readMonth = .ok sources)
    (hlength : sources.length = selection.months.length) :
    Emits (eligibilityData selection months)
      (expectedRows lib selection.family (monthPlaces selection.months sources))
      (appendAll
        [ appendAll ((List.range months.length).map
            (monthRows lib (eligibilityData selection months))),
          disclosureRows lib (eligibilityData selection months) ]) := by
  have hdisclosures : readAt (eligibilityData selection months) ["report_facts", "disclosures"] =
      .ok (.arr (eligibilityDisclosures ++ (addedFacts selection.family).disclosures)) := by
    rw [readAt_of_subscript subscript_reportFacts, readAt_singleton]
    simp [subscript, factsWith, Json.lookup]
  have hplaces : (selection.months.zip sources).length = months.length := by
    rw [List.length_zip, hlength, Nat.min_self, ← hlength, ← (mapM_eq_ok.mp hread).length_eq]
  rw [← hplaces]
  have hmonths : Emits (eligibilityData selection months)
      (fun table => (selection.months.zip sources).zipIdx.flatMap fun place =>
        expectedRowsOf lib ⟨place.2, place.1.1, place.1.2⟩ table)
      (appendAll ((List.range (selection.months.zip sources).length).map
        (monthRows lib (eligibilityData selection months)))) :=
    emits_range _ fun place hplace =>
      emits_monthRows factsAt_eligibilityData (monthAt_place hread hplace)
  refine (hmonths.cons ((emits_disclosureRows hdisclosures
    (disclosures_stated selection.family)).cons emits_nil)).congr fun t => ?_
  rw [List.append_nil, expectedRows, monthPlaces, List.flatMap_map]
  rfl

/-- A table of a report: the columns of its fields, and the expected rows, each with an id of its
own. -/
structure TableShown (lib : SourceLibrary) (selection : EligibilitySelection) (data : Json)
    (months : List MonthPlace) (id : EligibilityTableId) (table : EligibilityTable) : Prop where
  tableId : table.tableId = id
  columns : table.columns = (tableFields id).map fun field =>
    columnPolicy field (.str selection.reportingCurrency)
  rows : List.Forall₂ (Shown data id) (expectedRows lib selection.family months id) table.rows
  distinct : (table.rows.map fun row => row.rowId).Nodup

/-- The expected rows of a report can be shown: their values are scalars, and no table has more
of them than it may have. -/
structure Presentable (lib : SourceLibrary) (family : EligibilityFamily)
    (months : List MonthPlace) : Prop where
  scalars : ∀ table, ∀ source ∈ expectedRows lib family months table,
    presentable table source = true
  capacity : ∀ table, (expectedRows lib family months table).length ≤ tableCapacity

/-- Every expected row has its row. -/
theorem exists_of_forall₂ {α β : Type} {R : α → β → Prop} {xs : List α} {ys : List β}
    (h : List.Forall₂ R xs ys) {x : α} (hx : x ∈ xs) : ∃ y ∈ ys, R x y := by
  induction h with
  | nil => cases hx
  | @cons a b xs ys hhead _ ih =>
      rcases List.mem_cons.mp hx with rfl | hx
      · exact ⟨b, List.mem_cons_self, hhead⟩
      · obtain ⟨y, hy, hr⟩ := ih hx
        exact ⟨y, List.mem_cons_of_mem _ hy, hr⟩

theorem presentable_of_shown {data : Json} {table : EligibilityTableId} {source : RowSource}
    {row : CompositeRow} (h : Shown data table source row) : presentable table source = true := by
  unfold presentable
  rw [List.all_eq_true]
  intro field hfield
  obtain ⟨entry, -, -, v, hvalue, -, hscalar, -⟩ := exists_of_forall₂ h.2 hfield
  rw [hvalue]
  exact hscalar

theorem rowIds_of_shown {data : Json} {table : EligibilityTableId} {expected : List RowSource}
    {rows : List CompositeRow} (h : List.Forall₂ (Shown data table) expected rows) :
    (rows.map fun row => row.rowId) = idsOf expected := by
  induction h with
  | nil => rfl
  | cons hhead _ ih => rw [List.map_cons, hhead.1, ih, idsOf, idsOf, List.map_cons]

theorem mem_tableIds (table : EligibilityTableId) : table ∈ tableIds := by
  cases table <;> decide

/-- What `eligibility_tables` returns, and when. -/
theorem eligibilityTables_eq_ok (hread : months.mapM readMonth = .ok sources)
    (hlength : sources.length = selection.months.length) :
    ((∃ tables, eligibilityTables lib (eligibilityData selection months) = .ok tables) ↔
      Presentable lib selection.family (monthPlaces selection.months sources)) ∧
    ∀ tables, eligibilityTables lib (eligibilityData selection months) = .ok tables →
      List.Forall₂ (TableShown lib selection (eligibilityData selection months)
        (monthPlaces selection.months sources)) tableIds tables := by
  have hrows : Emits _ (expectedRows lib _ _) _ := emits_tables hread hlength
  have hids : ∀ table, (idsOf (expectedRows lib selection.family
      (monthPlaces selection.months sources) table)).Nodup :=
    nodup_expectedRows (map_item_of_mapM readMonth_read hread).2
  have hcurrency : readAt (eligibilityData selection months) ["selection", "reporting_currency"] =
      .ok (.str selection.reportingCurrency) := by
    rw [readAt_of_subscript subscript_selection, readAt_singleton, subscript_currency]
  have hrun : ∀ tables, eligibilityTables lib (eligibilityData selection months) = .ok tables →
      Presentable lib selection.family (monthPlaces selection.months sources) ∧
        List.Forall₂ (TableShown lib selection (eligibilityData selection months)
          (monthPlaces selection.months sources)) tableIds tables := by
    intro tables htables
    obtain ⟨_, hmonths, htables⟩ := bind_eq_ok.mp htables
    cases subscript_sourceMonths.symm.trans hmonths
    obtain ⟨_, hitems, htables⟩ := bind_eq_ok.mp htables
    cases hitems
    obtain ⟨appended, happended, htables⟩ := bind_eq_ok.mp htables
    have hshown := hrows.shown appended happended
    split at htables
    · cases htables
    · rename_i hcapacity
      obtain ⟨currency, hread, hdone⟩ := bind_eq_ok.mp htables
      cases hcurrency.symm.trans hread
      cases hdone
      refine ⟨⟨?_, ?_⟩, ?_⟩
      · intro table source hsource
        obtain ⟨row, -, hrow⟩ := exists_of_forall₂ (hshown table) hsource
        exact presentable_of_shown hrow
      · intro table
        by_contra hfull
        refine hcapacity (List.any_eq_true.mpr ⟨table, mem_tableIds table, ?_⟩)
        rw [(hshown table).length_eq] at hfull
        exact decide_eq_true (Nat.lt_of_not_le hfull)
      · rw [List.forall₂_map_right_iff, List.forall₂_same]
        intro table _
        refine ⟨rfl, rfl, hshown table, ?_⟩
        rw [rowIds_of_shown (hshown table)]
        exact hids table
  refine ⟨⟨fun ⟨tables, htables⟩ => (hrun tables htables).1, fun hpresentable => ?_⟩,
    fun tables htables => (hrun tables htables).2⟩
  obtain ⟨appended, happended⟩ := hrows.emitted hpresentable.scalars
  have hshown := hrows.shown appended happended
  have hcapacity : ¬(tableIds.any fun table =>
      tableCapacity < (rowsFor table appended).length) = true := by
    rw [List.any_eq_true]
    rintro ⟨table, -, hfull⟩
    have hbound := hpresentable.capacity table
    rw [(hshown table).length_eq] at hbound
    exact absurd (of_decide_eq_true hfull) (Nat.not_lt_of_le hbound)
  refine ⟨tableIds.map fun table => ⟨table,
      (tableFields table).map fun field => columnPolicy field (.str selection.reportingCurrency),
      rowsFor table appended⟩,
    bind_eq_ok.mpr ⟨_, subscript_sourceMonths, bind_eq_ok.mpr ⟨months, rfl,
      bind_eq_ok.mpr ⟨appended, happended, ?_⟩⟩⟩⟩
  rw [if_neg hcapacity]
  exact bind_eq_ok.mpr ⟨_, hcurrency, rfl⟩

/-- The projection of an admitted report is complete: every month was read, the tables are
returned exactly when the expected rows can be shown, and their rows are then the expected ones
of the months, one by one and in their order. -/
theorem eligibilityTables_complete (lib : SourceLibrary) (selection : EligibilitySelection)
    (months : List Json) (h : requireFamilyMonths lib selection months = .ok ()) :
    ∃ sources, months.mapM readMonth = .ok sources ∧ sources.length = selection.months.length ∧
      ((∃ tables, eligibilityTables lib (eligibilityData selection months) = .ok tables) ↔
        Presentable lib selection.family (monthPlaces selection.months sources)) ∧
      ∀ tables, eligibilityTables lib (eligibilityData selection months) = .ok tables →
        List.Forall₂ (TableShown lib selection (eligibilityData selection months)
          (monthPlaces selection.months sources)) tableIds tables := by
  obtain ⟨sources, hread, hlength⟩ := exists_readMonths (requireFamilyMonths_admitted h)
  exact ⟨sources, hread, hlength, eligibilityTables_eq_ok hread hlength⟩

end Tables

section Sample

theorem requireFamilyMonths_sample :
    requireFamilyMonths sampleLibrary publishedSelection [publishedMonth] = .ok () := by
  rw [requireFamilyMonths, if_pos (show publishedSelection.family = .original from rfl)]
  exact requireSourceMonths_sample

theorem eligibilityTables_complete_sample : ∃ sources tables,
    [publishedMonth].mapM readMonth = .ok sources ∧
      eligibilityTables sampleLibrary (eligibilityData publishedSelection [publishedMonth]) =
        .ok tables ∧
      List.Forall₂ (TableShown sampleLibrary publishedSelection
        (eligibilityData publishedSelection [publishedMonth])
        (monthPlaces [publishedPin] sources)) tableIds tables := by
  obtain ⟨sources, hread, -, hreturned, hshown⟩ := eligibilityTables_complete sampleLibrary
    publishedSelection [publishedMonth] requireFamilyMonths_sample
  have hsample : ([publishedMonth].mapM readMonth).toOption.all (fun sources =>
      tableIds.all fun table =>
        (expectedRows sampleLibrary .original (monthPlaces [publishedPin] sources) table).all
          (presentable table) &&
        decide ((expectedRows sampleLibrary .original (monthPlaces [publishedPin] sources)
          table).length ≤ tableCapacity)) = true := by
    decide +kernel
  rw [hread] at hsample
  have heach := List.all_eq_true.mp (show _ = true from hsample)
  obtain ⟨tables, htables⟩ := hreturned.mpr
    { scalars := fun table => List.all_eq_true.mp
        (Bool.and_eq_true_iff.mp (heach table (mem_tableIds table))).1
      capacity := fun table =>
        of_decide_eq_true (Bool.and_eq_true_iff.mp (heach table (mem_tableIds table))).2 }
  exact ⟨sources, tables, hread, htables, hshown tables htables⟩

end Sample

end LotusReport.Composite.Eligibility
