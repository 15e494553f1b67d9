import LotusReport.Encoding.Written

/-!
# Series keys

The logical report that was requested. Its canonical form sorts the fields that
are sets by contract and omits what was not stated; two keys have the same form
exactly when they differ in the order of those sets and of mapping keys only.
-/

namespace LotusReport.Identity

open Encoding Json

/-- The texts of items that are all texts. -/
def textItems? : List Json → Option (List String)
  | [] => some []
  | .str text :: items => (textItems? items).map (text :: ·)
  | _ => none

/-- The texts of a list of texts, the only kind of list that is sorted as a set. -/
def texts? : Json → Option (List String)
  | .arr items => textItems? items
  | _ => none

/-- `_canonical_portfolio_scope`: the portfolio identifiers are a set. -/
def canonicalPortfolioScope (scope : Fields) : Fields :=
  let fields := sortFields (canonicalFields scope)
  match (lookup fields "portfolio_ids").bind texts? with
  | some ids => assign fields "portfolio_ids" (ofTexts (sortedTexts ids))
  | none => fields

/-- The logical requested report. -/
structure ReportSeriesKey where
  tenantId : String
  reportFamilyId : String
  reportType : String
  portfolioScope : Fields
  asOfDate : String
  reportingCurrency : Option String
  benchmarkCode : Option String
  sections : List String
  allocationDimensions : List String
  semanticOptions : Fields
  stated : tenantId ≠ "" ∧ reportFamilyId ≠ "" ∧ reportType ≠ "" ∧ asOfDate ≠ ""

/-- The dictionaries of a series key hold JSON values. -/
structure ReportSeriesKey.WellFormed (k : ReportSeriesKey) : Prop where
  portfolioScope : wellFormed (.obj k.portfolioScope) = true
  semanticOptions : wellFormed (.obj k.semanticOptions) = true

/-- A field that is written only when it has a value. -/
def optionalField (name : String) : Option String → Fields
  | some value => [(name, .str value)]
  | none => []

/-- The canonical form of a series key. -/
def ReportSeriesKey.canonical (k : ReportSeriesKey) : Fields :=
  [ ("tenant_id", .str k.tenantId),
    ("report_family_id", .str k.reportFamilyId),
    ("report_type", .str k.reportType),
    ("portfolio_scope", .obj (canonicalPortfolioScope k.portfolioScope)),
    ("as_of_date", .str k.asOfDate),
    ("sections", ofTexts (sortedTexts k.sections)),
    ("allocation_dimensions", ofTexts (sortedTexts k.allocationDimensions)),
    ("semantic_options", Json.canonical (.obj k.semanticOptions)) ] ++
  optionalField "reporting_currency" k.reportingCurrency ++
  optionalField "benchmark_code" k.benchmarkCode

/-- The digest of a series key. -/
def ReportSeriesKey.digest (py : Runtime) (k : ReportSeriesKey) : String :=
  py.digest (.obj k.canonical)

/-- Portfolio identifiers that are texts agree in any order, other values agree as they stand. -/
def SameIds (v w : Json) : Prop :=
  match texts? v, texts? w with
  | some ids, some ids' => ids.Perm ids'
  | _, _ => agrees v w = true

/-- Scopes that agree up to the order of mapping keys and, by `same`, of their portfolio
identifiers. -/
structure SameScope (same : Json → Json → Prop) (xs ys : Fields) : Prop where
  portfolioIds : Option.Rel same (lookup xs "portfolio_ids") (lookup ys "portfolio_ids")
  others : ∀ name, name ≠ "portfolio_ids" →
    Option.Rel (fun v w => agrees v w = true) (lookup xs name) (lookup ys name)

/-- Series keys that agree up to the order of their sets and of mapping keys. -/
structure SameSeries (same : Json → Json → Prop) (k l : ReportSeriesKey) : Prop where
  tenantId : k.tenantId = l.tenantId
  reportFamilyId : k.reportFamilyId = l.reportFamilyId
  reportType : k.reportType = l.reportType
  portfolioScope : SameScope same k.portfolioScope l.portfolioScope
  asOfDate : k.asOfDate = l.asOfDate
  reportingCurrency : k.reportingCurrency = l.reportingCurrency
  benchmarkCode : k.benchmarkCode = l.benchmarkCode
  sections : k.sections.Perm l.sections
  allocationDimensions : k.allocationDimensions.Perm l.allocationDimensions
  semanticOptions : agrees (.obj k.semanticOptions) (.obj l.semanticOptions) = true

section Texts

theorem textItems?_eq_some {items : List Json} {ids : List String} :
    textItems? items = some ids ↔ items = ids.map Json.str := by
  induction items generalizing ids with
  | nil => cases ids <;> simp [textItems?]
  | cons j items ih =>
      cases j with
      | str text => cases ids <;> simp [textItems?, ih, and_comm]
      | _ => cases ids <;> simp [textItems?]

theorem texts?_eq_some {v : Json} {ids : List String} : texts? v = some ids ↔ v = ofTexts ids := by
  cases v with
  | arr items => simp [texts?, ofTexts, textItems?_eq_some]
  | _ => simp [texts?, ofTexts]

@[simp] theorem texts?_ofTexts (ids : List String) : texts? (ofTexts ids) = some ids :=
  texts?_eq_some.mpr rfl

/-- The canonical form keeps lists of texts and makes no new ones. -/
theorem texts?_canonical (v : Json) : texts? (Json.canonical v) = texts? v := by
  cases v with
  | arr items =>
      simp only [Json.canonical, texts?, canonicalItems_eq_map]
      induction items with
      | nil => rfl
      | cons j items ih =>
          cases j with
          | str text => simp [Json.canonical, textItems?, ih]
          | _ => simp [Json.canonical, textItems?]
  | _ => rfl

theorem ofTexts_inj {as bs : List String} : ofTexts as = ofTexts bs ↔ as = bs := by
  rw [ofTexts, ofTexts, Json.arr.injEq]
  exact (List.map_injective_iff.mpr fun a b h => Json.str.inj h).eq_iff

theorem sortedTexts_inj {as bs : List String} : sortedTexts as = sortedTexts bs ↔ as.Perm bs := by
  constructor
  · intro h
    have hright : (sortedTexts bs).Perm bs := List.perm_insertionSort _ bs
    rw [← h] at hright
    exact (List.perm_insertionSort _ as).symm.trans hright
  · exact sortedTexts_eq_of_perm

theorem wellFormed_ofTexts (texts : List String) : wellFormed (ofTexts texts) = true := by
  rw [ofTexts, wellFormed_arr]
  intro j hj
  obtain ⟨text, -, rfl⟩ := List.mem_map.mp hj
  rfl

/-- Sorted sets of texts agree exactly when one is a permutation of the other. -/
theorem agrees_sortedTexts (as : List String) {bs : List String} :
    agrees (ofTexts (sortedTexts as)) (ofTexts (sortedTexts bs)) = true ↔ as.Perm bs := by
  rw [agrees_iff_canonical _ (wellFormed_ofTexts _) (wellFormed_ofTexts _), canonical_ofTexts,
    canonical_ofTexts, ofTexts_inj, sortedTexts_inj]

end Texts

section Scopes

theorem agrees_canonical {j k : Json} (hj : wellFormed j = true) (hk : wellFormed k = true) :
    agrees (Json.canonical j) (Json.canonical k) = true ↔ agrees j k = true := by
  rw [agrees_iff_canonical _ (wellFormed_canonical j hj) (wellFormed_canonical k hk),
    canonical_canonical, canonical_canonical, agrees_iff_canonical j hj hk]

/-- The value of the portfolio identifiers in the canonical scope. -/
def canonicalIds (v : Json) : Json :=
  match texts? v with
  | some ids => ofTexts (sortedTexts ids)
  | none => Json.canonical v

theorem lookup_canonicalPortfolioScope (scope : Fields) (name : String) :
    lookup (canonicalPortfolioScope scope) name = (lookup scope name).map fun v =>
      if name = "portfolio_ids" then canonicalIds v else Json.canonical v := by
  have hbefore : ∀ name, lookup (sortFields (canonicalFields scope)) name =
      (lookup scope name).map Json.canonical := by
    intro name
    rw [lookup_sortFields, lookup_canonicalFields]
  have hids : (lookup (sortFields (canonicalFields scope)) "portfolio_ids").bind texts? =
      (lookup scope "portfolio_ids").bind texts? := by
    rw [hbefore]
    cases lookup scope "portfolio_ids" with
    | none => rfl
    | some v => exact texts?_canonical v
  unfold canonicalPortfolioScope
  simp only [hids]
  by_cases hname : name = "portfolio_ids"
  · subst hname
    cases hv : lookup scope "portfolio_ids" with
    | none => simp [hbefore, hv]
    | some v =>
        cases htexts : texts? v with
        | none => simp [hbefore, hv, htexts, canonicalIds]
        | some ids => simp [lookup_assign_self, htexts, canonicalIds]
  · simp only [if_neg hname]
    split
    · rw [lookup_assign_of_ne hname, hbefore]
    · exact hbefore name

theorem distinct_canonicalPortfolioScope {scope : Fields} (h : Distinct scope) :
    Distinct (canonicalPortfolioScope scope) := by
  have hsorted : Distinct (sortFields (canonicalFields scope)) :=
    ((List.perm_insertionSort _ _).map _).nodup_iff.mpr (distinct_canonicalFields h)
  unfold canonicalPortfolioScope
  simp only
  split
  · exact distinct_assign hsorted _ _
  · exact hsorted

theorem wellFormed_canonicalIds {v : Json} (h : wellFormed v = true) :
    wellFormed (canonicalIds v) = true := by
  unfold canonicalIds
  split
  · exact wellFormed_ofTexts _
  · exact wellFormed_canonical v h

theorem wellFormed_canonicalPortfolioScope {scope : Fields}
    (h : wellFormed (.obj scope) = true) :
    wellFormed (.obj (canonicalPortfolioScope scope)) = true := by
  rw [wellFormed_obj] at h ⊢
  have hdistinct := distinct_canonicalPortfolioScope h.1
  refine ⟨hdistinct, fun f hf => ?_⟩
  have hlookup := (lookup_eq_some_iff hdistinct).mpr hf
  rw [lookup_canonicalPortfolioScope] at hlookup
  obtain ⟨v, hv, heq⟩ := Option.map_eq_some_iff.mp hlookup
  have hwf := h.2 _ ((lookup_eq_some_iff h.1).mp hv)
  rw [← heq]
  split
  · exact wellFormed_canonicalIds hwf
  · exact wellFormed_canonical v hwf

/-- Identifiers have the same canonical form exactly when they agree as identifiers. -/
theorem canonicalIds_eq_iff {v w : Json} (hv : wellFormed v = true) (hw : wellFormed w = true) :
    Json.canonical (canonicalIds v) = Json.canonical (canonicalIds w) ↔ SameIds v w := by
  have hmixed : ∀ {v w : Json} {ids : List String}, texts? v = some ids → texts? w = none →
      Json.canonical v ≠ Json.canonical w := by
    intro v w ids hsome hnone heq
    rw [← texts?_canonical, heq, texts?_canonical, hnone] at hsome
    cases hsome
  have hsorted : ∀ {v : Json} {ids : List String}, texts? v = some ids →
      texts? (ofTexts (sortedTexts ids)) = some (sortedTexts ids) := by simp
  unfold canonicalIds SameIds
  cases hvt : texts? v with
  | some ids =>
      cases hwt : texts? w with
      | some ids' =>
          simp only [canonical_ofTexts]
          rw [ofTexts_inj, sortedTexts_inj]
      | none =>
          simp only [canonical_canonical]
          refine iff_of_false (hmixed (hsorted hvt) hwt) ?_
          rw [agrees_iff_canonical v hv hw]
          exact hmixed hvt hwt
  | none =>
      cases hwt : texts? w with
      | some ids' =>
          simp only [canonical_canonical]
          refine iff_of_false (hmixed (hsorted hwt) hvt).symm ?_
          rw [agrees_iff_canonical v hv hw]
          exact (hmixed hwt hvt).symm
      | none =>
          simp only [canonical_canonical]
          exact (agrees_iff_canonical v hv hw).symm

theorem agrees_canonicalPortfolioScope {xs ys : Fields}
    (hxs : wellFormed (.obj xs) = true) (hys : wellFormed (.obj ys) = true) :
    agrees (.obj (canonicalPortfolioScope xs)) (.obj (canonicalPortfolioScope ys)) = true ↔
      SameScope SameIds xs ys := by
  have hvalue : ∀ {zs : Fields} {name : String} {v : Json},
      wellFormed (.obj zs) = true → lookup zs name = some v → wellFormed v = true := by
    intro zs name v hzs hv
    rw [wellFormed_obj] at hzs
    exact hzs.2 _ ((lookup_eq_some_iff hzs.1).mp hv)
  have hname : ∀ name, ((lookup (canonicalPortfolioScope xs) name).map Json.canonical =
      (lookup (canonicalPortfolioScope ys) name).map Json.canonical ↔
      Option.Rel (if name = "portfolio_ids" then SameIds else fun v w => agrees v w = true)
        (lookup xs name) (lookup ys name)) := by
    intro name
    rw [lookup_canonicalPortfolioScope, lookup_canonicalPortfolioScope]
    cases hx : lookup xs name with
    | none => cases hy : lookup ys name <;> simp
    | some v =>
        cases hy : lookup ys name with
        | none => simp
        | some w =>
            have hv := hvalue hxs hx
            have hw := hvalue hys hy
            simp only [Option.map_some, Option.some.injEq, Option.rel_some_some]
            split
            · exact canonicalIds_eq_iff hv hw
            · rw [canonical_canonical, canonical_canonical]
              exact (agrees_iff_canonical v hv hw).symm
  rw [agrees_iff_canonical _ (wellFormed_canonicalPortfolioScope hxs)
    (wellFormed_canonicalPortfolioScope hys)]
  rw [wellFormed_obj] at hxs hys
  rw [canonical_obj_eq_iff (distinct_canonicalPortfolioScope hxs.1)
    (distinct_canonicalPortfolioScope hys.1)]
  simp only [hname]
  constructor
  · intro h
    refine ⟨by simpa using h "portfolio_ids", fun name hne => ?_⟩
    simpa [hne] using h name
  · intro h name
    split
    · rename_i heq
      exact heq ▸ h.portfolioIds
    · rename_i hne
      exact h.others name hne

end Scopes

section Keys

theorem ReportSeriesKey.WellFormed.canonical {k : ReportSeriesKey} (h : k.WellFormed) :
    wellFormed (.obj k.canonical) = true := by
  have hscope := wellFormed_canonicalPortfolioScope h.portfolioScope
  have hoptions := Json.wellFormed_canonical _ h.semanticOptions
  rw [wellFormed_obj]
  unfold ReportSeriesKey.canonical
  constructor
  · unfold Distinct
    cases k.reportingCurrency <;> cases k.benchmarkCode <;>
      simp only [optionalField, List.map_cons, List.map_nil, List.append_nil, List.cons_append,
        List.nil_append] <;> decide
  · cases k.reportingCurrency <;> cases k.benchmarkCode <;>
      simp [optionalField, wellFormed_ofTexts, hscope, hoptions]

/-- Series keys have the same canonical form exactly when they are the same series. -/
theorem ReportSeriesKey.agrees_canonical {k l : ReportSeriesKey} (hk : k.WellFormed)
    (hl : l.WellFormed) :
    agrees (.obj k.canonical) (.obj l.canonical) = true ↔ SameSeries SameIds k l := by
  have hscope := agrees_canonicalPortfolioScope hk.portfolioScope hl.portfolioScope
  have hoptions := Identity.agrees_canonical hk.semanticOptions hl.semanticOptions
  have hfields : agrees (.obj k.canonical) (.obj l.canonical) = true ↔
      k.tenantId = l.tenantId ∧ k.reportFamilyId = l.reportFamilyId ∧ k.reportType = l.reportType ∧
        SameScope SameIds k.portfolioScope l.portfolioScope ∧ k.asOfDate = l.asOfDate ∧
        k.sections.Perm l.sections ∧ k.allocationDimensions.Perm l.allocationDimensions ∧
        agrees (.obj k.semanticOptions) (.obj l.semanticOptions) = true ∧
        k.reportingCurrency = l.reportingCurrency ∧ k.benchmarkCode = l.benchmarkCode := by
    rw [← hscope, ← hoptions, ← agrees_sortedTexts k.sections,
      ← agrees_sortedTexts k.allocationDimensions]
    unfold ReportSeriesKey.canonical
    rw [agrees]
    generalize canonicalPortfolioScope k.portfolioScope = kscope
    generalize canonicalPortfolioScope l.portfolioScope = lscope
    generalize Json.canonical (.obj k.semanticOptions) = koptions
    generalize Json.canonical (.obj l.semanticOptions) = loptions
    cases k.reportingCurrency <;> cases l.reportingCurrency <;> cases k.benchmarkCode <;>
      cases l.benchmarkCode <;>
      simp [optionalField, agreesFields, agrees, and_assoc]
  rw [hfields]
  constructor
  · rintro ⟨h1, h2, h3, h4, h5, h6, h7, h8, h9, h10⟩
    exact ⟨h1, h2, h3, h4, h5, h9, h10, h6, h7, h8⟩
  · intro h
    exact ⟨h.tenantId, h.reportFamilyId, h.reportType, h.portfolioScope, h.asOfDate, h.sections,
      h.allocationDimensions, h.semanticOptions, h.reportingCurrency, h.benchmarkCode⟩

/-- A digest determines the value up to the order of fields. -/
theorem digest_eq_iff {py : Runtime} (hsha : Function.Injective py.sha256) {j k : Json}
    (hj : wellFormed j = true) (hk : wellFormed k = true) :
    py.digest j = py.digest k ↔ agrees j k = true := by
  rw [← canonicalJson_eq_iff hj hk]
  exact hsha.eq_iff

end Keys

end LotusReport.Identity
