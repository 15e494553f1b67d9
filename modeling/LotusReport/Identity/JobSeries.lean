import Mathlib.Data.List.ReduceOption
import LotusReport.Identity.SeriesKey
import LotusReport.Jobs.Idempotency

/-!
# The series of a job

The series key is built from the stored request of a job. The client identity
treats the declared sets of a request as sets of texts and ignores what the
server derived; the series key keeps repeated sections, the order of the
allocation dimensions and one of the derived options. So jobs with one client
identity are of one series exactly when they agree in these.
-/

namespace LotusReport.Identity

open Encoding Fallible Json Jobs Relational StateMachine

section Keys

/-- Why a job has no series key. -/
inductive SeriesKeyError where
  | notIterable (typeName : String)
  | unresolved (error : LedgerError)
  | invalid
deriving DecidableEq, Repr

/-- The options that have a field of their own in the key. -/
def hoistedOptionKeys : List String := ["sections", "benchmark_code"]

/-- The texts of what a value yields when it is iterated. -/
def iterated (py : Runtime) : Json → Except SeriesKeyError (List String)
  | .arr items => .ok (items.map (pyStr py))
  | .str text => .ok (text.toList.map fun c => String.ofList [c])
  | .obj fields => .ok (fields.map Prod.fst)
  | .null => .error (.notIterable "NoneType")
  | .bool _ => .error (.notIterable "bool")
  | .int _ => .error (.notIterable "int")
  | .float _ => .error (.notIterable "float")

/-- The texts that are not blank. -/
def nonBlank (texts : List String) : List String := texts.filter fun text => strip text != ""

/-- The sections that the options name. -/
def sectionTexts (py : Runtime) : Option Json → Except SeriesKeyError (List String)
  | none => .ok []
  | some value => if truthy value then (iterated py value).map nonBlank else .ok []

/-- `_stated_str` of an option that may be absent. -/
def statedOption : Option Json → Option String
  | some (.str text) => if strip text = "" then none else some text
  | _ => none

/-- The options that stay options of the key. -/
def semanticOptions (options : Fields) : Fields :=
  options.filter fun f => f.1 ∉ hoistedOptionKeys && f.1 != bindingOption

/-- `series_key_for_job`. -/
def seriesKeyForJob (py : Runtime) (r : RequestRow) : Except SeriesKeyError ReportSeriesKey := do
  let sections ← sectionTexts py (lookup r.options "sections")
  let family ← (resolveReportFamily py r.reportType).mapError .unresolved
  if h : r.tenantId ≠ "" ∧ family.reportFamilyId ≠ "" ∧ r.reportType ≠ "" ∧ r.asOfDate ≠ "" then
    return {
      tenantId := r.tenantId
      reportFamilyId := family.reportFamilyId
      reportType := r.reportType
      portfolioScope := r.portfolioScope
      asOfDate := r.asOfDate
      reportingCurrency := r.reportingCurrency
      benchmarkCode := statedOption (lookup r.options "benchmark_code")
      sections := sections
      allocationDimensions := []
      semanticOptions := semanticOptions r.options
      stated := h }
  else throw .invalid

/-- The series digest of a job. -/
def seriesDigestForJob (py : Runtime) (r : RequestRow) : Except SeriesKeyError String :=
  (seriesKeyForJob py r).map (ReportSeriesKey.digest py)

end Keys

section Declared

/-- A value that can be iterated, or is empty. -/
def iterable : Option Json → Bool
  | some (.bool b) => !b
  | some (.int n) => n == 0
  | some (.float text) => !truthy (.float text)
  | _ => true

/-- The request has everything that a series key needs. -/
structure Keyed (r : RequestRow) : Prop where
  tenantId : r.tenantId ≠ ""
  asOfDate : r.asOfDate ≠ ""
  family : ∃ d ∈ reportFamilyDefinitions, d.reportType = r.reportType
  sections : iterable (lookup r.options "sections") = true

/-- The option that recovers an idea, derived by the server. -/
def recoveryIdentityOption : String := "idea_materialization_recovery_identity"

/-- The requests name every section equally often, the same allocation dimensions in the same
order, the same portfolio identifiers equally often, and carry the same recovery identity. -/
structure SameDeclared (py : Runtime) (r r' : RequestRow) : Prop where
  sections : ∀ items items', lookup r.options "sections" = some (.arr items) →
    lookup r'.options "sections" = some (.arr items') →
      (nonBlank (items.map (pyStr py))).Perm (nonBlank (items'.map (pyStr py)))
  allocationDimensions : Option.Rel (fun v w => agrees v w = true)
    (lookup r.options "allocation_dimensions") (lookup r'.options "allocation_dimensions")
  recoveryIdentity : Option.Rel (fun v w => agrees v w = true)
    (lookup r.options recoveryIdentityOption) (lookup r'.options recoveryIdentityOption)
  portfolioIds : Option.Rel SameIds (lookup r.portfolioScope "portfolio_ids")
    (lookup r'.portfolioScope "portfolio_ids")

/-- Both jobs have a series key, with one digest. -/
def SameSeriesDigest (py : Runtime) (r r' : RequestRow) : Prop :=
  ∃ digest, seriesDigestForJob py r = .ok digest ∧ seriesDigestForJob py r' = .ok digest

end Declared

section Existence

variable {py : Runtime} {r : RequestRow}

theorem sectionTexts_isOk_iff (py : Runtime) {sections : Option Json} :
    (∃ texts, sectionTexts py sections = .ok texts) ↔ iterable sections = true := by
  cases sections with
  | none => simp [sectionTexts, iterable]
  | some v =>
      rw [sectionTexts]
      cases htruthy : truthy v with
      | false =>
          cases v with
          | float text => simp [iterable, htruthy]
          | _ => simp_all [truthy, iterable]
      | true => cases v <;> simp_all [truthy, iterable, iterated, Except.map]

theorem resolveReportFamily_isOk_iff (py : Runtime) {reportType : String} :
    (∃ family, resolveReportFamily py reportType = .ok family) ↔
      ∃ d ∈ reportFamilyDefinitions, d.reportType = reportType := by
  unfold resolveReportFamily
  cases hfind : reportFamilyDefinitions.find? fun d => d.reportType == reportType with
  | none =>
      simp only [reduceCtorEq, exists_false, false_iff]
      rintro ⟨d, hd, htype⟩
      simpa [htype] using List.find?_eq_none.mp hfind d hd
  | some d =>
      refine iff_of_true ⟨d, rfl⟩ ⟨d, List.mem_of_find?_eq_some hfind, ?_⟩
      simpa using List.find?_some hfind

theorem resolved_named {reportType : String} {family : ReportFamilyDefinition}
    (h : resolveReportFamily py reportType = .ok family) :
    family.reportFamilyId ≠ "" ∧ reportType ≠ "" := by
  unfold resolveReportFamily at h
  split at h
  · rename_i d hfind
    cases h
    have htype : family.reportType = reportType := by simpa using List.find?_some hfind
    rw [← htype]
    have hnamed : ∀ d ∈ reportFamilyDefinitions, d.reportFamilyId ≠ "" ∧ d.reportType ≠ "" := by
      decide
    exact hnamed family (List.mem_of_find?_eq_some hfind)
  · cases h

/-- What the key of a job is made of. -/
structure KeyOf (py : Runtime) (r : RequestRow) (k : ReportSeriesKey) : Prop where
  sections : sectionTexts py (lookup r.options "sections") = .ok k.sections
  family : ∃ d, resolveReportFamily py r.reportType = .ok d ∧ k.reportFamilyId = d.reportFamilyId
  tenantId : k.tenantId = r.tenantId
  reportType : k.reportType = r.reportType
  portfolioScope : k.portfolioScope = r.portfolioScope
  asOfDate : k.asOfDate = r.asOfDate
  reportingCurrency : k.reportingCurrency = r.reportingCurrency
  benchmarkCode : k.benchmarkCode = statedOption (lookup r.options "benchmark_code")
  allocationDimensions : k.allocationDimensions = []
  semanticOptions : k.semanticOptions = Identity.semanticOptions r.options

theorem seriesKeyForJob_eq_ok {k : ReportSeriesKey} (h : seriesKeyForJob py r = .ok k) :
    KeyOf py r k := by
  unfold seriesKeyForJob at h
  cases hsections : sectionTexts py (lookup r.options "sections") with
  | error e =>
      rw [hsections] at h
      cases h
  | ok sections =>
      cases hfamily : resolveReportFamily py r.reportType with
      | error e =>
          rw [hsections, hfamily] at h
          cases h
      | ok family =>
          rw [hsections, hfamily] at h
          simp only [bind, Except.bind, Except.mapError] at h
          split at h
          · cases h
            exact ⟨hsections, ⟨family, hfamily, rfl⟩, rfl, rfl, rfl, rfl, rfl, rfl, rfl, rfl⟩
          · cases h

/-- A job has a series key exactly when its request has everything the key needs. -/
theorem seriesKeyForJob_isOk_iff (py : Runtime) : (∃ k, seriesKeyForJob py r = .ok k) ↔ Keyed r := by
  constructor
  · rintro ⟨k, h⟩
    have hkey := seriesKeyForJob_eq_ok h
    obtain ⟨family, hfamily, -⟩ := hkey.family
    refine ⟨hkey.tenantId ▸ k.stated.1, hkey.asOfDate ▸ k.stated.2.2.2,
      (resolveReportFamily_isOk_iff py).mp ⟨family, hfamily⟩,
      (sectionTexts_isOk_iff py).mp ⟨_, hkey.sections⟩⟩
  · intro h
    obtain ⟨sections, hsections⟩ := (sectionTexts_isOk_iff py).mpr h.sections
    obtain ⟨family, hfamily⟩ := (resolveReportFamily_isOk_iff py).mpr h.family
    have hnamed := resolved_named hfamily
    unfold seriesKeyForJob
    rw [hsections, hfamily]
    simp only [bind, Except.bind, Except.mapError]
    rw [dif_pos ⟨h.tenantId, hnamed.1, hnamed.2, h.asOfDate⟩]
    exact ⟨_, rfl⟩

end Existence

section WellFormed

variable {fields : Fields}

/-- The fields are a dictionary of JSON values. -/
def WellFormedFields (fields : Fields) : Prop := wellFormed (.obj fields) = true

theorem wellFormedFields_lookup (h : WellFormedFields fields) {name : String} {v : Json}
    (hv : lookup fields name = some v) : wellFormed v = true := by
  rw [WellFormedFields, wellFormed_obj] at h
  exact h.2 _ ((lookup_eq_some_iff h.1).mp hv)

theorem wellFormedFields_assign (h : WellFormedFields fields) {v : Json} (hv : wellFormed v = true)
    (name : String) : WellFormedFields (assign fields name v) := by
  rw [WellFormedFields, wellFormed_obj] at h ⊢
  refine ⟨distinct_assign h.1 name v, fun f hf => ?_⟩
  unfold assign at hf
  split at hf
  · obtain ⟨g, hg, rfl⟩ := List.mem_map.mp hf
    split
    · exact hv
    · exact h.2 g hg
  · rcases List.mem_append.mp hf with hold | hnew
    · exact h.2 f hold
    · rw [List.mem_singleton.mp hnew]
      exact hv

theorem wellFormedFields_filter (h : WellFormedFields fields) (p : String × Json → Bool) :
    WellFormedFields (fields.filter p) := by
  rw [WellFormedFields, wellFormed_obj] at h ⊢
  exact ⟨h.1.sublist (List.filter_sublist.map _), fun f hf => h.2 f (List.mem_of_mem_filter hf)⟩

theorem wellFormedFields_stored (h : WellFormedFields fields) :
    WellFormedFields (storedObject fields) := wellFormed_canonical (.obj fields) h

/-- The JSON parts of a request are JSON values. -/
def WellFormedRequest : ReportJobRequest → Prop
  | .composite r => WellFormedFields r.options ∧
      (∀ j ∈ [r.noticeSelection, r.pooledSelection, r.eligibilitySelection, r.linkedSelection,
        r.selection, r.sourceContext].reduceOption, wellFormed j = true) ∧
      ∀ products ∈ r.sourceProducts, wellFormed (.arr products) = true
  | .portfolio r => WellFormedFields r.portfolioScope ∧ WellFormedFields r.options ∧
      ∀ j ∈ [r.proposalNarrativePackage, r.proposalMemoPackage].reduceOption, wellFormed j = true
  | .proofPack r | .wave r | .outcome r =>
      WellFormedFields r.reportInput ∧ WellFormedFields r.options

theorem wellFormed_captureOptions {r : CompositeReviewJobRequest}
    (h : WellFormedRequest (.composite r)) : WellFormedFields (captureOptions r) := by
  obtain ⟨hoptions, hselections, hproducts⟩ := h
  have hselection : ∀ {j : Json}, some j ∈ [r.noticeSelection, r.pooledSelection,
      r.eligibilitySelection, r.linkedSelection, r.selection, r.sourceContext] →
      wellFormed j = true := fun hj => hselections _ (List.reduceOption_mem_iff.mpr hj)
  unfold captureOptions
  split
  · rename_i notice hnotice
    exact wellFormedFields_assign hoptions (hselection (by simp [hnotice])) _
  · rename_i pooled _ hpooled
    exact wellFormedFields_assign hoptions (hselection (by simp [hpooled])) _
  · rename_i eligibility _ _ heligibility
    exact wellFormedFields_assign hoptions (hselection (by simp [heligibility])) _
  · rename_i linked _ _ _ hlinked
    exact wellFormedFields_assign hoptions (hselection (by simp [hlinked])) _
  · have hprimary : WellFormedFields
        (assign r.options "composite_selection" (r.selection.getD .null)) := by
      refine wellFormedFields_assign hoptions ?_ _
      cases hs : r.selection with
      | none => rfl
      | some j => exact hselection (by simp [hs])
    cases hp : r.sourceProducts with
    | none =>
        cases hs : r.sourceContext with
        | none => exact hprimary
        | some j => exact wellFormedFields_assign hprimary (hselection (by simp [hs])) _
    | some products =>
        refine wellFormedFields_assign ?_ (hproducts products hp) _
        cases hs : r.sourceContext with
        | none => exact hprimary
        | some j => exact wellFormedFields_assign hprimary (hselection (by simp [hs])) _

theorem wellFormed_getD {fields : Fields} (h : WellFormedFields fields)
    (name : String) : wellFormed ((lookup fields name).getD .null) = true := by
  cases hv : lookup fields name with
  | none => rfl
  | some v => exact wellFormedFields_lookup h hv

theorem wellFormed_requestParts {py : Runtime} {request : ReportJobRequest} {parts : RequestParts}
    (h : WellFormedRequest request) (hparts : requestParts py request = .ok parts) :
    WellFormedFields parts.portfolioScope ∧ WellFormedFields parts.options := by
  have hscope : ∀ {fields : Fields}, (fields.map Prod.fst).Nodup →
      (∀ f ∈ fields, wellFormed f.2 = true) → WellFormedFields fields :=
    fun hnodup hvalues => wellFormed_obj.mpr ⟨hnodup, hvalues⟩
  cases request with
  | composite r =>
      cases hparts
      exact ⟨rfl, wellFormed_captureOptions h⟩
  | portfolio r =>
      cases hparts
      obtain ⟨hscope, hoptions, hpackages⟩ := h
      have hpackage : ∀ {j : Json}, some j ∈ [r.proposalNarrativePackage, r.proposalMemoPackage] →
          wellFormed j = true := fun hj => hpackages _ (List.reduceOption_mem_iff.mpr hj)
      refine ⟨hscope, ?_⟩
      unfold portfolioParts
      cases hm : r.proposalMemoPackage with
      | none =>
          cases hs : r.proposalNarrativePackage with
          | none => exact hoptions
          | some j => exact wellFormedFields_assign hoptions (hpackage (by simp [hs])) _
      | some memo =>
          refine wellFormedFields_assign ?_ (hpackage (by simp [hm])) _
          cases hs : r.proposalNarrativePackage with
          | none => exact hoptions
          | some j => exact wellFormedFields_assign hoptions (hpackage (by simp [hs])) _
  | proofPack r =>
      simp only [requestParts, proofPackParts] at hparts
      split at hparts
      · cases hparts
      · split at hparts
        · cases hparts
        · obtain ⟨date, -, hdone⟩ := bind_eq_ok.mp hparts
          cases hdone
          refine ⟨hscope (by simp) ?_, wellFormedFields_assign h.2 h.1 _⟩
          simp [wellFormed_ofTexts, wellFormed_getD h.1]
  | wave r =>
      simp only [requestParts, waveParts] at hparts
      split at hparts
      · cases hparts
      · split at hparts
        · cases hparts
        · obtain ⟨date, -, hdone⟩ := bind_eq_ok.mp hparts
          cases hdone
          refine ⟨hscope (by simp) ?_, wellFormedFields_assign h.2 h.1 _⟩
          simp [wellFormed_ofTexts]
  | outcome r =>
      simp only [requestParts, outcomeParts] at hparts
      split at hparts
      · cases hparts
      · split at hparts
        · cases hparts
        · obtain ⟨date, -, hdone⟩ := bind_eq_ok.mp hparts
          cases hdone
          refine ⟨hscope (by simp) ?_, wellFormedFields_assign h.2 h.1 _⟩
          simp [wellFormed_ofTexts, wellFormed_getD h.1]

end WellFormed

section ClientIdentity

variable {py : Runtime} {q q' : ClientRequest}

/-- What the client identity keeps of the value of a field. -/
def identityForm (py : Runtime) (setKeys : List String) (name : String) (v : Json) : Json :=
  canonical (if name ∈ setKeys then setNormalizedValue py v else v)

theorem identityForm_of_not_mem {setKeys : List String} {name : String} (h : name ∉ setKeys) :
    identityForm py setKeys name = canonical := by
  funext v
  rw [identityForm, if_neg h]

/-- What two requests with one client identity have in common. -/
structure SameIdentity (py : Runtime) (q q' : ClientRequest) : Prop where
  reportType : q.reportType = q'.reportType
  tenantId : q.tenantId = q'.tenantId
  asOfDate : q.parts.asOfDate = q'.parts.asOfDate
  reportingCurrency : q.parts.reportingCurrency = q'.parts.reportingCurrency
  portfolioScope : ∀ name,
    (lookup q.parts.portfolioScope name).map (identityForm py ["portfolio_ids"] name) =
      (lookup q'.parts.portfolioScope name).map (identityForm py ["portfolio_ids"] name)
  options : ∀ name, name ∉ serverDerivedRequestOptionKeys →
    (lookup q.parts.options name).map
        (identityForm py ["sections", "allocation_dimensions"] name) =
      (lookup q'.parts.options name).map
        (identityForm py ["sections", "allocation_dimensions"] name)

theorem wellFormed_setNormalizedValue {v : Json} (h : wellFormed v = true) :
    wellFormed (setNormalizedValue py v) = true := by
  cases v with
  | arr items => exact wellFormed_ofTexts _
  | _ => exact h

theorem wellFormedFields_setNormalized (py : Runtime) {fields : Fields}
    (h : WellFormedFields fields) (setKeys : List String) : WellFormedFields (setNormalized py setKeys fields) := by
  rw [WellFormedFields, wellFormed_obj] at h ⊢
  rw [setNormalized_eq_map]
  refine ⟨distinct_map (g := fun k v => if k ∈ setKeys then setNormalizedValue py v else v) h.1, ?_⟩
  intro f hf
  obtain ⟨g, hg, rfl⟩ := List.mem_map.mp hf
  simp only
  split
  · exact wellFormed_setNormalizedValue (h.2 g hg)
  · exact h.2 g hg

/-- Normalized dictionaries agree exactly when their entries have the same form. -/
theorem agrees_setNormalized {setKeys : List String} {xs ys : Fields}
    (hxs : WellFormedFields xs) (hys : WellFormedFields ys)
    (h : agrees (.obj (setNormalized py setKeys xs)) (.obj (setNormalized py setKeys ys)) = true)
    (name : String) : (lookup xs name).map (identityForm py setKeys name) =
      (lookup ys name).map (identityForm py setKeys name) := by
  have hwx := wellFormedFields_setNormalized py hxs setKeys
  have hwy := wellFormedFields_setNormalized py hys setKeys
  rw [agrees_iff_canonical _ hwx hwy, canonical_obj_eq_iff (wellFormed_obj.mp hwx).1
    (wellFormed_obj.mp hwy).1] at h
  have hname := h name
  rw [setNormalized_eq_map, setNormalized_eq_map,
    lookup_map fun k v => if k ∈ setKeys then setNormalizedValue py v else v,
    lookup_map fun k v => if k ∈ setKeys then setNormalizedValue py v else v, Option.map_map,
    Option.map_map] at hname
  exact hname

theorem agrees_ofText? {a b : Option String} :
    agrees (.ofText? a) (.ofText? b) = true ↔ a = b := by
  cases a <;> cases b <;> simp [ofText?, agrees]

theorem wellFormed_clientIdentity (py : Runtime) (hscope : WellFormedFields q.parts.portfolioScope)
    (hoptions : WellFormedFields q.parts.options) :
    wellFormed (clientIdentity py q.reportType q.parts q.tenantId q.region) = true := by
  have hcurrency : wellFormed (.ofText? q.parts.reportingCurrency) = true := by
    cases q.parts.reportingCurrency <;> rfl
  rw [clientIdentity, wellFormed_obj]
  refine ⟨by simp [Distinct], ?_⟩
  simp only [List.forall_mem_cons, wellFormed_str, wellFormed_ofTexts, hcurrency, true_and]
  refine ⟨wellFormedFields_setNormalized py hscope _, wellFormedFields_setNormalized py ?_ _,
    by simp⟩
  exact wellFormedFields_filter hoptions _

/-- Requests with one identity text agree in everything that the identity keeps. -/
theorem sameIdentity_of_identityText (hscope : WellFormedFields q.parts.portfolioScope)
    (hoptions : WellFormedFields q.parts.options)
    (hscope' : WellFormedFields q'.parts.portfolioScope)
    (hoptions' : WellFormedFields q'.parts.options)
    (h : q.identityText py = q'.identityText py) : SameIdentity py q q' := by
  unfold ClientRequest.identityText at h
  have hwf := wellFormed_clientIdentity py hscope hoptions
  have hwf' := wellFormed_clientIdentity py hscope' hoptions'
  rw [canonicalJson_eq_iff hwf hwf'] at h
  have hname := (agrees_obj_iff_lookup hwf hwf').mp h
  have hoptionsAgree := hname "options"
  have hscopeAgree := hname "portfolio_scope"
  simp only [lookup_cons, String.reduceEq, if_true, if_false, Option.rel_some_some] at hoptionsAgree hscopeAgree
  refine ⟨?_, ?_, ?_, ?_, agrees_setNormalized hscope hscope' hscopeAgree, fun name hclient => ?_⟩
  · simpa [agrees] using hname "report_type"
  · simpa [agrees] using hname "tenant_id"
  · simpa [agrees] using hname "as_of_date"
  · simpa [agrees_ofText?] using hname "reporting_currency"
  · have hform := agrees_setNormalized (wellFormedFields_filter hoptions _)
      (wellFormedFields_filter hoptions' _) hoptionsAgree name
    rwa [lookup_filter (fun _ => by simpa using hclient),
      lookup_filter (fun _ => by simpa using hclient)] at hform

end ClientIdentity

section Series

variable {py : Runtime} {q q' : ClientRequest} {r r' : RequestRow} {k k' : ReportSeriesKey}

/-- The row is the stored copy of the request. -/
structure StoredAs (q : ClientRequest) (r : RequestRow) : Prop where
  scopeWellFormed : WellFormedFields q.parts.portfolioScope
  optionsWellFormed : WellFormedFields q.parts.options
  reportType : r.reportType = q.reportType
  tenantId : r.tenantId = q.tenantId
  asOfDate : r.asOfDate = q.parts.asOfDate
  reportingCurrency : r.reportingCurrency = q.parts.reportingCurrency
  portfolioScope : r.portfolioScope = storedObject q.parts.portfolioScope
  options : ∀ name, name ≠ bindingOption →
    lookup r.options name = (lookup q.parts.options name).map canonical
  semanticOptions : semanticOptions r.options = storedObject (semanticOptions q.parts.options)

theorem semanticOptions_stored (options : Fields) :
    semanticOptions (storedObject options) = storedObject (semanticOptions options) := by
  unfold semanticOptions storedObject
  rw [sortFields_filter, canonicalFields_eq_map, canonicalFields_eq_map, List.filter_map]
  rfl

/-- An accepted request is stored as it was taken, with the binding of its job. -/
theorem storedAs_requestRow {d : Deployment} {c : CreateCall} {sub : Submission}
    {options : Fields} (hwf : WellFormedRequest c.request)
    (hsub : Submitted d c sub)
    (hbind : bindAdmission sub.parts.options c.twrAdmission c.requestId c.jobId
      c.callerContext.correlationId c.callerContext.traceId = .ok options) :
    StoredAs (c.client sub) (c.requestRow sub options) := by
  obtain ⟨hscope, hoptions⟩ := wellFormed_requestParts hwf hsub.parts
  refine ⟨hscope, hoptions, rfl, rfl, rfl, rfl, rfl, fun name hne => ?_, ?_⟩
  · simp only [CreateCall.requestRow, lookup_storedObject]
    rcases (bindAdmission_eq_ok hbind).2 with ⟨-, rfl⟩ | ⟨a, binding, -, -, rfl⟩
    · rfl
    · rw [lookup_assign_of_ne hne]
      rfl
  · simp only [CreateCall.requestRow, semanticOptions_stored]
    rcases (bindAdmission_eq_ok hbind).2 with ⟨-, rfl⟩ | ⟨a, binding, -, -, rfl⟩
    · rfl
    · unfold semanticOptions
      rw [filter_assign fun _ => by simp]
      rfl

theorem StoredAs.keyWellFormed (h : StoredAs q r) (hkey : KeyOf py r k) : k.WellFormed := by
  constructor
  · rw [hkey.portfolioScope, h.portfolioScope]
    exact wellFormedFields_stored h.scopeWellFormed
  · rw [hkey.semanticOptions, h.semanticOptions]
    exact wellFormedFields_stored (wellFormedFields_filter h.optionsWellFormed _)

theorem sectionTexts_arr (items : List Json) :
    sectionTexts py (some (.arr items)) = .ok (nonBlank (items.map (pyStr py))) := by
  cases items <;> rfl

theorem agrees_refl {v : Json} (h : wellFormed v = true) : agrees v v = true :=
  (agrees_iff_canonical v h h).mpr rfl

/-- Values of a declared set with one identity: lists, or equal values. -/
theorem list_or_same (py : Runtime) {v w : Json}
    (h : canonical (setNormalizedValue py v) = canonical (setNormalizedValue py w)) :
    (∃ items items', canonical v = .arr items ∧ canonical w = .arr items') ∨
      canonical v = canonical w := by
  cases v with
  | arr as =>
      cases w with
      | arr bs => exact Or.inl ⟨_, _, rfl, rfl⟩
      | _ => simp [setNormalizedValue, ofTexts, canonical] at h
  | _ =>
      cases w with
      | arr bs => simp [setNormalizedValue, ofTexts, canonical] at h
      | _ => exact Or.inr h

/-- The sections of requests with one identity, when their lists name every section equally
often. -/
theorem sections_perm (hr : StoredAs q r) (hr' : StoredAs q' r') (hq : SameIdentity py q q')
    (hkey : KeyOf py r k) (hkey' : KeyOf py r' k') (hsame : SameDeclared py r r') :
    k.sections.Perm k'.sections := by
  have hsections := hkey.sections
  have hsections' := hkey'.sections
  have hform := hq.options "sections" (by decide)
  have hdeclared := hsame.sections
  rw [hr.options "sections" (by decide)] at hsections hdeclared
  rw [hr'.options "sections" (by decide)] at hsections' hdeclared
  cases hv : lookup q.parts.options "sections" with
  | none =>
      rw [hv] at hform hsections
      rw [Option.map_none] at hform
      rw [Option.map_eq_none_iff.mp hform.symm] at hsections'
      rw [← Except.ok.inj hsections, ← Except.ok.inj hsections']
  | some v =>
      rw [hv] at hform hsections hdeclared
      obtain ⟨w, hw, hvw⟩ := Option.map_eq_some_iff.mp hform.symm
      rw [hw] at hsections' hdeclared
      simp only [Option.map_some] at hsections hsections' hdeclared
      rcases list_or_same py (v := v) (w := w) (by simpa [identityForm] using hvw.symm) with
        ⟨items, items', hitems, hitems'⟩ | heq
      · rw [hitems, sectionTexts_arr] at hsections
        rw [hitems', sectionTexts_arr] at hsections'
        rw [← Except.ok.inj hsections, ← Except.ok.inj hsections']
        exact hdeclared items items' (by rw [hitems]) (by rw [hitems'])
      · rw [heq, hsections'] at hsections
        rw [Except.ok.inj hsections]

theorem lookup_semanticOptions {name : String} (hhoisted : name ∉ hoistedOptionKeys)
    (hbinding : name ≠ bindingOption) (options : Fields) :
    lookup (semanticOptions options) name = lookup options name :=
  lookup_filter (fun _ => by simp [hhoisted, hbinding]) options

/-- The options of requests with one identity, when the order-sensitive ones agree. -/
theorem semanticOptions_agree (hr : StoredAs q r) (hr' : StoredAs q' r') (hq : SameIdentity py q q')
    (hkey : KeyOf py r k) (hkey' : KeyOf py r' k') (hsame : SameDeclared py r r') :
    agrees (.obj k.semanticOptions) (.obj k'.semanticOptions) = true := by
  rw [agrees_obj_iff_lookup (hr.keyWellFormed hkey).semanticOptions
    (hr'.keyWellFormed hkey').semanticOptions, hkey.semanticOptions, hkey'.semanticOptions]
  intro name
  by_cases hout : name ∈ hoistedOptionKeys ∨ name = bindingOption
  · have hhidden : ∀ options, lookup (semanticOptions options) name = none :=
      lookup_filter_eq_none fun _ => by
        rcases hout with hin | heq
        · simp [hin]
        · simp [heq]
    rw [hhidden, hhidden]
    exact Option.Rel.none
  · obtain ⟨hhoisted, hbinding⟩ := not_or.mp hout
    rw [lookup_semanticOptions hhoisted hbinding, lookup_semanticOptions hhoisted hbinding]
    by_cases hdimensions : name = "allocation_dimensions"
    · exact hdimensions ▸ hsame.allocationDimensions
    by_cases hrecovery : name = recoveryIdentityOption
    · exact hrecovery ▸ hsame.recoveryIdentity
    have hclient : name ∉ serverDerivedRequestOptionKeys := by
      simp only [serverDerivedRequestOptionKeys, List.mem_cons, List.not_mem_nil, or_false, not_or]
      exact ⟨hrecovery, hbinding⟩
    have hplain : name ∉ ["sections", "allocation_dimensions"] := by
      simp only [hoistedOptionKeys, List.mem_cons, List.not_mem_nil, or_false, not_or] at hhoisted
      simp [hhoisted.1, hdimensions]
    have hform := hq.options name hclient
    rw [identityForm_of_not_mem hplain] at hform
    rw [hr.options name hbinding, hr'.options name hbinding, ← hform]
    cases hv : lookup q.parts.options name with
    | none => exact Option.Rel.none
    | some v =>
        refine Option.Rel.some (agrees_refl (wellFormed_canonical v ?_))
        exact wellFormedFields_lookup hr.optionsWellFormed hv

/-- The scopes of requests with one identity, when their portfolio identifiers agree. -/
theorem scope_same (hr : StoredAs q r) (hr' : StoredAs q' r') (hq : SameIdentity py q q')
    (hsame : SameDeclared py r r') : SameScope SameIds r.portfolioScope r'.portfolioScope := by
  refine ⟨hsame.portfolioIds, fun name hne => ?_⟩
  have hform := hq.portfolioScope name
  rw [identityForm_of_not_mem (by simpa using hne)] at hform
  rw [hr.portfolioScope, hr'.portfolioScope, lookup_storedObject, lookup_storedObject, hform]
  cases hv : lookup q'.parts.portfolioScope name with
  | none => exact Option.Rel.none
  | some v =>
      refine Option.Rel.some (agrees_refl (wellFormed_canonical v ?_))
      exact wellFormedFields_lookup hr'.scopeWellFormed hv

/-- Jobs with one client identity are of one series exactly when they declare the same. -/
theorem sameSeries_iff (hr : StoredAs q r) (hr' : StoredAs q' r') (hq : SameIdentity py q q')
    (hkey : KeyOf py r k) (hkey' : KeyOf py r' k') :
    SameSeries SameIds k k' ↔ SameDeclared py r r' := by
  constructor
  · intro h
    have hoptions := (agrees_obj_iff_lookup (hr.keyWellFormed hkey).semanticOptions
      (hr'.keyWellFormed hkey').semanticOptions).mp h.semanticOptions
    rw [hkey.semanticOptions, hkey'.semanticOptions] at hoptions
    refine ⟨fun items items' hitems hitems' => ?_, ?_, ?_, ?_⟩
    · have hsections := hkey.sections
      have hsections' := hkey'.sections
      rw [hitems, sectionTexts_arr] at hsections
      rw [hitems', sectionTexts_arr] at hsections'
      rw [Except.ok.inj hsections, Except.ok.inj hsections']
      exact h.sections
    · have hdimensions := hoptions "allocation_dimensions"
      rwa [lookup_semanticOptions (by decide) (by decide),
        lookup_semanticOptions (by decide) (by decide)] at hdimensions
    · have hrecovery := hoptions recoveryIdentityOption
      rwa [lookup_semanticOptions (by decide) (by decide),
        lookup_semanticOptions (by decide) (by decide)] at hrecovery
    · have hids := h.portfolioScope.portfolioIds
      rwa [hkey.portfolioScope, hkey'.portfolioScope] at hids
  · intro h
    have htype : r.reportType = r'.reportType := by rw [hr.reportType, hr'.reportType, hq.reportType]
    obtain ⟨family, hfamily, hid⟩ := hkey.family
    obtain ⟨family', hfamily', hid'⟩ := hkey'.family
    rw [htype, hfamily'] at hfamily
    have hbenchmark : lookup r.options "benchmark_code" = lookup r'.options "benchmark_code" := by
      have hform := hq.options "benchmark_code" (by decide)
      rw [identityForm_of_not_mem (by decide)] at hform
      rw [hr.options _ (by decide), hr'.options _ (by decide), hform]
    refine ⟨?_, ?_, ?_, ?_, ?_, ?_, ?_, sections_perm hr hr' hq hkey hkey' h, ?_,
      semanticOptions_agree hr hr' hq hkey hkey' h⟩
    · rw [hkey.tenantId, hkey'.tenantId, hr.tenantId, hr'.tenantId, hq.tenantId]
    · rw [hid, hid', Except.ok.inj hfamily]
    · rw [hkey.reportType, hkey'.reportType, htype]
    · rw [hkey.portfolioScope, hkey'.portfolioScope]
      exact scope_same hr hr' hq h
    · rw [hkey.asOfDate, hkey'.asOfDate, hr.asOfDate, hr'.asOfDate, hq.asOfDate]
    · rw [hkey.reportingCurrency, hkey'.reportingCurrency, hr.reportingCurrency,
        hr'.reportingCurrency, hq.reportingCurrency]
    · rw [hkey.benchmarkCode, hkey'.benchmarkCode, hbenchmark]
    · rw [hkey.allocationDimensions, hkey'.allocationDimensions]

end Series

section Accepted

/-- The requests of a run are JSON. -/
def WellFormedRun (calls : List Call) : Prop :=
  ∀ c, Call.ledger (.create c) ∈ calls → WellFormedRequest c.request

/-- Two accepted jobs with one request hash have one series digest exactly when both have a series
key and their stored requests declare the same. -/
theorem same_series_digest_iff (d : Deployment) (hsha : Function.Injective d.sha256)
    (calls : List Call) (hcalls : WellFormedRun calls) {j k : String} {f g : JobFile}
    (hf : (run (Ledger.step d) Ledger.empty calls).file? j = some f)
    (hg : (run (Ledger.step d) Ledger.empty calls).file? k = some g)
    (hhash : f.request.requestHash = g.request.requestHash) :
    SameSeriesDigest d.toRuntime f.request g.request ↔
      Keyed f.request ∧ Keyed g.request ∧ SameDeclared d.toRuntime f.request g.request := by
  have hacceptance := acceptance_run d calls
  generalize run (Ledger.step d) Ledger.empty calls = s at hf hg hacceptance
  have hstored : ∀ {j : String} {f : JobFile}, s.file? j = some f →
      ∃ q : ClientRequest, StoredAs q f.request ∧
        f.request.requestHash = d.sha256 (q.identityText d.toRuntime) := by
    intro j f hf
    have hmem := Table.mem_of_find? (Ledger.file?_eq_some_iff.mp hf).2.1
    obtain ⟨c, sub, hcall, haccepted⟩ := hacceptance.origin _ hmem
    obtain ⟨options, hbind, hrow⟩ := haccepted.row
    have hsub := submission_eq_ok haccepted.submitted
    refine ⟨c.client sub, ?_, ?_⟩
    · rw [hrow]
      exact storedAs_requestRow (hcalls c hcall) hsub hbind
    · rw [hrow]
      exact hsub.hash
  obtain ⟨q, hr, hqhash⟩ := hstored hf
  obtain ⟨q', hr', hqhash'⟩ := hstored hg
  rw [hqhash, hqhash'] at hhash
  have hq := sameIdentity_of_identityText hr.scopeWellFormed hr.optionsWellFormed
    hr'.scopeWellFormed hr'.optionsWellFormed (hsha hhash)
  rw [← seriesKeyForJob_isOk_iff d.toRuntime, ← seriesKeyForJob_isOk_iff d.toRuntime]
  have hdigest : ∀ {x y : ReportSeriesKey}, KeyOf d.toRuntime f.request x →
      KeyOf d.toRuntime g.request y → (x.digest d.toRuntime = y.digest d.toRuntime ↔
        SameDeclared d.toRuntime f.request g.request) := by
    intro x y hx hy
    have hwx := hr.keyWellFormed hx
    have hwy := hr'.keyWellFormed hy
    rw [← sameSeries_iff hr hr' hq hx hy, ← ReportSeriesKey.agrees_canonical hwx hwy]
    exact digest_eq_iff hsha hwx.canonical hwy.canonical
  unfold SameSeriesDigest seriesDigestForJob
  constructor
  · rintro ⟨digest, hx, hy⟩
    cases hkx : seriesKeyForJob d.toRuntime f.request with
    | error e =>
        rw [hkx] at hx
        cases hx
    | ok x =>
        cases hky : seriesKeyForJob d.toRuntime g.request with
        | error e =>
            rw [hky] at hy
            cases hy
        | ok y =>
            rw [hkx] at hx
            rw [hky] at hy
            refine ⟨⟨x, rfl⟩, ⟨y, rfl⟩, ?_⟩
            rw [← hdigest (seriesKeyForJob_eq_ok hkx) (seriesKeyForJob_eq_ok hky)]
            exact (Except.ok.inj hx).trans (Except.ok.inj hy).symm
  · rintro ⟨⟨x, hx⟩, ⟨y, hy⟩, hsame⟩
    refine ⟨x.digest d.toRuntime, by rw [hx]; rfl, ?_⟩
    rw [hy, (hdigest (seriesKeyForJob_eq_ok hx) (seriesKeyForJob_eq_ok hy)).mpr hsame]
    rfl

/-- A submission of a job with the given sections under a key of its own. -/
def seriesCall (n : String) (sections : List String) : Call :=
  .ledger (.create (submitPortfolioReviewJob sampleCaller (some ("key-" ++ n))
    ⟨"rrq_" ++ n, "rjob_" ++ n, "rwork_" ++ n, .ok none, 0⟩
    { sampleRequest with options := [("sections", ofTexts sections)] }))

/-- Two jobs that order the same sections in another sequence. -/
def reorderedRun : List Call :=
  [seriesCall "1" ["OVERVIEW", "PERFORMANCE"], seriesCall "2" ["PERFORMANCE", "OVERVIEW"]]

/-- Two jobs of one request hash, given by a test on their files. -/
theorem exists_files {s : Ledger} {j k : String} {p : JobFile → JobFile → Bool}
    (h : ((s.file? j).any fun f => (s.file? k).any fun g => p f g) = true) :
    ∃ f g, s.file? j = some f ∧ s.file? k = some g ∧ p f g = true := by
  obtain ⟨f, hf, hg⟩ := (Option.any_eq_true _ _).mp h
  obtain ⟨g, hg, hp⟩ := (Option.any_eq_true _ _).mp hg
  exact ⟨f, g, hf, hg, hp⟩

theorem same_series_digest_reordered : ∃ f g,
    (run (Ledger.step verbatimDeployment) Ledger.empty reorderedRun).file? "rjob_1" = some f ∧
    (run (Ledger.step verbatimDeployment) Ledger.empty reorderedRun).file? "rjob_2" = some g ∧
    f.request.requestHash = g.request.requestHash ∧
    (SameSeriesDigest verbatimDeployment.toRuntime f.request g.request ↔
      Keyed f.request ∧ Keyed g.request ∧
        SameDeclared verbatimDeployment.toRuntime f.request g.request) := by
  obtain ⟨f, g, hf, hg, hhash⟩ := exists_files
    (s := run (Ledger.step verbatimDeployment) Ledger.empty reorderedRun) (j := "rjob_1")
    (k := "rjob_2") (p := fun f g => f.request.requestHash == g.request.requestHash)
    (by decide +kernel)
  have hcalls : WellFormedRun reorderedRun := by
    intro c hc
    simp only [reorderedRun, seriesCall, List.mem_cons, List.not_mem_nil, or_false,
      Call.ledger.injEq, LedgerCall.create.injEq] at hc
    rcases hc with rfl | rfl <;> refine ⟨rfl, rfl, ?_⟩ <;> intro j hj <;> cases hj
  exact ⟨f, g, hf, hg, beq_iff_eq.mp hhash, same_series_digest_iff verbatimDeployment
    Function.injective_id reorderedRun hcalls hf hg (beq_iff_eq.mp hhash)⟩

/-- The client identity refines the series: jobs with one request hash have one series digest. -/
def RefinesSeries (d : Deployment) (s : Ledger) : Prop :=
  ∀ j k f g, s.file? j = some f → s.file? k = some g →
    f.request.requestHash = g.request.requestHash →
      SameSeriesDigest d.toRuntime f.request g.request

/-- A section that is named twice makes another series of the same request. -/
theorem not_refinesSeries_repeatedSection :
    ¬ RefinesSeries verbatimDeployment (run (Ledger.step verbatimDeployment) Ledger.empty
      [seriesCall "1" ["OVERVIEW"], seriesCall "2" ["OVERVIEW", "OVERVIEW"]]) := by
  intro h
  obtain ⟨f, g, hf, hg, hp⟩ := exists_files
    (s := run (Ledger.step verbatimDeployment) Ledger.empty
      [seriesCall "1" ["OVERVIEW"], seriesCall "2" ["OVERVIEW", "OVERVIEW"]]) (j := "rjob_1")
    (k := "rjob_2") (p := fun f g => f.request.requestHash == g.request.requestHash &&
      (seriesDigestForJob verbatimDeployment.toRuntime f.request).toOption !=
        (seriesDigestForJob verbatimDeployment.toRuntime g.request).toOption)
    (by decide +kernel)
  rw [Bool.and_eq_true, beq_iff_eq, bne_iff_ne] at hp
  obtain ⟨digest, hdf, hdg⟩ := h "rjob_1" "rjob_2" f g hf hg hp.1
  exact hp.2 (by rw [hdf, hdg])

end Accepted

end LotusReport.Identity
