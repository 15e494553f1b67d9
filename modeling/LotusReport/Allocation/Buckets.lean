import LotusReport.Allocation.Coverage
import LotusReport.Rendering.Figures

/-!
# Allocation buckets

A bucket is admitted field by field: a count, a figure of a contributor or a residual
that is not what its field holds becomes null, and the bucket is malformed. The same
admission serves the capture of a source answer and the presentation of a snapshot.
-/

namespace LotusReport.Allocation

open Encoding Decimals Rendering Transactions

/-- What the language gives: the digits of a text, the value of a floating-point text, and the
text of the floating-point number nearest to a decimal. -/
structure NumberLibrary where
  digitOf : Char → Option (Fin 10)
  floatValue : String → FloatValue
  floatOf : Decimal → String

/-- `ALLOCATION_DIMENSIONS`. -/
def allocationDimensions : List (String × String) :=
  [ ("asset_class", "byAssetClass"), ("currency", "byCurrency"), ("sector", "bySector"),
    ("region", "byRegion"), ("country", "byCountry"), ("product_type", "byProductType"),
    ("rating", "byRating") ]

/-- `DIMENSION_KEYS.values()`. -/
def dimensionKeys : List String := allocationDimensions.map Prod.snd

/-- A nullable floating-point number. -/
def ofNumber : Option String → Json
  | some text => .float text
  | none => .null

section Numbers

variable (lib : NumberLibrary)

/-- `allocation_number`: no number where the float is infinite or lost the value to zero. -/
def allocationNumber (value : Json) : Option String :=
  match captured lib.digitOf value with
  | some (.finite d) =>
      match lib.floatValue (lib.floatOf d) with
      | .finite result => if d.coeff ≠ 0 ∧ result = 0 then none else some (lib.floatOf d)
      | _ => none
  | _ => none

/-- The value is null or a number. -/
def isFigure (value : Json) : Bool := value == .null || (allocationNumber lib value).isSome

end Numbers

/-- The value counts something. -/
def isCount : Json → Bool
  | .int n => 0 ≤ n
  | _ => false

/-- Replace a value that its field cannot hold by null, and say whether it was replaced. -/
def admitField (holds : Json → Bool) (fields : Fields) (name : String) : Fields × Bool :=
  match Json.lookup fields name with
  | some value => if holds value then (fields, false) else (Json.assign fields name .null, true)
  | none => (fields, false)

/-- Admit several fields. -/
def admitFields (holds : Json → Bool) : List String → Fields → Fields × Bool
  | [], fields => (fields, false)
  | name :: names, fields =>
      let first := admitField holds fields name
      let rest := admitFields holds names first.1
      (rest.1, first.2 || rest.2)

def countFields : List String :=
  ["position_count", "contributor_count", "omitted_contributor_count"]

/-- The counts of contributors do not fit the contributors that are listed. -/
def countsContradict (row : Fields) : Bool :=
  match get row "contributors", get row "contributor_count" with
  | .arr contributors, .int total =>
      match get row "omitted_contributor_count" with
      | .int omitted => total != contributors.length + omitted
      | _ => total < contributors.length
  | _, _ => false

/-- `_admit_bucket_counts`. -/
def admitBucketCounts (row : Fields) : Fields × Bool :=
  let admitted := admitFields isCount countFields row
  (admitted.1, admitted.2 || countsContradict admitted.1)

/-- The value of the contributors that are not listed. -/
def residualField : String := "omitted_market_value_reporting_currency"

def contributorFigures : List String :=
  ["market_value_reporting_currency", "bucket_weight", "component_weight"]

section Admission

variable (lib : NumberLibrary)

/-- The contributor belongs to another portfolio. -/
def foreign (portfolioId : Json) (contributor : Fields) : Bool :=
  get contributor "portfolio_id" != .null &&
    !pyEq lib.floatValue (get contributor "portfolio_id") portfolioId

/-- The contributors that are objects, with their figures admitted; none where one of them is
refused for its portfolio. -/
def admitContributors (portfolioId : Json) : List Json → Option (List Json × Bool)
  | [] => some ([], false)
  | .obj contributor :: contributors =>
      if foreign lib portfolioId contributor then none
      else
        let admitted := admitFields (isFigure lib) contributorFigures contributor
        (admitContributors portfolioId contributors).map fun rest =>
          (.obj admitted.1 :: rest.1, admitted.2 || rest.2)
  | _ :: contributors =>
      (admitContributors portfolioId contributors).map fun rest => (rest.1, true)

/-- `_qualify_contributors`: the bucket afterwards and whether it is malformed, which is missing
where a contributor is refused. The contributors of a refused bucket are of no use to a caller. -/
def qualifyContributors (portfolioId : Json) (row : Fields) : Fields × Option Bool :=
  let counted := admitBucketCounts row
  match Json.lookup counted.1 "contributors" with
  | none =>
      let admitted := admitField (isFigure lib) counted.1 residualField
      (admitted.1, some (counted.2 || admitted.2))
  | some (.arr contributors) =>
      match admitContributors lib portfolioId contributors with
      | none => (counted.1, none)
      | some kept =>
          let admitted := admitField (isFigure lib)
            (Json.assign counted.1 "contributors" (.arr kept.1)) residualField
          (admitted.1, some (counted.2 || kept.2 || admitted.2))
  | some _ => (Json.assign counted.1 "contributors" (.arr []), some true)

end Admission

/-- What the contradiction check raises: a list or a dictionary is no member of a set. -/
inductive Raised where
  | typeError
deriving DecidableEq, Repr

/-- The value has a hash. -/
def hashable : Json → Bool
  | .arr _ | .obj _ => false
  | _ => true

/-- The buckets of a view. -/
def bucketsIn : Json → List Fields
  | .arr rows => rows.map asDict
  | _ => []

/-- The buckets of the view at a key. -/
def bucketsAt (allocation : Fields) (key : String) : List Fields := bucketsIn (get allocation key)

/-- The buckets of all views. -/
def bucketsOf (allocation : Fields) : List Fields := dimensionKeys.flatMap (bucketsAt allocation)

section Contradictions

variable (lib : NumberLibrary)

/-- `value != 0`. -/
def nonzero (value : Json) : Bool := !pyEq lib.floatValue value (.int 0)

/-- `allocation_number(value) != 0`. -/
def numberNonzero (value : Json) : Bool := nonzero lib (ofNumber (allocationNumber lib value))

/-- `_contradictory_covered_numbers`, in a state that is covered. -/
def contradictoryCoveredNumbers (state : String) (allocation : Fields) (totals : List Json) :
    Bool :=
  let views := dimensionKeys.filter fun key => (Json.lookup allocation key).isSome
  if views.isEmpty || views.any fun key =>
      !(bucketsAt allocation key).isEmpty == (state == "LOADED_EMPTY") then true
  else if totals.any fun value => (allocationNumber lib value).isNone then true
  else if ["MEASURED_ZERO", "LOADED_EMPTY"].contains state then
    totals.any (numberNonzero lib) ||
      (bucketsOf allocation).any fun row => nonzero lib (get row "market_value")
  else (bucketsOf allocation).any fun row => get row "market_value" == .null

/-- `_contradictory_source_numbers`, on admitted buckets. -/
def contradictorySourceNumbers (coverage total : Json) (allocation : Fields) : Except Raised Bool :=
  let state := get (asDict coverage) "coverage_state"
  match (Json.lookup allocation "view_totals").getD (.obj []) with
  | .obj viewTotals =>
      let totals := total :: viewTotals.map Prod.snd
      if !hashable state then .error .typeError
      else match state with
        | .str state =>
            if ["PARTIAL", "UNAVAILABLE"].contains state then
              .ok (totals.any (· != .null) ||
                (bucketsOf allocation).any fun row => get row "weight" != .null)
            else if ["COMPLETE", "MEASURED_ZERO", "CARRY_FORWARD", "LOADED_EMPTY"].contains
                state then
              .ok (contradictoryCoveredNumbers lib state allocation totals)
            else .ok false
        | _ => .ok false
  | _ => .ok true

end Contradictions

/-- The buckets of an admitted view without their weights. -/
def weightless : Json → Json
  | .arr rows => .arr (rows.map fun row => .obj (Json.assign (asDict row) "weight" .null))
  | view => view

/-- `_suppress_weights`, on admitted buckets. -/
def suppressWeights (allocation : Fields) : Fields :=
  dimensionKeys.foldl (fun allocation key =>
    match Json.lookup allocation key with
    | some view => Json.assign allocation key (weightless view)
    | none => allocation) allocation

theorem get_of_lookup {fields : Fields} {name : String} {value : Json}
    (h : Json.lookup fields name = some value) : get fields name = value :=
  congrArg (fun found : Option Json => found.getD Json.null) h

theorem get_of_lookup_eq_none {fields : Fields} {name : String}
    (h : Json.lookup fields name = none) : get fields name = .null :=
  congrArg (fun found : Option Json => found.getD Json.null) h

section Admitted

/-- A field is absent or holds what it should. -/
def Held (holds : Json → Bool) (fields : Fields) (name : String) : Prop :=
  ∀ value ∈ Json.lookup fields name, holds value = true

theorem admitField_held {holds : Json → Bool} {fields : Fields} {name : String}
    (h : Held holds fields name) : admitField holds fields name = (fields, false) := by
  unfold admitField
  cases hvalue : Json.lookup fields name with
  | none => rfl
  | some value => exact if_pos (h value hvalue)

theorem held_of_admitField {holds : Json → Bool} {fields : Fields} {name : String}
    (h : (admitField holds fields name).2 = false) : Held holds fields name := by
  intro value hvalue
  unfold admitField at h
  rw [Option.mem_def.mp hvalue] at h
  by_contra hnot
  simp [hnot] at h

/-- Nothing is malformed exactly if every field holds what it should, and then nothing changes. -/
theorem admitFields_iff {holds : Json → Bool} {names : List String} {fields : Fields} :
    (admitFields holds names fields).2 = false ↔ ∀ name ∈ names, Held holds fields name := by
  induction names generalizing fields with
  | nil => simp [admitFields]
  | cons name names ih =>
      simp only [admitFields, Bool.or_eq_false_iff, List.forall_mem_cons]
      constructor
      · rintro ⟨hfirst, hrest⟩
        have hheld := held_of_admitField hfirst
        rw [admitField_held hheld, ih] at hrest
        exact ⟨hheld, hrest⟩
      · rintro ⟨hheld, hrest⟩
        rw [admitField_held hheld]
        exact ⟨rfl, ih.mpr hrest⟩

theorem admitFields_held {holds : Json → Bool} {names : List String} {fields : Fields}
    (h : ∀ name ∈ names, Held holds fields name) :
    admitFields holds names fields = (fields, false) := by
  induction names with
  | nil => rfl
  | cons name names ih =>
      rw [List.forall_mem_cons] at h
      simp only [admitFields, admitField_held h.1, ih h.2, Bool.or_false]

variable {lib : NumberLibrary} {portfolioId : Json}

/-- A contributor of the portfolio whose figures are numbers or null. -/
def WellFormedContributor (lib : NumberLibrary) (portfolioId : Json) (item : Json) : Prop :=
  ∃ contributor, item = .obj contributor ∧ foreign lib portfolioId contributor = false ∧
    ∀ name ∈ contributorFigures, Held (isFigure lib) contributor name

/-- A bucket whose counts, contributors and residual are what their fields hold. -/
structure WellFormedBucket (lib : NumberLibrary) (portfolioId : Json) (row : Fields) : Prop where
  counts : ∀ name ∈ countFields, Held isCount row name
  agreeing : countsContradict row = false
  contributors : ∀ value ∈ Json.lookup row "contributors", ∃ items, value = .arr items ∧
    ∀ item ∈ items, WellFormedContributor lib portfolioId item
  residual : Held (isFigure lib) row residualField

theorem admitBucketCounts_iff {row : Fields} : (admitBucketCounts row).2 = false ↔
    (∀ name ∈ countFields, Held isCount row name) ∧ countsContradict row = false := by
  simp only [admitBucketCounts, Bool.or_eq_false_iff, admitFields_iff]
  constructor
  · rintro ⟨hheld, hagree⟩
    rw [admitFields_held hheld] at hagree
    exact ⟨hheld, hagree⟩
  · rintro ⟨hheld, hagree⟩
    rw [admitFields_held hheld]
    exact ⟨hheld, hagree⟩

theorem admitBucketCounts_held {row : Fields} (h : (admitBucketCounts row).2 = false) :
    (admitBucketCounts row).1 = row := by
  simp only [admitBucketCounts, admitFields_held (admitBucketCounts_iff.mp h).1]

theorem admitContributors_iff {items kept : List Json} :
    admitContributors lib portfolioId items = some (kept, false) ↔
      kept = items ∧ ∀ item ∈ items, WellFormedContributor lib portfolioId item := by
  induction items generalizing kept with
  | nil => simp [admitContributors, eq_comm]
  | cons item items ih =>
      rw [List.forall_mem_cons]
      cases item with
      | obj contributor =>
          rw [admitContributors]
          by_cases hforeign : foreign lib portfolioId contributor = true
          · rw [if_pos hforeign]
            refine iff_of_false (by rintro ⟨⟩) ?_
            rintro ⟨-, ⟨c, hc, hown, -⟩, -⟩
            cases hc
            rw [hforeign] at hown
            cases hown
          · rw [if_neg hforeign, Option.map_eq_some_iff]
            rw [Bool.not_eq_true] at hforeign
            constructor
            · rintro ⟨rest, hrest, heq⟩
              obtain ⟨rfl, hclean⟩ := Prod.mk.inj heq
              rw [Bool.or_eq_false_iff] at hclean
              have hheld := admitFields_iff.mp hclean.1
              rw [admitFields_held hheld]
              have hrest' : admitContributors lib portfolioId items = some (rest.1, false) := by
                rw [hrest, ← hclean.2]
              obtain ⟨hsame, hall⟩ := ih.mp hrest'
              exact ⟨by rw [hsame], ⟨contributor, rfl, hforeign, hheld⟩, hall⟩
            · rintro ⟨rfl, ⟨c, hc, -, hheld⟩, hall⟩
              cases hc
              refine ⟨(items, false), ih.mpr ⟨rfl, hall⟩, ?_⟩
              rw [admitFields_held hheld]
              rfl
      | _ =>
          simp [admitContributors, WellFormedContributor]

theorem lookup_admitField_of_ne {holds : Json → Bool} {fields : Fields} {name other : String}
    (hne : other ≠ name) :
    Json.lookup (admitField holds fields name).1 other = Json.lookup fields other := by
  unfold admitField
  split
  · split
    · rfl
    · exact lookup_assign_of_ne hne
  · rfl

theorem lookup_admitFields_of_not_mem {holds : Json → Bool} {names : List String} {fields : Fields}
    {other : String} (hother : other ∉ names) :
    Json.lookup (admitFields holds names fields).1 other = Json.lookup fields other := by
  induction names generalizing fields with
  | nil => rfl
  | cons name names ih =>
      rw [List.mem_cons, not_or] at hother
      exact (ih hother.2).trans (lookup_admitField_of_ne hother.1)

theorem assign_of_lookup {fields : Fields} (h : Distinct fields) {name : String} {value : Json}
    (hvalue : Json.lookup fields name = some value) : Json.assign fields name value = fields := by
  have hmem := (lookup_eq_some_iff h).mp hvalue
  have hany : (fields.any fun f => f.1 == name) = true :=
    List.any_eq_true.mpr ⟨_, hmem, beq_self_eq_true name⟩
  rw [Json.assign, if_pos hany]
  refine (List.map_congr_left fun f hf => ?_).trans (List.map_id fields)
  by_cases hname : f.1 = name
  · have hown : Json.lookup fields name = some f.2 := by
      rw [lookup_eq_some_iff h, ← hname]
      exact hf
    rw [hvalue, Option.some.injEq] at hown
    rw [if_pos (beq_iff_eq.mpr hname), hown, ← hname]
    rfl
  · exact if_neg (by simpa using hname)

theorem qualifyContributors_wellFormed {row : Fields} (h : WellFormedBucket lib portfolioId row) :
    ∃ admitted, qualifyContributors lib portfolioId row = (admitted, some false) ∧
      (∀ name, Json.lookup admitted name = Json.lookup row name) ∧
      (Distinct row → admitted = row) := by
  have hcounts : (admitBucketCounts row).2 = false :=
    admitBucketCounts_iff.mpr ⟨h.counts, h.agreeing⟩
  unfold qualifyContributors
  simp only [admitBucketCounts_held hcounts, hcounts, Bool.false_or]
  cases hvalue : Json.lookup row "contributors" with
  | none =>
      dsimp only
      rw [admitField_held h.residual]
      exact ⟨row, rfl, fun _ => rfl, fun _ => rfl⟩
  | some value =>
      obtain ⟨items, rfl, hall⟩ := h.contributors value hvalue
      have hresidual : Held (isFigure lib) (Json.assign row "contributors" (.arr items))
          residualField := by
        intro residual hresidual
        rw [lookup_assign_of_ne (by decide)] at hresidual
        exact h.residual residual hresidual
      dsimp only
      rw [admitContributors_iff.mpr ⟨rfl, hall⟩]
      dsimp only
      rw [admitField_held hresidual]
      refine ⟨Json.assign row "contributors" (.arr items), rfl, fun name => ?_,
        fun hdistinct => assign_of_lookup hdistinct hvalue⟩
      by_cases hname : name = "contributors"
      · rw [hname, lookup_assign_self, hvalue]
      · exact lookup_assign_of_ne hname

theorem qualifyContributors_iff {row : Fields} :
    (qualifyContributors lib portfolioId row).2 = some false ↔
      WellFormedBucket lib portfolioId row := by
  constructor
  · intro h
    have hcounts : (admitBucketCounts row).2 = false := by
      by_contra hmalformed
      rw [Bool.not_eq_false] at hmalformed
      unfold qualifyContributors at h
      simp only [hmalformed, Bool.true_or] at h
      split at h
      · cases h
      · split at h
        · cases h
        · cases h
      · cases h
    have hkept := admitBucketCounts_held hcounts
    obtain ⟨hheld, hagree⟩ := admitBucketCounts_iff.mp hcounts
    unfold qualifyContributors at h
    simp only [hkept, hcounts, Bool.false_or] at h
    split at h
    · rename_i hnone
      refine ⟨hheld, hagree, ?_, held_of_admitField (Option.some.inj h)⟩
      intro value hvalue
      rw [hnone] at hvalue
      cases hvalue
    · rename_i items hitems
      split at h
      · cases h
      · rename_i kept hadmitted
        obtain ⟨hclean, hresidual⟩ := Bool.or_eq_false_iff.mp (Option.some.inj h)
        have hadmitted' : admitContributors lib portfolioId items = some (kept.1, false) := by
          rw [hadmitted, ← hclean]
        refine ⟨hheld, hagree, ?_, ?_⟩
        · intro value hvalue
          rw [hitems] at hvalue
          cases hvalue
          exact ⟨items, rfl, (admitContributors_iff.mp hadmitted').2⟩
        · intro value hvalue
          apply held_of_admitField hresidual
          rw [lookup_assign_of_ne (by decide)]
          exact hvalue
    · cases h
  · intro h
    obtain ⟨admitted, hadmitted, -⟩ := qualifyContributors_wellFormed h
    rw [hadmitted]

end Admitted

end LotusReport.Allocation
