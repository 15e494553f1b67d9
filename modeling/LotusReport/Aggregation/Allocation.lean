import LotusReport.Decimals.HalfEven
import LotusReport.Encoding.Json
import LotusReport.Encoding.Text
import LotusReport.Fallible.Checks
import LotusReport.Relational.Ranking

/-!
# Allocation weights

The weights of the buckets of an asset allocation, as parts of a positive net
denominator. They are published together or not at all: a payload that is not
complete, a bucket total off the denominator or a stated weight off its value
withholds every row and names the reason.
-/

namespace LotusReport.Aggregation

open Encoding Decimals Fallible Relational

section Model

/-- `reason_code`. -/
inductive ReasonCode where
  | allocationComplete
  | allocationEmpty
  | sourceUnavailable
  | nonpositiveNetDenominator
  | incompleteAllocationPayload
  | sourceValuationUnavailable
  | reportingCurrencyMismatch
  | reportingCurrencyUnavailable
  | sourceDenominatorMismatch
  | sourceWeightMismatch
  | sourceBucketTotalMismatch
deriving DecidableEq, Repr

inductive AllocationStatus where
  | available
  | empty
  | unavailable
deriving DecidableEq, Repr

inductive WeightSource where
  | source
  | derived
  | mixed
deriving DecidableEq, Repr

/-- The status that goes with a reason. -/
def ReasonCode.status : ReasonCode → AllocationStatus
  | .allocationComplete => .available
  | .allocationEmpty => .empty
  | _ => .unavailable

/-- `AllocationSupportability`. -/
structure AllocationSupportability where
  status : AllocationStatus
  reasonCode : ReasonCode
  weightSource : Option WeightSource
  reportingCurrency : Option String
  /-- `validate_posture`. -/
  agrees : status = reasonCode.status
  provenance : status = .available ↔ weightSource.isSome = true
  stated : status = .available → strip (reportingCurrency.getD "") ≠ ""
deriving DecidableEq

/-- `AllocationSupportability.basis`. -/
def AllocationSupportability.basis : String := "signed_net_reporting_currency"

/-- What the calls of the module raise: its own refusal, whose reason withholds the allocation, or an
exception of the language. -/
inductive Raised where
  | unavailable (reason : ReasonCode) (withholds : reason.status = .unavailable := by rfl)
  | valueError
  | typeError
  | arithmeticError
deriving DecidableEq, Repr

/-- `AllocationSupportability.model_validate`. -/
def AllocationSupportability.validate (status : AllocationStatus) (reasonCode : ReasonCode)
    (weightSource : Option WeightSource) (reportingCurrency : Option String) :
    Except Raised AllocationSupportability :=
  if h : status = reasonCode.status ∧ (status = .available ↔ weightSource.isSome = true) ∧
      (status = .available → strip (reportingCurrency.getD "") ≠ "") then
    .ok ⟨status, reasonCode, weightSource, reportingCurrency, h.1, h.2.1, h.2.2⟩
  else .error .valueError

/-- `AggregationRow`; the value is the number that the float of the row stands for. -/
structure AggregationRow where
  bucket : String
  metric : String
  value : ℚ
deriving DecidableEq

/-- `PERFORMANCE_SCALE`. -/
def performanceScale : ℚ := 1 / 10 ^ 6

/-- `MONEY_SCALE`. -/
def moneyScale : ℚ := 1 / 10 ^ 2

/-- The operations of decimal arithmetic that a context can refuse. -/
inductive Operation where
  | add
  | subtract
  | multiply
  | divide
  | quantize
deriving DecidableEq, Repr

variable (digitOf : Char → Option (Fin 10)) (upper : String → String)
  (admits : Operation → ℚ → Bool)

/-- The result of an operation: the exact one, unless the context does not admit it. -/
def result (operation : Operation) (x : ℚ) : Except Raised ℚ :=
  if admits operation x then .ok x else .error .arithmeticError

/-- `_number`. -/
def number (value : Json) : Except Raised ℚ :=
  match value with
  | .int n => .ok n
  | .float text | .str text =>
      match ofText digitOf text with
      | some d => .ok d.value
      | none => .error (.unavailable .incompleteAllocationPayload)
  | .null | .bool _ | .arr _ | .obj _ => .error (.unavailable .incompleteAllocationPayload)

/-- `quantize_performance`, which refuses what takes more than 28 digits. -/
def quantizePerformance (x : ℚ) : Except Raised ℚ :=
  if 10 ^ 22 ≤ |quantizeEven 6 x| then .error .arithmeticError
  else result admits .quantize (quantizeEven 6 x)

/-- The states of a valuation that an allocation may rest on. -/
def coveredStates : List String := ["COMPLETE", "MEASURED_ZERO", "CARRY_FORWARD", "LOADED_EMPTY"]

/-- The valuation of an allocation is covered, where the payload says so. -/
def requireCoverage (allocation : Fields) : Except Raised Unit :=
  match Json.lookup allocation "valuation_coverage" with
  | none => .ok ()
  | some (.obj coverage) =>
      match Json.lookup coverage "coverage_state" with
      | some (.str state) =>
          if coveredStates.contains state then .ok ()
          else .error (.unavailable .sourceValuationUnavailable)
      -- a list and a dictionary are no members that a set could have
      | some (.arr _) | some (.obj _) => .error .typeError
      | _ => .error (.unavailable .sourceValuationUnavailable)
  | some _ => .error (.unavailable .sourceValuationUnavailable)

/-- The view of the asset classes. -/
def isAssetClassView : Json → Bool
  | .obj view => match Json.lookup view "dimension" with
      | some (.str dimension) => dimension == "asset_class"
      | _ => false
  | _ => false

/-- `_buckets`. -/
def bucketsOf (allocation : Fields) : Except Raised (List Json) := do
  requireCoverage allocation
  match Json.lookup allocation "views" with
  | some (.arr views) =>
      match views.filter isAssetClassView with
      | [.obj view] =>
          match Json.lookup view "buckets" with
          | some (.arr buckets) => .ok buckets
          | _ => .error (.unavailable .incompleteAllocationPayload)
      | _ => .error (.unavailable .incompleteAllocationPayload)
  | _ => .error (.unavailable .incompleteAllocationPayload)

/-- `_denominator`. -/
def denominatorOf (allocation : Fields) (summaryTotal : Json) : Except Raised ℚ := do
  let denominator ← number digitOf summaryTotal
  if denominator ≤ 0 then .error (.unavailable .nonpositiveNetDenominator)
  else
    match Json.lookup allocation "total_market_value_reporting_currency" with
    | none => .ok denominator
    | some stated =>
        if (← number digitOf stated) ≠ denominator then
          .error (.unavailable .sourceDenominatorMismatch)
        else .ok denominator

/-- A row with the amount of its bucket, and whether its weight was derived. -/
structure WeighedRow where
  row : AggregationRow
  amount : ℚ
  derived : Bool
deriving DecidableEq

/-- The weight that a bucket states, in percent. -/
def statedWeight (weight : Json) : Except Raised ℚ := do
  quantizePerformance admits (← result admits .multiply ((← number digitOf weight) * 100))

/-- The weight that an amount has, in percent. -/
def expectedWeight (amount denominator : ℚ) : Except Raised ℚ := do
  let part ← result admits .divide (amount / denominator)
  quantizePerformance admits (← result admits .multiply (part * 100))

/-- The weight of a bucket in percent: the stated one, or the expected one where none is stated. -/
def actualWeight (expected : ℚ) : Option Json → Except Raised ℚ
  | none => .ok expected
  | some weight => statedWeight digitOf admits weight

/-- The label of a bucket. -/
def labelOf (bucket : Fields) : Except Raised String :=
  match Json.lookup bucket "dimension_value" with
  | some (.str label) =>
      if strip label = "" then .error (.unavailable .incompleteAllocationPayload)
      else .ok (upper (strip label))
  | _ => .error (.unavailable .incompleteAllocationPayload)

/-- `_row`. -/
def rowOf (denominator : ℚ) (bucket : Json) : Except Raised WeighedRow :=
  match bucket with
  | .obj fields => do
      let label ← labelOf upper fields
      let amount ←
        number digitOf ((Json.lookup fields "market_value_reporting_currency").getD .null)
      let expected ← expectedWeight admits amount denominator
      let actual ← actualWeight digitOf admits expected (Json.lookup fields "weight")
      let difference ← result admits .subtract (actual - expected)
      if performanceScale < |difference| then .error (.unavailable .sourceWeightMismatch)
      else
        return ⟨⟨label, "weight_pct", toFloat actual⟩, amount, (Json.lookup fields "weight").isNone⟩
  | _ => .error (.unavailable .incompleteAllocationPayload)

/-- `sum`. -/
def sumOf (amounts : List ℚ) : Except Raised ℚ :=
  amounts.foldlM (fun total amount => result admits .add (total + amount)) 0

/-- Where the weights come from. -/
def weightSourceOf (items : List WeighedRow) : WeightSource :=
  let derived := items.countP (·.derived)
  if derived = items.length then .derived else if derived = 0 then .source else .mixed

/-- The currency that a payload states. -/
def statedCurrency (value : Option Json) : Option String :=
  match value with
  | some (.str currency) => if strip currency = "" then none else some currency
  | _ => none

/-- The guarded part of `build_allocation_rows`. -/
def guardedRows (allocation : Fields) (summaryTotal summaryCurrency : Json) :
    Except Raised (List AggregationRow × AllocationSupportability) := do
  let stated := statedCurrency (Json.lookup allocation "reporting_currency")
  match stated, statedCurrency (some summaryCurrency) with
  | some currency, some other =>
      if currency ≠ other then .error (.unavailable .reportingCurrencyMismatch)
      else
        let denominator ← denominatorOf digitOf allocation summaryTotal
        let buckets ← bucketsOf allocation
        if buckets = [] then
          return ([], ← AllocationSupportability.validate .empty .allocationEmpty none currency)
        else
          let items ← buckets.mapM (rowOf digitOf upper admits denominator)
          let total ← sumOf admits (items.map (·.amount))
          let difference ← result admits .subtract (total - denominator)
          if moneyScale < |difference| then .error (.unavailable .sourceBucketTotalMismatch)
          else
            let rows := ranked (·.bucket) (items.map (·.row))
            if (rows.map (·.bucket)).Nodup then
              return (rows, ← AllocationSupportability.validate .available .allocationComplete
                (some (weightSourceOf items)) currency)
            else .error (.unavailable .incompleteAllocationPayload)
  | _, _ => .error (.unavailable .reportingCurrencyUnavailable)

/-- The reason that the handler of the guarded part reports. -/
def Raised.reason : Raised → ReasonCode
  | .unavailable reason _ => reason
  | _ => .incompleteAllocationPayload

/-- `build_allocation_rows`. -/
def buildAllocationRows (allocation summaryTotal summaryCurrency : Json) :
    Except Raised (List AggregationRow × AllocationSupportability) :=
  match allocation with
  | .obj fields =>
      match guardedRows digitOf upper admits fields summaryTotal summaryCurrency with
      | .ok published => .ok published
      | .error raised => do
          return ([], ← AllocationSupportability.validate .unavailable raised.reason none
            (statedCurrency (Json.lookup fields "reporting_currency")))
  | _ => do
      return ([], ← AllocationSupportability.validate .unavailable .incompleteAllocationPayload none
        none)

end Model

section Accounted

variable (digitOf : Char → Option (Fin 10)) (upper : String → String)
  (admits : Operation → ℚ → Bool)

/-- The row of a bucket, with the weight of the bucket's amount up to the tolerance and the relative
rounding of the published number. -/
structure RowAccounts (rounding denominator amount : ℚ) (bucket : Json) (row : AggregationRow) :
    Prop where
  metric : row.metric = "weight_pct"
  /-- The label and the amount are those of the bucket. -/
  stated : ∃ fields label, bucket = .obj fields ∧
    Json.lookup fields "dimension_value" = some (.str label) ∧ row.bucket = upper (strip label) ∧
    number digitOf ((Json.lookup fields "market_value_reporting_currency").getD .null) = .ok amount
  weight : |row.value - amount / denominator * 100| ≤
    3 / 2 * performanceScale + rounding * |row.value|

/-- The rows account for the whole of the denominator. -/
structure Accounted (rounding denominator : ℚ) (buckets : List Json) (rows : List AggregationRow) :
    Prop where
  /-- There is one row for each bucket. -/
  oneEach : ∃ items : List AggregationRow, items.Perm rows ∧
    List.Forall₂ (fun bucket row => ∃ amount,
      RowAccounts digitOf upper rounding denominator amount bucket row) buckets items
  sorted : rows.Pairwise fun a b => a.bucket < b.bucket
  whole : |(rows.map (·.value)).sum - 100| ≤
    rows.length * (3 / 2 * performanceScale) + rounding * (rows.map (|·.value|)).sum +
      100 * moneyScale / denominator

theorem result_eq_ok {operation : Operation} {x y : ℚ} (h : result admits operation x = .ok y) :
    y = x := by
  unfold result at h
  split at h
  · cases h
    rfl
  · cases h

theorem quantizePerformance_eq_ok {x y : ℚ} (h : quantizePerformance admits x = .ok y) :
    y = quantizeEven 6 x := by
  unfold quantizePerformance at h
  split at h
  · cases h
  · exact result_eq_ok admits h

/-- The expected weight is off its exact value by half a unit of the scale. -/
theorem abs_expectedWeight_le {amount denominator expected : ℚ}
    (h : expectedWeight admits amount denominator = .ok expected) :
    |expected - amount / denominator * 100| ≤ 1 / 2 * performanceScale := by
  unfold expectedWeight at h
  obtain ⟨part, hpart, h⟩ := bind_eq_ok.mp h
  obtain ⟨percent, hpercent, h⟩ := bind_eq_ok.mp h
  have hround := abs_quantizeEven_sub_le 6 (amount / denominator * 100)
  rw [quantizePerformance_eq_ok admits h, result_eq_ok admits hpercent, result_eq_ok admits hpart]
  calc
    |quantizeEven 6 (amount / denominator * 100) - amount / denominator * 100|
        ≤ 1 / 2 / 10 ^ 6 := hround
    _ = 1 / 2 * performanceScale := by
      unfold performanceScale
      ring

theorem rowAccounts_of_rowOf {denominator : ℚ} {bucket : Json} {item : WeighedRow}
    (h : rowOf digitOf upper admits denominator bucket = .ok item) :
    RowAccounts digitOf upper (1 / 2 ^ 53) denominator item.amount bucket item.row := by
  unfold rowOf at h
  split at h
  · rename_i fields
    obtain ⟨label, hlabel, h⟩ := bind_eq_ok.mp h
    obtain ⟨amount, hamount, h⟩ := bind_eq_ok.mp h
    obtain ⟨expected, hexpected, h⟩ := bind_eq_ok.mp h
    obtain ⟨actual, -, h⟩ := bind_eq_ok.mp h
    obtain ⟨difference, hdifference, h⟩ := bind_eq_ok.mp h
    split at h
    · cases h
    · rename_i hclose
      cases h
      rw [result_eq_ok admits hdifference, not_lt] at hclose
      have hexact := abs_expectedWeight_le admits hexpected
      constructor
      · rfl
      · unfold labelOf at hlabel
        split at hlabel
        · rename_i text htext
          split at hlabel
          · cases hlabel
          · cases hlabel
            exact ⟨fields, text, rfl, htext, rfl, hamount⟩
        · cases hlabel
      · have hdecimal : |actual - amount / denominator * 100| ≤ 3 / 2 * performanceScale := by
          calc
            |actual - amount / denominator * 100|
                ≤ |actual - expected| + |expected - amount / denominator * 100| := abs_sub_le _ _ _
            _ ≤ performanceScale + 1 / 2 * performanceScale := add_le_add hclose hexact
            _ = 3 / 2 * performanceScale := by ring
        have hfloat := abs_toFloat_sub_le actual
        calc
          |toFloat actual - amount / denominator * 100|
              ≤ |toFloat actual - actual| + |actual - amount / denominator * 100| :=
                abs_sub_le _ _ _
          _ ≤ 1 / 2 ^ 53 * |toFloat actual| + 3 / 2 * performanceScale := add_le_add hfloat hdecimal
          _ = 3 / 2 * performanceScale + 1 / 2 ^ 53 * |toFloat actual| := add_comm _ _
  · cases h

theorem sumOf_eq_ok {amounts : List ℚ} {total : ℚ} (h : sumOf admits amounts = .ok total) :
    total = amounts.sum := by
  have hfold : ∀ (amounts : List ℚ) (start total : ℚ),
      amounts.foldlM (fun total amount => result admits .add (total + amount)) start = .ok total →
        total = start + amounts.sum := by
    intro amounts
    induction amounts with
    | nil =>
        intro start total h
        cases h
        simp
    | cons amount amounts ih =>
        intro start total h
        rw [List.foldlM_cons] at h
        obtain ⟨next, hnext, h⟩ := bind_eq_ok.mp h
        rw [ih next total h, result_eq_ok admits hnext, List.sum_cons]
        ring
  rw [hfold amounts 0 total h, zero_add]

/-- Weights near their parts sum to near the sum of the parts. -/
theorem abs_sum_sub_le {items : List WeighedRow} {rounding denominator bound : ℚ}
    (h : ∀ item ∈ items, |item.row.value - item.amount / denominator * 100| ≤
      bound + rounding * |item.row.value|) :
    |(items.map (·.row.value)).sum - (items.map (·.amount)).sum / denominator * 100| ≤
      items.length * bound + rounding * (items.map (|·.row.value|)).sum := by
  induction items with
  | nil => simp
  | cons item items ih =>
      rw [List.forall_mem_cons] at h
      have hrest := ih h.2
      simp only [List.map_cons, List.sum_cons, List.length_cons]
      calc
        |item.row.value + (items.map (·.row.value)).sum -
            (item.amount + (items.map (·.amount)).sum) / denominator * 100|
            = |(item.row.value - item.amount / denominator * 100) +
                ((items.map (·.row.value)).sum -
                  (items.map (·.amount)).sum / denominator * 100)| := by
              congr 1
              ring
        _ ≤ _ + _ := abs_add_le _ _
        _ ≤ (bound + rounding * |item.row.value|) +
              (items.length * bound + rounding * (items.map (|·.row.value|)).sum) :=
            add_le_add h.1 hrest
        _ = ((items.length + 1 : ℕ) : ℚ) * bound +
              rounding * (|item.row.value| + (items.map (|·.row.value|)).sum) := by
            push_cast
            ring

theorem abs_sum_weights_le {items : List WeighedRow} {rounding denominator : ℚ}
    (hpos : 0 < denominator)
    (hweights : ∀ item ∈ items, |item.row.value - item.amount / denominator * 100| ≤
      3 / 2 * performanceScale + rounding * |item.row.value|)
    (htotal : |(items.map (·.amount)).sum - denominator| ≤ moneyScale) :
    |(items.map (·.row.value)).sum - 100| ≤
      items.length * (3 / 2 * performanceScale) + rounding * (items.map (|·.row.value|)).sum +
        100 * moneyScale / denominator := by
  have hsum := abs_sum_sub_le hweights
  have hparts : |(items.map (·.amount)).sum / denominator * 100 - 100| ≤
      100 * moneyScale / denominator := by
    have hscaled : (items.map (·.amount)).sum / denominator * 100 - 100 =
        100 / denominator * ((items.map (·.amount)).sum - denominator) := by
      field_simp
    rw [hscaled, abs_mul, abs_of_pos (by positivity)]
    calc
      100 / denominator * |(items.map (·.amount)).sum - denominator|
          ≤ 100 / denominator * moneyScale := mul_le_mul_of_nonneg_left htotal (by positivity)
      _ = 100 * moneyScale / denominator := by ring
  exact le_trans (abs_sub_le _ _ _) (add_le_add hsum hparts)

theorem denominatorOf_eq_ok {allocation : Fields} {summaryTotal : Json}
    {denominator : ℚ} (h : denominatorOf digitOf allocation summaryTotal = .ok denominator) :
    number digitOf summaryTotal = .ok denominator ∧ 0 < denominator := by
  unfold denominatorOf at h
  obtain ⟨total, htotal, h⟩ := bind_eq_ok.mp h
  split at h
  · cases h
  · rename_i hpositive
    split at h
    · cases h
      exact ⟨htotal, not_le.mp hpositive⟩
    · obtain ⟨stated, -, h⟩ := bind_eq_ok.mp h
      split at h
      · cases h
      · cases h
        exact ⟨htotal, not_le.mp hpositive⟩

theorem validate_eq_ok {status : AllocationStatus} {reasonCode : ReasonCode}
    {weightSource : Option WeightSource} {reportingCurrency : Option String}
    {posture : AllocationSupportability}
    (h : AllocationSupportability.validate status reasonCode weightSource reportingCurrency =
      .ok posture) : posture.status = status := by
  unfold AllocationSupportability.validate at h
  split at h
  · cases h
    rfl
  · cases h

theorem Raised.status_reason (raised : Raised) : raised.reason.status = .unavailable := by
  cases raised with
  | unavailable reason withholds => exact withholds
  | valueError => rfl
  | typeError => rfl
  | arithmeticError => rfl

theorem validate_withheld (reasonCode : ReasonCode) (h : reasonCode.status = .unavailable)
    (reportingCurrency : Option String) : ∃ posture,
      AllocationSupportability.validate .unavailable reasonCode none reportingCurrency =
        .ok posture ∧ posture.status = .unavailable := by
  unfold AllocationSupportability.validate
  have hposture : AllocationStatus.unavailable = reasonCode.status ∧
      (AllocationStatus.unavailable = .available ↔ (none : Option WeightSource).isSome = true) ∧
      (AllocationStatus.unavailable = .available → strip (reportingCurrency.getD "") ≠ "") :=
    ⟨h.symm, by simp, by simp⟩
  rw [dif_pos hposture]
  exact ⟨_, rfl, rfl⟩

/-- What an outcome publishes: rows that account for the whole, or none. -/
structure Publishes (rounding : ℚ) (allocation summaryTotal : Json) (rows : List AggregationRow)
    (posture : AllocationSupportability) : Prop where
  accounted : posture.status = .available → ∃ fields denominator buckets,
    allocation = .obj fields ∧ number digitOf summaryTotal = .ok denominator ∧ 0 < denominator ∧
    bucketsOf fields = .ok buckets ∧ Accounted digitOf upper rounding denominator buckets rows
  withheld : posture.status ≠ .available → rows = []

/-- The rows of a payload, in the order of their labels, account for its denominator. -/
theorem accounted_ranked {denominator : ℚ} {buckets : List Json} {items : List WeighedRow}
    (hpos : 0 < denominator)
    (hitems : buckets.mapM (rowOf digitOf upper admits denominator) = .ok items)
    (hclose : |(items.map (·.amount)).sum - denominator| ≤ moneyScale)
    (hnodup : ((ranked (·.bucket) (items.map (·.row))).map (·.bucket)).Nodup) :
    Accounted digitOf upper (1 / 2 ^ 53) denominator buckets
      (ranked (·.bucket) (items.map (·.row))) := by
  have hrows : (ranked (·.bucket) (items.map (·.row))).Perm (items.map (·.row)) :=
    perm_ranked _ _
  have haccounts : List.Forall₂ (fun bucket item =>
      RowAccounts digitOf upper (1 / 2 ^ 53) denominator item.amount bucket item.row)
        buckets items :=
    (mapM_eq_ok.mp hitems).imp fun _ _ => rowAccounts_of_rowOf digitOf upper admits
  constructor
  · refine ⟨items.map (·.row), hrows.symm, ?_⟩
    rw [List.forall₂_map_right_iff]
    exact haccounts.imp fun _ item hitem => ⟨item.amount, hitem⟩
  · exact pairwise_ranked ((hrows.map _).nodup_iff.mp hnodup)
  · have hweights : ∀ item ∈ items,
        |item.row.value - item.amount / denominator * 100| ≤
          3 / 2 * performanceScale + 1 / 2 ^ 53 * |item.row.value| := by
      intro item hitem
      obtain ⟨bucket, -, hbucket⟩ := exists_of_mem_mapM hitems hitem
      exact (rowAccounts_of_rowOf digitOf upper admits hbucket).weight
    have hsum := abs_sum_weights_le hpos hweights hclose
    rw [(hrows.map (·.value)).sum_eq, (hrows.map (|·.value|)).sum_eq, hrows.length_eq,
      List.length_map, List.map_map, List.map_map]
    exact hsum

theorem publishes_of_guardedRows {allocation : Fields}
    {summaryTotal summaryCurrency : Json} {rows : List AggregationRow}
    {posture : AllocationSupportability}
    (h : guardedRows digitOf upper admits allocation summaryTotal summaryCurrency =
      .ok (rows, posture)) :
    Publishes digitOf upper (1 / 2 ^ 53) (.obj allocation) summaryTotal rows posture := by
  unfold guardedRows at h
  dsimp only at h
  split at h
  · split at h
    · cases h
    · obtain ⟨denominator, hdenominator, h⟩ := bind_eq_ok.mp h
      obtain ⟨buckets, hbuckets, h⟩ := bind_eq_ok.mp h
      obtain ⟨hnumber, hpos⟩ := denominatorOf_eq_ok digitOf hdenominator
      split at h
      · obtain ⟨empty, hempty, h⟩ := bind_eq_ok.mp h
        cases h
        have hstatus := validate_eq_ok hempty
        constructor
        · intro havailable
          rw [hstatus] at havailable
          cases havailable
        · intro _
          rfl
      · obtain ⟨items, hitems, h⟩ := bind_eq_ok.mp h
        obtain ⟨total, htotal, h⟩ := bind_eq_ok.mp h
        obtain ⟨difference, hdifference, h⟩ := bind_eq_ok.mp h
        split at h
        · cases h
        · rename_i hclose
          split at h
          · rename_i hnodup
            obtain ⟨complete, hcomplete, h⟩ := bind_eq_ok.mp h
            cases h
            have hstatus := validate_eq_ok hcomplete
            rw [result_eq_ok admits hdifference, sumOf_eq_ok admits htotal, not_lt] at hclose
            constructor
            · intro _
              exact ⟨allocation, denominator, buckets, rfl, hnumber, hpos, hbuckets,
                accounted_ranked digitOf upper admits hpos hitems hclose hnodup⟩
            · intro hwithheld
              exact absurd hstatus hwithheld
          · cases h
  · cases h

theorem publishes_withheld {allocation summaryTotal : Json} {posture : AllocationSupportability}
    (h : posture.status = .unavailable) :
    Publishes digitOf upper (1 / 2 ^ 53) allocation summaryTotal [] posture := by
  constructor
  · intro havailable
    rw [h] at havailable
    cases havailable
  · intro _
    rfl

/-- Allocation rows are published without raising, for the whole of a payload or not at all. -/
theorem buildAllocationRows_publishes (allocation summaryTotal summaryCurrency : Json) :
    ∃ rows posture,
      buildAllocationRows digitOf upper admits allocation summaryTotal summaryCurrency =
        .ok (rows, posture) ∧
          Publishes digitOf upper (1 / 2 ^ 53) allocation summaryTotal rows posture := by
  unfold buildAllocationRows
  split
  · rename_i fields
    cases hguarded : guardedRows digitOf upper admits fields summaryTotal summaryCurrency with
    | ok published =>
        obtain ⟨rows, posture⟩ := published
        exact ⟨rows, posture, rfl, publishes_of_guardedRows digitOf upper admits hguarded⟩
    | error raised =>
        obtain ⟨posture, hposture, hstatus⟩ := validate_withheld raised.reason
          raised.status_reason (statedCurrency (Json.lookup fields "reporting_currency"))
        refine ⟨[], posture, ?_, publishes_withheld digitOf upper hstatus⟩
        dsimp only
        rw [hposture]
        rfl
  · obtain ⟨posture, hposture, hstatus⟩ :=
      validate_withheld .incompleteAllocationPayload rfl none
    refine ⟨[], posture, ?_, publishes_withheld digitOf upper hstatus⟩
    rw [hposture]
    rfl

/-- An allocation in dollars. -/
def allocationOf (buckets : List Fields) : Json :=
  .obj [("reporting_currency", .str "USD"), ("views", .arr [.obj [("dimension", .str "asset_class"),
    ("buckets", .arr (buckets.map .obj))]])]

/-- A mixed payload with a negative bucket is published in full. -/
example : (buildAllocationRows asciiDigit String.toUpper (fun _ _ => true) (allocationOf [
      [("dimension_value", .str "Equity"), ("market_value_reporting_currency", .str "120"),
        ("weight", .str "1.2")],
      [("dimension_value", .str "Cash"), ("market_value_reporting_currency", .str "-20")]])
    (.int 100) (.str "USD")).toOption.map (fun p => (p.1.map (·.value), p.2.weightSource)) =
      some ([-20, 120], some .mixed) := by decide +kernel

/-- Two large buckets that nearly cancel. -/
def hedgedBuckets : List Fields :=
  [[("dimension_value", .str "Equity"), ("market_value_reporting_currency", .str "123456789.01")],
    [("dimension_value", .str "Cash"), ("market_value_reporting_currency", .str "-123456788.94")]]

theorem buildAllocationRows_hedged :
    (buildAllocationRows asciiDigit String.toUpper (fun _ _ => true) (allocationOf hedgedBuckets)
      (.str "0.07") (.str "USD")).toOption.map (fun p => (p.1.map (·.value), p.2.status)) =
      some ([-5779188657122743 / 2 ^ 15, 5779188660399543 / 2 ^ 15], .available) := by
  decide +kernel

/-- The floats of large weights are off their amounts by more than the tolerance. -/
theorem not_publishes_hedged : ¬ ∀ allocation summaryTotal summaryCurrency : Json,
    ∃ rows posture,
      buildAllocationRows asciiDigit String.toUpper (fun _ _ => true) allocation summaryTotal
        summaryCurrency = .ok (rows, posture) ∧
      Publishes asciiDigit String.toUpper 0 allocation summaryTotal rows posture := by
  intro h
  obtain ⟨rows, posture, hbuilt, hpublishes⟩ :=
    h (allocationOf hedgedBuckets) (.str "0.07") (.str "USD")
  have hout := buildAllocationRows_hedged
  rw [hbuilt] at hout
  obtain ⟨hvalues, hstatus⟩ := Prod.mk.inj (Option.some.inj hout)
  obtain ⟨fields, denominator, buckets, hfields, hdenominator, -, hbuckets, haccounted⟩ :=
    hpublishes.accounted hstatus
  have htotal : number asciiDigit (.str "0.07") = .ok (7 / 100) := by decide +kernel
  rw [htotal] at hdenominator
  cases hdenominator
  cases hfields
  cases hbuckets
  obtain ⟨items, hperm, hrows⟩ := haccounted.oneEach
  cases hrows with
  | @cons _ item _ items hrow _ =>
      obtain ⟨amount, hrow⟩ := hrow
      obtain ⟨fields, label, hfields, -, -, hamount⟩ := hrow.stated
      cases hfields
      have hequity : number asciiDigit (.str "123456789.01") = .ok (12345678901 / 100) := by
        decide +kernel
      cases hequity.symm.trans hamount
      -- neither of the published numbers is near the weight of the first bucket
      have hfar : ∀ value ∈ ([-5779188657122743 / 2 ^ 15, 5779188660399543 / 2 ^ 15] : List ℚ),
          3 / 2 * performanceScale < |value - 12345678901 / 100 / (7 / 100) * 100| := by
        decide +kernel
      have hmem : item.value ∈ rows.map (·.value) :=
        List.mem_map_of_mem (hperm.subset List.mem_cons_self)
      have hclose := hrow.weight
      rw [zero_mul, add_zero] at hclose
      exact absurd hclose (not_le.mpr (hfar item.value (hvalues ▸ hmem)))

end Accounted

end LotusReport.Aggregation
