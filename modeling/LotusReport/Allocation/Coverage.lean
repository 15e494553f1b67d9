import LotusReport.Encoding.Fields
import LotusReport.Encoding.Validation
import LotusReport.Fallible.Checks

/-!
# Allocation coverage and its qualification

The source states how far the positions of an allocation were valued, and the report
states what it makes of that. Both statements are read from decoded values by models
that check their coherence, and are written back as values.
-/

namespace LotusReport.Allocation

open Encoding Fallible

/-- `CoverageState`. -/
inductive CoverageState where
  | complete
  | measuredZero
  | carryForward
  | loadedEmpty
  | partlyCovered
  | unavailable
deriving DecidableEq, Repr

/-- `CoverageReason`. -/
inductive CoverageReason where
  | allSourcePositionsCovered
  | sourceMeasuredZero
  | latestSourceSnapshotPrecedesAsOfDate
  | sourceSnapshotHasNoOpenPositions
  | portfolioSnapshotMissing
  | openPositionCoverageGap
  | marketValueMissing
  | valuationStatusNotValued
  | noSourceSnapshot
deriving DecidableEq, Repr

def CoverageState.text : CoverageState → String
  | complete => "COMPLETE"
  | measuredZero => "MEASURED_ZERO"
  | carryForward => "CARRY_FORWARD"
  | loadedEmpty => "LOADED_EMPTY"
  | partlyCovered => "PARTIAL"
  | unavailable => "UNAVAILABLE"

def CoverageReason.text : CoverageReason → String
  | allSourcePositionsCovered => "all_source_positions_covered"
  | sourceMeasuredZero => "source_measured_zero"
  | latestSourceSnapshotPrecedesAsOfDate => "latest_source_snapshot_precedes_as_of_date"
  | sourceSnapshotHasNoOpenPositions => "source_snapshot_has_no_open_positions"
  | portfolioSnapshotMissing => "portfolio_snapshot_missing"
  | openPositionCoverageGap => "open_position_coverage_gap"
  | marketValueMissing => "market_value_missing"
  | valuationStatusNotValued => "valuation_status_not_valued"
  | noSourceSnapshot => "no_source_snapshot"

def coverageStates : List CoverageState :=
  [.complete, .measuredZero, .carryForward, .loadedEmpty, .partlyCovered, .unavailable]

def coverageReasons : List CoverageReason :=
  [.allSourcePositionsCovered, .sourceMeasuredZero, .latestSourceSnapshotPrecedesAsOfDate,
    .sourceSnapshotHasNoOpenPositions, .portfolioSnapshotMissing, .openPositionCoverageGap,
    .marketValueMissing, .valuationStatusNotValued, .noSourceSnapshot]

/-- `STATE_REASONS`. -/
def stateReasons : CoverageState → List CoverageReason
  | .complete => [.allSourcePositionsCovered]
  | .measuredZero => [.sourceMeasuredZero]
  | .carryForward => [.latestSourceSnapshotPrecedesAsOfDate]
  | .loadedEmpty => [.sourceSnapshotHasNoOpenPositions]
  | .partlyCovered =>
      [.portfolioSnapshotMissing, .openPositionCoverageGap, .marketValueMissing,
        .valuationStatusNotValued]
  | .unavailable => [.noSourceSnapshot, .openPositionCoverageGap]

/-- The fields of a coverage statement. -/
structure CoverageFields where
  coverageState : CoverageState
  coverageReason : CoverageReason
  snapshotRowCount : Nat
  expectedOpenPositionCount : Nat
  valuedPositionCount : Nat
  unvaluedPositionCount : Nat
deriving DecidableEq, Repr

/-- `coherent_source_statement`. -/
def CoverageFields.coherent (c : CoverageFields) : Bool :=
  (stateReasons c.coverageState).contains c.coverageReason &&
    c.valuedPositionCount + c.unvaluedPositionCount == c.snapshotRowCount &&
    !([CoverageState.complete, .measuredZero, .carryForward].contains c.coverageState &&
      (c.snapshotRowCount == 0 || c.unvaluedPositionCount != 0 ||
        decide (c.snapshotRowCount < c.expectedOpenPositionCount))) &&
    !(c.coverageState == .loadedEmpty &&
      (c.snapshotRowCount != 0 || c.expectedOpenPositionCount != 0)) &&
    !(c.coverageState == .unavailable && c.snapshotRowCount != 0) &&
    !([CoverageReason.marketValueMissing, .valuationStatusNotValued].contains c.coverageReason &&
      c.unvaluedPositionCount == 0) &&
    !(c.coverageReason == .openPositionCoverageGap &&
      decide (c.expectedOpenPositionCount ≤ c.snapshotRowCount))

/-- `AllocationValuationCoverage`: a coherent statement of the source. -/
structure AllocationValuationCoverage extends CoverageFields where
  coherent : toCoverageFields.coherent = true
deriving DecidableEq

/-- A member of a closed set of texts. -/
def literal {α : Type} (text : α → String) (members : List α) : Json → Except Invalid α
  | .str value => converted (members.find? fun member => text member == value)
  | _ => .error .refused

/-- A strict integer from zero. -/
def strictCount (j : Json) : Except Invalid Nat := (intWith (0 ≤ ·) j).map Int.toNat

/-- `AllocationValuationCoverage.model_validate`; further fields are ignored. -/
def AllocationValuationCoverage.validate (j : Json) :
    Except Invalid AllocationValuationCoverage := do
  let fields ← fieldsOf j
  let c : CoverageFields := {
    coverageState := ← required fields "coverage_state" (literal CoverageState.text coverageStates)
    coverageReason :=
      ← required fields "coverage_reason" (literal CoverageReason.text coverageReasons)
    snapshotRowCount := ← required fields "snapshot_row_count" strictCount
    expectedOpenPositionCount := ← required fields "expected_open_position_count" strictCount
    valuedPositionCount := ← required fields "valued_position_count" strictCount
    unvaluedPositionCount := ← required fields "unvalued_position_count" strictCount }
  if h : c.coherent = true then return ⟨c, h⟩ else .error .refused

/-- `model_dump`. -/
def AllocationValuationCoverage.dump (c : AllocationValuationCoverage) : Json :=
  .obj
    [ ("coverage_state", .str c.coverageState.text),
      ("coverage_reason", .str c.coverageReason.text),
      ("snapshot_row_count", .int c.snapshotRowCount),
      ("expected_open_position_count", .int c.expectedOpenPositionCount),
      ("valued_position_count", .int c.valuedPositionCount),
      ("unvalued_position_count", .int c.unvaluedPositionCount) ]

/-- The status of a qualification. -/
inductive QualificationStatus where
  | complete
  | partlyQualified
  | missing
  | invalid
deriving DecidableEq, Repr

/-- The reason of a qualification. -/
inductive QualificationReason where
  | valuationComplete
  | valuationPartial
  | valuationCarryForward
  | valuationMissing
  | valuationInvalid
  | numericUnavailable
deriving DecidableEq, Repr

def QualificationStatus.text : QualificationStatus → String
  | complete => "complete"
  | partlyQualified => "partial"
  | missing => "missing"
  | invalid => "invalid"

def QualificationReason.text : QualificationReason → String
  | valuationComplete => "allocation_valuation_complete"
  | valuationPartial => "allocation_valuation_partial"
  | valuationCarryForward => "allocation_valuation_carry_forward"
  | valuationMissing => "allocation_valuation_missing"
  | valuationInvalid => "allocation_valuation_invalid"
  | numericUnavailable => "allocation_numeric_unavailable"

def qualificationStatuses : List QualificationStatus :=
  [.complete, .partlyQualified, .missing, .invalid]

def qualificationReasons : List QualificationReason :=
  [.valuationComplete, .valuationPartial, .valuationCarryForward, .valuationMissing,
    .valuationInvalid, .numericUnavailable]

/-- The reasons that a status may have. -/
def statusReasons : QualificationStatus → List QualificationReason
  | .complete => [.valuationComplete]
  | .partlyQualified => [.valuationPartial, .valuationCarryForward, .numericUnavailable]
  | .missing => [.valuationMissing]
  | .invalid => [.valuationInvalid]

/-- `AllocationQualification`; its assignments are not validated again. -/
structure AllocationQualification where
  status : QualificationStatus
  reasonCode : QualificationReason
  coverage : Option AllocationValuationCoverage := none
  sourcePortfolioId : Option String := none
  sourceAsOfDate : Option String := none
  sourceReportingCurrency : Option String := none
  clientPublicationAllowed : Bool := false
deriving DecidableEq

/-- The states whose coverage may be published. -/
def publishableStates : List CoverageState := [.complete, .measuredZero, .loadedEmpty]

/-- The coverage is one that may be published. -/
def AllocationQualification.coverageComplete (q : AllocationQualification) : Bool :=
  q.coverage.any fun c => publishableStates.contains c.coverageState

/-- `coherent_presentation`; the texts that it parses have passed their patterns. -/
def AllocationQualification.coherent (q : AllocationQualification) : Bool :=
  (statusReasons q.status).contains q.reasonCode &&
    !(q.status == .complete && !(q.reasonCode == .valuationComplete && q.coverageComplete)) &&
    !(q.clientPublicationAllowed &&
      (q.status != .complete || q.sourcePortfolioId.isNone || q.sourceAsOfDate.isNone ||
        q.sourceReportingCurrency.isNone))

/-- `_iso_date`, on a text. -/
def isIsoDate (text : String) : Bool := (dateFromIsoformat text).any fun d => d.isoformat == text

/-- `_currency`, on a text. -/
def isCurrency (text : String) : Bool :=
  text.toList.length == 3 && text.toList.all fun c => 'A' ≤ c && c ≤ 'Z'

/-- A text of at least one and at most 128 characters. -/
def isBounded (text : String) : Bool := 0 < text.toList.length && text.toList.length ≤ 128

def policyVersion : String := "allocation-valuation-v1"

/-- The fields of a qualification. -/
def qualificationFields : List String :=
  [ "policy_version", "status", "reason_code", "coverage", "source_portfolio_id",
    "source_as_of_date", "source_reporting_currency", "client_publication_allowed" ]

/-- A field with a default. -/
def defaulted {α : Type} (fields : Fields) (name : String) (default : α)
    (validate : Json → Except Invalid α) : Except Invalid α :=
  match Json.lookup fields name with
  | some value => validate value
  | none => .ok default

/-- A strict boolean. -/
def strictBool : Json → Except Invalid Bool
  | .bool b => .ok b
  | _ => .error .refused

/-- `AllocationQualification.model_validate`; no further field is allowed. -/
def AllocationQualification.validate (j : Json) : Except Invalid AllocationQualification := do
  let fields ← fieldsOf j
  forbidExtra qualificationFields fields
  let _ ← defaulted fields "policy_version" policyVersion (textWith (· == policyVersion))
  let q : AllocationQualification := {
    status := ← required fields "status" (literal QualificationStatus.text qualificationStatuses)
    reasonCode :=
      ← required fields "reason_code" (literal QualificationReason.text qualificationReasons)
    coverage := ← nullable fields "coverage" AllocationValuationCoverage.validate
    sourcePortfolioId := ← nullable fields "source_portfolio_id" (textWith isBounded)
    sourceAsOfDate := ← nullable fields "source_as_of_date" (textWith isIsoDate)
    sourceReportingCurrency := ← nullable fields "source_reporting_currency" (textWith isCurrency)
    clientPublicationAllowed := ← defaulted fields "client_publication_allowed" false strictBool }
  if q.coherent then return q else .error .refused

/-- `model_dump(mode="json")`. -/
def AllocationQualification.dump (q : AllocationQualification) : Json :=
  .obj
    [ ("policy_version", .str policyVersion),
      ("status", .str q.status.text),
      ("reason_code", .str q.reasonCode.text),
      ("coverage", (q.coverage.map (·.dump)).getD .null),
      ("source_portfolio_id", .ofText? q.sourcePortfolioId),
      ("source_as_of_date", .ofText? q.sourceAsOfDate),
      ("source_reporting_currency", .ofText? q.sourceReportingCurrency),
      ("client_publication_allowed", .bool q.clientPublicationAllowed) ]

/-- `QUALIFICATION_TEXT`. -/
def QualificationReason.statement : QualificationReason → String
  | valuationComplete => "Allocation uses source-qualified valuation coverage."
  | valuationPartial => "Allocation valuation coverage is incomplete; unavailable values and " ++
      "weights remain unavailable."
  | valuationCarryForward => "Allocation uses source-qualified carried-forward valuations."
  | valuationMissing =>
      "Allocation valuation qualification is unavailable; completeness is not attested."
  | valuationInvalid =>
      "Allocation valuation evidence is inconsistent; completeness is not attested."
  | numericUnavailable => "One or more allocation values or weights are unavailable; " ++
      "no replacement zero was calculated."

section RoundTrip

theorem literal_coverageState (state : CoverageState) :
    literal CoverageState.text coverageStates (.str state.text) = .ok state := by
  cases state <;> rfl

theorem literal_coverageReason (reason : CoverageReason) :
    literal CoverageReason.text coverageReasons (.str reason.text) = .ok reason := by
  cases reason <;> rfl

theorem literal_status (status : QualificationStatus) :
    literal QualificationStatus.text qualificationStatuses (.str status.text) = .ok status := by
  cases status <;> rfl

theorem literal_reason (reason : QualificationReason) :
    literal QualificationReason.text qualificationReasons (.str reason.text) = .ok reason := by
  cases reason <;> rfl

theorem strictCount_natCast (n : Nat) : strictCount (.int n) = .ok n := by
  simp [strictCount, intWith, Except.map]

theorem required_of_lookup {α : Type} {fields : Fields} {name : String} {value : Json}
    (h : Json.lookup fields name = some value) (validate : Json → Except Invalid α) :
    required fields name validate = validate value := by
  rw [required, h]

/-- A coverage statement that is written is read back. -/
theorem AllocationValuationCoverage.validate_dump (c : AllocationValuationCoverage) :
    AllocationValuationCoverage.validate c.dump = .ok c := by
  unfold AllocationValuationCoverage.validate AllocationValuationCoverage.dump
  simp only [fieldsOf, bind, Except.bind]
  rw [required_of_lookup rfl, literal_coverageState]
  dsimp only
  rw [required_of_lookup rfl, literal_coverageReason]
  dsimp only
  rw [required_of_lookup rfl, strictCount_natCast]
  dsimp only
  rw [required_of_lookup rfl, strictCount_natCast]
  dsimp only
  rw [required_of_lookup rfl, strictCount_natCast]
  dsimp only
  rw [required_of_lookup rfl, strictCount_natCast]
  dsimp only
  rw [dif_pos c.coherent]
  rfl

theorem defaulted_of_lookup {α : Type} {fields : Fields} {name : String}
    {value : Json} (h : Json.lookup fields name = some value) (default : α)
    (validate : Json → Except Invalid α) :
    defaulted fields name default validate = validate value := by
  rw [defaulted, h]

theorem nullable_of_lookup {α : Type} {fields : Fields} {name : String}
    {validate : Json → Except Invalid α} {write : α → Json} {value : Option α}
    (h : Json.lookup fields name = some ((value.map write).getD .null))
    (hwrite : ∀ a, write a ≠ .null) (hread : ∀ a ∈ value, validate (write a) = .ok a) :
    nullable fields name validate = .ok value := by
  rw [nullable, h]
  cases value with
  | none => rfl
  | some a =>
      simp only [Option.map_some, Option.getD_some]
      split
      · rename_i hnone
        cases hnone
      · rename_i hnull
        exact absurd (Option.some.inj hnull) (hwrite a)
      · rename_i hvalue
        cases hvalue
        rw [hread a rfl]
        rfl

/-- What the models check of a qualification. -/
structure AllocationQualification.Valid (q : AllocationQualification) : Prop where
  coherent : q.coherent = true
  portfolio : ∀ text ∈ q.sourcePortfolioId, isBounded text = true
  date : ∀ text ∈ q.sourceAsOfDate, isIsoDate text = true
  currency : ∀ text ∈ q.sourceReportingCurrency, isCurrency text = true

theorem textWith_of_allowed {constraint : String → Bool} {text : String}
    (h : constraint text = true) : textWith constraint (.str text) = .ok text := by
  rw [textWith, if_pos h]

theorem ofText?_eq (text : Option String) : Json.ofText? text = (text.map Json.str).getD .null := by
  cases text <;> rfl

/-- A valid qualification that is written is read back. -/
theorem AllocationQualification.validate_dump {q : AllocationQualification} (h : q.Valid) :
    AllocationQualification.validate q.dump = .ok q := by
  unfold AllocationQualification.validate AllocationQualification.dump
  simp only [fieldsOf, bind, Except.bind]
  have hversion : textWith (· == policyVersion) (.str policyVersion) = .ok policyVersion :=
    textWith_of_allowed (beq_self_eq_true policyVersion)
  rw [ofText?_eq, ofText?_eq, ofText?_eq]
  rw [show forbidExtra qualificationFields _ = .ok () from rfl]
  dsimp only
  rw [defaulted_of_lookup rfl, hversion]
  dsimp only
  rw [required_of_lookup rfl, literal_status]
  dsimp only
  rw [required_of_lookup rfl, literal_reason]
  dsimp only
  rw [nullable_of_lookup rfl (fun _ => by simp [AllocationValuationCoverage.dump])
    fun c _ => c.validate_dump]
  dsimp only
  rw [nullable_of_lookup rfl (fun _ => by simp)
    fun text ht => textWith_of_allowed (h.portfolio text ht)]
  dsimp only
  rw [nullable_of_lookup rfl (fun _ => by simp)
    fun text ht => textWith_of_allowed (h.date text ht)]
  dsimp only
  rw [nullable_of_lookup rfl (fun _ => by simp)
    fun text ht => textWith_of_allowed (h.currency text ht)]
  dsimp only
  rw [defaulted_of_lookup rfl]
  dsimp only [strictBool]
  rw [if_pos h.coherent]
  rfl

theorem allowed_of_textWith {constraint : String → Bool} {j : Json} {text : String}
    (h : textWith constraint j = .ok text) : constraint text = true := by
  unfold textWith at h
  split at h
  · split at h
    · rename_i hallowed
      cases h
      exact hallowed
    · cases h
  · cases h

theorem allowed_of_nullable {fields : Fields} {name : String}
    {constraint : String → Bool} {value : Option String}
    (h : nullable fields name (textWith constraint) = .ok value) :
    ∀ text ∈ value, constraint text = true := by
  intro text htext
  unfold nullable at h
  split at h
  · cases h
    cases htext
  · cases h
    cases htext
  · rename_i j _ _
    cases hread : textWith constraint j with
    | error e =>
        rw [hread] at h
        cases h
    | ok allowed =>
        rw [hread] at h
        cases h
        cases htext
        exact allowed_of_textWith hread

theorem AllocationQualification.valid_of_validate {j : Json} {q : AllocationQualification}
    (h : AllocationQualification.validate j = .ok q) : q.Valid := by
  obtain ⟨fields, -, h⟩ := bind_eq_ok.mp h
  obtain ⟨_, -, h⟩ := bind_eq_ok.mp h
  obtain ⟨_, -, h⟩ := bind_eq_ok.mp h
  obtain ⟨status, -, h⟩ := bind_eq_ok.mp h
  obtain ⟨reasonCode, -, h⟩ := bind_eq_ok.mp h
  obtain ⟨coverage, -, h⟩ := bind_eq_ok.mp h
  obtain ⟨portfolio, hportfolio, h⟩ := bind_eq_ok.mp h
  obtain ⟨date, hdate, h⟩ := bind_eq_ok.mp h
  obtain ⟨currency, hcurrency, h⟩ := bind_eq_ok.mp h
  obtain ⟨allowed, -, h⟩ := bind_eq_ok.mp h
  dsimp only at h
  split at h
  · rename_i hcoherent
    cases h
    exact ⟨hcoherent, allowed_of_nullable hportfolio, allowed_of_nullable hdate,
      allowed_of_nullable hcurrency⟩
  · cases h

/-- A qualification that allows publication is complete, bound and of a complete coverage. -/
theorem AllocationQualification.Valid.allowed {q : AllocationQualification} (h : q.Valid)
    (hallowed : q.clientPublicationAllowed = true) :
    q.status = .complete ∧ q.coverageComplete = true ∧ q.sourcePortfolioId.isSome = true ∧
      q.sourceAsOfDate.isSome = true ∧ q.sourceReportingCurrency.isSome = true := by
  have hcoherent := h.coherent
  unfold AllocationQualification.coherent at hcoherent
  rw [hallowed] at hcoherent
  simp only [Bool.and_eq_true, Bool.not_eq_true', Bool.true_and, Bool.or_eq_false_iff] at hcoherent
  obtain ⟨⟨-, hcomplete⟩, ⟨⟨⟨hstatus, hportfolio⟩, hdate⟩, hcurrency⟩⟩ := hcoherent
  have hstatus' : q.status = .complete := by simpa using hstatus
  rw [hstatus'] at hcomplete
  simp at hcomplete
  refine ⟨hstatus', hcomplete.2, ?_, ?_, ?_⟩
  · simpa using hportfolio
  · simpa using hdate
  · simpa using hcurrency

theorem text_of_literal {α : Type} {text : α → String} {members : List α} {j : Json} {member : α}
    (h : literal text members j = .ok member) : j = .str (text member) := by
  cases j with
  | str value =>
      cases hfound : members.find? fun member => text member == value with
      | none => simp [literal, converted, hfound] at h
      | some found =>
          simp only [literal, converted, hfound, Except.ok.injEq] at h
          have htext := List.find?_some hfound
          rw [← h, ← eq_of_beq htext]
  | _ => cases h

theorem AllocationValuationCoverage.state_of_validate {j : Json} {c : AllocationValuationCoverage}
    (h : AllocationValuationCoverage.validate j = .ok c) :
    ∃ fields, j = .obj fields ∧
      Json.lookup fields "coverage_state" = some (.str c.coverageState.text) := by
  obtain ⟨fields, hfields, h⟩ := bind_eq_ok.mp h
  obtain ⟨state, hstate, h⟩ := bind_eq_ok.mp h
  obtain ⟨reason, -, h⟩ := bind_eq_ok.mp h
  obtain ⟨rows, -, h⟩ := bind_eq_ok.mp h
  obtain ⟨expected, -, h⟩ := bind_eq_ok.mp h
  obtain ⟨valued, -, h⟩ := bind_eq_ok.mp h
  obtain ⟨unvalued, -, h⟩ := bind_eq_ok.mp h
  dsimp only at h
  split at h
  · cases h
    cases j with
    | obj own =>
        cases hfields
        refine ⟨fields, rfl, ?_⟩
        unfold required at hstate
        split at hstate
        · rename_i value hvalue
          rw [hvalue, text_of_literal hstate]
        · cases hstate
    | _ => cases hfields
  · cases h

end RoundTrip

end LotusReport.Allocation
