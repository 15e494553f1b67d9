import LotusReport.Composite.Tables.Contract
import LotusReport.Decimals.Arithmetic

/-!
# The display of numeric cells

A numeric cell is shown rounded half up to the decimal places of its column.
The working precision follows the length of the text, and the number of digits
that are shown follows the magnitude of the value: a short text with a large
exponent has more digits than the precision, and its display raises.
-/

namespace LotusReport.Composite

open Encoding Decimals Fallible

section Model

def Availability.text : Availability → String
  | .available => "AVAILABLE"
  | .unavailable => "UNAVAILABLE"
  | .unknown => "UNKNOWN"
  | .notApplicable => "NOT_APPLICABLE"

/-- What follows a displayed number. -/
def displaySuffix (py : Runtime) (column : CompositeColumn) : String :=
  if column.valueType = .money then " " ++ pyStr py column.currency
  else
    match column.displayUnit with
    | .percent => "%"
    | .percentagePoints => " pp"
    | _ => ""

/-- The context of a display; the range of the exponents is that of the default context. -/
def displayContext (value : String) : Context := ⟨max 80 (value.length + 20), 999999, -999999⟩

/-- The number of a text at some decimal places, a ratio as a percentage; the digits of a text are
those that the platform reads. -/
def displayNumber (digitOf : Char → Option (Fin 10)) (isRatio : Bool) (places : Int)
    (value : String) : Except Signal String := do
  let ctx := displayContext value
  let number ← match ofText digitOf value with
    | some number => .ok number
    | none => .error .invalidOperation
  let number ← if isRatio then mul ctx number ⟨false, 100, 0⟩ else .ok number
  let shown ← quantize ctx number (-places)
  return formatFixed shown

/-- `_display`. -/
def display (py : Runtime) (digitOf : Char → Option (Fin 10)) (column : CompositeColumn)
    (cell : CompositeCell) : Except Signal String :=
  match cell.canonicalValue with
  | none => .ok (cell.availability.text ++ ": " ++ ", ".intercalate cell.reasonCodes)
  | some value =>
      match column.displayDecimalPlaces with
      | none => .ok value
      | some places => do
          let isRatio := column.displayConversion = .ratioToPercentDisplay
          return (← displayNumber digitOf isRatio places value) ++ displaySuffix py column

end Model

section Statement

/-- A numeric column: its places are those that the contract admits. -/
structure NumericPolicy where
  column : CompositeColumn
  places : Nat
  stated : column.displayDecimalPlaces = some places
  bounded : places ≤ 12

/-- A numeric text that the source contract admits, with the number it writes. -/
structure SourceText (digitOf : Char → Option (Fin 10)) where
  text : String
  number : Decimal
  admitted : ofText digitOf text = some number

variable {digitOf : Char → Option (Fin 10)}

/-- The factor of the display. -/
def NumericPolicy.factor (policy : NumericPolicy) : Nat :=
  if policy.column.displayConversion = .ratioToPercentDisplay then 100 else 1

/-- The exact value in units of the last place that is shown, rounded half up. -/
def NumericPolicy.units (policy : NumericPolicy) (source : SourceText digitOf) : Nat :=
  halfUp (source.number.magnitude * policy.factor * 10 ^ policy.places)

/-- The decimal expansion of the rounded value, with what follows a number of the column. -/
def NumericPolicy.exactDisplay (py : Runtime) (policy : NumericPolicy)
    (source : SourceText digitOf) : String :=
  (if source.number.negative then "-" else "") ++
    expansion (policy.units source) policy.places ++ displaySuffix py policy.column

/-- A cell with the text. -/
def SourceText.cell (source : SourceText digitOf) (sourcePointer : String) : CompositeCell :=
  ⟨some source.text, .available, [], sourcePointer⟩

end Statement

section Exactness

variable {digitOf : Char → Option (Fin 10)}

/-- The number that is quantized, before it is fitted to the context. -/
def NumericPolicy.scaled (policy : NumericPolicy) (d : Decimal) : Decimal :=
  ⟨d.negative, d.coeff * policy.factor, d.exp⟩

theorem NumericPolicy.units_eq (policy : NumericPolicy) (source : SourceText digitOf) :
    rescale (policy.scaled source.number) (-policy.places) = policy.units source := by
  have hmagnitude : (policy.scaled source.number).magnitude =
      source.number.magnitude * policy.factor := by
    simp only [scaled, Decimal.magnitude]
    push_cast
    ring
  rw [rescale_eq_halfUp, hmagnitude, NumericPolicy.units]

theorem NumericPolicy.covers (policy : NumericPolicy) (value : String) :
    (displayContext value).Covers policy.places := by
  have hbounded := policy.bounded
  constructor
  · exact Nat.lt_of_lt_of_le (by decide) (le_max_left _ _)
  · show (0 : Int) ≤ 999999
    decide
  · simp only [displayContext]
    omega

theorem NumericPolicy.digitCount_scaled (policy : NumericPolicy) (source : SourceText digitOf) :
    digitCount (policy.scaled source.number).coeff ≤ (displayContext source.text).prec := by
  have htext := digitCount_ofText source.admitted
  have hscaled : digitCount (source.number.coeff * policy.factor) ≤
      digitCount source.number.coeff + 2 := by
    unfold factor
    split
    · by_cases hzero : source.number.coeff = 0
      · rw [hzero]
        decide
      · exact (digitCount_mul_ten_pow hzero 2).le
    · rw [Nat.mul_one]
      omega
  simp only [scaled, displayContext]
  omega

/-- The number that a display quantizes: the fitted one for a ratio, the exact one otherwise. -/
theorem display_eq (py : Runtime) (policy : NumericPolicy) (source : SourceText digitOf)
    (sourcePointer : String) :
    display py digitOf policy.column (source.cell sourcePointer) = (do
      let number ← if policy.column.displayConversion = .ratioToPercentDisplay then
        fit (displayContext source.text) (policy.scaled source.number)
        else .ok (policy.scaled source.number)
      let shown ← quantize (displayContext source.text) number (-policy.places)
      return formatFixed shown ++ displaySuffix py policy.column) := by
  have hplain : policy.column.displayConversion ≠ .ratioToPercentDisplay →
      policy.scaled source.number = source.number := by
    intro hratio
    simp only [NumericPolicy.scaled, NumericPolicy.factor, if_neg hratio, Nat.mul_one]
  simp only [display, displayNumber, SourceText.cell, policy.stated, source.admitted, bind,
    Except.bind, pure, Except.pure, decide_eq_true_eq]
  by_cases hratio : policy.column.displayConversion = .ratioToPercentDisplay
  · have hmul : mul (displayContext source.text) source.number ⟨false, 100, 0⟩ =
        fit (displayContext source.text) (policy.scaled source.number) := by
      simp only [mul, NumericPolicy.scaled, NumericPolicy.factor, if_pos hratio, Bool.xor_false,
        add_zero]
    rw [if_pos hratio, if_pos hratio, hmul]
    cases fit (displayContext source.text) (policy.scaled source.number) with
    | error signal => rfl
    | ok number =>
        dsimp only
        cases quantize (displayContext source.text) number (-policy.places) <;> rfl
  · rw [if_neg hratio, if_neg hratio, hplain hratio]
    cases quantize (displayContext source.text) source.number (-policy.places) <;> rfl

theorem quantized_eq (py : Runtime) (policy : NumericPolicy) (source : SourceText digitOf)
    {number : Decimal}
    (hnegative : number.negative = source.number.negative)
    (hunits : rescale number (-policy.places) = policy.units source) :
    (do
      let shown ← quantize (displayContext source.text) number (-policy.places)
      return formatFixed shown ++ displaySuffix py policy.column : Except Signal String) =
      if (displayContext source.text).Holds policy.places (policy.units source) then
        .ok (policy.exactDisplay py source)
      else .error .invalidOperation := by
  rw [quantize_eq (policy.covers source.text), hunits, hnegative]
  split
  · have hplaces : ¬ (0 : Int) < -(policy.places : Int) := by omega
    have hback : (- -(policy.places : Int)).toNat = policy.places := by omega
    simp only [bind, Except.bind, pure, Except.pure, formatFixed, if_neg hplaces, hback,
      NumericPolicy.exactDisplay]
  · rfl

/-- The display of an admitted number is exact if and only if its rounded units have no more digits
than the working precision and lie within the range of the context. -/
theorem display_eq_exactDisplay_iff (py : Runtime) (digitOf : Char → Option (Fin 10))
    (policy : NumericPolicy) (source : SourceText digitOf) (sourcePointer : String) :
    display py digitOf policy.column (source.cell sourcePointer) =
        .ok (policy.exactDisplay py source) ↔
      policy.units source < 10 ^ max 80 (source.text.length + 20) ∧
        policy.units source < 10 ^ (1000000 + policy.places) := by
  have hholds : (displayContext source.text).Holds policy.places (policy.units source) ↔
      policy.units source < 10 ^ max 80 (source.text.length + 20) ∧
        policy.units source < 10 ^ (1000000 + policy.places) := Iff.rfl
  rw [← hholds, display_eq]
  by_cases hratio : policy.column.displayConversion = .ratioToPercentDisplay
  · rw [if_pos hratio]
    rcases fit_cases (policy.covers source.text) (policy.digitCount_scaled source) with
      ⟨number, hfit, hnegative, hunits⟩ | ⟨⟨signal, hfit⟩, hnot⟩
    · rw [hfit]
      have hquantized := quantized_eq py policy source hnegative
        (hunits.trans (policy.units_eq source))
      simp only [bind, Except.bind] at hquantized ⊢
      rw [hquantized]
      split <;> simp_all
    · rw [hfit]
      rw [policy.units_eq source] at hnot
      simp [bind, Except.bind, hnot]
  · rw [if_neg hratio]
    have hnegative : (policy.scaled source.number).negative = source.number.negative := rfl
    have hquantized := quantized_eq py policy source hnegative (policy.units_eq source)
    simp only [bind, Except.bind] at hquantized ⊢
    rw [hquantized]
    split <;> simp_all

/-- An amount with two decimal places. -/
def amountPolicy : NumericPolicy where
  column := ⟨"assets", "Assets", .money, .currencyUnits, .currencyUnits, .identity, some 2,
    .str "USD"⟩
  places := 2
  stated := rfl
  bounded := by decide

/-- Five characters that write a number of one hundred and one digits. -/
def largeText : SourceText asciiDigit where
  text := "1e100"
  number := ⟨false, 1, 100⟩
  admitted := by decide +kernel

/-- The display of a short text with a large exponent raises. -/
theorem not_display_eq_exactDisplay_large :
    display .verbatim asciiDigit amountPolicy.column (largeText.cell "/assets") ≠
      .ok (amountPolicy.exactDisplay .verbatim largeText) := by
  have hraised : display .verbatim asciiDigit amountPolicy.column (largeText.cell "/assets") =
      .error .invalidOperation := by
    rfl
  rw [hraised]
  intro h
  cases h

end Exactness

end LotusReport.Composite
