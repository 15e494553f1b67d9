import LotusReport.Encoding.Date
import LotusReport.Encoding.Text
import Mathlib.Algebra.Order.Floor.Semifield
import Mathlib.Data.Rat.Floor
import Mathlib.Tactic.FieldSimp
import Mathlib.Tactic.Ring

/-!
# Decimal arithmetic with a working precision

A decimal is a sign, a coefficient and an exponent of ten. Reading a text is
exact; an operation fits its exact result to the precision and the exponent
range of a context, and raises when the result lies above the range or, where
the result has a fixed exponent, when it has too many digits.
-/

namespace Decimals

open Encoding

section Model

/-- A finite decimal. -/
structure Decimal where
  negative : Bool
  coeff : Nat
  exp : Int
deriving DecidableEq, Repr

/-- What an operation raises. -/
inductive Signal where
  | invalidOperation
  | overflow
deriving DecidableEq, Repr

/-- The working precision and the range of the exponents. -/
structure Context where
  prec : Nat
  emax : Int
  emin : Int

/-- The number of decimal digits; zero has one. -/
def digitCount (n : Nat) : Nat := (Nat.toDigits 10 n).length

/-- The exponent of the first digit. -/
def Decimal.adjusted (d : Decimal) : Int := d.exp + digitCount d.coeff - 1

/-- The least exponent of a result. -/
def Context.etiny (ctx : Context) : Int := ctx.emin - ctx.prec + 1

/-- The greatest exponent of a result with all digits of the precision. -/
def Context.etop (ctx : Context) : Int := ctx.emax - ctx.prec + 1

/-- Drop the last digits, rounding a half away from zero. -/
def shiftHalfUp (c k : Nat) : Nat := (2 * c + 10 ^ k) / (2 * 10 ^ k)

/-- Drop the last digits, rounding a half to the even neighbour. -/
def shiftHalfEven (c k : Nat) : Nat :=
  let quotient := c / 10 ^ k
  let twice := 2 * (c % 10 ^ k)
  if 10 ^ k < twice ∨ twice = 10 ^ k ∧ quotient % 2 = 1 then quotient + 1 else quotient

/-- Fit a result to the context. -/
def fit (ctx : Context) (d : Decimal) : Except Signal Decimal :=
  if d.coeff = 0 then .ok { d with exp := min (max d.exp ctx.etiny) ctx.emax }
  else
    let expMin := digitCount d.coeff + d.exp - ctx.prec
    if ctx.etop < expMin then .error .overflow
    else
      let expMin := max expMin ctx.etiny
      if d.exp < expMin then
        let coeff := shiftHalfEven d.coeff (expMin - d.exp).toNat
        -- a carry into one more digit moves the exponent
        let rounded : Decimal := if ctx.prec < digitCount coeff then
          ⟨d.negative, coeff / 10, expMin + 1⟩ else ⟨d.negative, coeff, expMin⟩
        if ctx.etop < rounded.exp then .error .overflow else .ok rounded
      else .ok d

/-- Multiplication. -/
def mul (ctx : Context) (a b : Decimal) : Except Signal Decimal :=
  fit ctx ⟨xor a.negative b.negative, a.coeff * b.coeff, a.exp + b.exp⟩

/-- The coefficient of a decimal at another exponent, a half rounded away from zero. -/
def rescale (d : Decimal) (exp : Int) : Nat :=
  if exp ≤ d.exp then d.coeff * 10 ^ (d.exp - exp).toNat
  else shiftHalfUp d.coeff (exp - d.exp).toNat

/-- `quantize` to an exponent, rounding half up. -/
def quantize (ctx : Context) (d : Decimal) (exp : Int) : Except Signal Decimal :=
  if exp < ctx.etiny ∨ ctx.emax < exp then .error .invalidOperation
  else if d.coeff = 0 then fit ctx ⟨d.negative, 0, exp⟩
  else if ctx.emax < d.adjusted then .error .invalidOperation
  else if ctx.prec < d.adjusted - exp + 1 then .error .invalidOperation
  else
    let result : Decimal := ⟨d.negative, rescale d exp, exp⟩
    if ctx.emax < result.adjusted then .error .invalidOperation
    else if ctx.prec < digitCount result.coeff then .error .invalidOperation
    else fit ctx result

/-- A number of units of the last of some decimal places. -/
def expansion (units places : Nat) : String :=
  if places = 0 then toString units
  else toString (units / 10 ^ places) ++ "." ++ padded places (units % 10 ^ places)

/-- `format(d, "f")`. -/
def formatFixed (d : Decimal) : String :=
  (if d.negative then "-" else "") ++
    if 0 < d.exp then toString (d.coeff * 10 ^ d.exp.toNat) else expansion d.coeff (-d.exp).toNat

example : formatFixed ⟨true, 5, -2⟩ = "-0.05" ∧ formatFixed ⟨false, 12345, -2⟩ = "123.45" := by
  decide

end Model

section Reading

variable (digitOf : Char → Option (Fin 10))

/-- The digits at the start of a text, and the rest. -/
def readDigits (cs : List Char) : List Char × List Char := cs.span fun c => (digitOf c).isSome

/-- The number that digits write. -/
def digitsValue (cs : List Char) : Nat :=
  cs.foldl (fun n c => 10 * n + ((digitOf c).getD 0).val) 0

/-- A sign at the start of a text, and the rest. -/
def readSign : List Char → Bool × List Char
  | '-' :: cs => (true, cs)
  | '+' :: cs => (false, cs)
  | cs => (false, cs)

/-- The exponent behind the digits: absent, or a mark with a sign and digits up to the end. -/
def readExponent (cs : List Char) : Option Int :=
  match cs with
  | [] => some 0
  | mark :: cs =>
      if mark = 'e' ∨ mark = 'E' then
        let (negative, cs) := readSign cs
        let (exponent, rest) := readDigits digitOf cs
        if exponent ≠ [] ∧ rest = [] then
          some (if negative then -(digitsValue digitOf exponent : Int)
            else digitsValue digitOf exponent)
        else none
      else none

/-- The digits behind a point, and the rest. -/
def readPart (cs : List Char) : List Char × List Char :=
  match cs with
  | '.' :: cs => readDigits digitOf cs
  | cs => ([], cs)

/-- The sign, the digits before and behind the point, and the exponent of a text without white
space and underscores. -/
def readNumber (cs : List Char) : Option (Bool × List Char × List Char × Int) :=
  let (negative, cs) := readSign cs
  let (whole, rest) := readDigits digitOf cs
  let (part, rest) := readPart digitOf rest
  if whole = [] ∧ part = [] then none
  else (readExponent digitOf rest).map fun exponent => (negative, whole, part, exponent)

/-- The widest context, which a text is read in. -/
def widest : Context := ⟨999999999999999999, 999999999999999999, -999999999999999999⟩

/-- `Decimal(text)` for a finite number: exact, or not at all. -/
def ofText (text : String) : Option Decimal :=
  match readNumber digitOf ((strip text).toList.filter (· ≠ '_')) with
  | none => none
  | some (negative, whole, part, exponent) =>
      let d : Decimal := ⟨negative, digitsValue digitOf (whole ++ part), exponent - part.length⟩
      if fit widest d = .ok d then some d else none

/-- The digits of the ASCII range. -/
def asciiDigit (c : Char) : Option (Fin 10) :=
  if h : 48 ≤ c.toNat ∧ c.toNat < 58 then some ⟨c.toNat - 48, by omega⟩ else none

end Reading

section Digits

theorem digitCount_le_iff {n k : Nat} (hk : 0 < k) : digitCount n ≤ k ↔ n < 10 ^ k :=
  Nat.length_toDigits_le_iff (by decide) hk

theorem digitCount_pos (n : Nat) : 0 < digitCount n := Nat.length_toDigits_pos

theorem lt_ten_pow_digitCount (n : Nat) : n < 10 ^ digitCount n :=
  (digitCount_le_iff (digitCount_pos n)).mp le_rfl

/-- A number without leading zeros reaches its first digit. -/
theorem ten_pow_le {n : Nat} (hn : n ≠ 0) : 10 ^ (digitCount n - 1) ≤ n := by
  by_cases hone : digitCount n = 1
  · rw [hone]
    exact Nat.one_le_iff_ne_zero.mpr hn
  · have hpos := digitCount_pos n
    by_contra hlt
    have hle : digitCount n ≤ digitCount n - 1 :=
      (digitCount_le_iff (by omega)).mpr (Nat.lt_of_not_le hlt)
    omega

theorem lt_digitCount {n k : Nat} (h : 10 ^ k ≤ n) : k < digitCount n := by
  by_contra hle
  by_cases hk : k = 0
  · have hpos := digitCount_pos n
    omega
  · have hlt : n < 10 ^ k := (digitCount_le_iff (Nat.pos_of_ne_zero hk)).mp (Nat.le_of_not_lt hle)
    omega

theorem digitCount_mul_ten_pow {n : Nat} (hn : n ≠ 0) (k : Nat) :
    digitCount (n * 10 ^ k) = digitCount n + k := by
  have hpos := digitCount_pos n
  apply le_antisymm
  · rw [digitCount_le_iff (by omega), pow_add]
    exact Nat.mul_lt_mul_of_pos_right (lt_ten_pow_digitCount n) (by positivity)
  · have hreach : 10 ^ (digitCount n - 1 + k) ≤ n * 10 ^ k := by
      rw [pow_add]
      exact Nat.mul_le_mul_right _ (ten_pow_le hn)
    have hlt := lt_digitCount hreach
    omega

end Digits

section Rounding

variable {c k : Nat}

theorem shiftHalfUp_eq_zero (h : 2 * c < 10 ^ k) : shiftHalfUp c k = 0 := by
  have hpos : 0 < 10 ^ k := by positivity
  rw [shiftHalfUp, Nat.div_eq_zero_iff]
  right
  omega

theorem div_le_shiftHalfUp : c / 10 ^ k ≤ shiftHalfUp c k := by
  have hpos : 0 < 10 ^ k := by positivity
  have hdiv : c / 10 ^ k = 2 * c / (2 * 10 ^ k) := (Nat.mul_div_mul_left c _ (by decide)).symm
  rw [shiftHalfUp, hdiv]
  exact Nat.div_le_div_right (Nat.le_add_right _ _)

theorem shiftHalfUp_le : shiftHalfUp c k ≤ c / 10 ^ k + 1 := by
  have hpos : 0 < 10 ^ k := by positivity
  have hdiv : c / 10 ^ k = 2 * c / (2 * 10 ^ k) := (Nat.mul_div_mul_left c _ (by decide)).symm
  calc (2 * c + 10 ^ k) / (2 * 10 ^ k) ≤ (2 * c + 2 * 10 ^ k) / (2 * 10 ^ k) :=
        Nat.div_le_div_right (by omega)
    _ = c / 10 ^ k + 1 := by rw [hdiv, Nat.add_div_right _ (by omega)]

theorem shiftHalfEven_le {bound : Nat} (h : c < bound * 10 ^ k) : shiftHalfEven c k ≤ bound := by
  have hdiv : c / 10 ^ k < bound := (Nat.div_lt_iff_lt_mul (by positivity)).mpr h
  unfold shiftHalfEven
  dsimp only
  split
  · omega
  · omega

/-- Rounding in the rational numbers: a half goes away from zero. -/
def halfUp (x : ℚ) : Nat := ⌊x + 1 / 2⌋₊

theorem shiftHalfUp_eq_halfUp (c k : Nat) : shiftHalfUp c k = halfUp ((c : ℚ) / 10 ^ k) := by
  have hpos : (10 : ℚ) ^ k ≠ 0 := by positivity
  have hsum : (c : ℚ) / 10 ^ k + 1 / 2 = ((2 * c + 10 ^ k : ℕ) : ℚ) / ((2 * 10 ^ k : ℕ) : ℚ) := by
    push_cast
    field_simp
  rw [halfUp, hsum, Nat.floor_div_eq_div, shiftHalfUp]

theorem halfUp_natCast (n : Nat) : halfUp (n : ℚ) = n := by
  rw [halfUp, Nat.floor_eq_iff (by positivity)]
  constructor
  · linarith
  · linarith

/-- The absolute value of a decimal. -/
def Decimal.magnitude (d : Decimal) : ℚ := d.coeff * (10 : ℚ) ^ d.exp

/-- The coefficient at some decimal places is the rounded number of units. -/
theorem rescale_eq_halfUp (d : Decimal) (places : Nat) :
    rescale d (-places) = halfUp (d.magnitude * 10 ^ places) := by
  have hten : (10 : ℚ) ≠ 0 := by norm_num
  have hunits : d.magnitude * 10 ^ places = d.coeff * (10 : ℚ) ^ (d.exp + places) := by
    rw [Decimal.magnitude, mul_assoc, zpow_add₀ hten, zpow_natCast]
  unfold rescale
  split
  · rename_i hle
    have hexp : d.exp + places = ((d.exp - -(places : ℤ)).toNat : ℤ) := by omega
    rw [hunits, hexp, zpow_natCast, ← halfUp_natCast (d.coeff * 10 ^ (d.exp - -(places : ℤ)).toNat)]
    push_cast
    rfl
  · rename_i hlt
    have hexp : d.exp + places = -((-(places : ℤ) - d.exp).toNat : ℤ) := by omega
    rw [hunits, hexp, zpow_neg, zpow_natCast, shiftHalfUp_eq_halfUp, div_eq_mul_inv]

end Rounding

section Quantize

/-- Some decimal places lie within the range of a context. -/
structure Context.Covers (ctx : Context) (places : Nat) : Prop where
  prec : 0 < ctx.prec
  emax : 0 ≤ ctx.emax
  emin : ctx.emin + 2 ≤ -(places : Int)

/-- A number of units has no more digits than the precision, and lies within the range. -/
def Context.Holds (ctx : Context) (places units : Nat) : Prop :=
  units < 10 ^ ctx.prec ∧ units < 10 ^ (ctx.emax.toNat + 1 + places)

instance (ctx : Context) (places units : Nat) : Decidable (ctx.Holds places units) :=
  inferInstanceAs (Decidable (_ ∧ _))

variable {ctx : Context} {d : Decimal} {places : Nat}

theorem holds_iff (hctx : ctx.Covers places) {units : Nat} : ctx.Holds places units ↔
    digitCount units ≤ ctx.prec ∧ (digitCount units : Int) - places - 1 ≤ ctx.emax := by
  have hemax := hctx.emax
  rw [Context.Holds, digitCount_le_iff hctx.prec]
  apply and_congr_right'
  rw [← digitCount_le_iff (by omega)]
  omega

/-- A decimal that fits is left as it is. -/
theorem fit_eq_self (hexp : ctx.etiny ≤ d.exp ∧ d.exp ≤ ctx.emax)
    (hdigits : digitCount d.coeff ≤ ctx.prec) (hrange : d.adjusted ≤ ctx.emax) :
    fit ctx d = .ok d := by
  unfold Decimal.adjusted at hrange
  unfold fit
  split
  · have hsame : min (max d.exp ctx.etiny) ctx.emax = d.exp := by omega
    rw [hsame]
  · have htop : ¬ ctx.etop < digitCount d.coeff + d.exp - ctx.prec := by
      unfold Context.etop
      omega
    have hround : ¬ d.exp < max (digitCount d.coeff + d.exp - ctx.prec) ctx.etiny := by omega
    rw [if_neg htop]
    dsimp only
    rw [if_neg hround]

/-- The digits of the units: those of the coefficient, moved by the exponent. -/
theorem digitCount_rescale_of_le (hcoeff : d.coeff ≠ 0) (h : -(places : Int) ≤ d.exp) :
    (digitCount (rescale d (-places)) : Int) = digitCount d.coeff + d.exp + places := by
  rw [rescale, if_pos h, digitCount_mul_ten_pow hcoeff]
  omega

theorem digitCount_rescale_of_lt (h : d.exp < -(places : Int)) :
    (digitCount d.coeff : Int) + d.exp + places ≤ digitCount (rescale d (-places)) ∧
      digitCount (rescale d (-places)) ≤ digitCount d.coeff := by
  rw [rescale, if_neg (by omega)]
  generalize hk : (-(places : Int) - d.exp).toNat = k
  have hkpos : 0 < k := by omega
  constructor
  · by_cases hlong : digitCount d.coeff ≤ k
    · have hpos := digitCount_pos (shiftHalfUp d.coeff k)
      omega
    · have hcoeff : d.coeff ≠ 0 := by
        rintro hzero
        rw [hzero] at hlong
        exact hlong hkpos
      have hreach : 10 ^ (digitCount d.coeff - 1 - k) ≤ shiftHalfUp d.coeff k := by
        refine le_trans ?_ div_le_shiftHalfUp
        rw [Nat.le_div_iff_mul_le (by positivity), ← pow_add]
        have hsum : digitCount d.coeff - 1 - k + k = digitCount d.coeff - 1 := by omega
        rw [hsum]
        exact ten_pow_le hcoeff
      have hlt := lt_digitCount hreach
      omega
  · have hpos := digitCount_pos d.coeff
    rw [digitCount_le_iff hpos]
    have hcoeff := lt_ten_pow_digitCount d.coeff
    have hten : 10 ≤ 10 ^ k := by
      calc 10 = 10 ^ 1 := rfl
        _ ≤ 10 ^ k := Nat.pow_le_pow_right (by decide) hkpos
    have hdiv : d.coeff / 10 ^ k ≤ d.coeff / 10 := Nat.div_le_div_left hten (by decide)
    have hle := shiftHalfUp_le (c := d.coeff) (k := k)
    have hone : 10 ≤ 10 ^ digitCount d.coeff := by
      calc 10 = 10 ^ 1 := rfl
        _ ≤ 10 ^ digitCount d.coeff := Nat.pow_le_pow_right (by decide) hpos
    omega

/-- The checks of `quantize` on a decimal that is not zero, taken together. -/
theorem quantize_of_ne_zero {exp : Int} (hexp : ctx.etiny ≤ exp ∧ exp ≤ ctx.emax)
    (hcoeff : d.coeff ≠ 0) :
    quantize ctx d exp =
      if (d.adjusted ≤ ctx.emax ∧ d.adjusted - exp + 1 ≤ ctx.prec) ∧
          (exp + digitCount (rescale d exp) - 1 ≤ ctx.emax ∧
            digitCount (rescale d exp) ≤ ctx.prec) then
        .ok ⟨d.negative, rescale d exp, exp⟩
      else .error .invalidOperation := by
  unfold quantize
  rw [if_neg (by omega), if_neg hcoeff]
  split
  · rename_i hrange
    rw [if_neg (by omega)]
  · rename_i hrange
    split
    · rename_i hdigits
      rw [if_neg (by omega)]
    · rename_i hdigits
      dsimp only
      split
      · rename_i hresult
        unfold Decimal.adjusted at hresult
        dsimp only at hresult
        rw [if_neg (by omega)]
      · rename_i hresult
        unfold Decimal.adjusted at hresult
        dsimp only at hresult
        split
        · rename_i hcount
          rw [if_neg (by omega)]
        · rename_i hcount
          rw [if_pos ⟨⟨by omega, by omega⟩, by omega, by omega⟩]
          exact fit_eq_self hexp (Nat.le_of_not_lt hcount) (by
            unfold Decimal.adjusted
            dsimp only
            omega)

/-- The checks say that the rounded units are held. -/
theorem checks_iff_holds (hctx : ctx.Covers places) (hcoeff : d.coeff ≠ 0) :
    (d.adjusted ≤ ctx.emax ∧ d.adjusted - -(places : Int) + 1 ≤ ctx.prec) ∧
        (-(places : Int) + digitCount (rescale d (-places)) - 1 ≤ ctx.emax ∧
          digitCount (rescale d (-places)) ≤ ctx.prec) ↔
      ctx.Holds places (rescale d (-places)) := by
  have hemax := hctx.emax
  rw [holds_iff hctx]
  unfold Decimal.adjusted
  by_cases hle : -(places : Int) ≤ d.exp
  · have hcount := digitCount_rescale_of_le hcoeff hle
    omega
  · have hlt : d.exp < -(places : Int) := by omega
    obtain ⟨hfew, hmany⟩ := digitCount_rescale_of_lt hlt
    omega

theorem rescale_of_zero {exp : Int} (h : d.coeff = 0) : rescale d exp = 0 := by
  unfold rescale
  split
  · rw [h, Nat.zero_mul]
  · rw [h]
    exact shiftHalfUp_eq_zero (by positivity)

/-- A decimal is quantized exactly if the rounded units are held. -/
theorem quantize_eq (hctx : ctx.Covers places) :
    quantize ctx d (-places) =
      if ctx.Holds places (rescale d (-places)) then
        .ok ⟨d.negative, rescale d (-places), -places⟩
      else .error .invalidOperation := by
  have hemin := hctx.emin
  have hemax := hctx.emax
  have hprec := hctx.prec
  have hexp : ctx.etiny ≤ -(places : Int) ∧ -(places : Int) ≤ ctx.emax := by
    unfold Context.etiny
    omega
  by_cases hcoeff : d.coeff = 0
  · have hone : digitCount 0 = 1 := by decide
    rw [rescale_of_zero hcoeff, if_pos ((holds_iff hctx).mpr (by omega)), quantize,
      if_neg (by omega), if_pos hcoeff]
    apply fit_eq_self hexp
    · exact hone ▸ hprec
    · unfold Decimal.adjusted
      dsimp only
      omega
  · rw [quantize_of_ne_zero hexp hcoeff]
    simp only [checks_iff_holds hctx hcoeff]

end Quantize

section Fitting

variable {ctx : Context} {d : Decimal} {places : Nat}

/-- A decimal below the range is rounded to units that are still far below the places. -/
theorem rescale_fitted (hctx : ctx.Covers places) (htiny : d.exp < ctx.etiny)
    (hlow : digitCount d.coeff + d.exp - ctx.prec < ctx.etiny) :
    digitCount (shiftHalfEven d.coeff (ctx.etiny - d.exp).toNat) ≤ ctx.prec ∧
      rescale ⟨d.negative, shiftHalfEven d.coeff (ctx.etiny - d.exp).toNat, ctx.etiny⟩ (-places) = 0 ∧
      rescale d (-places) = 0 := by
  have hprec := hctx.prec
  have hemin := hctx.emin
  unfold Context.etiny at htiny hlow ⊢
  generalize hk : (ctx.emin - ctx.prec + 1 - d.exp).toNat = k
  have hbound : shiftHalfEven d.coeff k ≤ 10 ^ (ctx.prec - 1) := by
    apply shiftHalfEven_le
    rw [← pow_add]
    refine (lt_ten_pow_digitCount d.coeff).trans_le (Nat.pow_le_pow_right (by decide) ?_)
    omega
  refine ⟨?_, ?_, ?_⟩
  · rw [digitCount_le_iff hprec]
    exact hbound.trans_lt (Nat.pow_lt_pow_right (by decide) (by omega))
  · rw [rescale, if_neg (by dsimp only; omega)]
    apply shiftHalfUp_eq_zero
    dsimp only
    calc 2 * shiftHalfEven d.coeff k ≤ 2 * 10 ^ (ctx.prec - 1) := Nat.mul_le_mul_left _ hbound
      _ < 10 * 10 ^ (ctx.prec - 1) := Nat.mul_lt_mul_of_pos_right (by decide) (by positivity)
      _ = 10 ^ (ctx.prec - 1 + 1) := by rw [pow_succ, Nat.mul_comm]
      _ ≤ 10 ^ (-(places : Int) - (ctx.emin - ctx.prec + 1)).toNat :=
          Nat.pow_le_pow_right (by decide) (by omega)
  · rw [rescale, if_neg (by omega)]
    apply shiftHalfUp_eq_zero
    calc 2 * d.coeff < 2 * 10 ^ digitCount d.coeff :=
          Nat.mul_lt_mul_of_pos_left (lt_ten_pow_digitCount d.coeff) (by decide)
      _ ≤ 10 * 10 ^ digitCount d.coeff := Nat.mul_le_mul_right _ (by decide)
      _ = 10 ^ (digitCount d.coeff + 1) := by rw [pow_succ, Nat.mul_comm]
      _ ≤ 10 ^ (-(places : Int) - d.exp).toNat := Nat.pow_le_pow_right (by decide) (by omega)

/-- Fitting a decimal of few digits keeps its sign and its units, or the units are not held. -/
theorem fit_cases (hctx : ctx.Covers places) (hshort : digitCount d.coeff ≤ ctx.prec) :
    (∃ d', fit ctx d = .ok d' ∧ d'.negative = d.negative ∧
        rescale d' (-places) = rescale d (-places)) ∨
      (∃ signal, fit ctx d = .error signal) ∧ ¬ ctx.Holds places (rescale d (-places)) := by
  by_cases hcoeff : d.coeff = 0
  · refine Or.inl ⟨{ d with exp := min (max d.exp ctx.etiny) ctx.emax }, ?_, rfl, ?_⟩
    · rw [fit, if_pos hcoeff]
    · have hzero : ∀ exp, rescale { d with exp := exp } (-places) = 0 :=
        fun exp => rescale_of_zero hcoeff
      rw [hzero, rescale_of_zero hcoeff]
  · have hemin := hctx.emin
    by_cases htop : ctx.etop < digitCount d.coeff + d.exp - ctx.prec
    · refine Or.inr ⟨⟨.overflow, ?_⟩, fun hheld => ?_⟩
      · rw [fit, if_neg hcoeff]
        dsimp only
        rw [if_pos htop]
      · have hchecks := (checks_iff_holds hctx hcoeff).mpr hheld
        have hrange := hchecks.1.1
        unfold Decimal.adjusted at hrange
        unfold Context.etop at htop
        omega
    · by_cases hround : d.exp < max (digitCount d.coeff + d.exp - ctx.prec) ctx.etiny
      · have htiny : d.exp < ctx.etiny := by omega
        have hlow : digitCount d.coeff + d.exp - ctx.prec < ctx.etiny := by omega
        obtain ⟨hdigits, hfitted, hunits⟩ := rescale_fitted hctx htiny hlow
        refine Or.inl ⟨⟨d.negative, shiftHalfEven d.coeff (ctx.etiny - d.exp).toNat, ctx.etiny⟩, ?_,
          rfl, hfitted.trans hunits.symm⟩
        have hmax : max (digitCount d.coeff + d.exp - ctx.prec) ctx.etiny = ctx.etiny := by omega
        have hemax := hctx.emax
        rw [fit, if_neg hcoeff]
        dsimp only
        rw [if_neg htop, if_pos hround, hmax, if_neg (Nat.not_lt.mpr hdigits), if_neg]
        dsimp only
        unfold Context.etop Context.etiny
        omega
      · refine Or.inl ⟨d, ?_, rfl, rfl⟩
        rw [fit, if_neg hcoeff]
        dsimp only
        rw [if_neg htop, if_neg hround]

end Fitting

section Texts

variable (digitOf : Char → Option (Fin 10))

theorem foldl_digits_lt (cs : List Char) (n : Nat) :
    cs.foldl (fun n c => 10 * n + ((digitOf c).getD 0).val) n < (n + 1) * 10 ^ cs.length := by
  induction cs generalizing n with
  | nil => simp
  | cons c cs ih =>
      have hdigit := ((digitOf c).getD 0).isLt
      refine (ih _).trans_le ?_
      calc (10 * n + ((digitOf c).getD 0).val + 1) * 10 ^ cs.length
          ≤ ((n + 1) * 10) * 10 ^ cs.length := Nat.mul_le_mul_right _ (by omega)
        _ = (n + 1) * 10 ^ (c :: cs).length := by
          rw [List.length_cons, pow_succ, Nat.mul_assoc, Nat.mul_comm 10]

theorem digitsValue_lt (cs : List Char) : digitsValue digitOf cs < 10 ^ cs.length := by
  have hlt := foldl_digits_lt digitOf cs 0
  simpa [digitsValue] using hlt

theorem length_readSign (cs : List Char) : (readSign cs).2.length ≤ cs.length := by
  unfold readSign
  split <;> simp

theorem length_readDigits (cs : List Char) :
    (readDigits digitOf cs).1.length + (readDigits digitOf cs).2.length = cs.length := by
  rw [readDigits, List.span_eq_takeWhile_dropWhile, ← List.length_append,
    List.takeWhile_append_dropWhile]

theorem length_readPart (cs : List Char) : (readPart digitOf cs).1.length ≤ cs.length := by
  unfold readPart
  split
  · rename_i rest
    have hdigits := length_readDigits digitOf rest
    rw [List.length_cons]
    omega
  · exact Nat.zero_le _

variable {digitOf}

/-- The digits of a number are characters of its text. -/
theorem length_of_readNumber {cs whole part : List Char} {negative : Bool} {exponent : Int}
    (h : readNumber digitOf cs = some (negative, whole, part, exponent)) :
    0 < (whole ++ part).length ∧ (whole ++ part).length ≤ cs.length := by
  unfold readNumber at h
  dsimp only at h
  split at h
  · cases h
  · rename_i hdigits
    obtain ⟨exponent', -, hfields⟩ := Option.map_eq_some_iff.mp h
    cases hfields
    constructor
    · rw [List.length_pos_iff]
      intro hnil
      exact hdigits (List.append_eq_nil_iff.mp hnil)
    · have hsign := length_readSign cs
      have hwhole := length_readDigits digitOf (readSign cs).2
      have hpart := length_readPart digitOf (readDigits digitOf (readSign cs).2).2
      rw [List.length_append]
      omega

theorem length_strip (text : String) : (strip text).toList.length ≤ text.toList.length := by
  rw [strip, String.toList_ofList, stripChars, List.length_reverse]
  refine (List.dropWhile_sublist _).length_le.trans ?_
  rw [List.length_reverse]
  exact (List.dropWhile_sublist _).length_le

/-- A decimal has no more digits than its text has characters. -/
theorem digitCount_ofText {text : String} {d : Decimal} (h : ofText digitOf text = some d) :
    digitCount d.coeff ≤ text.length := by
  unfold ofText at h
  split at h
  · cases h
  · rename_i negative whole part exponent hread
    dsimp only at h
    split at h
    · cases h
      obtain ⟨hpos, hle⟩ := length_of_readNumber hread
      have hfilter := List.length_filter_le (· ≠ '_') (strip text).toList
      have hstrip := length_strip text
      have hcount := (digitCount_le_iff hpos).mpr (digitsValue_lt digitOf (whole ++ part))
      rw [String.length_toList] at hstrip
      exact hcount.trans (hle.trans (hfilter.trans hstrip))
    · cases h

end Texts

end Decimals
