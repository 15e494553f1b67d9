import LotusReport.Decimals.Arithmetic
import Mathlib.Data.Int.Log

/-!
# Rounding half to even

The nearest integer of a rational number, where a half goes to the even
neighbour, and the same at some decimal places or some binary digits. Rounding
moves a number by at most half a unit of the last place.
-/

namespace Decimals

/-- The number that a decimal writes. -/
def Decimal.value (d : Decimal) : ℚ := if d.negative then -d.magnitude else d.magnitude

theorem magnitude_eq_abs (d : Decimal) : d.magnitude = |d.value| := by
  have hnonneg : 0 ≤ d.magnitude := mul_nonneg (Nat.cast_nonneg _) (zpow_nonneg (by norm_num) _)
  unfold Decimal.value
  split
  · rw [abs_neg, abs_of_nonneg hnonneg]
  · rw [abs_of_nonneg hnonneg]

/-- The nearest integer, a half to the even one. -/
def halfEven (x : ℚ) : ℤ :=
  if 1 / 2 < x - ⌊x⌋ ∨ x - ⌊x⌋ = 1 / 2 ∧ ⌊x⌋ % 2 = 1 then ⌊x⌋ + 1 else ⌊x⌋

/-- `quantize` to some decimal places, rounding half to even. -/
def quantizeEven (places : Nat) (x : ℚ) : ℚ := halfEven (x * 10 ^ places) / 10 ^ places

example : quantizeEven 2 (1125 / 1000) = 112 / 100 ∧ quantizeEven 2 (-1135 / 1000) = -114 / 100 := by
  decide +kernel

variable {x : ℚ}

theorem abs_halfEven_sub_le (x : ℚ) : |(halfEven x : ℚ) - x| ≤ 1 / 2 := by
  have hlow := Int.floor_le x
  have hhigh := Int.lt_floor_add_one x
  unfold halfEven
  rw [abs_le]
  split
  · rename_i hup
    have hhalf : 1 / 2 ≤ x - ⌊x⌋ := by
      rcases hup with hlt | ⟨heq, -⟩
      · exact hlt.le
      · exact heq.ge
    push_cast
    constructor
    · linarith
    · linarith
  · rename_i hdown
    have hhalf : x - ⌊x⌋ ≤ 1 / 2 := not_lt.mp fun hlt => hdown (Or.inl hlt)
    constructor
    · linarith
    · linarith

/-- Rounding at some decimal places moves a number by at most half a unit of the last one. -/
theorem abs_quantizeEven_sub_le (places : Nat) (x : ℚ) :
    |quantizeEven places x - x| ≤ 1 / 2 / 10 ^ places := by
  have hpos : (0 : ℚ) < 10 ^ places := by positivity
  have hscaled : quantizeEven places x - x =
      (halfEven (x * 10 ^ places) - x * 10 ^ places) / 10 ^ places := by
    unfold quantizeEven
    field_simp
  rw [hscaled, abs_div, abs_of_pos hpos]
  exact div_le_div_of_nonneg_right (abs_halfEven_sub_le _) hpos.le

section Quantize

/-- The coefficient of a decimal at another exponent, a half rounded to even. -/
def rescaleEven (d : Decimal) (exp : Int) : Nat :=
  if exp ≤ d.exp then d.coeff * 10 ^ (d.exp - exp).toNat
  else shiftHalfEven d.coeff (exp - d.exp).toNat

/-- `quantize` to an exponent, rounding half to even. -/
def quantizeHalfEven (ctx : Context) (d : Decimal) (exp : Int) : Except Signal Decimal :=
  if exp < ctx.etiny ∨ ctx.emax < exp then .error .invalidOperation
  else if d.coeff = 0 then fit ctx ⟨d.negative, 0, exp⟩
  else if ctx.emax < d.adjusted then .error .invalidOperation
  else if ctx.prec < d.adjusted - exp + 1 then .error .invalidOperation
  else
    let result : Decimal := ⟨d.negative, rescaleEven d exp, exp⟩
    if ctx.emax < result.adjusted then .error .invalidOperation
    else if ctx.prec < digitCount result.coeff then .error .invalidOperation
    else fit ctx result

/-- A decimal at some decimal places, whatever digits that takes. -/
def Decimal.fixed (places : Nat) (d : Decimal) : Decimal :=
  ⟨d.negative, rescaleEven d (-places), -places⟩

/-- `format(d, ".nf")`. -/
def fixedText (places : Nat) (d : Decimal) : String := formatFixed (d.fixed places)

variable {ctx : Context} {d : Decimal} {places : Nat}

theorem div_le_shiftHalfEven {c k : Nat} : c / 10 ^ k ≤ shiftHalfEven c k := by
  unfold shiftHalfEven
  dsimp only
  split
  · exact Nat.le_succ _
  · exact le_refl _

theorem rescaleEven_of_zero {exp : Int} (h : d.coeff = 0) : rescaleEven d exp = 0 := by
  unfold rescaleEven
  split
  · rw [h, Nat.zero_mul]
  · rw [h]
    simp [shiftHalfEven]

/-- No digit in front of the last place is lost. -/
theorem digitCount_le_rescaleEven (h : d.coeff ≠ 0) :
    (digitCount d.coeff : Int) + d.exp + places ≤ digitCount (rescaleEven d (-places)) := by
  unfold rescaleEven
  split
  · rw [digitCount_mul_ten_pow h]
    omega
  · generalize hk : (-(places : Int) - d.exp).toNat = k
    by_cases hlong : digitCount d.coeff ≤ k
    · have hpos := digitCount_pos (shiftHalfEven d.coeff k)
      omega
    · have hreach : 10 ^ (digitCount d.coeff - 1 - k) ≤ shiftHalfEven d.coeff k := by
        refine le_trans ?_ div_le_shiftHalfEven
        rw [Nat.le_div_iff_mul_le (by positivity), ← pow_add]
        have hsum : digitCount d.coeff - 1 - k + k = digitCount d.coeff - 1 := by omega
        rw [hsum]
        exact ten_pow_le h
      have hlt := lt_digitCount hreach
      omega

/-- A decimal is quantized exactly if the rounded units are held. -/
theorem quantizeHalfEven_eq (hctx : ctx.Covers places) :
    quantizeHalfEven ctx d (-places) =
      if ctx.Holds places (rescaleEven d (-places)) then .ok (d.fixed places)
      else .error .invalidOperation := by
  have hemin := hctx.emin
  have hemax := hctx.emax
  have hprec := hctx.prec
  have hexp : ctx.etiny ≤ -(places : Int) ∧ -(places : Int) ≤ ctx.emax := by
    unfold Context.etiny
    omega
  unfold quantizeHalfEven
  rw [if_neg (by omega)]
  by_cases hcoeff : d.coeff = 0
  · have hone : digitCount 0 = 1 := by decide
    have hzero : rescaleEven d (-(places : Int)) = 0 := rescaleEven_of_zero hcoeff
    have hheld : ctx.Holds places (rescaleEven d (-places)) := by
      rw [hzero, holds_iff hctx]
      omega
    rw [if_pos hcoeff, if_pos hheld]
    unfold Decimal.fixed
    rw [hzero]
    apply fit_eq_self hexp
    · exact hone ▸ hprec
    · unfold Decimal.adjusted
      dsimp only
      omega
  · have hdigits := @digitCount_le_rescaleEven d places hcoeff
    rw [if_neg hcoeff]
    by_cases hheld : ctx.Holds places (rescaleEven d (-places))
    · obtain ⟨hcount, hrange⟩ := (holds_iff hctx).mp hheld
      have hadjusted : d.adjusted = d.exp + digitCount d.coeff - 1 := rfl
      have hresult : (Decimal.mk d.negative (rescaleEven d (-places)) (-places)).adjusted =
          -(places : Int) + digitCount (rescaleEven d (-places)) - 1 := rfl
      rw [if_pos hheld, if_neg (by omega), if_neg (by omega), if_neg (by omega),
        if_neg (by exact Nat.not_lt.mpr hcount)]
      exact fit_eq_self hexp hcount (by omega)
    · rw [if_neg hheld]
      rw [holds_iff hctx] at hheld
      have hresult : (Decimal.mk d.negative (rescaleEven d (-places)) (-places)).adjusted =
          -(places : Int) + digitCount (rescaleEven d (-places)) - 1 := rfl
      split
      · rfl
      · split
        · rfl
        · dsimp only
          split
          · rfl
          · split
            · rfl
            · omega

end Quantize

section Values

variable {d : Decimal}

/-- The rounded integer is the one within half a unit, and the even one of two such integers. -/
theorem halfEven_eq_iff {x : ℚ} {n : ℤ} :
    halfEven x = n ↔ |(n : ℚ) - x| < 1 / 2 ∨ |(n : ℚ) - x| = 1 / 2 ∧ n % 2 = 0 := by
  have hlow := Int.floor_le x
  have hhigh := Int.lt_floor_add_one x
  have hspec : |(halfEven x : ℚ) - x| < 1 / 2 ∨ |(halfEven x : ℚ) - x| = 1 / 2 ∧ halfEven x % 2 = 0 := by
    unfold halfEven
    split
    · rename_i hup
      push_cast
      have habs : |(⌊x⌋ : ℚ) + 1 - x| = 1 - (x - ⌊x⌋) := by
        rw [abs_of_pos (by linarith)]
        ring
      rw [habs]
      rcases hup with hlt | ⟨heq, hodd⟩
      · left
        linarith
      · right
        constructor
        · linarith
        · omega
    · rename_i hdown
      have habs : |(⌊x⌋ : ℚ) - x| = x - ⌊x⌋ := by
        rw [abs_sub_comm, abs_of_nonneg (by linarith)]
      have hle : x - ⌊x⌋ ≤ 1 / 2 := not_lt.mp fun hlt => hdown (Or.inl hlt)
      rw [habs]
      rcases lt_or_eq_of_le hle with hlt | heq
      · exact Or.inl hlt
      · right
        refine ⟨heq, ?_⟩
        have hodd : ¬ ⌊x⌋ % 2 = 1 := fun hodd => hdown (Or.inr ⟨heq, hodd⟩)
        omega
  constructor
  · rintro rfl
    exact hspec
  · intro h
    by_contra hne
    -- two integers within half a unit are neighbours, and one of them is odd
    have hfar : (1 : ℚ) ≤ |(halfEven x : ℚ) - n| := by
      have hint : (1 : ℤ) ≤ |halfEven x - n| := Int.one_le_abs (sub_ne_zero.mpr hne)
      exact_mod_cast hint
    have hsum : |(halfEven x : ℚ) - n| ≤ |(halfEven x : ℚ) - x| + |(n : ℚ) - x| := by
      rw [abs_sub_comm (n : ℚ) x]
      exact abs_sub_le _ _ _
    rcases hspec with hlt | ⟨heq, heven⟩
    · rcases h with hlt' | ⟨heq', -⟩
      · linarith
      · linarith
    · rcases h with hlt' | ⟨heq', heven'⟩
      · linarith
      · have htwo : (2 : ℤ) ≤ |halfEven x - n| := by
          have hpos : 0 < |halfEven x - n| := abs_pos.mpr (sub_ne_zero.mpr hne)
          rcases abs_cases (halfEven x - n) with ⟨habs, -⟩ | ⟨habs, -⟩ <;> omega
        have hcast : (2 : ℚ) ≤ |(halfEven x : ℚ) - n| := by exact_mod_cast htwo
        linarith

theorem halfEven_intCast (n : Int) : halfEven (n : ℚ) = n := by
  rw [halfEven_eq_iff, sub_self, abs_zero]
  left
  norm_num

theorem halfEven_neg (x : ℚ) : halfEven (-x) = -halfEven x := by
  have hx := halfEven_eq_iff.mp (rfl : halfEven x = halfEven x)
  have hmirror : |((-halfEven x : ℤ) : ℚ) - -x| = |(halfEven x : ℚ) - x| := by
    rw [← abs_neg]
    congr 1
    push_cast
    ring
  rw [halfEven_eq_iff, hmirror]
  rcases hx with hlt | ⟨heq, heven⟩
  · exact Or.inl hlt
  · exact Or.inr ⟨heq, by omega⟩

/-- Dropping the last digits of a coefficient is rounding a quotient. -/
theorem shiftHalfEven_eq_halfEven (c k : Nat) :
    (shiftHalfEven c k : ℤ) = halfEven ((c : ℚ) / 10 ^ k) := by
  have hpos : (0 : ℚ) < 10 ^ k := by positivity
  have hquotient : (c : ℚ) / 10 ^ k = (c / 10 ^ k : ℕ) + (c % 10 ^ k : ℕ) / 10 ^ k := by
    have hdiv : ((10 ^ k * (c / 10 ^ k) + c % 10 ^ k : ℕ) : ℚ) = c := by rw [Nat.div_add_mod]
    push_cast at hdiv
    rw [← hdiv]
    field_simp
  -- twice the rest against the divisor is the fraction against a half
  have hhalf : 10 ^ k < 2 * (c % 10 ^ k) ↔ 1 / 2 < ((c % 10 ^ k : ℕ) : ℚ) / 10 ^ k := by
    rw [lt_div_iff₀ hpos, ← Nat.cast_lt (α := ℚ)]
    push_cast
    constructor
    · intro h
      linarith
    · intro h
      linarith
  have htie : 2 * (c % 10 ^ k) = 10 ^ k ↔ ((c % 10 ^ k : ℕ) : ℚ) / 10 ^ k = 1 / 2 := by
    rw [div_eq_iff hpos.ne', ← Nat.cast_inj (R := ℚ)]
    push_cast
    constructor
    · intro h
      linarith
    · intro h
      linarith
  have hlow : (0 : ℚ) ≤ ((c % 10 ^ k : ℕ) : ℚ) / 10 ^ k := by positivity
  have hhigh : ((c % 10 ^ k : ℕ) : ℚ) / 10 ^ k < 1 := by
    rw [div_lt_one hpos]
    exact_mod_cast Nat.mod_lt c (Nat.pos_of_ne_zero (by positivity))
  symm
  rw [halfEven_eq_iff, hquotient]
  unfold shiftHalfEven
  dsimp only
  simp only [hhalf, htie]
  generalize ((c % 10 ^ k : ℕ) : ℚ) / 10 ^ k = f at hlow hhigh
  generalize c / 10 ^ k = q
  split
  · rename_i hup
    have habs : |(((q + 1 : ℕ) : ℤ) : ℚ) - (q + f)| = 1 - f := by
      push_cast
      rw [abs_of_pos (by linarith)]
      ring
    rw [habs]
    rcases hup with hlt | ⟨heq, hodd⟩
    · left
      linarith
    · right
      constructor
      · linarith
      · omega
  · rename_i hdown
    have habs : |((q : ℤ) : ℚ) - (q + f)| = f := by
      push_cast
      rw [abs_sub_comm, abs_of_nonneg (by linarith)]
      ring
    rw [habs]
    rcases lt_or_eq_of_le (not_lt.mp fun hlt => hdown (Or.inl hlt)) with hlt | heq
    · exact Or.inl hlt
    · right
      refine ⟨heq, ?_⟩
      have hodd : ¬ q % 2 = 1 := fun hodd => hdown (Or.inr ⟨heq, hodd⟩)
      omega

/-- The coefficient at some decimal places is the rounded number of units. -/
theorem rescaleEven_eq_halfEven (d : Decimal) (places : Nat) :
    (rescaleEven d (-places) : ℤ) = halfEven (d.magnitude * 10 ^ places) := by
  have hten : (10 : ℚ) ≠ 0 := by norm_num
  have hunits : d.magnitude * 10 ^ places = d.coeff * (10 : ℚ) ^ (d.exp + places) := by
    rw [Decimal.magnitude, mul_assoc, zpow_add₀ hten, zpow_natCast]
  unfold rescaleEven
  split
  · rename_i hle
    have hexp : d.exp + places = ((d.exp - -(places : ℤ)).toNat : ℤ) := by omega
    have hcast : (d.coeff : ℚ) * 10 ^ (d.exp - -(places : ℤ)).toNat =
        ((d.coeff * 10 ^ (d.exp - -(places : ℤ)).toNat : ℕ) : ℤ) := by
      push_cast
      rfl
    rw [hunits, hexp, zpow_natCast, hcast, halfEven_intCast]
  · rename_i hlt
    have hexp : d.exp + places = -((-(places : ℤ) - d.exp).toNat : ℤ) := by omega
    rw [hunits, hexp, zpow_neg, zpow_natCast, shiftHalfEven_eq_halfEven, div_eq_mul_inv]

/-- A decimal at some places is its value rounded to them. -/
theorem value_fixed (d : Decimal) (places : Nat) :
    (d.fixed places).value = quantizeEven places d.value := by
  have hunits := rescaleEven_eq_halfEven d places
  have hmagnitude : (d.fixed places).magnitude = quantizeEven places d.magnitude := by
    show (rescaleEven d (-places) : ℚ) * (10 : ℚ) ^ (-(places : ℤ)) = _
    unfold quantizeEven
    rw [← hunits, zpow_neg, zpow_natCast, div_eq_mul_inv]
    push_cast
    rfl
  have hsign : (d.fixed places).negative = d.negative := rfl
  unfold Decimal.value
  rw [hsign, hmagnitude]
  split
  · unfold quantizeEven
    rw [neg_mul, halfEven_neg]
    push_cast
    ring
  · rfl

end Values

section Binary

/-- The last place of a binary number with 53 digits. -/
def lastPlace (x : ℚ) : ℚ := 2 ^ (Int.log 2 |x| - 52)

/-- `float` of a number in the normal range: the nearest one of 53 binary digits, a half to the
even one. -/
def toFloat (x : ℚ) : ℚ := halfEven (x / lastPlace x) * lastPlace x

variable {x : ℚ}

theorem lastPlace_pos (x : ℚ) : 0 < lastPlace x := zpow_pos (by norm_num) _

theorem toFloat_zero : toFloat 0 = 0 := by
  unfold toFloat
  rw [zero_div, ← Int.cast_zero, halfEven_intCast, Int.cast_zero, zero_mul]

/-- A number other than zero has 53 binary digits in front of its last place. -/
theorem le_abs_div_lastPlace (hx : x ≠ 0) : (2 : ℚ) ^ 52 ≤ |x / lastPlace x| := by
  have htwo : (2 : ℚ) ≠ 0 := by norm_num
  have hlog : (2 : ℚ) ^ Int.log 2 |x| ≤ |x| := by
    exact_mod_cast Int.zpow_log_le_self one_lt_two (abs_pos.mpr hx)
  rw [abs_div, abs_of_pos (lastPlace_pos x), le_div_iff₀ (lastPlace_pos x)]
  calc
    (2 : ℚ) ^ 52 * lastPlace x = 2 ^ Int.log 2 |x| := by
      unfold lastPlace
      rw [← zpow_natCast, ← zpow_add₀ htwo]
      congr 1
      omega
    _ ≤ |x| := hlog

theorem le_abs_halfEven {n : ℕ} (h : (n : ℚ) ≤ |x|) : (n : ℚ) ≤ |(halfEven x : ℚ)| := by
  have hround := abs_halfEven_sub_le x
  have hclose : |x| - |(halfEven x : ℚ)| ≤ |(halfEven x : ℚ) - x| := by
    rw [abs_sub_comm]
    exact abs_sub_abs_le_abs_sub _ _
  -- an integer above the bound less one half is not below the bound
  have hlt : (n : ℚ) - 1 < |(halfEven x : ℚ)| := by linarith
  have hint : (n : ℤ) - 1 < |halfEven x| := by exact_mod_cast hlt
  exact_mod_cast Int.sub_one_lt_iff.mp hint

/-- A float is off its number by at most one part in `2 ^ 53`. -/
theorem abs_toFloat_sub_le (x : ℚ) : |toFloat x - x| ≤ 1 / 2 ^ 53 * |toFloat x| := by
  rcases eq_or_ne x 0 with rfl | hx
  · rw [toFloat_zero, sub_zero, abs_zero, mul_zero]
  · have hpos := lastPlace_pos x
    have hround := abs_halfEven_sub_le (x / lastPlace x)
    have hlarge : ((2 ^ 52 : ℕ) : ℚ) ≤ |(halfEven (x / lastPlace x) : ℚ)| :=
      le_abs_halfEven (by exact_mod_cast le_abs_div_lastPlace hx)
    have hscaled : toFloat x - x = (halfEven (x / lastPlace x) - x / lastPlace x) * lastPlace x := by
      unfold toFloat
      rw [sub_mul, div_mul_cancel₀ _ hpos.ne']
    rw [hscaled, toFloat, abs_mul, abs_mul, abs_of_pos hpos, ← mul_assoc]
    apply mul_le_mul_of_nonneg_right _ hpos.le
    push_cast at hlarge
    linarith

end Binary

end Decimals
