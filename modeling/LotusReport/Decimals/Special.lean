import LotusReport.Decimals.HalfEven
import LotusReport.Fallible.Checks

/-!
# Sums and special values

The exact sum of two decimals, which a context fits to its precision and range,
and what a text can say besides a finite decimal: an infinity or a value that is
no number.
-/

namespace Decimals

open Encoding Fallible

section Sums

/-- The signed coefficient of a decimal at an exponent that is no greater. -/
def Decimal.signed (d : Decimal) (exp : Int) : Int :=
  (if d.negative then -1 else 1) * (d.coeff * 10 ^ (d.exp - exp).toNat : Nat)

/-- The exact sum; a zero is negative only if both parts are. -/
def addExact (a b : Decimal) : Decimal :=
  let exp := min a.exp b.exp
  let total := a.signed exp + b.signed exp
  ⟨if total = 0 then a.negative && b.negative else decide (total < 0), total.natAbs, exp⟩

/-- `-d`. -/
def Decimal.negate (d : Decimal) : Decimal := { d with negative := !d.negative }

/-- How a computation adds two decimals. -/
abbrev Addition := Decimal → Decimal → Except Signal Decimal

/-- Exact addition. -/
def Addition.exact : Addition := fun a b => .ok (addExact a b)

/-- Addition in a context. -/
def Addition.inContext (ctx : Context) : Addition := fun a b => fit ctx (addExact a b)

/-- The default context: 28 digits, the precision of the computation. -/
def workingContext : Context := ⟨28, 999999, -999999⟩

/-- `sum(items, start=Decimal("0"))`. -/
def Addition.sum (add : Addition) (items : List Decimal) : Except Signal Decimal :=
  items.foldlM add ⟨false, 0, 0⟩

theorem signed_mul (d : Decimal) {exp : Int} (h : exp ≤ d.exp) :
    (d.signed exp : ℚ) * (10 : ℚ) ^ exp = d.value := by
  have hten : (10 : ℚ) ≠ 0 := by norm_num
  have hexp : ((d.exp - exp).toNat : ℤ) + exp = d.exp := by omega
  have hmagnitude : (d.coeff : ℚ) * 10 ^ (d.exp - exp).toNat * (10 : ℚ) ^ exp = d.magnitude := by
    rw [Decimal.magnitude, mul_assoc, ← zpow_natCast, ← zpow_add₀ hten, hexp]
  unfold Decimal.signed Decimal.value
  rw [← hmagnitude]
  split
  · push_cast
    ring
  · push_cast
    ring

/-- A signed coefficient as a decimal. -/
theorem value_mk_natAbs {total exp : Int} {negative : Bool}
    (h : total = 0 ∨ negative = decide (total < 0)) :
    (Decimal.mk negative total.natAbs exp).value = total * (10 : ℚ) ^ exp := by
  unfold Decimal.value Decimal.magnitude
  dsimp only
  rcases h with hzero | hsign
  · simp [hzero]
  · by_cases hneg : total < 0
    · have hcast : (total.natAbs : ℚ) = -(total : ℚ) := by
        rw [Nat.cast_natAbs, abs_of_neg hneg, Int.cast_neg]
      simp [hsign, hneg, hcast]
    · have hcast : (total.natAbs : ℚ) = (total : ℚ) := by
        rw [Nat.cast_natAbs, abs_of_nonneg (not_lt.mp hneg)]
      simp [hsign, hneg, hcast]

/-- The exact sum has the sum of the values. -/
theorem value_addExact (a b : Decimal) : (addExact a b).value = a.value + b.value := by
  have ha := signed_mul a (min_le_left a.exp b.exp)
  have hb := signed_mul b (min_le_right a.exp b.exp)
  have hsum : ((a.signed (min a.exp b.exp) + b.signed (min a.exp b.exp) : ℤ) : ℚ) *
      (10 : ℚ) ^ min a.exp b.exp = a.value + b.value := by
    rw [← ha, ← hb]
    push_cast
    ring
  rw [← hsum]
  apply value_mk_natAbs
  by_cases hzero : a.signed (min a.exp b.exp) + b.signed (min a.exp b.exp) = 0
  · exact Or.inl hzero
  · exact Or.inr (if_neg hzero)

/-- An exact sum is returned and has the sum of the values. -/
theorem sum_exact (items : List Decimal) :
    ∃ total, Addition.exact.sum items = .ok total ∧ total.value = (items.map (·.value)).sum := by
  have hfold : ∀ (items : List Decimal) (start : Decimal), ∃ total,
      items.foldlM Addition.exact start = .ok total ∧
        total.value = start.value + (items.map (·.value)).sum := by
    intro items
    induction items with
    | nil =>
        intro start
        exact ⟨start, rfl, by simp⟩
    | cons item items ih =>
        intro start
        obtain ⟨total, hfold, hvalue⟩ := ih (addExact start item)
        refine ⟨total, hfold, ?_⟩
        rw [hvalue, value_addExact, List.map_cons, List.sum_cons]
        ring
  obtain ⟨total, hfold, hvalue⟩ := hfold items ⟨false, 0, 0⟩
  refine ⟨total, hfold, ?_⟩
  rw [hvalue]
  simp [Decimal.value, Decimal.magnitude]

end Sums

section Limits

/-- The least magnitude that does not fit: half a unit above the greatest decimal. -/
def Context.limit (ctx : Context) : ℚ := (10 ^ ctx.prec - 1 / 2) * 10 ^ ctx.etop

/-- The exponents of a context are a range. -/
structure Context.Ranged (ctx : Context) : Prop where
  prec : 0 < ctx.prec
  exps : ctx.emin < ctx.emax

variable {ctx : Context} {d : Decimal}

theorem magnitude_bounds (h : d.coeff ≠ 0) :
    (10 : ℚ) ^ (digitCount d.coeff + d.exp - 1) ≤ d.magnitude ∧
      d.magnitude < (10 : ℚ) ^ (digitCount d.coeff + d.exp) := by
  have hten : (10 : ℚ) ≠ 0 := by norm_num
  have hpos := digitCount_pos d.coeff
  have hlow : ((10 ^ (digitCount d.coeff - 1) : ℕ) : ℚ) ≤ d.coeff := Nat.cast_le.mpr (ten_pow_le h)
  have hhigh : (d.coeff : ℚ) < ((10 ^ digitCount d.coeff : ℕ) : ℚ) :=
    Nat.cast_lt.mpr (lt_ten_pow_digitCount d.coeff)
  have hexp : (digitCount d.coeff + d.exp - 1 : ℤ) = (digitCount d.coeff - 1 : ℕ) + d.exp := by omega
  push_cast at hlow hhigh
  have hunit : (0 : ℚ) < 10 ^ d.exp := zpow_pos (by norm_num) _
  rw [hexp, zpow_add₀ hten, zpow_add₀ hten, zpow_natCast, zpow_natCast, Decimal.magnitude]
  exact ⟨mul_le_mul_of_nonneg_right hlow hunit.le, mul_lt_mul_of_pos_right hhigh hunit⟩

theorem limit_bounds (ctx : Context) : (10 : ℚ) ^ (ctx.prec + ctx.etop - 1) ≤ ctx.limit ∧
    ctx.limit < (10 : ℚ) ^ (ctx.prec + ctx.etop) := by
  have hten : (10 : ℚ) ≠ 0 := by norm_num
  have hpos : (0 : ℚ) < 10 ^ ctx.etop := zpow_pos (by norm_num) _
  have hone : (1 : ℚ) ≤ 10 ^ ctx.prec := one_le_pow₀ (by norm_num)
  have hscale : (10 : ℚ) ^ (ctx.prec + ctx.etop - 1) = 10 ^ ctx.prec / 10 * 10 ^ ctx.etop := by
    rw [zpow_sub_one₀ hten, zpow_add₀ hten, zpow_natCast]
    ring
  rw [hscale, zpow_add₀ hten, zpow_natCast, Context.limit]
  constructor
  · gcongr
    linarith
  · gcongr
    linarith

/-- A coefficient is rounded up to the next digit from half a unit below it on. -/
theorem shiftHalfEven_lt_iff {c k n : Nat} (hn : 0 < n) (hc : c < 10 ^ (n + k)) :
    shiftHalfEven c k < 10 ^ n ↔ 2 * c < (2 * 10 ^ n - 1) * 10 ^ k := by
  have hpos : 0 < 10 ^ k := by positivity
  have hunits : 0 < 10 ^ n := by positivity
  have heven : 10 ^ n % 2 = 0 := by
    obtain ⟨m, rfl⟩ := Nat.exists_eq_succ_of_ne_zero hn.ne'
    rw [pow_succ]
    omega
  have hquotient : c / 10 ^ k < 10 ^ n := by
    rw [Nat.div_lt_iff_lt_mul hpos, ← pow_add]
    exact hc
  have hparts : 10 ^ k * (c / 10 ^ k) + c % 10 ^ k = c := Nat.div_add_mod c (10 ^ k)
  have hrest := Nat.mod_lt c hpos
  have hlimit : (2 * 10 ^ n - 1) * 10 ^ k = 10 ^ k * (2 * (10 ^ n - 1)) + 10 ^ k := by
    rw [Nat.mul_comm, ← Nat.mul_succ]
    congr 1
    omega
  rw [hlimit]
  have hdouble : 2 * c = 10 ^ k * (2 * (c / 10 ^ k)) + 2 * (c % 10 ^ k) := by
    conv_lhs => rw [← hparts]
    ring
  rw [hdouble]
  unfold shiftHalfEven
  dsimp only
  generalize c / 10 ^ k = q at hquotient
  generalize c % 10 ^ k = r at hrest
  generalize 10 ^ k = p at *
  generalize 10 ^ n = u at *
  by_cases hlast : q = u - 1
  · have hodd : (u - 1) % 2 = 1 := by omega
    rw [hlast]
    split
    · omega
    · omega
  · have hsteps : p * (2 * q) + 2 * p ≤ p * (2 * (u - 1)) := by
      calc p * (2 * q) + 2 * p = p * (2 * (q + 1)) := by ring
        _ ≤ p * (2 * (u - 1)) := Nat.mul_le_mul_left _ (by omega)
    refine iff_of_true ?_ (by omega)
    split
    · omega
    · omega

/-- The limit in the units of a decimal that is written below the last place of the context. -/
theorem magnitude_lt_limit_iff {k : Nat} (hexp : ctx.etop = k + d.exp) :
    d.magnitude < ctx.limit ↔ 2 * d.coeff < (2 * 10 ^ ctx.prec - 1) * 10 ^ k := by
  have hpos : (0 : ℚ) < 10 ^ d.exp := zpow_pos (by norm_num) _
  have hone : 1 ≤ 2 * 10 ^ ctx.prec := Nat.one_le_iff_ne_zero.mpr (by positivity)
  have hscale : ctx.limit = ((2 * 10 ^ ctx.prec - 1) * 10 ^ k) / 2 * 10 ^ d.exp := by
    rw [Context.limit, hexp, zpow_add₀ (by norm_num), zpow_natCast]
    ring
  rw [Decimal.magnitude, hscale, mul_lt_mul_iff_of_pos_right hpos, lt_div_iff₀ (by norm_num),
    ← Nat.cast_lt (α := ℚ), mul_comm]
  push_cast [Nat.cast_sub hone]
  rfl

/-- A decimal without digits below the last place of the context is below the limit. -/
theorem magnitude_lt_limit {k : Nat} (hcount : ctx.prec = digitCount d.coeff + k)
    (hexp : d.exp = k + ctx.etop) : d.magnitude < ctx.limit := by
  have hdigits : (d.coeff : ℚ) + 1 ≤ 10 ^ digitCount d.coeff := by
    exact_mod_cast lt_ten_pow_digitCount d.coeff
  have hten : (1 : ℚ) ≤ 10 ^ k := one_le_pow₀ (by norm_num)
  rw [Decimal.magnitude, Context.limit, hcount, hexp, zpow_add₀ (by norm_num), zpow_natCast,
    ← mul_assoc, pow_add]
  refine mul_lt_mul_of_pos_right ?_ (zpow_pos (by norm_num) _)
  nlinarith

/-- A decimal is fitted exactly if its magnitude lies below the limit. -/
theorem fit_ok_iff (hctx : ctx.Ranged) :
    (∃ fitted, fit ctx d = .ok fitted) ↔ d.magnitude < ctx.limit := by
  obtain ⟨hprec, hexps⟩ := hctx
  obtain ⟨hlimitLow, hlimitHigh⟩ := limit_bounds ctx
  have hten : (1 : ℚ) ≤ 10 := by norm_num
  by_cases hcoeff : d.coeff = 0
  · refine iff_of_true ⟨_, by rw [fit, if_pos hcoeff]⟩ ?_
    rw [Decimal.magnitude, hcoeff, Nat.cast_zero, zero_mul]
    exact (zpow_pos (by norm_num) _).trans_le hlimitLow
  obtain ⟨hlow, hhigh⟩ := magnitude_bounds hcoeff
  rw [fit, if_neg hcoeff]
  dsimp only
  rcases lt_trichotomy (digitCount d.coeff + d.exp) (ctx.prec + ctx.etop) with hbelow | heq | habove
  · refine iff_of_true ?_ (hhigh.trans_le ((zpow_le_zpow_right₀ hten (by omega)).trans hlimitLow))
    rw [if_neg (by omega)]
    split
    · rw [if_neg]
      · exact ⟨_, rfl⟩
      · unfold Context.etop Context.etiny at *
        split
        · dsimp only
          omega
        · dsimp only
          omega
    · exact ⟨_, rfl⟩
  · have hmax : max (digitCount d.coeff + d.exp - ctx.prec) ctx.etiny = ctx.etop := by
      unfold Context.etop Context.etiny at *
      omega
    rw [hmax, if_neg (by omega)]
    by_cases hround : d.exp < ctx.etop
    · obtain ⟨k, hk⟩ := Int.eq_ofNat_of_zero_le (show 0 ≤ ctx.etop - d.exp by omega)
      have hcount : digitCount d.coeff = ctx.prec + k := by omega
      have hdigits := lt_ten_pow_digitCount d.coeff
      rw [hcount] at hdigits
      rw [magnitude_lt_limit_iff (show ctx.etop = k + d.exp by omega),
        ← shiftHalfEven_lt_iff hprec hdigits, if_pos hround, hk, Int.toNat_natCast,
        ← digitCount_le_iff hprec]
      split
      · rename_i hcarry
        rw [if_pos (by dsimp only; omega)]
        exact iff_of_false (by rintro ⟨_, ⟨⟩⟩) (Nat.not_le.mpr hcarry)
      · rename_i hheld
        rw [if_neg (by dsimp only; omega)]
        exact iff_of_true ⟨_, rfl⟩ (Nat.le_of_not_lt hheld)
    · rw [if_neg hround]
      obtain ⟨k, hk⟩ := Int.eq_ofNat_of_zero_le (show 0 ≤ d.exp - ctx.etop by omega)
      have hcount : ctx.prec = digitCount d.coeff + k := by omega
      exact iff_of_true ⟨_, rfl⟩ (magnitude_lt_limit hcount (by omega))
  · refine iff_of_false ?_ (not_lt.mpr ?_)
    · rw [if_pos (by omega)]
      rintro ⟨_, ⟨⟩⟩
    · exact hlimitHigh.le.trans ((zpow_le_zpow_right₀ hten (by omega)).trans hlow)

theorem inContext_ok_iff (hctx : ctx.Ranged) {a b : Decimal} :
    (∃ total, Addition.inContext ctx a b = .ok total) ↔ |a.value + b.value| < ctx.limit := by
  rw [← value_addExact, ← magnitude_eq_abs]
  exact fit_ok_iff hctx

/-- Each item, added to the sum of those before it, stays below the limit. -/
def Context.SumWithin (ctx : Context) (items : List Decimal) : Prop :=
  ∀ front item back, items = front ++ item :: back →
    ∀ sum, (Addition.inContext ctx).sum front = .ok sum → |sum.value + item.value| < ctx.limit

theorem sum_ok_iff (hctx : ctx.Ranged) {items : List Decimal} :
    (∃ total, (Addition.inContext ctx).sum items = .ok total) ↔ ctx.SumWithin items := by
  constructor
  · rintro ⟨total, htotal⟩ front item back rfl sum hsum
    rw [Addition.sum, List.foldlM_append] at htotal
    obtain ⟨sum', hsum', htotal⟩ := bind_eq_ok.mp htotal
    cases hsum.symm.trans hsum'
    obtain ⟨next, hnext, -⟩ := bind_eq_ok.mp htotal
    exact (inContext_ok_iff hctx).mp ⟨next, hnext⟩
  · intro hwithin
    induction items using List.reverseRecOn with
    | nil => exact ⟨_, rfl⟩
    | append_singleton items item ih =>
        obtain ⟨sum, hsum⟩ := ih fun front next back hitems =>
          hwithin front next (back ++ [item]) (by rw [hitems, List.append_assoc, List.cons_append])
        obtain ⟨total, htotal⟩ := (inContext_ok_iff hctx).mpr (hwithin items item [] rfl sum hsum)
        refine ⟨total, ?_⟩
        rw [Addition.sum, List.foldlM_append]
        exact bind_eq_ok.mpr ⟨sum, hsum, bind_eq_ok.mpr ⟨total, htotal, rfl⟩⟩

end Limits

section Texts

/-- What a text can write: a finite decimal, an infinity, or no number, which may signal. -/
inductive Number where
  | finite (d : Decimal)
  | infinity (negative : Bool)
  | nan (negative signaling : Bool) (payload : Nat)
deriving DecidableEq, Repr

variable (digitOf : Char → Option (Fin 10))

/-- The payload behind the letters of a value that is no number. -/
def readPayload (cs : List Char) : Option Nat :=
  let (digits, rest) := readDigits digitOf cs
  if rest = [] then some (digitsValue digitOf digits) else none

/-- An infinity, or a value that is no number, in lower-case letters. -/
def readSpecial (negative : Bool) : List Char → Option Number
  | ['i', 'n', 'f'] | ['i', 'n', 'f', 'i', 'n', 'i', 't', 'y'] => some (.infinity negative)
  | 'n' :: 'a' :: 'n' :: cs => (readPayload digitOf cs).map (.nan negative false)
  | 's' :: 'n' :: 'a' :: 'n' :: cs => (readPayload digitOf cs).map (.nan negative true)
  | _ => none

/-- `Decimal(text)`. -/
def numberOf (text : String) : Option Number :=
  match ofText digitOf text with
  | some d => some (.finite d)
  | none =>
      let (negative, cs) := readSign ((strip text).toList.filter (· ≠ '_'))
      readSpecial digitOf negative (cs.map Char.toLower)

/-- `str` of a number; a finite one stands at some decimal places. -/
def Number.text : Number → String
  | .finite d => formatFixed d
  | .infinity negative => (if negative then "-" else "") ++ "Infinity"
  | .nan negative signaling payload => (if negative then "-" else "") ++
      (if signaling then "sNaN" else "NaN") ++ (if payload = 0 then "" else toString payload)

/-- `quantize` to an exponent, of any number; a payload keeps the digits of the precision. -/
def quantizeNumber (ctx : Context) (exp : Int) : Number → Except Signal Number
  | .finite d => (quantizeHalfEven ctx d exp).map .finite
  | .infinity _ | .nan _ true _ => .error .invalidOperation
  | .nan negative false payload => .ok (.nan negative false (payload % 10 ^ ctx.prec))

end Texts

end Decimals
