import Mathlib.Data.Nat.Log
import Mathlib.Tactic.Ring
import Mathlib.Tactic.Linarith

/-!
# The ceiling of a floating-point quotient

`ceil(n / d)` for integers divides in floating point: the quotient is rounded to
53 binary digits, and the ceiling is taken of what is left. Below `2 ^ 53` the
rounding does not reach an integer, and the ceiling is the exact one.
-/

namespace Decimals

/-- A quotient of natural numbers rounded to the nearest one, a half to the even one. -/
def nearest (n d : Nat) : Nat :=
  let twice := 2 * (n % d)
  if d < twice ∨ twice = d ∧ n / d % 2 = 1 then n / d + 1 else n / d

/-- `ceil(n / d)`: 53 binary digits of the quotient are kept. -/
def ceilQuotient (n d : Nat) : Nat :=
  if n < d then min n 1
  else
    let top := Nat.log 2 (n / d)
    if top ≤ 52 then
      let unit := 2 ^ (52 - top)
      (nearest (n * unit) d + (unit - 1)) / unit
    else
      let unit := 2 ^ (top - 52)
      nearest n (d * unit) * unit

example : ceilQuotient 32000 16000 = 2 ∧ ceilQuotient 32001 16000 = 3 := by decide +kernel

variable {n d unit : Nat}

/-- Rounding moves a quotient by at most a half. -/
theorem nearest_bounds (hd : 0 < d) :
    2 * n ≤ 2 * d * nearest n d + d ∧ 2 * d * nearest n d ≤ 2 * n + d := by
  have hdiv : d * (n / d) + n % d = n := Nat.div_add_mod n d
  have hmod : n % d < d := Nat.mod_lt n hd
  have hcases : nearest n d = n / d + 1 ∧ d ≤ 2 * (n % d) ∨
      nearest n d = n / d ∧ 2 * (n % d) ≤ d := by
    unfold nearest
    dsimp only
    split
    · exact Or.inl ⟨rfl, by omega⟩
    · exact Or.inr ⟨rfl, by omega⟩
  rcases hcases with ⟨heq, hhalf⟩ | ⟨heq, hhalf⟩
  · have hprod : 2 * d * nearest n d = 2 * (d * (n / d)) + 2 * d := by
      rw [heq]
      ring
    omega
  · have hprod : 2 * d * nearest n d = 2 * (d * (n / d)) := by
      rw [heq]
      ring
    omega

/-- The exact ceiling, by its upper bounds. -/
theorem ceil_le_iff {c : Nat} (hd : 0 < d) : (n + (d - 1)) / d ≤ c ↔ n ≤ d * c := by
  have hsucc : d * (c + 1) = d * c + d := Nat.mul_succ d c
  rw [← Nat.lt_succ_iff, Nat.div_lt_iff_lt_mul hd, Nat.succ_eq_add_one, Nat.mul_comm (c + 1) d]
  omega

/-- The ceiling of a rounded quotient is the exact one while half a unit is below the least
fraction. -/
theorem ceil_nearest (hd : 0 < d) (hunit : 0 < unit) (hfine : d < 2 * unit) :
    (nearest (n * unit) d + (unit - 1)) / unit = (n + (d - 1)) / d := by
  obtain ⟨hlow, hhigh⟩ := nearest_bounds (n := n * unit) hd
  apply eq_of_forall_ge_iff
  intro c
  rw [ceil_le_iff hunit, ceil_le_iff hd]
  constructor
  · intro hle
    by_contra hlt
    have hstep : (d * c + 1) * unit ≤ n * unit := Nat.mul_le_mul_right _ (by omega)
    have hscaled : d * nearest (n * unit) d ≤ d * (unit * c) := Nat.mul_le_mul_left _ hle
    nlinarith
  · intro hle
    by_contra hlt
    have hscaled : n * unit ≤ d * c * unit := Nat.mul_le_mul_right _ hle
    have hstep : d * (unit * c + 1) ≤ d * nearest (n * unit) d :=
      Nat.mul_le_mul_left _ (by omega)
    nlinarith

/-- Below `2 ^ 53` the ceiling of the floating-point quotient is the exact one. -/
theorem ceilQuotient_eq (hd : 0 < d) (hn : n < 2 ^ 53) : ceilQuotient n d = (n + (d - 1)) / d := by
  unfold ceilQuotient
  split
  · rename_i hlt
    apply eq_of_forall_ge_iff
    intro c
    rw [ceil_le_iff hd]
    cases c with
    | zero =>
        rw [Nat.mul_zero]
        omega
    | succ c =>
        have hsucc : d * (c + 1) = d * c + d := Nat.mul_succ d c
        constructor
        · intro _
          omega
        · intro _
          omega
  · rename_i hle
    have hpos : n / d ≠ 0 := (Nat.div_pos (Nat.le_of_not_lt hle) hd).ne'
    have hreach : d * 2 ^ Nat.log 2 (n / d) ≤ n :=
      (Nat.mul_le_mul_left d (Nat.pow_log_le_self 2 hpos)).trans (Nat.mul_div_le n d)
    have htop : Nat.log 2 (n / d) ≤ 52 := by
      by_contra hlt
      have hlarge : 2 ^ 53 ≤ 2 ^ Nat.log 2 (n / d) := Nat.pow_le_pow_right (by decide) (by omega)
      have hmul : 2 ^ Nat.log 2 (n / d) ≤ d * 2 ^ Nat.log 2 (n / d) := Nat.le_mul_of_pos_left _ hd
      omega
    rw [if_pos htop]
    apply ceil_nearest hd (by positivity)
    by_contra hcoarse
    have hsplit : 2 * 2 ^ (52 - Nat.log 2 (n / d)) * 2 ^ Nat.log 2 (n / d) = 2 ^ 53 := by
      rw [Nat.mul_assoc, ← pow_add, Nat.sub_add_cancel htop]
      rfl
    have hmul : 2 * 2 ^ (52 - Nat.log 2 (n / d)) * 2 ^ Nat.log 2 (n / d) ≤
        d * 2 ^ Nat.log 2 (n / d) := Nat.mul_le_mul_right _ (Nat.le_of_not_lt hcoarse)
    omega

end Decimals
