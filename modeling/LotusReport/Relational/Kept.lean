import Mathlib.Data.List.Basic
import Mathlib.Order.Nat
import Mathlib.Tactic.Common

/-!
# What is kept of the front of a list

A reader that keeps some of the items it reads has, after `n` items, what is kept of
the first `n`. As long as every item is kept the two counts agree.
-/

namespace Relational

section Kept

variable {α β : Type} (keep : α → Option β) (items : List α)

/-- What is kept of the first `n` items. -/
def kept (n : Nat) : List β := (items.take n).filterMap keep

/-- The number of items before the first that is not kept. -/
def leading : List α → Nat
  | [] => 0
  | item :: items => if (keep item).isSome then leading items + 1 else 0

variable {keep items} {m n : Nat}

theorem kept_prefix : kept keep items n <+: items.filterMap keep := by
  refine ⟨(items.drop n).filterMap keep, ?_⟩
  rw [kept, ← List.filterMap_append, List.take_append_drop]

theorem kept_add : kept keep items (m + n) =
    kept keep items m ++ ((items.drop m).take n).filterMap keep := by
  rw [kept, kept, List.take_add, List.filterMap_append]

theorem length_kept_mono (h : m ≤ n) : (kept keep items m).length ≤ (kept keep items n).length := by
  obtain ⟨k, rfl⟩ := Nat.exists_eq_add_of_le h
  rw [kept_add, List.length_append]
  exact Nat.le_add_right _ _

theorem length_kept_le : (kept keep items n).length ≤ n :=
  (List.length_filterMap_le _ _).trans (List.length_take_le _ _)

theorem length_kept_le_all : (kept keep items n).length ≤ (items.filterMap keep).length :=
  kept_prefix.length_le

attribute [local simp] leading in
/-- The counts agree exactly up to the first item that is not kept. -/
theorem length_kept_eq_iff : (kept keep items n).length = n ↔ n ≤ leading keep items := by
  induction items generalizing n with
  | nil =>
      rw [kept, List.take_nil, leading, Nat.le_zero]
      exact eq_comm
  | cons item items ih =>
      cases n with
      | zero => exact iff_of_true rfl (Nat.zero_le _)
      | succ n =>
          rw [kept, List.take_succ_cons, List.filterMap_cons, leading]
          cases hitem : keep item with
          | none =>
              have hle : (kept keep items n).length ≤ n := length_kept_le
              rw [kept] at hle
              simp only [Option.isSome_none, Bool.false_eq_true, if_false]
              omega
          | some kept' =>
              simp only [Option.isSome_some, if_true, List.length_cons]
              rw [Nat.add_right_cancel_iff, Nat.add_le_add_iff_right]
              exact ih

theorem length_kept_leading : (kept keep items (leading keep items)).length = leading keep items :=
  length_kept_eq_iff.mpr le_rfl

theorem leading_le_all : leading keep items ≤ (items.filterMap keep).length :=
  length_kept_leading.ge.trans length_kept_le_all

/-- Where nothing more is kept, everything is. -/
theorem kept_eq_of_length (h : (items.filterMap keep).length ≤ (kept keep items n).length) :
    kept keep items n = items.filterMap keep :=
  kept_prefix.eq_of_length_le h

theorem length_kept_lt_iff : (kept keep items n).length < (items.filterMap keep).length ↔
    ∃ item ∈ items.drop n, keep item ≠ none := by
  have hsplit : items.filterMap keep = kept keep items n ++ (items.drop n).filterMap keep := by
    rw [kept, ← List.filterMap_append, List.take_append_drop]
  rw [hsplit, List.length_append, Nat.lt_add_right_iff_pos, List.length_pos_iff_ne_nil, ne_eq,
    List.filterMap_eq_nil_iff]
  push Not
  exact Iff.rfl

/-- The item after the leading ones is not kept. -/
theorem length_kept_leading_succ :
    (kept keep items (leading keep items + 1)).length = leading keep items := by
  have hlt : ¬(kept keep items (leading keep items + 1)).length = leading keep items + 1 := by
    rw [length_kept_eq_iff]
    omega
  have hle : (kept keep items (leading keep items + 1)).length ≤ leading keep items + 1 :=
    length_kept_le
  have hmono : (kept keep items (leading keep items)).length ≤
      (kept keep items (leading keep items + 1)).length := length_kept_mono (Nat.le_succ _)
  rw [length_kept_leading] at hmono
  omega

end Kept

end Relational
