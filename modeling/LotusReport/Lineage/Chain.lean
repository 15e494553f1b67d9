import Mathlib.Data.List.Chain
import Mathlib.Data.List.Nodup
import Mathlib.Logic.Relation

/-!
# Chains of records that name a predecessor

Each record of a list names the next one by its key, the last names nothing,
and keys do not repeat. Then naming is exactly succession in the list: it has
no fork and no cycle, and leads from every record to the last.
-/

namespace Lineage

variable {α κ : Type} {names : α → α → Prop} {key : α → κ} {records : List α}

/-- Each record before the last starts a step. -/
theorem exists_next {step : α → α → Prop} {front : List α} {last a : α}
    (h : (front ++ [last]).IsChain step) (ha : a ∈ front) : ∃ b, step a b := by
  obtain ⟨s, t, rfl⟩ := List.append_of_mem ha
  rw [List.append_assoc, List.cons_append] at h
  have hsuffix := h.right_of_append
  cases t with
  | nil => exact ⟨last, hsuffix.rel⟩
  | cons b t => exact ⟨b, hsuffix.rel⟩

/-- The record names the other one, and no other key. -/
def NamesOnly (names : α → α → Prop) (key : α → κ) (a b : α) : Prop :=
  names a b ∧ ∀ c, names a c → key c = key b

/-- Records that name one another in the order of the list, down to a root. -/
structure Chain (names : α → α → Prop) (key : α → κ) (records : List α) : Prop where
  linked : records.IsChain (NamesOnly names key)
  distinct : (records.map key).Nodup
  root : ∀ a ∈ records.getLast?, ∀ b, ¬names a b

/-- The naming of records of the list by records of the list. -/
def Within (names : α → α → Prop) (records : List α) (a b : α) : Prop :=
  a ∈ records ∧ b ∈ records ∧ names a b

namespace Chain

/-- Records with one key stand at one position. -/
theorem position_unique (h : Chain names key records) {i j : Nat} (hi : i < records.length)
    (hj : j < records.length) (hkey : key records[i] = key records[j]) : i = j := by
  have hmap : (records.map key)[i]? = (records.map key)[j]? := by
    rw [List.getElem?_map, List.getElem?_map, List.getElem?_eq_getElem hi,
      List.getElem?_eq_getElem hj]
    exact congrArg some hkey
  apply h.distinct.getElem_inj_iff.mp
  · rw [List.getElem?_eq_getElem (by simpa using hi), List.getElem?_eq_getElem (by simpa using hj)]
      at hmap
    exact Option.some.inj hmap

/-- A record names exactly the next record of the list. -/
theorem names_iff (h : Chain names key records) {i j : Nat} (hi : i < records.length)
    (hj : j < records.length) : names records[i] records[j] ↔ j = i + 1 := by
  by_cases hnext : i + 1 < records.length
  · have hlink := List.isChain_iff_getElem.mp h.linked i hnext
    constructor
    · intro hnames
      exact h.position_unique hj hnext (hlink.2 _ hnames)
    · rintro rfl
      exact hlink.1
  · have hlast : records[i] ∈ records.getLast? := by
      have hindex : records.length - 1 = i := by omega
      rw [List.getLast?_eq_getElem?, hindex]
      exact List.getElem?_eq_getElem hi
    constructor
    · intro hnames
      exact absurd hnames (h.root _ hlast _)
    · intro hj'
      omega

/-- Naming leads forward in the list. -/
theorem forward (h : Chain names key records) {a b : α}
    (hab : Relation.TransGen (Within names records) a b) {i : Nat} (hi : i < records.length)
    (ha : records[i] = a) : ∃ j, ∃ hj : j < records.length, i < j ∧ records[j] = b := by
  have hstep : ∀ {x y : α}, Within names records x y → ∀ {k : Nat} (hk : k < records.length),
      records[k] = x → ∃ j, ∃ hj : j < records.length, k < j ∧ records[j] = y := by
    rintro x y ⟨-, hy, hxy⟩ k hk rfl
    obtain ⟨j, hj, rfl⟩ := List.mem_iff_getElem.mp hy
    have hnext := (h.names_iff hk hj).mp hxy
    exact ⟨j, hj, by omega, rfl⟩
  induction hab with
  | single hab => exact hstep hab hi ha
  | tail _ hbc ih =>
      obtain ⟨j, hj, hij, hb⟩ := ih
      obtain ⟨k, hk, hjk, hc⟩ := hstep hbc hj hb
      exact ⟨k, hk, by omega, hc⟩

/-- No record leads back to itself. -/
theorem acyclic (h : Chain names key records) {a : α} (ha : a ∈ records) :
    ¬Relation.TransGen (Within names records) a a := by
  intro hcycle
  obtain ⟨i, hi, rfl⟩ := List.mem_iff_getElem.mp ha
  obtain ⟨j, hj, hij, hback⟩ := h.forward hcycle hi rfl
  have hsame := h.position_unique hi hj (congrArg key hback.symm)
  omega

/-- Every record leads to the last one. -/
theorem reaches_root (h : Chain names key records) {a root : α} (ha : a ∈ records)
    (hroot : root ∈ records.getLast?) : Relation.ReflTransGen (Within names records) a root := by
  obtain ⟨i, hi, rfl⟩ := List.mem_iff_getElem.mp ha
  rw [List.getLast?_eq_getElem?] at hroot
  obtain ⟨hlast, rfl⟩ := List.getElem?_eq_some_iff.mp hroot
  -- along the positions from `i` to the last
  have hsteps : ∀ n, ∀ hn : i + n < records.length,
      Relation.ReflTransGen (Within names records) records[i] records[i + n] := by
    intro n
    induction n with
    | zero => exact fun hn => .refl
    | succ n ih =>
        intro hn
        apply (ih (by omega)).tail
        refine ⟨List.getElem_mem _, List.getElem_mem _, ?_⟩
        exact (h.names_iff (by omega) hn).mpr (by omega)
  have hend := hsteps (records.length - 1 - i) (by omega)
  have hindex : i + (records.length - 1 - i) = records.length - 1 := by omega
  simpa only [hindex] using hend

end Chain

end Lineage
