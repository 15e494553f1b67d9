import Mathlib.Data.Finset.Card
import Mathlib.Data.Finset.Insert
import Mathlib.Data.Finset.Dedup
import Mathlib.Data.List.Dedup
import Mathlib.Logic.Relation
import Mathlib.Logic.Function.Iterate

/-!
# Conditions and recursive queries of a relational database

A condition over nullable columns has a truth value or is unknown, and a
`WHERE` clause keeps a row only when its condition is true. A recursive
`UNION` query over an edge table collects the nodes reachable from its seed.
-/

namespace Relational

/-- The value of a condition: true, false, or unknown because a column is null. -/
abbrev Condition := Option Bool

namespace Condition

/-- A `WHERE` clause keeps the row. -/
def holds (c : Condition) : Bool := c == some true

/-- `NOT`: unknown stays unknown. -/
def neg (c : Condition) : Condition := c.map not

/-- `OR`: a true side decides, otherwise an unknown side stays unknown. -/
def or : Condition → Condition → Condition
  | some true, _ => some true
  | _, some true => some true
  | some false, some false => some false
  | _, _ => none

/-- `AND`: a false side decides, otherwise an unknown side stays unknown. -/
def and : Condition → Condition → Condition
  | some false, _ => some false
  | _, some false => some false
  | some true, some true => some true
  | _, _ => none

/-- `column NOT IN (values)`, unknown on a null column. -/
def notIn {α : Type*} [DecidableEq α] (column : Option α) (values : List α) : Condition :=
  column.map fun a => decide (a ∉ values)

theorem holds_neg_iff (c : Condition) : (neg c).holds = true ↔ c = some false := by
  rcases c with _ | _ | _ <;> simp [neg, holds]

theorem or_eq_false_iff (a b : Condition) :
    or a b = some false ↔ a = some false ∧ b = some false := by
  rcases a with _ | _ | _ <;> rcases b with _ | _ | _ <;> simp [or]

theorem and_eq_false_iff (a b : Condition) :
    and a b = some false ↔ a = some false ∨ b = some false := by
  rcases a with _ | _ | _ <;> rcases b with _ | _ | _ <;> simp [and]

theorem notIn_eq_false_iff {α : Type*} [DecidableEq α] (column : Option α) (values : List α) :
    notIn column values = some false ↔ ∃ a ∈ values, column = some a := by
  cases column with
  | none => simp [notIn]
  | some a => simp [notIn]

end Condition

section RecursiveUnion

variable {α : Type*} [DecidableEq α]

/-- One round of a recursive query: join the edges to the nodes found so far. -/
def unionRound (edges : List (α × α)) (found : List α) : List α :=
  found ∪ (edges.filter fun e => e.1 ∈ found).map Prod.snd

/-- `WITH RECURSIVE found AS (SELECT seed UNION SELECT target FROM edges JOIN found)`.
Every round that is not the last finds a new edge target, so one round per edge suffices. -/
def recursiveUnion (edges : List (α × α)) (seed : α) : List α :=
  (unionRound edges)^[edges.length] [seed]

theorem mem_unionRound (edges : List (α × α)) (found : List α) (x : α) :
    x ∈ unionRound edges found ↔ x ∈ found ∨ ∃ a ∈ found, (a, x) ∈ edges := by
  simp only [unionRound, List.mem_union_iff, List.mem_map, List.mem_filter, decide_eq_true_eq]
  constructor
  · rintro (h | ⟨⟨a, b⟩, ⟨he, ha⟩, rfl⟩)
    · exact Or.inl h
    · exact Or.inr ⟨a, ha, he⟩
  · rintro (h | ⟨a, ha, he⟩)
    · exact Or.inl h
    · exact Or.inr ⟨(a, x), ⟨he, ha⟩, rfl⟩

/-- The nodes found after `n` rounds, as a set. -/
def foundAfter (edges : List (α × α)) (seed : α) (n : Nat) : Finset α :=
  ((unionRound edges)^[n] [seed]).toFinset

theorem mem_foundAfter_succ (edges : List (α × α)) (seed : α) (n : Nat) (x : α) :
    x ∈ foundAfter edges seed (n + 1) ↔
      x ∈ foundAfter edges seed n ∨ ∃ a ∈ foundAfter edges seed n, (a, x) ∈ edges := by
  simp only [foundAfter, Function.iterate_succ_apply', List.mem_toFinset, mem_unionRound]

theorem foundAfter_subset_succ (edges : List (α × α)) (seed : α) (n : Nat) :
    foundAfter edges seed n ⊆ foundAfter edges seed (n + 1) :=
  fun _ hx => (mem_foundAfter_succ edges seed n _).mpr (Or.inl hx)

theorem foundAfter_subset_targets (edges : List (α × α)) (seed : α) (n : Nat) :
    foundAfter edges seed n ⊆ insert seed (edges.map Prod.snd).toFinset := by
  induction n with
  | zero => simp [foundAfter]
  | succ n ih =>
      intro x hx
      rcases (mem_foundAfter_succ edges seed n x).mp hx with h | ⟨a, -, he⟩
      · exact ih h
      · simp only [Finset.mem_insert, List.mem_toFinset, List.mem_map]
        exact Or.inr ⟨(a, x), he, rfl⟩

/-- A round that finds nothing new is the last one that could. -/
theorem foundAfter_stable {edges : List (α × α)} {seed : α} {n : Nat}
    (h : foundAfter edges seed n = foundAfter edges seed (n + 1)) (k : Nat) :
    foundAfter edges seed (n + k) = foundAfter edges seed n := by
  induction k with
  | zero => rfl
  | succ k ih =>
      ext x
      rw [← Nat.add_assoc, mem_foundAfter_succ, ih, ← mem_foundAfter_succ, ← h]

theorem exists_stable_round (edges : List (α × α)) (seed : α) :
    ∃ n ≤ edges.length, foundAfter edges seed n = foundAfter edges seed (n + 1) := by
  by_contra hgrow
  simp only [not_exists, not_and] at hgrow
  have hcard : ∀ n ≤ edges.length + 1, n < (foundAfter edges seed n).card := by
    intro n hn
    induction n with
    | zero => simp [foundAfter]
    | succ n ih =>
        have hlt := Finset.card_lt_card (Finset.ssubset_iff_subset_ne.mpr
          ⟨foundAfter_subset_succ edges seed n, hgrow n (by omega)⟩)
        have := ih (by omega)
        omega
  have hbound := Finset.card_le_card (foundAfter_subset_targets edges seed (edges.length + 1))
  have hinsert := Finset.card_insert_le seed (edges.map Prod.snd).toFinset
  have htargets := List.toFinset_card_le (edges.map Prod.snd)
  rw [List.length_map] at htargets
  have := hcard (edges.length + 1) le_rfl
  omega

theorem recursiveUnion_closed {edges : List (α × α)} {seed a b : α}
    (ha : a ∈ recursiveUnion edges seed) (he : (a, b) ∈ edges) :
    b ∈ recursiveUnion edges seed := by
  obtain ⟨n, hn, hstable⟩ := exists_stable_round edges seed
  have hround : ∀ k, n ≤ k → foundAfter edges seed k = foundAfter edges seed n := by
    intro k hk
    have := foundAfter_stable hstable (k - n)
    rwa [Nat.add_sub_cancel' hk] at this
  have hlast := hround edges.length hn
  have ha' : a ∈ foundAfter edges seed edges.length := List.mem_toFinset.mpr ha
  have hb : b ∈ foundAfter edges seed (edges.length + 1) :=
    (mem_foundAfter_succ edges seed _ b).mpr (Or.inr ⟨a, ha', he⟩)
  rw [hround (edges.length + 1) (by omega), ← hlast] at hb
  exact List.mem_toFinset.mp hb

/-- The recursive query returns exactly the nodes reachable from its seed. -/
theorem mem_recursiveUnion_iff (edges : List (α × α)) (seed x : α) :
    x ∈ recursiveUnion edges seed ↔
      Relation.ReflTransGen (fun a b => (a, b) ∈ edges) seed x := by
  constructor
  · have hsound : ∀ n y, y ∈ (unionRound edges)^[n] [seed] →
        Relation.ReflTransGen (fun a b => (a, b) ∈ edges) seed y := by
      intro n
      induction n with
      | zero =>
          intro y hy
          rw [Function.iterate_zero, id, List.mem_singleton] at hy
          exact hy ▸ Relation.ReflTransGen.refl
      | succ n ih =>
          intro y hy
          rw [Function.iterate_succ_apply', mem_unionRound] at hy
          rcases hy with h | ⟨a, ha, he⟩
          · exact ih y h
          · exact (ih a ha).tail he
    exact hsound edges.length x
  · intro h
    induction h with
    | refl =>
        have hseed : ∀ n, seed ∈ (unionRound edges)^[n] [seed] := by
          intro n
          induction n with
          | zero => simp
          | succ n ih =>
              rw [Function.iterate_succ_apply', mem_unionRound]
              exact Or.inl ih
        exact hseed edges.length
    | tail _ he ih => exact recursiveUnion_closed ih he

end RecursiveUnion

end Relational
