import Mathlib.Data.List.Induction
import Mathlib.Data.List.Nodup
import Mathlib.Data.List.Perm.Subperm

/-!
# Dictionaries

A dictionary is the list of its entries in the order in which their keys were
first assigned. A later assignment to a key replaces its value in place.
-/

namespace Relational

variable {κ ν : Type*} [DecidableEq κ] {entries assignments : List (κ × ν)} {k : κ} {v : ν}

/-- `entries[key] = value`. -/
def setItem (entries : List (κ × ν)) (key : κ) (value : ν) : List (κ × ν) :=
  if key ∈ entries.map Prod.fst then
    entries.map fun e => if e.1 = key then (key, value) else e
  else entries ++ [(key, value)]

/-- The dictionary that assignments one after another make. -/
def dictOf (assignments : List (κ × ν)) : List (κ × ν) :=
  assignments.foldl (fun entries e => setItem entries e.1 e.2) []

theorem dictOf_append_singleton (assignments : List (κ × ν)) (e : κ × ν) :
    dictOf (assignments ++ [e]) = setItem (dictOf assignments) e.1 e.2 := by
  rw [dictOf, List.foldl_append]
  rfl

/-- Replacing the value of a key keeps the keys. -/
theorem keys_replace {key : κ} : (entries.map fun e => if e.1 = key then (key, v) else e).map
    Prod.fst = entries.map Prod.fst := by
  rw [List.map_map]
  apply List.map_congr_left
  intro e _
  simp only [Function.comp_apply]
  split
  · rename_i heq
    exact heq.symm
  · rfl

theorem mem_keys_setItem {key : κ} : k ∈ (setItem entries key v).map Prod.fst ↔
    k = key ∨ k ∈ entries.map Prod.fst := by
  unfold setItem
  split
  · rename_i hkey
    rw [keys_replace]
    constructor
    · exact Or.inr
    · rintro (rfl | hk)
      · exact hkey
      · exact hk
  · rw [List.map_append, List.mem_append, List.map_singleton, List.mem_singleton, or_comm]

theorem mem_of_mem_setItem {key : κ} {value : ν} (h : (k, v) ∈ setItem entries key value) :
    (k, v) = (key, value) ∨ (k, v) ∈ entries := by
  unfold setItem at h
  split at h
  · obtain ⟨e, he, heq⟩ := List.mem_map.mp h
    split at heq
    · exact Or.inl heq.symm
    · exact Or.inr (heq ▸ he)
  · rcases List.mem_append.mp h with h | h
    · exact Or.inr h
    · exact Or.inl (List.mem_singleton.mp h)

/-- A dictionary has the keys that were assigned. -/
theorem mem_keys_dictOf : k ∈ (dictOf assignments).map Prod.fst ↔ k ∈ assignments.map Prod.fst := by
  induction assignments using List.reverseRecOn with
  | nil => rfl
  | append_singleton assignments e ih =>
      rw [dictOf_append_singleton, mem_keys_setItem, ih, List.map_append, List.mem_append,
        List.map_singleton, List.mem_singleton, or_comm]

/-- A dictionary has no entry that was not assigned. -/
theorem mem_of_mem_dictOf (h : (k, v) ∈ dictOf assignments) : (k, v) ∈ assignments := by
  induction assignments using List.reverseRecOn with
  | nil => exact h
  | append_singleton assignments e ih =>
      rw [dictOf_append_singleton] at h
      rcases mem_of_mem_setItem h with heq | hmem
      · exact List.mem_append_right _ (List.mem_singleton.mpr heq)
      · exact List.mem_append_left _ (ih hmem)

/-- Assignments to distinct keys are the entries. -/
theorem dictOf_eq_self (h : (assignments.map Prod.fst).Nodup) : dictOf assignments = assignments := by
  induction assignments using List.reverseRecOn with
  | nil => rfl
  | append_singleton assignments e ih =>
      rw [List.map_append, List.map_singleton] at h
      obtain ⟨hfirst, -, hdisjoint⟩ := List.nodup_append.mp h
      have hnew : e.1 ∉ assignments.map Prod.fst :=
        fun hmem => hdisjoint _ hmem _ List.mem_cons_self rfl
      rw [dictOf_append_singleton, ih hfirst, setItem, if_neg hnew]

theorem nodup_keys_setItem {key : κ} (h : (entries.map Prod.fst).Nodup) :
    ((setItem entries key v).map Prod.fst).Nodup := by
  unfold setItem
  split
  · rw [keys_replace]
    exact h
  · rename_i hkey
    rw [List.map_append, List.map_singleton]
    exact List.Nodup.append h (List.nodup_singleton _) (List.disjoint_singleton.mpr hkey)

theorem length_setItem {key : κ} : (setItem entries key v).length =
    if key ∈ entries.map Prod.fst then entries.length else entries.length + 1 := by
  unfold setItem
  split <;> simp

/-- A dictionary with as many entries as assignments was assigned distinct keys. -/
theorem nodup_of_length_dictOf (h : assignments.length ≤ (dictOf assignments).length) :
    (assignments.map Prod.fst).Nodup := by
  have hle : ∀ items : List (κ × ν), (dictOf items).length ≤ items.length := by
    intro items
    induction items using List.reverseRecOn with
    | nil => exact Nat.le_refl _
    | append_singleton items e ih =>
        rw [dictOf_append_singleton, length_setItem, List.length_append, List.length_singleton]
        split <;> omega
  induction assignments using List.reverseRecOn with
  | nil => exact List.nodup_nil
  | append_singleton assignments e ih =>
      have hbound := hle assignments
      rw [dictOf_append_singleton, length_setItem, List.length_append, List.length_singleton] at h
      split at h
      · omega
      · rename_i hkey
        rw [mem_keys_dictOf] at hkey
        rw [List.map_append, List.map_singleton]
        exact List.Nodup.append (ih (by omega)) (List.nodup_singleton _)
          (List.disjoint_singleton.mpr hkey)

/-- A key of a dictionary has one entry. -/
theorem filter_key_eq (hnodup : (entries.map Prod.fst).Nodup) (h : (k, v) ∈ entries) :
    (entries.filter fun e => e.1 = k) = [(k, v)] := by
  induction entries with
  | nil => cases h
  | cons e entries ih =>
      rw [List.map_cons, List.nodup_cons] at hnodup
      rcases List.mem_cons.mp h with rfl | h
      · have hnone : (entries.filter fun e => e.1 = k) = [] := by
          apply List.filter_eq_nil_iff.mpr
          intro e he heq
          apply hnodup.1
          exact List.mem_map.mpr ⟨e, he, of_decide_eq_true heq⟩
        rw [List.filter_cons_of_pos (by simp), hnone]
      · have hne : e.1 ≠ k := by
          rintro rfl
          exact hnodup.1 (List.mem_map.mpr ⟨_, h, rfl⟩)
        rw [List.filter_cons_of_neg (by simpa using hne)]
        exact ih hnodup.2 h

omit [DecidableEq κ] in
/-- Entries with distinct keys that all belong to as many others are these, in some order. -/
theorem perm_of_subset {others : List (κ × ν)} (hnodup : (entries.map Prod.fst).Nodup)
    (hsubset : ∀ e ∈ entries, e ∈ others) (hlength : others.length ≤ entries.length) :
    entries.Perm others :=
  (List.Nodup.subperm (List.Nodup.of_map _ hnodup) hsubset).perm_of_length_le hlength

section Lookup

variable [BEq κ] [LawfulBEq κ]

omit [DecidableEq κ] in
theorem mem_of_lookup (h : entries.lookup k = some v) : (k, v) ∈ entries := by
  obtain ⟨before, after, rfl, -⟩ := List.lookup_eq_some_iff.mp h
  exact List.mem_append_right _ List.mem_cons_self

omit [DecidableEq κ] in
theorem lookup_of_mem (hnodup : (entries.map Prod.fst).Nodup) (h : (k, v) ∈ entries) :
    entries.lookup k = some v := by
  induction entries with
  | nil => cases h
  | cons e entries ih =>
      rw [List.map_cons, List.nodup_cons] at hnodup
      rcases List.mem_cons.mp h with rfl | h
      · exact List.lookup_cons_self
      · have hne : (k == e.1) = false := by
          rw [beq_eq_false_iff_ne]
          rintro rfl
          exact hnodup.1 (List.mem_map.mpr ⟨_, h, rfl⟩)
        rw [List.lookup_cons, hne]
        exact ih hnodup.2 h

/-- A key with one value among its assignments has that value. -/
theorem lookup_dictOf (hassigned : (k, v) ∈ assignments)
    (hsame : ∀ w, (k, w) ∈ assignments → w = v) : (dictOf assignments).lookup k = some v := by
  have hkey : k ∈ (dictOf assignments).map Prod.fst :=
    mem_keys_dictOf.mpr (List.mem_map.mpr ⟨_, hassigned, rfl⟩)
  cases hlookup : (dictOf assignments).lookup k with
  | none =>
      obtain ⟨e, he, rfl⟩ := List.mem_map.mp hkey
      have hnone := List.lookup_eq_none_iff.mp hlookup e he
      simp at hnone
  | some w => rw [hsame w (mem_of_mem_dictOf (mem_of_lookup hlookup))]

end Lookup

end Relational
