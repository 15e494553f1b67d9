import Mathlib.Data.List.Dedup
import Mathlib.Data.String.Basic
import LotusReport.Encoding.Runtime

/-!
# Dictionaries and their canonical form

Sorting the fields of an object is stable, so it commutes with every operation
that acts on the fields one by one, and no reader by name notices it. The
canonical form is idempotent, and dictionaries with the same entries have the
same one.
-/

namespace Encoding

open Json

section Sorted

/-- The order in which the fields of an object are written. -/
def fieldLe (a b : String × Json) : Prop := a.1 ≤ b.1

instance : DecidableRel fieldLe := fun a b => inferInstanceAs (Decidable (a.1 ≤ b.1))

instance : Std.Total fieldLe := ⟨fun a b => le_total a.1 b.1⟩

instance : IsTrans (String × Json) fieldLe := ⟨fun _ _ _ h h' => le_trans (α := String) h h'⟩

theorem sortFields_eq (fields : Fields) :
    sortFields fields = fields.insertionSort fieldLe := rfl

theorem sortFields_pairwise (fields : Fields) :
    (sortFields fields).Pairwise fieldLe := List.pairwise_insertionSort fieldLe fields

theorem mem_sortFields {fields : Fields} {f : String × Json} :
    f ∈ sortFields fields ↔ f ∈ fields := List.mem_insertionSort _

theorem sortFields_of_pairwise {fields : Fields} (h : fields.Pairwise fieldLe) :
    sortFields fields = fields := h.insertionSort_eq

@[simp] theorem sortFields_sortFields (fields : Fields) :
    sortFields (sortFields fields) = sortFields fields :=
  sortFields_of_pairwise (sortFields_pairwise fields)

/-- Sorting commutes with a change of values. -/
theorem sortFields_map {g : String × Json → String × Json} (hg : ∀ f, (g f).1 = f.1)
    (fields : Fields) : sortFields (fields.map g) = (sortFields fields).map g := by
  rw [sortFields_eq, sortFields_eq, List.map_insertionSort (r := fieldLe) (s := fieldLe)]
  intro a _ b _
  simp [fieldLe, hg]

theorem filter_orderedInsert (p : String × Json → Bool) (f : String × Json)
    {fields : Fields} (h : fields.Pairwise fieldLe) :
    (fields.orderedInsert fieldLe f).filter p =
      if p f then (fields.filter p).orderedInsert fieldLe f else fields.filter p := by
  induction fields with
  | nil => cases hf : p f <;> simp [hf]
  | cons g fields ih =>
      obtain ⟨hg, hfields⟩ := List.pairwise_cons.mp h
      by_cases hle : fieldLe f g
      · rw [List.orderedInsert_cons_of_le _ _ hle]
        cases hf : p f with
        | false => simp [hf]
        | true =>
            rw [List.filter_cons_of_pos hf, if_pos rfl]
            -- everything behind `g` is above `f`, so `f` is inserted in front
            have hbelow : ∀ x ∈ (g :: fields).filter p, fieldLe f x := by
              intro x hx
              rcases List.mem_cons.mp (List.mem_of_mem_filter hx) with rfl | hx
              · exact hle
              · exact Trans.trans hle (hg x hx)
            cases hrest : (g :: fields).filter p with
            | nil => rfl
            | cons x xs =>
                rw [List.orderedInsert_cons_of_le _ _ (hbelow x (by simp [hrest]))]
      · rw [List.orderedInsert_of_not_le _ _ hle]
        cases hf : p f <;> cases hpg : p g <;>
          simp [hf, hpg, ih hfields, hle]

/-- Sorting is stable: it commutes with the choice of fields. -/
theorem sortFields_filter (p : String × Json → Bool) (fields : Fields) :
    (sortFields fields).filter p = sortFields (fields.filter p) := by
  induction fields with
  | nil => rfl
  | cons f fields ih =>
      have hsort : sortFields (f :: fields) = (sortFields fields).orderedInsert fieldLe f := rfl
      rw [hsort, filter_orderedInsert p f (sortFields_pairwise fields), ih]
      cases hf : p f with
      | false => simp [List.filter_cons_of_neg, hf]
      | true =>
          rw [if_pos rfl, List.filter_cons_of_pos hf]
          rfl

/-- Sorting is invisible to a reader by name. -/
theorem lookup_sortFields (fields : Fields) (name : String) :
    lookup (sortFields fields) name = lookup fields name := by
  have hsame : (fields.filter fun f => f.1 == name).Pairwise fieldLe := by
    refine List.pairwise_iff_forall_sublist.mpr fun {a b} hab => ?_
    have ha := List.of_mem_filter (hab.subset (by simp : a ∈ [a, b]))
    have hb := List.of_mem_filter (hab.subset (by simp : b ∈ [a, b]))
    simp only [beq_iff_eq] at ha hb
    exact le_of_eq (ha.trans hb.symm)
  unfold lookup
  rw [← List.head?_filter, ← List.head?_filter, sortFields_filter, sortFields_of_pairwise hsame]

end Sorted

section Canonical

theorem canonicalItems_eq_map (items : List Json) : canonicalItems items = items.map canonical := by
  induction items with
  | nil => rfl
  | cons j items ih => rw [canonicalItems, ih, List.map_cons]

theorem canonicalFields_eq_map (fields : Fields) :
    canonicalFields fields = fields.map fun f => (f.1, canonical f.2) := by
  induction fields with
  | nil => rfl
  | cons f fields ih =>
      obtain ⟨k, j⟩ := f
      rw [canonicalFields, ih, List.map_cons]

theorem canonicalFields_sortFields (fields : Fields) :
    canonicalFields (sortFields fields) = sortFields (canonicalFields fields) := by
  rw [canonicalFields_eq_map, canonicalFields_eq_map]
  exact (sortFields_map (g := fun f => (f.1, canonical f.2)) (fun _ => rfl) fields).symm

mutual

theorem canonical_canonical : ∀ j : Json, canonical (canonical j) = canonical j
  | .null | .bool _ | .int _ | .float _ | .str _ => rfl
  | .arr items => by
      simp only [canonical]
      rw [canonicalItems_canonicalItems items]
  | .obj fields => by
      simp only [canonical]
      rw [canonicalFields_sortFields, sortFields_sortFields, canonicalFields_canonicalFields fields]

theorem canonicalItems_canonicalItems : ∀ items : List Json,
    canonicalItems (canonicalItems items) = canonicalItems items
  | [] => rfl
  | j :: items => by
      simp only [canonicalItems]
      rw [canonical_canonical j, canonicalItems_canonicalItems items]

theorem canonicalFields_canonicalFields : ∀ fields : Fields,
    canonicalFields (canonicalFields fields) = canonicalFields fields
  | [] => rfl
  | (k, j) :: fields => by
      simp only [canonicalFields]
      rw [canonical_canonical j, canonicalFields_canonicalFields fields]

end

theorem lookup_map (g : String → Json → Json) (fields : Fields) (name : String) :
    lookup (fields.map fun f => (f.1, g f.1 f.2)) name = (lookup fields name).map (g name) := by
  induction fields with
  | nil => rfl
  | cons f fields ih =>
      simp only [lookup, List.map_cons, List.find?_cons] at ih ⊢
      cases hf : f.1 == name with
      | true =>
          rw [beq_iff_eq.mp hf]
          rfl
      | false => exact ih

theorem lookup_canonicalFields (fields : Fields) (name : String) :
    lookup (canonicalFields fields) name = (lookup fields name).map canonical := by
  rw [canonicalFields_eq_map]
  exact lookup_map (fun _ => canonical) fields name

end Canonical

section Lookup

@[simp] theorem lookup_nil (name : String) : lookup [] name = none := rfl

@[simp] theorem lookup_cons (k name : String) (j : Json) (fields : Fields) :
    lookup ((k, j) :: fields) name = if k = name then some j else lookup fields name := by
  by_cases hk : k = name <;> simp [lookup, hk]

/-- A choice of fields is invisible to a reader of a name that it keeps. -/
theorem lookup_filter {p : String × Json → Bool} {name : String} (hp : ∀ j, p (name, j) = true)
    (fields : Fields) : lookup (fields.filter p) name = lookup fields name := by
  unfold lookup
  rw [List.find?_filter]
  congr 2
  funext f
  by_cases hf : f.1 = name
  · have hpf : p f = true := by
      rw [← hp f.2, ← hf]
    simp [hf, hpf]
  · simp [hf]

/-- A choice of fields hides the names that it leaves out. -/
theorem lookup_filter_eq_none {p : String × Json → Bool} {name : String}
    (hp : ∀ j, p (name, j) = false) (fields : Fields) :
    lookup (fields.filter p) name = none := by
  unfold lookup
  rw [List.find?_filter, Option.map_eq_none_iff, List.find?_eq_none]
  rintro ⟨k, j⟩ - hf
  simp only [Bool.decide_and, Bool.decide_eq_true, Bool.and_eq_true, beq_iff_eq,
    decide_eq_true_eq] at hf
  obtain ⟨hpf, rfl⟩ := hf
  rw [hp j] at hpf
  cases hpf

end Lookup

section Assign

variable {fields : Fields} {name : String} {value : Json}

theorem filter_replace {p : String × Json → Bool} (hp : ∀ j, p (name, j) = false) :
    (fields.map fun f => if f.1 == name then (name, value) else f).filter p = fields.filter p := by
  induction fields with
  | nil => rfl
  | cons f fields ih =>
      obtain ⟨k, j⟩ := f
      rw [List.map_cons, List.filter_cons, List.filter_cons, ih]
      by_cases hk : k = name
      · subst hk
        simp [hp]
      · simp [hk]

/-- An assignment is invisible to a choice of fields that leaves its name out. -/
theorem filter_assign {p : String × Json → Bool} (hp : ∀ j, p (name, j) = false) :
    (assign fields name value).filter p = fields.filter p := by
  unfold assign
  split
  · exact filter_replace hp
  · simp [hp]

theorem lookup_assign_self : lookup (assign fields name value) name = some value := by
  unfold assign
  split
  · rename_i hany
    induction fields with
    | nil => cases hany
    | cons f fields ih =>
        obtain ⟨k, j⟩ := f
        by_cases hk : k = name
        · simp [lookup, hk]
        · simp only [List.any_cons, Bool.or_eq_true, beq_iff_eq, hk, false_or] at hany
          simpa [lookup, hk] using ih (by simpa using hany)
  · rename_i hnone
    simp only [List.any_eq_true, beq_iff_eq, not_exists, not_and] at hnone
    have hmissing : fields.find? (fun f => f.1 == name) = none := by
      simpa [List.find?_eq_none] using hnone
    simp [lookup, List.find?_append, hmissing]

theorem lookup_assign_of_ne {other : String} (hne : other ≠ name) :
    lookup (assign fields name value) other = lookup fields other := by
  unfold lookup
  rw [← List.head?_filter, ← List.head?_filter, filter_assign]
  intro j
  simpa using hne.symm

/-- An assignment keeps the names, with its own one. -/
theorem names_assign : (assign fields name value).map Prod.fst =
    if name ∈ fields.map Prod.fst then fields.map Prod.fst else fields.map Prod.fst ++ [name] := by
  have hany : (fields.any fun f => f.1 == name) = true ↔ name ∈ fields.map Prod.fst := by
    simp [List.mem_map]
  unfold assign
  simp only [hany]
  split
  · rw [List.map_map]
    refine List.map_congr_left fun f _ => ?_
    by_cases hf : f.1 = name <;> simp [hf]
  · simp

theorem mem_of_mem_assign {f : String × Json} (h : f ∈ assign fields name value) :
    f ∈ fields ∨ f = (name, value) := by
  unfold assign at h
  split at h
  · obtain ⟨g, hg, rfl⟩ := List.mem_map.mp h
    split
    · exact Or.inr rfl
    · exact Or.inl hg
  · simpa using h

end Assign

section Dictionaries

/-- No two fields have the same name. -/
def Distinct (fields : Fields) : Prop := (fields.map Prod.fst).Nodup

theorem lookup_eq_some_iff {fields : Fields} (h : Distinct fields) {name : String}
    {j : Json} : lookup fields name = some j ↔ (name, j) ∈ fields := by
  induction fields with
  | nil => simp [lookup]
  | cons f fields ih =>
      obtain ⟨hnew, hrest⟩ := List.nodup_cons.mp h
      simp only [lookup, List.find?_cons, List.mem_cons] at ih ⊢
      cases hf : f.1 == name with
      | true =>
          have hname := beq_iff_eq.mp hf
          have hnot : (name, j) ∉ fields := fun hin =>
            hnew (hname ▸ List.mem_map_of_mem hin)
          rw [or_iff_left hnot, Prod.ext_iff]
          simp [hname, eq_comm]
      | false =>
          have hne : (name, j) ≠ f := by
            rintro rfl
            simp at hf
          simpa [hne] using ih hrest

theorem distinct_assign {fields : Fields} (h : Distinct fields) (name : String)
    (value : Json) : Distinct (assign fields name value) := by
  unfold Distinct at h ⊢
  rw [names_assign]
  split
  · exact h
  · rename_i hnew
    refine List.nodup_append.mpr ⟨h, List.nodup_singleton name, fun k hk l hl => ?_⟩
    rintro rfl
    exact hnew (List.mem_singleton.mp hl ▸ hk)

/-- Dictionaries with the same entries have the same sorted fields. -/
theorem sortFields_eq_of_lookup {xs ys : Fields} (hxs : Distinct xs)
    (hys : Distinct ys) (h : ∀ name, lookup xs name = lookup ys name) :
    sortFields xs = sortFields ys := by
  have hperm : xs.Perm ys := by
    refine (List.perm_ext_iff_of_nodup hxs.of_map hys.of_map).mpr fun ⟨name, j⟩ => ?_
    rw [← lookup_eq_some_iff hxs, ← lookup_eq_some_iff hys, h]
  have hsorted : (sortFields xs).Perm (sortFields ys) :=
    ((List.perm_insertionSort fieldLe xs).trans hperm).trans
      (List.perm_insertionSort fieldLe ys).symm
  refine hsorted.eq_of_pairwise (fun a b ha hb hab hba => ?_) (sortFields_pairwise xs)
    (sortFields_pairwise ys)
  have hname : a.1 = b.1 := le_antisymm hab hba
  have ha' := hperm.mem_iff.mp (mem_sortFields.mp ha)
  exact List.inj_on_of_nodup_map hys ha' (mem_sortFields.mp hb) hname

end Dictionaries

section Texts

theorem sortedTexts_eq_of_perm {as bs : List String} (h : as.Perm bs) :
    sortedTexts as = sortedTexts bs := by
  unfold sortedTexts
  have hsorted : ∀ texts : List String,
      (texts.insertionSort fun a b => a ≤ b).Pairwise (fun a b => a ≤ b) :=
    List.pairwise_insertionSort _
  have hperm := ((List.perm_insertionSort (fun a b : String => a ≤ b) as).trans h).trans
    (List.perm_insertionSort (fun a b : String => a ≤ b) bs).symm
  exact hperm.eq_of_pairwise (fun a b _ _ hab hba => le_antisymm hab hba) (hsorted as) (hsorted bs)

@[simp] theorem sortedTexts_sortedTexts (texts : List String) :
    sortedTexts (sortedTexts texts) = sortedTexts texts :=
  sortedTexts_eq_of_perm (List.perm_insertionSort _ texts)

/-- Lists with the same texts have the same sorted set. -/
theorem sortedSet_eq_of_mem {as bs : List String} (h : ∀ x, x ∈ as ↔ x ∈ bs) :
    sortedSet as = sortedSet bs := by
  refine sortedTexts_eq_of_perm ((List.perm_ext_iff_of_nodup as.nodup_dedup bs.nodup_dedup).mpr ?_)
  intro x
  rw [List.mem_dedup, List.mem_dedup, h]

theorem canonical_ofTexts (texts : List String) : canonical (ofTexts texts) = ofTexts texts := by
  simp only [ofTexts, canonical, canonicalItems_eq_map, List.map_map]
  rfl

end Texts

end Encoding
