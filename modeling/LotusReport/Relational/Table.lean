import Mathlib.Algebra.GroupWithZero.Nat
import Mathlib.Data.List.Nodup
import Mathlib.Data.List.Perm.Subperm
import Mathlib.Data.List.Basic

/-!
# Tables with a primary key and a unique index

A table is the list of its rows in insertion order. Both constraints are
fields, so a table that breaks one cannot be built: `insert?` refuses a
conflicting row and `put` replaces only the row that agrees on both keys.
-/

namespace Relational

/-- Searching a list by a column whose values are distinct finds the one row with that value. -/
theorem find?_column_eq_some_iff {ρ κ : Type*} [DecidableEq κ] {column : ρ → κ} {rows : List ρ}
    (hn : (rows.map column).Nodup) (k : κ) (r : ρ) :
    (rows.find? fun r => decide (column r = k)) = some r ↔ r ∈ rows ∧ column r = k := by
  constructor
  · intro h
    exact ⟨List.mem_of_find?_eq_some h, by simpa using List.find?_some h⟩
  · rintro ⟨hr, rfl⟩
    cases h : rows.find? fun r' => decide (column r' = column r) with
    | none =>
        have := List.find?_eq_none.mp h r hr
        simp at this
    | some r' =>
        have hk : column r' = column r := by simpa using List.find?_some h
        exact congrArg some (List.inj_on_of_nodup_map hn (List.mem_of_find?_eq_some h) hr hk)

/-- Rows in insertion order, distinct in `key` and distinct in `index`. -/
structure Table {ρ κ ι : Type*} (key : ρ → κ) (index : ρ → ι) where
  rows : List ρ
  key_nodup : (rows.map key).Nodup
  index_nodup : (rows.map index).Nodup

namespace Table

variable {ρ κ ι : Type*} {key : ρ → κ} {index : ρ → ι}

@[ext] theorem ext {t u : Table key index} (h : t.rows = u.rows) : t = u := by
  cases t
  cases u
  simp_all

instance [DecidableEq ρ] : DecidableEq (Table key index) := fun t u =>
  decidable_of_iff (t.rows = u.rows) ⟨ext, fun h => h ▸ rfl⟩

/-- The table without rows. -/
def empty : Table key index := ⟨[], by simp, by simp⟩

@[simp] theorem rows_empty : (empty : Table key index).rows = [] := rfl

section Select

variable [DecidableEq κ]

/-- Select by primary key. -/
def find? (t : Table key index) (k : κ) : Option ρ :=
  t.rows.find? fun r => decide (key r = k)

theorem find?_eq_some_iff (t : Table key index) (k : κ) (r : ρ) :
    t.find? k = some r ↔ r ∈ t.rows ∧ key r = k :=
  find?_column_eq_some_iff t.key_nodup k r

theorem find?_eq_none_iff (t : Table key index) (k : κ) :
    t.find? k = none ↔ ∀ r ∈ t.rows, key r ≠ k := by
  simp [find?, List.find?_eq_none]

theorem mem_of_find? {t : Table key index} {k : κ} {r : ρ} (h : t.find? k = some r) :
    r ∈ t.rows := ((t.find?_eq_some_iff k r).mp h).1

theorem key_of_find? {t : Table key index} {k : κ} {r : ρ} (h : t.find? k = some r) :
    key r = k := ((t.find?_eq_some_iff k r).mp h).2

theorem find?_key {t : Table key index} {r : ρ} (h : r ∈ t.rows) :
    t.find? (key r) = some r := (t.find?_eq_some_iff _ _).mpr ⟨h, rfl⟩

@[simp] theorem find?_empty (k : κ) : (empty : Table key index).find? k = none := rfl

end Select

section SelectIndex

variable [DecidableEq ι]

/-- Select by the unique index. -/
def lookup? (t : Table key index) (i : ι) : Option ρ :=
  t.rows.find? fun r => decide (index r = i)

theorem lookup?_eq_some_iff (t : Table key index) (i : ι) (r : ρ) :
    t.lookup? i = some r ↔ r ∈ t.rows ∧ index r = i :=
  find?_column_eq_some_iff t.index_nodup i r

theorem lookup?_eq_none_iff (t : Table key index) (i : ι) :
    t.lookup? i = none ↔ ∀ r ∈ t.rows, index r ≠ i := by
  simp [lookup?, List.find?_eq_none]

theorem mem_of_lookup? {t : Table key index} {i : ι} {r : ρ} (h : t.lookup? i = some r) :
    r ∈ t.rows := ((t.lookup?_eq_some_iff i r).mp h).1

theorem index_of_lookup? {t : Table key index} {i : ι} {r : ρ}
    (h : t.lookup? i = some r) : index r = i := ((t.lookup?_eq_some_iff i r).mp h).2

theorem lookup?_index {t : Table key index} {r : ρ} (h : r ∈ t.rows) :
    t.lookup? (index r) = some r := (t.lookup?_eq_some_iff _ _).mpr ⟨h, rfl⟩

@[simp] theorem lookup?_empty (i : ι) : (empty : Table key index).lookup? i = none := rfl

end SelectIndex

variable [DecidableEq κ] [DecidableEq ι]

/-- Append a row, unless it conflicts with a stored row in either key. -/
def insert? (t : Table key index) (r : ρ) : Option (Table key index) :=
  if h : key r ∈ t.rows.map key ∨ index r ∈ t.rows.map index then none
  else some
    { rows := t.rows ++ [r]
      key_nodup := by
        rw [List.map_append, List.map_singleton, ← List.concat_eq_append]
        exact List.Nodup.concat (fun hk => h (Or.inl hk)) t.key_nodup
      index_nodup := by
        rw [List.map_append, List.map_singleton, ← List.concat_eq_append]
        exact List.Nodup.concat (fun hi => h (Or.inr hi)) t.index_nodup }

theorem insert?_eq_some_iff (t u : Table key index) (r : ρ) :
    t.insert? r = some u ↔
      t.find? (key r) = none ∧ t.lookup? (index r) = none ∧ u.rows = t.rows ++ [r] := by
  unfold insert?
  split
  · rename_i h
    simp only [reduceCtorEq, find?_eq_none_iff, lookup?_eq_none_iff, false_iff, not_and]
    rcases h with h | h
    · obtain ⟨r', hr', hk⟩ := List.mem_map.mp h
      exact fun hnone => absurd hk (hnone r' hr')
    · obtain ⟨r', hr', hi⟩ := List.mem_map.mp h
      exact fun _ hnone => absurd hi (hnone r' hr')
  · rename_i h
    simp only [not_or, List.mem_map, not_exists, not_and] at h
    simp only [Option.some.injEq, find?_eq_none_iff, lookup?_eq_none_iff]
    constructor
    · rintro rfl
      exact ⟨h.1, h.2, rfl⟩
    · rintro ⟨-, -, hu⟩
      exact ext hu.symm

theorem insert?_eq_none_iff (t : Table key index) (r : ρ) :
    t.insert? r = none ↔ ¬ (t.find? (key r) = none ∧ t.lookup? (index r) = none) := by
  cases h : t.insert? r with
  | none =>
      simp only [true_iff]
      rintro ⟨hk, hi⟩
      rw [find?_eq_none_iff] at hk
      rw [lookup?_eq_none_iff] at hi
      simp only [insert?, dite_eq_left_iff, reduceCtorEq, imp_false, Decidable.not_not,
        List.mem_map] at h
      rcases h with ⟨r', hr', heq⟩ | ⟨r', hr', heq⟩
      · exact hk r' hr' heq
      · exact hi r' hr' heq
  | some u =>
      obtain ⟨hk, hi, -⟩ := (insert?_eq_some_iff t u r).mp h
      simp [hk, hi]

theorem find?_insert? {t u : Table key index} {r : ρ} (h : t.insert? r = some u) (k : κ) :
    u.find? k = if key r = k then some r else t.find? k := by
  obtain ⟨hnone, -, hu⟩ := (insert?_eq_some_iff t u r).mp h
  unfold find? at hnone ⊢
  rw [hu, List.find?_append]
  split
  · rename_i hk
    rw [← hk, hnone]
    simp
  · rename_i hk
    simp [hk]

theorem lookup?_insert? {t u : Table key index} {r : ρ} (h : t.insert? r = some u) (i : ι) :
    u.lookup? i = if index r = i then some r else t.lookup? i := by
  obtain ⟨-, hnone, hu⟩ := (insert?_eq_some_iff t u r).mp h
  unfold lookup? at hnone ⊢
  rw [hu, List.find?_append]
  split
  · rename_i hi
    rw [← hi, hnone]
    simp
  · rename_i hi
    simp [hi]

/-- The row written in place of `r` when `new` is stored. -/
def written (key : ρ → κ) (index : ρ → ι) (new r : ρ) : ρ :=
  if key r = key new ∧ index r = index new then new else r

theorem key_written (new r : ρ) : key (written key index new r) = key r := by
  unfold written
  split
  · rename_i h
    exact h.1.symm
  · rfl

theorem index_written (new r : ρ) : index (written key index new r) = index r := by
  unfold written
  split
  · rename_i h
    exact h.2.symm
  · rfl

/-- Replace the stored row that has both keys of `new`. -/
def put (t : Table key index) (new : ρ) : Table key index where
  rows := t.rows.map (written key index new)
  key_nodup := by
    have hk : key ∘ written key index new = key := funext fun r => key_written new r
    rw [List.map_map, hk]
    exact t.key_nodup
  index_nodup := by
    have hi : index ∘ written key index new = index := funext fun r => index_written new r
    rw [List.map_map, hi]
    exact t.index_nodup

@[simp] theorem rows_put (t : Table key index) (new : ρ) :
    (t.put new).rows = t.rows.map (written key index new) := rfl

/-- Storing a stored row again changes nothing. -/
theorem put_self {t : Table key index} {r : ρ} (hr : r ∈ t.rows) : t.put r = t := by
  apply ext
  rw [rows_put]
  conv_rhs => rw [← List.map_id t.rows]
  apply List.map_congr_left
  intro r' hr'
  unfold written
  split
  · rename_i h
    exact (List.inj_on_of_nodup_map t.key_nodup hr' hr h.1).symm
  · rfl

omit [DecidableEq ι] in
private theorem find?_map_column {column : ρ → κ} (rows : List ρ) (f : ρ → ρ)
    (hf : ∀ r, column (f r) = column r) (k : κ) :
    ((rows.map f).find? fun r => decide (column r = k)) =
      (rows.find? fun r => decide (column r = k)).map f := by
  rw [List.find?_map]
  congr 1
  congr 1
  funext r
  simp [hf r]

/-- Storing a changed copy of a selected row changes exactly that selection. -/
theorem find?_put {t : Table key index} {r new : ρ} (hr : r ∈ t.rows)
    (hk : key new = key r) (hi : index new = index r) (k : κ) :
    (t.put new).find? k = if key r = k then some new else t.find? k := by
  have hmap : (t.put new).find? k = (t.find? k).map (written key index new) :=
    find?_map_column t.rows _ (key_written new) k
  rw [hmap]
  split
  · rename_i h
    rw [← h, find?_key hr, Option.map_some]
    simp [written, hk, hi]
  · rename_i h
    cases hf : t.find? k with
    | none => rfl
    | some r' =>
        have hk' : key r' ≠ key new := fun he => h (hk.symm.trans (he.symm.trans (key_of_find? hf)))
        simp [written, hk']

theorem lookup?_put {t : Table key index} {r new : ρ} (hr : r ∈ t.rows)
    (hk : key new = key r) (hi : index new = index r) (i : ι) :
    (t.put new).lookup? i = if index r = i then some new else t.lookup? i := by
  have hmap : (t.put new).lookup? i = (t.lookup? i).map (written key index new) :=
    find?_map_column t.rows _ (index_written new) i
  rw [hmap]
  split
  · rename_i h
    rw [← h, lookup?_index hr, Option.map_some]
    simp [written, hk, hi]
  · rename_i h
    cases hf : t.lookup? i with
    | none => rfl
    | some r' =>
        have hi' : index r' ≠ index new :=
          fun he => h (hi.symm.trans (he.symm.trans (index_of_lookup? hf)))
        simp [written, hi']

/-- The rows after a changed copy of a stored row was put in its place. -/
theorem mem_rows_put {t : Table key index} {r new r' : ρ} (hr : r ∈ t.rows)
    (hk : key new = key r) (hi : index new = index r) :
    r' ∈ (t.put new).rows ↔ r' = new ∨ r' ∈ t.rows ∧ key r' ≠ key new := by
  have hfind := find?_put hr hk hi
  constructor
  · intro hr'
    have hself := find?_key hr'
    rw [hfind] at hself
    split at hself
    · exact Or.inl (Option.some.inj hself).symm
    · rename_i hne
      exact Or.inr ⟨mem_of_find? hself, fun heq => hne (hk.symm.trans heq.symm)⟩
  · rintro (rfl | ⟨hr', hne⟩)
    · apply mem_of_find? (k := key r')
      rw [hfind, if_pos hk.symm]
    · apply mem_of_find? (k := key r')
      rw [hfind, if_neg (fun heq => hne (heq.symm.trans hk.symm)), find?_key hr']

section Sum

/-- A sum over the rows with one row stored anew changes by that row's amount. -/
theorem sum_put {t : Table key index} {r new : ρ} (hr : r ∈ t.rows) (hk : key new = key r)
    (hi : index new = index r) (amount : ρ → Nat) :
    ((t.put new).rows.map amount).sum + amount r = (t.rows.map amount).sum + amount new := by
  have hself : written key index new r = new := if_pos ⟨hk.symm, hi.symm⟩
  obtain ⟨before, after, hrows⟩ := List.append_of_mem hr
  have hnodup := t.key_nodup.of_map
  rw [hrows] at hnodup
  have hkept : ∀ part : List ρ, (∀ r' ∈ part, r' ∈ t.rows ∧ r' ≠ r) →
      part.map (written key index new) = part := by
    intro part hpart
    conv_rhs => rw [← List.map_id part]
    apply List.map_congr_left
    intro r' hr'
    apply if_neg
    intro h
    exact (hpart r' hr').2
      (List.inj_on_of_nodup_map t.key_nodup (hpart r' hr').1 hr (h.1.trans hk))
  have hbefore : before.map (written key index new) = before := by
    apply hkept
    intro r' hr'
    refine ⟨by simp [hrows, hr'], ?_⟩
    exact (List.nodup_append.mp hnodup).2.2 r' hr' r List.mem_cons_self
  have hafter : after.map (written key index new) = after := by
    apply hkept
    intro r' hr'
    refine ⟨by simp [hrows, hr'], ?_⟩
    rintro rfl
    exact (List.nodup_cons.mp (List.nodup_append.mp hnodup).2.1).1 hr'
  rw [rows_put, hrows]
  simp only [List.map_append, List.map_cons, hbefore, hafter, hself, List.sum_append,
    List.sum_cons]
  omega

end Sum

section Update

omit [DecidableEq κ] [DecidableEq ι]

/-- An assignment of columns that leaves both keys alone. -/
structure Assignment {ρ κ ι : Type*} (key : ρ → κ) (index : ρ → ι) where
  set : ρ → ρ
  key_set : ∀ r, key (set r) = key r
  index_set : ∀ r, index (set r) = index r

/-- `UPDATE … SET … WHERE …`. -/
def update (t : Table key index) (p : ρ → Bool) (a : Assignment key index) : Table key index where
  rows := t.rows.map fun r => if p r then a.set r else r
  key_nodup := by
    have hk : (key ∘ fun r => if p r then a.set r else r) = key := by
      funext r
      by_cases h : p r <;> simp [h, a.key_set]
    rw [List.map_map, hk]
    exact t.key_nodup
  index_nodup := by
    have hi : (index ∘ fun r => if p r then a.set r else r) = index := by
      funext r
      by_cases h : p r <;> simp [h, a.index_set]
    rw [List.map_map, hi]
    exact t.index_nodup

/-- An updated table holds the untouched rows and the assigned ones. -/
theorem mem_update {t : Table key index} {p : ρ → Bool} {a : Assignment key index} {r : ρ} :
    r ∈ (t.update p a).rows ↔
      r ∈ t.rows ∧ p r = false ∨ ∃ r' ∈ t.rows, p r' = true ∧ a.set r' = r := by
  simp only [update, List.mem_map]
  constructor
  · rintro ⟨r', hr', rfl⟩
    cases hp : p r' with
    | false => exact Or.inl ⟨by simpa [hp] using hr', by simp [hp]⟩
    | true => exact Or.inr ⟨r', hr', hp, by simp⟩
  · rintro (⟨hr, hp⟩ | ⟨r', hr', hp, rfl⟩)
    · exact ⟨r, hr, by simp [hp]⟩
    · exact ⟨r', hr', by simp [hp]⟩

/-- An update after which no row is counted that was not counted before. -/
theorem countP_update_le {t : Table key index} {p q : ρ → Bool} {a : Assignment key index}
    (h : ∀ r ∈ t.rows, p r = true → q (a.set r) = true → q r = true) :
    (t.update p a).rows.countP q ≤ t.rows.countP q := by
  rw [update, List.countP_map]
  apply List.countP_mono_left
  intro r hr hq
  by_cases hp : p r = true
  · rw [Function.comp_apply, if_pos hp] at hq
    exact h r hr hp hq
  · rwa [Function.comp_apply, if_neg hp] at hq

/-- An update makes at most the rows that it changes count. -/
theorem countP_update_le_add (t : Table key index) (p q : ρ → Bool) (a : Assignment key index) :
    (t.update p a).rows.countP q ≤ t.rows.countP q + t.rows.countP p := by
  rw [update, List.countP_map]
  induction t.rows with
  | nil => simp
  | cons r rows ih =>
      simp only [List.countP_cons, Function.comp_apply]
      by_cases hp : p r = true
      · simp only [if_pos hp]
        split <;> split <;> omega
      · simp only [if_neg hp]
        omega

/-- An update whose condition no row meets changes nothing. -/
theorem update_of_none {t : Table key index} {p : ρ → Bool} {a : Assignment key index}
    (h : ∀ r ∈ t.rows, p r = false) : t.update p a = t := by
  apply ext
  simp only [update]
  conv_rhs => rw [← List.map_id t.rows]
  apply List.map_congr_left
  intro r hr
  simp [h r hr]

end Update

omit [DecidableEq ι] in
/-- At most one row stands under each of some keys. -/
theorem countP_key_mem_le (t : Table key index) (keys : List κ) :
    t.rows.countP (fun r => key r ∈ keys) ≤ keys.length := by
  have hsub : (t.rows.filter fun r => key r ∈ keys).map key ⊆ keys := by
    intro k hk
    obtain ⟨r, hr, rfl⟩ := List.mem_map.mp hk
    simpa using (List.mem_filter.mp hr).2
  have hnodup : ((t.rows.filter fun r => key r ∈ keys).map key).Nodup :=
    (List.filter_sublist.map key).nodup t.key_nodup
  have hlength := (List.Nodup.subperm hnodup hsub).length_le
  rwa [List.length_map, ← List.countP_eq_length_filter] at hlength

section Replace

/-- The row under the new row's key is replaced by it. -/
def replaced (key : ρ → κ) (new r : ρ) : ρ := if key r = key new then new else r

theorem key_replaced (new r : ρ) : key (replaced key new r) = key r := by
  unfold replaced
  split
  · rename_i h
    exact h.symm
  · rfl

omit [DecidableEq ι] in
theorem nodup_index_replaced (t : Table key index) {new : ρ}
    (h : ∀ r ∈ t.rows, index r = index new → key r = key new) :
    ((t.rows.map (replaced key new)).map index).Nodup := by
  have hkey : ∀ x ∈ t.rows, ∀ y ∈ t.rows, key x = key y → x = y :=
    fun x hx y hy hxy => List.inj_on_of_nodup_map t.key_nodup hx hy hxy
  rw [List.map_map]
  refine List.Nodup.map_on (fun x hx y hy hxy => ?_) t.key_nodup.of_map
  simp only [Function.comp_apply, replaced] at hxy
  by_cases hx' : key x = key new <;> by_cases hy' : key y = key new
  · exact hkey x hx y hy (hx'.trans hy'.symm)
  · rw [if_pos hx', if_neg hy'] at hxy
    exact absurd (h y hy hxy.symm) hy'
  · rw [if_neg hx', if_pos hy'] at hxy
    exact absurd (h x hx hxy) hx'
  · rw [if_neg hx', if_neg hy'] at hxy
    exact List.inj_on_of_nodup_map t.index_nodup hx hy hxy

/-- Replace the row under the new row's key, unless another row holds the new index value. -/
def replace? (t : Table key index) (new : ρ) : Option (Table key index) :=
  if h : ∀ r ∈ t.rows, index r = index new → key r = key new then
    some
      { rows := t.rows.map (replaced key new)
        key_nodup := by
          have hk : key ∘ replaced key new = key := funext fun r => key_replaced new r
          rw [List.map_map, hk]
          exact t.key_nodup
        index_nodup := t.nodup_index_replaced h }
  else none

theorem rows_replace? {t u : Table key index} {new : ρ} (h : t.replace? new = some u) :
    u.rows = t.rows.map (replaced key new) := by
  unfold replace? at h
  split at h
  · rw [← Option.some.inj h]
  · cases h

theorem mem_replace? {t u : Table key index} {new r : ρ} (h : t.replace? new = some u)
    (hr : r ∈ u.rows) : r = new ∨ r ∈ t.rows ∧ key r ≠ key new := by
  rw [rows_replace? h] at hr
  obtain ⟨r', hr', rfl⟩ := List.mem_map.mp hr
  by_cases hk : key r' = key new
  · exact Or.inl (if_pos hk)
  · rw [replaced, if_neg hk]
    exact Or.inr ⟨hr', hk⟩

end Replace

end Table

end Relational
