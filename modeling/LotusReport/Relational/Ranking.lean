import Mathlib.Data.List.Sort
import Mathlib.Data.Prod.Lex
import Mathlib.Data.String.Basic

/-!
# The first rows of a ranking

A query that ranks only some of the rows still shows the first `n` of all rows
exactly when every row that it leaves out has `n` rows before it. A query that
selects and orders by other conditions than those that are meant shows the page
that is meant exactly when it selects every row due there, early enough and in
the same order.
-/

namespace Relational

variable {α κ : Type*} [LinearOrder κ] {key : α → κ}

/-- `sorted(rows, key=key)`. -/
def ranked (key : α → κ) (rows : List α) : List α := rows.insertionSort fun a b => key a ≤ key b

theorem perm_ranked (key : α → κ) (rows : List α) : (ranked key rows).Perm rows :=
  List.perm_insertionSort _ rows

theorem pairwise_le_ranked (key : α → κ) (rows : List α) :
    (ranked key rows).Pairwise fun a b => key a ≤ key b := by
  have : Std.Total fun a b : α => key a ≤ key b := ⟨fun a b => le_total (key a) (key b)⟩
  have : IsTrans α fun a b => key a ≤ key b := ⟨fun _ _ _ => le_trans⟩
  exact List.pairwise_insertionSort _ rows

/-- Rows with distinct keys are ranked strictly. -/
theorem pairwise_ranked {rows : List α} (h : (rows.map key).Nodup) :
    (ranked key rows).Pairwise fun a b => key a < key b := by
  have hne : (ranked key rows).Pairwise fun a b => key a ≠ key b := by
    rw [← List.pairwise_map]
    exact ((perm_ranked key rows).map key).nodup_iff.mpr h
  exact ((pairwise_le_ranked key rows).and hne).imp fun ⟨hle, hne⟩ => lt_of_le_of_ne hle hne

/-- A row is among the first `n` of a strict ranking when fewer than `n` rows stand before it. -/
theorem mem_take_iff {rows : List α} (hrows : rows.Pairwise fun a b => key a < key b) (n : Nat)
    (a : α) : a ∈ rows.take n ↔ a ∈ rows ∧ (rows.countP fun b => key b < key a) < n := by
  induction rows generalizing n with
  | nil => simp
  | cons first rows ih =>
      obtain ⟨hfirst, hrest⟩ := List.pairwise_cons.mp hrows
      cases n with
      | zero => simp
      | succ n =>
          rw [List.take_succ_cons, List.mem_cons, List.mem_cons, ih hrest]
          constructor
          · rintro (rfl | ⟨ha, hcount⟩)
            · refine ⟨Or.inl rfl, ?_⟩
              rw [List.countP_cons_of_neg (by simp), List.countP_eq_zero.mpr]
              · omega
              · intro b hb
                simpa using (hfirst b hb).le
            · refine ⟨Or.inr ha, ?_⟩
              rw [List.countP_cons_of_pos (by simpa using hfirst a ha)]
              omega
          · rintro ⟨rfl | ha, hcount⟩
            · exact Or.inl rfl
            · rw [List.countP_cons_of_pos (by simpa using hfirst a ha)] at hcount
              exact Or.inr ⟨ha, by omega⟩

/-- The first rows of a ranking are those with fewer than `n` rows before them. -/
theorem mem_take_ranked_iff {rows : List α} (h : (rows.map key).Nodup) (n : Nat) (a : α) :
    a ∈ (ranked key rows).take n ↔ a ∈ rows ∧ (rows.countP fun b => key b < key a) < n := by
  rw [mem_take_iff (pairwise_ranked h), (perm_ranked key rows).mem_iff,
    (perm_ranked key rows).countP_eq]

/-- The first rows of a part of a ranking. -/
theorem take_eq_take_iff {shown all : List α} (hsub : shown.Sublist all)
    (hall : all.Pairwise fun a b => key a < key b) (n : Nat) :
    shown.take n = all.take n ↔
      ∀ a ∈ all, a ∉ shown → n ≤ all.countP fun b => key b < key a := by
  induction hsub generalizing n with
  | slnil => simp
  | @cons shown all a hsub ih =>
      obtain ⟨hfirst, hrest⟩ := List.pairwise_cons.mp hall
      have hshown : a ∉ shown := fun h => lt_irrefl _ (hfirst a (hsub.subset h))
      cases n with
      | zero => simp
      | succ n =>
          -- the first row is left out, and nothing stands before it
          refine iff_of_false (fun heq => hshown ?_) fun h => ?_
          · apply List.mem_of_mem_take
            rw [heq]
            exact List.mem_cons_self
          · have hcount := h a List.mem_cons_self hshown
            rw [List.countP_eq_zero.mpr] at hcount
            · omega
            · intro b hb
              rcases List.mem_cons.mp hb with rfl | hb
              · simp
              · simpa using (hfirst b hb).le
  | @cons_cons shown all a hsub ih =>
      obtain ⟨hfirst, hrest⟩ := List.pairwise_cons.mp hall
      have hshown : a ∉ shown := fun h => lt_irrefl _ (hfirst a (hsub.subset h))
      cases n with
      | zero => simp
      | succ n =>
          rw [List.take_succ_cons, List.take_succ_cons, List.cons.injEq, and_iff_right rfl, ih hrest]
          constructor
          · intro h b hb hnot
            rcases List.mem_cons.mp hb with rfl | hb
            · exact absurd List.mem_cons_self hnot
            · have hcount := h b hb fun hmem => hnot (List.mem_cons_of_mem a hmem)
              rw [List.countP_cons_of_pos (by simpa using hfirst b hb)]
              omega
          · intro h b hb hnot
            have hne : b ≠ a := by
              rintro rfl
              exact lt_irrefl _ (hfirst b hb)
            have hcount := h b (List.mem_cons_of_mem a hb) fun hmem =>
              (List.mem_cons.mp hmem).elim hne hnot
            rw [List.countP_cons_of_pos (by simpa using hfirst b hb)] at hcount
            omega

/-- A part of the rows shows the first `n` of all rows exactly when every row that is left out has
`n` rows before it. -/
theorem take_ranked_eq_iff {shown all : List α} (hsub : shown.Subperm all)
    (hall : (all.map key).Nodup) (n : Nat) :
    (ranked key shown).take n = (ranked key all).take n ↔
      ∀ a ∈ all, a ∉ shown → n ≤ all.countP fun b => key b < key a := by
  have hshown : (shown.map key).Nodup := by
    obtain ⟨part, hperm, hpart⟩ := hsub
    exact (hperm.map key).nodup_iff.mp ((hpart.map key).nodup hall)
  have hranked : (ranked key shown).Subperm (ranked key all) :=
    ((perm_ranked key shown).subperm.trans hsub).trans (perm_ranked key all).symm.subperm
  have : Std.Antisymm fun a b : α => key a < key b :=
    ⟨fun _ _ hab hba => absurd hba (lt_asymm hab)⟩
  have hsublist := List.sublist_of_subperm_of_pairwise hranked (pairwise_ranked hshown)
    (pairwise_ranked hall)
  rw [take_eq_take_iff hsublist (pairwise_ranked hall) n]
  simp only [(perm_ranked key all).mem_iff, (perm_ranked key shown).mem_iff,
    (perm_ranked key all).countP_eq]

section Pages

variable {κ' : Type*} [LinearOrder κ'] {key' : α → κ'}

/-- A row is due on the page: it meets the condition, and fewer than `n` rows that do stand
before it. -/
def Due (key : α → κ) (keep : α → Bool) (rows : List α) (n : Nat) (a : α) : Prop :=
  a ∈ rows ∧ keep a = true ∧ (rows.countP fun b => keep b && decide (key b < key a)) < n

theorem mem_take_filter_iff {rows : List α} (h : (rows.map key).Nodup) (keep : α → Bool) (n : Nat)
    (a : α) : a ∈ (ranked key (rows.filter keep)).take n ↔ Due key keep rows n a := by
  have hfilter : ((rows.filter keep).map key).Nodup := ((List.filter_sublist).map key).nodup h
  rw [mem_take_ranked_iff hfilter, List.mem_filter, List.countP_filter, Due, and_assoc]
  simp only [Bool.and_comm]

/-- A list in the order of two keys is ordered alike by both. -/
theorem lt_iff_lt_of_pairwise {rows : List α} (h : rows.Pairwise fun a b => key a < key b)
    (h' : rows.Pairwise fun a b => key' a < key' b) {a b : α} (ha : a ∈ rows) (hb : b ∈ rows) :
    key a < key b ↔ key' a < key' b := by
  have hboth : rows.Pairwise fun a b => key a < key b ↔ key' a < key' b :=
    (h.and h').imp fun ⟨hlt, hlt'⟩ => iff_of_true hlt hlt'
  have hflip : rows.Pairwise (flip fun a b => key a < key b ↔ key' a < key' b) :=
    (h.and h').imp fun ⟨hlt, hlt'⟩ => iff_of_false hlt.not_gt hlt'.not_gt
  have hself : ∀ x ∈ rows, (key x < key x ↔ key' x < key' x) :=
    fun _ _ => iff_of_false (lt_irrefl _) (lt_irrefl _)
  exact hboth.forall_of_forall_of_flip hself hflip ha hb

/-- A page that a query cuts by one condition and one order, and that is filtered afterwards, is
the page of another condition and order exactly if every row due there is among the rows the query
cut, and the rows due there are ordered alike. -/
theorem filter_take_ranked_eq_iff {rows : List α} (hkey : (rows.map key).Nodup)
    (hkey' : (rows.map key').Nodup) (select keep : α → Bool) (n : Nat) :
    ((ranked key (rows.filter select)).take n).filter keep =
        (ranked key' (rows.filter keep)).take n ↔
      (∀ a, Due key' keep rows n a → Due key select rows n a) ∧
      ∀ a b, Due key' keep rows n a → Due key' keep rows n b → (key a < key b ↔ key' a < key' b) := by
  have hselect : ((rows.filter select).map key).Nodup := (List.filter_sublist.map key).nodup hkey
  have hkeep : ((rows.filter keep).map key').Nodup := (List.filter_sublist.map key').nodup hkey'
  have hcut : (((ranked key (rows.filter select)).take n).filter keep).Pairwise
      fun a b => key a < key b :=
    ((pairwise_ranked hselect).sublist (List.take_sublist _ _)).sublist List.filter_sublist
  have hdue : ((ranked key' (rows.filter keep)).take n).Pairwise fun a b => key' a < key' b :=
    (pairwise_ranked hkeep).sublist (List.take_sublist _ _)
  constructor
  · intro heq
    constructor
    · intro a ha
      rw [← mem_take_filter_iff hkey', ← heq, List.mem_filter, mem_take_filter_iff hkey] at ha
      exact ha.1
    · intro a b ha hb
      rw [← mem_take_filter_iff hkey'] at ha hb
      exact lt_iff_lt_of_pairwise (heq ▸ hcut) hdue ha hb
  · rintro ⟨hshown, horder⟩
    -- every due row was cut, and the page has no room for more
    have hnodup : ((ranked key' (rows.filter keep)).take n).Nodup :=
      hdue.imp fun hlt => by rintro rfl; exact lt_irrefl _ hlt
    have hnodupCut : (((ranked key (rows.filter select)).take n).filter keep).Nodup :=
      hcut.imp fun hlt => by rintro rfl; exact lt_irrefl _ hlt
    have hsub : (ranked key' (rows.filter keep)).take n ⊆
        ((ranked key (rows.filter select)).take n).filter keep := by
      intro a ha
      rw [mem_take_filter_iff hkey'] at ha
      exact List.mem_filter.mpr ⟨(mem_take_filter_iff hkey select n a).mpr (hshown a ha), ha.2.1⟩
    have hkept : ((ranked key (rows.filter select)).take n).filter keep ⊆ rows.filter keep := by
      intro a ha
      obtain ⟨ha, hk⟩ := List.mem_filter.mp ha
      have hmem := (perm_ranked key _).mem_iff.mp (List.mem_of_mem_take ha)
      exact List.mem_filter.mpr ⟨(List.mem_filter.mp hmem).1, hk⟩
    have hlength : (((ranked key (rows.filter select)).take n).filter keep).length ≤
        ((ranked key' (rows.filter keep)).take n).length := by
      have hroom := List.length_filter_le keep ((ranked key (rows.filter select)).take n)
      have hall := (List.subperm_of_subset hnodupCut hkept).length_le
      rw [List.length_take] at hroom ⊢
      rw [(perm_ranked key' _).length_eq]
      omega
    have hperm := (List.subperm_of_subset hnodup hsub).perm_of_length_le hlength
    have hdueKey : ((ranked key' (rows.filter keep)).take n).Pairwise fun a b => key a < key b :=
      hdue.imp_of_mem fun ha hb hlt =>
        (horder _ _ ((mem_take_filter_iff hkey' keep n _).mp ha)
          ((mem_take_filter_iff hkey' keep n _).mp hb)).mpr hlt
    exact hperm.symm.eq_of_pairwise (fun a b _ _ hab hba => absurd hba hab.not_gt) hcut hdueKey

end Pages

end Relational
