import LotusReport.Relational.Ranking
import Mathlib.Data.List.Perm.Subperm

/-!
# Summaries of a sequence of parts

Two ways to sum up what a sequence of parts says: the least of all their elements, of
which each part need only contribute its own least, and the first value that a part
offers, with which the later ones are compared.
-/

namespace Relational

section Least

variable {α β : Type} [LinearOrder α] {k : Nat}

/-- An element is among the first `k` of a strictly sorted list if fewer than `k` lie below it. -/
theorem mem_take_sorted_iff {l : List α} (h : l.Pairwise (· < ·)) {x : α} :
    x ∈ l.take k ↔ x ∈ l ∧ (l.filter (· < x)).length < k := by
  rw [← List.countP_eq_length_filter]
  exact @mem_take_iff _ _ _ id l h k x

variable {sort : List α → List α} (hsorted : ∀ l, (sort l).Pairwise (· < ·))
  (hmem : ∀ l x, x ∈ sort l ↔ x ∈ l)
include hsorted hmem

/-- More elements, more of them below one. -/
theorem length_below_mono {l m : List α} {x : α} (h : ∀ y ∈ l, y < x → y ∈ m) :
    ((sort l).filter (· < x)).length ≤ ((sort m).filter (· < x)).length := by
  have hnodup : ((sort l).filter (· < x)).Nodup :=
    ((hsorted l).imp fun hlt => ne_of_lt hlt).filter _
  apply (List.subperm_of_subset hnodup fun y hy => ?_).length_le
  obtain ⟨hy, hlt⟩ := List.mem_filter.mp hy
  exact List.mem_filter.mpr
    ⟨(hmem m y).mpr (h y ((hmem l y).mp hy) (of_decide_eq_true hlt)), hlt⟩

/-- The least of all elements are the least of the least of each part. -/
theorem take_sort_flatMap (k : Nat) (parts : List β) (f : β → List α) :
    (sort (parts.flatMap fun part => (sort (f part)).take k)).take k =
      (sort (parts.flatMap f)).take k := by
  set few := parts.flatMap fun part => (sort (f part)).take k with hfew
  set all := parts.flatMap f with hall
  have hsub : ∀ y ∈ few, y ∈ all := by
    intro y hy
    obtain ⟨part, hpart, hy⟩ := List.mem_flatMap.mp hy
    exact List.mem_flatMap.mpr ⟨part, hpart, (hmem _ y).mp (List.mem_of_mem_take hy)⟩
  have hiff : ∀ x, x ∈ (sort few).take k ↔ x ∈ (sort all).take k := by
    intro x
    rw [mem_take_sorted_iff (hsorted few), mem_take_sorted_iff (hsorted all), hmem, hmem]
    constructor
    · rintro ⟨hx, hcount⟩
      refine ⟨hsub x hx, ?_⟩
      by_contra hnot
      by_cases hleast : ∀ y ∈ all, y < x → y ∈ few
      · exact hnot ((length_below_mono hsorted hmem hleast).trans_lt hcount)
      · push Not at hleast
        -- A part that lost an element below `x` has `k` elements below it among the few.
        obtain ⟨y, hy, hyx, hlost⟩ := hleast
        obtain ⟨part, hpart, hypart⟩ := List.mem_flatMap.mp hy
        have hdropped : y ∉ (sort (f part)).take k := fun hkept =>
          hlost (List.mem_flatMap.mpr ⟨part, hpart, hkept⟩)
        rw [mem_take_sorted_iff (hsorted _), hmem] at hdropped
        have hrank : k ≤ ((sort (f part)).filter (· < y)).length := by
          by_contra hless
          exact hdropped ⟨hypart, not_le.mp hless⟩
        have hlength : ((sort (f part)).take k).length = k := by
          rw [List.length_take]
          exact min_eq_left (hrank.trans (List.length_filter_le _ _))
        have hbelow : ∀ w ∈ (sort (f part)).take k, w ∈ (sort few).filter (· < x) := by
          intro w hw
          refine List.mem_filter.mpr
            ⟨(hmem few w).mpr (List.mem_flatMap.mpr ⟨part, hpart, hw⟩), decide_eq_true ?_⟩
          by_contra hge
          have hwy : y ≤ w := hyx.le.trans (not_lt.mp hge)
          have hmono : ((sort (f part)).filter (· < y)).length ≤
              ((sort (f part)).filter (· < w)).length := by
            apply List.Sublist.length_le
            apply List.monotone_filter_right
            intro z hz
            exact decide_eq_true ((of_decide_eq_true hz).trans_le hwy)
          have hwrank := ((mem_take_sorted_iff (hsorted _)).mp hw).2
          exact absurd (hrank.trans hmono) (not_le.mpr hwrank)
        have hnodup : ((sort (f part)).take k).Nodup :=
          ((hsorted (f part)).imp fun hlt => ne_of_lt hlt).sublist (List.take_sublist _ _)
        have hle := (List.subperm_of_subset hnodup hbelow).length_le
        rw [hlength] at hle
        exact absurd hcount (not_lt.mpr hle)
    · rintro ⟨hx, hcount⟩
      obtain ⟨part, hpart, hxpart⟩ := List.mem_flatMap.mp hx
      refine ⟨List.mem_flatMap.mpr ⟨part, hpart, (mem_take_sorted_iff (hsorted _)).mpr
        ⟨(hmem _ x).mpr hxpart, ?_⟩⟩, ?_⟩
      · exact (length_below_mono hsorted hmem fun y hy _ =>
          List.mem_flatMap.mpr ⟨part, hpart, hy⟩).trans_lt hcount
      · exact (length_below_mono hsorted hmem fun y hy _ => hsub y hy).trans_lt hcount
  have hleft := (hsorted few).sublist (List.take_sublist k _)
  have hright := (hsorted all).sublist (List.take_sublist k _)
  apply List.Perm.eq_of_pairwise (fun a b _ _ hab hba => absurd hab (not_lt.mpr hba.le)) hleft hright
  exact (List.perm_ext_iff_of_nodup (hleft.imp fun hlt => ne_of_lt hlt)
    (hright.imp fun hlt => ne_of_lt hlt)).mpr hiff

end Least

section First

variable {V : Type} (eq : V → V → Prop) (default : Option V)

/-- Some offer differs from the value that is held when it comes; an empty place takes the offer or
else the default. -/
def Clashes : Option V → List (Option V) → Prop
  | _, [] => False
  | held, offer :: offers =>
      (∃ v ∈ held, ∃ w ∈ offer, ¬eq v w) ∨ Clashes (held.or (offer.or default)) offers

variable {eq default}

attribute [local simp] Clashes in
theorem clashes_some {v : V} {offers : List (Option V)} :
    Clashes eq default (some v) offers ↔ ∃ w, some w ∈ offers ∧ ¬eq v w := by
  induction offers with
  | nil => simp [Clashes]
  | cons offer offers ih =>
      rw [Clashes, Option.some_or, ih]
      constructor
      · rintro (⟨v', hv, w, hw, hne⟩ | ⟨w, hw, hne⟩)
        · rw [Option.mem_def] at hv hw
          cases hv
          exact ⟨w, hw ▸ List.mem_cons_self, hne⟩
        · exact ⟨w, List.mem_cons_of_mem _ hw, hne⟩
      · rintro ⟨w, hw, hne⟩
        rcases List.mem_cons.mp hw with rfl | hw
        · exact .inl ⟨v, rfl, w, rfl, hne⟩
        · exact .inr ⟨w, hw, hne⟩

/-- A first offer is held. -/
theorem clashes_offered {v : V} {offers : List (Option V)} :
    Clashes eq default none (some v :: offers) ↔ ∃ w, some w ∈ offers ∧ ¬eq v w := by
  rw [Clashes, Option.none_or, Option.some_or, clashes_some]
  simp

/-- Where the first part offers nothing the default is held. -/
theorem clashes_unoffered {offers : List (Option V)} :
    Clashes eq default none (none :: offers) ↔ Clashes eq default default offers := by
  rw [Clashes, Option.none_or, Option.none_or]
  simp

/-- Offers agree with the first exactly if they agree with each other. -/
theorem pairwise_cons_iff {v : V} {values : List V}
    (hsymm : ∀ w ∈ values, eq v w → eq w v) (htrans : ∀ a b c, eq a b → eq b c → eq a c) :
    (v :: values).Pairwise eq ↔ ∀ w ∈ values, eq v w := by
  rw [List.pairwise_cons]
  refine ⟨And.left, fun h => ⟨h, ?_⟩⟩
  rw [List.pairwise_iff_forall_sublist]
  intro a b hab
  have ha := hab.subset List.mem_cons_self
  have hb := hab.subset (List.mem_cons_of_mem _ List.mem_cons_self)
  exact htrans a v b (hsymm a ha (h a ha)) (h b hb)

/-- Without a default the offers clash exactly if they do not agree with each other. -/
theorem clashes_none_iff {offers : List (Option V)}
    (hsymm : ∀ v w, some v ∈ offers → some w ∈ offers → eq v w → eq w v)
    (htrans : ∀ a b c, eq a b → eq b c → eq a c) :
    Clashes eq none none offers ↔ ¬(offers.filterMap id).Pairwise eq := by
  induction offers with
  | nil => simp [Clashes]
  | cons offer offers ih =>
      cases offer with
      | none =>
          rw [clashes_unoffered, List.filterMap_cons, ih fun v w hv hw =>
            hsymm v w (List.mem_cons_of_mem _ hv) (List.mem_cons_of_mem _ hw)]
          rfl
      | some v =>
          rw [clashes_offered, List.filterMap_cons]
          change _ ↔ ¬(v :: offers.filterMap id).Pairwise eq
          rw [pairwise_cons_iff _ htrans]
          · push Not
            simp only [List.mem_filterMap, id, exists_eq_right]
          · intro w hw
            simp only [List.mem_filterMap, id, exists_eq_right] at hw
            exact hsymm v w List.mem_cons_self (List.mem_cons_of_mem _ hw)

end First

end Relational
