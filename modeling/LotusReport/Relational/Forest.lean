import Mathlib.Logic.Relation
import Mathlib.Order.Basic

/-!
# Forests of derived items

An edge relation in which every item has at most one source and a rank grows
along every edge. The undirected component of an item is then the set of
descendants of one root, and adding an edge to a new item attaches that item
to the component of its source.
-/

namespace Relational

open Relation

/-- At most one source per item, and no cycle. -/
structure Forest {α : Type*} (edge : α → α → Prop) : Prop where
  source_unique : ∀ {a a' b}, edge a b → edge a' b → a = a'
  ranked : ∃ rank : α → Nat, ∀ {a b}, edge a b → rank a < rank b

/-- Two items belong to one lineage. -/
def SameLineage {α : Type*} (edge : α → α → Prop) (a b : α) : Prop := EqvGen edge a b

namespace Forest

variable {α : Type*} {edge : α → α → Prop}

/-- Two ancestors of one item lie on one path. -/
theorem ancestors_total (hf : Forest edge) {a b x : α}
    (ha : ReflTransGen edge a x) (hb : ReflTransGen edge b x) :
    ReflTransGen edge a b ∨ ReflTransGen edge b a := by
  have hunique : Relator.RightUnique (Function.swap edge) :=
    fun _ _ _ h h' => hf.source_unique h h'
  have htotal := ReflTransGen.total_of_right_unique hunique
    (reflTransGen_swap.mpr ha) (reflTransGen_swap.mpr hb)
  rcases htotal with h | h
  · exact Or.inr (reflTransGen_swap.mp h)
  · exact Or.inl (reflTransGen_swap.mp h)

/-- One lineage is a common ancestor. -/
theorem sameLineage_iff (hf : Forest edge) (a b : α) :
    SameLineage edge a b ↔ ∃ r, ReflTransGen edge r a ∧ ReflTransGen edge r b := by
  constructor
  · intro h
    induction h with
    | rel x y hxy => exact ⟨x, ReflTransGen.refl, ReflTransGen.single hxy⟩
    | refl x => exact ⟨x, ReflTransGen.refl, ReflTransGen.refl⟩
    | symm x y _ ih =>
        obtain ⟨r, hx, hy⟩ := ih
        exact ⟨r, hy, hx⟩
    | trans x y z _ _ ihxy ihyz =>
        obtain ⟨r, hrx, hry⟩ := ihxy
        obtain ⟨r', hr'y, hr'z⟩ := ihyz
        rcases hf.ancestors_total hry hr'y with h | h
        · exact ⟨r, hrx, h.trans hr'z⟩
        · exact ⟨r', h.trans hrx, hr'z⟩
  · rintro ⟨r, ha, hb⟩
    have hpath : ∀ {x}, ReflTransGen edge r x → EqvGen edge r x := by
      intro x h
      induction h with
      | refl => exact EqvGen.refl r
      | tail _ he ih => exact EqvGen.trans _ _ _ ih (EqvGen.rel _ _ he)
    exact EqvGen.trans _ _ _ (EqvGen.symm _ _ (hpath ha)) (hpath hb)

/-- Every item descends from an item without a source. -/
theorem exists_root (hf : Forest edge) (x : α) :
    ∃ r, ReflTransGen edge r x ∧ ∀ a, ¬ edge a r := by
  obtain ⟨rank, hrank⟩ := hf.ranked
  induction hx : rank x using Nat.strongRecOn generalizing x with
  | ind n ih =>
      by_cases h : ∃ a, edge a x
      · obtain ⟨a, ha⟩ := h
        obtain ⟨r, hr, hroot⟩ := ih (rank a) (hx ▸ hrank ha) a rfl
        exact ⟨r, hr.tail ha, hroot⟩
      · exact ⟨x, ReflTransGen.refl, fun a ha => h ⟨a, ha⟩⟩

/-- An item without a source that is an ancestor of `x` is an ancestor of its whole lineage. -/
theorem reaches_lineage_of_root (hf : Forest edge) {r x y : α} (hroot : ∀ a, ¬ edge a r)
    (hx : ReflTransGen edge r x) (hxy : SameLineage edge x y) : ReflTransGen edge r y := by
  obtain ⟨c, hcx, hcy⟩ := (hf.sameLineage_iff x y).mp hxy
  rcases hf.ancestors_total hx hcx with h | h
  · exact h.trans hcy
  · rcases ReflTransGen.cases_tail h with heq | ⟨a, -, ha⟩
    · exact heq ▸ hcy
    · exact absurd ha (hroot a)

end Forest

section Extend

variable {α : Type*} {edge : α → α → Prop} {s n : α}

/-- The edges after item `n` was derived from `s`. -/
def extend (edge : α → α → Prop) (s n a b : α) : Prop := edge a b ∨ a = s ∧ b = n

/-- No edge touches `n` yet. -/
def Isolated (edge : α → α → Prop) (n : α) : Prop := ∀ a, ¬ edge a n ∧ ¬ edge n a

theorem Isolated.reaches_eq (hn : Isolated edge n) {x : α} (h : ReflTransGen edge x n) : x = n := by
  rcases ReflTransGen.cases_tail h with heq | ⟨a, -, ha⟩
  · exact heq.symm
  · exact absurd ha (hn a).1

/-- An item without edges is a lineage of its own. -/
theorem Isolated.sameLineage_eq (hn : Isolated edge n) (hf : Forest edge) {x : α}
    (h : SameLineage edge n x) : x = n := by
  obtain ⟨r, hrn, hrx⟩ := (hf.sameLineage_iff n x).mp h
  rw [hn.reaches_eq hrn] at hrx
  rcases ReflTransGen.cases_head hrx with heq | ⟨a, ha, -⟩
  · exact heq.symm
  · exact absurd ha (hn a).2

/-- A path of the extended forest is an old path, or ends in the new item behind its source. -/
theorem reaches_extend (hn : Isolated edge n) (hs : s ≠ n) {r x : α}
    (h : ReflTransGen (extend edge s n) r x) :
    ReflTransGen edge r x ∨ x = n ∧ ReflTransGen edge r s := by
  induction h with
  | refl => exact Or.inl ReflTransGen.refl
  | tail _ he ih =>
      rcases he with he | ⟨rfl, rfl⟩
      · rcases ih with ih | ⟨rfl, -⟩
        · exact Or.inl (ih.tail he)
        · exact absurd he (hn _).2
      · rcases ih with ih | ⟨heq, -⟩
        · exact Or.inr ⟨rfl, ih⟩
        · exact absurd heq hs

theorem Forest.extend (hf : Forest edge) (hn : Isolated edge n) (hs : s ≠ n) :
    Forest (Relational.extend edge s n) where
  source_unique := by
    rintro a a' b (h | ⟨rfl, rfl⟩) (h' | ⟨rfl, h'⟩)
    · exact hf.source_unique h h'
    · exact absurd (h' ▸ h) (hn a).1
    · exact absurd h' (hn a').1
    · rfl
  ranked := by
    classical
    obtain ⟨rank, hrank⟩ := hf.ranked
    refine ⟨fun x => if x = n then rank s + 1 else rank x, ?_⟩
    rintro a b (h | ⟨rfl, rfl⟩)
    · have ha : a ≠ n := fun heq => (hn b).2 (heq ▸ h)
      have hb : b ≠ n := fun heq => (hn a).1 (heq ▸ h)
      simpa [ha, hb] using hrank h
    · simp [hs]

/-- The new item joins the lineage of its source and changes no other lineage. -/
theorem sameLineage_extend (hf : Forest edge) (hn : Isolated edge n) (hs : s ≠ n) {a b : α}
    (h : SameLineage (Relational.extend edge s n) a b) :
    SameLineage edge a b ∨ a = n ∧ (b = n ∨ SameLineage edge s b) ∨
      b = n ∧ (a = n ∨ SameLineage edge s a) := by
  obtain ⟨r, ha, hb⟩ := ((hf.extend hn hs).sameLineage_iff a b).mp h
  rcases reaches_extend hn hs ha with ha' | ⟨han, ha'⟩
  · rcases reaches_extend hn hs hb with hb' | ⟨hbn, hb'⟩
    · exact Or.inl ((hf.sameLineage_iff a b).mpr ⟨r, ha', hb'⟩)
    · exact Or.inr (Or.inr ⟨hbn, Or.inr ((hf.sameLineage_iff s a).mpr ⟨r, hb', ha'⟩)⟩)
  · rcases reaches_extend hn hs hb with hb' | ⟨hbn, -⟩
    · exact Or.inr (Or.inl ⟨han, Or.inr ((hf.sameLineage_iff s b).mpr ⟨r, ha', hb'⟩)⟩)
    · exact Or.inr (Or.inl ⟨han, Or.inl hbn⟩)

end Extend

end Relational
