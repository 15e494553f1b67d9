import Mathlib.Data.List.Chain
import Mathlib.Order.Cover

/-!
# Adjoining intervals

A list of intervals of a linear order, each of which ends right before the next
one begins. They stand in order and together they are one interval: a point
between the first start and the last end lies in exactly one of them.
-/

namespace Relational

variable {α ι : Type*} [LinearOrder α] {lo hi : ι → α}

/-- The intervals end right before one another. -/
def Adjoining (lo hi : ι → α) (items : List ι) : Prop :=
  items.IsChain fun a b => hi a ⋖ lo b

/-- No interval ends before it begins. -/
def Upright (lo hi : ι → α) (items : List ι) : Prop := ∀ a ∈ items, lo a ≤ hi a

theorem Adjoining.tail {a : ι} {items : List ι} (h : Adjoining lo hi (a :: items)) :
    Adjoining lo hi items :=
  List.IsChain.tail h

/-- The later intervals begin behind the first. -/
theorem Adjoining.lt_of_mem {a : ι} {items : List ι} (h : Adjoining lo hi (a :: items))
    (hupright : Upright lo hi (a :: items)) {b : ι} (hb : b ∈ items) : hi a < lo b := by
  induction items generalizing a with
  | nil => cases hb
  | cons c items ih =>
      have hnext : hi a ⋖ lo c := (List.isChain_cons_cons.mp h).1
      rcases List.mem_cons.mp hb with rfl | hb
      · exact hnext.lt
      · have hc : lo c ≤ hi c := hupright c (List.mem_cons_of_mem _ List.mem_cons_self)
        have hrest : hi c < lo b :=
          ih h.tail (fun d hd => hupright d (List.mem_cons_of_mem _ hd)) hb
        calc
          hi a < lo c := hnext.lt
          _ ≤ hi c := hc
          _ < lo b := hrest

/-- Adjoining intervals stand in order. -/
theorem Adjoining.pairwise {items : List ι} (h : Adjoining lo hi items)
    (hupright : Upright lo hi items) : items.Pairwise fun a b => hi a < lo b := by
  induction items with
  | nil => exact List.Pairwise.nil
  | cons a items ih =>
      rw [List.pairwise_cons]
      constructor
      · intro b hb
        exact h.lt_of_mem hupright hb
      · exact ih h.tail fun b hb => hupright b (List.mem_cons_of_mem _ hb)

/-- The first interval begins no later than the last one ends. -/
theorem Adjoining.le_getLast {a : ι} {items : List ι} (h : Adjoining lo hi (a :: items))
    (hupright : Upright lo hi (a :: items)) :
    hi a ≤ hi ((a :: items).getLast (List.cons_ne_nil _ _)) := by
  cases items with
  | nil => exact le_refl _
  | cons b items =>
      rw [List.getLast_cons (List.cons_ne_nil _ _)]
      have hlast := List.getLast_mem (List.cons_ne_nil b items)
      exact le_trans (h.lt_of_mem hupright hlast).le
        (hupright _ (List.mem_cons_of_mem _ hlast))

/-- The number of intervals that hold a point: one between the ends of the list, else none. -/
theorem Adjoining.countP {a : ι} {items : List ι} (h : Adjoining lo hi (a :: items))
    (hupright : Upright lo hi (a :: items)) (x : α) :
    (a :: items).countP (fun b => lo b ≤ x ∧ x ≤ hi b) =
      if lo a ≤ x ∧ x ≤ hi ((a :: items).getLast (List.cons_ne_nil _ _)) then 1 else 0 := by
  induction items generalizing a with
  | nil =>
      rw [List.countP_singleton, List.getLast_singleton]
      simp only [decide_eq_true_eq]
  | cons b items ih =>
      have hnext : hi a ⋖ lo b := (List.isChain_cons_cons.mp h).1
      have htail : Upright lo hi (b :: items) := fun c hc =>
        hupright c (List.mem_cons_of_mem _ hc)
      have hrest := ih h.tail htail
      have ha : lo a ≤ hi a := hupright a List.mem_cons_self
      have hlast := h.tail.le_getLast htail
      have hb : lo b ≤ hi b := htail b List.mem_cons_self
      rw [List.countP_cons, hrest, List.getLast_cons (List.cons_ne_nil _ _)]
      -- a point lies up to the end of the first interval or from the start of the second on
      by_cases hx : x ≤ hi a
      · have hbefore : ¬ lo b ≤ x := fun hle => absurd (lt_of_lt_of_le hnext.lt hle) (not_lt.mpr hx)
        have hend := le_trans (le_trans hx hnext.lt.le) (le_trans hb hlast)
        simp [hx, hbefore, hend]
      · have hfrom : lo b ≤ x := not_lt.mp fun hlt => hx (hnext.le_of_lt hlt)
        have hstart := le_trans (le_trans ha hnext.lt.le) hfrom
        simp [hx, hfrom, hstart]

/-- A filter by a property that stays once it is reached keeps the last items. -/
theorem filter_eq_drop {β : Type*} {p : β → Bool} {items : List β}
    (h : items.Pairwise fun a b => p a = true → p b = true) :
    items.filter p = items.drop (items.length - (items.filter p).length) := by
  induction items with
  | nil => rfl
  | cons a items ih =>
      obtain ⟨hfirst, hrest⟩ := List.pairwise_cons.mp h
      cases ha : p a with
      | true =>
          have hall : items.filter p = items := List.filter_eq_self.mpr fun b hb => hfirst b hb ha
          rw [List.filter_cons_of_pos ha, hall, Nat.sub_self, List.drop_zero]
      | false =>
          have hlength := List.length_filter_le p items
          rw [List.filter_cons_of_neg (by rw [ha]; decide), List.length_cons,
            Nat.succ_sub hlength, List.drop_succ_cons]
          exact ih hrest

/-- A filter by a property that is not regained once it is lost keeps the first items. -/
theorem filter_eq_take {β : Type*} {p : β → Bool} {items : List β}
    (h : items.Pairwise fun a b => p b = true → p a = true) :
    items.filter p = items.take (items.countP p) := by
  induction items with
  | nil => rfl
  | cons a items ih =>
      obtain ⟨hfirst, hrest⟩ := List.pairwise_cons.mp h
      cases ha : p a with
      | true => rw [List.filter_cons_of_pos ha, List.countP_cons_of_pos ha, List.take_succ_cons, ih hrest]
      | false =>
          have hnone : ∀ b ∈ items, ¬ p b = true := by
            intro b hb hp
            rw [hfirst b hb hp] at ha
            cases ha
          have hcount : items.countP p = 0 := List.countP_eq_zero.mpr hnone
          have hneg : ¬ p a = true := by
            rw [ha]
            decide
          rw [List.filter_cons_of_neg hneg, List.countP_cons_of_neg hneg, hcount, List.take_zero,
            List.filter_eq_nil_iff]
          exact hnone

end Relational
