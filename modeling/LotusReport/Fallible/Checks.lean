import Mathlib.Data.List.Forall2

/-!
# Computations that may raise

Inversion of sequenced computations: a sequence returns exactly when each of
its parts does. A check raises unless its condition holds, so a computation
that passed its checks met all their conditions.
-/

namespace Fallible

variable {ε α β : Type}

theorem bind_eq_ok {x : Except ε α} {g : α → Except ε β} {b : β} :
    (x >>= g) = .ok b ↔ ∃ a, x = .ok a ∧ g a = .ok b := by
  cases x with
  | error e => simp [bind, Except.bind]
  | ok a => simp [bind, Except.bind]

theorem bind_eq_error {x : Except ε α} {g : α → Except ε β} {e : ε} :
    (x >>= g) = .error e ↔ x = .error e ∨ ∃ a, x = .ok a ∧ g a = .error e := by
  cases x with
  | error e' => simp [bind, Except.bind]
  | ok a => simp [bind, Except.bind]

theorem map_eq_ok {x : Except ε α} {f : α → β} {b : β} :
    x.map f = .ok b ↔ ∃ a, x = .ok a ∧ f a = b := by
  cases x with
  | error e => simp [Except.map]
  | ok a => simp [Except.map]

/-- A loop of checks passes exactly when each item does. -/
theorem forM_eq_ok {items : List α} {check : α → Except ε Unit} :
    items.forM check = .ok () ↔ ∀ a ∈ items, check a = .ok () := by
  induction items with
  | nil => simp [List.forM, pure, Except.pure]
  | cons a items ih =>
      rw [List.forM, bind_eq_ok, List.forall_mem_cons, ← ih]
      constructor
      · rintro ⟨⟨⟩, ha, hitems⟩
        exact ⟨ha, hitems⟩
      · rintro ⟨ha, hitems⟩
        exact ⟨⟨⟩, ha, hitems⟩

/-- A filter by a condition that always returns. -/
theorem filterM_eq_ok {items : List α} {condition : α → Except ε Bool} {keep : α → Bool}
    (h : ∀ a ∈ items, condition a = .ok (keep a)) :
    items.filterM condition = .ok (items.filter keep) := by
  have haux : ∀ kept : List α, List.filterAuxM condition items kept =
      .ok ((items.filter keep).reverse ++ kept) := by
    induction items with
    | nil =>
        intro kept
        rfl
    | cons a items ih =>
        rw [List.forall_mem_cons] at h
        intro kept
        rw [List.filterAuxM, h.1]
        change List.filterAuxM condition items (cond (keep a) (a :: kept) kept) = _
        rw [ih h.2, List.filter_cons]
        cases keep a <;> simp
  unfold List.filterM
  rw [haux]
  simp [bind, Except.bind, pure, Except.pure]

/-- A loop of conversions returns exactly when each item is converted. -/
theorem mapM_eq_ok {items : List α} {convert : α → Except ε β} {results : List β} :
    items.mapM convert = .ok results ↔
      List.Forall₂ (fun a b => convert a = .ok b) items results := by
  induction items generalizing results with
  | nil =>
      rw [List.mapM_nil, List.forall₂_nil_left_iff]
      exact ⟨fun h => (Except.ok.inj h).symm, fun h => h ▸ rfl⟩
  | cons a items ih =>
      rw [List.mapM_cons, bind_eq_ok, List.forall₂_cons_left_iff]
      constructor
      · rintro ⟨b, hb, h⟩
        obtain ⟨bs, hbs, h⟩ := bind_eq_ok.mp h
        cases h
        exact ⟨b, bs, hb, ih.mp hbs, rfl⟩
      · rintro ⟨b, bs, hb, hbs, rfl⟩
        exact ⟨b, hb, bind_eq_ok.mpr ⟨bs, ih.mpr hbs, rfl⟩⟩

theorem converts_of_mapM {items : List α} {convert : α → Except ε β} {results : List β}
    (h : items.mapM convert = .ok results) {a : α} (ha : a ∈ items) :
    ∃ b ∈ results, convert a = .ok b := by
  rw [mapM_eq_ok] at h
  induction h with
  | nil => cases ha
  | cons hab _ ih =>
      rcases List.mem_cons.mp ha with rfl | ha
      · exact ⟨_, List.mem_cons_self, hab⟩
      · obtain ⟨b, hb, hconvert⟩ := ih ha
        exact ⟨b, List.mem_cons_of_mem _ hb, hconvert⟩

theorem exists_of_mem_mapM {items : List α} {convert : α → Except ε β} {results : List β}
    (h : items.mapM convert = .ok results) {b : β} (hb : b ∈ results) :
    ∃ a ∈ items, convert a = .ok b := by
  rw [mapM_eq_ok] at h
  induction h with
  | nil => cases hb
  | cons hab _ ih =>
      rcases List.mem_cons.mp hb with rfl | hb
      · exact ⟨_, List.mem_cons_self, hab⟩
      · obtain ⟨a, ha, hconvert⟩ := ih hb
        exact ⟨a, List.mem_cons_of_mem _ ha, hconvert⟩

/-- A loop whose items are all converted returns. -/
theorem exists_mapM_eq {items : List α} (convert : α → Except ε β)
    (h : ∀ a ∈ items, ∃ b, convert a = .ok b) : ∃ results, items.mapM convert = .ok results := by
  induction items with
  | nil => exact ⟨[], rfl⟩
  | cons a items ih =>
      rw [List.forall_mem_cons] at h
      obtain ⟨b, hb⟩ := h.1
      obtain ⟨bs, hbs⟩ := ih h.2
      refine ⟨b :: bs, ?_⟩
      rw [List.mapM_cons]
      exact bind_eq_ok.mpr ⟨b, hb, bind_eq_ok.mpr ⟨bs, hbs, rfl⟩⟩

/-- A loop returns related results exactly when each item is converted to a related one. -/
theorem mapM_related_iff {items : List α} {convert : α → Except ε β} {related : α → β → Prop} :
    (∃ results, items.mapM convert = .ok results ∧ List.Forall₂ related items results) ↔
      ∀ a ∈ items, ∃ b, convert a = .ok b ∧ related a b := by
  induction items with
  | nil =>
      apply iff_of_true
      · exact ⟨[], rfl, List.Forall₂.nil⟩
      · intro a ha
        cases ha
  | cons a items ih =>
      rw [List.forall_mem_cons, ← ih]
      simp only [mapM_eq_ok, List.forall₂_cons_left_iff]
      constructor
      · rintro ⟨results, ⟨b, bs, hb, hbs, rfl⟩, ⟨b', bs', hrelated, hall, heq⟩⟩
        obtain ⟨rfl, rfl⟩ := List.cons.inj heq
        exact ⟨⟨b, hb, hrelated⟩, bs, hbs, hall⟩
      · rintro ⟨⟨b, hb, hrelated⟩, bs, hbs, hall⟩
        exact ⟨b :: bs, ⟨b, bs, hb, hbs, rfl⟩, b, bs, hrelated, hall, rfl⟩

theorem mapM_append_eq_ok {items items' : List α} {convert : α → Except ε β}
    {results results' : List β} (h : items.mapM convert = .ok results)
    (h' : items'.mapM convert = .ok results') :
    (items ++ items').mapM convert = .ok (results ++ results') := by
  rw [mapM_eq_ok] at h h' ⊢
  exact List.rel_append h h'

/-- A loop whose conversions are known returns their results. -/
theorem mapM_eq_ok_map {items : List α} {convert : α → Except ε β} {f : α → β}
    (h : ∀ a ∈ items, convert a = .ok (f a)) : items.mapM convert = .ok (items.map f) := by
  rw [mapM_eq_ok, List.forall₂_map_right_iff]
  exact List.forall₂_same.mpr h

/-- `mapM` keeps what every conversion keeps. -/
theorem map_eq_of_mapM {γ : Type} {convert : α → Except ε β} {g : β → γ} {f : α → γ}
    (hf : ∀ a b, convert a = .ok b → g b = f a) {items : List α} {results : List β}
    (h : items.mapM convert = .ok results) : results.map g = items.map f := by
  rw [mapM_eq_ok] at h
  induction h with
  | nil => rfl
  | cons hab _ ih => rw [List.map_cons, List.map_cons, hf _ _ hab, ih]

/-- The same for conversions to lists that are put together. -/
theorem map_flatten_of_mapM {γ : Type} {convert : α → Except ε (List β)} {g : β → γ}
    {f : α → List γ} (hf : ∀ a bs, convert a = .ok bs → bs.map g = f a) {items : List α}
    {results : List (List β)} (h : items.mapM convert = .ok results) :
    results.flatten.map g = items.flatMap f := by
  rw [List.map_flatten, map_eq_of_mapM hf h, List.flatMap_def]

theorem isOk_eq_true {x : Except ε α} : x.isOk = true ↔ ∃ a, x = .ok a := by
  cases x with
  | error e => simp [Except.isOk, Except.toBool]
  | ok a => simp [Except.isOk, Except.toBool]

end Fallible
