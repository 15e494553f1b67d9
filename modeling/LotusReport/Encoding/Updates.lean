import LotusReport.Encoding.Written

/-!
# Updates of a dictionary

`dict.update` assigns the fields of one dictionary to another in turn. A reader
by name sees the assigned value, or what was there before.
-/

namespace Encoding.Json

variable {fields changes : Fields} {name : String}

/-- `dict.update`. -/
def update (fields changes : Fields) : Fields :=
  changes.foldl (fun fields change => assign fields change.1 change.2) fields

theorem update_cons (fields : Fields) (change : String × Json)
    (changes : Fields) :
    update fields (change :: changes) = update (assign fields change.1 change.2) changes := rfl

/-- A reader by name sees the change of that name, or else the field. -/
theorem lookup_update (h : Distinct changes) :
    lookup (update fields changes) name = (lookup changes name).or (lookup fields name) := by
  induction changes generalizing fields with
  | nil => rfl
  | cons change changes ih =>
      obtain ⟨k, value⟩ := change
      obtain ⟨hnew, hrest⟩ := List.nodup_cons.mp h
      rw [update_cons, ih hrest, lookup_cons]
      by_cases hk : k = name
      · subst hk
        rw [lookup_eq_none_iff.mpr hnew, if_pos rfl, Option.none_or, Option.some_or]
        exact lookup_assign_self
      · rw [if_neg hk, lookup_assign_of_ne (Ne.symm hk)]

/-- Only the names of the changes are touched. -/
theorem lookup_update_of_notMem (h : name ∉ changes.map Prod.fst) :
    lookup (update fields changes) name = lookup fields name := by
  induction changes generalizing fields with
  | nil => rfl
  | cons change changes ih =>
      rw [List.map_cons, List.mem_cons, not_or] at h
      rw [update_cons, ih h.2, lookup_assign_of_ne h.1]

end Encoding.Json
