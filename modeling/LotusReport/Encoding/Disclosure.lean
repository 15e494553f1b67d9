import LotusReport.Encoding.Fields

/-!
# What a copy discloses

A copy of a value may restate a scalar, withhold a part or leave out items of a list. It
discloses no more than its original when nothing else happened to it, at any depth.
-/

namespace Encoding.Json

/-- What is shown was captured: each part is the captured one in its place, a restatement of it,
null or an empty list, and lists keep some of their items in their order. -/
inductive Discloses (restates : Json → Json → Prop) : Json → Json → Prop where
  | same (captured : Json) : Discloses restates captured captured
  | withheld (captured : Json) : Discloses restates captured null
  | emptied (captured : Json) : Discloses restates captured (arr [])
  | restated {captured shown : Json} (h : restates captured shown) :
      Discloses restates captured shown
  | items {captured : List Json} (kept : List (Json × Json))
      (hkept : (kept.map Prod.fst).Sublist captured)
      (h : ∀ pair ∈ kept, Discloses restates pair.1 pair.2) :
      Discloses restates (arr captured) (arr (kept.map Prod.snd))
  | fields {captured shown : Fields}
      (h : ∀ name, Discloses restates ((lookup captured name).getD null)
        ((lookup shown name).getD null)) :
      Discloses restates (obj captured) (obj shown)

/-- Every field that is shown was captured. -/
def DisclosesFields (restates : Json → Json → Prop) (captured shown : Fields) :
    Prop :=
  ∀ name, Discloses restates ((lookup captured name).getD null) ((lookup shown name).getD null)

variable {restates : Json → Json → Prop} {captured shown : Fields}

theorem DisclosesFields.refl (fields : Fields) :
    DisclosesFields restates fields fields := fun _ => .same _

/-- A field may be replaced by what discloses the captured field. -/
theorem DisclosesFields.assign (h : DisclosesFields restates captured shown) {name : String}
    {value : Json} (hvalue : Discloses restates ((lookup captured name).getD null) value) :
    DisclosesFields restates captured (assign shown name value) := by
  intro other
  by_cases hother : other = name
  · rw [hother, lookup_assign_self]
    exact hvalue
  · rw [lookup_assign_of_ne hother]
    exact h other

theorem DisclosesFields.withhold (h : DisclosesFields restates captured shown) (name : String) :
    DisclosesFields restates captured (Json.assign shown name null) :=
  h.assign (.withheld _)

/-- The items of a list that are kept may each be shown as what discloses it. -/
theorem discloses_filter_map {items : List Json} {keep : Json → Bool} {present : Json → Json}
    (h : ∀ item ∈ items, keep item = true → Discloses restates item (present item)) :
    Discloses restates (arr items) (arr ((items.filter keep).map present)) := by
  have hmap : (items.filter keep).map present =
      ((items.filter keep).map fun item => (item, present item)).map Prod.snd := by
    rw [List.map_map]
    rfl
  rw [hmap]
  refine .items _ ?_ ?_
  · rw [List.map_map]
    show ((items.filter keep).map id).Sublist items
    rw [List.map_id]
    exact List.filter_sublist
  · intro pair hpair
    obtain ⟨item, hitem, rfl⟩ := List.mem_map.mp hpair
    exact h item (List.mem_filter.mp hitem).1 (List.mem_filter.mp hitem).2

end Encoding.Json
