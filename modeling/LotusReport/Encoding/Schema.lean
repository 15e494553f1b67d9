import LotusReport.Encoding.Validation

/-!
# Declared document shapes

A schema describes what a declarative model accepts: constrained texts,
strict numbers, lists, dictionaries, and objects whose declared fields are
checked one by one. Accepting an object yields each declared field.
-/

namespace Encoding

/-- The shape of a document. -/
inductive Schema where
  | any
  | text (constraint : String → Bool)
  | literal (texts : List String)
  /-- A strict integer between two bounds. -/
  | int (least most : Option Int)
  /-- A strict boolean. -/
  | bool
  /-- An exact integer or a decimal text. -/
  | decimal
  | date
  | nullable (shape : Schema)
  | list (least : Nat) (most : Option Nat) (item : Schema)
  /-- A dictionary with at least so many entries. -/
  | mapping (least : Nat) (value : Schema)
  /-- An object with declared fields, each required or not; `open` where it may have others. -/
  | object (isOpen : Bool) (fields : List (String × Bool × Schema))

namespace Schema

variable (co : Coercions) (isDecimal : String → Bool)

mutual

/-- The document has the shape. -/
def accepts : Schema → Json → Bool
  | .any, _ => true
  | .text constraint, .str value => constraint value
  | .literal texts, .str value => texts.contains value
  | .int least most, .int n => least.all (· ≤ n) && most.all (n ≤ ·)
  | .bool, .bool _ => true
  | .decimal, .int _ => true
  | .decimal, .str value => isDecimal value
  | .date, j => (co.date j).isSome
  | .nullable _, .null => true
  | .nullable shape, j => accepts shape j
  | .list least most item, .arr items =>
      least ≤ items.length && most.all (items.length ≤ ·) && items.all fun j => accepts item j
  | .mapping least value, .obj entries =>
      least ≤ entries.length && entries.all fun f => accepts value f.2
  | .object isOpen fields, .obj entries =>
      (isOpen || entries.all fun f => fields.any fun field => field.1 == f.1) &&
        acceptsFields fields entries
  | _, _ => false

/-- Each declared field has its shape, or is absent and not required. -/
def acceptsFields : List (String × Bool × Schema) → Fields → Bool
  | [], _ => true
  | (name, required, shape) :: fields, entries =>
      (match Json.lookup entries name with
        | some value => accepts shape value
        | none => !required) && acceptsFields fields entries

end

variable {co isDecimal}

attribute [local simp] accepts in
theorem accepts_object {isOpen : Bool} {fields : List (String × Bool × Schema)} {j : Json}
    (h : accepts co isDecimal (.object isOpen fields) j = true) :
    ∃ entries, j = .obj entries ∧ acceptsFields co isDecimal fields entries = true := by
  cases j with
  | obj entries =>
      rw [accepts, Bool.and_eq_true] at h
      exact ⟨entries, rfl, h.2⟩
  | _ => simp [accepts] at h

theorem acceptsFields_required {fields : List (String × Bool × Schema)}
    {entries : Fields} {name : String} {shape : Schema}
    (h : acceptsFields co isDecimal fields entries = true) (hfield : (name, true, shape) ∈ fields) :
    ∃ value, Json.lookup entries name = some value ∧ accepts co isDecimal shape value = true := by
  induction fields with
  | nil => cases hfield
  | cons field fields ih =>
      obtain ⟨fieldName, required, fieldShape⟩ := field
      rw [acceptsFields, Bool.and_eq_true] at h
      rcases List.mem_cons.mp hfield with heq | hfield
      · cases heq
        cases hlookup : Json.lookup entries name with
        | none => simp [hlookup] at h
        | some value =>
            rw [hlookup] at h
            exact ⟨value, rfl, h.1⟩
      · exact ih h.2 hfield

/-- An accepted object has each of its required fields, in its shape. -/
theorem accepts_required {isOpen : Bool} {fields : List (String × Bool × Schema)} {j : Json}
    {name : String} {shape : Schema} (h : accepts co isDecimal (.object isOpen fields) j = true)
    (hfield : (name, true, shape) ∈ fields) :
    ∃ entries value, j = .obj entries ∧ Json.lookup entries name = some value ∧
      accepts co isDecimal shape value = true := by
  obtain ⟨entries, rfl, hfields⟩ := accepts_object h
  obtain ⟨value, hvalue, haccepts⟩ := acceptsFields_required hfields hfield
  exact ⟨entries, value, rfl, hvalue, haccepts⟩

theorem accepts_literal {texts : List String} {j : Json}
    (h : accepts co isDecimal (.literal texts) j = true) : ∃ value ∈ texts, j = .str value := by
  cases j with
  | str value => exact ⟨value, by simpa [accepts] using h, rfl⟩
  | _ => simp [accepts] at h

theorem accepts_text {constraint : String → Bool} {j : Json}
    (h : accepts co isDecimal (.text constraint) j = true) : ∃ value, j = .str value := by
  cases j with
  | str value => exact ⟨value, rfl⟩
  | _ => simp [accepts] at h

theorem accepts_int {least most : Option Int} {j : Json}
    (h : accepts co isDecimal (.int least most) j = true) : ∃ n, j = .int n := by
  cases j with
  | int n => exact ⟨n, rfl⟩
  | _ => simp [accepts] at h

theorem accepts_bool {j : Json} (h : accepts co isDecimal .bool j = true) : ∃ b, j = .bool b := by
  cases j with
  | bool b => exact ⟨b, rfl⟩
  | _ => simp [accepts] at h

/-- The items of an accepted list have the shape of its items. -/
theorem accepts_list {least : Nat} {most : Option Nat} {item : Schema} {j : Json}
    (h : accepts co isDecimal (.list least most item) j = true) :
    ∃ items, j = .arr items ∧ ∀ i ∈ items, accepts co isDecimal item i = true := by
  cases j with
  | arr items =>
      simp only [accepts, Bool.and_eq_true, List.all_eq_true] at h
      exact ⟨items, rfl, h.2⟩
  | _ => simp [accepts] at h

end Schema

end Encoding
