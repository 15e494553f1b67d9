import LotusReport.Composite.Tables.SourceContext
import LotusReport.Encoding.Equality
import LotusReport.Identity.SeriesKey
import Mathlib.Data.List.Permutation

/-!
# The order of the methods

Older datasets keep the methods in the order of the source. A projection is
compared up to one reordering of the method paths together with their rows,
which are numbered by their places.
-/

namespace LotusReport.Composite.SourceContext

open Encoding Json Fallible Identity

section Purpose

variable (floatValue : String → FloatValue)

/-- The pointer to the method path at some place. -/
def methodPlace (index : Nat) : String := "/report_facts/Methods/" ++ toString index

/-- A row of the methods at another place. -/
def renumbered (index : Nat) (row : CompositeRow) : CompositeRow :=
  ⟨toString index, row.cells.map fun cell => if cell.1 = "field" then
    ("field", { cell.2 with sourcePointer := methodPlace index }) else cell⟩

/-- Items in another order. -/
def arranged {α : Type} (order : List Nat) (items : List α) : List α :=
  order.filterMap fun index => items[index]?

def rearrangedFact (order : List Nat) (name : String) : Json → Json
  | .arr items => .arr (if name = "Methods" then arranged order items else items)
  | value => value

/-- The rows of the methods in another order, each with the number of its new place. -/
def rearrangedTable (order : List Nat) (table : CompositeTable) : CompositeTable :=
  { table with rows := (arranged order table.rows).zipIdx.map fun (row, index) => renumbered index row }

def rearrangedTables (order : List Nat) (tables : List CompositeTable) : List CompositeTable :=
  match tables.find? (·.tableId = "Methods") with
  | some table => replaceTable (rearrangedTable order table) tables
  | none => tables

/-- A dataset with its method paths and their rows in another order. -/
def rearranged (order : List Nat) (d : Dataset) : Dataset where
  document := d.document
  facts := d.facts.map fun fact => (fact.1, rearrangedFact order fact.1 fact.2)
  tables := rearrangedTables order d.tables

/-- The report facts and the tables of two datasets are equal. -/
def SameProjection (a b : Dataset) : Prop :=
  pyEq floatValue (.obj a.facts) (.obj b.facts) = true ∧ sameTables a.tables b.tables = true

/-- The rows of the methods. -/
def methodRows (d : Dataset) : List CompositeRow :=
  match d.tables.find? (·.tableId = "Methods") with
  | some table => table.rows
  | none => []

/-- A dataset has the facts and the tables of another one, with the methods in some order. -/
def IsRearrangement (actual expected : Dataset) : Prop :=
  ∃ order : List Nat, order.Perm (List.range (methodRows expected).length) ∧
    SameProjection floatValue actual (rearranged order expected)

/-- The path of a method and its value, wherever the row stands. -/
def methodValue (row : CompositeRow) : Option (Option String) × Option CompositeCell :=
  ((row.cells.lookup "field").map (·.canonicalValue), row.cells.lookup "value")

def methodValues (d : Dataset) : List (Option (Option String) × Option CompositeCell) :=
  (methodRows d).map methodValue

variable (py : Runtime) (co : Coercions)

/-- A dataset that a builder makes of a document. -/
inductive IsProjection (document : Fields) : Dataset → Prop
  | primary {d : Dataset} (h : buildCompositeTables py document = .ok d) : IsProjection document d
  | products {base d : Dataset} (products : List Json) (hbase : buildCompositeTables py document = .ok base)
      (h : projectProductTables base products = .ok d) : IsProjection document d
  | sourceContext {d : Dataset} (h : projectSourceContext py co document = .ok d) :
      IsProjection document d

/-- A projection of a document in which each window binds its methods by name. -/
structure Projection where
  document : Fields
  dataset : Dataset
  wellFormed : Json.wellFormed (.obj document) = true
  binds : ∀ windows, (readAt (.obj document) ["selection", "windows"]).bind itemsOf = .ok windows →
    ∀ window ∈ windows, ∃ fields, subscript window "method_binding" = .ok (.obj fields)
  built : IsProjection py co document dataset

end Purpose

section Rows

/-- The row of a method at its place. -/
def methodRow (index : Nat) (path : String) (value : CompositeCell) : CompositeRow :=
  ⟨toString index, [("field", ⟨some path, .available, [], methodPlace index⟩), ("value", value)]⟩

variable {rows : List CompositeRow} {row moved : CompositeRow} {i j : Nat} {path : String}
  {value : CompositeCell}

theorem renumbered_methodRow : renumbered j (methodRow i path value) = methodRow j path value := by
  unfold renumbered methodRow
  simp

theorem sameRow_methodRow : sameRow row (methodRow i path value) = true ↔
    row.rowId = toString i ∧
      (row.cells = (methodRow i path value).cells ∨ row.cells = (methodRow i path value).cells.reverse) := by
  unfold sameRow
  rw [Bool.and_eq_true, beq_iff_eq, decide_eq_true_eq]
  apply and_congr_right'
  exact List.perm_pair

/-- The cells of a row whose field leads to another place. -/
def redirected (field : CompositeCell) (index : Nat) (cells : List (String × CompositeCell)) :
    List (String × CompositeCell) :=
  cells.map fun cell => if cell.1 = "field" then
    ("field", { field with sourcePointer := methodPlace index }) else cell

theorem redirected_methodRow {cells : List (String × CompositeCell)}
    (h : cells = (methodRow j path value).cells ∨ cells = (methodRow j path value).cells.reverse) :
    ∃ field, cells.lookup "field" = some field ∧ field.sourcePointer = methodPlace j ∧
      field.canonicalValue = some path ∧
      (redirected field i cells = (methodRow i path value).cells ∨
        redirected field i cells = (methodRow i path value).cells.reverse) := by
  refine ⟨⟨some path, .available, [], methodPlace j⟩, ?_, rfl, rfl, ?_⟩
  · rcases h with rfl | rfl
    · rfl
    · rfl
  · rcases h with rfl | rfl
    · exact Or.inl rfl
    · exact Or.inr rfl

theorem methodRow_of_redirected {cells : List (String × CompositeCell)} {field : CompositeCell}
    (hfield : cells.lookup "field" = some field) (hpointer : field.sourcePointer = methodPlace j)
    (h : redirected field i cells = (methodRow i path value).cells ∨
      redirected field i cells = (methodRow i path value).cells.reverse) :
    cells = (methodRow j path value).cells ∨ cells = (methodRow j path value).cells.reverse := by
  have hvalue : ∀ cell : String × CompositeCell,
      (if cell.1 = "field" then ("field", { field with sourcePointer := methodPlace i }) else cell) =
        ("value", value) → cell = ("value", value) := by
    intro cell hcell
    split at hcell
    · exact absurd (Prod.mk.inj hcell).1 (by decide)
    · exact hcell
  have hname : ∀ (cell : String × CompositeCell) (found : CompositeCell),
      (if cell.1 = "field" then ("field", { field with sourcePointer := methodPlace i }) else cell) =
        ("field", found) → cell.1 = "field" ∧ { field with sourcePointer := methodPlace i } = found := by
    intro cell found hcell
    by_cases hname : cell.1 = "field"
    · rw [if_pos hname] at hcell
      exact ⟨hname, (Prod.mk.inj hcell).2⟩
    · rw [if_neg hname] at hcell
      exact absurd (congrArg Prod.fst hcell) hname
  have hplace : { field with sourcePointer := methodPlace i } =
      (⟨some path, .available, [], methodPlace i⟩ : CompositeCell) →
        field = ⟨some path, .available, [], methodPlace j⟩ := by
    intro heq
    obtain ⟨canonicalValue, availability, reasonCodes, sourcePointer⟩ := field
    cases heq
    rw [show sourcePointer = methodPlace j from hpointer]
  rcases h with h | h
  · obtain ⟨a, rest, rfl, ha, hrest⟩ := List.map_eq_cons_iff.mp h
    obtain ⟨b, rest, rfl, hb, hnil⟩ := List.map_eq_cons_iff.mp hrest
    obtain rfl := List.map_eq_nil_iff.mp hnil
    obtain ⟨hfirst, heq⟩ := hname a _ ha
    left
    obtain ⟨name, found⟩ := a
    obtain rfl : name = "field" := hfirst
    obtain rfl : found = field := Option.some.inj hfield
    rw [hplace heq, hvalue b hb]
    rfl
  · obtain ⟨a, rest, rfl, ha, hrest⟩ := List.map_eq_cons_iff.mp h
    obtain ⟨b, rest, rfl, hb, hnil⟩ := List.map_eq_cons_iff.mp hrest
    obtain rfl := List.map_eq_nil_iff.mp hnil
    obtain ⟨hfirst, heq⟩ := hname b _ hb
    obtain rfl := hvalue a ha
    right
    obtain ⟨name, found⟩ := b
    obtain rfl : name = "field" := hfirst
    obtain rfl : found = field := Option.some.inj hfield
    rw [hplace heq]
    rfl

theorem movedRow_iff : (∃ moved, movedRow rows j i path = .ok moved ∧
    sameRow moved (methodRow i path value) = true) ↔
      ∃ row, rows[j]? = some row ∧ sameRow row (methodRow j path value) = true := by
  unfold movedRow
  cases hrow : rows[j]? with
  | none => simp
  | some row =>
      simp only [Option.some.injEq, exists_eq_left', sameRow_methodRow]
      constructor
      · rintro ⟨moved, hmoved, -, hcells⟩
        cases hfield : row.cells.lookup "field" with
        | none =>
            rw [hfield] at hmoved
            cases hmoved
        | some field =>
            rw [hfield] at hmoved
            dsimp only at hmoved
            split at hmoved
            · cases hmoved
            · rename_i hbound
              push Not at hbound
              cases hmoved
              exact ⟨hbound.1, methodRow_of_redirected hfield hbound.2.1 hcells⟩
      · rintro ⟨hid, hcells⟩
        obtain ⟨field, hfield, hpointer, hvalue, hredirected⟩ := redirected_methodRow (i := i) hcells
        rw [hfield]
        have hbound : ¬ (row.rowId ≠ toString j ∨ field.sourcePointer ≠
            "/report_facts/Methods/" ++ toString j ∨ field.canonicalValue ≠ some path) := by
          push Not
          exact ⟨hid, hpointer, hvalue⟩
        dsimp only
        rw [if_neg hbound]
        exact ⟨_, rfl, rfl, hredirected⟩

end Rows

section Orders

variable {α : Type} {order : List Nat} {items : List α}

theorem forall₂_iff_getElem? {β : Type} {r : α → β → Prop} {bs : List β} :
    List.Forall₂ r items bs ↔ items.length = bs.length ∧
      ∀ (i : Nat) a b, items[i]? = some a → bs[i]? = some b → r a b := by
  rw [List.forall₂_iff_get]
  apply and_congr_right
  intro hlength
  constructor
  · intro h i a b ha hb
    obtain ⟨hi, rfl⟩ := List.getElem?_eq_some_iff.mp ha
    obtain ⟨hi', rfl⟩ := List.getElem?_eq_some_iff.mp hb
    exact h i hi hi'
  · intro h i hi hi'
    exact h i _ _ (List.getElem?_eq_getElem hi) (List.getElem?_eq_getElem hi')

/-- An item of a rearranged list. -/
theorem getElem?_arranged (h : ∀ i ∈ order, i < items.length) (j : Nat) :
    (arranged order items)[j]? = order[j]?.bind fun i => items[i]? := by
  induction order generalizing j with
  | nil => rfl
  | cons i order ih =>
      rw [List.forall_mem_cons] at h
      unfold arranged at ih ⊢
      rw [List.filterMap_cons_some (List.getElem?_eq_getElem h.1)]
      cases j with
      | zero => exact (List.getElem?_eq_getElem h.1).symm
      | succ j => exact ih h.2 j

theorem length_arranged (h : ∀ i ∈ order, i < items.length) :
    (arranged order items).length = order.length := by
  induction order with
  | nil => rfl
  | cons i order ih =>
      rw [List.forall_mem_cons] at h
      unfold arranged at ih ⊢
      rw [List.filterMap_cons_some (List.getElem?_eq_getElem h.1), List.length_cons, ih h.2,
        List.length_cons]

theorem lt_of_order {n : Nat} (horder : order.Perm (List.range n)) : ∀ i ∈ order, i < n := by
  intro i hi
  exact List.mem_range.mp (horder.mem_iff.mp hi)

theorem arranged_range (items : List α) :
    arranged (List.range items.length) items = items := by
  apply List.ext_getElem?
  intro j
  rw [getElem?_arranged fun i hi => List.mem_range.mp hi]
  by_cases hj : j < items.length
  · rw [List.getElem?_range hj]
    rfl
  · rw [List.getElem?_eq_none (by simpa using hj), List.getElem?_eq_none (by simpa using hj)]
    rfl

theorem arranged_perm (horder : order.Perm (List.range items.length)) :
    (arranged order items).Perm items := by
  calc
    (arranged order items).Perm (arranged (List.range items.length) items) := horder.filterMap _
    _ = items := arranged_range items

/-- Every permutation of distinct items is a rearrangement. -/
theorem exists_order [DecidableEq α] {others : List α} (hdistinct : items.Nodup)
    (hperm : others.Perm items) :
    ∃ order : List Nat, order.Perm (List.range items.length) ∧ arranged order items = others := by
  refine ⟨others.map items.idxOf, ?_, ?_⟩
  · refine (hperm.map items.idxOf).trans ?_
    have hall : items.map items.idxOf = List.range items.length := by
      apply List.ext_getElem
      · rw [List.length_map, List.length_range]
      · intro i hi hi'
        rw [List.getElem_map, List.getElem_range, List.Nodup.idxOf_getElem hdistinct]
    rw [hall]
  · unfold arranged
    rw [List.filterMap_map]
    have hfound : ∀ a ∈ others, items[items.idxOf a]? = some a := by
      intro a ha
      have hlt := List.idxOf_lt_length_of_mem (hperm.mem_iff.mp ha)
      rw [List.getElem?_eq_getElem hlt, List.getElem_idxOf]
    clear hperm
    induction others with
    | nil => rfl
    | cons a others ih =>
        rw [List.forall_mem_cons] at hfound
        have hfirst : ((fun index => items[index]?) ∘ fun a => items.idxOf a) a = some a := hfound.1
        rw [List.filterMap_cons_some hfirst, ih hfound.2]

end Orders

section Tables

/-- The rows of the methods at their places. -/
structure MethodRows (paths : List String) (rows : List CompositeRow) : Prop where
  length : rows.length = paths.length
  row : ∀ (i : Nat) path, paths[i]? = some path → ∃ value, rows[i]? = some (methodRow i path value)

/-- Rows are equal one by one. -/
def SameRows : List CompositeRow → List CompositeRow → Prop :=
  List.Forall₂ fun a b => sameRow a b = true

variable {paths : List String} {rows required : List CompositeRow} {order : List Nat}

theorem sameRows_iff_zipIdx {moved : List CompositeRow} (hlength : required.length = paths.length) :
    SameRows moved required ↔ List.Forall₂ (fun pair row =>
      ∃ other, required[pair.2]? = some other ∧ sameRow row other = true) paths.zipIdx moved := by
  rw [SameRows, forall₂_iff_getElem?, forall₂_iff_getElem?, List.length_zipIdx, hlength, eq_comm]
  apply and_congr_right
  intro hmoved
  constructor
  · intro h i pair row hpair hrow
    rw [List.getElem?_zipIdx] at hpair
    obtain ⟨path, hpath, rfl⟩ := Option.map_eq_some_iff.mp hpair
    obtain ⟨hi, -⟩ := List.getElem?_eq_some_iff.mp hpath
    have hother := List.getElem?_eq_getElem (hlength ▸ hi : i < required.length)
    refine ⟨_, ?_, h i row _ hrow hother⟩
    rw [Nat.zero_add]
    exact hother
  · intro h i row other hrow hother
    obtain ⟨hi, -⟩ := List.getElem?_eq_some_iff.mp hother
    have hpair : paths.zipIdx[i]? = some (paths[i], i) := by
      rw [List.getElem?_zipIdx, List.getElem?_eq_getElem (hlength ▸ hi), Nat.zero_add]
      rfl
    obtain ⟨other', hother', hsame⟩ := h i _ row hpair hrow
    rw [hother] at hother'
    cases hother'
    exact hsame

theorem getElem?_rearrangedRows (hrequired : MethodRows paths required)
    (horder : order.Perm (List.range paths.length)) {i j : Nat} {path : String}
    (hi : order[j]? = some i) (hpath : paths[i]? = some path) :
    ∃ value, required[i]? = some (methodRow i path value) ∧
      ((arranged order required).zipIdx.map fun (row, index) => renumbered index row)[j]? =
        some (methodRow j path value) := by
  obtain ⟨value, hrow⟩ := hrequired.row i path hpath
  refine ⟨value, hrow, ?_⟩
  have harranged : (arranged order required)[j]? = some (methodRow i path value) := by
    rw [getElem?_arranged fun k hk => hrequired.length ▸ lt_of_order horder k hk, hi]
    exact hrow
  rw [List.getElem?_map, List.getElem?_zipIdx, harranged, Nat.zero_add]
  exact congrArg some renumbered_methodRow

/-- Rows can be moved to their places exactly if they stand there in the given order. -/
theorem moved_iff (hpaths : paths.Nodup) (hrequired : MethodRows paths required)
    (horder : order.Perm (List.range paths.length)) :
    (rows.length = paths.length ∧ ∃ moved, paths.zipIdx.mapM (fun (pointer, index) =>
      movedRow rows ((arranged order paths).idxOf pointer) index pointer) = .ok moved ∧
        SameRows moved required) ↔
    SameRows rows ((arranged order required).zipIdx.map fun (row, index) => renumbered index row) := by
  have hlt := lt_of_order horder
  have hsize : order.length = paths.length := by rw [horder.length_eq, List.length_range]
  have hlength : ((arranged order required).zipIdx.map fun (row, index) =>
      renumbered index row).length = paths.length := by
    rw [List.length_map, List.length_zipIdx,
      length_arranged fun k hk => hrequired.length ▸ hlt k hk, hsize]
  -- a path stands in the retained list where its index stands in the order
  have hplace : ∀ (j i : Nat) path, order[j]? = some i → paths[i]? = some path →
      (arranged order paths).idxOf path = j := by
    intro j i path hi hpath
    have hretained : (arranged order paths)[j]? = some path := by
      rw [getElem?_arranged hlt, hi]
      exact hpath
    obtain ⟨hj, rfl⟩ := List.getElem?_eq_some_iff.mp hretained
    exact List.Nodup.idxOf_getElem ((arranged_perm horder).nodup_iff.mpr hpaths) j hj
  have hmoved : (∃ moved, paths.zipIdx.mapM (fun (pointer, index) =>
      movedRow rows ((arranged order paths).idxOf pointer) index pointer) = .ok moved ∧
        SameRows moved required) ↔
      ∀ (j i : Nat) path value, order[j]? = some i → paths[i]? = some path →
        required[i]? = some (methodRow i path value) →
          ∃ row, rows[j]? = some row ∧ sameRow row (methodRow j path value) = true := by
    simp only [sameRows_iff_zipIdx hrequired.length, mapM_related_iff]
    constructor
    · intro h j i path value hi hpath hrow
      have hmem : (path, i) ∈ paths.zipIdx := by
        rw [List.mem_zipIdx_iff_getElem?]
        exact hpath
      obtain ⟨moved, hmoved, other, hother, hsame⟩ := h _ hmem
      rw [hrow] at hother
      cases hother
      rw [hplace j i path hi hpath] at hmoved
      exact movedRow_iff.mp ⟨moved, hmoved, hsame⟩
    · rintro h ⟨path, i⟩ hmem
      rw [List.mem_zipIdx_iff_getElem?] at hmem
      obtain ⟨value, hrow⟩ := hrequired.row i path hmem
      obtain ⟨hi, -⟩ := List.getElem?_eq_some_iff.mp hmem
      obtain ⟨j, hj⟩ := List.getElem?_of_mem (horder.mem_iff.mpr (List.mem_range.mpr hi))
      obtain ⟨moved, hmoved, hsame⟩ := movedRow_iff.mpr (h j i path value hj hmem hrow)
      refine ⟨moved, ?_, _, hrow, hsame⟩
      rw [hplace j i path hj hmem]
      exact hmoved
  rw [hmoved, SameRows, forall₂_iff_getElem?, hlength]
  apply and_congr_right
  intro hrows
  constructor
  · intro h j row other hrow hother
    obtain ⟨hj, -⟩ := List.getElem?_eq_some_iff.mp hrow
    have hi := List.getElem?_eq_getElem (show j < order.length by omega)
    have hpath := List.getElem?_eq_getElem (hlt _ (List.getElem_mem (show j < order.length by omega)))
    obtain ⟨value, hrequiredRow, hrearranged⟩ := getElem?_rearrangedRows hrequired horder hi hpath
    rw [hrearranged] at hother
    cases hother
    obtain ⟨row', hrow', hsame⟩ := h j _ _ value hi hpath hrequiredRow
    rw [hrow] at hrow'
    cases hrow'
    exact hsame
  · intro h j i path value hi hpath hrow
    obtain ⟨value', hrow', hrearranged⟩ := getElem?_rearrangedRows hrequired horder hi hpath
    rw [hrow] at hrow'
    cases hrow'
    obtain ⟨hj, -⟩ := List.getElem?_eq_some_iff.mp hi
    have hfound := List.getElem?_eq_getElem (show j < rows.length by omega)
    exact ⟨_, hfound, h j _ _ hfound hrearranged⟩

end Tables

section Facts

variable {floatValue : String → FloatValue} {actual facts : Fields}
  {paths retained : List String} {order : List Nat}

theorem pyEqItems_texts {items : List Json} {texts : List String} :
    pyEqItems floatValue items (texts.map Json.str) = true ↔ items = texts.map Json.str := by
  induction items generalizing texts with
  | nil => cases texts <;> simp [pyEqItems]
  | cons item items ih =>
      cases texts with
      | nil => simp [pyEqItems]
      | cons text texts => simp [pyEqItems, ih]

theorem pyEq_ofTexts {value : Json} {texts : List String} :
    pyEq floatValue value (ofTexts texts) = true ↔ value = ofTexts texts := by
  unfold ofTexts
  cases value with
  | arr items => simp [pyEq, pyEqItems_texts]
  | _ => simp [pyEq, numbersEq, numberOf]

variable (floatValue) in
/-- Facts that agree apart from the paths of the methods, which are given. -/
structure AgreeWith (retained : List String) (actual facts : Fields) : Prop where
  distinct : Distinct actual
  methods : lookup actual "Methods" = some (ofTexts retained)
  others : ∀ name, name ≠ "Methods" →
    Option.Rel (fun a b => pyEq floatValue a b = true) (lookup actual name) (lookup facts name)

/-- Facts equal others with given paths of the methods. -/
theorem pyEq_facts_iff {stated : Fields} (hdistinct : Distinct stated)
    (hmethods : lookup stated "Methods" = some (ofTexts retained))
    (hothers : ∀ name, name ≠ "Methods" → lookup stated name = lookup facts name) :
    pyEq floatValue (.obj actual) (.obj stated) = true ↔
      AgreeWith floatValue retained actual facts := by
  rw [pyEq_obj_iff_lookup hdistinct]
  constructor
  · rintro ⟨hactual, hrel⟩
    refine ⟨hactual, ?_, ?_⟩
    · have hvalue := hrel "Methods"
      rw [hmethods] at hvalue
      generalize lookup actual "Methods" = found at hvalue ⊢
      cases hvalue with
      | some heq => rw [pyEq_ofTexts.mp heq]
    · intro name hname
      rw [← hothers name hname]
      exact hrel name
  · rintro ⟨hactual, hfound, hrel⟩
    refine ⟨hactual, fun name => ?_⟩
    by_cases hname : name = "Methods"
    · rw [hname, hfound, hmethods]
      exact Option.Rel.some (pyEq_ofTexts.mpr rfl)
    · rw [hothers name hname]
      exact hrel name hname

/-- Facts with other paths of the methods put in agree exactly if they did before. -/
theorem agreeWith_assign (hfound : lookup actual "Methods" = some (ofTexts retained)) :
    AgreeWith floatValue paths (assign actual "Methods" (ofTexts paths)) facts ↔
      AgreeWith floatValue retained actual facts := by
  have hnames : (assign actual "Methods" (ofTexts paths)).map Prod.fst = actual.map Prod.fst := by
    rw [names_assign]
    apply if_pos
    by_contra hnone
    rw [← lookup_eq_none_iff, hfound] at hnone
    cases hnone
  have hdistinct : Distinct (assign actual "Methods" (ofTexts paths)) ↔ Distinct actual := by
    unfold Distinct
    rw [hnames]
  constructor
  · rintro ⟨hactual, -, hrel⟩
    refine ⟨hdistinct.mp hactual, hfound, fun name hname => ?_⟩
    rw [← lookup_assign_of_ne hname]
    exact hrel name hname
  · rintro ⟨hactual, -, hrel⟩
    refine ⟨hdistinct.mpr hactual, lookup_assign_self, fun name hname => ?_⟩
    rw [lookup_assign_of_ne hname]
    exact hrel name hname

theorem arranged_map {α β : Type} (f : α → β) (order : List Nat) (items : List α) :
    arranged order (items.map f) = (arranged order items).map f := by
  unfold arranged
  rw [List.map_filterMap]
  simp only [List.getElem?_map]

theorem pyEq_rearranged_iff (hdistinct : Distinct facts)
    (hmethods : lookup facts "Methods" = some (ofTexts paths)) :
    pyEq floatValue (.obj actual)
        (.obj (facts.map fun fact => (fact.1, rearrangedFact order fact.1 fact.2))) = true ↔
      AgreeWith floatValue (arranged order paths) actual facts := by
  apply pyEq_facts_iff
  · unfold Distinct
    rw [List.map_map]
    exact hdistinct
  · rw [lookup_map, hmethods]
    simp [rearrangedFact, ofTexts, arranged_map]
  · intro name hname
    rw [lookup_map]
    cases lookup facts name with
    | none => rfl
    | some value => cases value <;> simp [rearrangedFact, hname]

end Facts

section Replaced

theorem sameTable_iff {a b : CompositeTable} : sameTable a b = true ↔
    a.tableId = b.tableId ∧ a.title = b.title ∧ a.columns = b.columns ∧ SameRows a.rows b.rows := by
  unfold sameTable SameRows
  rw [List.forall₂_iff_zip]
  simp only [Bool.and_eq_true, beq_iff_eq, decide_eq_true_eq, List.all_eq_true, and_assoc]
  apply and_congr_right'
  apply and_congr_right'
  apply and_congr_right'
  apply and_congr_right'
  exact ⟨fun h a b hab => h (a, b) hab, fun h pair hpair => h hpair⟩

/-- Lists of tables that are equal apart from their first tables of the methods. -/
def SameOthers : List CompositeTable → List CompositeTable → Prop
  | [], [] => True
  | a :: as, b :: bs =>
      if a.tableId = "Methods" then b.tableId = "Methods" ∧ sameTables as bs = true
      else sameTable a b = true ∧ SameOthers as bs
  | _, _ => False

theorem sameTables_cons {a b : CompositeTable} {as bs : List CompositeTable} :
    sameTables (a :: as) (b :: bs) = true ↔ sameTable a b = true ∧ sameTables as bs = true := by
  unfold sameTables
  simp only [List.length_cons, List.zip_cons_cons, List.all_cons, Bool.and_eq_true, beq_iff_eq,
    Nat.add_right_cancel_iff]
  tauto

variable {actual required : List CompositeTable} {table other new : CompositeTable}

theorem find?_methods_cons {a : CompositeTable} {as : List CompositeTable} :
    (a :: as).find? (·.tableId = "Methods") =
      if a.tableId = "Methods" then some a else as.find? (·.tableId = "Methods") := by
  rw [List.find?_cons]
  by_cases h : a.tableId = "Methods" <;> simp [h]

theorem sameTables_replace_left (htable : actual.find? (·.tableId = "Methods") = some table)
    (hother : required.find? (·.tableId = "Methods") = some other) (hnew : new.tableId = "Methods") :
    sameTables (replaceTable new actual) required = true ↔
      sameTable new other = true ∧ SameOthers actual required := by
  induction actual generalizing required with
  | nil => cases htable
  | cons a as ih =>
      cases required with
      | nil => cases hother
      | cons b bs =>
          rw [find?_methods_cons] at htable hother
          rw [replaceTable, hnew, SameOthers]
          by_cases ha : a.tableId = "Methods"
          · rw [if_pos ha, if_pos ha, sameTables_cons]
            by_cases hb : b.tableId = "Methods"
            · rw [if_pos hb] at hother
              cases hother
              simp [hb]
            · have hne : ¬ sameTable new b = true := fun h =>
                hb ((sameTable_iff.mp h).1.symm.trans hnew)
              simp [hb, hne]
          · rw [if_neg ha, if_neg ha, sameTables_cons]
            rw [if_neg ha] at htable
            by_cases hb : b.tableId = "Methods"
            · have hne : ¬ sameTable a b = true := fun h => ha ((sameTable_iff.mp h).1.trans hb)
              simp [hne]
            · rw [if_neg hb] at hother
              rw [ih htable hother]
              tauto

theorem sameTables_replace_right (hother : required.find? (·.tableId = "Methods") = some other)
    (hnew : new.tableId = "Methods") :
    sameTables actual (replaceTable new required) = true ↔
      ∃ table, actual.find? (·.tableId = "Methods") = some table ∧ sameTable table new = true ∧
        SameOthers actual required := by
  induction required generalizing actual with
  | nil => cases hother
  | cons b bs ih =>
      rw [find?_methods_cons] at hother
      rw [replaceTable, hnew]
      cases actual with
      | nil =>
          by_cases hb : b.tableId = "Methods" <;> simp [hb, sameTables]
      | cons a as =>
          rw [find?_methods_cons, SameOthers]
          by_cases hb : b.tableId = "Methods"
          · rw [if_pos hb, sameTables_cons]
            by_cases ha : a.tableId = "Methods"
            · simp [ha, hb]
            · have hne : ¬ sameTable a new = true := fun h => ha ((sameTable_iff.mp h).1.trans hnew)
              have hne' : ¬ sameTable a b = true := fun h => ha ((sameTable_iff.mp h).1.trans hb)
              simp [ha, hne, hne']
          · rw [if_neg hb, sameTables_cons]
            rw [if_neg hb] at hother
            by_cases ha : a.tableId = "Methods"
            · have hne : ¬ sameTable a b = true := fun h =>
                hb ((sameTable_iff.mp h).1.symm.trans ha)
              simp [ha, hb, hne]
            · rw [if_neg ha, if_neg ha, ih hother]
              tauto

theorem replaceTable_self (h : actual.find? (·.tableId = "Methods") = some table) :
    replaceTable table actual = actual := by
  induction actual with
  | nil => cases h
  | cons a as ih =>
      have hname : table.tableId = "Methods" := by simpa using List.find?_some h
      rw [find?_methods_cons] at h
      rw [replaceTable, hname]
      by_cases ha : a.tableId = "Methods"
      · rw [if_pos ha] at h ⊢
        cases h
        rfl
      · rw [if_neg ha] at h ⊢
        rw [ih h]

end Replaced

section Comparison

variable {floatValue : String → FloatValue} {actual expected : Dataset} {paths : List String}

/-- The methods of a dataset stand at their places. -/
structure Bound (paths : List String) (d : Dataset) : Prop where
  nodup : paths.Nodup
  distinct : Distinct d.facts
  methods : lookup d.facts "Methods" = some (ofTexts paths)
  table : ∃ table, d.tables.find? (·.tableId = "Methods") = some table ∧ MethodRows paths table.rows

variable (floatValue) in
/-- The methods of a dataset stand in some order, and the rest is equal. -/
structure Ordered (actual expected : Dataset) (paths : List String) (order : List Nat) : Prop where
  perm : order.Perm (List.range paths.length)
  facts : AgreeWith floatValue (arranged order paths) actual.facts expected.facts
  tables : ∃ table other, actual.tables.find? (·.tableId = "Methods") = some table ∧
    expected.tables.find? (·.tableId = "Methods") = some other ∧
    sameTable table (rearrangedTable order other) = true ∧ SameOthers actual.tables expected.tables

theorem methodId_of_find? {tables : List CompositeTable} {table : CompositeTable}
    (h : tables.find? (·.tableId = "Methods") = some table) : table.tableId = "Methods" := by
  simpa using List.find?_some h

theorem isRearrangement_iff (h : Bound paths expected) :
    IsRearrangement floatValue actual expected ↔ ∃ order, Ordered floatValue actual expected paths order := by
  obtain ⟨other, hother, hrows⟩ := h.table
  have hcount : (methodRows expected).length = paths.length := by
    unfold methodRows
    rw [hother]
    exact hrows.length
  have hname := methodId_of_find? hother
  have hnew : ∀ order, (rearrangedTable order other).tableId = "Methods" := fun _ => hname
  unfold IsRearrangement SameProjection rearranged rearrangedTables
  rw [hcount, hother]
  apply exists_congr
  intro order
  dsimp only
  rw [pyEq_rearranged_iff h.distinct h.methods, sameTables_replace_right hother (hnew order)]
  constructor
  · rintro ⟨horder, hfacts, table, htable, hsame, hrest⟩
    exact ⟨horder, hfacts, table, other, htable, hother, hsame, hrest⟩
  · rintro ⟨horder, hfacts, table, other', htable, hother', hsame, hrest⟩
    cases hother.symm.trans hother'
    exact ⟨horder, hfacts, table, htable, hsame, hrest⟩

/-- Distinct items stay where they are only in their own order. -/
theorem order_eq_range {order : List Nat} (hpaths : paths.Nodup)
    (horder : order.Perm (List.range paths.length)) (h : arranged order paths = paths) :
    order = List.range paths.length := by
  have hlt := lt_of_order horder
  apply List.ext_getElem
  · rw [horder.length_eq]
  · intro j hj hj'
    have hpath := getElem?_arranged hlt j
    rw [h, List.getElem?_eq_getElem hj, Option.bind_some] at hpath
    have hi := hlt _ (List.getElem_mem hj)
    rw [List.length_range] at hj'
    rw [List.getElem?_eq_getElem hj', List.getElem?_eq_getElem hi, Option.some.injEq] at hpath
    rw [List.getElem_range]
    exact ((List.Nodup.getElem_inj_iff hpaths).mp hpath).symm

theorem rearrangedTable_range {other : CompositeTable} (h : MethodRows paths other.rows) :
    rearrangedTable (List.range paths.length) other = other := by
  have hrows : ((arranged (List.range paths.length) other.rows).zipIdx.map fun (row, index) =>
      renumbered index row) = other.rows := by
    apply List.ext_getElem?
    intro j
    by_cases hj : j < paths.length
    · obtain ⟨value, hrow, hrearranged⟩ := getElem?_rearrangedRows h (List.Perm.refl _)
        (List.getElem?_range hj) (List.getElem?_eq_getElem hj)
      rw [hrow, hrearranged]
    · have hnone : other.rows[j]? = none := by
        rw [List.getElem?_eq_none_iff, h.length]
        omega
      rw [hnone, List.getElem?_eq_none_iff, List.length_map, List.length_zipIdx,
        length_arranged fun i hi => h.length ▸ List.mem_range.mp hi, List.length_range]
      omega
  unfold rearrangedTable
  rw [hrows]

theorem requireCompleteProjection_eq_ok {sameFacts : Json → Json → Bool} :
    requireCompleteProjection sameFacts actual expected = .ok () ↔
      ∃ normalized, normalizeMethodOrder actual expected = .ok normalized ∧
        sameFacts (.obj normalized.facts) (.obj expected.facts) = true ∧
        sameTables normalized.tables expected.tables = true := by
  unfold requireCompleteProjection
  rw [bind_eq_ok]
  apply exists_congr
  intro normalized
  apply and_congr_right'
  cases sameFacts (.obj normalized.facts) (.obj expected.facts) with
  | false => simp [bind, Except.bind]
  | true =>
      cases sameTables normalized.tables expected.tables with
      | false => simp
      | true => simp [pure, Except.pure]

/-- A dataset whose methods are in their own order is compared as it is. -/
theorem ordered_range_iff (h : Bound paths expected) :
    SameProjection floatValue actual expected ↔
      Ordered floatValue actual expected paths (List.range paths.length) := by
  obtain ⟨other, hother, hrows⟩ := h.table
  have htables : sameTables actual.tables _ = true ↔ _ :=
    sameTables_replace_right hother (methodId_of_find? hother)
  rw [replaceTable_self hother] at htables
  unfold SameProjection
  rw [pyEq_facts_iff h.distinct h.methods fun _ _ => rfl, htables]
  constructor
  · rintro ⟨hfacts, table, htable, hsame, hrest⟩
    refine ⟨List.Perm.refl _, ?_, table, other, htable, hother, ?_, hrest⟩
    · rw [arranged_range]
      exact hfacts
    · rw [rearrangedTable_range hrows]
      exact hsame
  · rintro ⟨-, hfacts, table, other', htable, hother', hsame, hrest⟩
    cases hother.symm.trans hother'
    rw [arranged_range] at hfacts
    rw [rearrangedTable_range hrows] at hsame
    exact ⟨hfacts, table, htable, hsame, hrest⟩

/-- The table that takes the place of the retained methods. -/
def movedTable (table : CompositeTable) (rows : List CompositeRow) : CompositeTable :=
  { table with rows := rows }

theorem retainedPaths_eq_ok {value : Json} {retained : List String} :
    retainedPaths value = .ok retained ↔ value = ofTexts retained := by
  constructor
  · intro h
    unfold retainedPaths at h
    split at h
    · rename_i texts items htexts
      cases h
      have hpairs := mapM_eq_ok.mp htexts
      have hitems : items = retained.map Json.str := by
        rw [← List.forall₂_eq_eq_eq, List.forall₂_map_right_iff]
        refine hpairs.imp fun item text htext => ?_
        cases item with
        | str other => exact congrArg Json.str (Except.ok.inj htext)
        | _ => cases htext
      rw [hitems]
      rfl
    · cases h
  · rintro rfl
    unfold retainedPaths
    have htexts : ((itemsOf (ofTexts retained)).bind fun items => items.mapM textOf) = .ok retained :=
      texts_of_ofTexts retained
    rw [htexts]
    rfl

/-- What the comparison makes of method paths that are not the required ones. -/
theorem normalize_eq_ok {normalized : Dataset} {value : Json} (h : Bound paths expected)
    (hvalue : (lookup actual.facts "Methods").getD .null = value) (hne : value ≠ ofTexts paths) :
    normalizeMethodOrder actual expected = .ok normalized ↔
      ∃ retained table other rows, value = ofTexts retained ∧ retained.Perm paths ∧
        actual.tables.find? (·.tableId = "Methods") = some table ∧
        expected.tables.find? (·.tableId = "Methods") = some other ∧
        table.rows.length = retained.length ∧
        paths.zipIdx.mapM (fun (pointer, index) =>
          movedRow table.rows (retained.idxOf pointer) index pointer) = .ok rows ∧
        sameTable (movedTable table rows) other = true ∧
        normalized = ⟨actual.document, assign actual.facts "Methods" (ofTexts paths),
          replaceTable (movedTable table rows) actual.tables⟩ := by
  have hread : subscript (.obj expected.facts) "Methods" = .ok (ofTexts paths) := by
    simp only [subscript, h.methods]
  unfold normalizeMethodOrder
  dsimp only
  rw [hvalue, hread]
  constructor
  · intro hn
    obtain ⟨_, hmethods, hn⟩ := bind_eq_ok.mp hn
    cases hmethods
    obtain ⟨items, hitems, hn⟩ := bind_eq_ok.mp hn
    cases hitems
    obtain ⟨required, hrequired, hn⟩ := bind_eq_ok.mp hn
    cases (texts_of_ofTexts paths).symm.trans hrequired
    rw [if_neg hne] at hn
    obtain ⟨retained, hretained, hn⟩ := bind_eq_ok.mp hn
    split at hn
    · cases hn
    · rename_i hsorted
      split at hn
      · rename_i table other htable hother
        split at hn
        · cases hn
        · rename_i hlength
          obtain ⟨rows, hrows, hn⟩ := bind_eq_ok.mp hn
          split at hn
          · rename_i hsame
            cases hn
            exact ⟨retained, table, other, rows, retainedPaths_eq_ok.mp hretained,
              sortedTexts_inj.mp (not_not.mp hsorted), htable, hother, not_not.mp hlength, hrows,
              hsame, rfl⟩
          · cases hn
      · cases hn
  · rintro ⟨retained, table, other, rows, rfl, hperm, htable, hother, hlength, hrows, hsame, rfl⟩
    refine bind_eq_ok.mpr ⟨_, rfl, bind_eq_ok.mpr ⟨_, rfl,
      bind_eq_ok.mpr ⟨paths, texts_of_ofTexts paths, ?_⟩⟩⟩
    rw [if_neg hne]
    refine bind_eq_ok.mpr ⟨retained, retainedPaths_eq_ok.mpr rfl, ?_⟩
    rw [if_neg (not_not_intro (sortedTexts_inj.mpr hperm)), htable, hother]
    dsimp only
    rw [if_neg (not_not_intro hlength)]
    exact bind_eq_ok.mpr ⟨rows, hrows, if_pos hsame⟩

/-- Method paths in another order are accepted exactly if the methods stand in that order. -/
theorem normalize_of_ne {value : Json} (h : Bound paths expected)
    (hvalue : (lookup actual.facts "Methods").getD .null = value) (hne : value ≠ ofTexts paths) :
    (∃ normalized, normalizeMethodOrder actual expected = .ok normalized ∧
      SameProjection floatValue normalized expected) ↔
    ∃ order, Ordered floatValue actual expected paths order ∧ value = ofTexts (arranged order paths) := by
  obtain ⟨other, hother, hrequired⟩ := h.table
  have hfound : ∀ texts, value = ofTexts texts → lookup actual.facts "Methods" = some (ofTexts texts) := by
    rintro texts rfl
    cases hlookup : lookup actual.facts "Methods" with
    | none =>
        rw [hlookup] at hvalue
        cases hvalue
    | some found =>
        rw [hlookup] at hvalue
        exact congrArg some hvalue
  simp only [normalize_eq_ok h hvalue hne]
  constructor
  · rintro ⟨normalized, ⟨retained, table, other', rows, htexts, hperm, htable, hother', hlength, hrows,
      hsame, rfl⟩, hfacts, htables⟩
    cases hother.symm.trans hother'
    obtain ⟨order, horder, rfl⟩ := exists_order h.nodup hperm
    have hname := methodId_of_find? htable
    have hmoved : (movedTable table rows).tableId = "Methods" := hname
    rw [pyEq_facts_iff h.distinct h.methods fun _ _ => rfl,
      agreeWith_assign (hfound _ htexts)] at hfacts
    rw [sameTables_replace_left htable hother hmoved] at htables
    obtain ⟨hid, htitle, hcolumns, hsameRows⟩ := sameTable_iff.mp htables.1
    have hrearranged := (moved_iff h.nodup hrequired horder).mp
      ⟨hlength.trans hperm.length_eq, rows, hrows, hsameRows⟩
    refine ⟨order, ⟨horder, hfacts, table, other, htable, hother, ?_, htables.2⟩, htexts⟩
    exact sameTable_iff.mpr ⟨hid, htitle, hcolumns, hrearranged⟩
  · rintro ⟨order, ⟨horder, hfacts, table, other', htable, hother', hsame, hrest⟩, htexts⟩
    cases hother.symm.trans hother'
    have hperm := arranged_perm horder
    obtain ⟨hid, htitle, hcolumns, hrearranged⟩ := sameTable_iff.mp hsame
    obtain ⟨hlength, rows, hrows, hsameRows⟩ := (moved_iff h.nodup hrequired horder).mpr hrearranged
    have hsameTable : sameTable (movedTable table rows) other = true :=
      sameTable_iff.mpr ⟨hid, htitle, hcolumns, hsameRows⟩
    have hname := methodId_of_find? htable
    have hmoved : (movedTable table rows).tableId = "Methods" := hname
    refine ⟨_, ⟨_, table, other, rows, htexts, hperm, htable, hother,
      hlength.trans hperm.length_eq.symm, hrows, hsameTable, rfl⟩, ?_, ?_⟩
    · rw [pyEq_facts_iff h.distinct h.methods fun _ _ => rfl, agreeWith_assign (hfound _ htexts)]
      exact hfacts
    · exact (sameTables_replace_left htable hother hmoved).mpr ⟨hsameTable, hrest⟩

/-- The comparison accepts a dataset exactly if its methods stand in some order. -/
theorem accepts_iff (h : Bound paths expected) :
    requireCompleteProjection (pyEq floatValue) actual expected = .ok () ↔
      ∃ order, Ordered floatValue actual expected paths order := by
  have hsplit : requireCompleteProjection (pyEq floatValue) actual expected = .ok () ↔
      ∃ normalized, normalizeMethodOrder actual expected = .ok normalized ∧
        SameProjection floatValue normalized expected := requireCompleteProjection_eq_ok
  rw [hsplit]
  by_cases hown : (lookup actual.facts "Methods").getD .null = ofTexts paths
  · have hnormalized : normalizeMethodOrder actual expected = .ok actual := by
      have hread : subscript (.obj expected.facts) "Methods" = .ok (ofTexts paths) := by
        simp only [subscript, h.methods]
      unfold normalizeMethodOrder
      dsimp only
      rw [hown, hread]
      exact bind_eq_ok.mpr ⟨_, rfl, bind_eq_ok.mpr ⟨_, rfl,
        bind_eq_ok.mpr ⟨paths, texts_of_ofTexts paths, if_pos rfl⟩⟩⟩
    rw [hnormalized]
    constructor
    · rintro ⟨normalized, heq, hsame⟩
      cases heq
      exact ⟨_, (ordered_range_iff h).mp hsame⟩
    · rintro ⟨order, hordered⟩
      have hmethods := hordered.facts.methods
      rw [hmethods, Option.getD_some, ofTexts_inj] at hown
      rw [order_eq_range h.nodup hordered.perm hown] at hordered
      exact ⟨actual, rfl, (ordered_range_iff h).mpr hordered⟩
  · rw [normalize_of_ne h rfl hown]
    constructor
    · rintro ⟨order, hordered, -⟩
      exact ⟨order, hordered⟩
    · rintro ⟨order, hordered⟩
      exact ⟨order, hordered, by rw [hordered.facts.methods]; rfl⟩

end Comparison

section Projections

variable {py : Runtime} {co : Coercions} {document : Fields} {paths : List String}
  {d d' : Dataset}

theorem resolvePart_lookup {fields : Fields} {name : String} {child : Json}
    (h : lookup fields name = some child) :
    resolvePart (.obj fields) (segment (.key name)).toList = .ok child := by
  simp only [resolvePart, segment, unescapeKey_escapeKey, h]

theorem resolve_methodPlace (h : lookup d.facts "Methods" = some (ofTexts paths)) {index : Nat}
    {path : String} (hpath : paths[index]? = some path) :
    resolveSourcePointer d.json (methodPlace index) = .ok (.str path) := by
  have hplace : methodPlace index =
      pointerTo "" [.key "report_facts", .key "Methods", .index index] := by
    have hfacts : segment (.key "report_facts") = "report_facts" := by decide +kernel
    have hmethods : segment (.key "Methods") = "Methods" := by decide +kernel
    simp only [pointerTo_cons, pointerTo_nil, hfacts, hmethods]
    rfl
  have hitem : ((paths.map Json.str)[index]?) = some (.str path) := by
    rw [List.getElem?_map, hpath]
    rfl
  unfold resolveSourcePointer
  rw [hplace, pointerParts_pointerTo]
  simp only [show pointerParts "" = [] by decide, List.nil_append, List.map_cons, List.map_nil,
    List.foldlM_cons, List.foldlM_nil]
  refine bind_eq_ok.mpr ⟨_, resolvePart_lookup lookup_assign_self, ?_⟩
  refine bind_eq_ok.mpr ⟨_, resolvePart_lookup h, ?_⟩
  exact bind_eq_ok.mpr ⟨_, resolvePart_index hitem, rfl⟩

theorem methodRows_pointerTable {table : CompositeTable}
    (hmethods : lookup d.facts "Methods" = some (ofTexts paths))
    (h : pointerTable py d.json "Methods" paths = .ok table) : MethodRows paths table.rows := by
  obtain ⟨currency, -, h⟩ := bind_eq_ok.mp h
  obtain ⟨rows, hrows, h⟩ := bind_eq_ok.mp h
  rw [checkedTable_eq h]
  rw [buildRows, mapM_eq_ok, List.forall₂_map_left_iff, forall₂_iff_getElem?] at hrows
  obtain ⟨hlength, hrows⟩ := hrows
  rw [List.length_zipIdx] at hlength
  refine ⟨hlength.symm, fun i path hpath => ?_⟩
  obtain ⟨hi, -⟩ := List.getElem?_eq_some_iff.mp hpath
  have hrow := List.getElem?_eq_getElem (hlength ▸ hi : i < rows.length)
  have hpair : paths.zipIdx[i]? = some (path, i) := by
    rw [List.getElem?_zipIdx, hpath, Nat.zero_add]
    rfl
  obtain ⟨cells, hcells, hbuilt⟩ := bind_eq_ok.mp (hrows i _ _ hpair hrow)
  simp only [List.mapM_cons, List.mapM_nil] at hcells
  obtain ⟨first, hfirst, hcells⟩ := bind_eq_ok.mp hcells
  obtain ⟨field, hfield, hfirst⟩ := bind_eq_ok.mp hfirst
  obtain ⟨rest, hrest, hcells⟩ := bind_eq_ok.mp hcells
  obtain ⟨second, hsecond, hrest⟩ := bind_eq_ok.mp hrest
  obtain ⟨value, -, hsecond⟩ := bind_eq_ok.mp hsecond
  obtain ⟨_, hnil, hrest⟩ := bind_eq_ok.mp hrest
  have hplace : cellAt py d.json (methodPlace i) =
      .ok ⟨some path, .available, [], methodPlace i⟩ := by
    unfold cellAt
    rw [resolve_methodPlace hmethods hpath]
    rfl
  cases hplace.symm.trans hfield
  cases hfirst
  cases hsecond
  cases hnil
  cases hrest
  cases hcells
  refine ⟨value, ?_⟩
  rw [hrow]
  exact congrArg some (Except.ok.inj hbuilt).symm

/-- The methods stay at their places where other facts and tables change. -/
theorem Bound.keep (h : Bound paths d) (hdistinct : Distinct d'.facts)
    (hmethods : lookup d'.facts "Methods" = lookup d.facts "Methods")
    (htables : d'.tables.find? (·.tableId = "Methods") = d.tables.find? (·.tableId = "Methods")) :
    Bound paths d' := by
  refine ⟨h.nodup, hdistinct, hmethods.trans h.methods, ?_⟩
  rw [htables]
  exact h.table

theorem find?_moveToEnd {tables : List CompositeTable} {table : CompositeTable}
    (h : table.tableId ≠ "Methods") :
    (moveToEnd tables table).find? (·.tableId = "Methods") =
      tables.find? (·.tableId = "Methods") := by
  have hlast : [table].find? (·.tableId = "Methods") = none := by simp [h]
  unfold moveToEnd
  rw [List.find?_append, hlast, Option.or_none, List.find?_filter]
  congr 1
  funext other
  by_cases hother : other.tableId = "Methods"
  · simp [hother, h.symm]
  · simp [hother]

theorem distinct_withoutUncaptured {facts : Fields} (h : Distinct facts)
    (name : String) : Distinct (withoutUncaptured facts name) := by
  unfold Distinct withoutUncaptured
  rw [List.map_map]
  exact h

theorem Bound.moveToEnd (h : Bound paths d) {table : CompositeTable} {name : String}
    (hname : table.tableId ≠ "Methods") :
    Bound paths ⟨d.document, withoutUncaptured d.facts name, moveToEnd d.tables table⟩ :=
  h.keep (distinct_withoutUncaptured h.distinct name) (lookup_withoutUncaptured name)
    (find?_moveToEnd hname)

theorem tableId_tableOf {dataset : Json} {tableId : String} {columns : List ColumnPlan}
    {rows : List RowPlan} {table : CompositeTable}
    (h : tableOf py dataset tableId columns rows = .ok table) : table.tableId = tableId :=
  congrArg Layout.tableId (layout_tableOf h)

theorem distinct_reportFacts {document : Json} {facts : Fields}
    (h : reportFacts document = .ok facts) : Distinct facts := by
  obtain ⟨qualification, -, h⟩ := bind_eq_ok.mp h
  obtain ⟨publication, -, h⟩ := bind_eq_ok.mp h
  obtain ⟨digest, -, h⟩ := bind_eq_ok.mp h
  cases h
  unfold Distinct
  simp only [List.map_cons, List.map_nil]
  decide

/-- The primary projection has its methods at their places. -/
theorem bound_build (hwf : wellFormed (.obj document) = true) (hbinds : BindsMethods (.obj document))
    (h : buildCompositeTables py document = .ok d) : ∃ paths, Bound paths d := by
  unfold buildCompositeTables at h
  obtain ⟨facts, hfacts, h⟩ := bind_eq_ok.mp h
  obtain ⟨summaryTable, hsummary, h⟩ := bind_eq_ok.mp h
  obtain ⟨periodTable, hperiods, h⟩ := bind_eq_ok.mp h
  obtain ⟨contributionTable, hcontributions, h⟩ := bind_eq_ok.mp h
  obtain ⟨paths, hpaths, h⟩ := bind_eq_ok.mp h
  obtain ⟨methodTable, hmethods, h⟩ := bind_eq_ok.mp h
  obtain ⟨lineagePaths, -, h⟩ := bind_eq_ok.mp h
  obtain ⟨lineageTable, -, h⟩ := bind_eq_ok.mp h
  obtain ⟨disclosureTable, -, h⟩ := bind_eq_ok.mp h
  obtain ⟨uncaptured, -, h⟩ := bind_eq_ok.mp h
  cases h
  have hsummaryId : summaryTable.tableId ≠ "Methods" := by
    rw [tableId_tableOf hsummary]
    decide
  have hperiodId : periodTable.tableId ≠ "Methods" := by
    obtain ⟨_, monthly, -, hlayout⟩ := layout_periods hperiods
    have hname : periodTable.tableId = if monthly then "MonthlyReturns" else "PeriodReturns" :=
      congrArg Layout.tableId hlayout
    rw [hname]
    cases monthly <;> decide
  have hcontributionId : contributionTable.tableId ≠ "Methods" := by
    obtain ⟨_, -, hcontributions⟩ := bind_eq_ok.mp hcontributions
    obtain ⟨_, -, hcontributions⟩ := bind_eq_ok.mp hcontributions
    obtain ⟨_, -, hcontributions⟩ := bind_eq_ok.mp hcontributions
    split at hcontributions
    · rw [tableId_tableOf hcontributions]
      decide
    · rw [tableId_tableOf hcontributions]
      decide
  have hmethodId : methodTable.tableId = "Methods" := tableId_tableOf hmethods
  refine ⟨paths, nodup_methodPointers hwf hbinds hpaths, ?_, ?_, methodTable, ?_, ?_⟩
  · exact distinct_assign (distinct_assign (distinct_reportFacts hfacts) _ _) _ _
  · rw [lookup_assign_of_ne (by decide), lookup_assign_self]
  · simp only [List.cons_append, find?_methods_cons, if_neg hsummaryId, if_neg hperiodId,
      if_neg hcontributionId, if_pos hmethodId]
  · exact methodRows_pointerTable
      (d := ⟨document, assign facts "Methods" (ofTexts paths), []⟩) lookup_assign_self hmethods

theorem Bound.projectInception (h : Bound paths d)
    (hbuild : buildCompositeTables py document = .ok d)
    (hproject : projectInceptionTables py co document = .ok d') : Bound paths d' := by
  obtain ⟨base, hbase, hproject⟩ := bind_eq_ok.mp hproject
  cases hbuild.symm.trans hbase
  obtain ⟨reason, -, hproject⟩ := bind_eq_ok.mp hproject
  obtain ⟨cumulative, -, hproject⟩ := bind_eq_ok.mp hproject
  obtain ⟨rows, -, hproject⟩ := bind_eq_ok.mp hproject
  obtain ⟨table, htable, hproject⟩ := bind_eq_ok.mp hproject
  cases hproject
  refine h.keep (distinct_assign h.distinct _ _) (lookup_assign_of_ne (by decide)) ?_
  obtain ⟨other, hother, -⟩ := h.table
  rw [List.find?_append, hother, Option.some_or]

theorem Bound.projectProducts (h : Bound paths d) {products : List Json}
    (hproject : projectProductTables d products = .ok d') : Bound paths d' := by
  have hother : ∀ {dataset : Json} {kind tableId : String} {result : Option CompositeTable},
      productTable dataset products kind tableId = .ok result → tableId ≠ "Methods" →
        ∀ table ∈ result, table.tableId ≠ "Methods" := by
    intro dataset kind tableId result hresult hne table htable
    rw [tableId_productTable hresult table htable]
    exact hne
  obtain ⟨calendar, hcalendar, hproject⟩ := bind_eq_ok.mp hproject
  obtain ⟨trailing, htrailing, hproject⟩ := bind_eq_ok.mp hproject
  have hannual := hother hcalendar (by decide)
  have htrail := hother htrailing (by decide)
  cases calendar with
  | none =>
      cases trailing with
      | none =>
          cases hproject
          exact h
      | some table =>
          cases hproject
          exact h.keep h.distinct rfl (find?_moveToEnd (htrail table rfl))
  | some table =>
      have hmoved : Bound paths ⟨d.document, withoutUncaptured d.facts "AnnualReturns",
        SourceContext.moveToEnd d.tables table⟩ := h.moveToEnd (hannual table rfl)
      cases trailing with
      | none =>
          cases hproject
          exact hmoved
      | some table' =>
          cases hproject
          exact hmoved.keep hmoved.distinct rfl (find?_moveToEnd (htrail table' rfl))

theorem Bound.projectHistory (h : Bound paths d) {memberships : List Json}
    (hproject : projectMembershipHistory d memberships = .ok d') : Bound paths d' := by
  obtain ⟨plans, -, hproject⟩ := bind_eq_ok.mp hproject
  obtain ⟨rows, -, hproject⟩ := bind_eq_ok.mp hproject
  obtain ⟨table, htable, hproject⟩ := bind_eq_ok.mp hproject
  cases hproject
  apply h.moveToEnd
  rw [checkedTable_eq htable]
  show "MembershipHistory" ≠ "Methods"
  decide

theorem bound_projection (hwf : wellFormed (.obj document) = true)
    (hbinds : BindsMethods (.obj document)) (h : IsProjection py co document d) :
    ∃ paths, Bound paths d := by
  cases h with
  | primary h => exact bound_build hwf hbinds h
  | products products hbase h =>
      obtain ⟨paths, hbound⟩ := bound_build hwf hbinds hbase
      exact ⟨paths, hbound.projectProducts h⟩
  | sourceContext h =>
      obtain ⟨since, -, h⟩ := bind_eq_ok.mp h
      obtain ⟨first, hfirst, h⟩ := bind_eq_ok.mp h
      obtain ⟨products, -, h⟩ := bind_eq_ok.mp h
      obtain ⟨second, hsecond, h⟩ := bind_eq_ok.mp h
      obtain ⟨value, -, h⟩ := bind_eq_ok.mp h
      obtain ⟨memberships, -, h⟩ := bind_eq_ok.mp h
      have hbound : ∃ paths, Bound paths first := by
        split at hfirst
        · obtain ⟨base, hbase, -⟩ := bind_eq_ok.mp hfirst
          obtain ⟨paths, hbound⟩ := bound_build hwf hbinds hbase
          exact ⟨paths, hbound.projectInception hbase hfirst⟩
        · exact bound_build hwf hbinds hfirst
      obtain ⟨paths, hbound⟩ := hbound
      have hbound' : Bound paths second := by
        split at hsecond
        · cases hsecond
          exact hbound
        · exact hbound.projectProducts hsecond
      refine ⟨paths, ?_⟩
      split at h
      · cases h
        exact hbound'
      · exact hbound'.projectHistory h

end Projections

section Results

variable {floatValue : String → FloatValue} {py : Runtime} {co : Coercions} {expected : Dataset}

theorem methodValue_of_sameRow {row : CompositeRow} {i j : Nat} {path : String}
    {value : CompositeCell} (h : sameRow row (methodRow j path value) = true) :
    methodValue row = methodValue (methodRow i path value) := by
  unfold methodValue
  rcases (sameRow_methodRow.mp h).2 with hcells | hcells
  · rw [hcells]
    rfl
  · rw [hcells]
    rfl

theorem methodValues_perm {actual : Dataset} {paths : List String} {order : List Nat}
    (h : Bound paths expected) (hordered : Ordered floatValue actual expected paths order) :
    (methodValues actual).Perm (methodValues expected) := by
  obtain ⟨other, hother, hrequired⟩ := h.table
  obtain ⟨table, other', htable, hother', hsame, -⟩ := hordered.tables
  cases hother.symm.trans hother'
  have horder := hordered.perm
  have hrows := (sameTable_iff.mp hsame).2.2.2
  obtain ⟨hlength, hrows⟩ := forall₂_iff_getElem?.mp hrows
  have hcount : table.rows.length = paths.length := by
    rw [hlength]
    show ((arranged order other.rows).zipIdx.map _).length = _
    rw [List.length_map, List.length_zipIdx,
      length_arranged fun i hi => hrequired.length ▸ lt_of_order horder i hi, horder.length_eq,
      List.length_range]
  have hsize : order.length = paths.length := by rw [horder.length_eq, List.length_range]
  have hvalues : table.rows.map methodValue = arranged order (other.rows.map methodValue) := by
    rw [arranged_map]
    apply List.ext_getElem?
    intro j
    rw [List.getElem?_map, List.getElem?_map,
      getElem?_arranged fun i hi => hrequired.length ▸ lt_of_order horder i hi]
    by_cases hj : j < paths.length
    · have hi := List.getElem?_eq_getElem (show j < order.length by omega)
      have hpath := List.getElem?_eq_getElem
        (lt_of_order horder _ (List.getElem_mem (show j < order.length by omega)))
      have hrow := List.getElem?_eq_getElem (show j < table.rows.length by omega)
      obtain ⟨value, hrequiredRow, hrearranged⟩ := getElem?_rearrangedRows hrequired horder hi hpath
      have hvalue := methodValue_of_sameRow (i := order[j]) (hrows j _ _ hrow hrearranged)
      rw [hrow, hi, Option.bind_some, hrequiredRow, Option.map_some, Option.map_some, hvalue]
    · rw [List.getElem?_eq_none (by omega), List.getElem?_eq_none (by omega)]
      rfl
  unfold methodValues methodRows
  rw [htable, hother]
  dsimp only
  rw [hvalues]
  apply arranged_perm
  rw [List.length_map, hrequired.length]
  exact horder

/-- The comparison accepts exactly the rearrangements of a projection, and these keep the value of
every method. -/
theorem requireCompleteProjection_exact (floatValue : String → FloatValue) (expected : Projection py co)
    (actual : Dataset) :
    (requireCompleteProjection (pyEq floatValue) actual expected.dataset = .ok () ↔
      IsRearrangement floatValue actual expected.dataset) ∧
    (requireCompleteProjection (pyEq floatValue) actual expected.dataset = .ok () →
      (methodValues actual).Perm (methodValues expected.dataset)) := by
  obtain ⟨paths, hbound⟩ := bound_projection expected.wellFormed expected.binds expected.built
  constructor
  · rw [accepts_iff hbound, isRearrangement_iff hbound]
  · intro haccepted
    obtain ⟨order, hordered⟩ := (accepts_iff hbound).mp haccepted
    exact methodValues_perm hbound hordered

theorem requireCompleteProjection_exact_swapped : ∃ expected : Projection .verbatim .standard,
    expected.document = sampleDocument [] ∧
    requireCompleteProjection (pyEq fun _ => .nan) (rearranged [1, 0] expected.dataset)
      expected.dataset = .ok () ∧
    (methodValues (rearranged [1, 0] expected.dataset)).Perm (methodValues expected.dataset) := by
  have hsample : [] ∈ sampleBindings := List.mem_cons_self
  obtain ⟨d, hprojected, hdocument, hfacts, -⟩ := project_sample hsample
  have hbinds : BindsMethods (.obj (sampleDocument [])) := by
    rintro _ ⟨⟩
    exact List.forall_mem_singleton.mpr ⟨_, rfl⟩
  have hbuilt : IsProjection .verbatim .standard (sampleDocument []) d := .sourceContext hprojected
  obtain ⟨paths, hbound⟩ := bound_projection (wellFormed_sample _ hsample) hbinds hbuilt
  have hrows : (methodRows d).length = (sampleMethods []).length := by
    obtain ⟨table, htable, hrows⟩ := hbound.table
    have hmethods := hbound.methods
    rw [hfacts] at hmethods
    have htexts : sampleMethods [] = paths := ofTexts_inj.mp (Option.some.inj hmethods)
    rw [methodRows, htable, htexts]
    exact hrows.length
  have hself : pyEq (fun _ => .nan) (.obj (rearranged [1, 0] d).facts)
      (.obj (rearranged [1, 0] d).facts) = true := by
    simp only [rearranged, hfacts]
    decide +kernel
  have hexact := requireCompleteProjection_exact (fun _ => .nan)
    ⟨_, d, wellFormed_sample _ hsample, hbinds, hbuilt⟩ (rearranged [1, 0] d)
  have haccepted := hexact.1.mpr ⟨[1, 0], hrows ▸ .swap 0 1 [], hself, sameTables_self _⟩
  exact ⟨⟨_, d, wellFormed_sample _ hsample, hbinds, hbuilt⟩, rfl, haccepted, hexact.2 haccepted⟩

end Results

end LotusReport.Composite.SourceContext
