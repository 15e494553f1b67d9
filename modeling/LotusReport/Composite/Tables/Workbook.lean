import LotusReport.Composite.Tables.Display
import LotusReport.Decimals.Quotient
import LotusReport.Encoding.Days
import LotusReport.Encoding.Spaced
import LotusReport.Relational.Dictionary

/-!
# The workbook of a package

A package is projected onto sheets of literal texts: one for each table, the
evidence of every cell, the policy of every column, the identity of the
package, and the dataset. A cell of a sheet has room for a limited text, so
longer texts are cut into chunks: the identity fields are described and written
as JSON strings chunk by chunk, the dataset is cut as it is.
-/

namespace LotusReport.Composite

open Encoding Json Decimals

section Model

/-- The limit of one cell, in UTF-16 units. -/
def maxCellUtf16Units : Nat := 32767

/-- A sheet: its headers and its rows. -/
structure Sheet where
  headers : List String
  rows : List (List Json)

/-- `text[first:last]`. -/
def slice (text : String) (first last : Nat) : String :=
  String.ofList ((text.toList.drop first).take (last - first))

/-- `text.encode("ascii")`, which a character beyond that range refuses. -/
def encodeAscii (text : String) : Except CaptureError String :=
  if text.toList.all (·.toNat < 128) then .ok text else .error (.raised "UnicodeEncodeError")

def chunksName (key : String) : String := key ++ "__chunks"

def chunkName (key : String) (index : Nat) : String := key ++ "__chunk_" ++ padded 6 index

def chunkDescriptor (count bytes : Nat) (digest : String) : Json :=
  .obj [("encoding", .str "ordered_json_text_v1"), ("count", .int count), ("utf8_bytes", .int bytes),
    ("sha256", .str digest)]

/-- The rows of one field. -/
def identityFragment (py : Runtime) (key : String) (value : Json) :
    Except CaptureError (List (String × String)) :=
  let canonical := spacedText value
  if canonical.length ≤ maxCellUtf16Units then .ok [(key, canonical)]
  else do
    let count := ceilQuotient canonical.length 16000
    let digest := py.sha256 (← encodeAscii canonical)
    return (chunksName key, spacedText (chunkDescriptor count canonical.length digest)) ::
      (List.range count).map fun index =>
        (chunkName key index, quote true (slice canonical (index * 16000) ((index + 1) * 16000)))

/-- `_identity_fragments`. -/
def identityFragments (py : Runtime) (fields : Fields) :
    Except CaptureError (List (String × String)) := do
  let rows ← fields.mapM fun field => identityFragment py field.1 field.2
  return rows.flatten

/-- `separator.join(values)`. -/
def joinTexts (separator : String) (values : Json) : Except CaptureError String := do
  return separator.intercalate (← (← itemsOf values).mapM textOf)

/-- `text.removeprefix(start)`. -/
def removePrefix (text start : String) : String :=
  if startsWith text start then String.ofList (text.toList.drop start.length) else text

def signalName : Signal → String
  | .invalidOperation => "InvalidOperation"
  | .overflow => "Overflow"

/-- `_display` of the documents of a column and a cell. -/
def displayDocument (py : Runtime) (digitOf : Char → Option (Fin 10)) (column cell : Json) :
    Except CaptureError String := do
  let value ← subscript cell "canonical_value"
  if value = .null then
    return pyStr py (← subscript cell "availability") ++ ": " ++
      (← joinTexts ", " (← subscript cell "reason_codes"))
  match ← subscript column "display_decimal_places" with
  | .null => return pyStr py value
  | .int places =>
      let isRatio := (← subscript column "display_conversion") = .str "RATIO_TO_PERCENT_DISPLAY"
      let shown ← match displayNumber digitOf isRatio places (← textOf value) with
        | .ok shown => .ok shown
        | .error signal => .error (.raised (signalName signal))
      let unit ← subscript column "display_unit"
      let suffix := if unit = .str "PERCENT" then "%"
        else if unit = .str "PERCENTAGE_POINTS" then " pp" else ""
      if (← subscript column "value_type") = .str "MONEY" then
        return shown ++ " " ++ pyStr py (← subscript column "currency")
      return shown ++ suffix
  | _ => .error (.raised "TypeError")

/-- The sheet of a table: the displayed cells of each row. -/
def tableSheet (py : Runtime) (digitOf : Char → Option (Fin 10)) (table : Json) :
    Except CaptureError Sheet := do
  let columns ← itemsOf (← subscript table "columns")
  let labels ← columns.mapM fun column => do textOf (← subscript column "label")
  let rows ← (← itemsOf (← subscript table "rows")).mapM fun row => do
    let cells ← columns.mapM fun column => do
      let name ← textOf (← subscript column "column_id")
      let cell ← subscript (← subscript row "cells") name
      return Json.str (← displayDocument py digitOf column cell)
    return (← subscript row "row_id") :: cells
  return ⟨"Report row identity" :: labels, rows⟩

/-- What the sheet of policies says of a column. -/
def policyRow (py : Runtime) (table column : Json) : Except CaptureError (List Json) := do
  let currency ← subscript column "currency"
  return [← subscript table "table_id", ← subscript column "column_id", ← subscript column "label",
    ← subscript column "value_type", ← subscript column "unit", ← subscript column "display_unit",
    ← subscript column "display_conversion",
    .str (pyStr py (← subscript column "display_decimal_places")),
    ← subscript column "display_rounding_mode", if currency.truthy then currency else .str "",
    ← subscript column "scale", .str "LITERAL_TEXT"]

/-- `source_evidence_fields`. -/
def sourceEvidenceFields (table row column cell : Json) : Except CaptureError (List Json) := do
  let table ← textOf table
  let pointer ← subscript cell "source_pointer"
  let side (name capital : String) : Except CaptureError (List Json) := do
    return [.str name, .str "composite_review.v8", .str (removePrefix table (capital ++ "_")), row,
      column, .str (removePrefix (← textOf pointer) ("/generations/" ++ name ++ "/payload"))]
  if startsWith table "Before_" then side "before" "Before"
  else if startsWith table "After_" then side "after" "After"
  else return [.str "NOTICE", .str "", .str "", .str "", .str "", .str ""]

/-- What the sheet of evidence says of a cell. -/
def evidenceRow (data table row column : Json) : Except CaptureError (List Json) := do
  let tableId ← subscript table "table_id"
  let rowId ← subscript row "row_id"
  let columnId ← subscript column "column_id"
  let cell ← subscript (← subscript row "cells") (← textOf columnId)
  let evidence := [tableId, rowId, columnId, .str (spaced (← subscript cell "canonical_value")),
    ← subscript cell "availability", .str (spaced (← subscript cell "reason_codes")),
    ← subscript cell "source_pointer"]
  if (← subscript data "contract_version") = .str "composite_review.v9" then
    return evidence ++ (← sourceEvidenceFields tableId rowId columnId cell)
  return evidence

def evidenceHeaders (isNotice : Bool) : List String :=
  ["Table", "Row", "Column", "Canonical JSON scalar", "Availability", "Reasons JSON",
    "Source pointer"] ++
    if isNotice then ["Generation", "Original data contract", "Original source table",
      "Original source row", "Original source column", "Original source pointer"] else []

def policyHeaders : List String :=
  ["Table", "Column", "Label", "Type", "Source unit", "Display unit", "Conversion",
    "Decimal places", "Rounding", "Currency", "Scale", "Storage"]

/-- The members of a package that identify it. -/
def packageNames : List String :=
  ["render_package_version", "render_job_id", "report_job_id", "snapshot_id", "template_id",
    "template_version", "report_data_contract_version", "output_format", "lineage_refs",
    "disclosure_refs", "render_context"]

/-- What every identity sheet states beside the package. -/
def fixedFields : Fields :=
  [("template_digest", .str ("sha256:" ++ String.ofList (List.replicate 64 '0'))),
    ("canonical_precision", .str "Exact source text; never Excel numeric storage"),
    ("display_rounding",
      .str "Declared column decimal places; HALF_UP; source ratios remain ratios"),
    ("metadata_policy", .str "Fixed creation date 2000-01-01; no wall-clock content")]

/-- `notice_artifact_identity`. -/
def noticeArtifactIdentity (data : Json) : Except CaptureError Fields := do
  let generation (side : String) : Except CaptureError Json := do
    let names := ["selection", "contract_version", "capture_identity",
      "snapshot_response_bytes_sha256"]
    return .obj (← names.mapM fun name => do return (name, ← readAt data ["generations", side, name]))
  return [("comparison_profile", ← subscript data "comparison_profile"),
    ("pair_fingerprint", ← subscript data "pair_fingerprint"),
    ("manifest_digest", ← subscript data "manifest_digest"),
    ("before_generation", ← generation "before"), ("after_generation", ← generation "after"),
    ("notice_completeness", ← subscript data "notice_completeness")]

/-- The fields of the identity sheet. -/
def identityFields (package data : Json) : Except CaptureError Fields := do
  let stated ← packageNames.mapM fun name => do return (name, ← subscript package name)
  let version ← subscript data "contract_version"
  let boundary := if version = .str "composite_review.v7" then
    [("calculation_boundary", .str calculationBoundary)] else []
  let notice ← if version = .str "composite_review.v9" then noticeArtifactIdentity data else .ok []
  return stated ++ fixedFields ++ boundary ++ notice

/-- The dataset in chunks, each behind its index. -/
def datasetRows (data : Json) : List (List Json) :=
  let canonical := canonicalJson data
  (List.range ((canonical.length + 15999) / 16000)).map fun index =>
    [.str (toString index), .str (slice canonical (index * 16000) (index * 16000 + 16000))]

/-- What the projection takes from one table: its sheet, its policies and its evidence. -/
def projectTable (py : Runtime) (digitOf : Char → Option (Fin 10)) (data table : Json) :
    Except CaptureError (Sheet × List (List Json) × List (List Json)) := do
  let sheet ← tableSheet py digitOf table
  let columns ← itemsOf (← subscript table "columns")
  let policies ← columns.mapM (policyRow py table)
  let evidence ← (← itemsOf (← subscript table "rows")).mapM fun row =>
    columns.mapM (evidenceRow data table row)
  return (sheet, policies, evidence.flatten)

/-- `eligibility_workbook_projection`. -/
def eligibilityWorkbookProjection (py : Runtime) (digitOf : Char → Option (Fin 10))
    (package : Json) : Except CaptureError (List Sheet) := do
  let data ← subscript package "report_data"
  let tables ← (← itemsOf (← subscript data "tables")).mapM (projectTable py digitOf data)
  let isNotice := (← subscript data "contract_version") = .str "composite_review.v9"
  let fragments ← identityFragments py (← identityFields package data)
  return tables.map (·.1) ++ [⟨evidenceHeaders isNotice, tables.flatMap (·.2.2)⟩,
    ⟨policyHeaders, tables.flatMap (·.2.1)⟩,
    ⟨["Field", "Exact JSON value"], fragments.map fun row => [.str row.1, .str row.2]⟩,
    ⟨["Chunk", "Canonical pinned dataset JSON"], datasetRows data⟩]

end Model

section Statement

/-- The names that the chunks of a field take. -/
def IsChunkName (name : String) : Prop :=
  (∃ key, name = chunksName key) ∨ ∃ key index, name = chunkName key index

/-- A mapping of names to JSON values whose texts lie in memory: they are shorter than `2 ^ 53`
characters. -/
structure IdentityMapping where
  fields : Fields
  distinct : Distinct fields
  wellFormed : ∀ field ∈ fields, Json.wellFormed field.2 = true
  unchunked : ∀ field ∈ fields, ¬ IsChunkName field.1
  addressable : ∀ field ∈ fields, (spacedText field.2).length < 2 ^ 53

/-- A hexadecimal digest has 64 plain characters. -/
structure HexDigests (py : Runtime) : Prop where
  length : ∀ text, (py.sha256 text).length = 64
  plain : ∀ text, Plain (py.sha256 text)

/-- The text that a JSON string writes. -/
def decodeText (text : String) : Option String :=
  match readLeaf text with
  | some (.str decoded) => some decoded
  | _ => none

/-- The decoded chunks of a field in the order of their indices, put together. -/
def reassembled (rows : List (String × String)) (key : String) (count : Nat) : Option String :=
  ((List.range count).mapM fun index =>
    (rows.lookup (chunkName key index)).bind decodeText).map String.join

/-- The rows give a text back: by one row, or by its chunks under a right descriptor. -/
inductive Restores (py : Runtime) (rows : List (String × String)) (key text : String) : Prop
  | single (h : rows.lookup key = some text)
  | chunked (count : Nat) (described : rows.lookup (chunksName key) =
        some (spacedText (chunkDescriptor count text.utf8ByteSize (py.sha256 text))))
      (counted : ∀ index, chunkName key index ∈ rows.map Prod.fst ↔ index < count)
      (restored : reassembled rows key count = some text)

end Statement

section Slices

variable {text : String}

theorem flatMap_slices {α : Type} (items : List α) (size count : Nat) :
    (List.range count).flatMap (fun index => (items.drop (index * size)).take size) =
      items.take (count * size) := by
  induction count with
  | zero => simp
  | succ count ih =>
      rw [List.range_succ, List.flatMap_append, ih, Nat.succ_mul, List.take_add,
        List.flatMap_singleton]

theorem join_slices {size count : Nat} (h : text.length ≤ count * size) :
    String.join ((List.range count).map fun index =>
      slice text (index * size) (index * size + size)) = text := by
  apply String.ext
  have hslice : ∀ index : Nat, (slice text (index * size) (index * size + size)).toList =
      (text.toList.drop (index * size)).take size := by
    intro index
    rw [slice, String.toList_ofList, Nat.add_sub_cancel_left]
  rw [String.toList_join, List.flatMap_map]
  simp only [hslice]
  rw [flatMap_slices, List.take_of_length_le (by rwa [String.length_toList])]

theorem length_slice_le (text : String) (first size : Nat) : (slice text first (first + size)).length ≤ size := by
  rw [slice, String.length_ofList, Nat.add_sub_cancel_left]
  exact List.length_take_le _ _

theorem plain_slice (h : Plain text) (first last : Nat) : Plain (slice text first last) := by
  intro c hc
  rw [slice, String.toList_ofList] at hc
  exact h c (List.mem_of_mem_drop (List.mem_of_mem_take hc))

end Slices

section Names

theorem append_digits_inj {x y ds es : List Char} {mark : Char} (hmark : mark.isDigit = false)
    (hds : ∀ c ∈ ds, c.isDigit = true) (hes : ∀ c ∈ es, c.isDigit = true)
    (h : x ++ [mark] ++ ds = y ++ [mark] ++ es) : x = y ∧ ds = es := by
  -- what one side has more behind its mark ends in the mark of the other side
  have hmore : ∀ {a b more : List Char}, (∀ c ∈ more, c.isDigit = true) →
      b ++ [mark] = a ++ [mark] ++ more → more = [] := by
    intro a b more hmore heq
    by_contra hnil
    have hlast := congrArg List.getLast? heq
    rw [List.getLast?_concat, List.getLast?_append_of_ne_nil _ hnil] at hlast
    have hmem := hmore mark (List.mem_of_getLast? hlast.symm)
    rw [hmark] at hmem
    cases hmem
  rcases List.append_eq_append_iff.mp h with ⟨more, hy, hds'⟩ | ⟨more, hx, hes'⟩
  · have hnil := hmore (fun c hc => hds c (hds' ▸ List.mem_append_left _ hc)) hy
    rw [hnil, List.append_nil] at hy
    exact ⟨(List.append_cancel_right hy).symm, by rw [hds', hnil, List.nil_append]⟩
  · have hnil := hmore (fun c hc => hes c (hes' ▸ List.mem_append_left _ hc)) hx
    rw [hnil, List.append_nil] at hx
    exact ⟨List.append_cancel_right hx, by rw [hes', hnil, List.nil_append]⟩

theorem toList_chunkName (key : String) (index : Nat) : (chunkName key index).toList =
    key.toList ++ "__chunk".toList ++ ['_'] ++ (padded 6 index).toList := by
  rw [chunkName, String.toList_append, String.toList_append,
    show "__chunk_".toList = "__chunk".toList ++ ['_'] from by decide]
  simp only [List.append_assoc]

theorem chunkName_inj {a b : String} {i j : Nat} (h : chunkName a i = chunkName b j) :
    a = b ∧ i = j := by
  have hchars := congrArg String.toList h
  rw [toList_chunkName, toList_chunkName] at hchars
  obtain ⟨hkey, hindex⟩ := append_digits_inj (by decide) (fun c => digit_of_padded)
    (fun c => digit_of_padded) hchars
  exact ⟨String.ext (List.append_cancel_right hkey), padded_inj (String.ext hindex)⟩

theorem chunksName_inj {a b : String} (h : chunksName a = chunksName b) : a = b := by
  have hchars := congrArg String.toList h
  rw [chunksName, chunksName, String.toList_append, String.toList_append] at hchars
  exact String.ext (List.append_cancel_right hchars)

theorem getLast_chunksName (key : String) : (chunksName key).toList.getLast? = some 's' := by
  rw [chunksName, String.toList_append]
  exact List.getLast?_append_of_ne_nil _ (by decide)

theorem getLast_chunkName (key : String) (index : Nat) :
    ∃ c, (chunkName key index).toList.getLast? = some c ∧ c.isDigit = true := by
  have hpadded : (padded 6 index).toList ≠ [] := by
    intro hnil
    have hvalue : (toString index).toList = [] :=
      (List.append_eq_nil_iff.mp (by rwa [padded, String.toList_append] at hnil)).2
    simp at hvalue
  refine ⟨(padded 6 index).toList.getLast hpadded, ?_, digit_of_padded (List.getLast_mem hpadded)⟩
  rw [toList_chunkName, List.getLast?_append_of_ne_nil _ hpadded, List.getLast?_eq_getLast_of_ne_nil]

theorem chunksName_ne_chunkName (a b : String) (i : Nat) : chunksName a ≠ chunkName b i := by
  intro h
  obtain ⟨c, hlast, hdigit⟩ := getLast_chunkName b i
  rw [← h, getLast_chunksName] at hlast
  cases hlast
  cases hdigit

theorem not_isChunkName {name : String} {c : Char} (hlast : name.toList.getLast? = some c)
    (hs : c ≠ 's') (hdigit : c.isDigit = false) : ¬ IsChunkName name := by
  rintro (⟨key, rfl⟩ | ⟨key, index, rfl⟩)
  · rw [getLast_chunksName] at hlast
    exact hs (Option.some.inj hlast).symm
  · obtain ⟨d, hlast', hd⟩ := getLast_chunkName key index
    rw [hlast] at hlast'
    cases hlast'
    rw [hdigit] at hd
    cases hd

/-- The names of the rows of a field. -/
inductive NameOf (key : String) : String → Prop
  | single : NameOf key key
  | chunks : NameOf key (chunksName key)
  | chunk (index : Nat) : NameOf key (chunkName key index)

/-- A row belongs to one field, unless a field has the name of a chunk. -/
theorem NameOf.unique {a b name : String} (ha : ¬ IsChunkName a) (hb : ¬ IsChunkName b)
    (hnameA : NameOf a name) (hnameB : NameOf b name) : a = b := by
  cases hnameA with
  | single =>
      cases hnameB with
      | single => rfl
      | chunks => exact absurd (Or.inl ⟨b, rfl⟩) ha
      | chunk index => exact absurd (Or.inr ⟨b, index, rfl⟩) ha
  | chunks =>
      generalize hname : chunksName a = name at hnameB
      cases hnameB with
      | single => exact absurd (Or.inl ⟨a, hname.symm⟩) hb
      | chunks => exact chunksName_inj hname
      | chunk index => exact absurd hname (chunksName_ne_chunkName a b index)
  | chunk i =>
      generalize hname : chunkName a i = name at hnameB
      cases hnameB with
      | single => exact absurd (Or.inr ⟨a, i, hname.symm⟩) hb
      | chunks => exact absurd hname.symm (chunksName_ne_chunkName b a i)
      | chunk j => exact (chunkName_inj hname).1

end Names

section Rows

variable {py : Runtime} {key : String} {value : Json}

/-- The rows of one field, for a text that is ASCII. -/
def fragmentRows (py : Runtime) (key text : String) : List (String × String) :=
  if text.length ≤ maxCellUtf16Units then [(key, text)]
  else
    let count := ceilQuotient text.length 16000
    (chunksName key, spacedText (chunkDescriptor count text.length (py.sha256 text))) ::
      (List.range count).map fun index =>
        (chunkName key index, quote true (slice text (index * 16000) (index * 16000 + 16000)))

theorem encodeAscii_eq {text : String} (h : Plain text) : encodeAscii text = .ok text := by
  have hall : text.toList.all (·.toNat < 128) = true := by
    rw [List.all_eq_true]
    intro c hc
    have hplain := h c hc
    simp only [isPlain, Bool.and_eq_true, decide_eq_true_eq] at hplain
    rw [decide_eq_true_eq]
    omega
  rw [encodeAscii, if_pos hall]

theorem identityFragment_eq (hwf : wellFormed value = true) :
    identityFragment py key value = .ok (fragmentRows py key (spacedText value)) := by
  unfold identityFragment fragmentRows
  dsimp only
  split
  · rfl
  · rw [encodeAscii_eq (plain_spacedText hwf)]
    simp only [Nat.succ_mul]
    rfl

theorem identityFragments_eq (py : Runtime) {fields : Fields}
    (hwf : ∀ field ∈ fields, wellFormed field.2 = true) : identityFragments py fields =
      .ok (fields.flatMap fun field => fragmentRows py field.1 (spacedText field.2)) := by
  have hmap : fields.mapM (fun field => identityFragment py field.1 field.2) =
      .ok (fields.map fun field => fragmentRows py field.1 (spacedText field.2)) := by
    rw [Fallible.mapM_eq_ok, List.forall₂_map_right_iff]
    exact List.forall₂_same.mpr fun field hfield => identityFragment_eq (hwf field hfield)
  rw [identityFragments, hmap, List.flatMap_def]
  rfl

theorem nameOf_fragmentRows {text : String} {row : String × String}
    (h : row ∈ fragmentRows py key text) : NameOf key row.1 := by
  unfold fragmentRows at h
  split at h
  · rw [List.mem_singleton.mp h]
    exact .single
  · rcases List.mem_cons.mp h with rfl | h
    · exact .chunks
    · obtain ⟨index, -, rfl⟩ := List.mem_map.mp h
      exact .chunk index

theorem nodup_fragmentRows (text : String) : ((fragmentRows py key text).map Prod.fst).Nodup := by
  unfold fragmentRows
  split
  · exact List.nodup_singleton key
  · dsimp only
    rw [List.map_cons, List.map_map, List.nodup_cons]
    constructor
    · intro h
      obtain ⟨index, -, heq⟩ := List.mem_map.mp h
      exact chunksName_ne_chunkName key key index heq.symm
    · apply List.Nodup.map
      · intro i j h
        exact (chunkName_inj h).2
      · exact List.nodup_range

theorem nodup_rows (mapping : IdentityMapping) :
    ((mapping.fields.flatMap fun field => fragmentRows py field.1 (spacedText field.2)).map
      Prod.fst).Nodup := by
  rw [List.map_flatMap, List.nodup_flatMap]
  constructor
  · intro field _
    exact nodup_fragmentRows _
  · have hpairs : mapping.fields.Pairwise fun a b => a.1 ≠ b.1 := List.pairwise_map.mp mapping.distinct
    apply List.Pairwise.imp_of_mem _ hpairs
    intro a b ha hb hne
    apply List.disjoint_left.mpr
    intro name hnameA hnameB
    obtain ⟨rowA, hrowA, rfl⟩ := List.mem_map.mp hnameA
    obtain ⟨rowB, hrowB, heq⟩ := List.mem_map.mp hnameB
    have hownerB := nameOf_fragmentRows hrowB
    rw [heq] at hownerB
    exact hne (NameOf.unique (mapping.unchunked a ha) (mapping.unchunked b hb)
      (nameOf_fragmentRows hrowA) hownerB)

theorem length_toString_le {n : Nat} (h : n < 2 ^ 53) : (toString (n : Int)).length ≤ 16 := by
  have hlong : n < 10 ^ 16 := h.trans (by decide)
  have hlist : (toString (n : Int)).toList = Nat.toDigits 10 n := by
    show (Int.repr n).toList = _
    rw [toList_repr_int, if_pos (Int.natCast_nonneg n)]
    rfl
  rw [← String.length_toList, hlist]
  exact (Nat.length_toDigits_le_iff (by decide) (by decide)).mpr hlong

theorem canonical_chunkDescriptor (count bytes : Nat) (digest : String) :
    canonical (chunkDescriptor count bytes digest) =
      .obj [("count", .int count), ("encoding", .str "ordered_json_text_v1"),
        ("sha256", .str digest), ("utf8_bytes", .int bytes)] := by
  have hcount : ¬ "encoding" ≤ "count" := by decide
  have hbytes : ¬ "utf8_bytes" ≤ "sha256" := by decide
  have hfirst : "count" ≤ "sha256" := by decide
  have hsecond : "encoding" ≤ "sha256" := by decide
  simp only [chunkDescriptor, canonical, canonicalFields, sortFields, List.insertionSort_cons,
    List.insertionSort_nil, List.orderedInsert_nil, List.orderedInsert_cons, if_neg hcount,
    if_neg hbytes, if_pos hfirst, if_pos hsecond]

theorem spacedText_chunkDescriptor (count bytes : Nat) (digest : String) :
    spacedText (chunkDescriptor count bytes digest) =
      "\x7b\"count\": " ++ toString (count : Int) ++
        ", \"encoding\": \"ordered_json_text_v1\", \"sha256\": " ++ quote true digest ++
        ", \"utf8_bytes\": " ++ toString (bytes : Int) ++ "\x7d" := by
  have hcount : "\x7b" ++ quote true "count" ++ ": " = "\x7b\"count\": " := by decide
  have hencoding : ", " ++ quote true "encoding" ++ ": " ++ quote true "ordered_json_text_v1" ++
      ", " ++ quote true "sha256" ++ ": " =
      ", \"encoding\": \"ordered_json_text_v1\", \"sha256\": " := by decide
  have hbytes : ", " ++ quote true "utf8_bytes" ++ ": " = ", \"utf8_bytes\": " := by decide
  rw [spacedText, canonical_chunkDescriptor, ← hcount, ← hencoding, ← hbytes]
  simp only [spaced, spacedFields, String.intercalate_cons_cons, String.intercalate_singleton,
    String.append_assoc]

theorem length_descriptor_le (hpy : HexDigests py) {count bytes : Nat} (hcount : count < 2 ^ 53)
    (hbytes : bytes < 2 ^ 53) (text : String) :
    (spacedText (chunkDescriptor count bytes (py.sha256 text))).length ≤ maxCellUtf16Units := by
  have hdigest := length_quote_le (hpy.plain text)
  rw [hpy.length text] at hdigest
  have hcountText := length_toString_le hcount
  have hbytesText := length_toString_le hbytes
  have hfirst : "\x7b\"count\": ".length = 10 := by decide
  have hsecond : ", \"encoding\": \"ordered_json_text_v1\", \"sha256\": ".length = 48 := by decide
  have hthird : ", \"utf8_bytes\": ".length = 16 := by decide
  have hlast : "\x7d".length = 1 := by decide
  rw [spacedText_chunkDescriptor]
  simp only [String.length_append, hfirst, hsecond, hthird, hlast, maxCellUtf16Units]
  omega

theorem plain_descriptor (count bytes : Nat) (text : String) :
    Plain (spacedText (chunkDescriptor count bytes (py.sha256 text))) := by
  apply plain_spacedText
  rfl

/-- The count of the chunks: they reach the end of the text. -/
theorem length_le_chunks {n : Nat} (hn : n < 2 ^ 53) :
    ceilQuotient n 16000 < 2 ^ 53 ∧ n ≤ ceilQuotient n 16000 * 16000 := by
  rw [ceilQuotient_eq (by decide) hn]
  omega

/-- Every row of a field is within the limit of a cell. -/
theorem utf16Units_fragmentRows (hpy : HexDigests py) {text : String} (hplain : Plain text)
    (hlength : text.length < 2 ^ 53) {row : String × String} (h : row ∈ fragmentRows py key text) :
    utf16Units row.2 ≤ maxCellUtf16Units := by
  unfold fragmentRows at h
  split at h
  · rename_i hshort
    rw [List.mem_singleton.mp h, hplain.utf16Units_eq]
    exact hshort
  · rcases List.mem_cons.mp h with rfl | h
    · rw [(plain_descriptor _ _ _).utf16Units_eq]
      exact length_descriptor_le hpy (length_le_chunks hlength).1 hlength text
    · obtain ⟨index, -, rfl⟩ := List.mem_map.mp h
      have hslice := length_slice_le text (index * 16000) 16000
      have hquote := length_quote_le (plain_slice hplain (index * 16000) (index * 16000 + 16000))
      rw [(plain_quote _).utf16Units_eq, maxCellUtf16Units]
      omega

end Rows

section Reading

variable {py : Runtime} {key text : String} {rows : List (String × String)}

theorem decodeText_quote (text : String) : decodeText (quote true text) = some text := by
  have hread : readLeaf (dumps true (.str text)) = some (.str text) := readLeaf_dumps rfl rfl
  rw [dumps] at hread
  rw [decodeText, hread]

theorem mapM_eq_map {α β : Type} {items : List α} {read : α → Option β} {f : α → β}
    (h : ∀ a ∈ items, read a = some (f a)) : items.mapM read = some (items.map f) := by
  induction items with
  | nil => rfl
  | cons a items ih =>
      rw [List.forall_mem_cons] at h
      rw [List.mapM_cons, h.1, ih h.2]
      rfl

/-- The rows of a field among others give its text back. -/
theorem restores (hplain : Plain text) (hlength : text.length < 2 ^ 53)
    (hnodup : (rows.map Prod.fst).Nodup) (hmem : ∀ row ∈ fragmentRows py key text, row ∈ rows)
    (hown : ∀ row ∈ rows, NameOf key row.1 → row ∈ fragmentRows py key text) :
    Restores py rows key text := by
  by_cases hshort : text.length ≤ maxCellUtf16Units
  · apply Restores.single
    apply Relational.lookup_of_mem hnodup
    apply hmem
    rw [fragmentRows, if_pos hshort]
    exact List.mem_cons_self
  · have hrows : fragmentRows py key text = _ := if_neg hshort
    dsimp only at hrows
    set count := ceilQuotient text.length 16000 with hcount
    have hchunk : ∀ index < count, (chunkName key index,
        quote true (slice text (index * 16000) (index * 16000 + 16000))) ∈ rows := by
      intro index hindex
      apply hmem
      rw [hrows]
      exact List.mem_cons_of_mem _ (List.mem_map.mpr ⟨index, List.mem_range.mpr hindex, rfl⟩)
    apply Restores.chunked count
    · apply Relational.lookup_of_mem hnodup
      apply hmem
      rw [hrows, hplain.utf8ByteSize_eq]
      exact List.mem_cons_self
    · intro index
      constructor
      · intro hname
        obtain ⟨row, hrow, heq⟩ := List.mem_map.mp hname
        have hrow := hown row hrow (heq ▸ .chunk index)
        rw [hrows] at hrow
        rcases List.mem_cons.mp hrow with rfl | hrow
        · exact absurd heq (chunksName_ne_chunkName key key index)
        · obtain ⟨j, hj, rfl⟩ := List.mem_map.mp hrow
          rw [← (chunkName_inj heq).2]
          exact List.mem_range.mp hj
      · intro hindex
        exact List.mem_map.mpr ⟨_, hchunk index hindex, rfl⟩
    · have hread : (List.range count).mapM (fun index =>
          (rows.lookup (chunkName key index)).bind decodeText) =
          some ((List.range count).map fun index =>
            slice text (index * 16000) (index * 16000 + 16000)) := by
        apply mapM_eq_map
        intro index hindex
        rw [Relational.lookup_of_mem hnodup (hchunk index (List.mem_range.mp hindex)), Option.bind_some,
          decodeText_quote]
      rw [reassembled, hread, Option.map_some, join_slices (length_le_chunks hlength).2]

theorem getLast_projection {digitOf : Char → Option (Fin 10)} {package : Json}
    {sheets : List Sheet} (h : eligibilityWorkbookProjection py digitOf package = .ok sheets) :
    ∃ data, subscript package "report_data" = .ok data ∧ sheets.getLast? =
      some ⟨["Chunk", "Canonical pinned dataset JSON"], datasetRows data⟩ := by
  unfold eligibilityWorkbookProjection at h
  obtain ⟨data, hdata, h⟩ := Fallible.bind_eq_ok.mp h
  obtain ⟨_, -, h⟩ := Fallible.bind_eq_ok.mp h
  obtain ⟨_, -, h⟩ := Fallible.bind_eq_ok.mp h
  obtain ⟨_, -, h⟩ := Fallible.bind_eq_ok.mp h
  obtain ⟨_, -, h⟩ := Fallible.bind_eq_ok.mp h
  obtain ⟨_, -, h⟩ := Fallible.bind_eq_ok.mp h
  obtain ⟨_, -, h⟩ := Fallible.bind_eq_ok.mp h
  cases h
  exact ⟨data, hdata, by simp⟩

/-- The chunks of a dataset, as texts. -/
def datasetChunks (data : Json) : List String :=
  let canonical := canonicalJson data
  (List.range ((canonical.length + 15999) / 16000)).map fun index =>
    slice canonical (index * 16000) (index * 16000 + 16000)

theorem datasetRows_eq (data : Json) : datasetRows data =
    (datasetChunks data).zipIdx.map fun (chunk, index) => [.str (toString index), .str chunk] := by
  apply List.ext_getElem
  · simp [datasetRows, datasetChunks]
  · intro index hrows hchunks
    simp [datasetRows, datasetChunks]

/-- Chunking is lossless and within the limits, for the identity fields of any mapping and for the
dataset of any package. -/
theorem workbook_chunks_lossless (hpy : HexDigests py) (digitOf : Char → Option (Fin 10))
    (mapping : IdentityMapping) :
    (∃ rows, identityFragments py mapping.fields = .ok rows ∧ (rows.map Prod.fst).Nodup ∧
      (∀ row ∈ rows, utf16Units row.2 ≤ maxCellUtf16Units) ∧
      ∀ field ∈ mapping.fields, Restores py rows field.1 (spacedText field.2)) ∧
    ∀ package sheets, eligibilityWorkbookProjection py digitOf package = .ok sheets →
      ∃ data chunks, subscript package "report_data" = .ok data ∧
        sheets.getLast?.map Sheet.rows = some (chunks.zipIdx.map fun (chunk, index) =>
          [.str (toString index), .str chunk]) ∧
        String.join chunks = canonicalJson data ∧
        ∀ chunk ∈ chunks, utf16Units chunk ≤ maxCellUtf16Units := by
  constructor
  · refine ⟨_, identityFragments_eq py mapping.wellFormed, nodup_rows mapping, ?_, ?_⟩
    · intro row hrow
      obtain ⟨field, hfield, hrow⟩ := List.mem_flatMap.mp hrow
      exact utf16Units_fragmentRows hpy (plain_spacedText (mapping.wellFormed field hfield))
        (mapping.addressable field hfield) hrow
    · intro field hfield
      apply restores (plain_spacedText (mapping.wellFormed field hfield))
        (mapping.addressable field hfield) (nodup_rows mapping)
      · intro row hrow
        exact List.mem_flatMap.mpr ⟨field, hfield, hrow⟩
      · intro row hrow hname
        obtain ⟨other, hother, hrow⟩ := List.mem_flatMap.mp hrow
        have hkey := NameOf.unique (mapping.unchunked other hother)
          (mapping.unchunked field hfield) (nameOf_fragmentRows hrow) hname
        have hsame : other = field := List.inj_on_of_nodup_map mapping.distinct hother hfield hkey
        rwa [hsame] at hrow
  · intro package sheets hsheets
    obtain ⟨data, hdata, hlast⟩ := getLast_projection hsheets
    refine ⟨data, datasetChunks data, hdata, ?_, ?_, ?_⟩
    · rw [hlast, Option.map_some, datasetRows_eq]
    · exact join_slices (by omega)
    · intro chunk hchunk
      obtain ⟨index, -, rfl⟩ := List.mem_map.mp hchunk
      have hunits := utf16Units_le (slice (canonicalJson data) (index * 16000)
        (index * 16000 + 16000))
      have hslice := length_slice_le (canonicalJson data) (index * 16000) 16000
      rw [maxCellUtf16Units]
      omega

/-- The digest of the text that the long field of the sample writes. -/
def longDigest : String := "32c9e288e3a8ed6acb139249d94d6cc5a59b681a340f501468731837ac90f065"

def sampleDigests : Runtime := ⟨fun _ => longDigest, fun _ => true⟩

theorem hexDigests_sampleDigests : HexDigests sampleDigests where
  length _ := show longDigest.length = 64 by decide
  plain _ := show Plain longDigest from plain_of_all (by decide)

/-- A text of some length. -/
def repeated (n : Nat) : String := String.ofList (List.replicate n 'a')

theorem plain_repeated (n : Nat) : Plain (repeated n) := by
  intro c hc
  rw [repeated, String.toList_ofList] at hc
  rw [List.eq_of_mem_replicate hc]
  rfl

theorem length_repeated (n : Nat) : (repeated n).length = n := by
  rw [repeated, String.length_ofList, List.length_replicate]

theorem distinct_sampleNames : (["render_job_id", "render_context"] : List String).Nodup := by
  decide

theorem unchunked_job : ¬ IsChunkName "render_job_id" :=
  not_isChunkName (c := 'd') (by decide) (by decide) (by decide)

theorem unchunked_context : ¬ IsChunkName "render_context" :=
  not_isChunkName (c := 't') (by decide) (by decide) (by decide)

theorem forall_mem_two {P : String × Json → Prop} {a b : String × Json} (ha : P a) (hb : P b) :
    ∀ field ∈ [a, b], P field :=
  List.forall_mem_cons.mpr ⟨ha, List.forall_mem_singleton.mpr hb⟩

/-- A short field, and one that is cut into three chunks. -/
def sampleMapping : IdentityMapping where
  fields := [("render_job_id", .str "render-1"), ("render_context", .str (repeated 40000))]
  distinct := distinct_sampleNames
  wellFormed := forall_mem_two (wellFormed_str _) (wellFormed_str _)
  unchunked := forall_mem_two unchunked_job unchunked_context
  addressable := by
    have hquote := length_quote_le (plain_repeated 40000)
    rw [length_repeated] at hquote
    intro field hfield
    simp only [List.mem_cons, List.not_mem_nil, or_false] at hfield
    rcases hfield with rfl | rfl
    · decide
    · simp only [spacedText, canonical, spaced]
      omega

/-- A dataset without tables. -/
def sampleData : Json :=
  .obj [("contract_version", .str "composite_review.v8"), ("tables", .arr [])]

def samplePackage : Json :=
  .obj (("report_data", sampleData) :: packageNames.map fun name => (name, .str "x"))

theorem projection_samplePackage : ∃ sheets,
    eligibilityWorkbookProjection sampleDigests asciiDigit samplePackage = .ok sheets := by
  have hdata : subscript samplePackage "report_data" = .ok sampleData := rfl
  have htables : subscript sampleData "tables" = .ok (.arr []) := rfl
  have hversion : subscript sampleData "contract_version" = .ok (.str "composite_review.v8") := rfl
  have hfields : identityFields samplePackage sampleData =
      .ok (packageNames.map (fun name => (name, .str "x")) ++ fixedFields) := rfl
  have hwf : ∀ field ∈ packageNames.map (fun name => (name, .str "x")) ++ fixedFields,
      wellFormed field.2 = true := by decide
  have hfragments := identityFragments_eq sampleDigests hwf
  have hbind : ∀ {α β : Type} {x : Except CaptureError α} {f : α → Except CaptureError β} {a : α},
      x = .ok a → (∃ b, f a = .ok b) → ∃ b, (x >>= f) = .ok b := by
    rintro α β x f a rfl h
    exact h
  apply hbind hdata
  apply hbind htables
  apply hbind (a := []) rfl
  apply hbind (a := []) rfl
  apply hbind hversion
  apply hbind hfields
  apply hbind hfragments
  exact ⟨_, rfl⟩

theorem workbook_chunks_lossless_sample :
    (∃ rows, identityFragments sampleDigests sampleMapping.fields = .ok rows ∧
      Restores sampleDigests rows "render_context" (spacedText (.str (repeated 40000)))) ∧
    ∃ sheets chunks, eligibilityWorkbookProjection sampleDigests asciiDigit samplePackage =
        .ok sheets ∧ String.join chunks = canonicalJson sampleData := by
  obtain ⟨⟨rows, hrows, -, -, hrestores⟩, hdataset⟩ :=
    workbook_chunks_lossless hexDigests_sampleDigests asciiDigit sampleMapping
  obtain ⟨sheets, hsheets⟩ := projection_samplePackage
  obtain ⟨data, chunks, hdata, -, hjoin, -⟩ := hdataset samplePackage sheets hsheets
  cases hdata
  exact ⟨⟨rows, hrows, hrestores _ (List.mem_cons_of_mem _ List.mem_cons_self)⟩, sheets, chunks,
    hsheets, hjoin⟩

end Reading

end LotusReport.Composite
