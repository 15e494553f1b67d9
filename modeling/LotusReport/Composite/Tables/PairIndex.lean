import Mathlib.Data.Prod.Lex
import LotusReport.Composite.Tables.SourceContext
import LotusReport.Encoding.Spaced
import LotusReport.Relational.Dictionary
import LotusReport.Relational.Ranking

/-!
# The pair index of a correction notice

A notice compares two generations of a dataset by their coordinates: table, row
and column. The index names every coordinate of either side once, with the
cells that it has there, in an order that the coordinates alone decide.
-/

namespace LotusReport.Composite.SourceContext

open Encoding Json Fallible Relational

section Generations

/-- `SOURCE_TABLES`. -/
def sourceTables : List String :=
  ["Summary", "PeriodReturns", "Contribution", "Methods", "Lineage", "Disclosures",
    "AnnualReturns", "Risk", "Members", "EligibilityReasons", "Attribution", "Restatement",
    "SinceInception", "MembershipHistory"]

/-- What the contract of a generation takes from checks that do not read the layout of its tables:
custody of the documents, lineage of the cells, identity and scope. -/
structure ContractLibrary where
  runtime : Runtime
  coercions : Coercions
  custody : Dataset → Except CaptureError Unit
  identity : Dataset → Except CaptureError Unit
  /-- Equality of two documents of facts. -/
  sameFacts : Json → Json → Bool

/-- The methods of a window are bound by a dictionary. -/
def validateWindow (window : Json) : Except CaptureError Unit :=
  match subscript window "method_binding" with
  | .ok (.obj _) => .ok ()
  | _ => .error (.raised "ValidationError")

/-- `CompositeSourceContextReportData`. -/
def validateReportData (lib : ContractLibrary) (payload : Dataset) : Except CaptureError Unit := do
  let windows ← itemsOf (← readAt (.obj payload.document) ["selection", "windows"])
  windows.forM validateWindow
  let memberships ← itemsOf (← subscript (.obj payload.document) "supplied_memberships")
  constrain (memberships.length ≤ 2)
  constrain (1 ≤ payload.tables.length ∧ payload.tables.length ≤ 32)
  payload.tables.forM validateTable
  lib.custody payload
  requireCompleteProjection lib.sameFacts payload
    (← projectSourceContext lib.runtime lib.coercions payload.document)

/-- `Generation.require_source`. -/
def requireSource (lib : ContractLibrary) (payload : Dataset) : Except CaptureError Unit := do
  validateReportData lib payload
  lib.identity payload
  if payload.tables.map (·.tableId) = sourceTables then .ok ()
  else .error (.raised "COMPOSITE_NOTICE_SOURCE_LAYOUT_UNSUPPORTED")

/-- A generation that the contract accepts. -/
structure Generation (lib : ContractLibrary) where
  payload : Dataset
  wellFormed : Json.wellFormed (.obj payload.document) = true
  accepted : requireSource lib payload = .ok ()

end Generations

section Index

inductive Side where
  | before
  | after
deriving DecidableEq, Repr

/-- A table, a row and a column. -/
structure Coordinate where
  tableId : String
  rowId : String
  columnId : String
deriving DecidableEq, Repr

/-- Where a generation has the cell of a coordinate. -/
structure CellRef where
  generation : Side
  tableIndex : Nat
  rowIndex : Nat
  columnIndex : Nat
  coordinate : Coordinate
  sourcePointer : String
deriving DecidableEq, Repr

/-- The assignment for one cell. -/
def cellEntry (side : Side) (table : CompositeTable) (ti : Nat) (row : CompositeRow) (ri : Nat)
    (column : CompositeColumn) (ci : Nat) : Except CaptureError (Coordinate × CellRef) :=
  let key : Coordinate := ⟨table.tableId, row.rowId, column.columnId⟩
  match row.cells.lookup column.columnId with
  | some cell => .ok (key, ⟨side, ti, ri, ci, key, cell.sourcePointer⟩)
  | none => .error (.raised "KeyError")

/-- The assignments for one row. -/
def rowEntries (side : Side) (table : CompositeTable) (ti : Nat) (row : CompositeRow) (ri : Nat) :
    Except CaptureError (List (Coordinate × CellRef)) :=
  table.columns.zipIdx.mapM fun (column, ci) => cellEntry side table ti row ri column ci

/-- The assignments for one table. -/
def tableEntries (side : Side) (table : CompositeTable) (ti : Nat) :
    Except CaptureError (List (Coordinate × CellRef)) := do
  return (← table.rows.zipIdx.mapM fun (row, ri) => rowEntries side table ti row ri).flatten

/-- The assignments of `_coordinates`, in the order of tables, rows and columns. -/
def coordinateCells (payload : Dataset) (side : Side) :
    Except CaptureError (List (Coordinate × CellRef)) := do
  return (← payload.tables.zipIdx.mapM fun (table, ti) => tableEntries side table ti).flatten

/-- `_coordinates`. -/
def coordinates (payload : Dataset) (side : Side) :
    Except CaptureError (List (Coordinate × CellRef)) := do
  return dictOf (← coordinateCells payload side)

/-- The ranks of the columns of both generations, in one dictionary. -/
def columnRanks (payloads : List Dataset) : List ((String × String) × Nat) :=
  dictOf (payloads.flatMap fun payload => payload.tables.flatMap fun table =>
    table.columns.zipIdx.map fun (column, index) => ((table.tableId, column.columnId), index))

/-- A set is iterated in some order, each member once. -/
structure SetIteration where
  arrange : List Coordinate → List Coordinate
  perm : ∀ members, (arrange members).Perm members.dedup

def sampleIteration : SetIteration := ⟨List.dedup, fun _ => .refl _⟩

/-- `(table_rank[k[0]], k[1], column_rank[k[0], k[2]])`. -/
def sortKey (ranks : List ((String × String) × Nat)) (k : Coordinate) :
    Except CaptureError (ℕ ×ₗ String ×ₗ ℕ) :=
  if k.tableId ∈ sourceTables then
    match ranks.lookup (k.tableId, k.columnId) with
    | some rank => .ok (toLex (sourceTables.idxOf k.tableId, toLex (k.rowId, rank)))
    | none => .error (.raised "KeyError")
  else .error (.raised "KeyError")

inductive Presence where
  | bothPresent
  | beforeOnly
  | afterOnly
deriving DecidableEq, Repr

structure PairIndexItem where
  rowId : String
  coordinate : Coordinate
  presence : Presence
  beforeRef : Option CellRef
  afterRef : Option CellRef
deriving DecidableEq, Repr

/-- `canonical_bytes(list(key)).decode("ascii")`. -/
def coordinateText (k : Coordinate) : String :=
  canonicalJson (ofTexts [k.tableId, k.rowId, k.columnId])

/-- The item of a coordinate. -/
def itemOf (before after : List (Coordinate × CellRef)) (k : Coordinate) : PairIndexItem where
  rowId := coordinateText k
  coordinate := k
  presence := if k ∈ before.map Prod.fst ∧ k ∈ after.map Prod.fst then .bothPresent
    else if k ∈ before.map Prod.fst then .beforeOnly else .afterOnly
  beforeRef := before.lookup k
  afterRef := after.lookup k

/-- The item of a coordinate whose text is not too long. -/
def indexItem (before after : List (Coordinate × CellRef)) (k : Coordinate) :
    Except CaptureError PairIndexItem :=
  if 256 < (coordinateText k).length then
    .error (.raised "COMPOSITE_NOTICE_COORDINATE_TOO_LONG")
  else .ok (itemOf before after k)

/-- The payloads of the dictionary of the generations. -/
def payloadsFrom (first : Side) (before after : Dataset) : List Dataset :=
  if first = .before then [before, after] else [after, before]

/-- `pair_index`, with the side that the dictionary of the generations has first. -/
def pairIndex (set : SetIteration) (first : Side) (before after : Dataset) :
    Except CaptureError (List PairIndexItem) := do
  let beforeCells ← coordinates before .before
  let afterCells ← coordinates after .after
  let ranks := columnRanks (payloadsFrom first before after)
  let union := set.arrange (beforeCells.map Prod.fst ++ afterCells.map Prod.fst)
  let keyed ← union.mapM fun k => do return (← sortKey ranks k, k)
  ((ranked Prod.fst keyed).map Prod.snd).mapM (indexItem beforeCells afterCells)

end Index

section Standard

/-- The columns of the tables that have one layout. -/
def standardColumns : List (String × List String) :=
  [("Summary", keysOf (summaryFields.map Prod.fst)), ("PeriodReturns", keysOf periodColumns),
    ("Methods", ["field", "value"]), ("Lineage", ["field", "value"]),
    ("Disclosures", ["code", "text"]), ("AnnualReturns", ["metric", "value", "reason_code"]),
    ("Risk", ["metric", "value", "reason_code"]), ("Members", ["metric", "value", "reason_code"]),
    ("EligibilityReasons", ["metric", "value", "reason_code"]),
    ("Attribution", ["metric", "value", "reason_code"]),
    ("Restatement", ["metric", "value", "reason_code"]),
    ("SinceInception", sinceInceptionLayout.columnIds), ("MembershipHistory", historyFields)]

/-- The columns of a row: only the contributions have two layouts, and their rows differ. -/
def columnsAt (tableId rowId : String) : List String :=
  if tableId = "Contribution" then
    if rowId = "unavailable" then ["value"] else keysOf contributionColumns
  else (standardColumns.lookup tableId).getD []

/-- The rank of a column in any layout of its table. -/
def columnRank (tableId columnId : String) : Nat :=
  if tableId = "Contribution" then
    if columnId = "value" then 0 else (keysOf contributionColumns).idxOf columnId
  else ((standardColumns.lookup tableId).getD []).idxOf columnId

/-- A row is named by a short text of plain characters. -/
def ShortName (rowId : String) : Prop := Plain rowId ∧ rowId.length ≤ 40

/-- A layout of a table that a generation can have. -/
def Standard (layout : Layout) : Prop :=
  ∀ rowId ∈ layout.rowIds, layout.columnIds = columnsAt layout.tableId rowId ∧ ShortName rowId

end Standard

section Acceptance

variable {lib : ContractLibrary}

/-- Which attachments a projection has, when its tables are the source tables. -/
def placedIds (isMonthly hasSince hasCalendar hasTrailing hasHistory : Bool) : List String :=
  let place (ids : List String) (flag : Bool) (last : String) : List String :=
    if flag then ids.filter (· ≠ last) ++ [last] else ids
  let primary := ["Summary", if isMonthly then "MonthlyReturns" else "PeriodReturns", "Contribution",
    "Methods", "Lineage", "Disclosures"] ++ uncapturedLabels.map Prod.fst
  place (place (place (primary ++ if hasSince then ["SinceInception"] else []) hasCalendar
    "AnnualReturns") hasTrailing "TrailingReturns") hasHistory "MembershipHistory"

theorem attachments_of_placedIds : ∀ isMonthly hasSince hasCalendar hasTrailing hasHistory,
    placedIds isMonthly hasSince hasCalendar hasTrailing hasHistory = sourceTables →
      isMonthly = false ∧ hasSince = true ∧ hasCalendar = false ∧ hasTrailing = false ∧
        hasHistory = true := by
  decide

theorem ids_placed (layouts : List Layout) (last : Layout) :
    (placed layouts (some last)).map (·.tableId) =
      (layouts.map (·.tableId)).filter (· ≠ last.tableId) ++ [last.tableId] := by
  rw [placed, List.map_append, List.filter_map]
  rfl

theorem ids_contribution {count : Nat} {layout : Layout} (h : ContributionLayout count layout) :
    layout.tableId = "Contribution" := by
  cases h <;> rfl

theorem ids_history {count : Nat} {layout : Layout} (h : HistoryLayout count layout) :
    layout.tableId = "MembershipHistory" := by
  cases h
  rfl

theorem ids_placed_option {layouts : List Layout} {last : Option Layout} {name : String}
    (hname : ∀ l ∈ last, l.tableId = name) : (placed layouts last).map (·.tableId) =
      if last.isSome then (layouts.map (·.tableId)).filter (· ≠ name) ++ [name]
      else layouts.map (·.tableId) := by
  cases last with
  | none => rfl
  | some l => rw [ids_placed, hname l rfl, Option.isSome_some, if_pos rfl]

theorem ids_primary {count : Nat} {primary : List Layout} (h : PrimaryLayout count primary) :
    ∃ isMonthly : Bool, primary.map (·.tableId) =
      ["Summary", if isMonthly then "MonthlyReturns" else "PeriodReturns", "Contribution", "Methods",
        "Lineage", "Disclosures"] ++ uncapturedLabels.map Prod.fst := by
  cases h with
  | mk isMonthly periodCount lineageCount contribution hcontribution =>
      refine ⟨isMonthly, ?_⟩
      rw [List.map_append, List.map_map]
      simp only [List.map_cons, List.map_nil, ids_contribution hcontribution]
      rfl

theorem ids_projected {document : Fields} {paths : List String}
    {layouts : List Layout} (p : Projected document paths layouts) : ∃ isMonthly : Bool,
      layouts.map (·.tableId) = placedIds isMonthly p.since p.calendar.isSome p.trailing.isSome
        p.history.isSome := by
  have hhistory : ∀ l ∈ p.history, l.tableId = "MembershipHistory" := by
    intro l hl
    obtain ⟨memberships, -, hlayout⟩ := p.isHistory l hl
    exact ids_history hlayout
  obtain ⟨isMonthly, hprimary⟩ := ids_primary p.isPrimary
  have hsince : (p.primary ++ if p.since then [sinceInceptionLayout] else []).map (·.tableId) =
      p.primary.map (·.tableId) ++ if p.since then ["SinceInception"] else [] := by
    rw [List.map_append]
    cases p.since <;> rfl
  have heq := congrArg (List.map (·.tableId)) p.eq
  rw [ids_placed_option hhistory, ids_placed_option p.isTrailing, ids_placed_option p.isCalendar,
    hsince, hprimary] at heq
  exact ⟨isMonthly, heq⟩

theorem shortName_index {n : Nat} (h : n ≤ 10000) : Plain (toString n) ∧ (toString n).length ≤ 5 := by
  have hdigits : (toString n).toList = Nat.toDigits 10 n := by simp [toString]
  constructor
  · intro c hc
    rw [hdigits] at hc
    exact plain_digit (digit_of_mem hc)
  · rw [← String.length_toList, hdigits, Nat.length_toDigits_le_iff (by decide) (by decide)]
    omega

theorem standard_indices {tableId : String} {columns : List String} {n : Nat} (hn : n ≤ 10000)
    (hother : tableId ≠ "Contribution") (hcolumns : standardColumns.lookup tableId = some columns) :
    Standard ⟨tableId, columns, indices n⟩ := by
  intro rowId hrowId
  obtain ⟨index, hindex, rfl⟩ := List.mem_map.mp hrowId
  have hshort := shortName_index (n := index) (by rw [List.mem_range] at hindex; omega)
  constructor
  · rw [columnsAt, if_neg hother, hcolumns, Option.getD_some]
  · exact ⟨hshort.1, hshort.2.trans (by decide)⟩

theorem standard_single {tableId rowId : String} {columns : List String}
    (hother : tableId ≠ "Contribution") (hcolumns : standardColumns.lookup tableId = some columns)
    (hrow : rowId.toList.all isPlain = true ∧ rowId.length ≤ 40) :
    Standard ⟨tableId, columns, [rowId]⟩ := by
  intro rowId' hrowId
  rw [List.mem_singleton.mp hrowId]
  constructor
  · rw [columnsAt, if_neg hother, hcolumns, Option.getD_some]
  · exact ⟨plain_of_all hrow.1, hrow.2⟩

theorem standard_contribution {count : Nat} {layout : Layout} (hcount : count ≤ 10000)
    (hrows : layout.rowIds.length ≤ 10000) (h : ContributionLayout count layout) :
    Standard layout := by
  cases h with
  | unavailable =>
      intro rowId hrowId
      rw [List.mem_singleton.mp hrowId]
      exact ⟨rfl, plain_of_all (by decide), by decide⟩
  | members rowIds hmembers =>
      intro rowId hrowId
      obtain ⟨p, hp, m, hm, rfl⟩ := hmembers rowId hrowId
      dsimp only at hrows
      obtain ⟨hpPlain, hpLength⟩ := shortName_index (n := p) (by omega)
      obtain ⟨hmPlain, hmLength⟩ := shortName_index (n := m) (by omega)
      have hmark : ":".length = 1 := by decide
      constructor
      · have hne : toString p ++ ":" ++ toString m ≠ "unavailable" := by
          intro heq
          have hmem : ':' ∈ (toString p ++ ":" ++ toString m).toList := by
            rw [String.toList_append, String.toList_append]
            exact List.mem_append_left _ (List.mem_append_right _ (by decide))
          rw [heq] at hmem
          revert hmem
          decide
        rw [columnsAt, if_pos rfl, if_neg hne]
      · constructor
        · exact (hpPlain.append (plain_of_all (by decide))).append hmPlain
        · rw [String.length_append, String.length_append, hmark]
          omega

theorem standard_history {count : Nat} {layout : Layout} (hcount : count ≤ 2)
    (hrows : layout.rowIds.length ≤ 10000) (h : HistoryLayout count layout) : Standard layout := by
  obtain ⟨rowIds, hnames⟩ := h
  intro rowId hrowId
  obtain ⟨i, hi, ordinal, hordinal, rfl⟩ := hnames rowId hrowId
  dsimp only at hrows
  obtain ⟨hiPlain, hiLength⟩ := shortName_index (n := i) (by omega)
  obtain ⟨hoPlain, hoLength⟩ := shortName_index (n := ordinal) (by omega)
  have hfirst : "r".length = 1 := by decide
  have hsecond : ":d".length = 2 := by decide
  constructor
  · rfl
  · constructor
    · exact (((plain_of_all (by decide)).append hiPlain).append
        (plain_of_all (by decide))).append hoPlain
    · rw [String.length_append, String.length_append, String.length_append, hfirst, hsecond]
      omega

/-- What the contract of a generation requires of its layout. -/
structure AcceptedLayout (lib : ContractLibrary) (payload : Dataset) : Prop where
  windows : BindsMethods (.obj payload.document)
  memberships : ∀ memberships, (subscript (.obj payload.document) "supplied_memberships").bind
    itemsOf = .ok memberships → memberships.length ≤ 2
  tables : ∀ table ∈ payload.tables, validateTable table = .ok ()
  projection : ∃ expected, projectSourceContext lib.runtime lib.coercions payload.document = .ok expected ∧
    requireCompleteProjection lib.sameFacts payload expected = .ok ()
  ids : payload.tables.map (·.tableId) = sourceTables

theorem constrain_eq_ok {condition : Prop} [Decidable condition] :
    constrain condition = .ok () ↔ condition := by
  unfold constrain
  split <;> simp_all

/-- A contract whose custody and identity refuse nothing. -/
def sampleLibrary : ContractLibrary where
  runtime := .verbatim
  coercions := .standard
  custody _ := .ok ()
  identity _ := .ok ()
  sameFacts a b := decide (a = b)

theorem exists_generation {binding : Fields} (h : binding ∈ sampleBindings) :
    ∃ g : Generation sampleLibrary, g.payload.document = sampleDocument binding := by
  obtain ⟨d, hprojected, hdocument, -, hids, hvalid⟩ := project_sample h
  have hwindow : validateWindow (.obj (named ["materialization_id", "definition_content_hash",
      "membership_content_hash", "attestation_content_hash", "source_cut_id",
      "retained_receipt_fingerprint"] ++
      [("period_start", .str "2024-01-15"), ("method_binding", .obj binding)])) = .ok () := rfl
  have hcount : d.tables.length = 14 := by
    have hlength := congrArg List.length hids
    rwa [List.length_map] at hlength
  have hdata : validateReportData sampleLibrary d = .ok () := by
    unfold validateReportData
    rw [hdocument]
    refine bind_eq_ok.mpr ⟨_, rfl, bind_eq_ok.mpr ⟨_, rfl, ?_⟩⟩
    refine bind_eq_ok.mpr ⟨(), forM_eq_ok.mpr ?_, ?_⟩
    · exact List.forall_mem_singleton.mpr hwindow
    refine bind_eq_ok.mpr ⟨_, rfl, bind_eq_ok.mpr ⟨_, rfl, ?_⟩⟩
    refine bind_eq_ok.mpr ⟨(), rfl, ?_⟩
    refine bind_eq_ok.mpr ⟨(), constrain_eq_ok.mpr (by omega), ?_⟩
    refine bind_eq_ok.mpr ⟨(), forM_eq_ok.mpr hvalid, ?_⟩
    refine bind_eq_ok.mpr ⟨(), rfl, bind_eq_ok.mpr ⟨d, hprojected, ?_⟩⟩
    exact requireCompleteProjection_self (decide_eq_true rfl) hprojected
  refine ⟨⟨d, hdocument ▸ wellFormed_sample binding h, ?_⟩, hdocument⟩
  refine bind_eq_ok.mpr ⟨(), hdata, bind_eq_ok.mpr ⟨(), rfl, ?_⟩⟩
  exact if_pos hids

theorem Generation.acceptedLayout (g : Generation lib) : AcceptedLayout lib g.payload := by
  have hsource := g.accepted
  unfold requireSource at hsource
  obtain ⟨⟨⟩, hdata, hsource⟩ := bind_eq_ok.mp hsource
  obtain ⟨⟨⟩, -, hsource⟩ := bind_eq_ok.mp hsource
  unfold validateReportData at hdata
  obtain ⟨value, hvalue, hdata⟩ := bind_eq_ok.mp hdata
  obtain ⟨windows, hwindows, hdata⟩ := bind_eq_ok.mp hdata
  obtain ⟨⟨⟩, hvalid, hdata⟩ := bind_eq_ok.mp hdata
  obtain ⟨value', hvalue', hdata⟩ := bind_eq_ok.mp hdata
  obtain ⟨memberships, hmemberships, hdata⟩ := bind_eq_ok.mp hdata
  obtain ⟨⟨⟩, hcount, hdata⟩ := bind_eq_ok.mp hdata
  obtain ⟨⟨⟩, -, hdata⟩ := bind_eq_ok.mp hdata
  obtain ⟨⟨⟩, htables, hdata⟩ := bind_eq_ok.mp hdata
  obtain ⟨⟨⟩, -, hdata⟩ := bind_eq_ok.mp hdata
  obtain ⟨expected, hexpected, hdata⟩ := bind_eq_ok.mp hdata
  refine ⟨?_, ?_, forM_eq_ok.mp htables, ⟨expected, hexpected, hdata⟩, ?_⟩
  · intro windows' hread window hwindow
    rw [hvalue] at hread
    cases hwindows.symm.trans hread
    have hbound := forM_eq_ok.mp hvalid window hwindow
    unfold validateWindow at hbound
    split at hbound
    · rename_i fields hfields
      exact ⟨fields, hfields⟩
    · cases hbound
  · intro memberships' hread
    rw [hvalue'] at hread
    cases hmemberships.symm.trans hread
    exact constrain_eq_ok.mp hcount
  · split at hsource
    · assumption
    · cases hsource

theorem validateTable_rows {table : CompositeTable} (h : validateTable table = .ok ()) :
    (1 ≤ table.rows.length ∧ table.rows.length ≤ 10000) ∧ requireCompleteTable table = .ok () := by
  obtain ⟨⟨⟩, -, h⟩ := bind_eq_ok.mp h
  obtain ⟨⟨⟩, -, h⟩ := bind_eq_ok.mp h
  obtain ⟨⟨⟩, hrows, h⟩ := bind_eq_ok.mp h
  exact ⟨constrain_eq_ok.mp hrows, h⟩

theorem standard_uncaptured {label : String × String} (h : label ∈ uncapturedLabels)
    (hother : label.1 ≠ "MembershipHistory") :
    Standard ⟨label.1, ["metric", "value", "reason_code"], ["unavailable"]⟩ := by
  have hlookup : ∀ label ∈ uncapturedLabels, label.1 ≠ "MembershipHistory" →
      label.1 ≠ "Contribution" ∧
        standardColumns.lookup label.1 = some ["metric", "value", "reason_code"] := by decide
  obtain ⟨hname, hcolumns⟩ := hlookup label h hother
  exact standard_single hname hcolumns (by decide)

/-- The primary tables have standard layouts, when their rows are few enough. -/
theorem standard_primary {count : Nat} {primary : List Layout} (h : PrimaryLayout count primary)
    (hmonthly : "MonthlyReturns" ∉ primary.map (·.tableId))
    (hbound : ∀ layout ∈ primary, layout.tableId ≠ "MembershipHistory" →
      layout.rowIds.length ≤ 10000) :
    ∀ layout ∈ primary, layout.tableId ≠ "MembershipHistory" → Standard layout := by
  cases h with
  | mk isMonthly periodCount lineageCount contribution hcontribution =>
      cases isMonthly with
      | true => exact absurd (List.mem_cons_of_mem _ List.mem_cons_self) hmonthly
      | false =>
          have hlength : ∀ n, (indices n).length = n := fun n => by simp [indices]
          simp only [Bool.false_eq_true, if_false, List.cons_append, List.nil_append,
            List.forall_mem_cons] at hbound ⊢
          obtain ⟨-, hperiods, hcontributions, hmethods, hlineage, -, -⟩ := hbound
          have hperiods := hperiods (by decide)
          have hmethods := hmethods (by decide)
          have hlineage := hlineage (by decide)
          rw [hlength] at hperiods hmethods hlineage
          refine ⟨fun _ => ?_, fun _ => ?_, fun hname => ?_, fun _ => ?_, fun _ => ?_, fun _ => ?_, ?_⟩
          · exact standard_single (by decide) rfl (by decide)
          · exact standard_indices hperiods (by decide) rfl
          · exact standard_contribution hperiods (hcontributions hname) hcontribution
          · exact standard_indices hmethods (by decide) rfl
          · exact standard_indices hlineage (by decide) rfl
          · exact standard_indices (by decide) (by decide) rfl
          · intro layout hlayout hname
            obtain ⟨label, hlabel, rfl⟩ := List.mem_map.mp hlayout
            exact standard_uncaptured hlabel hname

theorem standard_projected {document : Fields} {paths : List String}
    {layouts : List Layout} (p : Projected document paths layouts)
    (hnames : layouts.map (·.tableId) = sourceTables)
    (hbound : ∀ layout ∈ layouts, layout.rowIds.length ≤ 10000)
    (hmemberships : ∀ memberships, (subscript (.obj document) "supplied_memberships").bind itemsOf =
      .ok memberships → memberships.length ≤ 2) :
    ∀ layout ∈ layouts, Standard layout := by
  obtain ⟨isMonthly, hids⟩ := ids_projected p
  obtain ⟨-, hsince, hcalendar, htrailing, hhistory⟩ :=
    attachments_of_placedIds _ _ _ _ _ (hids.symm.trans hnames)
  have heq := p.eq
  obtain ⟨history, hhistory⟩ := Option.isSome_iff_exists.mp hhistory
  rw [Option.isSome_eq_false_iff, Option.isNone_iff_eq_none] at hcalendar htrailing
  rw [hsince, hcalendar, htrailing, hhistory, if_pos rfl] at heq
  obtain ⟨memberships, hread, hlayout⟩ := p.isHistory history hhistory
  have hname := ids_history hlayout
  simp only [placed, hname] at heq
  have hmem : ∀ layout ∈ p.primary, layout.tableId ≠ "MembershipHistory" → layout ∈ layouts := by
    intro layout hprimary hother
    rw [heq]
    apply List.mem_append_left
    exact List.mem_filter.mpr ⟨List.mem_append_left _ hprimary, decide_eq_true hother⟩
  have hmonthly : "MonthlyReturns" ∉ p.primary.map (·.tableId) := by
    intro h
    obtain ⟨layout, hprimary, hid⟩ := List.mem_map.mp h
    have hsource := List.mem_map_of_mem (f := (·.tableId))
      (hmem layout hprimary (by rw [hid]; decide))
    rw [hnames, hid] at hsource
    revert hsource
    decide
  intro layout hlayout'
  rw [heq] at hlayout'
  rcases List.mem_append.mp hlayout' with hbase | hlast
  · obtain ⟨hbase, hother⟩ := List.mem_filter.mp hbase
    rcases List.mem_append.mp hbase with hprimary | hsinceLayout
    · exact standard_primary p.isPrimary hmonthly
        (fun l hl hne => hbound l (hmem l hl hne)) layout hprimary (of_decide_eq_true hother)
    · rw [List.mem_singleton.mp hsinceLayout]
      exact standard_single (by decide) rfl (by decide)
  · rw [List.mem_singleton] at hlast
    rw [hlast] at hlayout' ⊢
    exact standard_history (hmemberships memberships hread)
      (hbound history (by rw [heq]; exact hlayout')) hlayout

theorem Generation.standard (g : Generation lib) :
    ∀ table ∈ g.payload.tables, Standard (layoutOf table) := by
  obtain ⟨hbinds, hmemberships, hvalid, ⟨expected, hexpected, hcomplete⟩, hids⟩ := g.acceptedLayout
  obtain ⟨paths, hpaths, hmethods, ⟨p⟩⟩ := layout_projection hexpected
  have hnodup := nodup_methodPointers g.wellFormed hbinds hpaths
  have hlayouts := layout_requireCompleteProjection hnodup hmethods hcomplete
  have hbound : ∀ layout ∈ expected.tables.map layoutOf, layout.rowIds.length ≤ 10000 := by
    rw [← hlayouts]
    intro layout hlayout
    obtain ⟨table, htable, rfl⟩ := List.mem_map.mp hlayout
    rw [layoutOf, List.length_map]
    exact (validateTable_rows (hvalid table htable)).1.2
  have hnames : (expected.tables.map layoutOf).map (·.tableId) = sourceTables := by
    rw [← hlayouts, List.map_map]
    exact hids
  suffices h : ∀ layout ∈ expected.tables.map layoutOf, Standard layout by
    rw [← hlayouts] at h
    intro table htable
    exact h _ (List.mem_map_of_mem htable)
  exact standard_projected p hnames hbound hmemberships

end Acceptance

section Cells

variable {lib : ContractLibrary}

/-- A dataset has a cell at a coordinate. -/
def HasCell (payload : Dataset) (k : Coordinate) : Prop :=
  ∃ table ∈ payload.tables, table.tableId = k.tableId ∧ k.rowId ∈ table.rows.map (·.rowId) ∧
    k.columnId ∈ table.columns.map (·.columnId)

/-- A reference leads to the cell of a coordinate. -/
structure RefersTo (payload : Dataset) (side : Side) (k : Coordinate) (ref : CellRef) : Prop where
  generation : ref.generation = side
  coordinate : ref.coordinate = k
  cell : ∃ table row column cell, payload.tables[ref.tableIndex]? = some table ∧
    table.rows[ref.rowIndex]? = some row ∧ table.columns[ref.columnIndex]? = some column ∧
    k = ⟨table.tableId, row.rowId, column.columnId⟩ ∧
    row.cells.lookup k.columnId = some cell ∧ ref.sourcePointer = cell.sourcePointer

/-- The coordinates of a dataset, in the order of tables, rows and columns. -/
def coordinateKeys (payload : Dataset) : List Coordinate :=
  payload.tables.flatMap fun table => table.rows.flatMap fun row => table.columns.map fun column =>
    ⟨table.tableId, row.rowId, column.columnId⟩

theorem mem_coordinateKeys {payload : Dataset} {k : Coordinate} :
    k ∈ coordinateKeys payload ↔ HasCell payload k := by
  simp only [coordinateKeys, List.mem_flatMap, List.mem_map, HasCell]
  constructor
  · rintro ⟨table, htable, row, hrow, column, hcolumn, rfl⟩
    exact ⟨table, htable, rfl, ⟨row, hrow, rfl⟩, ⟨column, hcolumn, rfl⟩⟩
  · rintro ⟨table, htable, hid, ⟨row, hrow, hrowId⟩, ⟨column, hcolumn, hcolumnId⟩⟩
    refine ⟨table, htable, row, hrow, column, hcolumn, ?_⟩
    rw [hid, hrowId, hcolumnId]

theorem requireCompleteTable_eq_ok {table : CompositeTable}
    (h : requireCompleteTable table = .ok ()) : (table.columns.map (·.columnId)).Nodup ∧
      (table.rows.map (·.rowId)).Nodup ∧
      ∀ row ∈ table.rows, (row.cells.map Prod.fst).Perm (table.columns.map (·.columnId)) := by
  simp only [requireCompleteTable, Bool.not_eq_true', decide_eq_false_iff_not] at h
  split_ifs at h with hcolumns hrows hcells
  simp only [List.any_eq_true, Bool.not_eq_true', decide_eq_false_iff_not, not_exists, not_and,
    not_not] at hcells
  exact ⟨hcolumns, hrows, hcells⟩

/-- The tables of a dataset are complete, and have distinct names. -/
structure Complete (payload : Dataset) : Prop where
  names : (payload.tables.map (·.tableId)).Nodup
  tables : ∀ table ∈ payload.tables, requireCompleteTable table = .ok ()

theorem Generation.complete (g : Generation lib) : Complete g.payload where
  names := by
    rw [g.acceptedLayout.ids]
    decide
  tables table htable := (validateTable_rows (g.acceptedLayout.tables table htable)).2

variable {payload : Dataset}

theorem nodup_coordinateKeys (h : Complete payload) : (coordinateKeys payload).Nodup := by
  rw [coordinateKeys, List.nodup_flatMap]
  constructor
  · intro table htable
    obtain ⟨hcolumns, hrows, -⟩ := requireCompleteTable_eq_ok (h.tables table htable)
    rw [List.nodup_flatMap]
    constructor
    · intro row _
      apply List.Nodup.of_map (·.columnId)
      rw [List.map_map]
      exact hcolumns
    · apply List.Pairwise.imp _ (List.pairwise_map.mp hrows)
      intro a b hne
      apply List.disjoint_left.mpr
      intro k hk hk'
      obtain ⟨_, -, rfl⟩ := List.mem_map.mp hk
      obtain ⟨_, -, heq⟩ := List.mem_map.mp hk'
      exact hne (congrArg Coordinate.rowId heq).symm
  · apply List.Pairwise.imp _ (List.pairwise_map.mp h.names)
    intro a b hne
    apply List.disjoint_left.mpr
    intro k hk hk'
    obtain ⟨_, -, hk⟩ := List.mem_flatMap.mp hk
    obtain ⟨_, -, rfl⟩ := List.mem_map.mp hk
    obtain ⟨_, -, hk'⟩ := List.mem_flatMap.mp hk'
    obtain ⟨_, -, heq⟩ := List.mem_map.mp hk'
    exact hne (congrArg Coordinate.tableId heq).symm

theorem exists_rowEntries {side : Side} {table : CompositeTable} {row : CompositeRow}
    (hrow : (row.cells.map Prod.fst).Perm (table.columns.map (·.columnId))) (ti ri : Nat) :
    ∃ entries, rowEntries side table ti row ri = .ok entries := by
  apply exists_mapM_eq
  rintro ⟨column, ci⟩ hcolumn
  have hkey : column.columnId ∈ row.cells.map Prod.fst :=
    hrow.mem_iff.mpr (List.mem_map_of_mem (List.fst_mem_of_mem_zipIdx hcolumn))
  have hfound : (row.cells.lookup column.columnId).isSome := by
    obtain ⟨cell, hcell, heq⟩ := List.mem_map.mp hkey
    exact List.lookup_isSome_iff.mpr ⟨cell, hcell, beq_iff_eq.mpr heq.symm⟩
  obtain ⟨cell, hcell⟩ := Option.isSome_iff_exists.mp hfound
  simp only [cellEntry, hcell]
  exact ⟨_, rfl⟩

theorem exists_coordinateCells (h : Complete payload) (side : Side) :
    ∃ cells, coordinateCells payload side = .ok cells := by
  have htables : ∃ parts, payload.tables.zipIdx.mapM (fun (table, ti) =>
      tableEntries side table ti) = .ok parts := by
    apply exists_mapM_eq
    rintro ⟨table, ti⟩ htable
    obtain ⟨-, -, hcells⟩ := requireCompleteTable_eq_ok
      (h.tables table (List.fst_mem_of_mem_zipIdx htable))
    have hrows : ∃ parts, table.rows.zipIdx.mapM (fun (row, ri) =>
        rowEntries side table ti row ri) = .ok parts := by
      apply exists_mapM_eq
      rintro ⟨row, ri⟩ hrow
      exact exists_rowEntries (hcells row (List.fst_mem_of_mem_zipIdx hrow)) ti ri
    obtain ⟨parts, hparts⟩ := hrows
    exact ⟨_, bind_eq_ok.mpr ⟨parts, hparts, rfl⟩⟩
  obtain ⟨parts, hparts⟩ := htables
  exact ⟨_, bind_eq_ok.mpr ⟨parts, hparts, rfl⟩⟩

theorem cellEntry_eq_ok {side : Side} {table : CompositeTable} {row : CompositeRow}
    {column : CompositeColumn} {ti ri ci : Nat} {k : Coordinate} {ref : CellRef} :
    cellEntry side table ti row ri column ci = .ok (k, ref) ↔
      k = ⟨table.tableId, row.rowId, column.columnId⟩ ∧ ∃ cell,
        row.cells.lookup column.columnId = some cell ∧
        ref = ⟨side, ti, ri, ci, k, cell.sourcePointer⟩ := by
  unfold cellEntry
  cases row.cells.lookup column.columnId with
  | none => simp
  | some cell =>
      simp only [Except.ok.injEq, Prod.mk.injEq, Option.some.injEq, exists_eq_left']
      constructor
      · rintro ⟨rfl, rfl⟩
        exact ⟨rfl, rfl⟩
      · rintro ⟨rfl, rfl⟩
        exact ⟨rfl, rfl⟩

theorem keys_rowEntries {side : Side} {table : CompositeTable} {row : CompositeRow} {ti ri : Nat}
    {entries : List (Coordinate × CellRef)} (h : rowEntries side table ti row ri = .ok entries) :
    entries.map Prod.fst = table.columns.map fun column =>
      ⟨table.tableId, row.rowId, column.columnId⟩ := by
  have hkeys := map_eq_of_mapM (g := Prod.fst) (f := fun e => (⟨table.tableId, row.rowId,
    e.1.columnId⟩ : Coordinate)) (fun e b hb => (cellEntry_eq_ok.mp hb).1) h
  rw [hkeys]
  conv_rhs => rw [← List.zipIdx_map_fst 0 table.columns, List.map_map]
  rfl

theorem keys_tableEntries {side : Side} {table : CompositeTable} {ti : Nat}
    {entries : List (Coordinate × CellRef)} (h : tableEntries side table ti = .ok entries) :
    entries.map Prod.fst = table.rows.flatMap fun row => table.columns.map fun column =>
      ⟨table.tableId, row.rowId, column.columnId⟩ := by
  obtain ⟨parts, hparts, h⟩ := bind_eq_ok.mp h
  cases h
  have hkeys := map_flatten_of_mapM (g := Prod.fst) (f := fun e => table.columns.map fun column =>
    (⟨table.tableId, e.1.rowId, column.columnId⟩ : Coordinate))
    (fun e bs hbs => keys_rowEntries hbs) hparts
  rw [hkeys]
  conv_rhs => rw [← List.zipIdx_map_fst 0 table.rows, List.flatMap_map]

theorem keys_coordinateCells {side : Side} {cells : List (Coordinate × CellRef)}
    (h : coordinateCells payload side = .ok cells) : cells.map Prod.fst = coordinateKeys payload := by
  obtain ⟨parts, hparts, h⟩ := bind_eq_ok.mp h
  cases h
  have hkeys := map_flatten_of_mapM (g := Prod.fst) (f := fun e => e.1.rows.flatMap fun row =>
    e.1.columns.map fun column => (⟨e.1.tableId, row.rowId, column.columnId⟩ : Coordinate))
    (fun e bs hbs => keys_tableEntries hbs) hparts
  rw [hkeys, coordinateKeys]
  conv_rhs => rw [← List.zipIdx_map_fst 0 payload.tables, List.flatMap_map]

theorem mem_coordinateCells {side : Side} {cells : List (Coordinate × CellRef)}
    (h : coordinateCells payload side = .ok cells) {k : Coordinate} {ref : CellRef} :
    (k, ref) ∈ cells ↔ RefersTo payload side k ref := by
  obtain ⟨tableParts, htables, h⟩ := bind_eq_ok.mp h
  cases h
  constructor
  · intro hmem
    obtain ⟨tablePart, htablePart, hmem⟩ := List.mem_flatten.mp hmem
    obtain ⟨⟨table, ti⟩, htable, hentries⟩ := exists_of_mem_mapM htables htablePart
    obtain ⟨rowParts, hrows, hentries⟩ := bind_eq_ok.mp hentries
    cases hentries
    obtain ⟨rowPart, hrowPart, hmem⟩ := List.mem_flatten.mp hmem
    obtain ⟨⟨row, ri⟩, hrow, hrowEntries⟩ := exists_of_mem_mapM hrows hrowPart
    obtain ⟨⟨column, ci⟩, hcolumn, hentry⟩ := exists_of_mem_mapM hrowEntries hmem
    obtain ⟨rfl, cell, hcell, rfl⟩ := cellEntry_eq_ok.mp hentry
    exact ⟨rfl, rfl, table, row, column, cell, List.mk_mem_zipIdx_iff_getElem?.mp htable,
      List.mk_mem_zipIdx_iff_getElem?.mp hrow, List.mk_mem_zipIdx_iff_getElem?.mp hcolumn, rfl,
      hcell, rfl⟩
  · rintro ⟨hside, hkey, table, row, column, cell, htable, hrow, hcolumn, rfl, hcell, hpointer⟩
    obtain ⟨refSide, ti, ri, ci, refKey, pointer⟩ := ref
    dsimp only at hside hkey htable hrow hcolumn hpointer
    subst hside hkey hpointer
    obtain ⟨tablePart, htablePart, hentries⟩ :=
      converts_of_mapM htables (List.mk_mem_zipIdx_iff_getElem?.mpr htable)
    obtain ⟨rowParts, hrows, hentries⟩ := bind_eq_ok.mp hentries
    cases hentries
    obtain ⟨rowPart, hrowPart, hrowEntries⟩ :=
      converts_of_mapM hrows (List.mk_mem_zipIdx_iff_getElem?.mpr hrow)
    obtain ⟨entry, hentry, hcellEntry⟩ :=
      converts_of_mapM hrowEntries (List.mk_mem_zipIdx_iff_getElem?.mpr hcolumn)
    have hsame : cellEntry refSide table ti row ri column ci = .ok
        (⟨table.tableId, row.rowId, column.columnId⟩, ⟨refSide, ti, ri, ci,
          ⟨table.tableId, row.rowId, column.columnId⟩, cell.sourcePointer⟩) :=
      cellEntry_eq_ok.mpr ⟨rfl, cell, hcell, rfl⟩
    cases hsame.symm.trans hcellEntry
    exact List.mem_flatten.mpr ⟨_, htablePart, List.mem_flatten.mpr ⟨_, hrowPart, hentry⟩⟩

end Cells

section Ranks

/-- The key that a coordinate is sorted by, in any pair of generations. -/
def standardKey (k : Coordinate) : ℕ ×ₗ String ×ₗ ℕ :=
  toLex (sourceTables.idxOf k.tableId, toLex (k.rowId, columnRank k.tableId k.columnId))

/-- A coordinate of a standard layout. -/
structure StandardCoordinate (k : Coordinate) : Prop where
  table : k.tableId ∈ sourceTables
  column : k.columnId ∈ columnsAt k.tableId k.rowId
  row : ShortName k.rowId

theorem columnRank_eq {tableId rowId columnId : String} (h : columnId ∈ columnsAt tableId rowId) :
    columnRank tableId columnId = (columnsAt tableId rowId).idxOf columnId := by
  unfold columnsAt at h ⊢
  unfold columnRank
  by_cases htable : tableId = "Contribution"
  · rw [if_pos htable] at h ⊢
    rw [if_pos htable]
    by_cases hrow : rowId = "unavailable"
    · rw [if_pos hrow] at h ⊢
      rw [List.mem_singleton.mp h]
      rfl
    · rw [if_neg hrow] at h ⊢
      have hne : columnId ≠ "value" := by
        rintro rfl
        revert h
        decide
      rw [if_neg hne]
  · rw [if_neg htable, if_neg htable]

theorem standardKey_inj {k l : Coordinate} (hk : StandardCoordinate k) (hl : StandardCoordinate l)
    (h : standardKey k = standardKey l) : k = l := by
  obtain ⟨tableId, rowId, columnId⟩ := k
  obtain ⟨tableId', rowId', columnId'⟩ := l
  simp only [standardKey, toLex_inj, Prod.mk.injEq] at h
  obtain ⟨htable, hrow, hcolumn⟩ := h
  have htable : tableId = tableId' := (List.idxOf_inj hk.table).mp htable
  subst htable hrow
  rw [columnRank_eq hk.column, columnRank_eq hl.column] at hcolumn
  have hcolumn : columnId = columnId' := (List.idxOf_inj hk.column).mp hcolumn
  rw [hcolumn]

theorem plain_ofList {cs : List Char} (hplain : cs.all isPlain = true) (hlength : cs.length ≤ 31) :
    (String.ofList cs).toList.all isPlain = true ∧ (String.ofList cs).length ≤ 31 := by
  rw [String.toList_ofList, String.length_ofList]
  exact ⟨hplain, hlength⟩

theorem plain_names : (∀ name ∈ sourceTables, name.toList.all isPlain = true ∧ name.length ≤ 31) ∧
    (∀ name ∈ keysOf contributionColumns, name.toList.all isPlain = true ∧ name.length ≤ 31) ∧
    ∀ entry ∈ standardColumns, ∀ name ∈ entry.2, name.toList.all isPlain = true ∧
      name.length ≤ 31 := by
  -- a name is read as its characters, which are cheaper to check than the text
  refine ⟨?_, ?_, ?_⟩
  · repeat refine List.forall_mem_cons.mpr ⟨plain_ofList (by decide) (by decide), ?_⟩
    exact List.forall_mem_nil _
  · repeat refine List.forall_mem_cons.mpr ⟨plain_ofList (by decide) (by decide), ?_⟩
    exact List.forall_mem_nil _
  · repeat' refine List.forall_mem_cons.mpr ⟨?_, ?_⟩
    all_goals first
      | exact List.forall_mem_nil _
      | exact plain_ofList (by decide) (by decide)

theorem plain_column {tableId rowId columnId : String} (h : columnId ∈ columnsAt tableId rowId) :
    Plain columnId ∧ columnId.length ≤ 31 := by
  have hplain : columnId.toList.all isPlain = true ∧ columnId.length ≤ 31 := by
    unfold columnsAt at h
    split at h
    · split at h
      · rw [List.mem_singleton.mp h]
        decide
      · exact plain_names.2.1 columnId h
    · cases hlookup : standardColumns.lookup tableId with
      | none =>
          rw [hlookup] at h
          cases h
      | some columns =>
          rw [hlookup] at h
          exact plain_names.2.2 _ (mem_of_lookup hlookup) columnId h
  exact ⟨plain_of_all hplain.1, hplain.2⟩

theorem length_coordinateText_le {k : Coordinate} (h : StandardCoordinate k) :
    (coordinateText k).length ≤ 256 := by
  have htable := plain_names.1 k.tableId h.table
  have hcolumn := plain_column h.column
  have htableText := length_quote_le (plain_of_all htable.1)
  have hrowText := length_quote_le h.row.1
  have hcolumnText := length_quote_le hcolumn.1
  have hrow := h.row.2
  have hopen : "[".length = 1 := by decide
  have hclose : "]".length = 1 := by decide
  have hcomma : ",".length = 1 := by decide
  rw [coordinateText, canonicalJson, canonical_ofTexts]
  simp only [ofTexts, List.map_cons, List.map_nil, dumps, dumpsItems, String.intercalate_cons_cons,
    String.intercalate_singleton, String.length_append, hopen, hclose, hcomma]
  omega

theorem coordinateText_inj {k l : Coordinate} (h : coordinateText k = coordinateText l) : k = l := by
  rw [coordinateText, coordinateText, canonicalJson, canonicalJson, canonical_ofTexts,
    canonical_ofTexts] at h
  have htexts := dumps_inj (by rfl) (by rfl) h
  simp only [ofTexts, arr.injEq, List.map_cons, List.map_nil, List.cons.injEq, str.injEq,
    and_true] at htexts
  obtain ⟨tableId, rowId, columnId⟩ := k
  obtain ⟨tableId', rowId', columnId'⟩ := l
  obtain ⟨rfl, rfl, rfl⟩ := htexts
  rfl

variable {lib : ContractLibrary}

theorem Generation.standardCoordinate (g : Generation lib) {k : Coordinate}
    (h : HasCell g.payload k) : StandardCoordinate k := by
  obtain ⟨table, htable, hid, hrow, hcolumn⟩ := h
  obtain ⟨hcolumns, hshort⟩ := g.standard table htable k.rowId hrow
  refine ⟨?_, ?_, hshort⟩
  · rw [← g.acceptedLayout.ids, ← hid]
    exact List.mem_map_of_mem htable
  · rw [← hid]
    exact hcolumns ▸ hcolumn

theorem Generation.index_eq_columnRank (g : Generation lib) {table : CompositeTable}
    (htable : table ∈ g.payload.tables) {column : CompositeColumn} {index : Nat}
    (h : table.columns[index]? = some column) :
    index = columnRank table.tableId column.columnId := by
  obtain ⟨⟨hrows, -⟩, hcomplete⟩ := validateTable_rows (g.acceptedLayout.tables table htable)
  obtain ⟨hnodup, -, -⟩ := requireCompleteTable_eq_ok hcomplete
  obtain ⟨row, hrow⟩ := List.exists_mem_of_length_pos hrows
  obtain ⟨hcolumns, -⟩ := g.standard table htable row.rowId (List.mem_map_of_mem hrow)
  have hcolumns : table.columns.map (·.columnId) = columnsAt table.tableId row.rowId := hcolumns
  have hget : (table.columns.map (·.columnId))[index]? = some column.columnId := by
    rw [List.getElem?_map, h]
    rfl
  obtain ⟨hindex, hget⟩ := List.getElem?_eq_some_iff.mp hget
  have hmem : column.columnId ∈ columnsAt table.tableId row.rowId := by
    rw [← hcolumns, ← hget]
    exact List.getElem_mem hindex
  rw [columnRank_eq hmem, ← hcolumns, ← hget, hnodup.idxOf_getElem]

/-- The dictionary of ranks has the rank of every column, whatever side it is taken from first. -/
theorem lookup_columnRanks (before after : Generation lib) {payloads : List Dataset}
    (hpayloads : ∀ payload, payload ∈ payloads ↔ payload = before.payload ∨ payload = after.payload)
    {k : Coordinate} (h : HasCell before.payload k ∨ HasCell after.payload k) :
    (columnRanks payloads).lookup (k.tableId, k.columnId) =
      some (columnRank k.tableId k.columnId) := by
  have hrank : ∀ payload ∈ payloads, ∀ table ∈ payload.tables, ∀ column index,
      table.columns[index]? = some column → index = columnRank table.tableId column.columnId := by
    intro payload hpayload table htable column index hcolumn
    rcases (hpayloads payload).mp hpayload with rfl | rfl
    · exact before.index_eq_columnRank htable hcolumn
    · exact after.index_eq_columnRank htable hcolumn
  have hassigned : ∀ {key : String × String} {index : Nat}, (key, index) ∈ (payloads.flatMap
      fun payload => payload.tables.flatMap fun table => table.columns.zipIdx.map
        fun (column, index) => ((table.tableId, column.columnId), index)) ↔
      ∃ payload ∈ payloads, ∃ table ∈ payload.tables, ∃ column,
        table.columns[index]? = some column ∧ key = (table.tableId, column.columnId) := by
    intro key index
    simp only [List.mem_flatMap, List.mem_map, Prod.exists, List.mk_mem_zipIdx_iff_getElem?,
      Prod.mk.injEq]
    constructor
    · rintro ⟨payload, hpayload, table, htable, column, place, hcolumn, rfl, rfl⟩
      exact ⟨payload, hpayload, table, htable, column, hcolumn, rfl⟩
    · rintro ⟨payload, hpayload, table, htable, column, hcolumn, rfl⟩
      exact ⟨payload, hpayload, table, htable, column, index, hcolumn, rfl, rfl⟩
  have hcell : ∃ payload ∈ payloads, HasCell payload k := by
    rcases h with h | h
    · exact ⟨_, (hpayloads _).mpr (Or.inl rfl), h⟩
    · exact ⟨_, (hpayloads _).mpr (Or.inr rfl), h⟩
  obtain ⟨payload, hpayload, table, htable, hid, -, hcolumn⟩ := hcell
  obtain ⟨column, hcolumn, hcolumnId⟩ := List.mem_map.mp hcolumn
  obtain ⟨index, hcolumn⟩ := List.getElem?_of_mem hcolumn
  have hindex := hrank payload hpayload table htable column index hcolumn
  rw [hid, hcolumnId] at hindex
  apply lookup_dictOf
  · apply hassigned.mpr
    refine ⟨payload, hpayload, table, htable, column, ?_, ?_⟩
    · rw [← hindex]
      exact hcolumn
    · rw [hid, hcolumnId]
  · intro place hplace
    obtain ⟨payload, hpayload, table, htable, column, hcolumn, hkey⟩ := hassigned.mp hplace
    obtain ⟨hid, hcolumnId⟩ := Prod.mk.inj hkey
    rw [hid, hcolumnId]
    exact hrank payload hpayload table htable column place hcolumn

end Ranks

section Complete

variable {lib : ContractLibrary}

/-- An item names the cells of its coordinate, on each side where there is one. -/
structure NamesCells (before after : Dataset) (item : PairIndexItem) : Prop where
  both : item.presence = .bothPresent ↔
    HasCell before item.coordinate ∧ HasCell after item.coordinate
  beforeOnly : item.presence = .beforeOnly ↔
    HasCell before item.coordinate ∧ ¬ HasCell after item.coordinate
  afterOnly : item.presence = .afterOnly ↔
    ¬ HasCell before item.coordinate ∧ HasCell after item.coordinate
  beforeRef : ∀ ref, item.beforeRef = some ref ↔ RefersTo before .before item.coordinate ref
  afterRef : ∀ ref, item.afterRef = some ref ↔ RefersTo after .after item.coordinate ref

theorem Generation.exists_coordinates (g : Generation lib) (side : Side) : ∃ cells,
    coordinates g.payload side = .ok cells ∧ cells.map Prod.fst = coordinateKeys g.payload ∧
    ∀ k ref, cells.lookup k = some ref ↔ RefersTo g.payload side k ref := by
  obtain ⟨cells, hcells⟩ := exists_coordinateCells g.complete side
  have hkeys := keys_coordinateCells hcells
  have hnodup : (cells.map Prod.fst).Nodup := by
    rw [hkeys]
    exact nodup_coordinateKeys g.complete
  refine ⟨cells, ?_, hkeys, ?_⟩
  · apply bind_eq_ok.mpr
    exact ⟨cells, hcells, by rw [dictOf_eq_self hnodup]; rfl⟩
  · intro k ref
    rw [← mem_coordinateCells hcells]
    constructor
    · exact mem_of_lookup
    · exact lookup_of_mem hnodup

/-- Strictly sorted lists with the same members are the same. -/
theorem eq_of_sorted {κ : Type} [LinearOrder κ] {α : Type} {key : α → κ} {as bs : List α}
    (has : as.Pairwise fun a b => key a < key b) (hbs : bs.Pairwise fun a b => key a < key b)
    (hperm : as.Perm bs) : as = bs := by
  apply hperm.eq_of_pairwise _ has hbs
  intro a b _ _ hab hba
  exact absurd hba (not_lt.mpr hab.le)

/-- The coordinates of either generation, each once, in the order of their keys. -/
def sortedUnion (before after : Dataset) : List Coordinate :=
  ranked standardKey (coordinateKeys before ++ coordinateKeys after).dedup

theorem mem_sortedUnion {before after : Dataset} {k : Coordinate} :
    k ∈ sortedUnion before after ↔ HasCell before k ∨ HasCell after k := by
  rw [sortedUnion, (perm_ranked _ _).mem_iff, List.mem_dedup, List.mem_append, mem_coordinateKeys,
    mem_coordinateKeys]

theorem standard_of_mem {before after : Generation lib} {k : Coordinate}
    (h : k ∈ sortedUnion before.payload after.payload) : StandardCoordinate k := by
  rcases mem_sortedUnion.mp h with h | h
  · exact before.standardCoordinate h
  · exact after.standardCoordinate h

/-- No two coordinates of accepted generations have the same key. -/
theorem pairwise_sortedUnion (before after : Generation lib) :
    (sortedUnion before.payload after.payload).Pairwise fun k l => standardKey k < standardKey l := by
  apply pairwise_ranked
  apply (List.nodup_dedup _).map_on
  intro k hk l hl heq
  rw [← (perm_ranked standardKey _).mem_iff] at hk hl
  exact standardKey_inj (standard_of_mem hk) (standard_of_mem hl) heq

/-- The order of the keys does not depend on the order in which the set was iterated. -/
theorem ranked_keyed (before after : Generation lib) {union : List Coordinate}
    (hunion : union.Perm (coordinateKeys before.payload ++ coordinateKeys after.payload).dedup) :
    (ranked Prod.fst (union.map fun k => (standardKey k, k))).map Prod.snd =
      sortedUnion before.payload after.payload := by
  have hperm : ((ranked Prod.fst (union.map fun k => (standardKey k, k))).map Prod.snd).Perm
      (sortedUnion before.payload after.payload) := by
    have hsame : (union.map fun k => (standardKey k, k)).map Prod.snd = union := by
      rw [List.map_map]
      exact List.map_id union
    have hranked := (perm_ranked Prod.fst (union.map fun k => (standardKey k, k))).map Prod.snd
    rw [hsame] at hranked
    exact (hranked.trans hunion).trans (perm_ranked standardKey _).symm
  apply eq_of_sorted _ (pairwise_sortedUnion before after) hperm
  have hnodup : ((union.map fun k => (standardKey k, k)).map Prod.fst).Nodup := by
    have hsorted := List.pairwise_map.mpr ((pairwise_sortedUnion before after).imp ne_of_lt)
    have hkeys := (hunion.trans (perm_ranked standardKey _).symm).map standardKey
    rw [List.map_map]
    exact hkeys.nodup_iff.mpr hsorted
  apply List.pairwise_map.mpr
  apply (pairwise_ranked hnodup).imp_of_mem
  intro a b ha hb hlt
  rw [(perm_ranked _ _).mem_iff] at ha hb
  obtain ⟨k, -, rfl⟩ := List.mem_map.mp ha
  obtain ⟨l, -, rfl⟩ := List.mem_map.mp hb
  exact hlt

theorem mem_payloadsFrom {first : Side} {before after payload : Dataset} :
    payload ∈ payloadsFrom first before after ↔ payload = before ∨ payload = after := by
  cases first <;> simp [payloadsFrom, or_comm]

theorem sortKey_eq_ok (before after : Generation lib) (first : Side) {k : Coordinate}
    (h : k ∈ sortedUnion before.payload after.payload) :
    sortKey (columnRanks (payloadsFrom first before.payload after.payload)) k =
      .ok (standardKey k) := by
  rw [sortKey, if_pos (standard_of_mem h).table,
    lookup_columnRanks before after (fun _ => mem_payloadsFrom) (mem_sortedUnion.mp h)]
  rfl

theorem keyed_eq_ok (before after : Generation lib) (first : Side) {union : List Coordinate}
    (h : ∀ k ∈ union, k ∈ sortedUnion before.payload after.payload) :
    union.mapM (fun k => do
      return (← sortKey (columnRanks (payloadsFrom first before.payload after.payload)) k, k)) =
        .ok (union.map fun k => (standardKey k, k)) := by
  apply mapM_eq_ok_map
  intro k hk
  exact bind_eq_ok.mpr ⟨standardKey k, sortKey_eq_ok before after first (h k hk), rfl⟩

theorem indexItem_eq_ok {before after : List (Coordinate × CellRef)} {k : Coordinate}
    (h : StandardCoordinate k) : indexItem before after k = .ok (itemOf before after k) := by
  rw [indexItem, if_neg (not_lt.mpr (length_coordinateText_le h))]

/-- A coordinate that one of the generations has is on both sides, or on one of them only. -/
theorem namesCells_itemOf {before after : Dataset} {beforeCells afterCells : List (Coordinate × CellRef)}
    (hbefore : beforeCells.map Prod.fst = coordinateKeys before)
    (hafter : afterCells.map Prod.fst = coordinateKeys after)
    (hbeforeRef : ∀ k ref, beforeCells.lookup k = some ref ↔ RefersTo before .before k ref)
    (hafterRef : ∀ k ref, afterCells.lookup k = some ref ↔ RefersTo after .after k ref)
    {k : Coordinate} (h : HasCell before k ∨ HasCell after k) :
    NamesCells before after (itemOf beforeCells afterCells k) := by
  have hbeforeMem : k ∈ beforeCells.map Prod.fst ↔ HasCell before k := by
    rw [hbefore, mem_coordinateKeys]
  have hafterMem : k ∈ afterCells.map Prod.fst ↔ HasCell after k := by
    rw [hafter, mem_coordinateKeys]
  have hpresence : (itemOf beforeCells afterCells k).presence =
      if k ∈ beforeCells.map Prod.fst ∧ k ∈ afterCells.map Prod.fst then .bothPresent
      else if k ∈ beforeCells.map Prod.fst then .beforeOnly else .afterOnly := rfl
  have hcoordinate : (itemOf beforeCells afterCells k).coordinate = k := rfl
  rw [← hbeforeMem, ← hafterMem] at h
  constructor
  · rw [hpresence, hcoordinate, ← hbeforeMem, ← hafterMem]
    split_ifs <;> simp_all
  · rw [hpresence, hcoordinate, ← hbeforeMem, ← hafterMem]
    split_ifs <;> simp_all
  · rw [hpresence, hcoordinate, ← hbeforeMem, ← hafterMem]
    split_ifs <;> simp_all
  · exact hbeforeRef k
  · exact hafterRef k

/-- The pair index of two accepted generations has every coordinate of either once, names exactly
the cells that it has, and is ordered by the coordinates alone. -/
theorem pairIndex_complete (before after : Generation lib) : ∃ items,
    (∀ set first, pairIndex set first before.payload after.payload = .ok items) ∧
    (items.map (·.coordinate)).Nodup ∧
    (∀ k, k ∈ items.map (·.coordinate) ↔ HasCell before.payload k ∨ HasCell after.payload k) ∧
    (∀ item ∈ items, NamesCells before.payload after.payload item) ∧
    (items.map (·.rowId)).Nodup ∧
    items.Pairwise fun a b => standardKey a.coordinate < standardKey b.coordinate := by
  obtain ⟨beforeCells, hbefore, hbeforeKeys, hbeforeRef⟩ := before.exists_coordinates .before
  obtain ⟨afterCells, hafter, hafterKeys, hafterRef⟩ := after.exists_coordinates .after
  have hcoordinates : ((sortedUnion before.payload after.payload).map
      (itemOf beforeCells afterCells)).map (·.coordinate) =
        sortedUnion before.payload after.payload := by
    rw [List.map_map]
    exact List.map_id _
  have hsorted := pairwise_sortedUnion before after
  have hnodup : (sortedUnion before.payload after.payload).Nodup :=
    (hsorted.imp ne_of_lt).imp fun hne heq => hne (congrArg standardKey heq)
  refine ⟨(sortedUnion before.payload after.payload).map (itemOf beforeCells afterCells),
    ?_, ?_, ?_, ?_, ?_, ?_⟩
  · intro set first
    have hunion := set.perm (beforeCells.map Prod.fst ++ afterCells.map Prod.fst)
    rw [hbeforeKeys, hafterKeys] at hunion
    have hmem : ∀ k ∈ set.arrange (coordinateKeys before.payload ++ coordinateKeys after.payload),
        k ∈ sortedUnion before.payload after.payload := fun k hk =>
      (hunion.trans (perm_ranked standardKey _).symm).mem_iff.mp hk
    have hitems : (sortedUnion before.payload after.payload).mapM
        (indexItem beforeCells afterCells) =
          .ok ((sortedUnion before.payload after.payload).map (itemOf beforeCells afterCells)) := by
      apply mapM_eq_ok_map
      intro k hk
      exact indexItem_eq_ok (standard_of_mem hk)
    apply bind_eq_ok.mpr
    refine ⟨beforeCells, hbefore, bind_eq_ok.mpr ⟨afterCells, hafter, ?_⟩⟩
    rw [hbeforeKeys, hafterKeys]
    apply bind_eq_ok.mpr
    refine ⟨_, keyed_eq_ok before after first hmem, ?_⟩
    rw [ranked_keyed before after hunion, hitems]
  · rw [hcoordinates]
    exact hnodup
  · intro k
    rw [hcoordinates]
    exact mem_sortedUnion
  · intro item hitem
    obtain ⟨k, hk, rfl⟩ := List.mem_map.mp hitem
    exact namesCells_itemOf hbeforeKeys hafterKeys hbeforeRef hafterRef (mem_sortedUnion.mp hk)
  · rw [List.map_map]
    exact hnodup.map fun k l h => coordinateText_inj h
  · exact List.pairwise_map.mpr hsorted

theorem pairIndex_complete_sample : ∃ before after : Generation sampleLibrary,
    before.payload.document = sampleDocument [] ∧
    after.payload.document = sampleDocument [("weighting", .str "beginning-asset")] ∧
    ∃ items, pairIndex sampleIteration .before before.payload after.payload = .ok items ∧
      (items.map (·.coordinate)).Nodup ∧
      (∀ k, k ∈ items.map (·.coordinate) ↔ HasCell before.payload k ∨ HasCell after.payload k) ∧
      ∀ item ∈ items, NamesCells before.payload after.payload item := by
  obtain ⟨before, hbefore⟩ := exists_generation (List.mem_cons_self (a := []))
  obtain ⟨after, hafter⟩ := exists_generation (List.mem_cons_of_mem _ List.mem_cons_self)
  obtain ⟨items, hitems, hnodup, hmem, hnames, -⟩ := pairIndex_complete before after
  exact ⟨before, after, hbefore, hafter, items, hitems sampleIteration .before, hnodup, hmem,
    hnames⟩

end Complete

end LotusReport.Composite.SourceContext
