import LotusReport.Composite.Tables.Contract

/-!
# The tables of a pooled analysis

The tables of a pooled analysis show named fields of the source response, and
an evidence table shows every leaf of it. The leaves are found by a walk over
the document; each row names its leaf by a pointer and holds its JSON text.
-/

namespace LotusReport.Composite

open Encoding Json Fallible

section Model

/-- The kinds of columns that pooled tables have. -/
inductive PooledKind where
  | text
  | decimalReturn
  | money
deriving DecidableEq, Repr

/-- `_column`. -/
def pooledColumn (field : String) (kind : PooledKind) (currency : Json) : CompositeColumn where
  columnId := field
  label := String.ofList (replaceChar '_' [' '] field.toList)
  valueType := match kind with
    | .text => .text
    | .decimalReturn => .decimalReturn
    | .money => .money
  unit := match kind with
    | .text => .text
    | .decimalReturn => .decimalRatio
    | .money => .currencyUnits
  displayUnit := match kind with
    | .text => .text
    | .decimalReturn => .percent
    | .money => .currencyUnits
  displayConversion := if kind = .decimalReturn then .ratioToPercentDisplay else .identity
  displayDecimalPlaces := match kind with
    | .text => none
    | .decimalReturn => some 6
    | .money => some 2
  currency := if kind = .money then currency else .null

/-- `json.dumps(value, sort_keys=True, ensure_ascii=False, allow_nan=False)`. -/
def strictText (value : Json) : Except CaptureError String :=
  if finite value then .ok (dumps false (canonical value)) else .error (.raised "ValueError")

/-- `_cell`. -/
def pooledCell (py : Runtime) (data : Json) (pointer : String) (jsonValue : Bool) :
    Except CaptureError CompositeCell := do
  let value ← resolveSourcePointer data pointer
  if value = .null then
    return ⟨none, .unavailable, ["SOURCE_VALUE_UNAVAILABLE"], pointer⟩
  let text ← if jsonValue then strictText value else pure (pyStr py value)
  return ⟨some text, .available, [], pointer⟩

/-- `data["selection"]["reporting_currency"]`. -/
def reportingCurrency (data : Json) : Except CaptureError Json :=
  readAt data ["selection", "reporting_currency"]

/-- `_table`. -/
def pooledTable (py : Runtime) (data : Json) (name : String) (columns : List (String × PooledKind))
    (roots : List (String × String)) : Except CaptureError CompositeTable := do
  let columnsOf ← columns.mapM fun column => do
    return pooledColumn column.1 column.2 (← reportingCurrency data)
  let rows ← roots.mapM fun root => do
    let cells ← columns.mapM fun column => do
      return (column.1, ← pooledCell py data (root.2 ++ "/" ++ column.1) false)
    return ⟨root.1, cells⟩
  return ⟨name, name, columnsOf, rows⟩

mutual

/-- `_leaves`. -/
def leaves : Json → String → List String
  | .obj fields, pointer =>
      if fields.isEmpty then [pointer]
      else ((leavesFields fields pointer).insertionSort fun a b => a.1 ≤ b.1).flatMap Prod.snd
  | .arr items, pointer =>
      if items.isEmpty then [pointer] else leavesItems items 0 pointer
  | _, pointer => [pointer]

def leavesItems : List Json → Nat → String → List String
  | [], _, _ => []
  | child :: items, n, pointer =>
      leaves child (pointer ++ "/" ++ toString n) ++ leavesItems items (n + 1) pointer

def leavesFields : Fields → String → List (String × List String)
  | [], _ => []
  | (key, child) :: fields, pointer =>
      (key, leaves child (pointer ++ "/" ++ escapeKey key)) :: leavesFields fields pointer

end

/-- `len(value)`. -/
def lengthOf : Json → Except CaptureError Nat
  | .arr items => .ok items.length
  | .obj fields => .ok fields.length
  | .str text => .ok text.length
  | _ => .error (.raised "TypeError")

/-- Text columns. -/
def texts (names : List String) : List (String × PooledKind) := names.map fun name => (name, .text)

/-- A row for each item of a list, named by its index. -/
def itemRoots (root : String) (count : Nat) : List (String × String) :=
  (List.range count).map fun i => (toString i, root ++ "/" ++ toString i)

/-- `_primary_tables`. -/
def primaryTables (py : Runtime) (data : Json) : Except CaptureError (List CompositeTable) := do
  let source ← subscript data "source_response"
  let summary ← pooledTable py data "Summary"
    (texts ["schema_version", "metric_id", "method", "result_classification", "calculation_id",
      "correction_of_calculation_id", "calculation_engine_version", "input_manifest_digest"])
    [("result", "/source_response")]
  let outcome ← pooledTable py data "Outcome"
    (texts ["availability", "actual_method", "units", "root_precision", "input_money_precision"] ++
      [("return_value", .decimalReturn), ("annualized_return", .decimalReturn),
        ("holding_period_return", .decimalReturn)])
    [("outcome", "/source_response/outcome")]
  let observation ← pooledTable py data "MonetaryObservation"
    (texts ["period_start", "period_end", "reporting_currency", "source_manifest_id"] ++
      [("opening_value", .money), ("terminal_value", .money)])
    [("observation", "/source_response/observation")]
  let flows ← lengthOf (← readAt source ["observation", "investor_cash_flows"])
  let investorCashFlows ← pooledTable py data "InvestorCashFlows"
    [("economic_date", .text), ("amount", .money)]
    (itemRoots "/source_response/observation/investor_cash_flows" flows)
  let policy ← pooledTable py data "Policy"
    (texts ["binding_id", "owner", "revision", "content_hash", "method", "return_view", "fee_basis",
      "tax_basis", "day_count_basis", "date_basis", "fallback_policy"])
    [("policy", "/source_response/observation/source_bundle/policy")]
  let disclosed ← lengthOf (← readAt data ["report_facts", "disclosures"])
  let disclosures ← pooledTable py data "Disclosures" (texts ["code", "text"])
    (itemRoots "/report_facts/disclosures" disclosed)
  return [summary, outcome, observation, investorCashFlows, policy, disclosures]

/-- `_bundle_tables`. -/
def bundleTables (py : Runtime) (data : Json) : Except CaptureError (List CompositeTable) := do
  let source ← subscript data "source_response"
  let bundle ← readAt source ["observation", "source_bundle"]
  let root := "/source_response/observation/source_bundle"
  let valuations ← pooledTable py data "Valuations"
    (texts ["portfolio_id", "economic_date", "role", "currency", "timing", "source_pin_id",
      "source_row_id", "units"] ++ [("amount", .money)])
    (itemRoots (root ++ "/valuations") (← lengthOf (← subscript bundle "valuations")))
  let flows ← pooledTable py data "PortfolioFlows"
    (texts ["portfolio_id", "economic_date", "source_date", "currency", "timing", "classification",
      "source_pin_id", "event_id", "revision", "lifecycle_status", "units"] ++ [("amount", .money)])
    (itemRoots (root ++ "/flows") (← lengthOf (← subscript bundle "flows")))
  let members ← (← itemsOf (← readAt source ["observation", "per_member_controls"])).mapM textOf
  let controls ← pooledTable py data "MemberControls"
    [("opening_value", .money), ("terminal_value", .money), ("external_flows", .money),
      ("entry_capital", .money), ("exit_capital", .money)]
    ((sortedTexts members).map fun member =>
      (member, "/source_response/observation/per_member_controls/" ++ escapeKey member))
  let pins ← pooledTable py data "SourcePins"
    (texts ["pin_id", "owner", "product_name", "product_version", "revision", "source_cut_id",
      "payload_digest", "compatibility_group", "coverage_from", "coverage_to", "completeness"])
    (itemRoots (root ++ "/source_pins") (← lengthOf (← subscript bundle "source_pins")))
  let membership ← pooledTable py data "Membership"
    (texts ["portfolio_id", "effective_from", "effective_to", "status", "source_row_id",
      "reason_code"])
    (itemRoots (root ++ "/membership") (← lengthOf (← subscript bundle "membership")))
  return [valuations, flows, controls, pins, membership]

/-- The row of a leaf, named by its place in the walk. -/
def leafRow (py : Runtime) (data : Json) (entry : String × Nat) :
    Except CaptureError CompositeRow := do
  return ⟨toString entry.2, [("value", ← pooledCell py data entry.1 true)]⟩

/-- The table of the leaves of one document of the dataset. -/
def evidenceTable (py : Runtime) (data : Json) (tableId field : String) (document : Json) :
    Except CaptureError CompositeTable := do
  let column := pooledColumn "value" .text (← reportingCurrency data)
  let rows ← (leaves document ("/" ++ field)).zipIdx.mapM (leafRow py data)
  return ⟨tableId, tableId, [column], rows⟩

/-- The evidence tables: none for a document that is null. -/
def evidenceTables (py : Runtime) (data : Json) : Except CaptureError (List CompositeTable) := do
  let tables ← [("SourceEvidence", "source_response"),
      ("PredecessorEvidence", "predecessor_source_response")].mapM fun (tableId, field) => do
    let document ← subscript data field
    if document = .null then return none
    return some (← evidenceTable py data tableId field document)
  return tables.filterMap id

/-- `pooled_tables`: tables without rows are left out. -/
def pooledTables (py : Runtime) (data : Json) : Except CaptureError (List CompositeTable) := do
  let tables := (← primaryTables py data) ++ (← bundleTables py data)
  return (tables.filter fun table => !table.rows.isEmpty) ++ (← evidenceTables py data)

end Model

section Leaves

theorem leavesFields_eq (fields : Fields) (pointer : String) :
    leavesFields fields pointer = fields.map fun field =>
      (field.1, leaves field.2 (pointer ++ "/" ++ escapeKey field.1)) := by
  induction fields with
  | nil => rfl
  | cons field fields ih =>
      obtain ⟨key, child⟩ := field
      rw [leavesFields, ih]
      rfl

theorem leavesItems_eq (items : List Json) (n : Nat) (pointer : String) :
    leavesItems items n pointer = (items.zipIdx n).flatMap fun item =>
      leaves item.1 (pointer ++ "/" ++ toString item.2) := by
  induction items generalizing n with
  | nil => rfl
  | cons child items ih =>
      rw [leavesItems, ih]
      rfl

/-- Sorting the keys only reorders the leaves of an object. -/
theorem leaves_obj_perm {fields : Fields} (h : fields ≠ []) (pointer : String) :
    (leaves (.obj fields) pointer).Perm (fields.flatMap fun field =>
      leaves field.2 (pointer ++ "/" ++ escapeKey field.1)) := by
  have hempty : fields.isEmpty = false := by simpa using h
  have hsorted := (List.perm_insertionSort (fun a b : String × List String => a.1 ≤ b.1)
    (leavesFields fields pointer)).flatMap_right Prod.snd
  rw [leaves, hempty, leavesFields_eq] at *
  rw [List.flatMap_map] at hsorted
  exact hsorted

/-- The walk finds the pointers to the leaves, and nothing else. -/
theorem mem_leaves_iff (v : Json) : ∀ {root pointer : String},
    pointer ∈ leaves v root ↔ ∃ path leaf, LeafAt v path leaf ∧ pointer = pointerTo root path := by
  have hhere : ∀ {leaf : Json} {root pointer : String}, isLeaf leaf = true →
      (pointer ∈ [root] ↔ ∃ path leaf', LeafAt leaf path leaf' ∧ pointer = pointerTo root path) := by
    intro leaf root pointer hleaf
    rw [List.mem_singleton]
    constructor
    · rintro rfl
      exact ⟨[], leaf, .here hleaf, rfl⟩
    · rintro ⟨path, leaf', h, rfl⟩
      cases h with
      | here => rfl
      | @field fields _ _ _ _ hmem =>
          have hnil : fields = [] := by simpa [isLeaf] using hleaf
          rw [hnil] at hmem
          cases hmem
      | @item items _ _ _ _ hmem =>
          have hnil : items = [] := by simpa [isLeaf] using hleaf
          rw [hnil] at hmem
          cases hmem
  apply ind (P := fun v => ∀ {root pointer : String}, pointer ∈ leaves v root ↔
    ∃ path leaf, LeafAt v path leaf ∧ pointer = pointerTo root path)
  · exact hhere rfl
  · exact fun b => hhere rfl
  · exact fun n => hhere rfl
  · exact fun text => hhere rfl
  · exact fun s => hhere rfl
  · intro items ih root pointer
    by_cases hnil : items = []
    · subst hnil
      exact hhere rfl
    · have hempty : items.isEmpty = false := by simpa using hnil
      rw [leaves, hempty, if_neg (by simp), leavesItems_eq, List.mem_flatMap]
      constructor
      · rintro ⟨⟨child, n⟩, hmem, hpointer⟩
        have hitem : items[n]? = some child := List.mk_mem_zipIdx_iff_getElem?.mp hmem
        obtain ⟨path, leaf, hleaf, rfl⟩ := (ih child (List.mem_of_getElem? hitem)).mp hpointer
        exact ⟨.index n :: path, leaf, .item hitem hleaf, rfl⟩
      · rintro ⟨path, leaf, h, rfl⟩
        cases h with
        | here h => exact absurd (by simpa [isLeaf] using h) hnil
        | @item _ n child _ path hitem hleaf =>
            refine ⟨(child, n), List.mk_mem_zipIdx_iff_getElem?.mpr hitem, ?_⟩
            exact (ih child (List.mem_of_getElem? hitem)).mpr ⟨path, leaf, hleaf, rfl⟩
  · intro fields ih root pointer
    by_cases hnil : fields = []
    · subst hnil
      exact hhere rfl
    · rw [(leaves_obj_perm hnil root).mem_iff, List.mem_flatMap]
      constructor
      · rintro ⟨⟨key, child⟩, hmem, hpointer⟩
        obtain ⟨path, leaf, hleaf, rfl⟩ := (ih _ hmem).mp hpointer
        exact ⟨.key key :: path, leaf, .field hmem hleaf, rfl⟩
      · rintro ⟨path, leaf, h, rfl⟩
        cases h with
        | here h => exact absurd (by simpa [isLeaf] using h) hnil
        | @field _ key child _ path hmem hleaf =>
            exact ⟨(key, child), hmem, (ih _ hmem).mpr ⟨path, leaf, hleaf, rfl⟩⟩

/-- Below different segments of one place the walk finds different pointers. -/
theorem disjoint_leaves {root : String} (step step' : Step) {child child' : Json}
    (h : segment step ≠ segment step') :
    List.Disjoint (leaves child (root ++ "/" ++ segment step))
      (leaves child' (root ++ "/" ++ segment step')) := by
  intro pointer hpointer hpointer'
  obtain ⟨path, leaf, -, heq⟩ := (mem_leaves_iff child).mp hpointer
  obtain ⟨path', leaf', -, heq'⟩ := (mem_leaves_iff child').mp hpointer'
  have hparts := congrArg pointerParts (heq.symm.trans heq')
  rw [pointerParts_pointerTo, pointerParts_pointerTo, pointerParts_append, pointerParts_append,
    List.append_assoc, List.append_assoc, List.append_cancel_left_eq] at hparts
  exact h (String.toList_inj.mp (List.cons.inj hparts).1)

/-- No leaf is found twice. -/
theorem nodup_leaves (v : Json) : ∀ {root : String}, wellFormed v = true → (leaves v root).Nodup := by
  apply ind (P := fun v => ∀ {root : String}, wellFormed v = true → (leaves v root).Nodup)
  · exact fun _ => List.nodup_singleton _
  · exact fun b _ _ => List.nodup_singleton _
  · exact fun n _ _ => List.nodup_singleton _
  · exact fun text _ _ => List.nodup_singleton _
  · exact fun s _ _ => List.nodup_singleton _
  · intro items ih root hv
    by_cases hnil : items = []
    · subst hnil
      exact List.nodup_singleton _
    · have hempty : items.isEmpty = false := by simpa using hnil
      rw [leaves, hempty, if_neg (by simp), leavesItems_eq, List.nodup_flatMap]
      constructor
      · rintro ⟨child, n⟩ hmem
        have hchild := List.mem_of_getElem? (List.mk_mem_zipIdx_iff_getElem?.mp hmem)
        exact ih child hchild (wellFormed_arr.mp hv child hchild)
      · have hindices : (items.zipIdx.map Prod.snd).Nodup := by
          rw [List.zipIdx_map_snd]
          exact List.nodup_range'
        refine (List.pairwise_map.mp hindices).imp fun hne => ?_
        refine disjoint_leaves (.index _) (.index _) fun heq => hne ?_
        have hindex := congrArg indexOf heq
        simpa only [segment, indexOf_toString, Option.some.injEq] using hindex
  · intro fields ih root hv
    obtain ⟨hdistinct, hall⟩ := wellFormed_obj.mp hv
    by_cases hnil : fields = []
    · subst hnil
      exact List.nodup_singleton _
    · rw [(leaves_obj_perm hnil root).nodup_iff, List.nodup_flatMap]
      constructor
      · exact fun field hmem => ih field hmem (hall field hmem)
      · refine (List.pairwise_map.mp hdistinct).imp fun hne => ?_
        refine disjoint_leaves (.key _) (.key _) fun heq => hne ?_
        have hkey := congrArg (fun s : String => unescapeKey s.toList) heq
        simpa only [segment, unescapeKey_escapeKey] using hkey

end Leaves

section Evidence

/-- A dataset with a source document: a JSON value with finite numbers. -/
structure PooledData where
  fields : Fields
  document : Json
  source : Json.lookup fields "source_response" = some document
  wellFormed : Json.wellFormed document = true
  finite : Json.finite document = true
  currency : Json
  stated : reportingCurrency (.obj fields) = .ok currency

/-- The cell that an evidence row holds. -/
def evidenceCell (row : CompositeRow) : Option CompositeCell := (row.cells.head?).map Prod.snd

/-- A cell shows a leaf: nothing for null, and for any other the text that writes it. -/
def Shows (cell : CompositeCell) (leaf : Json) : Prop :=
  (leaf = .null → cell.canonicalValue = none) ∧
  (leaf ≠ .null → ∃ text, cell.canonicalValue = some text ∧ readLeaf text = some leaf)

/-- The rows of a table are the leaves of a document below a root. -/
structure EvidenceOf (data : Json) (root : String) (document : Json) (table : CompositeTable) :
    Prop where
  rowOf : ∀ path leaf, LeafAt document path leaf → ∃! row, row ∈ table.rows ∧
    (evidenceCell row).map (·.sourcePointer) = some (pointerTo root path)
  leafOf : ∀ row ∈ table.rows, ∃ cell path leaf, row.cells = [("value", cell)] ∧
    LeafAt document path leaf ∧ cell.sourcePointer = pointerTo root path ∧
    resolveSourcePointer data cell.sourcePointer = .ok leaf ∧ Shows cell leaf
  distinct : (table.rows.map fun row => (evidenceCell row).map (·.sourcePointer)).Nodup
  apart : ∀ path leaf path' leaf', LeafAt document path leaf → LeafAt document path' leaf' →
    pointerTo root path = pointerTo root path' → path = path'

variable {py : Runtime} {root : String} {path : List Step} {leaf : Json}

theorem PooledData.resolve (d : PooledData) (h : LeafAt d.document path leaf) :
    resolveSourcePointer (.obj d.fields) (pointerTo "/source_response" path) = .ok leaf := by
  have hroot : pointerParts "/source_response" = ["source_response".toList] := by decide
  have hfirst : resolvePart (.obj d.fields) "source_response".toList = .ok d.document := by
    have hkey : unescapeKey "source_response".toList = "source_response" := by decide
    simp only [resolvePart, hkey, d.source]
  rw [resolveSourcePointer, pointerParts_pointerTo, hroot, List.singleton_append, List.foldlM_cons,
    hfirst]
  exact resolve_leafAt h d.wellFormed

theorem canonical_of_isLeaf (h : isLeaf leaf = true) : canonical leaf = leaf := by
  cases leaf with
  | arr items =>
      have hnil : items = [] := by simpa [isLeaf] using h
      subst hnil
      rfl
  | obj fields =>
      have hnil : fields = [] := by simpa [isLeaf] using h
      subst hnil
      rfl
  | _ => rfl

theorem PooledData.cell (d : PooledData) (py : Runtime) (h : LeafAt d.document path leaf) :
    ∃ cell, pooledCell py (.obj d.fields) (pointerTo "/source_response" path) true = .ok cell ∧
      cell.sourcePointer = pointerTo "/source_response" path ∧ Shows cell leaf := by
  unfold pooledCell
  rw [d.resolve h]
  by_cases hnull : leaf = .null
  · exact ⟨⟨none, .unavailable, ["SOURCE_VALUE_UNAVAILABLE"], pointerTo "/source_response" path⟩,
      by simp [bind, Except.bind, hnull, pure, Except.pure], rfl, fun _ => rfl,
      fun hne => absurd hnull hne⟩
  · refine ⟨⟨some (dumps false leaf), .available, [], pointerTo "/source_response" path⟩, ?_, rfl,
      fun heq => absurd heq hnull, fun _ => ⟨_, rfl, ?_⟩⟩
    · simp [bind, Except.bind, hnull, strictText, h.finite d.finite, canonical_of_isLeaf h.isLeaf,
        pure, Except.pure]
    · exact readLeaf_dumps h.isLeaf (h.wellFormed d.wellFormed)

theorem PooledData.rows (d : PooledData) (py : Runtime) :
    ∀ (pointers : List String) (n : Nat),
      (∀ pointer ∈ pointers, ∃ path leaf, LeafAt d.document path leaf ∧
        pointer = pointerTo "/source_response" path) →
      ∃ rows, (pointers.zipIdx n).mapM (leafRow py (.obj d.fields)) = .ok rows ∧
        rows.map (fun row => (evidenceCell row).map (·.sourcePointer)) = pointers.map some ∧
        ∀ row ∈ rows, ∃ cell path leaf, row.cells = [("value", cell)] ∧
          LeafAt d.document path leaf ∧ cell.sourcePointer = pointerTo "/source_response" path ∧
          Shows cell leaf := by
  intro pointers
  induction pointers with
  | nil => exact fun n _ => ⟨[], rfl, rfl, by simp⟩
  | cons pointer pointers ih =>
      intro n hall
      rw [List.forall_mem_cons] at hall
      obtain ⟨⟨path, leaf, hleaf, rfl⟩, hrest⟩ := hall
      obtain ⟨rows, hrows, hpointers, hshown⟩ := ih (n + 1) hrest
      obtain ⟨cell, hcell, hpointer, hshows⟩ := d.cell py hleaf
      refine ⟨⟨toString n, [("value", cell)]⟩ :: rows, ?_, ?_, ?_⟩
      · rw [List.zipIdx_cons, List.mapM_cons]
        have hrow : leafRow py (.obj d.fields) (pointerTo "/source_response" path, n) =
            .ok ⟨toString n, [("value", cell)]⟩ := bind_eq_ok.mpr ⟨cell, hcell, rfl⟩
        exact bind_eq_ok.mpr ⟨_, hrow, bind_eq_ok.mpr ⟨rows, hrows, rfl⟩⟩
      · rw [List.map_cons, List.map_cons, hpointers]
        simp [evidenceCell, hpointer]
      · intro row hrow
        rcases List.mem_cons.mp hrow with rfl | hrow
        · exact ⟨cell, path, leaf, rfl, hleaf, hpointer, hshows⟩
        · exact hshown row hrow

theorem PooledData.evidenceTable_eq_ok (d : PooledData) (py : Runtime) :
    ∃ table, evidenceTable py (.obj d.fields) "SourceEvidence" "source_response" d.document =
        .ok table ∧ table.tableId = "SourceEvidence" ∧
      EvidenceOf (.obj d.fields) "/source_response" d.document table := by
  obtain ⟨rows, hrows, hpointers, hshown⟩ := d.rows py (leaves d.document "/source_response") 0
    fun pointer hpointer => (mem_leaves_iff d.document).mp hpointer
  have hnodup : (rows.map fun row => (evidenceCell row).map (·.sourcePointer)).Nodup := by
    rw [hpointers]
    exact (nodup_leaves d.document d.wellFormed).map (Option.some_injective _)
  refine ⟨⟨"SourceEvidence", "SourceEvidence", [pooledColumn "value" .text d.currency], rows⟩, ?_,
    rfl, ?_, ?_, hnodup, ?_⟩
  · have hroot : "/" ++ "source_response" = "/source_response" := by decide
    unfold evidenceTable
    rw [hroot]
    exact bind_eq_ok.mpr ⟨d.currency, d.stated, bind_eq_ok.mpr ⟨rows, hrows, rfl⟩⟩
  · intro path leaf hleaf
    have hmem : some (pointerTo "/source_response" path) ∈
        rows.map fun row => (evidenceCell row).map (·.sourcePointer) := by
      rw [hpointers]
      exact List.mem_map_of_mem ((mem_leaves_iff d.document).mpr ⟨path, leaf, hleaf, rfl⟩)
    obtain ⟨row, hrow, hpointer⟩ := List.mem_map.mp hmem
    refine ⟨row, ⟨hrow, hpointer⟩, ?_⟩
    rintro other ⟨hother, hsame⟩
    exact List.inj_on_of_nodup_map hnodup hother hrow (hsame.trans hpointer.symm)
  · intro row hrow
    obtain ⟨cell, path, leaf, hcells, hleaf, hpointer, hshows⟩ := hshown row hrow
    exact ⟨cell, path, leaf, hcells, hleaf, hpointer, hpointer ▸ d.resolve hleaf, hshows⟩
  · exact fun path leaf path' leaf' h h' heq => pointerTo_inj h h' d.wellFormed heq

theorem pooledTable_tableId {data : Json} {name : String} {columns : List (String × PooledKind)}
    {roots : List (String × String)} {table : CompositeTable}
    (h : pooledTable py data name columns roots = .ok table) : table.tableId = name := by
  unfold pooledTable at h
  obtain ⟨_, -, h⟩ := bind_eq_ok.mp h
  obtain ⟨_, -, h⟩ := bind_eq_ok.mp h
  cases h
  rfl

theorem primaryTables_ids {data : Json} {tables : List CompositeTable}
    (h : primaryTables py data = .ok tables) : tables.map (·.tableId) =
      ["Summary", "Outcome", "MonetaryObservation", "InvestorCashFlows", "Policy",
        "Disclosures"] := by
  unfold primaryTables at h
  obtain ⟨_, -, h⟩ := bind_eq_ok.mp h
  obtain ⟨summary, hsummary, h⟩ := bind_eq_ok.mp h
  obtain ⟨outcome, houtcome, h⟩ := bind_eq_ok.mp h
  obtain ⟨observation, hobservation, h⟩ := bind_eq_ok.mp h
  obtain ⟨_, -, h⟩ := bind_eq_ok.mp h
  obtain ⟨_, -, h⟩ := bind_eq_ok.mp h
  obtain ⟨flows, hflows, h⟩ := bind_eq_ok.mp h
  obtain ⟨policy, hpolicy, h⟩ := bind_eq_ok.mp h
  obtain ⟨_, -, h⟩ := bind_eq_ok.mp h
  obtain ⟨_, -, h⟩ := bind_eq_ok.mp h
  obtain ⟨disclosures, hdisclosures, h⟩ := bind_eq_ok.mp h
  cases h
  simp only [List.map_cons, List.map_nil, pooledTable_tableId hsummary,
    pooledTable_tableId houtcome, pooledTable_tableId hobservation, pooledTable_tableId hflows,
    pooledTable_tableId hpolicy, pooledTable_tableId hdisclosures]

theorem bundleTables_ids {data : Json} {tables : List CompositeTable}
    (h : bundleTables py data = .ok tables) : tables.map (·.tableId) =
      ["Valuations", "PortfolioFlows", "MemberControls", "SourcePins", "Membership"] := by
  unfold bundleTables at h
  obtain ⟨_, -, h⟩ := bind_eq_ok.mp h
  obtain ⟨_, -, h⟩ := bind_eq_ok.mp h
  obtain ⟨_, -, h⟩ := bind_eq_ok.mp h
  obtain ⟨_, -, h⟩ := bind_eq_ok.mp h
  obtain ⟨valuations, hvaluations, h⟩ := bind_eq_ok.mp h
  obtain ⟨_, -, h⟩ := bind_eq_ok.mp h
  obtain ⟨_, -, h⟩ := bind_eq_ok.mp h
  obtain ⟨flows, hflows, h⟩ := bind_eq_ok.mp h
  obtain ⟨_, -, h⟩ := bind_eq_ok.mp h
  obtain ⟨_, -, h⟩ := bind_eq_ok.mp h
  obtain ⟨_, -, h⟩ := bind_eq_ok.mp h
  obtain ⟨controls, hcontrols, h⟩ := bind_eq_ok.mp h
  obtain ⟨_, -, h⟩ := bind_eq_ok.mp h
  obtain ⟨_, -, h⟩ := bind_eq_ok.mp h
  obtain ⟨pins, hpins, h⟩ := bind_eq_ok.mp h
  obtain ⟨_, -, h⟩ := bind_eq_ok.mp h
  obtain ⟨_, -, h⟩ := bind_eq_ok.mp h
  obtain ⟨membership, hmembership, h⟩ := bind_eq_ok.mp h
  cases h
  simp only [List.map_cons, List.map_nil, pooledTable_tableId hvaluations,
    pooledTable_tableId hflows, pooledTable_tableId hcontrols, pooledTable_tableId hpins,
    pooledTable_tableId hmembership]

theorem PooledData.document_ne_null (d : PooledData) {tables : List CompositeTable}
    (h : bundleTables py (.obj d.fields) = .ok tables) : d.document ≠ .null := by
  intro hnull
  unfold bundleTables at h
  obtain ⟨source, hsource, h⟩ := bind_eq_ok.mp h
  obtain ⟨bundle, hbundle, -⟩ := bind_eq_ok.mp h
  simp only [subscript, d.source, hnull] at hsource
  cases hsource
  cases hbundle

theorem evidenceTable_tableId {data : Json} {tableId field : String} {document : Json}
    {table : CompositeTable} (h : evidenceTable py data tableId field document = .ok table) :
    table.tableId = tableId := by
  unfold evidenceTable at h
  obtain ⟨_, -, h⟩ := bind_eq_ok.mp h
  obtain ⟨_, -, h⟩ := bind_eq_ok.mp h
  cases h
  rfl

theorem PooledData.evidenceTables_eq (d : PooledData) (hnull : d.document ≠ .null)
    {table : CompositeTable} {tables : List CompositeTable}
    (htable : evidenceTable py (.obj d.fields) "SourceEvidence" "source_response" d.document =
      .ok table) (h : evidenceTables py (.obj d.fields) = .ok tables) :
    tables = [table] ∨ ∃ predecessor, predecessor.tableId = "PredecessorEvidence" ∧
      tables = [table, predecessor] := by
  have hsource : subscript (.obj d.fields) "source_response" = .ok d.document := by
    simp [subscript, d.source]
  unfold evidenceTables at h
  obtain ⟨found, hfound, h⟩ := bind_eq_ok.mp h
  cases h
  rw [mapM_eq_ok, List.forall₂_cons_left_iff] at hfound
  obtain ⟨first, rest, hfirst, hrest, rfl⟩ := hfound
  rw [List.forall₂_cons_left_iff] at hrest
  obtain ⟨second, rest, hsecond, hrest, rfl⟩ := hrest
  obtain rfl := List.forall₂_nil_left_iff.mp hrest
  have hfirst' : first = some table := by
    simp only [hsource, htable, bind, Except.bind, if_neg hnull] at hfirst
    exact (Except.ok.inj hfirst).symm
  subst hfirst'
  cases second with
  | none => exact Or.inl rfl
  | some predecessor =>
      refine Or.inr ⟨predecessor, ?_, rfl⟩
      obtain ⟨document, -, hsecond⟩ := bind_eq_ok.mp hsecond
      split at hsecond
      · cases hsecond
      · obtain ⟨predecessor', hpredecessor, hsecond⟩ := bind_eq_ok.mp hsecond
        cases hsecond
        exact evidenceTable_tableId hpredecessor

/-- A dataset whose document has keys with slashes, tildes and digits. -/
def keyedData : PooledData where
  fields :=
    [ ("source_response", .obj [("a/b~", .arr [.null, .obj []]), ("", .obj [("0", .int 7)])]),
      ("selection", .obj [("reporting_currency", .str "USD")]) ]
  document := .obj [("a/b~", .arr [.null, .obj []]), ("", .obj [("0", .int 7)])]
  source := rfl
  wellFormed := by decide
  finite := by decide
  currency := .str "USD"
  stated := rfl

example : leaves keyedData.document "/source_response" =
    ["/source_response//0", "/source_response/a~1b~0/0", "/source_response/a~1b~0/1"] := by
  decide +kernel

end Evidence

end LotusReport.Composite
