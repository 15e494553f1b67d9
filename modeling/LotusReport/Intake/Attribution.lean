import LotusReport.Encoding.Fields
import LotusReport.Encoding.Runtime
import LotusReport.Encoding.Text
import LotusReport.Fallible.Checks

/-!
# Tenants of retained intake rows

Rows that were written before intakes had a tenant column name their tenant
only in the retained caller context. The in-place migration of the SQLite file
and the transfer to PostgreSQL both lift it out: the first with `TRIM`, which
removes spaces, the second with `str.strip`, which removes white space.
-/

namespace LotusReport.Intake

open Encoding Fallible

/-- A row of `idea_evidence_intake` in a SQLite file: its columns, null or text. -/
abbrev SourceRow := List (String × Option String)

namespace SourceRow

/-- The value of a column that the row has. -/
def column (row : SourceRow) (name : String) : Option (Option String) :=
  (row.find? fun c => c.1 = name).map (·.2)

/-- The text of a column, empty where it is null or missing. -/
def textOf (row : SourceRow) (name : String) : String := ((row.column name).getD none).getD ""

/-- The row with its tenant. -/
def withTenant (row : SourceRow) (tenant : String) : SourceRow :=
  ("tenant_id", some tenant) :: row.filter fun c => c.1 != "tenant_id"

@[simp] theorem column_withTenant (row : SourceRow) (tenant : String) :
    (row.withTenant tenant).column "tenant_id" = some (some tenant) := rfl

theorem column_withTenant_of_ne (row : SourceRow) (tenant : String) {name : String}
    (hname : name ≠ "tenant_id") : (row.withTenant tenant).column name = row.column name := by
  unfold withTenant column
  rw [List.find?_cons_of_neg (by simpa using hname.symm), List.find?_filter]
  congr 2
  funext c
  by_cases hc : c.1 = name
  · simp [hc, hname]
  · simp [hc]

end SourceRow

/-- A JSON reader: the document of a text, where it is one. Blank text is none. -/
structure JsonReader where
  read : String → Option Json
  blank : ∀ text, strip text = "" → read text = none

section Migration

variable (sqlite : JsonReader)

/-- `TRIM(text)`: SQLite removes spaces. -/
def trim (s : String) : String :=
  String.ofList ((s.toList.dropWhile (· = ' ')).reverse.dropWhile (· = ' ')).reverse

/-- `json_type(document, '$.tenant_id')`. -/
def tenantType (document : Json) : Option String :=
  match document with
  | .obj fields => (Json.lookup fields "tenant_id").map fun value =>
      match value with
      | .null => "null"
      | .bool true => "true"
      | .bool false => "false"
      | .int _ => "integer"
      | .float _ => "real"
      | .str _ => "text"
      | .arr _ => "array"
      | .obj _ => "object"
  | _ => none

/-- `json_extract(document, '$.tenant_id')` of a text. -/
def tenantText (document : Json) : Option String :=
  match document with
  | .obj fields =>
      match Json.lookup fields "tenant_id" with
      | some (.str text) => some text
      | _ => none
  | _ => none

/-- How the migration classifies a row. -/
inductive Attribution where
  | malformed
  | wrongType (kind : String)
  | absent
  | attributable (tenant : String)
deriving DecidableEq, Repr

/-- The classes of `_refuse_unattributable_rows`. -/
def classify (row : SourceRow) : Attribution :=
  match sqlite.read (row.textOf "caller_context_json") with
  | none => .malformed
  | some document =>
      match tenantType document with
      | none | some "null" => .absent
      | some "text" =>
          match tenantText document with
          | some text => if strip text = "" then .absent else .attributable text
          | none => .absent
      | some kind => .wrongType kind

/-- The keys of the rows of a class, in their order. -/
def keysWhere (rows : List SourceRow) (p : Attribution → Bool) : List String :=
  sortedTexts ((rows.filter fun row => p (classify sqlite row)).map (·.textOf "idempotency_key"))

/-- The rows that stop the migration, by class. -/
structure Unattributable where
  malformed : List String
  wrongType : List (String × String)
  absent : List String
deriving DecidableEq, Repr

/-- Rows of a wrong type, with the type, in the order of their keys. -/
def wrongTypes (rows : List SourceRow) : List (String × String) :=
  (rows.filterMap fun row =>
    match classify sqlite row with
    | .wrongType kind => some (row.textOf "idempotency_key", kind)
    | _ => none).insertionSort fun a b => a.1 ≤ b.1

/-- `_refuse_unattributable_rows`. -/
def refuseUnattributableRows (rows : List SourceRow) : Except Unattributable Unit :=
  if rows.all fun row => (match classify sqlite row with | .attributable _ => true | _ => false) then
    .ok ()
  else .error {
    malformed := keysWhere sqlite rows (· == .malformed)
    wrongType := wrongTypes sqlite rows
    absent := keysWhere sqlite rows (· == .absent) }

/-- The parts of the message, each with at most five keys. -/
def Unattributable.message (py : Runtime) (u : Unattributable) : String :=
  let sample := fun keys : List String => ", ".intercalate ((keys.take 5).map (reprText py))
  let named := ", ".intercalate ((u.wrongType.take 5).map fun row =>
    reprText py row.1 ++ " (JSON " ++ row.2 ++ ")")
  let parts :=
    (if u.malformed = [] then [] else
      [toString u.malformed.length ++ " row(s) hold a caller_context_json that is not valid JSON " ++
        "(for example " ++ sample u.malformed ++ ")"]) ++
    (if u.wrongType = [] then [] else
      [toString u.wrongType.length ++ " row(s) hold a tenant that is not a JSON string " ++
        "(for example " ++ named ++ ")"]) ++
    (if u.absent = [] then [] else
      [toString u.absent.length ++ " row(s) have no tenant in caller_context_json " ++
        "(for example " ++ sample u.absent ++ ")"])
  "; ".intercalate parts ++
    ". Attribute them deliberately before starting with the tenant-scoped schema; " ++
    "this migration will not default, coerce or discard them (report#344, report#360). " ++
    "The retained rows are untouched and the original table is intact."

/-- `TRIM(json_extract(caller_context_json, '$.tenant_id'))`. -/
def migratedTenant (row : SourceRow) : String :=
  trim (((sqlite.read (row.textOf "caller_context_json")).bind tenantText).getD "")

/-- `_migrate_to_tenant_identity` on the rows of a table without a tenant column. -/
def migrateToTenantIdentity (rows : List SourceRow) : Except Unattributable (List SourceRow) := do
  refuseUnattributableRows sqlite rows
  return rows.map fun row => row.withTenant (migratedTenant sqlite row)

end Migration

section Transfer

variable (python : JsonReader)

/-- `TransferReport`. -/
structure TransferReport where
  sourceRecords : Nat
  inserted : Nat
  alreadyPresent : Nat
  verified : Nat
  mismatches : List String
deriving DecidableEq, Repr

/-- Why the transfer stops. -/
inductive TransferError where
  | sourceMissing
  | notJson (key : String)
  | noTenant (key : String)
  /-- An exception of the language or the driver. -/
  | raised (kind : String)
  | incomplete (report : TransferReport)
deriving DecidableEq, Repr

/-- `_with_tenant`. -/
def withTenant (row : SourceRow) : Except TransferError SourceRow :=
  let key := row.textOf "idempotency_key"
  let existing := strip (row.textOf "tenant_id")
  if existing ≠ "" then .ok (row.withTenant existing)
  else
    let context := row.textOf "caller_context_json"
    if strip context = "" then .error (.noTenant key)
    else
      match python.read context with
      | none => .error (.notJson key)
      | some (.obj fields) =>
          match Json.lookup fields "tenant_id" with
          | some (.str tenant) =>
              if strip tenant = "" then .error (.noTenant key)
              else .ok (row.withTenant (strip tenant))
          | _ => .error (.noTenant key)
      | some _ => .error (.raised "AttributeError")

/-- `ORDER BY created_at_utc, idempotency_key`. -/
def sourceOrder (rows : List SourceRow) : List SourceRow :=
  rows.insertionSort fun a b =>
    a.textOf "created_at_utc" < b.textOf "created_at_utc" ∨
      (a.textOf "created_at_utc" = b.textOf "created_at_utc" ∧
        a.textOf "idempotency_key" ≤ b.textOf "idempotency_key")

/-- `_read_source_rows`. -/
def readSourceRows (rows : List SourceRow) : Except TransferError (List SourceRow) :=
  (sourceOrder rows).mapM (withTenant python)

end Transfer

section Agreement

/-- The tenant text that the retained context of a row names. -/
def retainedTenant (reader : JsonReader) (row : SourceRow) : Option String :=
  (reader.read (row.textOf "caller_context_json")).bind tenantText

/-- The row names a tenant that is not blank. -/
def NamesTenant (reader : JsonReader) (row : SourceRow) : Prop :=
  ∃ tenant, retainedTenant reader row = some tenant ∧ strip tenant ≠ ""

/-- Both attributions refuse the ledger, or both attribute each row to the same tenant. -/
def AttributionsAgree (sqlite python : JsonReader) (rows : List SourceRow) : Prop :=
  (∃ u e, migrateToTenantIdentity sqlite rows = .error u ∧ readSourceRows python rows = .error e) ∨
  ∃ migrated transferred, migrateToTenantIdentity sqlite rows = .ok migrated ∧
    readSourceRows python rows = .ok transferred ∧
    ∀ row ∈ rows, ∀ tenant, row.withTenant tenant ∈ migrated ↔ row.withTenant tenant ∈ transferred

/-- A tenant text that has no other white space outside than spaces. -/
def OnlySpacesAround (tenant : String) : Prop := HasEdges isSpace (trim tenant).toList

variable {sqlite python : JsonReader} {rows : List SourceRow} {row : SourceRow}

theorem trim_eq_strip_iff {tenant : String} :
    trim tenant = strip tenant ↔ OnlySpacesAround tenant := by
  have hspace : ∀ c, decide (c = ' ') = true → isSpace c = true := by
    intro c hc
    rw [of_decide_eq_true hc]
    decide
  unfold OnlySpacesAround
  rw [trim, String.toList_ofList]
  refine Iff.trans ?_ (dropEdges_eq_iff hspace)
  exact String.ofList_inj

/-- A row is attributable exactly when it names a tenant. -/
theorem classify_attributable {tenant : String} :
    classify sqlite row = .attributable tenant ↔
      retainedTenant sqlite row = some tenant ∧ strip tenant ≠ "" := by
  unfold classify retainedTenant
  cases sqlite.read (row.textOf "caller_context_json") with
  | none => simp
  | some document =>
      rw [Option.bind_some]
      cases document with
      | obj fields =>
          simp only [tenantType, tenantText]
          cases Json.lookup fields "tenant_id" with
          | none => simp
          | some value =>
              cases value with
              | str text =>
                  by_cases hblank : strip text = ""
                  · simp only [Option.map_some, if_pos hblank]
                    refine iff_of_false (by simp) ?_
                    rintro ⟨heq, hne⟩
                    cases heq
                    exact hne hblank
                  · simp only [Option.map_some, if_neg hblank]
                    constructor
                    · intro heq
                      cases heq
                      exact ⟨rfl, hblank⟩
                    · rintro ⟨heq, -⟩
                      cases heq
                      rfl
              | bool b => cases b <;> simp
              | _ => simp
      | _ => simp [tenantType, tenantText]

theorem refuseUnattributableRows_eq_ok :
    refuseUnattributableRows sqlite rows = .ok () ↔ ∀ row ∈ rows, NamesTenant sqlite row := by
  have hrow : ∀ row : SourceRow,
      (match classify sqlite row with | .attributable _ => true | _ => false) = true ↔
        NamesTenant sqlite row := by
    intro row
    constructor
    · intro h
      split at h
      · rename_i tenant hclass
        exact ⟨tenant, classify_attributable.mp hclass⟩
      · cases h
    · rintro ⟨tenant, htenant⟩
      rw [classify_attributable.mpr htenant]
  unfold refuseUnattributableRows
  split
  · rename_i hall
    refine iff_of_true rfl fun row hmem => ?_
    exact (hrow row).mp (List.all_eq_true.mp hall row hmem)
  · rename_i hall
    refine iff_of_false (by simp) fun h => hall ?_
    rw [List.all_eq_true]
    exact fun row hmem => (hrow row).mpr (h row hmem)

theorem migrateToTenantIdentity_eq_ok {migrated : List SourceRow} :
    migrateToTenantIdentity sqlite rows = .ok migrated ↔
      (∀ row ∈ rows, NamesTenant sqlite row) ∧
        migrated = rows.map fun row => row.withTenant (migratedTenant sqlite row) := by
  simp only [migrateToTenantIdentity, bind_eq_ok, pure, Except.pure, Except.ok.injEq]
  rw [← refuseUnattributableRows_eq_ok]
  constructor
  · rintro ⟨⟨⟩, hrefuse, rfl⟩
    exact ⟨hrefuse, rfl⟩
  · rintro ⟨hrefuse, rfl⟩
    exact ⟨(), hrefuse, rfl⟩

/-- A row whose tenant column is blank is transferred under the stripped tenant of its context. -/
theorem withTenant_of_blank (hexisting : strip (row.textOf "tenant_id") = "")
    {transferred : SourceRow} :
    withTenant python row = .ok transferred ↔
      ∃ tenant, retainedTenant python row = some tenant ∧ strip tenant ≠ "" ∧
        transferred = row.withTenant (strip tenant) := by
  unfold withTenant retainedTenant
  simp only [hexisting, ne_eq, not_true_eq_false, if_false]
  by_cases hblank : strip (row.textOf "caller_context_json") = ""
  · simp [python.blank _ hblank, hblank]
  · rw [if_neg hblank]
    cases python.read (row.textOf "caller_context_json") with
    | none => simp
    | some document =>
        cases document with
        | obj fields =>
            simp only [Option.bind_some, tenantText]
            cases Json.lookup fields "tenant_id" with
            | none => simp
            | some value =>
                cases value with
                | str text =>
                    by_cases htext : strip text = ""
                    · simp [htext]
                    · dsimp only
                      rw [if_neg htext]
                      constructor
                      · intro h
                        cases h
                        exact ⟨text, rfl, htext, rfl⟩
                      · rintro ⟨tenant, heq, -, rfl⟩
                        cases heq
                        rfl
                | _ => simp
        | _ => simp [tenantText]

/-- A row without a tenant column is transferred under the stripped tenant of its context. -/
theorem withTenant_eq_ok (hold : row.column "tenant_id" = none) {transferred : SourceRow} :
    withTenant python row = .ok transferred ↔
      ∃ tenant, retainedTenant python row = some tenant ∧ strip tenant ≠ "" ∧
        transferred = row.withTenant (strip tenant) := by
  apply withTenant_of_blank
  rw [SourceRow.textOf, hold]
  rfl

theorem mem_sourceOrder : row ∈ sourceOrder rows ↔ row ∈ rows := List.mem_insertionSort _

theorem readSourceRows_isOk (hold : ∀ row ∈ rows, row.column "tenant_id" = none) :
    (∃ transferred, readSourceRows python rows = .ok transferred) ↔
      ∀ row ∈ rows, NamesTenant python row := by
  constructor
  · rintro ⟨transferred, h⟩ row hmem
    obtain ⟨result, -, hrow⟩ := converts_of_mapM h (mem_sourceOrder.mpr hmem)
    obtain ⟨tenant, htenant, hne, -⟩ := (withTenant_eq_ok (hold row hmem)).mp hrow
    exact ⟨tenant, htenant, hne⟩
  · intro h
    apply exists_mapM_eq
    intro row hmem
    obtain ⟨tenant, htenant, hne⟩ := h row (mem_sourceOrder.mp hmem)
    exact ⟨_, (withTenant_eq_ok (hold row (mem_sourceOrder.mp hmem))).mpr
      ⟨tenant, htenant, hne, rfl⟩⟩

theorem SourceRow.column_ne_none {name : String} {c : String × Option String} (hc : c ∈ row)
    (hname : c.1 = name) : row.column name ≠ none := by
  unfold SourceRow.column
  rw [ne_eq, Option.map_eq_none_iff, List.find?_eq_none]
  intro h
  exact h c hc (by simpa using hname)

/-- Rows without a tenant column are told apart by what follows the tenant. -/
theorem SourceRow.withTenant_inj {other : SourceRow} {a b : String}
    (hrow : row.column "tenant_id" = none) (hother : other.column "tenant_id" = none) :
    row.withTenant a = other.withTenant b ↔ a = b ∧ row = other := by
  have hfilter : ∀ r : SourceRow, r.column "tenant_id" = none →
      r.filter (fun c => c.1 != "tenant_id") = r := by
    intro r hr
    rw [List.filter_eq_self]
    intro c hc
    rw [bne_iff_ne]
    exact fun hname => SourceRow.column_ne_none hc hname hr
  unfold SourceRow.withTenant
  rw [hfilter row hrow, hfilter other hother]
  simp

theorem mem_migrated (hold : ∀ row ∈ rows, row.column "tenant_id" = none) (hrow : row ∈ rows)
    {tenant : String} :
    (row.withTenant tenant ∈ rows.map fun r => r.withTenant (migratedTenant sqlite r)) ↔
      tenant = migratedTenant sqlite row := by
  rw [List.mem_map]
  constructor
  · rintro ⟨r, hr, heq⟩
    obtain ⟨htenant, rfl⟩ := (SourceRow.withTenant_inj (hold r hr) (hold row hrow)).mp heq
    exact htenant.symm
  · rintro rfl
    exact ⟨row, hrow, rfl⟩

theorem mem_transferred (hold : ∀ row ∈ rows, row.column "tenant_id" = none) (hrow : row ∈ rows)
    {transferred : List SourceRow} (h : readSourceRows python rows = .ok transferred)
    {named tenant : String} (hnamed : retainedTenant python row = some named) :
    row.withTenant tenant ∈ transferred ↔ tenant = strip named := by
  constructor
  · intro hmem
    obtain ⟨r, hr, hconvert⟩ := exists_of_mem_mapM h hmem
    have hr' := mem_sourceOrder.mp hr
    obtain ⟨other, hother, -, heq⟩ := (withTenant_eq_ok (hold r hr')).mp hconvert
    obtain ⟨rfl, rfl⟩ := (SourceRow.withTenant_inj (hold row hrow) (hold r hr')).mp heq
    cases hnamed.symm.trans hother
    rfl
  · rintro rfl
    obtain ⟨result, hresult, hconvert⟩ := converts_of_mapM h (mem_sourceOrder.mpr hrow)
    obtain ⟨other, hother, -, rfl⟩ := (withTenant_eq_ok (hold row hrow)).mp hconvert
    cases hnamed.symm.trans hother
    exact hresult

/-- The two attributions of a ledger without tenant column agree exactly when a row names no
tenant, and both refuse, or every named tenant has nothing but spaces around it. -/
theorem attributionsAgree_iff (sqlite python : JsonReader) (rows : List SourceRow)
    (hold : ∀ row ∈ rows, row.column "tenant_id" = none)
    (hreaders : ∀ row ∈ rows, sqlite.read (row.textOf "caller_context_json") =
      python.read (row.textOf "caller_context_json")) :
    AttributionsAgree sqlite python rows ↔
      (∃ row ∈ rows, ¬NamesTenant sqlite row) ∨
        ∀ row ∈ rows, ∀ tenant, retainedTenant sqlite row = some tenant →
          OnlySpacesAround tenant := by
  have hnamed : ∀ row ∈ rows, retainedTenant python row = retainedTenant sqlite row := by
    intro row hrow
    rw [retainedTenant, retainedTenant, hreaders row hrow]
  by_cases hall : ∀ row ∈ rows, NamesTenant sqlite row
  · have hpython : ∀ row ∈ rows, NamesTenant python row := by
      intro row hrow
      obtain ⟨tenant, htenant, hne⟩ := hall row hrow
      exact ⟨tenant, (hnamed row hrow).trans htenant, hne⟩
    obtain ⟨transferred, htransferred⟩ := (readSourceRows_isOk hold).mpr hpython
    have hmigrated := migrateToTenantIdentity_eq_ok.mpr ⟨hall, rfl⟩
    constructor
    · rintro (⟨u, e, hu, -⟩ | ⟨migrated, transferred', hm, ht, hsame⟩)
      · rw [hmigrated] at hu
        cases hu
      · right
        cases hmigrated.symm.trans hm
        cases htransferred.symm.trans ht
        intro row hrow tenant htenant
        have hmem := (hsame row hrow (migratedTenant sqlite row)).mp ((mem_migrated hold hrow).mpr rfl)
        have hstrip := (mem_transferred hold hrow htransferred
          ((hnamed row hrow).trans htenant)).mp hmem
        rw [← trim_eq_strip_iff, ← hstrip]
        change trim tenant = trim ((retainedTenant sqlite row).getD "")
        rw [htenant]
        rfl
    · rintro (⟨row, hrow, hnot⟩ | hspaces)
      · exact absurd (hall row hrow) hnot
      · refine .inr ⟨_, transferred, hmigrated, htransferred, fun row hrow tenant => ?_⟩
        obtain ⟨named, hname, -⟩ := hall row hrow
        rw [mem_migrated hold hrow,
          mem_transferred hold hrow htransferred ((hnamed row hrow).trans hname),
          ← trim_eq_strip_iff.mpr (hspaces row hrow named hname)]
        change tenant = trim ((retainedTenant sqlite row).getD "") ↔ _
        rw [hname]
        rfl
  · push Not at hall
    refine iff_of_true (.inl ?_) (.inl hall)
    obtain ⟨row, hrow, hnot⟩ := hall
    have hmigrate : ∃ u, migrateToTenantIdentity sqlite rows = .error u := by
      cases h : migrateToTenantIdentity sqlite rows with
      | error u => exact ⟨u, rfl⟩
      | ok migrated => exact absurd ((migrateToTenantIdentity_eq_ok.mp h).1 row hrow) hnot
    have hread : ∃ e, readSourceRows python rows = .error e := by
      cases h : readSourceRows python rows with
      | error e => exact ⟨e, rfl⟩
      | ok transferred =>
          obtain ⟨tenant, htenant, hne⟩ := (readSourceRows_isOk hold).mp ⟨_, h⟩ row hrow
          exact absurd ⟨tenant, (hnamed row hrow).symm.trans htenant, hne⟩ hnot
    obtain ⟨u, hu⟩ := hmigrate
    obtain ⟨e, he⟩ := hread
    exact ⟨u, e, hu, he⟩

/-- A reader that knows the document of one text. -/
def readerOf (text : String) (document : Json) : JsonReader where
  read t := if strip t = "" then none else if t = text then some document else none
  blank _ hblank := if_pos hblank

/-- A row that was written before intakes had a tenant column. -/
def retainedRow (context : String) : SourceRow :=
  [("idempotency_key", some "intake-1"), ("created_at_utc", some "2026-01-05T09:00:00Z"),
    ("caller_context_json", some context)]

/-- Spaces around a tenant are removed by both attributions. -/
theorem attributionsAgree_spaces :
    let context := "\x7b\"tenant_id\": \" acme \"\x7d"
    let reader := readerOf context (.obj [("tenant_id", .str " acme ")])
    AttributionsAgree reader reader [retainedRow context] := by
  intro context reader
  refine (attributionsAgree_iff reader reader [retainedRow context] (by decide +kernel)
    fun _ _ => rfl).mpr (.inr fun row hrow tenant htenant => ?_)
  cases List.mem_singleton.mp hrow
  have hretained : retainedTenant reader (retainedRow context) = some " acme " := by decide +kernel
  cases hretained.symm.trans htenant
  exact trim_eq_strip_iff.mp (by decide +kernel)

/-- A tab before the tenant is kept by the migration and removed by the transfer. -/
theorem tab_attributed_differently :
    let context := "\x7b\"tenant_id\": \"\\tacme\"\x7d"
    let reader := readerOf context (.obj [("tenant_id", .str "\tacme")])
    ¬AttributionsAgree reader reader [retainedRow context] := by
  intro context reader
  have hmigrated : migrateToTenantIdentity reader [retainedRow context] =
      .ok [(retainedRow context).withTenant "\tacme"] := by decide +kernel
  have htransferred : readSourceRows reader [retainedRow context] =
      .ok [(retainedRow context).withTenant "acme"] := by decide +kernel
  rintro (⟨u, e, hu, -⟩ | ⟨migrated, transferred, hm, ht, hsame⟩)
  · cases hmigrated.symm.trans hu
  · cases hmigrated.symm.trans hm
    cases htransferred.symm.trans ht
    have hmem := (hsame (retainedRow context) (List.mem_singleton_self _) "\tacme").mp
      (List.mem_singleton_self _)
    revert hmem
    decide +kernel

end Agreement

end LotusReport.Intake
