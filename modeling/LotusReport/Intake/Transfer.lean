import LotusReport.Encoding.Equality
import LotusReport.Encoding.Timestamp
import LotusReport.Intake.Attribution

/-!
# Transfer of the intake ledger

Every row of the SQLite file is inserted into PostgreSQL in a transaction of
its own, and rows whose key is taken are skipped. After all writes every source
row is compared with what the target holds under its key.
-/

namespace LotusReport.Intake

open Encoding Fallible

/-- `TRANSFERRED_COLUMNS`. -/
def transferredColumns : List String :=
  ["tenant_id", "idempotency_key", "intake_id", "payload_fingerprint", "response_json",
    "caller_context_json", "report_evidence_pack_id", "conversion_intent_id", "candidate_id",
    "evidence_packet_id", "evidence_content_fingerprint", "producer", "supportability_status",
    "accepted_at_utc", "created_at_utc", "correlation_id", "trace_id"]

/-- Columns that hold a document. -/
def documentColumns : List String := ["response_json", "caller_context_json"]

/-- Columns that hold an instant. -/
def instantColumns : List String := ["accepted_at_utc", "created_at_utc"]

/-- `VERIFIED_COLUMNS`. -/
def verifiedColumns : List String := transferredColumns.filter fun c => c ∉ instantColumns

/-- Columns of the table that may be null. -/
def nullableColumns : List String := ["correlation_id", "trace_id"]

/-- A row of the PostgreSQL table as the driver decodes it: null, text and document columns, and
the instants. -/
structure TargetRow where
  values : Fields
  instants : List (String × Instant)
deriving DecidableEq

namespace TargetRow

/-- The value of a null, text or document column. -/
def value (t : TargetRow) (column : String) : Option Json := Json.lookup t.values column

/-- The value of an instant column. -/
def instant (t : TargetRow) (column : String) : Option Instant :=
  (t.instants.find? fun c => c.1 = column).map (·.2)

/-- The columns of the unique index. -/
def key (t : TargetRow) : Option Json × Option Json := (t.value "tenant_id", t.value "idempotency_key")

end TargetRow

/-- The PostgreSQL table, with its unique index on tenant and key. -/
structure Target where
  rows : List TargetRow
  unique : (rows.map TargetRow.key).Nodup

/-- What the transfer takes from the language, the driver and the server. -/
structure TransferServices extends Runtime where
  /-- `json.loads`. -/
  python : JsonReader
  /-- `as_utc_instant(datetime.fromisoformat(text))`. -/
  fromIsoformat : String → Option Instant
  /-- The value of a floating-point text. -/
  floatValue : String → FloatValue
  /-- What a `jsonb` column keeps of a document, where it takes it. -/
  jsonb : Json → Option Json
  /-- The column types take the values of the row. -/
  accepts : TargetRow → Bool

section Model

variable (s : TransferServices)

/-- `row[column]`. -/
def sourceValue (row : SourceRow) (column : String) : Except TransferError (Option String) :=
  match row.column column with
  | some value => .ok value
  | none => .error (.raised "KeyError")

/-- `json.loads(value)`. -/
def loads (value : Option String) : Except TransferError Json :=
  match value with
  | none => .error (.raised "TypeError")
  | some text =>
      match s.python.read text with
      | some document => .ok document
      | none => .error (.raised "JSONDecodeError")

/-- `str(value).replace("Z", "+00:00")`. -/
def withOffset (value : Option String) : String :=
  String.ofList ((value.getD "None").toList.flatMap fun c =>
    if c = 'Z' then "+00:00".toList else [c])

/-- `_parse_instant`. -/
def parseInstant (value : Option String) : Except TransferError Instant :=
  match s.fromIsoformat (withOffset value) with
  | some instant => .ok instant
  | none => .error (.raised "ValueError")

/-- The decoded source value of a column that is compared as a value. -/
def decodedValue (row : SourceRow) (column : String) : Except TransferError Json := do
  let value ← sourceValue row column
  if column ∈ documentColumns then loads s value else return Json.ofText? value

/-- The source value of a column that is compared as an instant. -/
def decodedInstant (row : SourceRow) (column : String) : Except TransferError Instant := do
  parseInstant s (← sourceValue row column)

/-- `_insert_parameters`. The first failing column raises. -/
def insertParameters (row : SourceRow) : Except TransferError TargetRow := do
  let bound ← transferredColumns.mapM fun column => do
    if column ∈ instantColumns then return Sum.inr (column, ← decodedInstant s row column)
    else return Sum.inl (column, ← decodedValue s row column)
  return {
    values := bound.filterMap Sum.getLeft?
    instants := bound.filterMap Sum.getRight? }

/-- What a column keeps of a value. -/
def storedValue (column : String) (value : Json) : Except TransferError Json :=
  if column ∈ documentColumns then
    match s.jsonb value with
    | some kept => .ok kept
    | none => .error (.raised "DataError")
  else .ok value

/-- The row that the server would store for the parameters. -/
def storedRow (parameters : TargetRow) : Except TransferError TargetRow := do
  let values ← parameters.values.mapM fun (column, value) => do
    return (column, ← storedValue s column value)
  let row := { parameters with values := values }
  if values.any fun c => c.2 == .null && c.1 ∉ documentColumns ++ nullableColumns then
    .error (.raised "NotNullViolation")
  else if s.accepts row then .ok row
  else .error (.raised "DataError")

/-- The row of a source row. -/
def preparedRow (row : SourceRow) : Except TransferError TargetRow := do
  storedRow s (← insertParameters s row)

/-- `ON CONFLICT (tenant_id, idempotency_key) DO NOTHING`. -/
def Target.place (target : Target) (row : TargetRow) : Target :=
  if h : row.key ∈ target.rows.map TargetRow.key then target
  else {
    rows := target.rows ++ [row]
    unique := by
      rw [List.map_append, List.map_singleton, List.nodup_append_comm, List.singleton_append,
        List.nodup_cons]
      exact ⟨h, target.unique⟩ }

/-- The row writes, each committed on its own, with the number of new and of known rows. -/
def writeRows (target : Target) : List SourceRow → Target × Except TransferError (Nat × Nat)
  | [] => (target, .ok (0, 0))
  | row :: rows =>
      match preparedRow s row with
      | .error e => (target, .error e)
      | .ok prepared =>
          let written := writeRows (target.place prepared) rows
          let isNew := prepared.key ∉ target.rows.map TargetRow.key
          (written.1, written.2.map fun counts =>
            if isNew then (counts.1 + 1, counts.2) else (counts.1, counts.2 + 1))

/-- A nullable text inside a message. -/
def shownText (value : Option String) : String := value.getD "None"

/-- `SELECT * … WHERE tenant_id = %s AND idempotency_key = %s`. -/
def Target.find (target : Target) (tenant key : Option String) : Option TargetRow :=
  match tenant, key with
  | some tenant, some key =>
      target.rows.find? fun t => t.key = (some (.str tenant), some (.str key))
  | _, _ => none

/-- The comparison of one verified column. -/
def verifyColumn (row : SourceRow) (key : String) (target : TargetRow) (column : String) :
    Except TransferError (Option String) := do
  let source ← decodedValue s row column
  match target.value column with
  | none => .error (.raised "KeyError")
  | some value =>
      if pyEq s.floatValue source value then return none
      else if column ∈ documentColumns then return some (key ++ ": " ++ column ++ " differs")
      else return some (key ++ ": " ++ column ++ " differs (source=" ++ pyRepr s.toRuntime source ++
        " target=" ++ pyRepr s.toRuntime value ++ ")")

/-- The comparison of one instant. -/
def verifyInstant (row : SourceRow) (key : String) (target : TargetRow) (column : String) :
    Except TransferError (Option String) := do
  let source ← decodedInstant s row column
  match target.instant column with
  | none => .error (.raised "KeyError")
  | some value =>
      if source = value then return none
      else return some (key ++ ": " ++ column ++ " differs as an instant")

/-- The first comparison that finds a difference. -/
def firstMismatch {α : Type} (compare : α → Except TransferError (Option String)) :
    List α → Except TransferError (Option String)
  | [] => .ok none
  | a :: as => do
      match ← compare a with
      | some mismatch => return some mismatch
      | none => firstMismatch compare as

/-- `_verify_row`. -/
def verifyRow (target : Target) (row : SourceRow) : Except TransferError (Option String) := do
  let key ← sourceValue row "idempotency_key"
  let tenant ← sourceValue row "tenant_id"
  match target.find tenant key with
  | none => return some (shownText tenant ++ "/" ++ shownText key ++ ": missing from target")
  | some held =>
      match ← firstMismatch (verifyColumn s row (shownText key) held) verifiedColumns with
      | some mismatch => return some mismatch
      | none => firstMismatch (verifyInstant s row (shownText key) held) instantColumns

/-- The report of a run that wrote these rows. -/
def reportOf (rows : List SourceRow) (counts : Nat × Nat) (verdicts : List (Option String)) :
    TransferReport where
  sourceRecords := rows.length
  inserted := counts.1
  alreadyPresent := counts.2
  verified := verdicts.count none
  mismatches := verdicts.filterMap id

/-- `report.complete`. -/
def TransferReport.complete (report : TransferReport) : Bool :=
  report.mismatches = [] && report.verified = report.sourceRecords

/-- The verification of the source rows against the target. -/
def verifyRows (target : Target) (rows : List SourceRow) (counts : Nat × Nat) :
    Except TransferError TransferReport := do
  let verdicts ← rows.mapM (verifyRow s target)
  let report := reportOf rows counts verdicts
  if report.complete then return report else .error (.incomplete report)

/-- The transfer of attributed rows: the target it leaves and its outcome. -/
def transferRows (target : Target) (rows : List SourceRow) :
    Target × Except TransferError TransferReport :=
  let written := writeRows s target rows
  (written.1, written.2.bind fun counts => verifyRows s written.1 rows counts)

/-- `transfer_intake_ledger`: the target it leaves and its outcome. The source is none where the
file is missing. -/
def transferIntakeLedger (allowMissingSource : Bool) (source : Option (List SourceRow))
    (target : Target) : Target × Except TransferError TransferReport :=
  match source with
  | none =>
      (target, if allowMissingSource then .ok (reportOf [] (0, 0) []) else .error .sourceMissing)
  | some rows =>
      match readSourceRows s.python rows with
      | .error e => (target, .error e)
      | .ok attributed => transferRows s target attributed

/-- The target that a transfer leaves when it is stopped after some row writes. -/
def interruptedAfter (n : Nat) (source : Option (List SourceRow)) (target : Target) : Target :=
  match source with
  | none => target
  | some rows =>
      match readSourceRows s.python rows with
      | .error _ => target
      | .ok attributed => (writeRows s target (attributed.take n)).1

end Model

section Purpose

variable (s : TransferServices)

/-- The tenant text that a row names: its tenant column, else its retained context. -/
def namedTenant (reader : JsonReader) (row : SourceRow) : Option String :=
  if strip (row.textOf "tenant_id") ≠ "" then some (row.textOf "tenant_id")
  else retainedTenant reader row

/-- The target row holds what the source row has: its texts, its documents as values and its
instants, under the stripped tenant. -/
structure Carries (row : SourceRow) (held : TargetRow) : Prop where
  tenant : ∃ tenant, namedTenant s.python row = some tenant ∧
    held.value "tenant_id" = some (.str (strip tenant))
  texts : ∀ column ∈ verifiedColumns, column ≠ "tenant_id" → column ∉ documentColumns →
    ∃ value, row.column column = some value ∧ held.value column = some (Json.ofText? value)
  documents : ∀ column ∈ documentColumns, ∃ text source stored,
    row.column column = some (some text) ∧ s.python.read text = some source ∧
      held.value column = some stored ∧ pyEq s.floatValue source stored = true
  instants : ∀ column ∈ instantColumns, ∃ value instant, row.column column = some value ∧
    s.fromIsoformat (withOffset value) = some instant ∧ held.instant column = some instant

/-- The target row stands under the stripped tenant and the key of the source row. -/
def SharesKey (row : SourceRow) (held : TargetRow) : Prop :=
  ∃ tenant key, namedTenant s.python row = some tenant ∧
    row.column "idempotency_key" = some (some key) ∧
    held.key = (some (.str (strip tenant)), some (.str key))

/-- An outcome without the numbers of new and of known rows. -/
def verdict : Except TransferError TransferReport → Except TransferError TransferReport
  | .ok report => .ok { report with inserted := 0, alreadyPresent := 0 }
  | .error (.incomplete report) =>
      .error (.incomplete { report with inserted := 0, alreadyPresent := 0 })
  | .error e => .error e

end Purpose

section Results

variable {s : TransferServices} {target : Target} {row : SourceRow} {rows : List SourceRow}

theorem withTenant_named {attributed : SourceRow} (h : withTenant s.python row = .ok attributed) :
    ∃ tenant, namedTenant s.python row = some tenant ∧
      attributed = row.withTenant (strip tenant) := by
  unfold namedTenant
  by_cases hexisting : strip (row.textOf "tenant_id") = ""
  · obtain ⟨tenant, htenant, -, hattributed⟩ := (withTenant_of_blank hexisting).mp h
    rw [if_neg (not_not_intro hexisting)]
    exact ⟨tenant, htenant, hattributed⟩
  · rw [withTenant, if_pos hexisting] at h
    rw [if_pos hexisting]
    exact ⟨_, rfl, (Except.ok.inj h).symm⟩

theorem firstMismatch_eq_none {α : Type} {compare : α → Except TransferError (Option String)}
    {columns : List α} :
    firstMismatch compare columns = .ok none ↔ ∀ a ∈ columns, compare a = .ok none := by
  induction columns with
  | nil => simp [firstMismatch]
  | cons a columns ih =>
      rw [firstMismatch, bind_eq_ok, List.forall_mem_cons, ← ih]
      constructor
      · rintro ⟨found, ha, hrest⟩
        cases found with
        | none => exact ⟨ha, hrest⟩
        | some mismatch => cases hrest
      · rintro ⟨ha, hrest⟩
        exact ⟨none, ha, hrest⟩

theorem verifyColumn_eq_none {key column : String} {held : TargetRow} :
    verifyColumn s row key held column = .ok none ↔
      ∃ source value, decodedValue s row column = .ok source ∧ held.value column = some value ∧
        pyEq s.floatValue source value = true := by
  rw [verifyColumn, bind_eq_ok]
  constructor
  · rintro ⟨source, hsource, h⟩
    cases hvalue : held.value column with
    | none =>
        rw [hvalue] at h
        cases h
    | some value =>
        simp only [hvalue] at h
        split at h
        · rename_i heq
          exact ⟨source, value, hsource, rfl, heq⟩
        · split at h <;> cases h
  · rintro ⟨source, value, hsource, hvalue, heq⟩
    refine ⟨source, hsource, ?_⟩
    simp only [hvalue, if_pos heq]
    rfl

theorem verifyInstant_eq_none {key column : String} {held : TargetRow} :
    verifyInstant s row key held column = .ok none ↔
      ∃ instant, decodedInstant s row column = .ok instant ∧
        held.instant column = some instant := by
  rw [verifyInstant, bind_eq_ok]
  constructor
  · rintro ⟨source, hsource, h⟩
    cases hvalue : held.instant column with
    | none =>
        rw [hvalue] at h
        cases h
    | some value =>
        simp only [hvalue] at h
        split at h
        · rename_i heq
          exact ⟨source, hsource, heq ▸ rfl⟩
        · cases h
  · rintro ⟨instant, hsource, hvalue⟩
    refine ⟨instant, hsource, ?_⟩
    simp only [hvalue, if_pos]
    rfl

theorem sourceValue_eq_ok {column : String} {value : Option String} :
    sourceValue row column = .ok value ↔ row.column column = some value := by
  unfold sourceValue
  cases row.column column <;> simp

theorem find_eq_some {tenant key : Option String} {held : TargetRow}
    (h : target.find tenant key = some held) :
    ∃ t k, tenant = some t ∧ key = some k ∧ held ∈ target.rows ∧
      held.key = (some (.str t), some (.str k)) := by
  unfold Target.find at h
  cases tenant with
  | none => cases h
  | some t =>
      cases key with
      | none => cases h
      | some k =>
          exact ⟨t, k, rfl, rfl, List.mem_of_find?_eq_some h, by simpa using List.find?_some h⟩

theorem verifyRow_eq_none (h : verifyRow s target row = .ok none) :
    ∃ tenant key, ∃ held ∈ target.rows, row.column "tenant_id" = some (some tenant) ∧
      row.column "idempotency_key" = some (some key) ∧
      held.key = (some (.str tenant), some (.str key)) ∧
      (∀ column ∈ verifiedColumns, ∃ source value, decodedValue s row column = .ok source ∧
        held.value column = some value ∧ pyEq s.floatValue source value = true) ∧
      ∀ column ∈ instantColumns, ∃ instant, decodedInstant s row column = .ok instant ∧
        held.instant column = some instant := by
  rw [verifyRow, bind_eq_ok] at h
  obtain ⟨key, hkey, h⟩ := h
  obtain ⟨tenant, htenant, h⟩ := bind_eq_ok.mp h
  cases hfind : target.find tenant key with
  | none =>
      rw [hfind] at h
      cases h
  | some held =>
      simp only [hfind] at h
      obtain ⟨t, k, rfl, rfl, hheld, hshared⟩ := find_eq_some hfind
      obtain ⟨found, hcolumns, h⟩ := bind_eq_ok.mp h
      cases found with
      | some mismatch => cases h
      | none =>
          refine ⟨t, k, held, hheld, sourceValue_eq_ok.mp htenant, sourceValue_eq_ok.mp hkey,
            hshared, fun column hcolumn => ?_, fun column hcolumn => ?_⟩
          · exact verifyColumn_eq_none.mp (firstMismatch_eq_none.mp hcolumns column hcolumn)
          · exact verifyInstant_eq_none.mp (firstMismatch_eq_none.mp h column hcolumn)

theorem eq_null_of_pyEq {floatValue : String → FloatValue} {j : Json}
    (h : pyEq floatValue .null j = true) : j = .null := by
  cases j <;> simp_all [pyEq, numbersEq, numberOf]

theorem decodedValue_text {column : String} (hcolumn : column ∉ documentColumns) {source value : Json}
    (hsource : decodedValue s row column = .ok source) (heq : pyEq s.floatValue source value = true) :
    ∃ text, row.column column = some text ∧ value = Json.ofText? text := by
  obtain ⟨text, htext, h⟩ := bind_eq_ok.mp hsource
  rw [if_neg hcolumn] at h
  cases h
  refine ⟨text, sourceValue_eq_ok.mp htext, ?_⟩
  cases text with
  | none => exact eq_null_of_pyEq heq
  | some text => exact pyEq_str_left.mp heq

theorem decodedValue_document {column : String} (hcolumn : column ∈ documentColumns) {source : Json}
    (hsource : decodedValue s row column = .ok source) :
    ∃ text, row.column column = some (some text) ∧ s.python.read text = some source := by
  obtain ⟨value, hvalue, h⟩ := bind_eq_ok.mp hsource
  rw [if_pos hcolumn] at h
  cases value with
  | none => cases h
  | some text =>
      refine ⟨text, sourceValue_eq_ok.mp hvalue, ?_⟩
      unfold loads at h
      cases hread : s.python.read text with
      | none => simp [hread] at h
      | some document =>
          simp only [hread] at h
          exact congrArg some (Except.ok.inj h)

theorem decodedInstant_eq_ok {column : String} {instant : Instant} :
    decodedInstant s row column = .ok instant ↔
      ∃ value, row.column column = some value ∧
        s.fromIsoformat (withOffset value) = some instant := by
  rw [decodedInstant, bind_eq_ok]
  constructor
  · rintro ⟨value, hvalue, h⟩
    refine ⟨value, sourceValue_eq_ok.mp hvalue, ?_⟩
    unfold parseInstant at h
    cases hparse : s.fromIsoformat (withOffset value) with
    | none => simp [hparse] at h
    | some parsed =>
        simp only [hparse] at h
        exact congrArg some (Except.ok.inj h)
  · rintro ⟨value, hvalue, hparse⟩
    refine ⟨value, sourceValue_eq_ok.mpr hvalue, ?_⟩
    rw [parseInstant, hparse]

theorem carries_of_verifyRow {tenant : String} (hnamed : namedTenant s.python row = some tenant)
    (h : verifyRow s target (row.withTenant (strip tenant)) = .ok none) :
    ∃ held ∈ target.rows, SharesKey s row held ∧ Carries s row held := by
  obtain ⟨t, key, held, hheld, ht, hkey, hshared, hcolumns, hinstants⟩ := verifyRow_eq_none h
  have hothers : ∀ column, column ≠ "tenant_id" →
      (row.withTenant (strip tenant)).column column = row.column column := by
    intro column hne
    exact row.column_withTenant_of_ne (strip tenant) hne
  rw [SourceRow.column_withTenant, Option.some_inj, Option.some_inj] at ht
  rw [hothers _ (by decide)] at hkey
  subst ht
  refine ⟨held, hheld, ⟨tenant, key, hnamed, hkey, hshared⟩, ?_⟩
  constructor
  · exact ⟨tenant, hnamed, congrArg Prod.fst hshared⟩
  · intro column hcolumn hne hdocument
    obtain ⟨source, value, hsource, hvalue, heq⟩ := hcolumns column hcolumn
    obtain ⟨text, htext, rfl⟩ := decodedValue_text hdocument hsource heq
    exact ⟨text, (hothers column hne).symm.trans htext, hvalue⟩
  · intro column hcolumn
    have hmem : column ∈ verifiedColumns ∧ column ≠ "tenant_id" := by
      revert column
      decide
    obtain ⟨source, value, hsource, hvalue, heq⟩ := hcolumns column hmem.1
    obtain ⟨text, htext, hread⟩ := decodedValue_document hcolumn hsource
    exact ⟨text, source, value, (hothers column hmem.2).symm.trans htext, hread, hvalue, heq⟩
  · intro column hcolumn
    have hne : column ≠ "tenant_id" := by
      revert column
      decide
    obtain ⟨instant, hinstant, hheldInstant⟩ := hinstants column hcolumn
    obtain ⟨value, hvalue, hparse⟩ := decodedInstant_eq_ok.mp hinstant
    exact ⟨value, instant, (hothers column hne).symm.trans hvalue, hparse, hheldInstant⟩

theorem prefix_place (prepared : TargetRow) : target.rows <+: (target.place prepared).rows := by
  unfold Target.place
  split
  · exact List.prefix_rfl
  · exact List.prefix_append _ _

theorem prefix_writeRows (target : Target) (rows : List SourceRow) :
    target.rows <+: (writeRows s target rows).1.rows := by
  induction rows generalizing target with
  | nil => exact List.prefix_rfl
  | cons row rows ih =>
      rw [writeRows]
      cases preparedRow s row with
      | error e => exact List.prefix_rfl
      | ok prepared => exact (prefix_place prepared).trans (ih (target.place prepared))

theorem key_mem_place (prepared : TargetRow) :
    prepared.key ∈ (target.place prepared).rows.map TargetRow.key := by
  unfold Target.place
  split
  · assumption
  · simp

theorem place_of_mem {prepared : TargetRow} (h : prepared.key ∈ target.rows.map TargetRow.key) :
    target.place prepared = target := dif_pos h

/-- The row writes without their numbers. -/
def writesPass (written : Target × Except TransferError (Nat × Nat)) :
    Target × Except TransferError Unit :=
  (written.1, written.2.map fun _ => ())

attribute [local simp] writeRows in
theorem writesPass_cons_error {e : TransferError} (h : preparedRow s row = .error e) :
    writesPass (writeRows s target (row :: rows)) = (target, .error e) := by
  rw [writeRows, h]
  rfl

theorem writesPass_cons_ok {prepared : TargetRow} (h : preparedRow s row = .ok prepared) :
    writesPass (writeRows s target (row :: rows)) =
      writesPass (writeRows s (target.place prepared) rows) := by
  rw [writeRows, h]
  unfold writesPass
  dsimp only
  cases (writeRows s (target.place prepared) rows).2 <;> rfl

/-- After some of the row writes, the writes from the start leave the same target and stop at the
same row. -/
theorem writesPass_restart (target : Target) (rows : List SourceRow) (n : Nat) :
    writesPass (writeRows s (writesPass (writeRows s target (rows.take n))).1 rows) =
      writesPass (writeRows s target rows) := by
  induction rows generalizing target n with
  | nil => simp [writesPass, writeRows]
  | cons row rows ih =>
      cases n with
      | zero => simp [writesPass, writeRows]
      | succ n =>
          rw [List.take_succ_cons]
          cases hprepared : preparedRow s row with
          | error e => simp only [writesPass_cons_error hprepared]
          | ok prepared =>
              simp only [writesPass_cons_ok hprepared]
              -- the first row is known to the second run, which goes on with the others
              have hkey : prepared.key ∈ (writesPass
                  (writeRows s (target.place prepared) (rows.take n))).1.rows.map TargetRow.key :=
                List.map_subset _ (prefix_writeRows _ _).subset (key_mem_place prepared)
              rw [place_of_mem hkey]
              exact ih (target.place prepared) n

/-- Verification depends on the numbers of the writes only by its report. -/
theorem verdict_verifyRows (target : Target) (rows : List SourceRow) (a b : Nat × Nat) :
    verdict (verifyRows s target rows a) = verdict (verifyRows s target rows b) := by
  unfold verifyRows
  cases rows.mapM (verifyRow s target) with
  | error e => rfl
  | ok verdicts =>
      have hcomplete : (reportOf rows a verdicts).complete = (reportOf rows b verdicts).complete :=
        rfl
      simp only [bind, Except.bind, hcomplete]
      split <;> rfl

theorem transferRows_restart (target : Target) (rows : List SourceRow) (n : Nat) :
    (transferRows s (writeRows s target (rows.take n)).1 rows).1 = (transferRows s target rows).1 ∧
      verdict (transferRows s (writeRows s target (rows.take n)).1 rows).2 =
        verdict (transferRows s target rows).2 := by
  have hpass : writesPass (writeRows s (writeRows s target (rows.take n)).1 rows) =
      writesPass (writeRows s target rows) := writesPass_restart target rows n
  have hstate := congrArg Prod.fst hpass
  have houtcome := congrArg Prod.snd hpass
  refine ⟨hstate, ?_⟩
  unfold transferRows
  dsimp only [writesPass] at hstate houtcome ⊢
  rw [hstate]
  cases hagain : (writeRows s (writeRows s target (rows.take n)).1 rows).2 with
  | error e =>
      cases honce : (writeRows s target rows).2 with
      | error e' =>
          rw [hagain, honce] at houtcome
          cases houtcome
          rfl
      | ok counts =>
          rw [hagain, honce] at houtcome
          cases houtcome
  | ok counts =>
      cases honce : (writeRows s target rows).2 with
      | error e' =>
          rw [hagain, honce] at houtcome
          cases houtcome
      | ok counts' => exact verdict_verifyRows _ _ _ _

theorem verifyRow_of_transferRows {report : TransferReport}
    (h : (transferRows s target rows).2 = .ok report) {row : SourceRow} (hrow : row ∈ rows) :
    verifyRow s (transferRows s target rows).1 row = .ok none := by
  unfold transferRows at h ⊢
  obtain ⟨counts, -, hverify⟩ := bind_eq_ok.mp h
  obtain ⟨verdicts, hverdicts, hreport⟩ := bind_eq_ok.mp hverify
  dsimp only at hreport
  split at hreport
  · rename_i hcomplete
    obtain ⟨found, hfound, hrowVerdict⟩ := converts_of_mapM hverdicts hrow
    rw [hrowVerdict]
    cases found with
    | none => rfl
    | some mismatch =>
        unfold TransferReport.complete reportOf at hcomplete
        simp only [Bool.and_eq_true, decide_eq_true_eq] at hcomplete
        have hmem : mismatch ∈ verdicts.filterMap id :=
          List.mem_filterMap.mpr ⟨_, hfound, rfl⟩
        rw [hcomplete.1] at hmem
        cases hmem
  · cases hreport

theorem carries_of_transfer {allowMissingSource : Bool} {report : TransferReport}
    (h : (transferIntakeLedger s allowMissingSource (some rows) target).2 = .ok report)
    {row : SourceRow} (hrow : row ∈ rows) :
    ∃ held ∈ (transferIntakeLedger s allowMissingSource (some rows) target).1.rows,
      SharesKey s row held ∧ Carries s row held := by
  unfold transferIntakeLedger at h ⊢
  cases hread : readSourceRows s.python rows with
  | error e =>
      simp only [hread] at h
      cases h
  | ok attributed =>
      simp only [hread] at h ⊢
      obtain ⟨result, hresult, hwith⟩ := converts_of_mapM hread (mem_sourceOrder.mpr hrow)
      obtain ⟨tenant, hnamed, rfl⟩ := withTenant_named hwith
      exact carries_of_verifyRow hnamed (verifyRow_of_transferRows h hresult)

theorem prefix_transfer (allowMissingSource : Bool) (source : Option (List SourceRow)) :
    target.rows <+: (transferIntakeLedger s allowMissingSource source target).1.rows := by
  unfold transferIntakeLedger
  cases source with
  | none => exact List.prefix_rfl
  | some rows =>
      dsimp only
      cases readSourceRows s.python rows with
      | error e => exact List.prefix_rfl
      | ok attributed => exact prefix_writeRows target attributed

theorem prefix_interruptedAfter (n : Nat) (source : Option (List SourceRow)) :
    target.rows <+: (interruptedAfter s n source target).rows := by
  unfold interruptedAfter
  cases source with
  | none => exact List.prefix_rfl
  | some rows =>
      dsimp only
      cases readSourceRows s.python rows with
      | error e => exact List.prefix_rfl
      | ok attributed => exact prefix_writeRows target (attributed.take n)

/-- The unique index leaves one row under the key of a source row. -/
theorem SharesKey.unique {held other : TargetRow} (hheld : held ∈ target.rows)
    (hother : other ∈ target.rows) (h : SharesKey s row held) (h' : SharesKey s row other) :
    held = other := by
  obtain ⟨tenant, key, htenant, hkey, heq⟩ := h
  obtain ⟨tenant', key', htenant', hkey', heq'⟩ := h'
  cases htenant.symm.trans htenant'
  cases hkey.symm.trans hkey'
  exact List.inj_on_of_nodup_map target.unique hheld hother (heq.trans heq'.symm)

theorem transfer_restart (allowMissingSource : Bool) (source : Option (List SourceRow)) (n : Nat) :
    (transferIntakeLedger s allowMissingSource source (interruptedAfter s n source target)).1 =
        (transferIntakeLedger s allowMissingSource source target).1 ∧
      verdict (transferIntakeLedger s allowMissingSource source
          (interruptedAfter s n source target)).2 =
        verdict (transferIntakeLedger s allowMissingSource source target).2 := by
  unfold transferIntakeLedger interruptedAfter
  cases source with
  | none => exact ⟨rfl, rfl⟩
  | some rows =>
      dsimp only
      cases readSourceRows s.python rows with
      | error e => exact ⟨rfl, rfl⟩
      | ok attributed => exact transferRows_restart target attributed n

/-- A transfer that returns has carried every source row, no transfer changes a row of the target,
a transfer that is interrupted and run again ends as an uninterrupted one, and a target row that
stands under the key of a source row with other content makes the transfer raise. -/
theorem transferIntakeLedger_faithful (s : TransferServices) (allowMissingSource : Bool)
    (source : Option (List SourceRow)) (target : Target) :
    (∀ report, (transferIntakeLedger s allowMissingSource source target).2 = .ok report →
      ∀ rows, source = some rows → ∀ row ∈ rows,
        ∃ held ∈ (transferIntakeLedger s allowMissingSource source target).1.rows,
          SharesKey s row held ∧ Carries s row held) ∧
    target.rows <+: (transferIntakeLedger s allowMissingSource source target).1.rows ∧
    (∀ n, target.rows <+: (interruptedAfter s n source target).rows ∧
      (transferIntakeLedger s allowMissingSource source (interruptedAfter s n source target)).1 =
        (transferIntakeLedger s allowMissingSource source target).1 ∧
      verdict (transferIntakeLedger s allowMissingSource source
          (interruptedAfter s n source target)).2 =
        verdict (transferIntakeLedger s allowMissingSource source target).2) ∧
    ∀ rows, source = some rows → ∀ row ∈ rows, ∀ held ∈ target.rows,
      SharesKey s row held → ¬Carries s row held →
        ∃ e, (transferIntakeLedger s allowMissingSource source target).2 = .error e := by
  refine ⟨?_, prefix_transfer allowMissingSource source, fun n => ⟨?_, ?_⟩, ?_⟩
  · rintro report hreport rows rfl row hrow
    exact carries_of_transfer hreport hrow
  · exact prefix_interruptedAfter n source
  · exact transfer_restart allowMissingSource source n
  · rintro rows rfl row hrow held hheld hshares hnot
    cases houtcome : (transferIntakeLedger s allowMissingSource (some rows) target).2 with
    | error e => exact ⟨e, rfl⟩
    | ok report =>
        obtain ⟨other, hother, hsame, hcarries⟩ := carries_of_transfer houtcome hrow
        have hkept : held ∈ (transferIntakeLedger s allowMissingSource (some rows) target).1.rows :=
          (prefix_transfer allowMissingSource (some rows)).subset hheld
        rw [hshares.unique hkept hother hsame] at hnot
        exact absurd hcarries hnot

/-- One retained row, an empty target: the row arrives and is verified. -/
example :
    let s : TransferServices := { Runtime.verbatim with
      python := readerOf "\x7b\"tenant_id\": \"\\tacme\"\x7d" (.obj [("tenant_id", .str "\tacme")])
      fromIsoformat := fun _ => some 0
      floatValue := fun _ => .nan
      jsonb := some
      accepts := fun _ => true }
    let row : SourceRow := (transferredColumns.erase "tenant_id").map fun column =>
      (column, some (if column ∈ documentColumns then "\x7b\"tenant_id\": \"\\tacme\"\x7d" else column))
    (transferIntakeLedger s false (some [row]) ⟨[], List.nodup_nil⟩).2 =
      .ok ⟨1, 1, 0, 1, []⟩ := by
  decide +kernel

end Results

end LotusReport.Intake
