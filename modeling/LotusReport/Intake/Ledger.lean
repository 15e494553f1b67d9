import LotusReport.Encoding.Runtime
import LotusReport.Encoding.Timestamp
import LotusReport.StateMachine.Labels

/-!
# Acceptance of idea evidence

A ledger accepts a request under the tenant and the idempotency key of its
caller: it looks the key up, and stores a new record when there is none. Lookup
and store are separate transactions, so another call may store in between; the
unique index then refuses the second record and the stored one decides. The
ledger is kept in a SQLite file or in PostgreSQL.
-/

namespace LotusReport.Intake

open Encoding StateMachine

section Records

/-- `IdeaEvidencePackIntakeRequest`: the identities that the ledger stores, and the other fields as
they are dumped. -/
structure IntakeRequest where
  reportEvidencePackId : String
  conversionIntentId : String
  candidateId : String
  evidencePacketId : String
  evidenceContentFingerprint : String
  others : Fields
deriving DecidableEq

/-- `request.model_dump(mode="json")`. -/
def IntakeRequest.modelDump (request : IntakeRequest) : Json :=
  .obj ([("report_evidence_pack_id", .str request.reportEvidencePackId),
    ("conversion_intent_id", .str request.conversionIntentId),
    ("candidate_id", .str request.candidateId),
    ("evidence_packet_id", .str request.evidencePacketId),
    ("evidence_content_fingerprint", .str request.evidenceContentFingerprint),
    ("producer", .str "lotus-idea"),
    ("supportability_status", .str "not_certified")] ++ request.others)

/-- `IdeaEvidencePackIntakeResponse`: the fields that differ between intakes. -/
structure IntakeResponse where
  intakeId : String
  reportEvidencePackId : String
  conversionIntentId : String
  candidateId : String
  acceptedAt : Instant
  correlationId : Option String
  intakeStatus : String := "accepted"
  producer : String := "lotus-idea"
  ownedProduct : String := "lotus-report:ClientReportEvidencePack:v1"
  supportabilityStatus : String := "not_certified"
  routeExistenceProven : Bool := true
  materializationProven : Bool := false
  createsReportJob : Bool := false
  createsRenderedOutput : Bool := false
  createsArchiveRecord : Bool := false
  grantsClientPublicationAuthority : Bool := false
  remainingBlockers : List String :=
    ["report_evidence_pack_live_materialization_proof_missing", "rendered_output_creation_missing",
      "archive_record_creation_missing", "client_publication_authority_blocked"]
  evidenceRefs : List String :=
    ["POST /reports/idea-evidence-packs",
      "contracts/idea-evidence-intake/lotus-report-idea-evidence-pack-intake.v1.json",
      "src/app/idea_evidence_intake/service.py",
      "src/app/routers/idea_evidence_intake.py",
      "tests/unit/test_idea_evidence_intake_service.py",
      "tests/integration/test_idea_evidence_intake_api.py"]
deriving DecidableEq

/-- `IdeaEvidenceIntakeRecord`. -/
structure IntakeRecord where
  tenantId : String
  intakeId : String
  idempotencyKey : String
  payloadFingerprint : String
  response : IntakeResponse
  callerContext : Json
  acceptedAt : Instant
  createdAt : Instant
deriving DecidableEq

/-- A row of `idea_evidence_intake`: the record with the identities of its request. -/
structure IntakeRow extends IntakeRecord where
  reportEvidencePackId : String
  conversionIntentId : String
  candidateId : String
  evidencePacketId : String
  evidenceContentFingerprint : String
  producer : String
  supportabilityStatus : String
  correlationId : Option String
  traceId : Option String
deriving DecidableEq

/-- The columns of the unique index. -/
def IntakeRow.key (row : IntakeRow) : String × String := (row.tenantId, row.idempotencyKey)

/-- The arguments of `accept`, with the clock readings that it makes. -/
structure AcceptCall where
  request : IntakeRequest
  tenantId : String
  idempotencyKey : String
  acceptedAtUtc : Option Instant
  correlationId : Option String
  traceId : Option String
  callerContext : Option Json
  acceptedNow : Instant
  createdNow : Instant
deriving DecidableEq

/-- The key that a call names. -/
def AcceptCall.key (call : AcceptCall) : String × String := (call.tenantId, call.idempotencyKey)

variable (py : Runtime)

/-- `payload_fingerprint_of`. -/
def payloadFingerprintOf (request : IntakeRequest) : String :=
  "sha256:" ++ py.digest request.modelDump

/-- `_intake_id`: every part is written with its length. -/
def intakeIdOf (tenantId idempotencyKey payloadFingerprint : String) : String :=
  let lengthPrefixed := String.join ([tenantId, idempotencyKey, payloadFingerprint].map fun part =>
    toString part.length ++ ":" ++ part)
  "idea_intake_" ++ String.ofList ((py.sha256 lengthPrefixed).toList.take 24)

/-- `build_intake_record`. -/
def buildIntakeRecord (call : AcceptCall) : IntakeRecord :=
  let acceptedAt := call.acceptedAtUtc.getD call.acceptedNow
  let payloadFingerprint := payloadFingerprintOf py call.request
  let intakeId := intakeIdOf py call.tenantId call.idempotencyKey payloadFingerprint
  { tenantId := call.tenantId
    intakeId := intakeId
    idempotencyKey := call.idempotencyKey
    payloadFingerprint := payloadFingerprint
    response := {
      intakeId := intakeId
      reportEvidencePackId := call.request.reportEvidencePackId
      conversionIntentId := call.request.conversionIntentId
      candidateId := call.request.candidateId
      acceptedAt := acceptedAt
      correlationId := call.correlationId }
    callerContext := call.callerContext.getD (.obj [])
    acceptedAt := acceptedAt
    createdAt := call.createdNow }

/-- The row that `_store_record` inserts. -/
def newRow (call : AcceptCall) : IntakeRow :=
  { buildIntakeRecord py call with
    reportEvidencePackId := call.request.reportEvidencePackId
    conversionIntentId := call.request.conversionIntentId
    candidateId := call.request.candidateId
    evidencePacketId := call.request.evidencePacketId
    evidenceContentFingerprint := call.request.evidenceContentFingerprint
    producer := "lotus-idea"
    supportabilityStatus := "not_certified"
    correlationId := call.correlationId
    traceId := call.traceId }

@[simp] theorem key_newRow (call : AcceptCall) : (newRow py call).key = call.key := rfl

@[simp] theorem payloadFingerprint_newRow (call : AcceptCall) :
    (newRow py call).payloadFingerprint = payloadFingerprintOf py call.request := rfl

end Records

section Store

/-- The table, with its unique index. -/
structure Ledger where
  rows : List IntakeRow
  unique : (rows.map IntakeRow.key).Nodup

/-- A statement of a ledger. -/
inductive LedgerOp where
  | select (tenantId idempotencyKey : String)
  | insert (row : IntakeRow)

/-- An exception of the driver. -/
inductive StoreError where
  | uniqueViolation
  | dataError
deriving DecidableEq, Repr

/-- What a statement returns. -/
def LedgerOp.Res : LedgerOp → Type
  | .select _ _ => Except StoreError (Option IntakeRow)
  | .insert _ => Except StoreError Unit

/-- What a database takes: texts as parameters of a query, rows by its column types and indexes. -/
structure Engine where
  binds : String → Bool
  takes : IntakeRow → Bool

/-- SQLite stores every text. -/
def Engine.sqlite : Engine := ⟨fun _ => true, fun _ => true⟩

/-- The row under a key. -/
def Ledger.find (ledger : Ledger) (key : String × String) : Option IntakeRow :=
  ledger.rows.find? fun row => row.key = key

/-- The table with one more row. -/
def Ledger.add (ledger : Ledger) (row : IntakeRow) (h : row.key ∉ ledger.rows.map IntakeRow.key) :
    Ledger where
  rows := ledger.rows ++ [row]
  unique := by
    rw [List.map_append, List.map_singleton, List.nodup_append_comm, List.singleton_append,
      List.nodup_cons]
    exact ⟨h, ledger.unique⟩

/-- The table with one more row, unless its key is taken. -/
def Ledger.insert? (ledger : Ledger) (row : IntakeRow) : Option Ledger :=
  if h : row.key ∈ ledger.rows.map IntakeRow.key then none else some (ledger.add row h)

/-- The execution of a statement in a transaction of its own. -/
def Engine.perform (engine : Engine) (ledger : Ledger) : (op : LedgerOp) → Ledger × op.Res
  | .select tenantId idempotencyKey =>
      (ledger,
        if engine.binds tenantId && engine.binds idempotencyKey then
          .ok (ledger.find (tenantId, idempotencyKey))
        else .error .dataError)
  | .insert row =>
      if engine.takes row then
        match ledger.insert? row with
        | none => (ledger, .error .uniqueViolation)
        | some stored => (stored, .ok ())
      else (ledger, .error .dataError)

end Store

section Accept

/-- Why a call does not return a response. -/
inductive IntakeError where
  /-- `IdeaEvidenceIntakeConflictError`. -/
  | conflict
  | store (error : StoreError)
deriving DecidableEq, Repr

/-- The outcome of a call. -/
abbrev Outcome := Except IntakeError IntakeResponse

/-- A call under way. -/
abbrev Accepting := Program LedgerOp LedgerOp.Res Outcome

variable (py : Runtime)

/-- What a stored record answers to a call with a fingerprint. -/
def answer (payloadFingerprint : String) (existing : IntakeRecord) : Outcome :=
  if existing.payloadFingerprint ≠ payloadFingerprint then .error .conflict
  else .ok existing.response

/-- `_get_record` before the rest of a call. -/
def getRecord (key : String × String) (next : Option IntakeRecord → Accepting) : Accepting :=
  .call (.select key.1 key.2) fun
    | .error e => .done (.error (.store e))
    | .ok row => next (row.map IntakeRow.toIntakeRecord)

/-- After a clash the record that another call has stored decides. -/
def resolveClash (call : AcceptCall) : Accepting :=
  getRecord call.key fun
    | some existing =>
        if existing.payloadFingerprint = (buildIntakeRecord py call).payloadFingerprint then
          .done (.ok existing.response)
        else .done (.error .conflict)
    | none => .done (.error .conflict)

/-- `_store_record`, on the exceptions that are caught as a clash. -/
def storeRecord (caught : StoreError → Bool) (call : AcceptCall) : Accepting :=
  .call (.insert (newRow py call)) fun
    | .ok () => .done (.ok (buildIntakeRecord py call).response)
    | .error e => if caught e then resolveClash py call else .done (.error (.store e))

/-- `accept`, on the exceptions that its ledger catches. -/
def acceptWith (caught : StoreError → Bool) (call : AcceptCall) : Accepting :=
  getRecord call.key fun
    | some existing => .done (answer (payloadFingerprintOf py call.request) existing)
    | none => storeRecord py caught call

/-- `IdeaEvidenceIntakeLedger.accept` catches `sqlite3.IntegrityError`: the row that it stores has
a value in every column that needs one. -/
def sqliteAccept : AcceptCall → Accepting := acceptWith py fun e => e = .uniqueViolation

/-- `PostgresIdeaEvidenceIntakeLedger.accept` catches `UniqueViolation`. -/
def postgresAccept : AcceptCall → Accepting := acceptWith py fun e => e = .uniqueViolation

/-- The SQLite ledger after an interleaving of calls. -/
def sqliteAfter (ledger : Ledger) (events : List (Event AcceptCall)) :
    System Ledger LedgerOp LedgerOp.Res Outcome :=
  System.reached Engine.sqlite.perform (sqliteAccept py) ledger events

/-- The PostgreSQL ledger after an interleaving of calls. -/
def postgresAfter (postgres : Engine) (ledger : Ledger) (events : List (Event AcceptCall)) :
    System Ledger LedgerOp LedgerOp.Res Outcome :=
  System.reached postgres.perform (postgresAccept py) ledger events

end Accept

end LotusReport.Intake
