import LotusReport.Replay.Calls

/-!
# Correction lineage into the archive

A correction or a replacement is linked to the document it follows by a
transition that the archive records. Whatever the archive answers is written
as an event of the job. A pending pair is attempted again by the settlement,
which rebuilds the pairs from the payloads of the events, and by the
reconciliation, which finds the jobs with a query over the keys of the events.
-/

namespace LotusReport.Corrections

open Encoding Relational Jobs Replay

/-- `LINEAGE_RECORDED_EVENT`. -/
def lineageRecordedEvent : String := "job_archive_lineage_recorded"

/-- `LINEAGE_PENDING_EVENT`. -/
def lineagePendingEvent : String := "job_archive_lineage_pending"

/-- `LINEAGE_REFUSED_EVENT`. -/
def lineageRefusedEvent : String := "job_archive_lineage_refused"

/-- A document, the one that follows it, and the transition from the first to the second. -/
structure DocumentPair where
  sourceDocumentId : String
  targetDocumentId : String
  transitionType : String
deriving DecidableEq, Repr

/-- Both documents and the transition are named. -/
def DocumentPair.Named (pair : DocumentPair) : Prop :=
  pair.sourceDocumentId ≠ "" ∧ pair.targetDocumentId ≠ "" ∧ pair.transitionType ≠ ""

instance (pair : DocumentPair) : Decidable pair.Named :=
  inferInstanceAs (Decidable (_ ∧ _ ∧ _))

/-- `_pair_key`. -/
def pairKey (pair : DocumentPair) : String :=
  pair.transitionType ++ ":" ++ pair.sourceDocumentId ++ "->" ++ pair.targetDocumentId

section Record

/-- The status code of an answer; a call that raises counts as `0`. -/
def statusCodeOf (answer : ArchiveAnswer) : Int := (answer.map Prod.fst).getD 0

/-- `_acknowledged_relationship_id`. -/
def acknowledgedRelationshipId (payload : Fields) (pair : DocumentPair) :
    Option String :=
  match Json.lookup payload "lifecycle_relationship_id" with
  | some (.str relationshipId) =>
      if strip relationshipId = "" then none
      else if 256 < relationshipId.length then none
      else if Json.lookup payload "source_document_id" ≠ some (.str pair.sourceDocumentId) ∨
          Json.lookup payload "target_document_id" ≠ some (.str pair.targetDocumentId) ∨
          Json.lookup payload "transition_type" ≠ some (.str pair.transitionType) then none
      else some relationshipId
  | _ => none

/-- What the archive's answer says of a pair. -/
inductive LineageOutcome where
  | recorded (relationshipId : String)
  | refused
  | pending
deriving DecidableEq

/-- The outcome of a pair. -/
def lineageOutcome (pair : DocumentPair) (answer : ArchiveAnswer) : LineageOutcome :=
  let acknowledged :=
    if statusCodeOf answer = 200 ∨ statusCodeOf answer = 201 then
      acknowledgedRelationshipId ((answer.map Prod.snd).getD []) pair
    else none
  match acknowledged with
  | some relationshipId => .recorded relationshipId
  | none =>
      if 400 ≤ statusCodeOf answer ∧ statusCodeOf answer < 500 then .refused else .pending

/-- The pair has an outcome that is not attempted again. -/
def LineageOutcome.final : LineageOutcome → Bool
  | pending => false
  | _ => true

/-- The type of the event that records an outcome. -/
def LineageOutcome.eventType : LineageOutcome → String
  | recorded _ => lineageRecordedEvent
  | refused => lineageRefusedEvent
  | pending => lineagePendingEvent

/-- The message of the event. -/
def LineageOutcome.message (pair : DocumentPair) (answer : ArchiveAnswer) :
    LineageOutcome → String
  | recorded _ =>
      "Archive lifecycle records " ++ pair.sourceDocumentId ++ " " ++ pair.transitionType ++
        "d by " ++ pair.targetDocumentId ++ "."
  | refused =>
      "Archive REFUSED lifecycle linkage " ++ pair.sourceDocumentId ++ " -> " ++
        pair.targetDocumentId ++ " (" ++ pair.transitionType ++ ") with status " ++
        toString (statusCodeOf answer) ++
        ". This pair will not be retried; operator attention is required."
  | pending =>
      "Archive lifecycle linkage " ++ pair.sourceDocumentId ++ " -> " ++
        pair.targetDocumentId ++ " (" ++ pair.transitionType ++ ") is PENDING: the " ++
        "requested pair has no validated acknowledgement. The stored document stands; " ++
        "the linkage is re-attempted on the next correction-flow entry."

/-- What the event says beyond the pair. -/
def LineageOutcome.details (transitionReason : String) (answer : ArchiveAnswer) :
    LineageOutcome → Fields
  | recorded relationshipId => [("lifecycle_relationship_id", .str relationshipId)]
  | refused => [("status_code", .int (statusCodeOf answer))]
  | pending =>
      [ ("transition_reason", .str transitionReason),
        ("status_code", .int (statusCodeOf answer)),
        ("reason_code", .str
          (if statusCodeOf answer = 200 ∨ statusCodeOf answer = 201 then
            "archive_lineage_acknowledgement_invalid"
          else "archive_lineage_call_unconfirmed")) ]

/-- The fields of an event that name the pair. -/
def pairFields (pair : DocumentPair) : Fields :=
  [ ("source_document_id", .str pair.sourceDocumentId),
    ("target_document_id", .str pair.targetDocumentId),
    ("transition_type", .str pair.transitionType) ]

/-- A pair with the reason for its transition. -/
structure LineageRequest where
  pair : DocumentPair
  transitionReason : String
deriving DecidableEq

/-- The write of `record_archive_lineage` once the archive has answered. -/
def lineageEventCall (eventJobId : String) (request : LineageRequest) (answer : ArchiveAnswer)
    (context : CallContext) : LedgerCall :=
  let outcome := lineageOutcome request.pair answer
  .appendJobEvent eventJobId outcome.eventType (outcome.message request.pair answer)
    (pairFields request.pair ++ outcome.details request.transitionReason answer)
    (some (outcome.eventType ++ ":" ++ pairKey request.pair)) true context

end Record

section Settlement

variable (py : Runtime)

/-- `str(payload.get(name))`, unless the value is missing or empty. -/
def textOf? (payload : Fields) (name : String) : Option String :=
  match Json.lookup payload name with
  | some value => if value.truthy then some (pyStr py value) else none
  | none => none

/-- The pair that a payload names, if it names all three parts. -/
def pairOf? (payload : Fields) : Option DocumentPair := do
  let source ← textOf? py payload "source_document_id"
  let target ← textOf? py payload "target_document_id"
  let transition ← textOf? py payload "transition_type"
  return ⟨source, target, transition⟩

/-- The settlement's reading of the events: the pairs with an outcome, and the payload of the last
pending event of every pair. -/
structure LineageReading where
  recorded : List String := []
  pending : Fields := []

/-- Read one event. -/
def LineageReading.read (reading : LineageReading) (event : EventRow) : LineageReading :=
  match pairOf? py (payloadOf event) with
  | none => reading
  | some pair =>
      if event.eventType = lineageRecordedEvent ∨ event.eventType = lineageRefusedEvent then
        { reading with recorded := reading.recorded ++ [pairKey pair] }
      else if event.eventType = lineagePendingEvent then
        { reading with pending := Json.assign reading.pending (pairKey pair) event.eventPayload }
      else reading

/-- The request that a pending payload repeats. -/
def requestOf? (payload : Json) : Option LineageRequest := do
  let fields ← objectFields payload
  let pair ← pairOf? py fields
  return ⟨pair, (textOf? py fields "transition_reason").getD "lineage settlement"⟩

/-- The requests that `settle_pending_archive_lineage` makes of the archive, in order. -/
def outstandingRequests (events : List EventRow) : List LineageRequest :=
  let reading := events.foldl (LineageReading.read py) {}
  (reading.pending.filter fun entry => !decide (entry.1 ∈ reading.recorded)).filterMap
    fun entry => requestOf? py entry.2

end Settlement

section Reconciliation

/-- `substr(text, start)`: the characters from a position on, up to the first NUL. -/
def sqlSubstr (text : String) (start : Nat) : String :=
  String.ofList ((text.toList.takeWhile (· ≠ '\x00')).drop (start - 1))

/-- `substr(event_idempotency_key, length(event_type) + 2)`. -/
def pairSuffix (event : EventRow) : Option String :=
  event.eventIdempotencyKey.map fun key => sqlSubstr key (event.eventType.length + 2)

/-- The event is pending and no outcome event of the job has its suffix. -/
def outstandingEvent (events : List EventRow) (p : EventRow) : Bool :=
  p.eventType == lineagePendingEvent && p.eventIdempotencyKey.isSome &&
    !events.any fun r => r.reportJobId == p.reportJobId &&
      decide (r.eventType ∈ [lineageRecordedEvent, lineageRefusedEvent]) &&
      (pairSuffix r).isSome && pairSuffix r == pairSuffix p

/-- The earliest of the stored times. -/
def earliest (t : Timestamp) (times : List Timestamp) : Timestamp :=
  times.foldl (fun a b => if b.lt a then b else a) t

/-- `PendingArchiveLineage`. -/
structure PendingArchiveLineage where
  jobId : String
  oldestCreatedAt : Timestamp

/-- One group of the query. -/
def pendingGroup (outstanding : List EventRow) (jobId : String) : Option PendingArchiveLineage :=
  match outstanding.filter fun e => e.reportJobId == jobId with
  | [] => none
  | e :: es => some ⟨jobId, earliest e.createdAt (es.map (·.createdAt))⟩

/-- `list_pending_archive_lineage`. -/
def listPendingArchiveLineage (s : Ledger) (limit : Int) : List PendingArchiveLineage :=
  let outstanding := s.events.filter (outstandingEvent s.events)
  let groups := (outstanding.map (·.reportJobId)).dedup.filterMap (pendingGroup outstanding)
  (groups.insertionSort fun a b => a.oldestCreatedAt.le b.oldestCreatedAt = true).take
    (max 0 limit).toNat

end Reconciliation

end LotusReport.Corrections
