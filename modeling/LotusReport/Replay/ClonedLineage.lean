import LotusReport.Encoding.Updates
import LotusReport.Snapshots.Store

/-!
# The lineage of cloned snapshots

A replay of a retained snapshot captures nothing: it writes the snapshot of its
source under a new job, with a lineage summary that counts no calls and names
the snapshot that holds the evidence. The source may be such a clone itself, so
what a summary names has to stay the same along every chain of replays.
-/

namespace LotusReport.Replay

open Encoding Json Snapshots

section Records

/-- A dictionary as `json.loads` reads it from its canonical text. -/
def storedFields (fields : Fields) : Fields :=
  sortFields (canonicalFields fields)

/-- A snapshot as the store keeps it. Both of its identifiers were generated. -/
structure RetainedSnapshot where
  snapshotId : String
  written : ReportInputSnapshotCreateRequest
  generated : snapshotId ≠ "" ∧ written.reportJobId ≠ ""

/-- `ReportInputSnapshotRecord.lineage_summary`. -/
def RetainedSnapshot.lineageSummary (s : RetainedSnapshot) : Fields :=
  storedFields s.written.lineageSummary

end Records

section Cloning

variable (py : Runtime)

/-- `summary.get(name) or other`, as a text. -/
def textOr (summary : Fields) (name other : String) : String :=
  match lookup summary name with
  | some value => if value.truthy then pyStr py value else other
  | none => other

/-- The summary is that of a clone. -/
def MarkedAsCloned (summary : Fields) : Prop :=
  lookup summary "upstream_evidence" = some (.str "cloned_from_source_snapshot")

instance (summary : Fields) : Decidable (MarkedAsCloned summary) :=
  inferInstanceAs (Decidable (_ = _))

/-- The counters of the calls that were made for a snapshot. -/
def callCounters : List String :=
  ["call_count", "partial_call_count", "unavailable_call_count", "not_supported_call_count",
    "redacted_call_count"]

/-- The fields in which a clone names the evidence of its source. -/
def evidenceFields (sourceCallCount : Json) (reportJobId snapshotId : String) :
    Fields :=
  [ ("upstream_evidence", .str "cloned_from_source_snapshot"),
    ("source_call_count", sourceCallCount), ("cloned_from_report_job_id", .str reportJobId),
    ("cloned_from_snapshot_id", .str snapshotId) ]

/-- The fields that a clone sets. -/
def clonedFields (sourceCallCount : Json) (reportJobId snapshotId : String) :
    Fields :=
  callCounters.map (fun counter => (counter, .int 0)) ++
    evidenceFields sourceCallCount reportJobId snapshotId

/-- `_cloned_lineage_summary`. -/
def clonedLineageSummary (source : RetainedSnapshot) (sourceJobId : String) :
    Fields :=
  let sourceSummary := source.lineageSummary
  if MarkedAsCloned sourceSummary then
    -- a clone has no call rows of its own
    update sourceSummary (clonedFields ((lookup sourceSummary "source_call_count").getD (.int 0))
      (textOr py sourceSummary "cloned_from_report_job_id" sourceJobId)
      (textOr py sourceSummary "cloned_from_snapshot_id" source.snapshotId))
  else
    update sourceSummary (clonedFields ((lookup sourceSummary "call_count").getD (.int 0))
      sourceJobId source.snapshotId)

/-- One replay: its job, the time and the caller of the write, and the identifier that the store
generates. -/
structure SnapshotReplay where
  jobId : String
  now : Instant
  correlationId : String
  traceId : String
  snapshotId : String
  generated : snapshotId ≠ "" ∧ jobId ≠ ""

/-- The request that `_clone_retained_snapshot` sends; the source job is the one that owns the
source snapshot, and the lifecycle is the one that the source row has stored. -/
def cloneRequest (source : RetainedSnapshot) (r : SnapshotReplay) :
    ReportInputSnapshotCreateRequest :=
  { reportJobId := r.jobId
    reportType := source.written.reportType
    reportDataContractVersion := source.written.reportDataContractVersion
    portfolioScope := storedFields source.written.portfolioScope
    asOfDate := source.written.asOfDate
    snapshotPayload := storedFields source.written.snapshotPayload
    snapshotStorageRef := textOrNone source.written.snapshotStorageRef
    reportRevisionId := textOrNone source.written.reportRevisionId
    seriesDigest := textOrNone source.written.seriesDigest
    sourceRevisionDigest := textOrNone source.written.sourceRevisionDigest
    factualContentDigest := textOrNone source.written.factualContentDigest
    factualBoundaryVersion := textOrNone source.written.factualBoundaryVersion
    sourceRevisionVector := source.written.sourceRevisionVector.map storedFields
    sourceCutCoherence := source.written.sourceCutCoherence.map storedFields
    lifecycle := source.written.lifecycle.map storedFields
    supportabilityStatus := source.written.supportabilityStatus
    completenessStatus := source.written.completenessStatus
    lineageSummary := clonedLineageSummary py source source.written.reportJobId
    capturedAt := r.now
    correlationId := r.correlationId
    traceId := r.traceId }

/-- The snapshot that `_clone_retained_snapshot` leaves. -/
def clonedSnapshot (source : RetainedSnapshot) (r : SnapshotReplay) : RetainedSnapshot where
  snapshotId := r.snapshotId
  written := cloneRequest py source r
  generated := r.generated

/-- The last snapshot of a chain of replays, each of the snapshot that the one before it left. -/
def replayed (root : RetainedSnapshot) (replays : List SnapshotReplay) : RetainedSnapshot :=
  replays.foldl (clonedSnapshot py) root

end Cloning

section Chains

variable {py : Runtime} {root source : RetainedSnapshot} {summary : Fields}
  {name : String}

/-- The names of the fields that a clone sets. -/
def clonedNames : List String :=
  callCounters ++ ["upstream_evidence", "source_call_count", "cloned_from_report_job_id",
    "cloned_from_snapshot_id"]

/-- The summary names a snapshot as its evidence, and differs from that of the snapshot in the
fields of a clone only. -/
structure NamesEvidence (root : RetainedSnapshot) (summary : Fields) : Prop where
  marked : MarkedAsCloned summary
  snapshot : lookup summary "cloned_from_snapshot_id" = some (.str root.snapshotId)
  job : lookup summary "cloned_from_report_job_id" = some (.str root.written.reportJobId)
  sourceCalls : lookup summary "source_call_count" =
    some ((lookup root.lineageSummary "call_count").getD (.int 0))
  counters : ∀ counter ∈ callCounters, lookup summary counter = some (.int 0)
  others : ∀ name, name ∉ clonedNames → lookup summary name = lookup root.lineageSummary name

theorem lookup_storedFields (fields : Fields) (name : String) :
    lookup (storedFields fields) name = (lookup fields name).map canonical := by
  rw [storedFields, lookup_sortFields, lookup_canonicalFields]

/-- What was read from the store is written and read again as it is. -/
theorem canonical_lineageSummary (s : RetainedSnapshot) (name : String) :
    (lookup s.lineageSummary name).map canonical = lookup s.lineageSummary name := by
  rw [RetainedSnapshot.lineageSummary, lookup_storedFields, Option.map_map]
  congr 1
  funext value
  exact canonical_canonical value

theorem distinct_clonedFields (sourceCallCount : Json) (reportJobId snapshotId : String) :
    Distinct (clonedFields sourceCallCount reportJobId snapshotId) := by
  show clonedNames.Nodup
  decide

/-- The fields of a clone over those of a source that agrees with the root elsewhere. -/
theorem namesEvidence_update
    (h : ∀ name, name ∉ clonedNames → lookup summary name = lookup root.lineageSummary name) :
    NamesEvidence root (update summary (clonedFields
      ((lookup root.lineageSummary "call_count").getD (.int 0)) root.written.reportJobId
        root.snapshotId)) := by
  have hread : ∀ name, lookup (update summary _) name = _ := fun _ =>
    lookup_update (distinct_clonedFields ((lookup root.lineageSummary "call_count").getD (.int 0))
      root.written.reportJobId root.snapshotId)
  constructor
  · exact hread "upstream_evidence"
  · exact hread "cloned_from_snapshot_id"
  · exact hread "cloned_from_report_job_id"
  · exact hread "source_call_count"
  · intro counter hcounter
    rw [hread]
    simp only [callCounters, List.mem_cons, List.not_mem_nil, or_false] at hcounter
    rcases hcounter with rfl | rfl | rfl | rfl | rfl <;> rfl
  · intro name hname
    rw [lookup_update_of_notMem hname]
    exact h name hname

/-- The summary of a captured snapshot's first clone. -/
theorem namesEvidence_of_captured (h : ¬ MarkedAsCloned root.lineageSummary) :
    NamesEvidence root (clonedLineageSummary py root root.written.reportJobId) := by
  unfold clonedLineageSummary
  rw [if_neg h]
  exact namesEvidence_update fun _ _ => rfl

theorem textOr_of_lookup {other text : String} (h : lookup summary name = some (.str text))
    (hne : text ≠ "") : textOr py summary name other = text := by
  unfold textOr
  rw [h]
  exact if_pos (by simpa [truthy] using hne)

theorem NamesEvidence.clone (h : NamesEvidence root source.lineageSummary) :
    NamesEvidence root (clonedLineageSummary py source source.written.reportJobId) := by
  unfold clonedLineageSummary
  rw [if_pos h.marked, textOr_of_lookup h.job root.generated.2,
    textOr_of_lookup h.snapshot root.generated.1, h.sourceCalls]
  exact namesEvidence_update h.others

theorem NamesEvidence.stored (h : NamesEvidence root summary) :
    NamesEvidence root (storedFields summary) := by
  constructor
  · rw [MarkedAsCloned, lookup_storedFields, h.marked]
    rfl
  · rw [lookup_storedFields, h.snapshot]
    rfl
  · rw [lookup_storedFields, h.job]
    rfl
  · have hcount : canonical ((lookup root.lineageSummary "call_count").getD (.int 0)) =
        (lookup root.lineageSummary "call_count").getD (.int 0) := by
      have hstored := canonical_lineageSummary root "call_count"
      cases hcalls : lookup root.lineageSummary "call_count" with
      | none => rfl
      | some value =>
          rw [hcalls] at hstored
          exact Option.some.inj hstored
    rw [lookup_storedFields, h.sourceCalls, Option.map_some, hcount]
  · intro counter hcounter
    rw [lookup_storedFields, h.counters counter hcounter]
    rfl
  · intro name hname
    rw [lookup_storedFields, h.others name hname, canonical_lineageSummary]

/-- What a clone names stays named along a chain of replays. -/
theorem NamesEvidence.replayed (h : NamesEvidence root source.lineageSummary)
    (replays : List SnapshotReplay) :
    NamesEvidence root (replayed py source replays).lineageSummary := by
  induction replays generalizing source with
  | nil => exact h
  | cons replay replays ih =>
      have hclone : NamesEvidence root (clonedSnapshot py source replay).lineageSummary :=
        h.clone.stored
      exact ih hclone

/-- At the end of every chain of replays of a captured snapshot, the summary of the next clone names
the captured snapshot and its job, carries its number of calls, counts no calls of its own, and
leaves every other field as the captured snapshot has it. -/
theorem clone_chain_names_evidence (py : Runtime) (root : RetainedSnapshot)
    (h : ¬ MarkedAsCloned root.lineageSummary) (replays : List SnapshotReplay) :
    NamesEvidence root (clonedLineageSummary py (replayed py root replays)
      (replayed py root replays).written.reportJobId) := by
  cases replays with
  | nil => exact namesEvidence_of_captured h
  | cons first replays =>
      have hfirst : NamesEvidence root (clonedSnapshot py root first).lineageSummary :=
        (namesEvidence_of_captured h).stored
      exact (hfirst.replayed replays).clone

/-- A captured snapshot with two calls. -/
def sampleRoot : RetainedSnapshot where
  snapshotId := "rsnap_1"
  written := {
    reportJobId := "rjob_1"
    reportType := "portfolio_review"
    reportDataContractVersion := "portfolio_review.v1"
    portfolioScope := []
    asOfDate := "2026-04-22"
    snapshotPayload := []
    supportabilityStatus := .complete
    completenessStatus := .complete
    lineageSummary := [("source_services", Json.ofTexts ["lotus-core"]), ("call_count", .int 2)]
    capturedAt := 0
    correlationId := "corr-1"
    traceId := "trace-1" }
  generated := by decide

/-- Two replays, of the captured snapshot and of its clone. -/
def sampleReplays : List SnapshotReplay :=
  [⟨"rjob_2", 1, "corr-2", "trace-2", "rsnap_2", by decide⟩,
    ⟨"rjob_3", 2, "corr-3", "trace-3", "rsnap_3", by decide⟩]

theorem clone_chain_names_evidence_twice : NamesEvidence sampleRoot
    (clonedLineageSummary .verbatim (replayed .verbatim sampleRoot sampleReplays) "rjob_3") :=
  clone_chain_names_evidence .verbatim sampleRoot (by decide) sampleReplays

end Chains

end LotusReport.Replay
