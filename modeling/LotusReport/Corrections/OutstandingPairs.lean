import LotusReport.Corrections.ArchiveLineage
import LotusReport.Encoding.Fields
import Mathlib.Data.Set.Function

/-!
# The two notions of an outstanding linkage

The settlement calls a pair outstanding when the text of the pair, rebuilt from
the payload, has a pending event and no outcome. The reconciliation compares
the stored keys, from which trailing white space was stripped. The two agree,
and neither confuses two pairs of a job, exactly when the pairs of the job
have different stored texts.
-/

namespace LotusReport.Corrections

open Encoding Fallible Relational StateMachine Jobs Replay JobFile

section Statements

/-- A call of `record_archive_lineage` with the archive's answer. -/
structure LineageCall where
  eventJobId : String
  request : LineageRequest
  answer : ArchiveAnswer
  context : CallContext

/-- What the archive's answer says of the pair of the call. -/
def LineageCall.outcome (call : LineageCall) : LineageOutcome :=
  lineageOutcome call.request.pair call.answer

/-- The write of the call. -/
def LineageCall.write (call : LineageCall) : Call :=
  .ledger (lineageEventCall call.eventJobId call.request call.answer call.context)

/-- The ledger after calls of `record_archive_lineage`. -/
def afterLineage (d : Deployment) (s : Ledger) (calls : List LineageCall) : Ledger :=
  run (fun s call => s.step d (LineageCall.write call)) s calls

/-- The types of the lineage events. -/
def lineageEventTypes : List String :=
  [lineageRecordedEvent, lineageRefusedEvent, lineagePendingEvent]

/-- No event of the ledger is a lineage event or carries the key of one. -/
def Unlinked (s : Ledger) : Prop :=
  ∀ e ∈ s.events, ∀ eventType ∈ lineageEventTypes, e.eventType ≠ eventType ∧
    e.eventIdempotencyKey.any (startsWith · (eventType ++ ":")) = false

instance (s : Ledger) : Decidable (Unlinked s) :=
  inferInstanceAs (Decidable (∀ e ∈ s.events, ∀ eventType ∈ lineageEventTypes, _ ∧ _))

/-- The pairs for which the settlement of a job would contact the archive. -/
def attemptedPairs (py : Runtime) (s : Ledger) (jobId : String) : List DocumentPair :=
  (outstandingRequests py (listStatusEvents s jobId)).map (·.pair)

/-- The text of a pair as the query reads it: without trailing white space, up to a NUL. -/
def storedText (pair : DocumentPair) : String := sqlSubstr (rstrip (pairKey pair)) 1

/-- After the calls the query and the settlement have one notion of an outstanding linkage. -/
structure OneNotion (d : Deployment) (s : Ledger) (calls : List LineageCall) : Prop where
  /-- The query returns the jobs for which the settlement would contact the archive. -/
  listed : ∀ limit : Int, (afterLineage d s calls).events.length ≤ limit → ∀ jobId,
    jobId ∈ (listPendingArchiveLineage (afterLineage d s calls) limit).map (·.jobId) ↔
      attemptedPairs d.toRuntime (afterLineage d s calls) jobId ≠ []
  /-- A pair with an outcome is not attempted again. -/
  settled : ∀ call ∈ calls, call.outcome.final = true →
    call.request.pair ∉ attemptedPairs d.toRuntime (afterLineage d s calls) call.eventJobId
  /-- A pair that is pending without an outcome of its own is attempted. -/
  attempted : ∀ call ∈ calls, (s.file? call.eventJobId).isSome = true →
    call.outcome.final = false →
    (∀ other ∈ calls, other.eventJobId = call.eventJobId →
      other.request.pair = call.request.pair → other.outcome.final = false) →
    call.request.pair ∈ attemptedPairs d.toRuntime (afterLineage d s calls) call.eventJobId

end Statements

section Reading

variable {py : Runtime} {events : List EventRow} {reading : LineageReading} {key : String}
  {payload : Json}

/-- The event names the pair under one of the types. -/
def Names (py : Runtime) (types : List String) (e : EventRow) (pair : DocumentPair) : Prop :=
  e.eventType ∈ types ∧ pairOf? py (payloadOf e) = some pair

/-- The types of an outcome. -/
abbrev finalTypes : List String := [lineageRecordedEvent, lineageRefusedEvent]

theorem pending_not_final : lineagePendingEvent ∉ finalTypes := by decide

theorem LineageReading.read_eq (reading : LineageReading) (e : EventRow) :
    (∃ pair, Names py finalTypes e pair ∧
        reading.read py e = { reading with recorded := reading.recorded ++ [pairKey pair] }) ∨
      (∃ pair, Names py [lineagePendingEvent] e pair ∧ reading.read py e =
        { reading with pending := Json.assign reading.pending (pairKey pair) e.eventPayload }) ∨
      reading.read py e = reading ∧ ∀ pair, ¬ Names py finalTypes e pair ∧
        ¬ Names py [lineagePendingEvent] e pair := by
  unfold LineageReading.read
  cases hpair : pairOf? py (payloadOf e) with
  | none =>
      refine Or.inr (Or.inr ⟨rfl, fun pair => ⟨?_, ?_⟩⟩)
      · rintro ⟨-, hother⟩
        rw [hpair] at hother
        cases hother
      · rintro ⟨-, hother⟩
        rw [hpair] at hother
        cases hother
  | some pair =>
      dsimp only
      split
      · rename_i hfinal
        exact Or.inl ⟨pair, ⟨by simpa [finalTypes] using hfinal, hpair⟩, rfl⟩
      · rename_i hfinal
        split
        · rename_i hpending
          exact Or.inr (Or.inl ⟨pair, ⟨by simpa using hpending, hpair⟩, rfl⟩)
        · rename_i hpending
          refine Or.inr (Or.inr ⟨rfl, fun other => ⟨fun h => ?_, fun h => ?_⟩⟩)
          · exact hfinal (by simpa [finalTypes] using h.1)
          · exact hpending (by simpa using h.1)

/-- The texts that the settlement counts as settled. -/
theorem mem_recorded (reading : LineageReading) :
    key ∈ (events.foldl (LineageReading.read py) reading).recorded ↔
    key ∈ reading.recorded ∨ ∃ e ∈ events, ∃ pair, Names py finalTypes e pair ∧ pairKey pair = key := by
  induction events generalizing reading with
  | nil => simp
  | cons e events ih =>
      rw [List.foldl_cons, ih, List.exists_mem_cons_iff, ← or_assoc]
      apply or_congr_left
      rcases reading.read_eq e with ⟨pair, hnames, hread⟩ | ⟨pair, hnames, hread⟩ | ⟨hread, hnone⟩
      · rw [hread, List.mem_append, List.mem_singleton]
        apply or_congr_right
        constructor
        · rintro rfl
          exact ⟨pair, hnames, rfl⟩
        · rintro ⟨other, hother, rfl⟩
          rw [Option.some.inj (hnames.2.symm.trans hother.2)]
      · rw [hread, or_iff_left]
        rintro ⟨other, hother, -⟩
        exact pending_not_final (List.mem_singleton.mp hnames.1 ▸ hother.1)
      · rw [hread, or_iff_left]
        rintro ⟨other, hother, -⟩
        exact (hnone other).1 hother

theorem mem_pending (h : (key, payload) ∈ (events.foldl (LineageReading.read py) reading).pending) :
    (key, payload) ∈ reading.pending ∨ ∃ e ∈ events, ∃ pair,
      Names py [lineagePendingEvent] e pair ∧ pairKey pair = key ∧ e.eventPayload = payload := by
  induction events generalizing reading with
  | nil => exact Or.inl h
  | cons e events ih =>
      rcases ih h with hfirst | ⟨e', he', hfound⟩
      · rcases reading.read_eq e with ⟨pair, -, hread⟩ | ⟨pair, hnames, hread⟩ | ⟨hread, -⟩
        · rw [hread] at hfirst
          exact Or.inl hfirst
        · rw [hread] at hfirst
          rcases mem_of_mem_assign hfirst with hold | hnew
          · exact Or.inl hold
          · obtain ⟨rfl, rfl⟩ := Prod.mk.inj hnew
            exact Or.inr ⟨e, List.mem_cons_self, pair, hnames, rfl, rfl⟩
        · rw [hread] at hfirst
          exact Or.inl hfirst
      · exact Or.inr ⟨e', List.mem_cons_of_mem e he', hfound⟩

theorem name_of_assign {fields : Fields} {name : String} (value : Json)
    (h : key ∈ fields.map Prod.fst ∨ key = name) :
    key ∈ (Json.assign fields name value).map Prod.fst := by
  rw [names_assign]
  split
  · rename_i hname
    rcases h with h | rfl
    · exact h
    · exact hname
  · simpa using h

/-- The text of a pending event stays among the pending texts. -/
theorem name_of_pending (reading : LineageReading)
    (h : key ∈ reading.pending.map Prod.fst ∨ ∃ e ∈ events, ∃ pair,
      Names py [lineagePendingEvent] e pair ∧ pairKey pair = key) :
    key ∈ (events.foldl (LineageReading.read py) reading).pending.map Prod.fst := by
  induction events generalizing reading with
  | nil =>
      rcases h with h | ⟨e, he, -⟩
      · exact h
      · cases he
  | cons e events ih =>
      apply ih
      rcases reading.read_eq e with ⟨pair, hfinal, hread⟩ | ⟨pair, hnames, hread⟩ | ⟨hread, hnone⟩
      · rw [hread]
        rcases h with h | ⟨e', he', other, hother, hkey⟩
        · exact Or.inl h
        · rcases List.mem_cons.mp he' with rfl | he'
          · exact absurd (List.mem_singleton.mp hother.1 ▸ hfinal.1) pending_not_final
          · exact Or.inr ⟨e', he', other, hother, hkey⟩
      · rw [hread]
        rcases h with h | ⟨e', he', other, hother, rfl⟩
        · exact Or.inl (name_of_assign _ (Or.inl h))
        · rcases List.mem_cons.mp he' with rfl | he'
          · rw [Option.some.inj (hother.2.symm.trans hnames.2)]
            exact Or.inl (name_of_assign _ (Or.inr rfl))
          · exact Or.inr ⟨e', he', other, hother, rfl⟩
      · rw [hread]
        rcases h with h | ⟨e', he', other, hother, hkey⟩
        · exact Or.inl h
        · rcases List.mem_cons.mp he' with rfl | he'
          · exact absurd hother (hnone other).2
          · exact Or.inr ⟨e', he', other, hother, hkey⟩

theorem requestOf?_of_names {types : List String} {e : EventRow} {pair : DocumentPair}
    (h : Names py types e pair) : ∃ request, requestOf? py e.eventPayload = some request ∧
      request.pair = pair := by
  have hpair := h.2
  unfold payloadOf at hpair
  cases hfields : objectFields e.eventPayload with
  | none =>
      rw [hfields] at hpair
      cases hpair
  | some fields =>
      rw [hfields, Option.getD_some] at hpair
      simp [requestOf?, hfields, hpair]

/-- The settlement would contact the archive for the pair of the last pending event with a text, if
no outcome has that text. -/
theorem mem_outstandingRequests {request : LineageRequest}
    (h : request ∈ outstandingRequests py events) :
    (∃ e ∈ events, Names py [lineagePendingEvent] e request.pair) ∧
      ∀ e ∈ events, ∀ pair, Names py finalTypes e pair → pairKey pair ≠ pairKey request.pair := by
  obtain ⟨⟨key, payload⟩, hentry, hrequest⟩ := List.mem_filterMap.mp h
  obtain ⟨hpending, hopen⟩ := List.mem_filter.mp hentry
  rcases mem_pending hpending with hnil | ⟨e, he, pair, hnames, rfl, rfl⟩
  · cases hnil
  · obtain ⟨other, hother, rfl⟩ := requestOf?_of_names hnames
    rw [hother] at hrequest
    cases hrequest
    refine ⟨⟨e, he, hnames⟩, fun e' he' pair' hfinal hkey => ?_⟩
    have hrecorded := (mem_recorded {}).mpr (Or.inr ⟨e', he', pair', hfinal, hkey⟩)
    simp [hrecorded] at hopen

/-- A pending text without an outcome leads to a request for a pair with that text. -/
theorem exists_outstandingRequest {e : EventRow} {pair : DocumentPair} (he : e ∈ events)
    (hnames : Names py [lineagePendingEvent] e pair)
    (hopen : ∀ e' ∈ events, ∀ other, Names py finalTypes e' other → pairKey other ≠ pairKey pair) :
    ∃ request ∈ outstandingRequests py events, pairKey request.pair = pairKey pair := by
  obtain ⟨⟨key, payload⟩, hentry, rfl⟩ := List.mem_map.mp
    (name_of_pending {} (Or.inr ⟨e, he, pair, hnames, rfl⟩))
  rcases mem_pending hentry with hnil | ⟨e', -, other, hother, hkey, rfl⟩
  · cases hnil
  · obtain ⟨request, hrequest, rfl⟩ := requestOf?_of_names hother
    refine ⟨request, List.mem_filterMap.mpr ⟨_, List.mem_filter.mpr ⟨hentry, ?_⟩, hrequest⟩, hkey⟩
    have hnot : pairKey pair ∉ (events.foldl (LineageReading.read py) {}).recorded := by
      rw [mem_recorded]
      rintro (hnil | ⟨e'', he'', final, hfinal, heq⟩)
      · cases hnil
      · exact hopen e'' he'' final hfinal heq
    simpa using hnot

end Reading

section Query

variable {s : Ledger} {jobId : String} {e : EventRow} {events : List EventRow}

theorem outstandingEvent_iff : outstandingEvent events e = true ↔
    e.eventType = lineagePendingEvent ∧ e.eventIdempotencyKey.isSome = true ∧
      ∀ r ∈ events, r.reportJobId = e.reportJobId → r.eventType ∈ finalTypes →
        (pairSuffix r).isSome = true → pairSuffix r ≠ pairSuffix e := by
  simp only [outstandingEvent, Bool.and_eq_true, beq_iff_eq, Bool.not_eq_true', and_assoc]
  refine and_congr_right fun _ => and_congr_right fun _ => ?_
  rw [← Bool.not_eq_true, List.any_eq_true]
  simp only [Bool.and_eq_true, beq_iff_eq, decide_eq_true_eq, not_exists, not_and, and_imp,
    finalTypes, ne_eq]

theorem jobId_of_pendingGroup {group : PendingArchiveLineage}
    (h : pendingGroup events jobId = some group) : group.jobId = jobId := by
  unfold pendingGroup at h
  split at h
  · cases h
  · cases h
    rfl

theorem exists_pendingGroup (he : e ∈ events) : ∃ group,
    pendingGroup events e.reportJobId = some group := by
  unfold pendingGroup
  split
  · rename_i hnil
    have hmem : e ∈ events.filter fun x => x.reportJobId == e.reportJobId :=
      List.mem_filter.mpr ⟨he, beq_self_eq_true _⟩
    rw [hnil] at hmem
    cases hmem
  · exact ⟨_, rfl⟩

/-- With a limit that cuts nothing off, the query returns the jobs with an outstanding event. -/
theorem mem_listPendingArchiveLineage {limit : Int} (hlimit : s.events.length ≤ limit) :
    jobId ∈ (listPendingArchiveLineage s limit).map (·.jobId) ↔
      ∃ e ∈ s.events, outstandingEvent s.events e = true ∧ e.reportJobId = jobId := by
  have hwhole : listPendingArchiveLineage s limit =
      (((s.events.filter (outstandingEvent s.events)).map (·.reportJobId)).dedup.filterMap
        (pendingGroup (s.events.filter (outstandingEvent s.events)))).insertionSort
          fun a b => a.oldestCreatedAt.le b.oldestCreatedAt = true := by
    apply List.take_of_length_le
    rw [List.length_insertionSort]
    calc
      _ ≤ ((s.events.filter (outstandingEvent s.events)).map (·.reportJobId)).dedup.length :=
        List.length_filterMap_le _ _
      _ ≤ ((s.events.filter (outstandingEvent s.events)).map (·.reportJobId)).length :=
        (List.dedup_sublist _).length_le
      _ ≤ s.events.length := by
        rw [List.length_map]
        exact List.length_filter_le _ _
      _ ≤ (max 0 limit).toNat := by omega
  rw [hwhole]
  simp only [List.mem_map, List.mem_insertionSort, List.mem_filterMap, List.mem_dedup]
  constructor
  · rintro ⟨group, ⟨k, ⟨e, he, rfl⟩, hgroup⟩, rfl⟩
    obtain ⟨hevent, hout⟩ := List.mem_filter.mp he
    exact ⟨e, hevent, hout, (jobId_of_pendingGroup hgroup).symm⟩
  · rintro ⟨e, he, hout, rfl⟩
    have hmem := List.mem_filter.mpr ⟨he, hout⟩
    obtain ⟨group, hgroup⟩ := exists_pendingGroup hmem
    exact ⟨group, ⟨e.reportJobId, ⟨e, hmem, rfl⟩, hgroup⟩, jobId_of_pendingGroup hgroup⟩

end Query

section Keys

variable {outcome : LineageOutcome} {pair : DocumentPair} {e : EventRow}

/-- The key under which an outcome of a pair is written. -/
def lineageKey (outcome : LineageOutcome) (pair : DocumentPair) : String :=
  outcome.eventType ++ ":" ++ pairKey pair

theorem eventType_mem (outcome : LineageOutcome) : outcome.eventType ∈ lineageEventTypes := by
  cases outcome <;> simp [LineageOutcome.eventType, lineageEventTypes]

/-- What precedes the text of the pair in a key neither starts nor ends with white space. -/
theorem keyStart_plain : ∀ eventType ∈ lineageEventTypes, (eventType ++ ":").toList ≠ [] ∧
    (eventType ++ ":").toList.dropWhile isSpace = (eventType ++ ":").toList ∧
    (eventType ++ ":").toList.rdropWhile isSpace = (eventType ++ ":").toList ∧
    ∀ c ∈ (eventType ++ ":").toList, c ≠ '\x00' := by
  have hplain : ∀ eventType ∈ lineageEventTypes, (eventType ++ ":").toList ≠ [] ∧
      (eventType ++ ":").toList.dropWhile isSpace = (eventType ++ ":").toList ∧
      (eventType ++ ":").toList.rdropWhile isSpace = (eventType ++ ":").toList ∧
      (eventType ++ ":").toList.contains '\x00' = false := by decide +kernel
  intro eventType htype
  obtain ⟨hne, hstart, hend, hnul⟩ := hplain eventType htype
  refine ⟨hne, hstart, hend, fun c hc hzero => ?_⟩
  rw [hzero, ← List.contains_iff_mem, hnul] at hc
  cases hc

theorem strip_lineageKey (outcome : LineageOutcome) (pair : DocumentPair) :
    strip (lineageKey outcome pair) = outcome.eventType ++ ":" ++ rstrip (pairKey pair) := by
  obtain ⟨hne, hstart, hend, -⟩ := keyStart_plain _ (eventType_mem outcome)
  exact strip_append hne hstart hend

theorem normalized_lineageKey (outcome : LineageOutcome) (pair : DocumentPair) :
    normalizedEventIdempotencyKey (some (lineageKey outcome pair)) =
      some (outcome.eventType ++ ":" ++ rstrip (pairKey pair)) := by
  have hne : outcome.eventType ++ ":" ++ rstrip (pairKey pair) ≠ "" := by
    intro hempty
    have hchars := congrArg String.toList hempty
    rw [String.toList_append] at hchars
    exact (keyStart_plain _ (eventType_mem outcome)).1 (List.append_eq_nil_iff.mp hchars).1
  simp only [normalizedEventIdempotencyKey, strip_lineageKey, if_neg hne]

theorem sqlSubstr_append {s t : String} {start : Nat} (hplain : ∀ c ∈ s.toList, c ≠ '\x00')
    (hstart : start = s.length + 1) : sqlSubstr (s ++ t) start = sqlSubstr t 1 := by
  unfold sqlSubstr
  rw [String.toList_append, List.takeWhile_append_of_pos (by simpa using hplain), hstart]
  simp [← String.length_toList]

theorem pairSuffix_eq (htype : e.eventType = outcome.eventType)
    (hkey : e.eventIdempotencyKey = some (outcome.eventType ++ ":" ++ rstrip (pairKey pair))) :
    pairSuffix e = some (storedText pair) := by
  unfold pairSuffix storedText
  rw [hkey, htype, Option.map_some, sqlSubstr_append]
  · exact (keyStart_plain _ (eventType_mem outcome)).2.2.2
  · rw [String.length_append]
    rfl

/-- The keys of two outcomes start with their types. -/
theorem eventType_of_key {other : LineageOutcome} {x y : String}
    (h : outcome.eventType ++ ":" ++ x = other.eventType ++ ":" ++ y) :
    outcome.eventType = other.eventType ∧ x = y := by
  have hchars := congrArg String.toList h
  simp only [String.toList_append] at hchars
  cases outcome <;> cases other <;>
    simp_all [LineageOutcome.eventType, lineageRecordedEvent, lineageRefusedEvent,
      lineagePendingEvent]

theorem storedText_eq_of_rstrip {p q : DocumentPair}
    (h : pairKey p = rstrip (pairKey q)) : storedText p = storedText q := by
  have hstrip : rstrip (pairKey p) = rstrip (pairKey q) := by
    rw [h]
    simp [rstrip, List.rdropWhile_idempotent]
  unfold storedText
  rw [hstrip]

end Keys

section Events

variable {d : Deployment} {py : Runtime} {s : Ledger} {call : LineageCall} {f : JobFile}
  {e : EventRow}

/-- The event is the one that the call writes. -/
structure EventOf (py : Runtime) (call : LineageCall) (e : EventRow) : Prop where
  job : e.reportJobId = call.eventJobId
  type : e.eventType = call.outcome.eventType
  pair : pairOf? py (payloadOf e) = some call.request.pair
  key : e.eventIdempotencyKey =
    some (call.outcome.eventType ++ ":" ++ rstrip (pairKey call.request.pair))

/-- The payload of the event of a call. -/
def LineageCall.payload (call : LineageCall) : Fields :=
  pairFields call.request.pair ++ call.outcome.details call.request.transitionReason call.answer

theorem lookup_setDefault {payload : Fields} {name key : String} {j value : Json}
    (h : Json.lookup payload name = some j) :
    Json.lookup (setDefault payload key value) name = some j := by
  unfold setDefault
  split
  · exact h
  · unfold Json.lookup at h ⊢
    rw [List.find?_append]
    obtain ⟨field, hfield, rfl⟩ := Option.map_eq_some_iff.mp h
    simp [hfield]

theorem lookup_completedPayload {eventType name : String} {fromStatus : Option ReportJobStatus}
    {toStatus : ReportJobStatus} {payload : Fields} {j : Json}
    (h : Json.lookup payload name = some j) :
    Json.lookup (completedPayload eventType fromStatus toStatus payload) name = some j :=
  lookup_setDefault (lookup_setDefault (lookup_setDefault h))

theorem buildReportStatusEventContract_lineage (call : LineageCall)
    (fromStatus : Option ReportJobStatus) (toStatus : ReportJobStatus) :
    buildReportStatusEventContract call.outcome.eventType fromStatus toStatus call.payload
        (some (lineageKey call.outcome call.request.pair)) =
      .ok
        { schemaVersion := reportStatusEventSchemaVersion
          eventFamily := reportStatusEventFamily call.outcome.eventType
          eventPayload := completedPayload call.outcome.eventType fromStatus toStatus call.payload
          eventIdempotencyKey := some (call.outcome.eventType ++ ":" ++
            rstrip (pairKey call.request.pair)) } := by
  have hsafe : ((completedPayload call.outcome.eventType fromStatus toStatus call.payload).map
      Prod.fst).filter (fun key => key ∈ sensitivePayloadKeys) = [] := by
    unfold LineageCall.payload
    cases call.outcome <;>
      simp [completedPayload, setDefault, pairFields, LineageOutcome.details, Json.lookup,
        sensitivePayloadKeys]
  have hdeclared : ∀ eventType ∈ lineageEventTypes,
      requiredPayloadFieldsByEventType.find? (fun e => e.1 == eventType) = none := by decide
  have hcomplete : missingPayloadFields call.outcome.eventType
      (completedPayload call.outcome.eventType fromStatus toStatus call.payload) = [] := by
    simp [missingPayloadFields, hdeclared _ (eventType_mem call.outcome)]
  simp only [buildReportStatusEventContract, hsafe, hcomplete, normalized_lineageKey]
  rfl

theorem pairOf?_payload (hnamed : call.request.pair.Named) {fields : Fields}
    (hfields : ∀ name j, Json.lookup call.payload name = some j →
      Json.lookup fields name = some (Json.canonical j)) :
    pairOf? py fields = some call.request.pair := by
  obtain ⟨hsource, htarget, htype⟩ := hnamed
  have htext : ∀ name text, Json.lookup call.payload name = some (.str text) → text ≠ "" →
      textOf? py fields name = some text := by
    intro name text hlookup hne
    simp [textOf?, hfields name _ hlookup, Json.canonical, Json.truthy, pyStr, hne]
  have h₁ := htext "source_document_id" call.request.pair.sourceDocumentId
    (by simp [LineageCall.payload, pairFields]) hsource
  have h₂ := htext "target_document_id" call.request.pair.targetDocumentId
    (by simp [LineageCall.payload, pairFields]) htarget
  have h₃ := htext "transition_type" call.request.pair.transitionType
    (by simp [LineageCall.payload, pairFields]) htype
  simp [pairOf?, h₁, h₂, h₃]

/-- What a call writes on the rows of its job: nothing when its key is there already, and
otherwise its event. -/
theorem appendJobEvent_lineage (hf : s.file? call.eventJobId = some f)
    (hnamed : call.request.pair.Named) :
    ∃ appended f', f.appendJobEvent call.outcome.eventType
        (call.outcome.message call.request.pair call.answer) call.payload
        (some (lineageKey call.outcome call.request.pair)) true call.context = .ok (appended, f') ∧
      ((∃ e ∈ f.events,
          e.eventIdempotencyKey = some (lineageKey call.outcome call.request.pair)) ∧ f' = f ∨
        (∀ e ∈ f.events,
          e.eventIdempotencyKey ≠ some (lineageKey call.outcome call.request.pair)) ∧
          ∃ e, EventOf py call e ∧ f' = { f with events := f.events ++ [e] }) := by
  have hpresent : present (some (lineageKey call.outcome call.request.pair)) = true := by
    have hne : lineageKey call.outcome call.request.pair ≠ "" := by
      intro hempty
      have hkey := normalized_lineageKey call.outcome call.request.pair
      rw [hempty] at hkey
      cases hkey
    simpa [present] using hne
  unfold appendJobEvent
  rw [hpresent, Bool.and_true, Bool.true_and]
  split
  · rename_i hfound
    obtain ⟨e, he, hkey⟩ := List.any_eq_true.mp hfound
    exact ⟨false, f, rfl, Or.inl ⟨⟨e, he, beq_iff_eq.mp hkey⟩, rfl⟩⟩
  · rename_i hmissing
    rw [appendStatusEvent, buildReportStatusEventContract_lineage]
    refine ⟨true, _, rfl, Or.inr ⟨fun e he hkey => ?_, _, ?_, rfl⟩⟩
    · exact hmissing (List.any_eq_true.mpr ⟨e, he, beq_iff_eq.mpr hkey⟩)
    · refine ⟨Ledger.jobId_of_file? hf, rfl, ?_, rfl⟩
      apply pairOf?_payload hnamed
      intro name j hlookup
      show Json.lookup (Json.sortFields (Json.canonicalFields _)) name = _
      rw [lookup_sortFields, lookup_canonicalFields, lookup_completedPayload hlookup]
      rfl

theorem step_lineage (d : Deployment) (s : Ledger) (call : LineageCall)
    (hnamed : call.request.pair.Named) :
    (s.file? call.eventJobId = none ∨ ∃ e ∈ s.events, e.reportJobId = call.eventJobId ∧
        e.eventIdempotencyKey = some (lineageKey call.outcome call.request.pair)) ∧
      s.step d call.write = s ∨
    (s.file? call.eventJobId).isSome = true ∧
      (∀ e ∈ s.events, e.reportJobId = call.eventJobId →
        e.eventIdempotencyKey ≠ some (lineageKey call.outcome call.request.pair)) ∧
      ∃ e, EventOf py call e ∧ (s.step d call.write).events = s.events ++ [e] ∧
        ∀ jobId, ((s.step d call.write).file? jobId).isSome = (s.file? jobId).isSome := by
  cases hf : s.file? call.eventJobId with
  | none =>
      have hperform : call.write.perform d s = .error .jobNotFound := by
        refine bind_eq_error.mpr (Or.inl ?_)
        unfold Ledger.onJob
        rw [hf]
      refine Or.inl ⟨Or.inl rfl, ?_⟩
      rw [Ledger.step, hperform]
  | some f =>
      obtain ⟨appended, f', happend, hcases⟩ := appendJobEvent_lineage hf hnamed
      have hperform : call.write.perform d s = .ok (s.store f') := by
        refine bind_eq_ok.mpr ⟨(appended, s.store f'), ?_, rfl⟩
        unfold Ledger.onJob
        rw [hf]
        exact bind_eq_ok.mpr ⟨(appended, f'), happend, rfl⟩
      have hstep : s.step d call.write = s.store f' := by
        rw [Ledger.step, hperform]
      have hevents := (Ledger.file?_eq_some_iff.mp hf).2.2.2
      rcases hcases with ⟨⟨e, he, hkey⟩, rfl⟩ | ⟨hmissing, e, he, rfl⟩
      · rw [hevents] at he
        obtain ⟨hmem, hjob⟩ := List.mem_filter.mp he
        refine Or.inl ⟨Or.inr ⟨e, hmem, beq_iff_eq.mp hjob, hkey⟩, ?_⟩
        rw [hstep]
        exact Ledger.store_self hf
      · refine Or.inr ⟨rfl, fun e' he' hjob => ?_, e, he, ?_, fun jobId => ?_⟩
        · apply hmissing e'
          rw [hevents]
          exact List.mem_filter.mpr ⟨he', beq_iff_eq.mpr hjob⟩
        · rw [hstep]
          simp [Ledger.store, Ledger.jobId_of_file? hf, hevents]
        · have hown : e.reportJobId = f.job.reportJobId :=
            he.job.trans (Ledger.jobId_of_file? hf).symm
          have hcontinues : f.Continues { f with events := f.events ++ [e] } :=
            JobFile.continues_of_job rfl rfl rfl rfl (JobFile.appended_one rfl hown)
          rw [hstep]
          have hstored := Ledger.file?_store hf hcontinues (fun hnone w hw => by
            rw [hnone] at hw
            cases hw) jobId
          rw [hstored]
          split
          · rename_i hjob
            rw [← hjob, hf]
            rfl
          · rfl

end Events

section Runs

variable {d : Deployment} {py : Runtime} {s t : Ledger} {calls : List LineageCall}
  {call : LineageCall}
  {e : EventRow} {jobId : String} {pair : DocumentPair}

/-- Two calls on one job whose pairs have the same stored text have the same pair. -/
def Distinguished (s : Ledger) (calls : List LineageCall) : Prop :=
  ∀ call ∈ calls, ∀ other ∈ calls, other.eventJobId = call.eventJobId →
    (s.file? call.eventJobId).isSome = true →
    storedText other.request.pair = storedText call.request.pair →
      other.request.pair = call.request.pair

/-- The lineage events of a ledger are those of the calls. -/
structure Traced (py : Runtime) (s : Ledger) (calls : List LineageCall) (t : Ledger) : Prop where
  files : ∀ jobId, (t.file? jobId).isSome = (s.file? jobId).isSome
  sound : ∀ e ∈ t.events, e ∈ s.events ∨
    ∃ call ∈ calls, (s.file? call.eventJobId).isSome = true ∧ EventOf py call e
  complete : ∀ call ∈ calls, (s.file? call.eventJobId).isSome = true →
    ∃ e ∈ t.events, EventOf py call e

theorem final_iff (outcome : LineageOutcome) :
    outcome.final = true ↔ outcome.eventType ∈ finalTypes := by
  cases outcome <;> simp [LineageOutcome.final, LineageOutcome.eventType, finalTypes,
    lineageRecordedEvent, lineageRefusedEvent, lineagePendingEvent]

theorem not_final_iff (outcome : LineageOutcome) :
    outcome.final = false ↔ outcome.eventType = lineagePendingEvent := by
  cases outcome <;> simp [LineageOutcome.final, LineageOutcome.eventType,
    lineageRecordedEvent, lineageRefusedEvent, lineagePendingEvent]

theorem startsWith_append (s t : String) : startsWith (s ++ t) s = true := by
  simp [startsWith]

/-- A ledger without lineage events has none with the key of a call. -/
theorem Unlinked.key_ne (hs : Unlinked s) (he : e ∈ s.events) (outcome : LineageOutcome) :
    e.eventIdempotencyKey ≠ some (lineageKey outcome pair) := by
  intro hkey
  have hstart := (hs e he _ (eventType_mem outcome)).2
  rw [hkey, Option.any_some, lineageKey, startsWith_append] at hstart
  cases hstart

theorem Unlinked.type_ne (hs : Unlinked s) (he : e ∈ s.events) (outcome : LineageOutcome) :
    e.eventType ≠ outcome.eventType := (hs e he _ (eventType_mem outcome)).1

/-- A key that is there already belongs to the same outcome, and to the same pair where the stored
texts of the pairs differ. -/
theorem eventOf_of_key {other : LineageCall} (he : EventOf py other e)
    (hjob : e.reportJobId = call.eventJobId)
    (hkey : e.eventIdempotencyKey = some (lineageKey call.outcome call.request.pair))
    (hpair : storedText other.request.pair = storedText call.request.pair →
      other.request.pair = call.request.pair) : EventOf py call e := by
  obtain ⟨htype, htext⟩ := eventType_of_key (Option.some.inj (hkey.symm.trans he.key))
  have heq := hpair (storedText_eq_of_rstrip htext).symm
  refine ⟨hjob, he.type.trans htype.symm, heq ▸ he.pair, ?_⟩
  rw [he.key, htype, heq]

theorem afterLineage_append (d : Deployment) (s : Ledger) (calls : List LineageCall)
    (call : LineageCall) :
    afterLineage d s (calls ++ [call]) = (afterLineage d s calls).step d call.write :=
  run_append _ s calls [call]

/-- The ledger after calls with distinguished pairs holds exactly their events. -/
theorem traced_afterLineage (d : Deployment) (hs : Unlinked s)
    (hnamed : ∀ call ∈ calls, call.request.pair.Named) (hdistinct : Distinguished s calls) :
    Traced d.toRuntime s calls (afterLineage d s calls) := by
  induction calls using List.reverseRecOn with
  | nil => exact ⟨fun _ => rfl, fun e he => Or.inl he, fun call hcall => by cases hcall⟩
  | append_singleton calls call ih =>
      have hold : ∀ {c}, c ∈ calls → c ∈ calls ++ [call] := fun h => List.mem_append_left _ h
      have hlast : call ∈ calls ++ [call] := List.mem_append_right _ (List.mem_singleton_self _)
      have hbefore := ih (fun c hc => hnamed c (hold hc))
        (fun c hc o ho => hdistinct c (hold hc) o (hold ho))
      rw [afterLineage_append]
      rcases step_lineage d (afterLineage d s calls) call (hnamed call hlast) with
        ⟨hskip, hsame⟩ | ⟨hfile, -, e, he, hevents, hfiles⟩
      · rw [hsame]
        refine ⟨hbefore.files, fun e he => ?_, fun c hc hfile => ?_⟩
        · exact (hbefore.sound e he).imp_right fun ⟨c, hc, hfound⟩ => ⟨c, hold hc, hfound⟩
        · rcases List.mem_append.mp hc with hc | hc
          · exact hbefore.complete c hc hfile
          · rw [List.mem_singleton.mp hc] at hfile ⊢
            rcases hskip with hnone | ⟨e, he, hjob, hkey⟩
            · have hexists := hbefore.files call.eventJobId
              rw [hnone, hfile] at hexists
              cases hexists
            · rcases hbefore.sound e he with hinitial | ⟨other, hother, -, hevent⟩
              · exact absurd hkey (hs.key_ne hinitial _)
              · refine ⟨e, he, eventOf_of_key hevent hjob hkey fun htext => ?_⟩
                exact hdistinct call hlast other (hold hother) (hevent.job.symm.trans hjob) hfile
                  htext
      · refine ⟨fun j => (hfiles j).trans (hbefore.files j), fun e' he' => ?_,
          fun c hc hexists => ?_⟩
        · rw [hevents] at he'
          rcases List.mem_append.mp he' with he' | he'
          · exact (hbefore.sound e' he').imp_right fun ⟨c, hc, hfound⟩ => ⟨c, hold hc, hfound⟩
          · rw [List.mem_singleton.mp he']
            exact Or.inr ⟨call, hlast, (hbefore.files _).symm.trans hfile, he⟩
        · rw [hevents]
          rcases List.mem_append.mp hc with hc | hc
          · obtain ⟨e', he', hevent⟩ := hbefore.complete c hc hexists
            exact ⟨e', List.mem_append_left _ he', hevent⟩
          · rw [List.mem_singleton.mp hc]
            exact ⟨e, List.mem_append_right _ (List.mem_singleton_self e), he⟩

/-- A pair of the job is pending and has no outcome, as far as its own calls go. -/
def OpenPair (s : Ledger) (calls : List LineageCall) (jobId : String) (pair : DocumentPair) :
    Prop :=
  (s.file? jobId).isSome = true ∧
    (∃ call ∈ calls, call.eventJobId = jobId ∧ call.request.pair = pair ∧
      call.outcome.final = false) ∧
    ∀ call ∈ calls, call.eventJobId = jobId → call.request.pair = pair → call.outcome.final = false

theorem mem_listStatusEvents : e ∈ listStatusEvents t jobId ↔
    e ∈ t.events ∧ e.reportJobId = jobId := by
  simp [listStatusEvents, Ledger.eventsOf]

theorem Traced.call_of_event (h : Traced py s calls t) (hs : Unlinked s) (he : e ∈ t.events)
    (htype : e.eventType ∈ lineageEventTypes) :
    ∃ call ∈ calls, (s.file? call.eventJobId).isSome = true ∧ EventOf py call e := by
  rcases h.sound e he with hinitial | hcall
  · exact absurd rfl ((hs e hinitial _ htype).1)
  · exact hcall

theorem lineage_of_final {eventType : String} (h : eventType ∈ finalTypes) :
    eventType ∈ lineageEventTypes := by
  simp only [finalTypes, List.mem_cons, List.not_mem_nil, or_false] at h
  rcases h with rfl | rfl <;> decide

theorem mem_attemptedPairs (h : Traced py s calls t) (hs : Unlinked s)
    (hdistinct : Distinguished s calls) :
    pair ∈ attemptedPairs py t jobId ↔ OpenPair s calls jobId pair := by
  have hnamed : ∀ {types e p}, (∀ x ∈ types, x ∈ lineageEventTypes) →
      e ∈ listStatusEvents t jobId → Names py types e p →
      ∃ call ∈ calls, (s.file? jobId).isSome = true ∧ call.eventJobId = jobId ∧
        call.request.pair = p ∧ EventOf py call e := by
    intro types e p htypes he hnames
    obtain ⟨hmem, hjob⟩ := mem_listStatusEvents.mp he
    obtain ⟨call, hcall, hfile, hevent⟩ := h.call_of_event hs hmem (htypes _ hnames.1)
    have hown : call.eventJobId = jobId := hevent.job.symm.trans hjob
    exact ⟨call, hcall, hown ▸ hfile, hown, Option.some.inj (hevent.pair.symm.trans hnames.2),
      hevent⟩
  have hpending : ∀ x ∈ [lineagePendingEvent], x ∈ lineageEventTypes := by decide
  have hfinal : ∀ x ∈ finalTypes, x ∈ lineageEventTypes := fun x hx => lineage_of_final hx
  constructor
  · intro hattempted
    obtain ⟨request, hrequest, rfl⟩ := List.mem_map.mp hattempted
    obtain ⟨⟨e, he, hnames⟩, hopen⟩ := mem_outstandingRequests hrequest
    obtain ⟨call, hcall, hfile, hjob, hpair, hevent⟩ := hnamed hpending he hnames
    refine ⟨hfile, ⟨call, hcall, hjob, hpair, ?_⟩, fun other hother hojob hopair => ?_⟩
    · exact (not_final_iff _).mpr (hevent.type.symm.trans (List.mem_singleton.mp hnames.1))
    · by_contra hdone
      obtain ⟨e', he', hevent'⟩ := h.complete other hother (hojob ▸ hfile)
      have hlisted := mem_listStatusEvents.mpr ⟨he', hevent'.job.trans hojob⟩
      refine hopen e' hlisted other.request.pair ⟨?_, hevent'.pair⟩ (by rw [hopair])
      rw [hevent'.type]
      exact (final_iff _).mp (by simpa using hdone)
  · rintro ⟨hfile, ⟨call, hcall, hjob, rfl, hcallpending⟩, hnone⟩
    obtain ⟨e, he, hevent⟩ := h.complete call hcall (hjob ▸ hfile)
    have hlisted := mem_listStatusEvents.mpr ⟨he, hevent.job.trans hjob⟩
    have hnames : Names py [lineagePendingEvent] e call.request.pair :=
      ⟨List.mem_singleton.mpr (hevent.type.trans ((not_final_iff _).mp hcallpending)), hevent.pair⟩
    have hsame : ∀ other ∈ calls, other.eventJobId = jobId →
        pairKey other.request.pair = pairKey call.request.pair →
        other.request.pair = call.request.pair := by
      intro other hother hojob hkey
      apply hdistinct call hcall other hother (hojob.trans hjob.symm) (hjob ▸ hfile)
      unfold storedText
      rw [hkey]
    obtain ⟨request, hrequest, hkey⟩ := exists_outstandingRequest hlisted hnames (by
      intro e' he' p hp hkey
      obtain ⟨other, hother, -, hojob, rfl, hevent'⟩ := hnamed hfinal he' hp
      have hdone := hnone other hother hojob (hsame other hother hojob hkey)
      have htrue := (final_iff other.outcome).mpr (hevent'.type ▸ hp.1)
      rw [hdone] at htrue
      cases htrue)
    obtain ⟨⟨e', he', hnames'⟩, -⟩ := mem_outstandingRequests hrequest
    obtain ⟨other, hother, -, hojob, hopair, -⟩ := hnamed hpending he' hnames'
    have heq := hsame other hother hojob (by rw [hopair, hkey])
    exact List.mem_map.mpr ⟨request, hrequest, hopair.symm.trans heq⟩

/-- The query returns exactly the jobs with an open pair. -/
theorem listed_iff (h : Traced py s calls t) (hs : Unlinked s) (hdistinct : Distinguished s calls)
    {limit : Int} (hlimit : t.events.length ≤ limit) :
    jobId ∈ (listPendingArchiveLineage t limit).map (·.jobId) ↔
      ∃ pair, OpenPair s calls jobId pair := by
  rw [mem_listPendingArchiveLineage hlimit]
  constructor
  · rintro ⟨e, he, hout, rfl⟩
    obtain ⟨htype, -, hnone⟩ := outstandingEvent_iff.mp hout
    obtain ⟨call, hcall, hfile, hevent⟩ := h.call_of_event hs he (by rw [htype]; decide)
    rw [hevent.job]
    refine ⟨call.request.pair, hfile, ⟨call, hcall, rfl, rfl, ?_⟩,
      fun other hother hojob hopair => ?_⟩
    · exact (not_final_iff _).mpr (hevent.type.symm.trans htype)
    · by_contra hdone
      obtain ⟨r, hr, hrevent⟩ := h.complete other hother (hojob ▸ hfile)
      have hsuffix := pairSuffix_eq hrevent.type hrevent.key
      refine hnone r hr (by rw [hrevent.job, hojob, hevent.job]) ?_ (by rw [hsuffix]; rfl) ?_
      · rw [hrevent.type]
        exact (final_iff _).mp (by simpa using hdone)
      · rw [hsuffix, pairSuffix_eq hevent.type hevent.key, hopair]
  · rintro ⟨pair, hfile, ⟨call, hcall, rfl, rfl, hpending⟩, hnone⟩
    obtain ⟨e, he, hevent⟩ := h.complete call hcall hfile
    refine ⟨e, he, outstandingEvent_iff.mpr ⟨?_, ?_, fun r hr hjob htype _ hsuffix => ?_⟩,
      hevent.job⟩
    · exact hevent.type.trans ((not_final_iff _).mp hpending)
    · rw [hevent.key]
      rfl
    · obtain ⟨other, hother, -, hrevent⟩ := h.call_of_event hs hr (lineage_of_final htype)
      have hojob : other.eventJobId = call.eventJobId := by
        rw [← hrevent.job, hjob, hevent.job]
      rw [pairSuffix_eq hrevent.type hrevent.key, pairSuffix_eq hevent.type hevent.key] at hsuffix
      have hpair := hdistinct call hcall other hother hojob hfile (Option.some.inj hsuffix)
      have hdone := hnone other hother hojob hpair
      have htrue := (final_iff other.outcome).mpr (hrevent.type ▸ htype)
      rw [hdone] at htrue
      cases htrue

/-- Calls with distinguished pairs leave one notion of an outstanding linkage. -/
theorem oneNotion_of_distinguished (d : Deployment) (hs : Unlinked s)
    (hnamed : ∀ call ∈ calls, call.request.pair.Named) (hdistinct : Distinguished s calls) :
    OneNotion d s calls := by
  have htraced := traced_afterLineage d hs hnamed hdistinct
  refine ⟨fun limit hlimit jobId => ?_, fun call hcall hfinal hattempted => ?_,
    fun call hcall hfile hpending hnone => ?_⟩
  · rw [listed_iff htraced hs hdistinct hlimit]
    constructor
    · rintro ⟨pair, hopen⟩ hnil
      have hmem := (mem_attemptedPairs htraced hs hdistinct).mpr hopen
      rw [hnil] at hmem
      cases hmem
    · intro hne
      obtain ⟨pair, hmem⟩ := List.exists_mem_of_ne_nil _ hne
      exact ⟨pair, (mem_attemptedPairs htraced hs hdistinct).mp hmem⟩
  · obtain ⟨-, -, hnone⟩ := (mem_attemptedPairs htraced hs hdistinct).mp hattempted
    have hdone := hnone call hcall rfl rfl
    rw [hfinal] at hdone
    cases hdone
  · exact (mem_attemptedPairs htraced hs hdistinct).mpr
      ⟨hfile, ⟨call, hcall, rfl, rfl, hpending⟩, hnone⟩

end Runs

section Confusion

variable {d : Deployment} {s : Ledger} {jobId : String} {p q : DocumentPair}

/-- The context of the calls of a confusing run. -/
def anyContext : CallContext := ⟨"", "", "", none, 0⟩

/-- A call to which the archive does not answer. -/
def unansweredCall (jobId : String) (pair : DocumentPair) : LineageCall :=
  ⟨jobId, ⟨pair, ""⟩, none, anyContext⟩

/-- A call that the archive refuses. -/
def refusedCall (jobId : String) (pair : DocumentPair) : LineageCall :=
  ⟨jobId, ⟨pair, ""⟩, some (409, []), anyContext⟩

theorem outcome_unansweredCall : (unansweredCall jobId p).outcome = .pending := rfl

theorem outcome_refusedCall : (refusedCall jobId q).outcome = .refused := rfl

/-- After a pending pair and the refusal of another one the ledger holds their two events. -/
theorem events_of_confusion (d : Deployment) (hs : Unlinked s)
    (hfile : (s.file? jobId).isSome = true) (hp : p.Named) (hq : q.Named) :
    ∃ e₁ e₂, EventOf d.toRuntime (unansweredCall jobId p) e₁ ∧ EventOf d.toRuntime (refusedCall jobId q) e₂ ∧
      (afterLineage d s [unansweredCall jobId p, refusedCall jobId q]).events =
        s.events ++ [e₁] ++ [e₂] := by
  let t := s.step d (unansweredCall jobId p).write
  obtain ⟨e₁, he₁, hevents₁, hfiles⟩ : ∃ e, EventOf d.toRuntime (unansweredCall jobId p) e ∧
      t.events = s.events ++ [e] ∧ ∀ j, (t.file? j).isSome = (s.file? j).isSome := by
    rcases step_lineage d s (unansweredCall jobId p) hp with
      ⟨hskip, -⟩ | ⟨-, -, happended⟩
    · rcases hskip with hnone | ⟨e, he, -, hkey⟩
      · rw [show s.file? jobId = none from hnone] at hfile
        cases hfile
      · exact absurd hkey (hs.key_ne he _)
    · exact happended
  rcases step_lineage d t (refusedCall jobId q) hq with
    ⟨hskip, -⟩ | ⟨-, -, e₂, he₂, hevents₂, -⟩
  · rcases hskip with hnone | ⟨e, he, -, hkey⟩
    · have hkept := hfiles jobId
      rw [show t.file? jobId = none from hnone, hfile] at hkept
      cases hkept
    · rw [hevents₁] at he
      rcases List.mem_append.mp he with he | he
      · exact absurd hkey (hs.key_ne he _)
      · rw [List.mem_singleton.mp he, he₁.key] at hkey
        have htypes := (eventType_of_key (Option.some.inj hkey)).1
        rw [outcome_unansweredCall, outcome_refusedCall] at htypes
        exact absurd htypes (by decide)
  · refine ⟨e₁, e₂, he₁, he₂, ?_⟩
    rw [← hevents₁, ← hevents₂]
    rfl

/-- Two pairs of a job with one stored text are confused. -/
theorem not_oneNotion_of_storedText (d : Deployment) (hs : Unlinked s)
    (hfile : (s.file? jobId).isSome = true) (hp : p.Named) (hq : q.Named) (hne : p ≠ q)
    (htext : storedText p = storedText q) :
    ¬ OneNotion d s [unansweredCall jobId p, refusedCall jobId q] := by
  intro h
  obtain ⟨e₁, e₂, he₁, he₂, hevents⟩ := events_of_confusion d hs hfile hp hq
  have hattempted := h.attempted (unansweredCall jobId p) (by simp) hfile rfl (by
    intro other hother _ hpair
    rcases List.mem_cons.mp hother with rfl | hother
    · rfl
    · rw [List.mem_singleton.mp hother] at hpair
      exact absurd hpair.symm hne)
  have hlisted := (h.listed _ le_rfl jobId).mpr (List.ne_nil_of_mem hattempted)
  obtain ⟨e, he, hout, -⟩ := (mem_listPendingArchiveLineage le_rfl).mp hlisted
  obtain ⟨htype, -, hnone⟩ := outstandingEvent_iff.mp hout
  rw [hevents] at he hnone
  have hfirst : e = e₁ := by
    rcases List.mem_append.mp he with he | he
    · rcases List.mem_append.mp he with he | he
      · exact absurd htype (hs.type_ne he .pending)
      · exact List.mem_singleton.mp he
    · rw [List.mem_singleton.mp he, he₂.type, outcome_refusedCall] at htype
      exact absurd htype (by decide)
  rw [hfirst] at hnone
  refine hnone e₂ (by simp) (he₂.job.trans he₁.job.symm) ?_ ?_ ?_
  · rw [he₂.type, outcome_refusedCall]
    decide
  · rw [pairSuffix_eq he₂.type he₂.key]
    rfl
  · rw [pairSuffix_eq he₂.type he₂.key, pairSuffix_eq he₁.type he₁.key]
    exact congrArg some htext.symm

end Confusion

/-- Over the pairs that are used for each job, the query and the settlement have one notion of an
outstanding linkage in every history exactly when no two pairs of a job have one stored text. -/
theorem outstanding_linkage_notions_coincide_iff (d : Deployment) {s : Ledger} (hs : Unlinked s)
    (used : String → Set DocumentPair) (hnamed : ∀ jobId, ∀ pair ∈ used jobId, pair.Named) :
    (∀ calls : List LineageCall, (∀ call ∈ calls, call.request.pair ∈ used call.eventJobId) →
        OneNotion d s calls) ↔
      ∀ jobId, (s.file? jobId).isSome = true → Set.InjOn storedText (used jobId) := by
  constructor
  · intro h jobId hfile p hp q hq htext
    by_contra hne
    refine not_oneNotion_of_storedText d hs hfile (hnamed jobId p hp) (hnamed jobId q hq) hne htext
      (h _ fun call hcall => ?_)
    rcases List.mem_cons.mp hcall with rfl | hcall
    · exact hp
    · rw [List.mem_singleton.mp hcall]
      exact hq
  · intro h calls hcalls
    apply oneNotion_of_distinguished d hs
    · exact fun call hcall => hnamed _ _ (hcalls call hcall)
    · intro call hcall other hother hjob hfile htext
      exact h call.eventJobId hfile (hjob ▸ hcalls other hother) (hcalls call hcall) htext

section Samples

/-- The ledger with the job `rjob_1`. -/
def sampleJobLedger : Ledger := Ledger.empty.step sampleDeployment (sampleSubmit none)

/-- Two corrections of one document. -/
def samplePairs : List DocumentPair :=
  [⟨"doc-1", "doc-2", "correct"⟩, ⟨"doc-1", "doc-3", "correct"⟩]

theorem outstanding_linkage_notions_coincide_corrections :
    Unlinked sampleJobLedger ∧
      OneNotion sampleDeployment sampleJobLedger
        [unansweredCall "rjob_1" ⟨"doc-1", "doc-2", "correct"⟩,
          refusedCall "rjob_1" ⟨"doc-1", "doc-3", "correct"⟩] := by
  have hs : Unlinked sampleJobLedger := by decide +kernel
  have hnamed : ∀ pair ∈ samplePairs, pair.Named := by decide
  have hapart : ∀ p ∈ samplePairs, ∀ q ∈ samplePairs, storedText p = storedText q → p = q := by
    decide +kernel
  refine ⟨hs, (outstanding_linkage_notions_coincide_iff sampleDeployment hs
    (fun _ => {pair | pair ∈ samplePairs}) (fun _ => hnamed)).mpr ?_ _ ?_⟩
  · intro jobId _ p hp q hq htext
    exact hapart p hp q hq htext
  · intro call hcall
    rcases List.mem_cons.mp hcall with rfl | hcall
    · exact List.mem_cons_self
    · rw [List.mem_singleton.mp hcall]
      exact List.mem_cons_of_mem _ (List.mem_singleton_self _)

/-- A refused pair of documents `doc-1` and `doc-2->doc-3` hides the pending pair of `doc-1->doc-2`
and `doc-3`. -/
theorem not_oneNotion_separators : Unlinked sampleJobLedger ∧
    (∀ pair ∈ [(⟨"doc-1->doc-2", "doc-3", "correct"⟩ : DocumentPair),
      ⟨"doc-1", "doc-2->doc-3", "correct"⟩], pair.Named) ∧
    ¬ OneNotion sampleDeployment sampleJobLedger
      [unansweredCall "rjob_1" ⟨"doc-1->doc-2", "doc-3", "correct"⟩,
        refusedCall "rjob_1" ⟨"doc-1", "doc-2->doc-3", "correct"⟩] := by
  refine ⟨by decide +kernel, by decide, fun h => ?_⟩
  have hattempted := h.attempted
    (unansweredCall "rjob_1" ⟨"doc-1->doc-2", "doc-3", "correct"⟩) List.mem_cons_self
    (by decide +kernel) rfl (by decide +kernel)
  exact absurd hattempted (by decide +kernel)

end Samples

end LotusReport.Corrections
