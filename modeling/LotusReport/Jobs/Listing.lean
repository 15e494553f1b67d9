import LotusReport.Jobs.Refinement
import LotusReport.Relational.Ranking

/-!
# Listing jobs

`list_jobs` applies its filters twice: a query compares the stored texts, orders
the rows by them and cuts the page, and the matcher then compares the decoded
records. The two agree except on three points. Within one second the text of a
whole second sorts after the texts with a fraction; a portfolio scope need not
hold a list of ids; and the matcher cannot compare a bound without an offset.
-/

namespace LotusReport.Jobs

open Encoding Fallible Relational StateMachine

section Model

/-- What a listing raises. -/
inductive ListError where
  | overflowError
  | typeError
deriving DecidableEq, Repr

/-- A `datetime` of a filter: an instant, or a reading of a clock without an offset. -/
inductive Bound where
  | aware (instant : Instant)
  | naive (wall : Instant)
deriving DecidableEq, Repr

/-- `ReportJobListFilters`. -/
structure ReportJobListFilters where
  tenantId : Option String := none
  region : Option String := none
  status : Option ReportJobStatus := none
  reportType : Option String := none
  portfolioId : Option String := none
  asOfDate : Option String := none
  idempotencyKey : Option String := none
  correlationId : Option String := none
  createdFrom : Option Bound := none
  createdTo : Option Bound := none
  limit : Int := 25

/-- A row of the join of `report_request` and `report_job`. -/
structure ListedJob where
  request : RequestRow
  job : JobRow
deriving DecidableEq

/-- `report_request req JOIN report_job job`. -/
def Ledger.listed (s : Ledger) : List ListedJob :=
  s.jobs.rows.filterMap fun job =>
    (s.requests.find? job.reportRequestId).map fun request => ⟨request, job⟩

/-- The instants from the start of year 1 to the end of year 9999. -/
def representable (t : Instant) : Bool :=
  decide (-62135596800000000 ≤ t ∧ t < 253402300800000000)

/-- `_dt_to_text` of a bound; the zone of the process gives a naive reading its instant. -/
def boundText (zone : Instant → Instant) (bound : Bound) : Except ListError Timestamp :=
  let instant := match bound with
    | .aware instant => instant
    | .naive wall => zone wall
  if representable instant then .ok (dtToText instant) else .error .overflowError

/-- The text of a bound that may be absent. -/
def boundText? (zone : Instant → Instant) : Option Bound → Except ListError (Option Timestamp)
  | none => .ok none
  | some bound => (boundText zone bound).map some

/-- A text filter: an absent or empty one filters nothing. -/
def textAgrees (wanted : Option String) (value : String) : Bool :=
  match wanted with
  | some text => text == "" || value == text
  | none => true

/-- The status filter. -/
def statusAgrees (wanted : Option ReportJobStatus) (value : ReportJobStatus) : Bool :=
  match wanted with
  | some status => value == status
  | none => true

/-- `json_each.value` as a text; a number or null is no text. -/
def sqlText : Json → Option String
  | .str text => some text
  | .arr items => some (Json.canonicalJson (.arr items))
  | .obj fields => some (Json.canonicalJson (.obj fields))
  | _ => none

/-- The rows of `json_each(scope, '$.portfolio_ids')`. -/
def portfolioRows (scope : Fields) : List Json :=
  match Json.lookup scope "portfolio_ids" with
  | none => []
  | some (.arr items) => items
  | some (.obj fields) => fields.map Prod.snd
  | some value => [value]

/-- The portfolio clause of the query. -/
def portfolioListed (wanted : Option String) (scope : Fields) : Bool :=
  match wanted with
  | some text => text == "" || (portfolioRows scope).any fun value => sqlText value == some text
  | none => true

/-- `portfolio_id in scope.get("portfolio_ids", [])`. -/
def inPortfolioIds (text : String) (scope : Fields) : Except ListError Bool :=
  match Json.lookup scope "portfolio_ids" with
  | none => .ok false
  | some (.arr items) => .ok (items.any fun item => decide (item = .str text))
  | some (.obj fields) => .ok (fields.any fun field => field.1 == text)
  | some (.str ids) => .ok (decide (text.toList <:+: ids.toList))
  | some _ => .error .typeError

/-- The portfolio check of the matcher. -/
def portfolioMatches (wanted : Option String) (scope : Fields) :
    Except ListError Bool :=
  match wanted with
  | some text => if text = "" then .ok true else inPortfolioIds text scope
  | none => .ok true

/-- The predicates of `_list_jobs_predicates`, with the texts of the bounds. -/
def admits (filters : ReportJobListFilters) (createdFrom createdTo : Option Timestamp)
    (record : ListedJob) : Bool :=
  textAgrees filters.tenantId record.request.tenantId &&
  textAgrees filters.region record.request.region &&
  statusAgrees filters.status record.job.status &&
  textAgrees filters.reportType record.request.reportType &&
  textAgrees filters.asOfDate record.request.asOfDate &&
  textAgrees filters.idempotencyKey record.request.idempotencyKey &&
  textAgrees filters.correlationId record.request.correlationId &&
  portfolioListed filters.portfolioId record.job.portfolioScope &&
  createdFrom.all (fun bound => bound.le record.job.createdAt) &&
  createdTo.all (fun bound => record.job.createdAt.le bound)

/-- `record.created_at < created_from` leaves a record out. -/
def notBefore (bound : Option Bound) (createdAt : Instant) : Except ListError Bool :=
  match bound with
  | none => .ok true
  | some (.aware instant) => .ok (decide (instant ≤ createdAt))
  | some (.naive _) => .error .typeError

/-- `record.created_at > created_to` leaves a record out. -/
def notAfter (bound : Option Bound) (createdAt : Instant) : Except ListError Bool :=
  match bound with
  | none => .ok true
  | some (.aware instant) => .ok (decide (createdAt ≤ instant))
  | some (.naive _) => .error .typeError

/-- Checks made in turn: the first that fails or raises decides. -/
def inTurn : List (Except ListError Bool) → Except ListError Bool
  | [] => .ok true
  | .ok true :: checks => inTurn checks
  | check :: _ => check

/-- `_record_matches_filters`. -/
def recordMatchesFilters (filters : ReportJobListFilters) (record : ListedJob) :
    Except ListError Bool :=
  inTurn
    [ .ok (textAgrees filters.tenantId record.request.tenantId),
      .ok (textAgrees filters.region record.request.region),
      .ok (statusAgrees filters.status record.job.status),
      .ok (textAgrees filters.reportType record.request.reportType),
      portfolioMatches filters.portfolioId record.request.portfolioScope,
      .ok (textAgrees filters.asOfDate record.request.asOfDate),
      .ok (textAgrees filters.idempotencyKey record.request.idempotencyKey),
      .ok (textAgrees filters.correlationId record.request.correlationId),
      notBefore filters.createdFrom record.job.createdAt.instant,
      notAfter filters.createdTo record.job.createdAt.instant ]

/-- `ORDER BY job.created_at DESC, job.report_job_id DESC`, as texts. -/
def newestText (record : ListedJob) : (ℤ ×ₗ String)ᵒᵈ :=
  OrderDual.toDual (toLex (record.job.createdAt.rank, record.job.reportJobId))

/-- `LIMIT ?`: a negative limit is none. -/
def limited {α : Type} (limit : Int) (rows : List α) : List α :=
  if limit < 0 then rows else rows.take limit.toNat

/-- `_list_job_rows`; a limit beyond 64 bits cannot be bound. -/
def Ledger.listJobRows (zone : Instant → Instant) (s : Ledger) (filters : ReportJobListFilters) :
    Except ListError (List ListedJob) := do
  let createdFrom ← boundText? zone filters.createdFrom
  let createdTo ← boundText? zone filters.createdTo
  if -2 ^ 63 ≤ filters.limit ∧ filters.limit < 2 ^ 63 then
    return limited filters.limit
      (ranked newestText (s.listed.filter (admits filters createdFrom createdTo)))
  else .error .overflowError

/-- The records that the matcher keeps. -/
def matching (filters : ReportJobListFilters) : List ListedJob → Except ListError (List ListedJob)
  | [] => .ok []
  | record :: records => do
      let kept ← recordMatchesFilters filters record
      let rest ← matching filters records
      return if kept then record :: rest else rest

/-- `list_jobs`. -/
def Ledger.listJobs (zone : Instant → Instant) (s : Ledger) (filters : ReportJobListFilters) :
    Except ListError (List ListedJob) := do
  matching filters (← s.listJobRows zone filters)

end Model

section Statement

/-- A record satisfies the filters. -/
def Satisfies (filters : ReportJobListFilters) (record : ListedJob) : Bool :=
  recordMatchesFilters filters record = .ok true

/-- The newest records first, by the instants of their creation. -/
def newestInstant (record : ListedJob) : (ℤ ×ₗ String)ᵒᵈ :=
  OrderDual.toDual (toLex (record.job.createdAt.instant, record.job.reportJobId))

/-- The first records, newest first, of those that satisfy the filters. -/
def Ledger.firstMatching (s : Ledger) (filters : ReportJobListFilters) : List ListedJob :=
  (ranked newestInstant (s.listed.filter (Satisfies filters))).take filters.limit.toNat

/-- Two instants lie in one second, the first at its start and the second after it. -/
def StartOf (a b : Int) : Prop := a / 1000000 = b / 1000000 ∧ a % 1000000 = 0 ∧ b % 1000000 ≠ 0

/-- A record that the matcher keeps and the texts of the query leave out. -/
inductive Dropped (filters : ReportJobListFilters) (record : ListedJob) : Prop where
  | early {t : Instant} (hfrom : filters.createdFrom = some (.aware t))
      (hstart : StartOf t record.job.createdAt.instant)
  | late {t : Instant} (hto : filters.createdTo = some (.aware t))
      (hstart : StartOf record.job.createdAt.instant t)
  | part {text ids : String} (hid : filters.portfolioId = some text) (hne : text ≠ "")
      (hscope : Json.lookup record.request.portfolioScope "portfolio_ids" = some (.str ids))
      (hpart : ids ≠ text)
  | key {text : String} {fields : Fields} (hid : filters.portfolioId = some text)
      (hne : text ≠ "")
      (hscope : Json.lookup record.request.portfolioScope "portfolio_ids" = some (.obj fields))
      (hvalue : ∀ field ∈ fields, sqlText field.2 ≠ some text)

/-- The page that is due is what the texts of the query show. -/
structure TextsAgree (s : Ledger) (filters : ReportJobListFilters)
    (createdFrom createdTo : Option Timestamp) : Prop where
  compares : ∀ record ∈ s.listed, admits filters createdFrom createdTo record = true →
    (0 ≤ filters.limit → (s.listed.countP fun other =>
      admits filters createdFrom createdTo other &&
        decide (newestText other < newestText record)) < filters.limit.toNat) →
    ∀ error, recordMatchesFilters filters record ≠ .error error
  unlimited : filters.limit < 0 → ∀ record ∈ s.listed, Satisfies filters record = true →
    Dropped filters record
  shown : ∀ record, Due newestInstant (Satisfies filters) s.listed filters.limit.toNat record →
    ¬ Dropped filters record ∧ (s.listed.countP fun other =>
      admits filters createdFrom createdTo other &&
        decide (newestText other < newestText record)) < filters.limit.toNat
  ordered : ∀ record other,
    Due newestInstant (Satisfies filters) s.listed filters.limit.toNat record →
    Due newestInstant (Satisfies filters) s.listed filters.limit.toNat other →
    ¬ StartOf record.job.createdAt.instant other.job.createdAt.instant

end Statement

section Texts

/-- The texts of two instants compare as the instants do, except within one second between its
start and the rest. -/
theorem rank_lt_rank_iff (a b : Int) :
    (dtToText a).rank < (dtToText b).rank ↔ a < b ∧ ¬ StartOf a b ∨ StartOf b a := by
  simp only [dtToText, Timestamp.rank, Timestamp.suffixRank, Timestamp.fraction, StartOf,
    Bool.false_eq_true, if_false]
  split <;> split <;> omega

theorem le_dtToText_iff (a b : Int) :
    (dtToText a).le (dtToText b) = true ↔ a ≤ b ∧ ¬ StartOf a b ∨ StartOf b a := by
  simp only [dtToText, Timestamp.le, Timestamp.rank, Timestamp.suffixRank, Timestamp.fraction,
    StartOf, Bool.false_eq_true, if_false, decide_eq_true_eq]
  split <;> split <;> omega

theorem StartOf.lt {a b : Int} (h : StartOf a b) : a < b := by
  obtain ⟨hsecond, hstart, hfraction⟩ := h
  omega

variable {record other : ListedJob}

theorem createdAt_eq (h : record.job.createdAt.offset = false) :
    record.job.createdAt = dtToText record.job.createdAt.instant := by
  cases htext : record.job.createdAt with
  | mk instant offset =>
      rw [htext] at h
      cases h
      rfl

theorem newestInstant_lt_iff : newestInstant record < newestInstant other ↔
    other.job.createdAt.instant < record.job.createdAt.instant ∨
      other.job.createdAt.instant = record.job.createdAt.instant ∧
        other.job.reportJobId < record.job.reportJobId := by
  simp only [newestInstant, OrderDual.toDual_lt_toDual, Prod.Lex.toLex_lt_toLex]

theorem newestText_lt_iff (hrecord : record.job.createdAt.offset = false)
    (hother : other.job.createdAt.offset = false) : newestText record < newestText other ↔
      (other.job.createdAt.instant < record.job.createdAt.instant ∧
        ¬ StartOf other.job.createdAt.instant record.job.createdAt.instant ∨
        StartOf record.job.createdAt.instant other.job.createdAt.instant) ∨
      other.job.createdAt.instant = record.job.createdAt.instant ∧
        other.job.reportJobId < record.job.reportJobId := by
  have hsame : other.job.createdAt.rank = record.job.createdAt.rank ↔
      other.job.createdAt.instant = record.job.createdAt.instant := by
    have hlt := rank_lt_rank_iff other.job.createdAt.instant record.job.createdAt.instant
    have hgt := rank_lt_rank_iff record.job.createdAt.instant other.job.createdAt.instant
    rw [createdAt_eq hrecord, createdAt_eq hother]
    simp only [dtToText] at hlt hgt ⊢
    constructor
    · intro heq
      rw [heq] at hlt hgt
      simp only [lt_self_iff_false, false_iff, not_or, not_and] at hlt hgt
      by_contra hne
      rcases lt_or_gt_of_ne hne with h | h
      · exact hlt.1 h hgt.2
      · exact hgt.1 h hlt.2
    · intro heq
      rw [heq]
  rw [newestText, newestText, OrderDual.toDual_lt_toDual, Prod.Lex.toLex_lt_toLex, hsame]
  rw [createdAt_eq hrecord, createdAt_eq hother, rank_lt_rank_iff]
  rfl

/-- Two records are ordered alike by text and by instant exactly if neither was created at the
start of the second of the other. -/
theorem ordered_alike_iff (hrecord : record.job.createdAt.offset = false)
    (hother : other.job.createdAt.offset = false) :
    ((newestText record < newestText other ↔ newestInstant record < newestInstant other) ∧
      (newestText other < newestText record ↔ newestInstant other < newestInstant record)) ↔
    ¬ StartOf record.job.createdAt.instant other.job.createdAt.instant ∧
      ¬ StartOf other.job.createdAt.instant record.job.createdAt.instant := by
  rw [newestText_lt_iff hrecord hother, newestText_lt_iff hother hrecord, newestInstant_lt_iff,
    newestInstant_lt_iff]
  constructor
  · rintro ⟨hfirst, hsecond⟩
    constructor
    · intro hstart
      have hlt := hstart.lt
      rcases hfirst.mp (.inl (.inr hstart)) with h | h
      · exact hlt.not_gt h
      · exact hlt.ne' h.1
    · intro hstart
      have hlt := hstart.lt
      rcases hsecond.mp (.inl (.inr hstart)) with h | h
      · exact hlt.not_gt h
      · exact hlt.ne' h.1
  · rintro ⟨hfirst, hsecond⟩
    simp [hfirst, hsecond]

end Texts

section Matcher

variable {filters : ReportJobListFilters} {record : ListedJob} {rows : List ListedJob}

theorem inTurn_eq_true {checks : List (Except ListError Bool)} :
    inTurn checks = .ok true ↔ ∀ check ∈ checks, check = .ok true := by
  induction checks with
  | nil => simp [inTurn]
  | cons check checks ih =>
      rw [List.forall_mem_cons, ← ih]
      match check with
      | .ok true => simp [inTurn]
      | .ok false => simp [inTurn]
      | .error error => simp [inTurn]

/-- The rows are filtered when the matcher raises on none of them. -/
theorem matching_eq_ok (h : ∀ record ∈ rows, ∀ error, recordMatchesFilters filters record ≠ .error error) :
    matching filters rows = .ok (rows.filter (Satisfies filters)) := by
  induction rows with
  | nil => rfl
  | cons record rows ih =>
      rw [List.forall_mem_cons] at h
      cases hkept : recordMatchesFilters filters record with
      | error error => exact absurd hkept (h.1 error)
      | ok kept =>
          cases kept with
          | true => simp [matching, hkept, ih h.2, Satisfies, bind, Except.bind, pure, Except.pure]
          | false => simp [matching, hkept, ih h.2, Satisfies, bind, Except.bind, pure, Except.pure]

theorem matching_error (hrecord : record ∈ rows) {error : ListError}
    (h : recordMatchesFilters filters record = .error error) :
    ∃ error, matching filters rows = .error error := by
  induction rows with
  | nil => cases hrecord
  | cons first rows ih =>
      cases hkept : recordMatchesFilters filters first with
      | error error => exact ⟨error, by simp [matching, hkept, bind, Except.bind]⟩
      | ok kept =>
          rcases List.mem_cons.mp hrecord with rfl | hrecord
          · rw [h] at hkept
            cases hkept
          · obtain ⟨error, herror⟩ := ih hrecord
            exact ⟨error, by simp [matching, hkept, herror, bind, Except.bind]⟩

/-- The matcher keeps exactly the rows due when it raises on none of them. -/
theorem matching_eq_iff {due : List ListedJob} :
    matching filters rows = .ok due ↔
      (∀ record ∈ rows, ∀ error, recordMatchesFilters filters record ≠ .error error) ∧
        rows.filter (Satisfies filters) = due := by
  by_cases h : ∀ record ∈ rows, ∀ error, recordMatchesFilters filters record ≠ .error error
  · rw [matching_eq_ok h, Except.ok.injEq]
    exact ⟨fun heq => ⟨h, heq⟩, fun heq => heq.2⟩
  · push Not at h
    obtain ⟨record, hrecord, error, herror⟩ := h
    obtain ⟨error', herror'⟩ := matching_error hrecord herror
    refine iff_of_false (fun heq => ?_) fun h => h.1 record hrecord error herror
    rw [herror'] at heq
    cases heq

end Matcher

section Stored

/-- A row as it was written: the creation time ends in `Z`, and the job has the scope of its
request. -/
structure ListedJob.AsWritten (record : ListedJob) : Prop where
  created : record.job.createdAt.offset = false
  scope : record.job.portfolioScope = record.request.portfolioScope

/-- No change of a job touches its creation time or its scope. -/
theorem FileStep.listed {e : Effect} {f f' : JobFile} (h : FileStep e f f') :
    f'.job.createdAt = f.job.createdAt ∧ f'.job.portfolioScope = f.job.portfolioScope := by
  cases h <;> exact ⟨rfl, rfl⟩

theorem FileStep.asWritten {e : Effect} {f f' : JobFile} (h : FileStep e f f')
    (hf : ListedJob.AsWritten ⟨f.request, f.job⟩) : ListedJob.AsWritten ⟨f'.request, f'.job⟩ := by
  obtain ⟨hcreated, hscope⟩ := h.listed
  constructor
  · exact hcreated ▸ hf.created
  · change f'.job.portfolioScope = f'.request.portfolioScope
    rw [hscope, h.continues.request]
    exact hf.scope

variable {s : Ledger} {record : ListedJob}

theorem Ledger.file?_of_listed (h : record ∈ s.listed) :
    ∃ f, s.file? record.job.reportJobId = some f ∧ f.request = record.request ∧
      f.job = record.job := by
  obtain ⟨job, hjob, hrecord⟩ := List.mem_filterMap.mp h
  obtain ⟨request, hrequest, rfl⟩ := Option.map_eq_some_iff.mp hrecord
  refine ⟨⟨request, job, s.workItems.lookup? job.reportJobId, s.eventsOf job.reportJobId⟩, ?_, rfl,
    rfl⟩
  simp [Ledger.file?, Table.find?_key hjob, hrequest]

theorem Ledger.asWritten_of_listed (d : Deployment) (history : List Call)
    (h : record ∈ (run (Ledger.step d) .empty history).listed) : record.AsWritten := by
  obtain ⟨f, hf, hrequest, hjob⟩ := Ledger.file?_of_listed h
  have hwritten : ListedJob.AsWritten ⟨f.request, f.job⟩ :=
    Ledger.file_invariant (I := fun f => ListedJob.AsWritten ⟨f.request, f.job⟩)
      (fun f hopened => ⟨hopened.created, hopened.scope⟩) (fun _ _ _ hstep => hstep.asWritten) d
      history hf
  rw [hrequest, hjob] at hwritten
  exact hwritten

theorem Ledger.listed_ids_sublist (s : Ledger) :
    (s.listed.map fun record => record.job.reportJobId).Sublist
      (s.jobs.rows.map fun job => job.reportJobId) := by
  unfold Ledger.listed
  induction s.jobs.rows with
  | nil => exact .slnil
  | cons job rows ih =>
      rw [List.filterMap_cons]
      cases s.requests.find? job.reportRequestId with
      | none => exact ih.cons _
      | some request => exact ih.cons_cons _

theorem Ledger.nodup_newestText (s : Ledger) : (s.listed.map newestText).Nodup := by
  have hids := s.listed_ids_sublist.nodup s.jobs.key_nodup
  apply List.Nodup.of_map fun key => (ofLex (OrderDual.ofDual key)).2
  rw [List.map_map]
  exact hids

theorem Ledger.nodup_newestInstant (s : Ledger) : (s.listed.map newestInstant).Nodup := by
  have hids := s.listed_ids_sublist.nodup s.jobs.key_nodup
  apply List.Nodup.of_map fun key => (ofLex (OrderDual.ofDual key)).2
  rw [List.map_map]
  exact hids

end Stored

section Query

variable {filters : ReportJobListFilters} {record : ListedJob} {zone : Instant → Instant}
  {createdFrom createdTo : Option Timestamp}

theorem satisfies_iff : Satisfies filters record = true ↔
    textAgrees filters.tenantId record.request.tenantId = true ∧
    textAgrees filters.region record.request.region = true ∧
    statusAgrees filters.status record.job.status = true ∧
    textAgrees filters.reportType record.request.reportType = true ∧
    portfolioMatches filters.portfolioId record.request.portfolioScope = .ok true ∧
    textAgrees filters.asOfDate record.request.asOfDate = true ∧
    textAgrees filters.idempotencyKey record.request.idempotencyKey = true ∧
    textAgrees filters.correlationId record.request.correlationId = true ∧
    notBefore filters.createdFrom record.job.createdAt.instant = .ok true ∧
    notAfter filters.createdTo record.job.createdAt.instant = .ok true := by
  simp only [Satisfies, recordMatchesFilters, decide_eq_true_eq, inTurn_eq_true, List.forall_mem_cons,
    List.not_mem_nil, false_implies, implies_true, and_true, Except.ok.injEq]

/-- A record that the matcher keeps is listed by its portfolio exactly if the scope is not read
in two ways. -/
theorem portfolioListed_iff
    (h : portfolioMatches filters.portfolioId record.request.portfolioScope = .ok true) :
    portfolioListed filters.portfolioId record.request.portfolioScope = true ↔
      ∀ text, filters.portfolioId = some text → text ≠ "" →
        (∀ ids, Json.lookup record.request.portfolioScope "portfolio_ids" = some (.str ids) →
          ids = text) ∧
        ∀ fields, Json.lookup record.request.portfolioScope "portfolio_ids" = some (.obj fields) →
          ∃ field ∈ fields, sqlText field.2 = some text := by
  cases hid : filters.portfolioId with
  | none => simp [portfolioListed]
  | some text =>
      rw [hid] at h
      by_cases hblank : text = ""
      · simp [portfolioListed, hblank]
      · simp only [portfolioMatches, hblank, if_false] at h
        unfold inPortfolioIds at h
        simp only [portfolioListed, portfolioRows, beq_eq_false_iff_ne.mpr hblank, Bool.false_or,
          Option.some.injEq]
        split at h
        · cases h
        · rename_i items hscope
          rw [Except.ok.injEq, List.any_eq_true] at h
          obtain ⟨item, hitem, htext⟩ := h
          refine iff_of_true ?_ fun text' htext' _ => ?_
          · simp only [hscope, List.any_eq_true]
            exact ⟨item, hitem, by simp [of_decide_eq_true htext, sqlText]⟩
          · simp [hscope]
        · rename_i fields hscope
          simp only [hscope, List.any_map, List.any_eq_true]
          constructor
          · rintro ⟨field, hfield, hvalue⟩ text' rfl -
            refine ⟨by simp, fun fields' hfields => ?_⟩
            cases hfields
            exact ⟨field, hfield, by simpa using hvalue⟩
          · intro hall
            obtain ⟨field, hfield, hvalue⟩ := (hall text rfl hblank).2 fields rfl
            exact ⟨field, hfield, by simpa using hvalue⟩
        · rename_i ids hscope
          simp only [hscope, List.any_cons, List.any_nil, Bool.or_false, sqlText, beq_iff_eq,
            Option.some.injEq]
          constructor
          · rintro rfl text' rfl -
            exact ⟨by simp, by simp⟩
          · intro hall
            exact (hall text rfl hblank).1 ids rfl
        · cases h

theorem boundText?_aware {t : Instant} {text : Option Timestamp}
    (h : boundText? zone (some (.aware t)) = .ok text) : text = some (dtToText t) := by
  simp only [boundText?, boundText] at h
  split at h
  · exact (Except.ok.inj h).symm
  · cases h

theorem listedFrom_iff (hwritten : record.AsWritten)
    (hconverts : boundText? zone filters.createdFrom = .ok createdFrom)
    (h : notBefore filters.createdFrom record.job.createdAt.instant = .ok true) :
    createdFrom.all (fun bound => bound.le record.job.createdAt) = true ↔
      ∀ t, filters.createdFrom = some (.aware t) → ¬ StartOf t record.job.createdAt.instant := by
  unfold notBefore at h
  split at h
  · rename_i hbound
    rw [hbound] at hconverts ⊢
    cases hconverts
    simp
  · rename_i t hbound
    rw [hbound] at hconverts ⊢
    rw [boundText?_aware hconverts, Option.all_some, createdAt_eq hwritten.created, le_dtToText_iff]
    have hle : t ≤ record.job.createdAt.instant := by simpa using h
    simp only [dtToText, Option.some.injEq, Bound.aware.injEq, forall_eq']
    constructor
    · rintro (⟨-, hstart⟩ | hstart)
      · exact hstart
      · exact absurd hstart.lt hle.not_gt
    · exact fun hstart => .inl ⟨hle, hstart⟩
  · cases h

theorem listedTo_iff (hwritten : record.AsWritten)
    (hconverts : boundText? zone filters.createdTo = .ok createdTo)
    (h : notAfter filters.createdTo record.job.createdAt.instant = .ok true) :
    createdTo.all (fun bound => record.job.createdAt.le bound) = true ↔
      ∀ t, filters.createdTo = some (.aware t) → ¬ StartOf record.job.createdAt.instant t := by
  unfold notAfter at h
  split at h
  · rename_i hbound
    rw [hbound] at hconverts ⊢
    cases hconverts
    simp
  · rename_i t hbound
    rw [hbound] at hconverts ⊢
    rw [boundText?_aware hconverts, Option.all_some, createdAt_eq hwritten.created, le_dtToText_iff]
    have hle : record.job.createdAt.instant ≤ t := by simpa using h
    simp only [dtToText, Option.some.injEq, Bound.aware.injEq, forall_eq']
    constructor
    · rintro (⟨-, hstart⟩ | hstart)
      · exact hstart
      · exact absurd hstart.lt hle.not_gt
    · exact fun hstart => .inl ⟨hle, hstart⟩
  · cases h

theorem not_dropped_iff : ¬ Dropped filters record ↔
    (∀ t, filters.createdFrom = some (.aware t) → ¬ StartOf t record.job.createdAt.instant) ∧
    (∀ t, filters.createdTo = some (.aware t) → ¬ StartOf record.job.createdAt.instant t) ∧
    ∀ text, filters.portfolioId = some text → text ≠ "" →
      (∀ ids, Json.lookup record.request.portfolioScope "portfolio_ids" = some (.str ids) →
        ids = text) ∧
      ∀ fields, Json.lookup record.request.portfolioScope "portfolio_ids" = some (.obj fields) →
        ∃ field ∈ fields, sqlText field.2 = some text := by
  constructor
  · intro h
    refine ⟨fun t hfrom hstart => h (.early hfrom hstart), fun t hto hstart => h (.late hto hstart),
      fun text hid hne => ⟨fun ids hscope => ?_, fun fields hscope => ?_⟩⟩
    · by_contra hpart
      exact h (.part hid hne hscope hpart)
    · by_contra hvalue
      exact h (.key hid hne hscope fun field hfield htext => hvalue ⟨field, hfield, htext⟩)
  · rintro ⟨hfrom, hto, hportfolio⟩ hdropped
    cases hdropped with
    | early hbound hstart => exact hfrom _ hbound hstart
    | late hbound hstart => exact hto _ hbound hstart
    | part hid hne hscope hpart => exact hpart ((hportfolio _ hid hne).1 _ hscope)
    | key hid hne hscope hvalue =>
        obtain ⟨field, hfield, htext⟩ := (hportfolio _ hid hne).2 _ hscope
        exact hvalue field hfield htext

/-- Of the records that the matcher keeps, the query admits all but the dropped ones. -/
theorem admits_iff (hwritten : record.AsWritten)
    (hfrom : boundText? zone filters.createdFrom = .ok createdFrom)
    (hto : boundText? zone filters.createdTo = .ok createdTo)
    (h : Satisfies filters record = true) :
    admits filters createdFrom createdTo record = true ↔ ¬ Dropped filters record := by
  obtain ⟨htenant, hregion, hstatus, htype, hportfolio, hdate, hkey, hcorrelation, hbefore, hafter⟩ :=
    satisfies_iff.mp h
  rw [not_dropped_iff, ← listedFrom_iff hwritten hfrom hbefore, ← listedTo_iff hwritten hto hafter,
    ← portfolioListed_iff hportfolio]
  simp only [admits, htenant, hregion, hstatus, htype, hdate, hkey, hcorrelation, hwritten.scope,
    Bool.true_and, Bool.and_eq_true]
  constructor
  · rintro ⟨⟨hlisted, hfirst⟩, hlast⟩
    exact ⟨hfirst, hlast, hlisted⟩
  · rintro ⟨hfirst, hlast, hlisted⟩
    exact ⟨⟨hlisted, hfirst⟩, hlast⟩

end Query

section Pages

variable {s : Ledger} {filters : ReportJobListFilters} {zone : Instant → Instant}
  {createdFrom createdTo : Option Timestamp}

/-- A page cut at a limit is the page due exactly if the texts agree. -/
theorem page_eq_iff (hwritten : ∀ record ∈ s.listed, record.AsWritten)
    (hfrom : boundText? zone filters.createdFrom = .ok createdFrom)
    (hto : boundText? zone filters.createdTo = .ok createdTo) (n : Nat) :
    ((ranked newestText (s.listed.filter (admits filters createdFrom createdTo))).take n).filter
        (Satisfies filters) =
      (ranked newestInstant (s.listed.filter (Satisfies filters))).take n ↔
    (∀ record, Due newestInstant (Satisfies filters) s.listed n record →
      ¬ Dropped filters record ∧ (s.listed.countP fun other =>
        admits filters createdFrom createdTo other &&
          decide (newestText other < newestText record)) < n) ∧
    ∀ record other, Due newestInstant (Satisfies filters) s.listed n record →
      Due newestInstant (Satisfies filters) s.listed n other →
      ¬ StartOf record.job.createdAt.instant other.job.createdAt.instant := by
  rw [filter_take_ranked_eq_iff s.nodup_newestText s.nodup_newestInstant]
  apply and_congr
  · apply forall_congr'
    intro record
    apply imp_congr_right
    rintro ⟨hlisted, hsatisfies, -⟩
    rw [Due, admits_iff (hwritten record hlisted) hfrom hto hsatisfies]
    exact and_iff_right hlisted
  · constructor
    · intro halike record other hrecord hother
      have hboth := (ordered_alike_iff (hwritten record hrecord.1).created
        (hwritten other hother.1).created).mp
        ⟨halike record other hrecord hother, halike other record hother hrecord⟩
      exact hboth.1
    · intro hstart record other hrecord hother
      have hboth := (ordered_alike_iff (hwritten record hrecord.1).created
        (hwritten other hother.1).created).mpr
        ⟨hstart record other hrecord hother, hstart other record hother hrecord⟩
      exact hboth.1

/-- The rows that are fetched. -/
theorem mem_limited_iff {record : ListedJob} :
    record ∈ limited filters.limit
        (ranked newestText (s.listed.filter (admits filters createdFrom createdTo))) ↔
      record ∈ s.listed ∧ admits filters createdFrom createdTo record = true ∧
        (0 ≤ filters.limit → (s.listed.countP fun other =>
          admits filters createdFrom createdTo other &&
            decide (newestText other < newestText record)) < filters.limit.toNat) := by
  unfold limited
  split
  · rename_i hlimit
    rw [(perm_ranked _ _).mem_iff, List.mem_filter]
    simp only [show ¬ 0 ≤ filters.limit by omega, false_implies, and_true]
  · rename_i hlimit
    rw [mem_take_filter_iff s.nodup_newestText, Due]
    simp only [show 0 ≤ filters.limit by omega, true_implies]

/-- The fetched rows, filtered, are the rows due exactly if the texts agree. -/
theorem textsAgree_iff (hwritten : ∀ record ∈ s.listed, record.AsWritten)
    (hfrom : boundText? zone filters.createdFrom = .ok createdFrom)
    (hto : boundText? zone filters.createdTo = .ok createdTo) :
    matching filters (limited filters.limit
        (ranked newestText (s.listed.filter (admits filters createdFrom createdTo)))) =
      .ok (s.firstMatching filters) ↔ TextsAgree s filters createdFrom createdTo := by
  have hcompares : (∀ record ∈ limited filters.limit
      (ranked newestText (s.listed.filter (admits filters createdFrom createdTo))),
      ∀ error, recordMatchesFilters filters record ≠ .error error) ↔
      ∀ record ∈ s.listed, admits filters createdFrom createdTo record = true →
        (0 ≤ filters.limit → (s.listed.countP fun other =>
          admits filters createdFrom createdTo other &&
            decide (newestText other < newestText record)) < filters.limit.toNat) →
        ∀ error, recordMatchesFilters filters record ≠ .error error := by
    simp only [mem_limited_iff, and_imp]
  rw [matching_eq_iff, hcompares]
  by_cases hlimit : filters.limit < 0
  · have hnone : ∀ record, ¬ Due newestInstant (Satisfies filters) s.listed filters.limit.toNat
        record := by
      rintro record ⟨-, -, hcount⟩
      omega
    have hempty : (limited filters.limit (ranked newestText (s.listed.filter
        (admits filters createdFrom createdTo)))).filter (Satisfies filters) =
          s.firstMatching filters ↔
        ∀ record ∈ s.listed, Satisfies filters record = true → Dropped filters record := by
      have hzero : filters.limit.toNat = 0 := by omega
      rw [Ledger.firstMatching, hzero, List.take_zero, List.filter_eq_nil_iff, limited, if_pos hlimit]
      constructor
      · intro h record hrecord hsatisfies
        by_contra hdropped
        have hadmits := (admits_iff (hwritten record hrecord) hfrom hto hsatisfies).mpr hdropped
        exact h record ((perm_ranked _ _).mem_iff.mpr (List.mem_filter.mpr ⟨hrecord, hadmits⟩))
          hsatisfies
      · intro h record hrecord hsatisfies
        obtain ⟨hlisted, hadmits⟩ := List.mem_filter.mp ((perm_ranked _ _).mem_iff.mp hrecord)
        exact (admits_iff (hwritten record hlisted) hfrom hto hsatisfies).mp hadmits
          (h record hlisted hsatisfies)
    rw [hempty]
    constructor
    · rintro ⟨hcompares, hdropped⟩
      exact ⟨hcompares, fun _ => hdropped, fun record hdue => absurd hdue (hnone record),
        fun record _ hdue => absurd hdue (hnone record)⟩
    · intro hagree
      exact ⟨hagree.compares, hagree.unlimited hlimit⟩
  · rw [Ledger.firstMatching, limited, if_neg hlimit, page_eq_iff hwritten hfrom hto]
    constructor
    · rintro ⟨hcompares, hshown, hordered⟩
      exact ⟨hcompares, fun hnegative => absurd hnegative hlimit, hshown, hordered⟩
    · intro hagree
      exact ⟨hagree.compares, hagree.shown, hagree.ordered⟩

/-- A listing is exact, for every history of the ledger, exactly if its limit and its bounds can be
written for the query and the texts that the query compares agree with what they stand for. -/
theorem listJobs_eq_firstMatching_iff (d : Deployment) (history : List Call)
    (zone : Instant → Instant) (filters : ReportJobListFilters) :
    (run (Ledger.step d) .empty history).listJobs zone filters =
        .ok ((run (Ledger.step d) .empty history).firstMatching filters) ↔
      (-2 ^ 63 ≤ filters.limit ∧ filters.limit < 2 ^ 63) ∧
      ∃ createdFrom createdTo, boundText? zone filters.createdFrom = .ok createdFrom ∧
        boundText? zone filters.createdTo = .ok createdTo ∧
        TextsAgree (run (Ledger.step d) .empty history) filters createdFrom createdTo := by
  have hwritten : ∀ record ∈ (run (Ledger.step d) .empty history).listed, record.AsWritten :=
    fun record hrecord => Ledger.asWritten_of_listed d history hrecord
  generalize run (Ledger.step d) .empty history = s at hwritten
  unfold Ledger.listJobs Ledger.listJobRows
  cases hfrom : boundText? zone filters.createdFrom with
  | error error => simp [bind, Except.bind]
  | ok createdFrom =>
      cases hto : boundText? zone filters.createdTo with
      | error error => simp [bind, Except.bind]
      | ok createdTo =>
          by_cases hlimit : -2 ^ 63 ≤ filters.limit ∧ filters.limit < 2 ^ 63
          · rw [and_iff_right hlimit]
            simp only [bind, Except.bind, if_pos hlimit, pure, Except.pure, Except.ok.injEq,
              exists_and_left, exists_eq_left', textsAgree_iff hwritten hfrom hto]
          · simp only [bind, Except.bind, hlimit, if_false, false_and, reduceCtorEq]

/-- A job created half a second after the start of a second is left out of a page from that
second on. -/
def lateSubmit : Call :=
  .ledger (.create (submitPortfolioReviewJob sampleCaller (some "key-1")
    ⟨"rrq_1", "rjob_1", "rwork_1", .ok none, 500000⟩ sampleRequest))

theorem not_listJobs_eq_whole_second : ¬ ∀ (d : Deployment) (history : List Call)
    (zone : Instant → Instant) (filters : ReportJobListFilters),
    (run (Ledger.step d) .empty history).listJobs zone filters =
      .ok ((run (Ledger.step d) .empty history).firstMatching filters) := by
  intro h
  have heq := h sampleDeployment [lateSubmit] id { createdFrom := some (.aware 0) }
  have hnone : (run (Ledger.step sampleDeployment) .empty [lateSubmit]).listJobs id
      { createdFrom := some (.aware 0) } = .ok [] := by decide +kernel
  have hone : ((run (Ledger.step sampleDeployment) .empty [lateSubmit]).firstMatching
      { createdFrom := some (.aware 0) }).length = 1 := by decide +kernel
  rw [hnone, Except.ok.injEq] at heq
  rw [← heq] at hone
  cases hone

end Pages

end LotusReport.Jobs
