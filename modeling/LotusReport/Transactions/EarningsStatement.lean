import LotusReport.Transactions.Window

/-!
# The completeness of the earnings statement

A statement presents its sums as totals of the period unless the notes of the
transaction read say that the window was truncated. The read takes such a note when
it stops at a budget, and only then.
-/

namespace LotusReport.Transactions

open Encoding

section Model

/-- The claim that the sums of a statement make. -/
inductive Completeness where
  | complete
  | windowTruncated
deriving DecidableEq, Repr

/-- The posture of a resolved statement. -/
inductive Posture where
  | ready
  | empty
deriving DecidableEq, Repr

/-- A note as the statement repeats it. -/
structure StatementNote where
  code : Option String
  severity : Option String
  message : Option String
deriving DecidableEq

/-- A resolved statement; its income, profit and methodology blocks are left out. -/
structure EarningsStatement where
  posture : Posture
  completeness : Completeness
  reviewedTransactionCount : Option Int
  sourceTransactionCount : Option Int
  notes : List StatementNote
deriving DecidableEq

/-- What `build_earnings_statement` returns. -/
inductive StatementOutcome where
  | notOrdered
  | unavailable (notes : List StatementNote)
  | resolved (statement : EarningsStatement)
deriving DecidableEq

/-- `_text`. -/
def text (value : Json) : String := strip (safeStr value)

/-- `_text(…) or None`. -/
def textOrNone (value : Json) : Option String := if text value = "" then none else some (text value)

/-- `_count_or_none`. -/
def countOrNone : Json → Option Int
  | .int n => some n
  | _ => none

/-- `_count`. -/
def count (value : Json) : Int := (countOrNone value).getD 0

/-- `_raw_notes`; a number cannot be iterated over. -/
def rawNotes (section_ : Fields) : Option (List Fields) :=
  match get (asDict (get section_ "supportability")) "notes" with
  | .arr items => some (items.filterMap dict?)
  | .int n => if n = 0 then some [] else none
  | .float text => if (Json.float text).truthy then none else some []
  | .bool b => if b then none else some []
  | _ => some []

/-- `_notes`. -/
def statementNotes (notes : List Fields) : List StatementNote :=
  notes.map fun note =>
    ⟨textOrNone (get note "code"), textOrNone (get note "severity"), textOrNone (get note "message")⟩

/-- The note says that the window was truncated. -/
def isTruncation (note : Fields) : Bool :=
  text (get note "code") == "transaction_window_truncated"

/-- `_completeness`. -/
def completenessOf (notes : List Fields) : Completeness × Option Int × Option Int :=
  match notes.find? isTruncation with
  | some note =>
      (.windowTruncated, countOrNone (get note "returned_count"), countOrNone (get note "source_total"))
  | none => (.complete, none, none)

/-- `build_earnings_statement`. -/
def buildEarningsStatement (snapshot : Fields) : Option StatementOutcome :=
  let section_ := asDict (get snapshot "incomeAndActivity")
  if section_ = [] then some .notOrdered
  else
    let income := asDict (get section_ "incomeSummary")
    let realized := asDict (get section_ "realizedPnlSummary")
    (rawNotes section_).map fun notes =>
      if income = [] ∨ realized = [] then .unavailable (statementNotes notes)
      else
        let (completeness, reviewed, source) := completenessOf notes
        let nothing := count (get income "transaction_count") = 0 ∧
          text (get realized "status") ≠ "present"
        .resolved {
          posture := if nothing ∧ completeness = .complete then .empty else .ready
          completeness := completeness
          reviewedTransactionCount := reviewed
          sourceTransactionCount := source
          notes := statementNotes notes }

end Model

section Purpose

variable (py : Platform) (budgets : Budgets) (limit : Int) (answers : Nat → Answer)

/-- As many rows were read as the source stated last. -/
def TransactionRowsResult.Whole (result : TransactionRowsResult) : Prop :=
  ∃ total, result.sourceTotal = some total ∧ (result.rows.length : Int) = total.value

/-- Fewer rows were read than the source stated last. -/
def TransactionRowsResult.Short (result : TransactionRowsResult) : Prop :=
  ∃ total, result.sourceTotal = some total ∧ (result.rows.length : Int) < total.value

/-- The captured section carries the notes of the read. -/
def Carries (snapshot : Fields) (result : TransactionRowsResult) : Prop :=
  ∃ section_ supportability, get snapshot "incomeAndActivity" = .obj section_ ∧
    get section_ "supportability" = .obj supportability ∧
    get supportability "notes" = .arr result.supportability.2

/-- No statement about this read presents a floor as a total. -/
def FloorNeverTotal : Prop :=
  ∀ result, listTransactionRowsResult py budgets limit answers = .ok result →
    ∀ snapshot, Carries snapshot result →
      ∀ statement, buildEarningsStatement snapshot = some (.resolved statement) →
        (statement.completeness = .complete → result.Whole) ∧
        (statement.posture = .empty → result.Whole) ∧
        (result.Short → statement.completeness = .windowTruncated)

/-- The number of rows on the first pages. -/
def delivered : Nat → Nat
  | 0 => 0
  | k + 1 => delivered k +
      match readPage py (answers k) with
      | .ok page => page.rows.length
      | .error _ => 0

/-- The page brings rows and leaves some to come, as its stated total says. -/
def Continues (k : Nat) : Prop :=
  ∃ page, readPage py (answers k) = .ok page ∧ page.rows ≠ [] ∧
    (delivered py answers (k + 1) : Int) < page.total.value

/-- A page that is asked for, unless it spends the row budget, brings the rows to its stated total
or brings rows and stays below it. -/
def MeetsTotals : Prop :=
  ∀ k page, k < budgets.maxPages → (∀ j < k, Continues py answers j) →
    readPage py (answers k) = .ok page → delivered py answers (k + 1) < budgets.maxRows →
      (delivered py answers (k + 1) : Int) = page.total.value ∨ Continues py answers k

end Purpose

section Results

variable {py : Platform} {budgets : Budgets} {limit : Int} {answers : Nat → Answer}

theorem mem_noteIf {present : Bool} {fields : Fields} {note : Json}
    (h : note ∈ noteIf present fields) : note = .obj fields := by
  cases present with
  | true => exact List.mem_singleton.mp h
  | false => cases h

theorem isTruncation_code (code : String) (fields : Fields) :
    isTruncation (("code", .str code) :: fields) = (strip code == "transaction_window_truncated") := by
  simp [isTruncation, get, Json.lookup, text, safeStr]

theorem not_isTruncation {sourceProduct : Fields} {returnedCount fetchedPages : Nat}
    {sourceTotal : Option Count} {note : Json}
    (h : note ∈ sourceProductNotes py sourceProduct returnedCount sourceTotal fetchedPages) :
    isTruncation (asDict note) = false := by
  unfold sourceProductNotes at h
  simp only [List.mem_append] at h
  rcases h with ((((h | h) | h) | h) | h) | h
  all_goals
    rw [mem_noteIf h]
    exact (isTruncation_code _ _).trans (by decide +kernel)

theorem dict?_eq_some {note : Json} {fields : Fields} (h : dict? note = some fields) :
    asDict note = fields := by
  cases note with
  | obj fields' => exact Option.some.inj h
  | _ => cases h

/-- The notes of a read state the truncation exactly when the read stopped at a budget. -/
theorem completenessOf_notes (returnedCount fetchedPages : Nat) (sourceTotal : Option Count)
    (stopReason : Option StopReason) (sourceProduct : Fields) :
    (completenessOf ((transactionWindowSupportability py budgets returnedCount sourceTotal
      fetchedPages stopReason sourceProduct).2.filterMap dict?)).1 =
        if stopReason = none then .complete else .windowTruncated := by
  cases stopReason with
  | none =>
      have hnone : ((sourceProductNotes py sourceProduct returnedCount sourceTotal
          fetchedPages).filterMap dict?).find? isTruncation = none := by
        refine List.find?_eq_none.mpr fun fields hfields => ?_
        obtain ⟨note, hnote, hdict⟩ := List.mem_filterMap.mp hfields
        have htruncation := not_isTruncation hnote
        rw [dict?_eq_some hdict] at htruncation
        simp [htruncation]
      unfold completenessOf transactionWindowSupportability
      rw [hnone]
      rfl
  | some reason =>
      have htruncation : ∀ fields, isTruncation
          (("code", .str "transaction_window_truncated") :: fields) = true := fun fields =>
        (isTruncation_code _ _).trans (by decide +kernel)
      unfold completenessOf transactionWindowSupportability truncationNote
      simp only [List.filterMap_cons, dict?, List.find?_cons, htruncation]
      rfl

section Loop

variable {r : Reading} {page : Page}

theorem delivered_succ {k : Nat} (hpage : readPage py (answers k) = .ok page) :
    delivered py answers (k + 1) = delivered py answers k + page.rows.length := by
  rw [delivered, hpage]

theorem delivered_mono {j k : Nat} (h : j ≤ k) : delivered py answers j ≤ delivered py answers k := by
  induction h with
  | refl => exact le_rfl
  | step _ ih => exact ih.trans (Nat.le_add_right _ _)

variable (py budgets answers) in
/-- The loop has read pages that announced more. -/
structure Going (r : Reading) : Prop where
  rows : r.rows.length = delivered py answers r.fetchedPages
  skip : r.skip = delivered py answers r.fetchedPages
  continues : ∀ j < r.fetchedPages, Continues py answers j
  budget : delivered py answers r.fetchedPages < budgets.maxRows

theorem Going.rows_consume (h : Going py budgets answers r)
    (hpage : readPage py (answers r.fetchedPages) = .ok page) :
    (r.consume py budgets limit page).rows.length =
      min (delivered py answers (r.fetchedPages + 1)) budgets.maxRows := by
  have hbudget := h.budget
  have hrows := h.rows
  simp only [Reading.consume, List.length_append, List.length_take, delivered_succ hpage]
  omega

theorem Going.skip_consume (h : Going py budgets answers r)
    (hpage : readPage py (answers r.fetchedPages) = .ok page) :
    (r.consume py budgets limit page).skip = delivered py answers (r.fetchedPages + 1) := by
  simp only [Reading.consume, h.skip, delivered_succ hpage]

/-- A page that announces more leaves the loop going. -/
theorem Going.consume (h : Going py budgets answers r)
    (hpage : readPage py (answers r.fetchedPages) = .ok page)
    (hbudget : delivered py answers (r.fetchedPages + 1) < budgets.maxRows)
    (hcontinues : Continues py answers r.fetchedPages) :
    Going py budgets answers (r.consume py budgets limit page) := by
  refine ⟨?_, h.skip_consume hpage, fun j hj => ?_, hbudget⟩
  · rw [h.rows_consume hpage, min_eq_left hbudget.le]
    rfl
  · rcases Nat.lt_succ_iff_lt_or_eq.mp hj with hj | rfl
    · exact h.continues j hj
    · exact hcontinues

theorem Going.continues_iff (h : Going py budgets answers r)
    (hpage : readPage py (answers r.fetchedPages) = .ok page) :
    (page.rows = [] ∨ page.total.value ≤ (r.consume py budgets limit page).skip) ↔
      ¬Continues py answers r.fetchedPages := by
  rw [h.skip_consume hpage]
  constructor
  · rintro hends ⟨page', hpage', hrows, hmore⟩
    cases hpage.symm.trans hpage'
    rcases hends with hempty | hreached
    · exact hrows hempty
    · omega
  · intro hends
    by_contra hnot
    rw [not_or, not_le] at hnot
    exact hends ⟨page, hpage, hnot.1, hnot.2⟩

theorem Going.spends_iff (h : Going py budgets answers r)
    (hpage : readPage py (answers r.fetchedPages) = .ok page) :
    (budgets.maxRows - r.rows.length < page.rows.length ∨
      budgets.maxRows ≤ (r.consume py budgets limit page).rows.length) ↔
        budgets.maxRows ≤ delivered py answers (r.fetchedPages + 1) := by
  rw [h.rows_consume hpage, h.rows, delivered_succ hpage]
  have hbudget := h.budget
  omega

theorem Going.readPages_succ (h : Going py budgets answers r) (remaining : Nat)
    (hpage : readPage py (answers r.fetchedPages) = .ok page) :
    (budgets.maxRows ≤ delivered py answers (r.fetchedPages + 1) ∧
      readPages py budgets limit answers (remaining + 1) r =
        .ok (r.consume py budgets limit page, some .maxRowsReached)) ∨
    delivered py answers (r.fetchedPages + 1) < budgets.maxRows ∧
      (¬Continues py answers r.fetchedPages ∧
        readPages py budgets limit answers (remaining + 1) r =
          .ok (r.consume py budgets limit page, none) ∨
      Continues py answers r.fetchedPages ∧
        readPages py budgets limit answers (remaining + 1) r =
          readPages py budgets limit answers remaining (r.consume py budgets limit page)) := by
  have hopen : ¬budgets.maxRows ≤ r.rows.length := by
    rw [h.rows]
    exact not_le.mpr h.budget
  rw [readPages, if_neg hopen]
  simp only [hpage, h.spends_iff hpage]
  by_cases hbudget : budgets.maxRows ≤ delivered py answers (r.fetchedPages + 1)
  · exact .inl ⟨hbudget, by rw [if_pos hbudget]⟩
  · refine .inr ⟨not_le.mp hbudget, ?_⟩
    rw [if_neg hbudget]
    by_cases hcontinues : Continues py answers r.fetchedPages
    · exact .inr ⟨hcontinues, by rw [if_neg (mt (h.continues_iff hpage).mp (not_not.mpr hcontinues))]⟩
    · exact .inl ⟨hcontinues, by rw [if_pos ((h.continues_iff hpage).mpr hcontinues)]⟩

theorem Going.readPages_none {remaining : Nat} {r' : Reading} (h : Going py budgets answers r)
    (hpages : r.fetchedPages + remaining = budgets.maxPages)
    (hread : readPages py budgets limit answers remaining r = .ok (r', none)) :
    ∃ k page, k < budgets.maxPages ∧ (∀ j < k, Continues py answers j) ∧
      readPage py (answers k) = .ok page ∧ delivered py answers (k + 1) < budgets.maxRows ∧
      ¬Continues py answers k ∧ r'.rows.length = delivered py answers (k + 1) ∧
      r'.sourceTotal = some page.total := by
  induction remaining generalizing r with
  | zero => simp [readPages] at hread
  | succ remaining ih =>
      cases hpage : readPage py (answers r.fetchedPages) with
      | error e =>
          have hopen : ¬budgets.maxRows ≤ r.rows.length := by
            rw [h.rows]
            exact not_le.mpr h.budget
          rw [readPages, if_neg hopen, hpage] at hread
          cases hread
      | ok page =>
          rcases h.readPages_succ remaining hpage with
            ⟨-, heq⟩ | ⟨hbudget, ⟨hends, heq⟩ | ⟨hcontinues, heq⟩⟩
          · rw [heq] at hread
            cases hread
          · rw [heq] at hread
            cases hread
            refine ⟨r.fetchedPages, page, by omega, h.continues, hpage, hbudget, hends, ?_, rfl⟩
            rw [h.rows_consume hpage, min_eq_left hbudget.le]
          · rw [heq] at hread
            refine ih (h.consume hpage hbudget hcontinues) ?_ hread
            show r.fetchedPages + 1 + remaining = budgets.maxPages
            omega

/-- A read ends at the first page that announces no more, if it is within the budgets. -/
theorem Going.readPages_ends {remaining k : Nat} (h : Going py budgets answers r)
    (hpages : r.fetchedPages + remaining = budgets.maxPages) (hk : k < budgets.maxPages)
    (hfetched : r.fetchedPages ≤ k) (hcontinues : ∀ j < k, Continues py answers j)
    (hpage : readPage py (answers k) = .ok page)
    (hbudget : delivered py answers (k + 1) < budgets.maxRows) (hends : ¬Continues py answers k) :
    ∃ r', readPages py budgets limit answers remaining r = .ok (r', none) ∧
      r'.rows.length = delivered py answers (k + 1) ∧ r'.sourceTotal = some page.total := by
  induction remaining generalizing r with
  | zero => omega
  | succ remaining ih =>
      rcases hfetched.eq_or_lt with rfl | hlt
      · rcases h.readPages_succ remaining hpage with ⟨hspent, -⟩ | ⟨-, ⟨-, heq⟩ | ⟨hmore, -⟩⟩
        · omega
        · refine ⟨_, heq, ?_, rfl⟩
          rw [h.rows_consume hpage, min_eq_left hbudget.le]
        · exact absurd hmore hends
      · have hmore := hcontinues r.fetchedPages hlt
        obtain ⟨page', hpage', -⟩ := id hmore
        have hwithin : delivered py answers (r.fetchedPages + 1) < budgets.maxRows :=
          (delivered_mono (by omega)).trans_lt hbudget
        rcases h.readPages_succ remaining hpage' with ⟨hspent, -⟩ | ⟨-, ⟨hnot, -⟩ | ⟨-, heq⟩⟩
        · omega
        · exact absurd hmore hnot
        · rw [heq]
          refine ih (h.consume hpage' hwithin hmore) ?_ hlt
          show r.fetchedPages + 1 + remaining = budgets.maxPages
          omega

theorem going_initial : Going py budgets answers {} where
  rows := rfl
  skip := rfl
  continues := fun _ hj => absurd hj (Nat.not_lt_zero _)
  budget := budgets.positive.1

end Loop

theorem completeness_of_carries {result : TransactionRowsResult} {snapshot : Fields}
    {statement : EarningsStatement} (hcarries : Carries snapshot result)
    (hstatement : buildEarningsStatement snapshot = some (.resolved statement)) :
    statement.completeness = (completenessOf (result.supportability.2.filterMap dict?)).1 ∧
      (statement.posture = .empty → statement.completeness = .complete) := by
  obtain ⟨section_, supportability, hsection, hsupportability, hnotes⟩ := hcarries
  have hraw : rawNotes section_ = some (result.supportability.2.filterMap dict?) := by
    rw [rawNotes, hsupportability, asDict, hnotes]
  have hordered : asDict (get snapshot "incomeAndActivity") = section_ := by rw [hsection, asDict]
  unfold buildEarningsStatement at hstatement
  simp only [hordered, hraw] at hstatement
  split at hstatement
  · cases hstatement
  · rw [Option.map_some, Option.some.injEq] at hstatement
    split at hstatement
    · cases hstatement
    · cases hstatement
      refine ⟨rfl, fun hempty => ?_⟩
      dsimp only at hempty
      split at hempty
      · rename_i h
        exact h.2
      · cases hempty

/-- A captured section with notes and both summaries. -/
def capturedSection (notes : List Json) : Fields :=
  [("incomeAndActivity", .obj [
    ("incomeSummary", .obj [("transaction_count", .int 0)]),
    ("realizedPnlSummary", .obj [("status", .str "not_applicable")]),
    ("supportability", .obj [("notes", .arr notes)])])]

theorem carries_capturedSection (result : TransactionRowsResult) :
    Carries (capturedSection result.supportability.2) result :=
  ⟨_, _, rfl, rfl, rfl⟩

theorem resolved_capturedSection (notes : List Json) :
    ∃ statement, buildEarningsStatement (capturedSection notes) = some (.resolved statement) :=
  ⟨_, rfl⟩

/-- Statements present no floor as a total exactly when a read that stops at no budget has read as
many rows as were stated. -/
theorem floorNeverTotal_iff_whole :
    FloorNeverTotal py budgets limit answers ↔
      ∀ r, readPages py budgets (if limit = 0 then 500 else limit) answers budgets.maxPages {} =
          .ok (r, none) →
        ∃ total, r.sourceTotal = some total ∧ (r.rows.length : Int) = total.value := by
  constructor
  · intro h r hread
    have hresult : ∃ result, listTransactionRowsResult py budgets limit answers = .ok result ∧
        result.rows = r.rows ∧ result.sourceTotal = r.sourceTotal ∧
        result.supportability = transactionWindowSupportability py budgets r.rows.length
          r.sourceTotal r.fetchedPages none r.sourceProduct := by
      rw [listTransactionRowsResult, hread]
      exact ⟨_, rfl, rfl, rfl, rfl⟩
    obtain ⟨result, hresult, hrows, htotal, hsupport⟩ := hresult
    obtain ⟨statement, hstatement⟩ := resolved_capturedSection result.supportability.2
    have hcarries := carries_capturedSection result
    have hcomplete := (completeness_of_carries hcarries hstatement).1
    rw [hsupport, completenessOf_notes, if_pos rfl] at hcomplete
    have hwhole := (h result hresult _ hcarries statement hstatement).1 hcomplete
    rw [TransactionRowsResult.Whole, hrows, htotal] at hwhole
    exact hwhole
  · intro h result hresult snapshot hcarries statement hstatement
    obtain ⟨hcompleteness, hposture⟩ := completeness_of_carries hcarries hstatement
    rw [listTransactionRowsResult] at hresult
    cases hread : readPages py budgets (if limit = 0 then 500 else limit) answers budgets.maxPages {} with
    | error e =>
        rw [hread] at hresult
        cases hresult
    | ok outcome =>
        obtain ⟨r, stopReason⟩ := outcome
        rw [hread] at hresult
        cases hresult
        rw [completenessOf_notes] at hcompleteness
        cases stopReason with
        | none =>
            obtain ⟨total, htotal, hrows⟩ := h r hread
            refine ⟨fun _ => ⟨total, htotal, hrows⟩, fun _ => ⟨total, htotal, hrows⟩, ?_⟩
            rintro ⟨total', htotal', hshort⟩
            cases htotal.symm.trans htotal'
            exact absurd hrows hshort.ne
        | some reason =>
            rw [if_neg (by simp)] at hcompleteness
            refine ⟨fun hcomplete => ?_, fun hempty => ?_, fun _ => hcompleteness⟩
            · rw [hcompleteness] at hcomplete
              cases hcomplete
            · have hcomplete := hposture hempty
              rw [hcompleteness] at hcomplete
              cases hcomplete

variable (py budgets limit answers) in
/-- No statement presents a floor as a total exactly when the pages meet their stated totals. -/
theorem floorNeverTotal_iff : FloorNeverTotal py budgets limit answers ↔
    MeetsTotals py budgets answers := by
  rw [floorNeverTotal_iff_whole]
  constructor
  · intro h k page hk hcontinues hpage hbudget
    by_contra hnot
    rw [not_or] at hnot
    obtain ⟨r, hread, hrows, htotal⟩ := going_initial.readPages_ends (Nat.zero_add _) hk
      (Nat.zero_le k) hcontinues hpage hbudget hnot.2
    obtain ⟨total, htotal', hwhole⟩ := h r hread
    cases htotal.symm.trans htotal'
    rw [hrows] at hwhole
    exact hnot.1 hwhole
  · intro h r hread
    obtain ⟨k, page, hk, hcontinues, hpage, hbudget, hends, hrows, htotal⟩ :=
      going_initial.readPages_none (Nat.zero_add _) hread
    refine ⟨page.total, htotal, ?_⟩
    rw [hrows]
    exact (h k page hk hcontinues hpage hbudget).resolve_right hends

/-- A platform for texts without letters to raise. -/
def plainPlatform : Platform := ⟨id, fun _ => none, fun _ => .nan⟩

/-- A source that states two transactions and delivers one. -/
def shortSource : Nat → Answer
  | 0 => ⟨200, .obj [("transactions", .arr [.obj []]), ("total", .int 2)]⟩
  | _ => ⟨200, .obj [("transactions", .arr []), ("total", .int 2)]⟩

/-- The completeness and the posture of a statement that is resolved. -/
def StatementOutcome.stated : StatementOutcome → Option (Completeness × Posture)
  | .resolved statement => some (statement.completeness, statement.posture)
  | _ => none

/-- One of two transactions was read, and the statement says that it is complete and empty. -/
theorem floor_presented_as_total :
    (∃ result statement, listTransactionRowsResult plainPlatform {} 500 shortSource = .ok result ∧
      Carries (capturedSection result.supportability.2) result ∧
      result.rows.length = 1 ∧ result.sourceTotal = some ⟨2, false⟩ ∧
      buildEarningsStatement (capturedSection result.supportability.2) =
        some (.resolved statement) ∧
      statement.completeness = .complete ∧ statement.posture = .empty) ∧
      ¬FloorNeverTotal plainPlatform {} 500 shortSource := by
  have hread : (listTransactionRowsResult plainPlatform {} 500 shortSource).toOption.map
      (fun result => (result.rows.length, result.sourceTotal,
        (buildEarningsStatement (capturedSection result.supportability.2)).bind
          StatementOutcome.stated)) = some (1, some ⟨2, false⟩, some (.complete, .empty)) := by
    decide +kernel
  obtain ⟨result, hresult, hvalues⟩ := Option.map_eq_some_iff.mp hread
  have hok : listTransactionRowsResult plainPlatform {} 500 shortSource = .ok result := by
    cases hcase : listTransactionRowsResult plainPlatform {} 500 shortSource with
    | error e =>
        rw [hcase] at hresult
        cases hresult
    | ok result' =>
        rw [hcase] at hresult
        rw [Option.some.inj hresult]
  simp only [Prod.mk.injEq] at hvalues
  obtain ⟨hrows, htotal, hstated⟩ := hvalues
  obtain ⟨statement, hstatement⟩ := resolved_capturedSection result.supportability.2
  rw [hstatement] at hstated
  simp only [Option.bind_some, StatementOutcome.stated, Option.some.injEq, Prod.mk.injEq] at hstated
  have hcarries := carries_capturedSection result
  refine ⟨⟨result, statement, hok, hcarries, hrows, htotal, hstatement, hstated.1, hstated.2⟩, ?_⟩
  intro h
  obtain ⟨total, htotal', hwhole⟩ := (h result hok _ hcarries statement hstatement).1 hstated.1
  cases htotal.symm.trans htotal'
  rw [hrows] at hwhole
  exact absurd hwhole (by decide)

end Results

end LotusReport.Transactions
