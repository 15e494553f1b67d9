import LotusReport.Composite.Eligibility.History
import LotusReport.Composite.Eligibility.Lineage
import LotusReport.Encoding.Fields
import LotusReport.Relational.Dictionary

/-!
# Published months

A published month holds an evaluation, the membership that follows from it and
the membership before it. The evaluated portfolios and the decisions of the
month are one population: each portfolio has one decision of the month, with
the status that was evaluated, and no other portfolio has one.
-/

namespace LotusReport.Composite.Eligibility

open Encoding Fallible Relational

section Rows

/-- A row of an evaluation. -/
structure EvaluatedRow where
  portfolio : String
  status : String
  observed : Bool
deriving DecidableEq

/-- A truth value. -/
def boolOf : Json → Except CaptureError Bool
  | .bool b => .ok b
  | _ => .error (.raised "TypeError")

def evaluatedRow (row : Json) : Except CaptureError EvaluatedRow := do
  return {
    portfolio := ← textOf (← subscript row "portfolio_id")
    status := ← textOf (← subscript row "status")
    observed := ← boolOf (← subscript row "observations_present") }

/-- A decision about a portfolio: its status in an interval of days. -/
structure MemberDecision where
  portfolio : String
  status : String
  first : CalendarDate
  last : CalendarDate
deriving DecidableEq

def memberDecision (row : Json) : Except CaptureError MemberDecision := do
  return {
    portfolio := ← textOf (← subscript row "portfolio_id")
    status := ← textOf (← subscript row "status")
    first := ← dateAt row "effective_from"
    last := ← endOf (← subscript row "effective_to") }

/-- The interval of a decision. -/
def MemberDecision.interval (d : MemberDecision) : HistoryInterval :=
  ⟨.str d.portfolio, d.first, d.last⟩

/-- The decision holds on a day between two dates. -/
def MemberDecision.meets (first last : CalendarDate) (d : MemberDecision) : Bool :=
  !last.before d.first && !d.last.before first

/-- The decisions of a membership. -/
def decisionsOf (membership : Json) : Except CaptureError (List MemberDecision) := do
  (← itemsOf (← subscript membership "decisions")).mapM memberDecision

/-- The rows of an evaluation. -/
def rowsOf (evaluation : Json) : Except CaptureError (List EvaluatedRow) := do
  (← itemsOf (← subscript evaluation "portfolios")).mapM evaluatedRow

/-- The counts that an evaluation states of its rows, by the names of their fields. -/
def statedCounts (rows : List EvaluatedRow) : List (String × Nat) :=
  [ ("expected_count", rows.length),
    ("observed_count", rows.countP fun row => row.observed),
    ("included_count", rows.countP fun row => row.status = "INCLUDED"),
    ("excluded_count", rows.countP fun row => row.status = "EXCLUDED"),
    ("pending_review_count", rows.countP fun row => row.status = "PENDING_REVIEW") ]

/-- Every decision holds on some day, and no two about one portfolio hold on the same day. -/
def Separate (decisions : List MemberDecision) : Prop :=
  (∀ d ∈ decisions, ∃ day, d.interval.Covers day) ∧
    decisions.Pairwise fun d e => d.portfolio = e.portfolio →
      ∀ day, ¬(d.interval.Covers day ∧ e.interval.Covers day)

end Rows

/-- A published month whose parts agree: the memberships, the evaluated rows and the days of the
month. -/
structure PublishedMonth (monthText : String) (month : Json) where
  rows : List EvaluatedRow
  decisions : List MemberDecision
  earlier : List MemberDecision
  first : CalendarDate
  last : CalendarDate
  bounds : monthBounds monthText = .ok (first, last)
  rowsRead : (readAt month ["receipt", "approval", "proposal", "evaluation"]).bind rowsOf = .ok rows
  decisionsRead : (subscript month "membership").bind decisionsOf = .ok decisions
  earlierRead : (subscript month "parent_membership").bind decisionsOf = .ok earlier
  separate : Separate decisions
  earlierSeparate : Separate earlier
  /-- Each evaluated portfolio has exactly one decision in the month, with the evaluated status. -/
  decided : ∀ row ∈ rows, ((decisions.filter fun d => d.portfolio = row.portfolio ∧
    d.meets first last).map fun d => d.status) = [row.status]
  /-- No other portfolio has one. -/
  noOther : ∀ d ∈ decisions, d.meets first last = true → d.portfolio ∈ rows.map fun row => row.portfolio
  /-- The portfolios stand in order, each once. -/
  sorted : (rows.map fun row => row.portfolio).Pairwise (· < ·)
  /-- They are the population that the proposal, its observations and the attestation expect. -/
  expected : ∀ path ∈ [["receipt", "approval", "proposal", "universe"],
    ["receipt", "approval", "proposal", "observations"], ["universe"]],
    readAt month (path ++ ["expected_portfolio_ids"]) =
      .ok (Json.ofTexts (rows.map fun row => row.portfolio))
  counts : ∀ count ∈ statedCounts rows,
    readAt month ["receipt", "approval", "proposal", "evaluation", count.1] = .ok (.int count.2)

section Reading

variable {lib : SourceLibrary} {co : Coercions} {isDecimal : String → Bool}

theorem textOf_eq_ok {value : Json} {text : String} : textOf value = .ok text ↔ value = .str text := by
  cases value <;> simp [textOf]

theorem boolOf_eq_ok {value : Json} {b : Bool} : boolOf value = .ok b ↔ value = .bool b := by
  cases value <;> simp [boolOf]

theorem memberDecision_eq_ok {row : Json} {d : MemberDecision} : memberDecision row = .ok d ↔
    subscript row "status" = .ok (.str d.status) ∧ historyInterval row = .ok d.interval := by
  rw [historyInterval_eq_ok]
  simp only [memberDecision, bind_eq_ok, pure, Except.pure, Except.ok.injEq, textOf_eq_ok]
  constructor
  · rintro ⟨_, hportfolio, portfolio, rfl, _, hstatus, status, rfl, first, hfirst, value, hvalue, last,
      hlast, rfl⟩
    exact ⟨hstatus, hfirst, ⟨value, hvalue, hlast⟩, hportfolio⟩
  · rintro ⟨hstatus, hfirst, ⟨value, hvalue, hlast⟩, hportfolio⟩
    exact ⟨_, hportfolio, _, rfl, _, hstatus, _, rfl, _, hfirst, _, hvalue, _, hlast, rfl⟩

theorem evaluatedRow_eq_ok {row : Json} {r : EvaluatedRow} : evaluatedRow row = .ok r ↔
    subscript row "portfolio_id" = .ok (.str r.portfolio) ∧
      subscript row "status" = .ok (.str r.status) ∧
      subscript row "observations_present" = .ok (.bool r.observed) := by
  simp only [evaluatedRow, bind_eq_ok, pure, Except.pure, Except.ok.injEq, textOf_eq_ok, boolOf_eq_ok]
  constructor
  · rintro ⟨_, hportfolio, portfolio, rfl, _, hstatus, status, rfl, _, hobserved, observed, rfl, rfl⟩
    exact ⟨hportfolio, hstatus, hobserved⟩
  · rintro ⟨hportfolio, hstatus, hobserved⟩
    exact ⟨_, hportfolio, _, rfl, _, hstatus, _, rfl, _, hobserved, _, rfl, rfl⟩

theorem rowsOf_eq {evaluation : Json} {items : List Json} {rows : List EvaluatedRow}
    (hitems : subscript evaluation "portfolios" = .ok (.arr items))
    (hrows : items.mapM evaluatedRow = .ok rows) : rowsOf evaluation = .ok rows :=
  bind_eq_ok.mpr ⟨_, hitems, bind_eq_ok.mpr ⟨items, rfl, hrows⟩⟩

theorem decisionsOf_eq {membership : Json} {items : List Json} {decisions : List MemberDecision}
    (hitems : subscript membership "decisions" = .ok (.arr items))
    (hdecisions : items.mapM memberDecision = .ok decisions) : decisionsOf membership = .ok decisions :=
  bind_eq_ok.mpr ⟨_, hitems, bind_eq_ok.mpr ⟨items, rfl, hdecisions⟩⟩

theorem rowsOf_of_accepts {evaluation : Json}
    (h : eligibilityEvaluation.accepts co isDecimal evaluation = true) :
    ∃ items rows, subscript evaluation "portfolios" = .ok (.arr items) ∧
      items.mapM evaluatedRow = .ok rows := by
  obtain ⟨value, hvalue, hlist⟩ := subscript_of_accepts h
    (show ("portfolios", true, Schema.list 1 (some 1000) eligibilityMember) ∈ _ by simp [field])
  obtain ⟨items, rfl, hitems⟩ := Schema.accepts_list hlist
  have hread : ∀ item ∈ items, ∃ r, evaluatedRow item = .ok r := by
    intro item hitem
    obtain ⟨_, hportfolio, htext⟩ := subscript_of_accepts (hitems item hitem)
      (show ("portfolio_id", true, identifier) ∈ _ by simp [field])
    obtain ⟨_, hstatus, hliteral⟩ := subscript_of_accepts (hitems item hitem)
      (show ("status", true, decisionStatus) ∈ _ by simp [field])
    obtain ⟨_, hobserved, hbool⟩ := subscript_of_accepts (hitems item hitem)
      (show ("observations_present", true, Schema.bool) ∈ _ by simp [field])
    obtain ⟨portfolio, rfl⟩ := Schema.accepts_text htext
    obtain ⟨status, -, rfl⟩ := Schema.accepts_literal hliteral
    obtain ⟨observed, rfl⟩ := Schema.accepts_bool hbool
    exact ⟨⟨portfolio, status, observed⟩, evaluatedRow_eq_ok.mpr ⟨hportfolio, hstatus, hobserved⟩⟩
  obtain ⟨rows, hrows⟩ := exists_mapM_eq evaluatedRow hread
  exact ⟨items, rows, hvalue, hrows⟩

/-- The decisions of an accepted membership are read, and hold on days of their own. -/
theorem decisionsOf_of_verdict {raw : Json} (h : eligibilityVerdict lib raw = .ok ()) :
    ∃ items decisions, subscript raw "decisions" = .ok (.arr items) ∧
      items.mapM memberDecision = .ok decisions ∧ (∀ d ∈ decisions, d.interval.Upright) ∧
      Separate decisions := by
  simp only [eligibilityVerdict, requireHistory, bind_eq_ok] at h
  obtain ⟨_, -, _, hshape, value, hvalue, items, hitems, hhistory⟩ := h
  obtain ⟨value', hvalue', hlist⟩ := subscript_of_accepts (lib.validate_eq_ok.mp hshape)
    (show ("decisions", true, Schema.list 1 none membershipDecision) ∈ _ by simp [field])
  cases hvalue.symm.trans hvalue'
  obtain ⟨items', rfl, hdecisions⟩ := Schema.accepts_list hlist
  cases hitems
  obtain ⟨intervals, hintervals, hupright, hpair⟩ := requireHistoryIntervals_eq_ok.mp hhistory
  have hread : ∀ item ∈ items, ∃ d, memberDecision item = .ok d := by
    intro item hitem
    obtain ⟨⟨name, first, last⟩, -, hi⟩ := converts_of_mapM hintervals hitem
    obtain ⟨_, hportfolio, htext⟩ := subscript_of_accepts (hdecisions item hitem)
      (show ("portfolio_id", true, identifier) ∈ _ by simp [field])
    obtain ⟨_, hstatus, hliteral⟩ := subscript_of_accepts (hdecisions item hitem)
      (show ("status", true, decisionStatus) ∈ _ by simp [field])
    obtain ⟨portfolio, rfl⟩ := Schema.accepts_text htext
    obtain ⟨status, -, rfl⟩ := Schema.accepts_literal hliteral
    cases hportfolio.symm.trans (historyInterval_eq_ok.mp hi).2.2
    exact ⟨⟨portfolio, status, first, last⟩, memberDecision_eq_ok.mpr ⟨hstatus, hi⟩⟩
  obtain ⟨decisions, hread⟩ := exists_mapM_eq memberDecision hread
  have hsame : decisions.map MemberDecision.interval = intervals := by
    have hread' : items.mapM historyInterval = .ok (decisions.map MemberDecision.interval) := by
      rw [mapM_eq_ok] at hread ⊢
      rw [List.forall₂_map_right_iff]
      exact hread.imp fun _ _ hd => (memberDecision_eq_ok.mp hd).2
    cases hread'.symm.trans hintervals
    rfl
  rw [← hsame, List.forall_mem_map] at hupright
  rw [← hsame, List.pairwise_map] at hpair
  refine ⟨items, decisions, hvalue, hread, hupright, ?_, ?_⟩
  · intro d hd
    exact HistoryInterval.upright_iff.mp (hupright d hd)
  · apply hpair.imp_of_mem
    intro d e hd he hapart hsame
    apply (HistoryInterval.apart_iff (hupright d hd) (hupright e he)).mp
    apply hapart
    exact lib.eq_text.mpr (congrArg Json.str hsame)

theorem pyEqItems_texts {floatValue : String → FloatValue} {texts : List String} :
    ∀ {items : List Json},
      (pyEqItems floatValue (texts.map Json.str) items = true ↔ items = texts.map Json.str) ∧
      (pyEqItems floatValue items (texts.map Json.str) = true ↔ items = texts.map Json.str) := by
  induction texts with
  | nil =>
      intro items
      cases items <;> simp [pyEqItems]
  | cons text texts ih =>
      intro items
      cases items with
      | nil => simp [pyEqItems]
      | cons item items => simp [pyEqItems, ih]

theorem eq_ofTexts {texts : List String} {j : Json} :
    lib.eq (Json.ofTexts texts) j = true ↔ j = Json.ofTexts texts := by
  unfold SourceLibrary.eq Json.ofTexts
  cases j with
  | arr items => rw [pyEq, pyEqItems_texts.1, Json.arr.injEq]
  | _ => simp [pyEq, numbersEq, numberOf]

theorem eq_ofTexts_right {texts : List String} {j : Json} :
    lib.eq j (Json.ofTexts texts) = true ↔ j = Json.ofTexts texts := by
  unfold SourceLibrary.eq Json.ofTexts
  cases j with
  | arr items => rw [pyEq, pyEqItems_texts.2, Json.arr.injEq]
  | _ => simp [pyEq, numbersEq, numberOf]

theorem same_ofTexts {a : Except CaptureError Json} {texts : List String} :
    lib.same (.ok (Json.ofTexts texts)) a = .ok true ↔ a = .ok (Json.ofTexts texts) := by
  rw [SourceLibrary.same_eq_true]
  constructor
  · rintro ⟨x, y, hx, hy, hxy⟩
    cases hx
    rw [hy, eq_ofTexts.mp hxy]
  · intro ha
    exact ⟨_, _, rfl, ha, eq_ofTexts.mpr rfl⟩

/-- Integers are equal as integers. -/
theorem eq_int {n m : Int} : lib.eq (.int n) (.int m) = true ↔ n = m := by
  simp [SourceLibrary.eq, pyEq, numbersEq, numberOf, FloatValue.eq]

theorem pairwise_of_sortedSet {texts : List String} (h : texts = sortedSet texts) :
    texts.Pairwise (· < ·) := by
  have hsorted : (sortedSet texts).Pairwise (· ≤ ·) := List.pairwise_insertionSort _ _
  have hnodup : (sortedSet texts).Nodup :=
    (List.perm_insertionSort _ _).nodup_iff.mpr (List.nodup_dedup texts)
  rw [h]
  exact (hsorted.and hnodup).imp fun h => lt_of_le_of_ne h.1 h.2

end Reading

section Population

variable {lib : SourceLibrary} {proposal : Json} {version : String}

theorem evaluationForVersion_eq_ok {evaluation : Json}
    (h : evaluationForVersion lib proposal version = .ok evaluation) :
    subscript proposal "evaluation" = .ok evaluation ∧
      eligibilityEvaluation.accepts lib.coercions lib.isDecimal evaluation = true := by
  unfold evaluationForVersion at h
  split at h
  · simp only [bind_eq_ok, pure, Except.pure, Except.ok.injEq] at h
    obtain ⟨_, -, found, hfound, _, hvalid, rfl⟩ := h
    exact ⟨hfound, lib.validate_eq_ok.mp hvalid⟩
  · obtain ⟨_, hvalid, hevaluation⟩ := bind_eq_ok.mp h
    refine ⟨hevaluation, ?_⟩
    have hshape : ∃ isOpen fields, ("evaluation", true, eligibilityEvaluation) ∈ fields ∧
        (Schema.object isOpen fields).accepts lib.coercions lib.isDecimal proposal = true := by
      split at hvalid
      · exact ⟨_, _, by simp [proposalFields, field], lib.validate_eq_ok.mp hvalid⟩
      · exact ⟨_, _, by simp [proposalFields, field], lib.validate_eq_ok.mp hvalid⟩
    obtain ⟨isOpen, fields, hfield, haccepts⟩ := hshape
    obtain ⟨value, hvalue, hvalid⟩ := subscript_of_accepts haccepts hfield
    cases hevaluation.symm.trans hvalue
    exact hvalid

/-- What an accepted population says: the rows of the evaluation in order, the lists of
portfolios that are expected, and the counts. -/
structure AcceptedPopulation (proposal : Json) (rows : List EvaluatedRow) : Prop where
  sorted : (rows.map fun row => row.portfolio).Pairwise (· < ·)
  expected : ∀ part ∈ ["universe", "observations"], readAt proposal [part, "expected_portfolio_ids"] =
    .ok (Json.ofTexts (rows.map fun row => row.portfolio))
  counts : ∀ count ∈ statedCounts rows, readAt proposal ["evaluation", count.1] = .ok (.int count.2)

theorem populationCounts_eq {items : List Json} {rows : List EvaluatedRow}
    (h : items.mapM evaluatedRow = .ok rows) : populationCounts items = .ok (statedCounts rows) := by
  have hrows := mapM_eq_ok.mp h
  have hpresent : items.mapM (subscript · "observations_present") =
      .ok (rows.map fun row => .bool row.observed) := by
    rw [mapM_eq_ok, List.forall₂_map_right_iff]
    exact hrows.imp fun _ _ hrow => (evaluatedRow_eq_ok.mp hrow).2.2
  have hstatus : items.mapM (subscript · "status") = .ok (rows.map fun row => .str row.status) := by
    rw [mapM_eq_ok, List.forall₂_map_right_iff]
    exact hrows.imp fun _ _ hrow => (evaluatedRow_eq_ok.mp hrow).2.1
  rw [populationCounts, hpresent, hstatus]
  simp [bind, Except.bind, pure, Except.pure, statedCounts, List.countP_map, Function.comp_def,
    hrows.length_eq]

theorem statedCount_isInt {evaluation value : Json} {rows : List EvaluatedRow} {count : String × Nat}
    (hvalid : eligibilityEvaluation.accepts lib.coercions lib.isDecimal evaluation = true)
    (hcount : count ∈ statedCounts rows) (hvalue : subscript evaluation count.1 = .ok value) :
    ∃ n, value = .int n := by
  have hint : ∀ {least : Int} {name : String}, subscript evaluation name = .ok value →
      (∃ found, subscript evaluation name = .ok found ∧
        (portfolioCount least).accepts lib.coercions lib.isDecimal found = true) →
      ∃ n, value = .int n := by
    rintro least name hvalue ⟨found, hfound, haccepts⟩
    cases hvalue.symm.trans hfound
    exact Schema.accepts_int haccepts
  simp only [statedCounts, List.mem_cons, List.not_mem_nil, or_false] at hcount
  rcases hcount with rfl | rfl | rfl | rfl | rfl
  · exact hint hvalue (subscript_of_accepts hvalid
      (show (_, true, portfolioCount 1) ∈ _ by simp [field]))
  all_goals
    exact hint hvalue (subscript_of_accepts hvalid
      (show (_, true, portfolioCount 0) ∈ _ by simp [field]))

/-- `_require_population` accepts nothing else. -/
theorem requirePopulation_accepted {u : Unit} (h : requirePopulation lib proposal version = .ok u) :
    ∃ items rows, readAt proposal ["evaluation", "portfolios"] = .ok (.arr items) ∧
      items.mapM evaluatedRow = .ok rows ∧ AcceptedPopulation proposal rows := by
  simp only [requirePopulation, bind_eq_ok] at h
  obtain ⟨evaluation, hevaluation, value, hvalue, items, hitems, ids, hids, expected, hexpected,
    _, -, _, -, _, -, _, -, _, -, _, -, _, hpopulation, counts, hcounts, _, hstated, -⟩ := h
  obtain ⟨hevaluation, hvalid⟩ := evaluationForVersion_eq_ok hevaluation
  obtain ⟨items', rows, hvalue', hrows⟩ := rowsOf_of_accepts hvalid
  cases hvalue.symm.trans hvalue'
  cases hitems
  have hnames : ids = rows.map fun row => row.portfolio := by
    have hids' : items.mapM (fun row => do textOf (← subscript row "portfolio_id")) =
        .ok (rows.map fun row => row.portfolio) := by
      rw [mapM_eq_ok] at hrows ⊢
      rw [List.forall₂_map_right_iff]
      apply hrows.imp
      intro item row hrow
      exact bind_eq_ok.mpr ⟨_, (evaluatedRow_eq_ok.mp hrow).1, rfl⟩
    cases hids.symm.trans hids'
    rfl
  subst hnames
  rw [refuseIf_eq_ok, firstTrue_eq_false] at hpopulation hstated
  simp only [List.forall_mem_cons, lib.differ_eq_false] at hpopulation
  obtain ⟨hsorted, hexpected', hobserved, -⟩ := hpopulation
  cases hcounts.symm.trans (populationCounts_eq hrows)
  refine ⟨items, rows, ?_, hrows, ?_, ?_, ?_⟩
  · rw [readAt_of_subscript hevaluation, readAt_singleton]
    exact hvalue
  · apply pairwise_of_sortedSet
    simpa using hsorted
  · simp only [List.forall_mem_cons, List.not_mem_nil, false_implies, implies_true, and_true]
    constructor
    · rw [hexpected]
      exact same_ofTexts.mp hexpected'
    · exact same_ofTexts.mp hobserved
  · intro count hcount
    rw [readAt_of_subscript hevaluation, readAt_singleton]
    have hsame := hstated _ (List.mem_map_of_mem hcount)
    rw [lib.differ_eq_false, lib.same_eq_true] at hsame
    obtain ⟨x, y, hx, hy, hxy⟩ := hsame
    cases hy
    obtain ⟨n, rfl⟩ := statedCount_isInt hvalid hcount hx
    rw [hx, eq_int.mp hxy]

end Population

section Entries

variable {lib : SourceLibrary}

/-- A dictionary of texts. -/
def textEntries (entries : List (String × String)) : List (Json × Json) :=
  entries.map fun e => (.str e.1, .str e.2)

theorem insertKey_textEntries {entries : List (String × String)} {key value : String}
    (hnodup : (entries.map Prod.fst).Nodup) :
    insertKey lib (.str key) (.str value) (textEntries entries) =
      textEntries (setItem entries key value) := by
  induction entries with
  | nil => rfl
  | cons e entries ih =>
      rw [List.map_cons, List.nodup_cons] at hnodup
      have hrest := ih hnodup.2
      unfold textEntries at hrest ⊢
      rw [List.map_cons, insertKey]
      by_cases heq : e.1 = key
      · subst heq
        have hkeep : (entries.map fun f => if f.1 = e.1 then (e.1, value) else f) = entries := by
          have hother : ∀ f ∈ entries, (if f.1 = e.1 then (e.1, value) else f) = f := by
            intro f hf
            apply if_neg
            intro hsame
            exact hnodup.1 (List.mem_map.mpr ⟨f, hf, hsame⟩)
          exact (List.map_congr_left hother).trans (List.map_id _)
        have hkey : e.1 ∈ (e :: entries).map Prod.fst := List.mem_cons_self
        rw [if_pos (lib.eq_text.mpr rfl), setItem, if_pos hkey, List.map_cons, if_pos rfl, hkeep,
          List.map_cons]
      · have hne : ¬lib.eq (.str e.1) (.str key) = true := by
          rw [lib.eq_text, Json.str.injEq]
          exact heq
        rw [if_neg hne, hrest]
        unfold setItem
        have hkey : key ∈ (e :: entries).map Prod.fst ↔ key ∈ entries.map Prod.fst := by
          rw [List.map_cons, List.mem_cons]
          constructor
          · rintro (hsame | hmem)
            · exact absurd hsame.symm heq
            · exact hmem
          · exact Or.inr
        simp only [hkey]
        split
        · rw [List.map_cons, if_neg heq, List.map_cons]
        · rw [List.cons_append, List.map_cons]

/-- Rows of texts are read into the dictionary of their entries. -/
theorem rowsBy_eq {rows : List Json} {pairs entries : List (String × String)}
    (hnodup : (entries.map Prod.fst).Nodup)
    (h : List.Forall₂ (fun row pair => subscript row "portfolio_id" = .ok (.str pair.1) ∧
      subscript row "status" = .ok (.str pair.2)) rows pairs) :
    rowsBy lib "portfolio_id" (subscript · "status") (textEntries entries) rows =
      .ok (textEntries (pairs.foldl (fun entries e => setItem entries e.1 e.2) entries)) := by
  induction h generalizing entries with
  | nil => rfl
  | @cons row pair rows pairs hrow _ ih =>
      rw [rowsBy, hrow.1, hrow.2]
      change rowsBy lib _ _ (insertKey lib (.str pair.1) (.str pair.2) (textEntries entries)) rows = _
      rw [insertKey_textEntries hnodup]
      exact ih (nodup_keys_setItem hnodup)

theorem mem_of_findKey {entries : List (String × String)} {key : String} {value : Json}
    (h : findKey lib (.str key) (textEntries entries) = some value) :
    ∃ text, value = .str text ∧ (key, text) ∈ entries := by
  unfold findKey at h
  obtain ⟨e, he, rfl⟩ := Option.map_eq_some_iff.mp h
  have hname := List.find?_some he
  obtain ⟨f, hf, rfl⟩ := List.mem_map.mp (List.mem_of_find?_eq_some he)
  refine ⟨f.2, rfl, ?_⟩
  have hsame := lib.eq_text.mp hname
  rw [Json.str.injEq] at hsame
  rw [← hsame]
  exact hf

/-- Equal dictionaries of texts have as many entries, and the same. -/
theorem mem_of_sameEntries {xs ys : List (String × String)}
    (h : sameEntries lib (textEntries xs) (textEntries ys) = true) :
    xs.length = ys.length ∧ ∀ e ∈ xs, e ∈ ys := by
  obtain ⟨hlength, hall⟩ := Bool.and_eq_true_iff.mp h
  constructor
  · simpa [textEntries] using hlength
  · intro e he
    have hfound := List.all_eq_true.mp hall _ (List.mem_map_of_mem he)
    rw [Option.any_eq_true] at hfound
    obtain ⟨value, hvalue, heq⟩ := hfound
    obtain ⟨text, rfl, hmem⟩ := mem_of_findKey hvalue
    have hsame := lib.eq_text.mp heq
    rw [Json.str.injEq] at hsame
    rw [show e = (e.1, text) from Prod.ext rfl hsame]
    exact hmem

end Entries

section Joins

variable {lib : SourceLibrary} {monthText : String} {member attestation proposal : Json}
  {items decisionItems : List Json} {rows : List EvaluatedRow} {decisions : List MemberDecision}

theorem overlaps_end {first last : CalendarDate} {value : Json} (hvalid : first.valid = true) :
    endOf value = .ok last →
    ((match value with
      | .null => return true
      | value => return !(← dateOf value).before first) : Except CaptureError Bool) =
      .ok !last.before first := by
  intro h
  cases value with
  | null =>
      cases h
      rw [not_lastDate_before hvalid]
      rfl
  | _ =>
      simp only [endOf] at h
      simp only [h]
      rfl

/-- The test for a decision of the month reads its interval. -/
theorem overlaps_eq {row : Json} {d : MemberDecision} {first last : CalendarDate}
    (hvalid : first.valid = true) (h : memberDecision row = .ok d) :
    overlaps first last row = .ok (d.meets first last) := by
  obtain ⟨hfirst, ⟨value, hvalue, hlast⟩, -⟩ := historyInterval_eq_ok.mp (memberDecision_eq_ok.mp h).2
  simp only [MemberDecision.interval] at hfirst hlast
  unfold overlaps MemberDecision.meets
  rw [hfirst, hvalue]
  change (if last.before d.first = true then _ else _) = _
  split
  · rename_i hbefore
    rw [hbefore]
    rfl
  · rename_i hbefore
    rw [Bool.not_eq_true] at hbefore
    rw [hbefore]
    exact overlaps_end hvalid hlast

theorem selected_of_month {first last : CalendarDate} (hvalid : first.valid = true)
    (hdecisions : decisionItems.mapM memberDecision = .ok decisions) :
    ∃ selected, decisionItems.filterM (overlaps first last) = .ok selected ∧
      selected.mapM memberDecision = .ok (decisions.filter fun d => d.meets first last) := by
  let keep : Json → Bool := fun row => (memberDecision row).toOption.any (MemberDecision.meets first last)
  have hkeep : ∀ row d, memberDecision row = .ok d → keep row = d.meets first last := by
    intro row d hd
    simp only [keep, hd]
    rfl
  refine ⟨decisionItems.filter keep, ?_, ?_⟩
  · apply filterM_eq_ok
    intro row hrow
    obtain ⟨d, -, hd⟩ := converts_of_mapM hdecisions hrow
    rw [hkeep row d hd]
    exact overlaps_eq hvalid hd
  · rw [mapM_eq_ok] at hdecisions ⊢
    apply List.rel_filter _ hdecisions
    intro row d hd
    simp only [hkeep row d hd]

/-- `_require_published_population` accepts one population only. -/
theorem requirePublishedPopulation_accepted {u : Unit}
    (h : requirePublishedPopulation lib monthText member attestation proposal = .ok u)
    (hitems : readAt proposal ["evaluation", "portfolios"] = .ok (.arr items))
    (hrows : items.mapM evaluatedRow = .ok rows)
    (hsorted : (rows.map fun row => row.portfolio).Pairwise (· < ·))
    (hmember : subscript member "decisions" = .ok (.arr decisionItems))
    (hdecisions : decisionItems.mapM memberDecision = .ok decisions) :
    ∃ first last, monthBounds monthText = .ok (first, last) ∧
      ((decisions.filter fun d => d.meets first last).map fun d => (d.portfolio, d.status)).Perm
        (rows.map fun row => (row.portfolio, row.status)) ∧
      subscript attestation "expected_portfolio_ids" =
        .ok (Json.ofTexts (rows.map fun row => row.portfolio)) := by
  have hpairs : List.Forall₂ (fun row pair => subscript row "portfolio_id" = .ok (.str pair.1) ∧
      subscript row "status" = .ok (.str pair.2)) items
      (rows.map fun row => (row.portfolio, row.status)) := by
    rw [List.forall₂_map_right_iff]
    apply (mapM_eq_ok.mp hrows).imp
    intro item row hrow
    obtain ⟨hportfolio, hstatus, -⟩ := evaluatedRow_eq_ok.mp hrow
    exact ⟨hportfolio, hstatus⟩
  have hnodup : ((rows.map fun row => (row.portfolio, row.status)).map Prod.fst).Nodup := by
    rw [List.map_map]
    exact hsorted.imp fun hlt => ne_of_lt hlt
  simp only [requirePublishedPopulation, bind_eq_ok, hitems, Except.ok.injEq] at h
  obtain ⟨_, rfl, found, hfound, evaluated, hevaluated, ⟨first, last⟩, hbounds, _, hmember',
    stored, hstored, selected, hselected, _, hpopulation, ids, hids, hexpected⟩ := h
  cases hfound
  cases hmember.symm.trans hmember'
  cases hstored
  have hvalid : first.valid = true := by
    obtain ⟨date, hdate, heq⟩ := bind_eq_ok.mp hbounds
    cases heq
    exact valid_of_dateOf hdate
  have hevaluated' := @rowsBy_eq lib _ _ [] List.nodup_nil hpairs
  rw [show List.foldl _ [] _ = dictOf _ from rfl, dictOf_eq_self hnodup] at hevaluated'
  cases hevaluated.symm.trans hevaluated'
  obtain ⟨chosen, hselected', hchosen⟩ := @selected_of_month _ _ first last hvalid hdecisions
  cases hselected.symm.trans hselected'
  have hstatuses : List.Forall₂ (fun row pair => subscript row "portfolio_id" = .ok (.str pair.1) ∧
      subscript row "status" = .ok (.str pair.2)) selected
      ((decisions.filter fun d => d.meets first last).map fun d => (d.portfolio, d.status)) := by
    rw [List.forall₂_map_right_iff]
    apply (mapM_eq_ok.mp hchosen).imp
    intro row d hd
    obtain ⟨hstatus, hinterval⟩ := memberDecision_eq_ok.mp hd
    exact ⟨(historyInterval_eq_ok.mp hinterval).2.2, hstatus⟩
  rw [refuseIf_eq_ok, firstTrue_eq_false] at hpopulation hexpected
  simp only [List.forall_mem_cons, Except.ok.injEq, bne_eq_false_iff_eq, bind_eq_ok, pure,
    Except.pure, Bool.not_eq_false'] at hpopulation
  obtain ⟨hlength, ⟨statuses, hstatuses', hsame⟩, -⟩ := hpopulation
  cases hstatuses'.symm.trans (@rowsBy_eq _ _ _ [] List.nodup_nil hstatuses)
  obtain ⟨hentries, hsubset⟩ := mem_of_sameEntries hsame
  have hcount := (mapM_eq_ok.mp hchosen).length_eq
  have hnodup' : (((decisions.filter fun d => d.meets first last).map fun d =>
      (d.portfolio, d.status)).map Prod.fst).Nodup := by
    apply nodup_of_length_dictOf
    change _ ≤ (List.foldl _ [] _).length
    rw [hentries, List.length_map, ← hcount, hlength, textEntries, List.length_map]
  rw [show List.foldl _ [] _ = dictOf _ from rfl, dictOf_eq_self hnodup'] at hentries hsubset
  refine ⟨first, last, hbounds, perm_of_subset hnodup' hsubset hentries.ge, ?_⟩
  have hnames : (textEntries (rows.map fun row => (row.portfolio, row.status))).mapM
      (fun entry => textOf entry.1) = .ok (rows.map fun row => row.portfolio) := by
    rw [textEntries, List.map_map, mapM_eq_ok, List.forall₂_map_left_iff,
      List.forall₂_map_right_iff]
    exact List.forall₂_same.mpr fun row _ => rfl
  cases hids.symm.trans hnames
  simp only [List.forall_mem_cons, lib.differ_eq_false] at hexpected
  obtain ⟨x, y, hx, hy, hxy⟩ := lib.same_eq_true.mp hexpected.1
  cases hy
  have hordered : sortedTexts (rows.map fun row => row.portfolio) = rows.map fun row => row.portfolio :=
    List.Pairwise.insertionSort_eq (hsorted.imp fun hlt => le_of_lt hlt)
  rw [hx, eq_ofTexts_right.mp hxy, hordered]

/-- The decisions of the month are the evaluated portfolios with their statuses, each once. -/
theorem decided_of_perm {first last : CalendarDate}
    (hsorted : (rows.map fun row => row.portfolio).Pairwise (· < ·))
    (hperm : ((decisions.filter fun d => d.meets first last).map fun d => (d.portfolio, d.status)).Perm
      (rows.map fun row => (row.portfolio, row.status))) :
    (∀ row ∈ rows, ((decisions.filter fun d => d.portfolio = row.portfolio ∧
      d.meets first last).map fun d => d.status) = [row.status]) ∧
    ∀ d ∈ decisions, d.meets first last = true → d.portfolio ∈ rows.map fun row => row.portfolio := by
  have hnodup : (((decisions.filter fun d => d.meets first last).map fun d =>
      (d.portfolio, d.status)).map Prod.fst).Nodup := by
    apply (hperm.map Prod.fst).nodup_iff.mpr
    rw [List.map_map]
    exact hsorted.imp fun hlt => ne_of_lt hlt
  constructor
  · intro row hrow
    have hmem := hperm.mem_iff.mpr (List.mem_map_of_mem (f := fun row : EvaluatedRow =>
      (row.portfolio, row.status)) hrow)
    have hone := filter_key_eq hnodup hmem
    rw [List.filter_map, List.filter_filter] at hone
    have hstatus := congrArg (List.map Prod.snd) hone
    rw [List.map_map] at hstatus
    simpa [Function.comp_def, Bool.decide_and] using hstatus
  · intro d hd hmeets
    have hmem : (d.portfolio, d.status) ∈ (decisions.filter fun d => d.meets first last).map fun d =>
        (d.portfolio, d.status) := List.mem_map.mpr ⟨d, List.mem_filter.mpr ⟨hd, hmeets⟩, rfl⟩
    obtain ⟨row, hrow, heq⟩ := List.mem_map.mp (hperm.mem_iff.mp hmem)
    exact List.mem_map.mpr ⟨row, hrow, congrArg Prod.fst heq⟩

end Joins

section Months

variable {lib : SourceLibrary} {selection : EligibilitySelection} {version : String}

theorem proposalForMonth_published {pin : MonthPin} {month proposal : Json}
    (hpublished : isPublished pin.evidence = true)
    (hkind : lib.differ (given (evidenceKind pin.evidence)) (getItem month "evidence_kind") = .ok false)
    (h : proposalForMonth lib month = .ok proposal) :
    readAt month ["receipt", "approval", "proposal"] = .ok proposal := by
  rw [evidenceKind, if_pos hpublished, lib.differ_eq_false] at hkind
  have hget := lib.same_text_left.mp hkind
  obtain ⟨kind, hsubscript, h⟩ := bind_eq_ok.mp h
  obtain ⟨fields, rfl, hlookup⟩ := subscript_eq_ok.mp hsubscript
  rw [getItem, hlookup] at hget
  cases hget
  split at h
  · exact h
  · rename_i hne
    exact absurd (lib.eq_text.mpr rfl) hne

theorem requireSourceMonth_published {pin : MonthPin} {month : Json} {u : Unit}
    (hpublished : isPublished pin.evidence = true)
    (h : requireSourceMonth lib selection version pin month = .ok u) :
    Nonempty (PublishedMonth pin.month month) := by
  simp only [requireSourceMonth, bind_eq_ok] at h
  obtain ⟨_, hkind, _, -, proposal, hproposal, _, hvalid, _, -, digests, -, _, -, _, -, hpublication⟩ := h
  rw [refuseIf_eq_ok] at hkind
  have hread := proposalForMonth_published hpublished hkind hproposal
  obtain ⟨accepted⟩ := requirePublication_accepted hpublished hpublication
  simp only [requireProposal, bind_eq_ok] at hvalid
  obtain ⟨_, hpopulation, -⟩ := hvalid
  obtain ⟨items, rows, hitems, hrows, population⟩ := requirePopulation_accepted hpopulation
  have hpath : ∀ path, readAt month (["receipt", "approval", "proposal"] ++ path) = readAt proposal path :=
    fun path => readAt_append_of_ok hread
  have hsame : proposal = accepted.proposal := by
    have hread' := @readAt_of_subscript _ _ _ ["approval", "proposal"] accepted.receiptRead
    exact Except.ok.inj (hread.symm.trans (hread'.trans accepted.proposalRead))
  obtain ⟨memberItems, decisions, hmember, hdecisions, -, hseparate⟩ :=
    decisionsOf_of_verdict accepted.memberVerdict
  obtain ⟨parentItems, earlier, hparent, hearlier, -, hearlierSeparate⟩ :=
    decisionsOf_of_verdict accepted.parentVerdict
  obtain ⟨first, last, hbounds, hperm, hattested⟩ := requirePublishedPopulation_accepted
    accepted.population (hsame ▸ hitems) hrows population.sorted hmember hdecisions
  obtain ⟨hdecided, hnoOther⟩ := decided_of_perm population.sorted hperm
  obtain ⟨evaluation, hevaluation, hportfolios⟩ := readAt_cons.mp hitems
  rw [readAt_singleton] at hportfolios
  exact ⟨{
    rows, decisions, earlier, first, last
    bounds := hbounds
    rowsRead := by
      have hfound := hpath ["evaluation"]
      rw [readAt_singleton, hevaluation] at hfound
      rw [show ["receipt", "approval", "proposal", "evaluation"] =
        ["receipt", "approval", "proposal"] ++ ["evaluation"] from rfl, hfound]
      exact rowsOf_eq hportfolios hrows
    decisionsRead := by
      rw [accepted.memberRead]
      exact decisionsOf_eq hmember hdecisions
    earlierRead := by
      rw [accepted.parentRead]
      exact decisionsOf_eq hparent hearlier
    separate := hseparate
    earlierSeparate := hearlierSeparate
    decided := hdecided
    noOther := hnoOther
    sorted := population.sorted
    expected := by
      simp only [List.forall_mem_cons, List.not_mem_nil, false_implies, implies_true, and_true]
      refine ⟨?_, ?_, ?_⟩
      · exact (hpath _).trans (population.expected "universe" (by simp))
      · exact (hpath _).trans (population.expected "observations" (by simp))
      · rw [List.singleton_append, readAt_of_subscript accepted.attestationRead, readAt_singleton]
        exact hattested
    counts := fun count hcount => (hpath _).trans (population.counts count hcount) }⟩

/-- Every month that is admitted as published is consistent: its decisions hold on days of their
own, those of the month are the evaluated portfolios with their statuses, and the expected
population and the counts are those of the evaluated rows. -/
theorem requireSourceMonths_published (lib : SourceLibrary) (selection : EligibilitySelection)
    (months : List Json) (version : String)
    (h : requireSourceMonths lib selection months version = .ok ()) :
    months.length = selection.months.length ∧
      ∀ pair ∈ selection.months.zip months, isPublished pair.1.evidence = true →
        Nonempty (PublishedMonth pair.1.month pair.2) := by
  obtain ⟨_, hlength, hmonths⟩ := bind_eq_ok.mp h
  rw [refuseIf_eq_ok, Except.ok.injEq, bne_eq_false_iff_eq] at hlength
  refine ⟨hlength, ?_⟩
  intro pair hpair hpublished
  exact requireSourceMonth_published hpublished (forM_eq_ok.mp hmonths pair hpair)

end Months

section Sample

/-- A decision that awaits a review. -/
def pendingDecision (first : String) (last : Json) : Json := .obj
  [ ("portfolio_id", .str "p"), ("effective_from", .str first), ("effective_to", last),
    ("status", .str "PENDING_REVIEW"), ("reason_code", .str "MISSING"), ("discretionary", .bool true),
    ("approval_ref", .null), ("source_snapshot_id", .str sampleHash) ]

/-- A membership of a revision. -/
def membershipOf (revision : String) (supersedes : Json) (decisions : List Json) : Json :=
  .obj (sampleScope ++ texts
    [ ("product_name", "CompositeMembership"), ("product_version", "v1"),
      ("membership_revision", revision), ("policy_version", "y"), ("source_cut_id", "cut"),
      ("decided_at", "2026-02-02T00:00:00+00:00"), ("decided_by", "u"), ("correlation_id", "x"),
      ("content_hash", sampleHash) ] ++
    [ ("decisions", .arr decisions), ("supersedes_membership_revision", supersedes),
      ("affected_from", .null), ("affected_to", .null) ])

/-- The attestation of the published population. -/
def publishedAttestation : Json := .obj (sampleScope ++ texts
  [ ("product_name", "CompositeUniverseAttestation"), ("product_version", "v1"),
    ("membership_revision", "m1"), ("membership_content_hash", sampleHash),
    ("attestation_version", "e1"), ("coverage_from", "2026-01-01"), ("coverage_to", "2026-01-31"),
    ("policy_version", "y"), ("source_cut_id", "cut"), ("posture", "COMPLETE"),
    ("attested_at", "2026-02-02T00:00:00+00:00"), ("attested_by", "u"), ("correlation_id", "x"),
    ("content_hash", sampleHash) ] ++
  [ ("source_products", .arr [.obj (texts
      [ ("owner_service", "lotus-manage"), ("product_name", "CompositeMonthlyEvaluationApproval"),
        ("contract_version", "v1"), ("source_watermark", "e1"), ("content_hash", sampleHash) ])]),
    ("expected_portfolio_ids", .arr [.str "p"]),
    ("expected_portfolio_count", .int 1), ("observed_portfolio_count", .int 0),
    ("missing_portfolio_ids", .arr [.str "p"]), ("unexpected_portfolio_ids", .arr []),
    ("coverage_gap_portfolio_ids", .arr []), ("reason_code", .null) ])

/-- A month of which one decision was published, between an earlier and a later one. -/
def publishedMonth : Json := .obj
  [ ("evidence_kind", .str "PUBLISHED"),
    ("receipt", sampleReceipt),
    ("membership", membershipOf "m1" (.str "m0")
      [ pendingDecision "2026-02-01" .null, pendingDecision "2026-01-01" (.str "2026-01-31"),
        pendingDecision "2025-01-01" (.str "2025-12-31") ]),
    ("universe", publishedAttestation),
    ("parent_membership", membershipOf "m0" .null [pendingDecision "2025-01-01" .null]),
    ("publication", .obj (sampleScope ++ texts
      [ ("product_name", "CompositeMembershipPublication"), ("product_version", "v1"),
        ("membership_revision", "m1"), ("membership_content_hash", sampleHash),
        ("policy_version", "y"), ("source_cut_id", "cut"),
        ("supersedes_membership_revision", "m0"), ("decided_at", "2026-02-02T00:00:00+00:00"),
        ("published_at", "2026-02-02T00:00:00+00:00"), ("completeness", "UNVERIFIED") ] ++
      [ ("sequence", .int 1), ("decision_count", .int 3), ("affected_from", .null),
        ("affected_to", .null) ])),
    ("response_digests", .obj (texts
      [ ("receipt", sampleHash), ("membership", sampleHash), ("universe", sampleHash),
        ("parent_membership", sampleHash), ("publication", sampleHash) ])) ]

def publishedPin : MonthPin where
  sourceVersion := .v1
  month := "2026-01"
  evaluationRevision := "e1"
  proposalContentHash := sampleHash
  parentMembershipRevision := "m0"
  parentMembershipContentHash := sampleHash
  sourceCutId := "cut"
  evidence := .published sampleHash sampleHash sampleHash "m1" sampleHash sampleHash "e1" sampleHash
    sampleHash sampleHash 1 sampleHash
  lineageReceipts := none
  parentPublicationResponseDigest := none

def publishedSelection : EligibilitySelection :=
  { sampleMonthSelection with family := .original, months := [publishedPin] }

theorem requireSourceMonths_sample :
    requireSourceMonths sampleLibrary publishedSelection [publishedMonth] "v1" = .ok () := by
  obtain ⟨u, hu⟩ := isOk_eq_true.mp (show (requireSourceMonths sampleLibrary publishedSelection
    [publishedMonth] "v1").isOk = true by decide +kernel)
  exact hu

theorem requireSourceMonths_published_sample : Nonempty (PublishedMonth "2026-01" publishedMonth) :=
  (requireSourceMonths_published sampleLibrary publishedSelection [publishedMonth] "v1"
    requireSourceMonths_sample).2 (publishedPin, publishedMonth) List.mem_cons_self rfl

end Sample

end LotusReport.Composite.Eligibility
