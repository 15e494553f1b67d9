import LotusReport.Fallible.Checks
import LotusReport.Relational.Kept
import LotusReport.Transactions.EarningsStatement

/-!
# The exactness of the paging

The source holds a list of JSON items and answers a query with some of the items from
`skip`. The reader keeps the objects among them and advances `skip` by what it kept, so
that its cursor stays in step with the source only while every item is an object.
-/

namespace LotusReport.Transactions

open Encoding Fallible Relational

section Purpose

variable (py : Platform) (budgets : Budgets) (limit : Nat) (items : List Json)

/-- The answer is a page of the list from `skip`: at least one and at most `limit` of the items
that remain. -/
def ServesPage (skip limit : Nat) (answer : Answer) : Prop :=
  answer.statusCode < 400 ∧ ∃ payload count, answer.payload = .obj payload ∧
    1 ≤ count ∧ count ≤ limit ∧
    Json.lookup payload "transactions" = some (.arr ((items.drop skip).take count)) ∧
    Json.lookup payload "total" = some (.int items.length)

/-- The queries that the loop sends from here are answered with pages of the list; the cases are
those of `readPages`. -/
def Served (answers : Nat → Answer) : Nat → Reading → Prop
  | 0, _ => True
  | remaining + 1, r =>
      r.rows.length < budgets.maxRows →
        ServesPage items r.skip (min limit (budgets.maxRows - r.rows.length))
          (answers r.fetchedPages) ∧
        ∀ page, readPage py (answers r.fetchedPages) = .ok page →
          let next := r.consume py budgets limit page
          ¬(budgets.maxRows - r.rows.length < page.rows.length ∨
            budgets.maxRows ≤ next.rows.length) →
          ¬(page.rows = [] ∨ page.total.value ≤ next.skip) →
          Served answers remaining next

/-- The objects of the list. -/
def objects : List Fields := items.filterMap dict?

/-- The note about a truncated window is among the notes. -/
def Truncated (notes : List Json) : Prop :=
  ∃ note ∈ notes, get (asDict note) "code" = .str "transaction_window_truncated"

/-- The limit of a page, when none is given the default. -/
def pageLimit : Nat := if limit = 0 then 500 else limit

/-- However the list is cut into pages, the read ends with the first of its objects, within the row
budget, and notes a truncation exactly when it has not returned all of them. -/
def PagingExact : Prop :=
  ∀ answers, Served py budgets (pageLimit limit) items answers budgets.maxPages {} →
    ∃ result, listTransactionRowsResult py budgets limit answers = .ok result ∧
      result.rows <+: objects items ∧ result.rows.length ≤ budgets.maxRows ∧
      (Truncated result.supportability.2 ↔ result.rows.length < (objects items).length)

/-- The boundaries at which the reader and the list agree. `leading dict? items` is the number of
objects before the first item that is none. -/
structure Fits : Prop where
  /-- The objects are not just as many as the row budget, if the pages suffice for them. -/
  notSpent : (objects items).length = budgets.maxRows →
    budgets.maxRows ≤ leading dict? items → limit * budgets.maxPages < budgets.maxRows
  /-- Objects below the row budget with other items only behind them cannot take all the pages. -/
  trailing : (objects items).length = leading dict? items → leading dict? items < items.length →
    leading dict? items < budgets.maxRows → budgets.maxPages ≤ leading dict? items →
    limit * budgets.maxPages < leading dict? items
  /-- An item that is no object, before other objects and within the row budget, is reached on the
  last page only. -/
  lastPage : leading dict? items < (objects items).length → leading dict? items < budgets.maxRows →
    limit * (budgets.maxPages - 1) < leading dict? items
  /-- And an object lies behind the budgets. -/
  beyond : leading dict? items < (objects items).length → leading dict? items < budgets.maxRows →
    ∃ item ∈ items.drop (min (limit * budgets.maxPages) budgets.maxRows), dict? item ≠ none

end Purpose

section Steps

variable {py : Platform} {budgets : Budgets} {limit : Nat} {items : List Json}
  {answers : Nat → Answer} {s c : Nat} {r : Reading} {page : Page}

variable (items) in
/-- The loop has read the first `s` items. -/
structure HasRead (s : Nat) (r : Reading) : Prop where
  rows : r.rows = kept dict? items s
  skip : r.skip = (kept dict? items s).length

theorem HasRead.initial : HasRead items 0 {} := ⟨rfl, rfl⟩

theorem HasRead.rows_length (h : HasRead items s r) (hlead : s ≤ leading dict? items) :
    r.rows.length = s := by
  rw [h.rows]
  exact length_kept_eq_iff.mpr hlead

theorem HasRead.skip_eq (h : HasRead items s r) (hlead : s ≤ leading dict? items) : r.skip = s := by
  rw [h.skip]
  exact length_kept_eq_iff.mpr hlead

theorem readPage_of_serves {skip limit : Nat} {answer : Answer}
    (h : ServesPage items skip limit answer) :
    ∃ c page, 1 ≤ c ∧ c ≤ limit ∧ readPage py answer = .ok page ∧
      page.rows = ((items.drop skip).take c).filterMap dict? ∧
      page.total.value = items.length := by
  obtain ⟨hstatus, payload, c, hpayload, hpos, hle, hrows, htotal⟩ := h
  refine ⟨c, ⟨payload, ((items.drop skip).take c).filterMap dict?, ⟨items.length, false⟩⟩, hpos, hle,
    ?_, rfl, rfl⟩
  rw [readPage, if_pos hstatus, hpayload]
  simp only [dict?, hrows, get, htotal, Option.getD_some, toInt, asList]
  rfl

variable (items) in
/-- The page holds what is kept of `c` items from `s`. -/
structure Holds (s c : Nat) (page : Page) : Prop where
  rows : page.rows = ((items.drop s).take c).filterMap dict?
  total : page.total.value = items.length

theorem Holds.length_rows (h : Holds items s c page) :
    (kept dict? items (s + c)).length = (kept dict? items s).length + page.rows.length := by
  rw [kept_add, List.length_append, h.rows]

variable (py limit) (hread : HasRead items s r) (hlead : s ≤ leading dict? items)
  (hc : c ≤ budgets.maxRows - s) (hholds : Holds items s c page)
include hread hlead hc hholds

/-- After a page of `c` items the loop has read `c` items more. -/
theorem HasRead.consume : HasRead items (s + c) (r.consume py budgets limit page) := by
  have hlength := hholds.length_rows
  have hle : page.rows.length ≤ c := by
    rw [hholds.rows]
    exact (List.length_filterMap_le _ _).trans (List.length_take_le _ _)
  constructor
  · rw [Reading.consume, kept_add, ← hread.rows, ← hholds.rows]
    dsimp only
    rw [List.take_of_length_le]
    rw [hread.rows_length hlead]
    omega
  · rw [Reading.consume, hlength, hread.skip]

theorem spends_iff : (budgets.maxRows - r.rows.length < page.rows.length ∨
    budgets.maxRows ≤ (r.consume py budgets limit page).rows.length) ↔
      budgets.maxRows ≤ (kept dict? items (s + c)).length := by
  have hnext := hread.consume py limit hlead hc hholds
  have hle : page.rows.length ≤ c := by
    rw [hholds.rows]
    exact (List.length_filterMap_le _ _).trans (List.length_take_le _ _)
  rw [hnext.rows, hread.rows_length hlead]
  omega

theorem ends_iff : (page.rows = [] ∨
    page.total.value ≤ (r.consume py budgets limit page).skip) ↔
      (kept dict? items (s + c)).length = s ∨
        items.length ≤ (kept dict? items (s + c)).length := by
  have hnext := hread.consume py limit hlead hc hholds
  rw [hnext.skip, hholds.total, ← List.length_eq_zero_iff, Int.ofNat_le, hholds.length_rows,
    length_kept_eq_iff.mpr hlead]
  omega

theorem readPages_pass (remaining : Nat) (hopen : s < budgets.maxRows)
    (hpage : readPage py (answers r.fetchedPages) = .ok page) :
    readPages py budgets limit answers (remaining + 1) r =
      if budgets.maxRows ≤ (kept dict? items (s + c)).length then
        .ok (r.consume py budgets limit page, some .maxRowsReached)
      else if (kept dict? items (s + c)).length = s ∨
          items.length ≤ (kept dict? items (s + c)).length then
        .ok (r.consume py budgets limit page, none)
      else readPages py budgets limit answers remaining (r.consume py budgets limit page) := by
  rw [readPages, hread.rows_length hlead, if_neg (not_le.mpr hopen), hpage]
  dsimp only
  have hspends := spends_iff py limit hread hlead hc hholds
  have hends := ends_iff py limit hread hlead hc hholds
  rw [hread.rows_length hlead] at hspends
  simp only [hspends, hends]

/-- The answers to the queries of one pass and of the passes after it. -/
theorem served_pass (remaining : Nat) (hopen : s < budgets.maxRows)
    (hpage : readPage py (answers r.fetchedPages) = .ok page) :
    Served py budgets limit items answers (remaining + 1) r ↔
      ServesPage items s (min limit (budgets.maxRows - s)) (answers r.fetchedPages) ∧
        (¬budgets.maxRows ≤ (kept dict? items (s + c)).length →
          ¬((kept dict? items (s + c)).length = s ∨
            items.length ≤ (kept dict? items (s + c)).length) →
          Served py budgets limit items answers remaining (r.consume py budgets limit page)) := by
  have hspends := spends_iff py limit hread hlead hc hholds
  have hends := ends_iff py limit hread hlead hc hholds
  rw [hread.rows_length hlead] at hspends
  rw [Served, hread.rows_length hlead, hread.skip_eq hlead]
  constructor
  · intro h
    obtain ⟨hserves, hrest⟩ := h hopen
    refine ⟨hserves, fun hspent hended => hrest page hpage ?_ ?_⟩
    · rwa [hspends]
    · rwa [hends]
  · rintro ⟨hserves, hrest⟩ -
    refine ⟨hserves, fun page' hpage' hspent hended => ?_⟩
    cases hpage.symm.trans hpage'
    rw [hspends] at hspent
    rw [hends] at hended
    exact hrest hspent hended

end Steps

section Sufficient

variable {py : Platform} {budgets : Budgets} {limit : Nat} {items : List Json}
  {answers : Nat → Answer}

variable (budgets items) in
/-- The end of a loop that returns what it should and stops as it should. -/
structure EndsExact (r : Reading) (stopReason : Option StopReason) : Prop where
  rows : r.rows <+: objects items
  budget : r.rows.length ≤ budgets.maxRows
  reason : stopReason ≠ none ↔ r.rows.length < (objects items).length

variable (py budgets limit items) in
/-- Every read of the list ends exactly. -/
def ReadsExact : Prop :=
  ∀ answers, Served py budgets limit items answers budgets.maxPages {} →
    ∃ r stopReason, readPages py budgets limit answers budgets.maxPages {} = .ok (r, stopReason) ∧
      EndsExact budgets items r stopReason

theorem HasRead.endsExact_some {n : Nat} {r : Reading} {reason : StopReason}
    (h : HasRead items n r) (hbudget : n ≤ budgets.maxRows)
    (hmore : (kept dict? items n).length < (objects items).length) :
    EndsExact budgets items r (some reason) := by
  rw [← h.rows] at hmore
  refine ⟨h.rows ▸ kept_prefix, ?_, iff_of_true (Option.some_ne_none _) hmore⟩
  rw [h.rows]
  exact length_kept_le.trans hbudget

theorem HasRead.endsExact_none {n : Nat} {r : Reading} (h : HasRead items n r)
    (hbudget : n ≤ budgets.maxRows) (hall : (objects items).length ≤ (kept dict? items n).length) :
    EndsExact budgets items r none := by
  rw [← h.rows] at hall
  refine ⟨h.rows ▸ kept_prefix, ?_, iff_of_false (not_not.mpr rfl) (not_lt.mpr hall)⟩
  rw [h.rows]
  exact length_kept_le.trans hbudget

/-- A list that fits is read exactly. The induction is on the pages that are left; until an item
that is no object was read, the loop has read at least one object and at most `limit` on each
page. -/
theorem readPages_exact (hfits : Fits budgets limit items) {remaining s : Nat} {r : Reading}
    (hread : HasRead items s r) (hlead : s ≤ leading dict? items) (hopen : s < budgets.maxRows)
    (hpages : r.fetchedPages + remaining = budgets.maxPages) (hleast : r.fetchedPages ≤ s)
    (hmost : s ≤ limit * r.fetchedPages) (hgoing : r.fetchedPages = 0 ∨ s < items.length)
    (hserved : Served py budgets limit items answers remaining r) :
    ∃ r' stopReason, readPages py budgets limit answers remaining r = .ok (r', stopReason) ∧
      EndsExact budgets items r' stopReason := by
  induction remaining generalizing s r with
  | zero =>
      refine ⟨_, _, rfl, hread.endsExact_some hopen.le ?_⟩
      have hpositive := budgets.positive
      have hall : leading dict? items ≤ (objects items).length := leading_le_all
      rw [length_kept_eq_iff.mpr hlead]
      by_contra hnot
      have htrailing := hfits.trailing (by omega) (by omega) (by omega) (by omega)
      rw [← hpages, Nat.add_zero] at htrailing
      omega
  | succ remaining ih =>
      have hserves := hserved
      rw [Served, hread.rows_length hlead, hread.skip_eq hlead] at hserves
      obtain ⟨c, page, hpos, hle, hpage, hrows, htotal⟩ := readPage_of_serves (hserves hopen).1
      have hc : c ≤ budgets.maxRows - s := hle.trans (min_le_right _ _)
      have hlimit : c ≤ limit := hle.trans (min_le_left _ _)
      have hholds : Holds items s c page := ⟨hrows, htotal⟩
      have hnext := hread.consume py limit hlead hc hholds
      have hrest := ((served_pass py limit hread hlead hc hholds remaining hopen hpage).mp hserved).2
      have hreached : limit * (r.fetchedPages + 1) ≤ limit * budgets.maxPages :=
        Nat.mul_le_mul_left _ (by omega)
      have hcount : (kept dict? items (s + c)).length ≤ s + c := length_kept_le
      rw [Nat.mul_succ] at hreached
      rw [readPages_pass py limit hread hlead hc hholds remaining hopen hpage]
      by_cases hspent : budgets.maxRows ≤ (kept dict? items (s + c)).length
      · rw [if_pos hspent]
        refine ⟨_, _, rfl, hnext.endsExact_some (by omega) ?_⟩
        have hwithin : s + c ≤ leading dict? items := length_kept_eq_iff.mp (by omega)
        have hall : (kept dict? items (s + c)).length ≤ (objects items).length := length_kept_le_all
        by_contra hnot
        have hfew := hfits.notSpent (by omega) (by omega)
        omega
      rw [if_neg hspent]
      by_cases hended : (kept dict? items (s + c)).length = s ∨
          items.length ≤ (kept dict? items (s + c)).length
      · rw [if_pos hended]
        refine ⟨_, _, rfl, hnext.endsExact_none (by omega) ?_⟩
        rcases hended with hnothing | hend
        · have hstuck : leading dict? items ≤ s := by
            by_contra hmore
            have hstep := @length_kept_mono _ _ dict? items (s + 1) (s + c) (by omega)
            rw [length_kept_eq_iff.mpr (by omega)] at hstep
            omega
          by_contra hnot
          have hlast := hfits.lastPage (by omega) (by omega)
          have hearlier : limit * r.fetchedPages ≤ limit * (budgets.maxPages - 1) :=
            Nat.mul_le_mul_left _ (by omega)
          omega
        · exact (List.length_filterMap_le _ _).trans hend
      rw [if_neg hended]
      have hcontinues := hrest hspent hended
      rw [not_or, not_le] at hended
      by_cases hwithin : s + c ≤ leading dict? items
      · rw [length_kept_eq_iff.mpr hwithin] at hspent hended
        exact ih hnext hwithin (by omega) (by rw [← hpages]; exact Nat.add_right_comm _ _ _)
          (by simp only [Reading.consume]; omega)
          (by simp only [Reading.consume, Nat.mul_succ]; omega) (.inr hended.2) hcontinues
      have hmore : leading dict? items ≤ (kept dict? items (s + c)).length := by
        have hmono := @length_kept_mono _ _ dict? items (leading dict? items) (s + c) (by omega)
        rwa [length_kept_leading] at hmono
      by_cases hall : (objects items).length = leading dict? items
      · have hsame : kept dict? items (s + c) = kept dict? items (leading dict? items) :=
          (kept_eq_of_length (hall.le.trans hmore)).trans
            (kept_eq_of_length (hall.le.trans length_kept_leading.ge)).symm
        rw [hsame, length_kept_leading] at hspent hended
        have hnext' : HasRead items (leading dict? items) (r.consume py budgets limit page) :=
          ⟨hnext.rows.trans hsame, hnext.skip.trans (congrArg _ hsame)⟩
        exact ih hnext' le_rfl (by omega) (by rw [← hpages]; exact Nat.add_right_comm _ _ _)
          (by simp only [Reading.consume]; omega)
          (by simp only [Reading.consume, Nat.mul_succ]; omega) (.inr hended.2) hcontinues
      · have hobjects : leading dict? items < (objects items).length :=
          lt_of_le_of_ne leading_le_all (Ne.symm hall)
        have hlast := hfits.lastPage hobjects (by omega)
        have hremaining : remaining = 0 := by
          by_contra hnot
          have hearlier : limit * (r.fetchedPages + 1) ≤ limit * (budgets.maxPages - 1) :=
            Nat.mul_le_mul_left _ (by omega)
          rw [Nat.mul_succ] at hearlier
          omega
        subst hremaining
        refine ⟨_, _, rfl, hnext.endsExact_some (by omega) ?_⟩
        have hbeyond := length_kept_lt_iff.mpr (hfits.beyond hobjects (by omega))
        refine lt_of_le_of_lt (length_kept_mono (le_min ?_ (by omega))) hbeyond
        omega

end Sufficient

section Necessary

variable (limit target pages last : Nat) (items : List Json)

/-- Where the page `k` starts when `pages` pages of at most `limit` items end at `target`. -/
def cut (k : Nat) : Nat := min (limit * k) (target - (pages - k))

/-- The page of `count` items from `skip`. -/
def cutPage (skip count : Nat) : Page where
  payload := [("transactions", .arr ((items.drop skip).take count)), ("total", .int items.length)]
  rows := ((items.drop skip).take count).filterMap dict?
  total := ⟨items.length, false⟩

/-- The number of items on the page `k`; those from `pages` on have `last`. -/
def cutSize (k : Nat) : Nat :=
  if k < pages then cut limit target pages (k + 1) - cut limit target pages k else last

/-- The answers of these pages. -/
def cutAnswers (k : Nat) : Answer :=
  ⟨200, .obj (cutPage items (cut limit target pages k) (cutSize limit target pages last k)).payload⟩

variable {limit target pages last items} {py : Platform} {budgets : Budgets} {k l : Nat}

theorem cut_zero : cut limit target pages 0 = 0 := by
  rw [cut, Nat.mul_zero, Nat.zero_min]

theorem cut_pages (h : target ≤ limit * pages) : cut limit target pages pages = target := by
  rw [cut, Nat.sub_self, Nat.sub_zero, min_eq_right h]

theorem cut_le : cut limit target pages k ≤ target :=
  (min_le_right _ _).trans (Nat.sub_le _ _)

/-- A page on the way to the target has at least one item and at most `limit`. -/
theorem cut_succ (hleast : pages ≤ target) (hmost : target ≤ limit * pages) (hk : k < pages) :
    cut limit target pages k < cut limit target pages (k + 1) ∧
      cut limit target pages (k + 1) ≤ cut limit target pages k + limit := by
  have hlimit : 1 ≤ limit := by
    by_contra hnot
    rw [not_le, Nat.lt_one_iff] at hnot
    rw [hnot, Nat.zero_mul] at hmost
    omega
  unfold cut
  rw [Nat.mul_succ]
  omega

theorem cutSize_of_lt (hk : k < pages) : cutSize limit target pages last k =
    cut limit target pages (k + 1) - cut limit target pages k :=
  if_pos hk

theorem cutSize_pages : cutSize limit target pages last pages = last := if_neg (lt_irrefl _)

theorem cutAnswers_serves {c : Nat} (hpos : 1 ≤ c) (hle : c ≤ l)
    (hsize : cutSize limit target pages last k = c) :
    ServesPage items (cut limit target pages k) l (cutAnswers limit target pages last items k) := by
  subst hsize
  exact ⟨show (200 : Int) < 400 by decide, _, _, rfl, hpos, hle, rfl, rfl⟩

theorem readPage_cutAnswers : readPage py (cutAnswers limit target pages last items k) =
    .ok (cutPage items (cut limit target pages k) (cutSize limit target pages last k)) :=
  rfl

theorem holds_cutPage (s c : Nat) : Holds items s c (cutPage items s c) := ⟨rfl, rfl⟩

/-- The loop reads on to the target. The induction is on the pages up to it. -/
theorem readPages_reaches (hleast : pages ≤ target) (hmost : target ≤ limit * pages)
    (hlead : target ≤ leading dict? items) (hopen : target < budgets.maxRows)
    (hmore : target < items.length) (rest : Nat) {d : Nat} {r : Reading}
    (hread : HasRead items (cut limit target pages k) r) (hk : r.fetchedPages = k)
    (hd : k + d = pages) :
    ∃ r', HasRead items target r' ∧ r'.fetchedPages = pages ∧
      readPages py budgets limit (cutAnswers limit target pages last items) (d + rest) r =
        readPages py budgets limit (cutAnswers limit target pages last items) rest r' ∧
      (Served py budgets limit items (cutAnswers limit target pages last items) rest r' →
        Served py budgets limit items (cutAnswers limit target pages last items) (d + rest) r) := by
  subst hk
  induction d generalizing r with
  | zero =>
      rw [Nat.add_zero] at hd
      rw [hd, cut_pages hmost] at hread
      rw [Nat.zero_add]
      exact ⟨r, hread, hd, rfl, id⟩
  | succ d ih =>
      have hk : r.fetchedPages < pages := by omega
      obtain ⟨hgrows, hwithin⟩ := cut_succ hleast hmost hk
      have hbound := @cut_le limit target pages (r.fetchedPages + 1)
      have hpage := @readPage_cutAnswers limit target pages last items py r.fetchedPages
      have hsize := @cutSize_of_lt limit target pages last r.fetchedPages hk
      rw [hsize] at hpage
      have hlead' : cut limit target pages r.fetchedPages ≤ leading dict? items := by omega
      have hc : cut limit target pages (r.fetchedPages + 1) - cut limit target pages r.fetchedPages ≤
          budgets.maxRows - cut limit target pages r.fetchedPages := by omega
      have hholds := @holds_cutPage items (cut limit target pages r.fetchedPages)
        (cut limit target pages (r.fetchedPages + 1) - cut limit target pages r.fetchedPages)
      have hnext := hread.consume py limit hlead' hc hholds
      have hpass := readPages_pass py limit hread hlead' hc hholds (d + rest) (by omega) hpage
      have hserved := served_pass py limit hread hlead' hc hholds (d + rest) (by omega) hpage
      rw [Nat.add_sub_cancel' hgrows.le] at hnext hpass hserved
      have hcount : (kept dict? items (cut limit target pages (r.fetchedPages + 1))).length =
          cut limit target pages (r.fetchedPages + 1) := length_kept_eq_iff.mpr (by omega)
      rw [hcount, if_neg (by omega), if_neg (by omega)] at hpass
      obtain ⟨r', hread', hfetched, hreads, hserves⟩ :=
        @ih (r.consume py budgets limit (cutPage items _ _)) hnext (by
          show r.fetchedPages + 1 + d = pages
          omega)
      rw [show d + 1 + rest = d + rest + 1 by omega]
      refine ⟨r', hread', hfetched, hpass.trans hreads, fun h => hserved.mpr ⟨?_, fun _ _ => hserves h⟩⟩
      exact cutAnswers_serves (by omega) (le_min (by omega) hc) hsize

/-- The run to the target and over one page more, if pages are left for it. -/
theorem readPages_reaches_pass (hleast : pages ≤ target) (hmost : target ≤ limit * pages)
    (hlead : target ≤ leading dict? items) (hopen : target < budgets.maxRows)
    (hmore : target < items.length) {rest : Nat} (hrest : pages + (rest + 1) = budgets.maxPages)
    (hpos : 1 ≤ last) (hlast : last ≤ min limit (budgets.maxRows - target)) :
    ∃ r, HasRead items (target + last) r ∧
      (let after := (kept dict? items (target + last)).length
      readPages py budgets limit (cutAnswers limit target pages last items) budgets.maxPages {} =
        if budgets.maxRows ≤ after then .ok (r, some .maxRowsReached)
        else if after = target ∨ items.length ≤ after then .ok (r, none)
        else readPages py budgets limit (cutAnswers limit target pages last items) rest r) ∧
      (rest = 0 ∨ (kept dict? items (target + last)).length = target ∨
          budgets.maxRows ≤ (kept dict? items (target + last)).length →
        Served py budgets limit items (cutAnswers limit target pages last items)
          budgets.maxPages {}) := by
  have hinitial : HasRead items (cut limit target pages 0) {} := by
    rw [cut_zero]
    exact HasRead.initial
  obtain ⟨r, hread, hfetched, hreads, hserves⟩ := @readPages_reaches limit target pages last items py
    budgets 0 hleast hmost hlead hopen hmore (rest + 1) pages {} hinitial rfl (Nat.zero_add pages)
  have hc : last ≤ budgets.maxRows - target := hlast.trans (min_le_right _ _)
  have hholds := @holds_cutPage items target last
  have hpage : readPage py (cutAnswers limit target pages last items r.fetchedPages) =
      .ok (cutPage items target last) := by
    rw [hfetched, readPage_cutAnswers, cut_pages hmost, cutSize_pages]
  have hserved := served_pass py limit hread hlead hc hholds rest hopen hpage
  rw [hrest] at hreads hserves
  refine ⟨_, hread.consume py limit hlead hc hholds,
    hreads.trans (readPages_pass py limit hread hlead hc hholds rest hopen hpage),
    fun hstops => hserves (hserved.mpr ⟨?_, fun hspent hended => ?_⟩)⟩
  · rw [hfetched]
    have h := @cutAnswers_serves limit target pages last items pages
      (min limit (budgets.maxRows - target)) last hpos hlast cutSize_pages
    rwa [cut_pages hmost] at h
  · rcases hstops with rfl | hnothing | hbudget
    · exact trivial
    · exact absurd (.inl hnothing) hended
    · exact absurd hbudget hspent

theorem HasRead.reason_iff {n : Nat} {r : Reading} {stopReason : Option StopReason}
    (h : HasRead items n r) (hexact : EndsExact budgets items r stopReason) :
    stopReason ≠ none ↔ (kept dict? items n).length < (objects items).length := by
  rw [← h.rows]
  exact hexact.reason

variable (h : ReadsExact py budgets limit items)
include h

/-- Objects that take all the pages are returned, and other items behind them keep the loop
asking. -/
theorem ReadsExact.trailing (hall : (objects items).length = leading dict? items)
    (hmore : leading dict? items < items.length) (hopen : leading dict? items < budgets.maxRows)
    (hpages : budgets.maxPages ≤ leading dict? items) :
    limit * budgets.maxPages < leading dict? items := by
  by_contra hfew
  have hinitial : HasRead items (cut limit (leading dict? items) budgets.maxPages 0) {} := by
    rw [cut_zero]
    exact HasRead.initial
  obtain ⟨r, hread, hfetched, hreads, hserves⟩ := @readPages_reaches limit (leading dict? items)
    budgets.maxPages 0 items py budgets 0 hpages (not_lt.mp hfew) le_rfl hopen hmore 0 _ {} hinitial
    rfl (Nat.zero_add _)
  obtain ⟨r', stopReason, hread', hexact⟩ := h _ (hserves trivial)
  cases hreads.symm.trans hread'
  have hless := (hread.reason_iff hexact).mp (Option.some_ne_none _)
  rw [length_kept_leading] at hless
  omega

variable (hlimit : 1 ≤ limit)
include hlimit

/-- A read up to the row budget of a list with just as many objects notes a truncation. -/
theorem ReadsExact.notSpent (hall : (objects items).length = budgets.maxRows)
    (hlead : budgets.maxRows ≤ leading dict? items) :
    limit * budgets.maxPages < budgets.maxRows := by
  by_contra hfew
  obtain ⟨rows, -⟩ := budgets.positive
  have hlength : (objects items).length ≤ items.length := List.length_filterMap_le _ _
  have hdiv : limit * ((budgets.maxRows - 1) / limit) ≤ budgets.maxRows - 1 := Nat.mul_div_le _ _
  have hrest : budgets.maxRows - 1 < limit * ((budgets.maxRows - 1) / limit + 1) :=
    Nat.lt_mul_div_succ _ hlimit
  have hpages : (budgets.maxRows - 1) / limit < budgets.maxPages := by
    by_contra hnot
    have hmul : limit * budgets.maxPages ≤ limit * ((budgets.maxRows - 1) / limit) :=
      Nat.mul_le_mul_left _ (not_lt.mp hnot)
    omega
  rw [Nat.mul_succ] at hrest
  have hend : limit * ((budgets.maxRows - 1) / limit) +
      (budgets.maxRows - limit * ((budgets.maxRows - 1) / limit)) = budgets.maxRows := by omega
  obtain ⟨r, hread, hreads, hserved⟩ := @readPages_reaches_pass limit
    (limit * ((budgets.maxRows - 1) / limit)) ((budgets.maxRows - 1) / limit)
    (budgets.maxRows - limit * ((budgets.maxRows - 1) / limit)) items py budgets
    (Nat.le_mul_of_pos_left _ hlimit) le_rfl (by omega) (by omega) (by omega)
    (budgets.maxPages - (budgets.maxRows - 1) / limit - 1) (by omega) (by omega)
    (le_min (by omega) le_rfl)
  rw [hend] at hread hreads hserved
  have hcount : (kept dict? items budgets.maxRows).length = budgets.maxRows :=
    length_kept_eq_iff.mpr hlead
  rw [hcount] at hreads hserved
  dsimp only at hreads
  rw [if_pos le_rfl] at hreads
  obtain ⟨r', stopReason, hread', hexact⟩ := h _ (hserved (.inr (.inr le_rfl)))
  cases hreads.symm.trans hread'
  have hless := (hread.reason_iff hexact).mp (Option.some_ne_none _)
  omega

/-- A page that starts at an item that is no object may hold nothing else. -/
theorem ReadsExact.lastPage (hobjects : leading dict? items < (objects items).length)
    (hopen : leading dict? items < budgets.maxRows) :
    limit * (budgets.maxPages - 1) < leading dict? items := by
  by_contra hfew
  obtain ⟨-, hpositive⟩ := budgets.positive
  have hlength : (objects items).length ≤ items.length := List.length_filterMap_le _ _
  have hceil : leading dict? items ≤ limit * ((leading dict? items + limit - 1) / limit) := by
    have hrest := Nat.lt_mul_div_succ (leading dict? items + limit - 1) hlimit
    rw [Nat.mul_succ] at hrest
    omega
  have hpages : (leading dict? items + limit - 1) / limit ≤ budgets.maxPages - 1 := by
    rw [← Nat.lt_succ_iff, Nat.div_lt_iff_lt_mul hlimit, Nat.succ_mul, Nat.mul_comm _ limit]
    omega
  have hleast : (leading dict? items + limit - 1) / limit ≤ leading dict? items := by
    rw [← Nat.lt_succ_iff, Nat.div_lt_iff_lt_mul hlimit, Nat.succ_mul]
    have hmul : leading dict? items ≤ leading dict? items * limit :=
      Nat.le_mul_of_pos_right _ hlimit
    omega
  obtain ⟨r, hread, hreads, hserved⟩ := @readPages_reaches_pass limit (leading dict? items)
    ((leading dict? items + limit - 1) / limit) 1 items py budgets hleast hceil le_rfl hopen
    (by omega) (budgets.maxPages - (leading dict? items + limit - 1) / limit - 1) (by omega) le_rfl
    (le_min hlimit (by omega))
  rw [length_kept_leading_succ] at hreads hserved
  dsimp only at hreads
  rw [if_neg (not_le.mpr hopen), if_pos (.inl rfl)] at hreads
  obtain ⟨r', stopReason, hread', hexact⟩ := h _ (hserved (.inr (.inl rfl)))
  cases hreads.symm.trans hread'
  have hless := (hread.reason_iff hexact).mpr (by rwa [length_kept_leading_succ])
  exact hless rfl

theorem ReadsExact.beyond (hobjects : leading dict? items < (objects items).length)
    (hopen : leading dict? items < budgets.maxRows) :
    ∃ item ∈ items.drop (min (limit * budgets.maxPages) budgets.maxRows), dict? item ≠ none := by
  have hfew := h.lastPage hlimit hobjects hopen
  obtain ⟨-, hpositive⟩ := budgets.positive
  have hlength : (objects items).length ≤ items.length := List.length_filterMap_le _ _
  apply length_kept_lt_iff.mp
  obtain ⟨pages, hpages⟩ := Nat.exists_eq_add_of_le' hpositive
  rw [hpages, Nat.add_sub_cancel] at hfew
  have hend : limit * pages + min limit (budgets.maxRows - limit * pages) =
      min (limit * budgets.maxPages) budgets.maxRows := by
    rw [hpages, Nat.mul_succ]
    omega
  obtain ⟨r, hread, hreads, hserved⟩ := @readPages_reaches_pass limit (limit * pages) pages
    (min limit (budgets.maxRows - limit * pages)) items py budgets
    (Nat.le_mul_of_pos_left _ hlimit) le_rfl hfew.le (by omega) (by omega) 0 hpages.symm
    (by omega) le_rfl
  rw [hend] at hread hreads hserved
  obtain ⟨r', stopReason, hread', hexact⟩ := h _ (hserved (.inl rfl))
  by_contra hall
  rw [not_lt] at hall
  have hshort : (objects items).length < items.length := by
    refine lt_of_le_of_ne hlength fun heq => ?_
    have hwhole : (kept dict? items items.length).length = items.length := by
      rw [kept, List.take_length]
      exact heq
    have hnone := length_kept_eq_iff.mp hwhole
    omega
  have hends : ∃ reason, readPages py budgets limit (cutAnswers limit (limit * pages) pages
      (min limit (budgets.maxRows - limit * pages)) items) budgets.maxPages {} =
        .ok (r, some reason) := by
    rw [hreads]
    split
    · exact ⟨_, rfl⟩
    · have hcount : (kept dict? items
          (min (limit * budgets.maxPages) budgets.maxRows)).length ≤ (objects items).length :=
        length_kept_le_all
      rw [if_neg (by change (objects items).length ≤ _ at hall; omega)]
      exact ⟨_, rfl⟩
  obtain ⟨reason, hends⟩ := hends
  cases hends.symm.trans hread'
  have hless := (hread.reason_iff hexact).mp (Option.some_ne_none _)
  exact absurd hless (not_lt.mpr hall)

omit h in
theorem readsExact_iff : ReadsExact py budgets limit items ↔ Fits budgets limit items := by
  constructor
  · intro h
    exact ⟨h.notSpent hlimit, h.trailing, h.lastPage hlimit, h.beyond hlimit⟩
  · intro hfits answers hserved
    exact readPages_exact hfits HasRead.initial (Nat.zero_le _) budgets.positive.1 (Nat.zero_add _)
      le_rfl (Nat.zero_le _) (.inl rfl) hserved

end Necessary

section Result

variable {py : Platform} {budgets : Budgets} {limit : Nat} {items : List Json}

/-- The note of a truncation is there exactly when the loop stopped at a budget. -/
theorem truncated_iff (returnedCount fetchedPages : Nat) (sourceTotal : Option Count)
    (stopReason : Option StopReason) (sourceProduct : Fields) :
    Truncated (transactionWindowSupportability py budgets returnedCount sourceTotal fetchedPages
      stopReason sourceProduct).2 ↔ stopReason ≠ none := by
  cases stopReason with
  | none =>
      refine iff_of_false ?_ (not_not.mpr rfl)
      rintro ⟨note, hnote, hcode⟩
      have hnot := not_isTruncation hnote
      rw [isTruncation, hcode] at hnot
      exact absurd hnot (by decide +kernel)
  | some reason => exact iff_of_true ⟨_, List.mem_cons_self, rfl⟩ (Option.some_ne_none _)

theorem pageLimit_pos : 1 ≤ pageLimit limit := by
  unfold pageLimit
  split
  · decide
  · omega

theorem pagingExact_iff_readsExact :
    PagingExact py budgets limit items ↔ ReadsExact py budgets (pageLimit limit) items := by
  have hlimit : (if (limit : Int) = 0 then 500 else (limit : Int)) = (pageLimit limit : Int) := by
    unfold pageLimit
    split <;> split <;> omega
  apply forall_congr'
  intro answers
  apply imp_congr_right
  intro _
  rw [listTransactionRowsResult, hlimit]
  constructor
  · rintro ⟨result, hresult, hrows, hbudget, htruncated⟩
    obtain ⟨⟨r, stopReason⟩, hread, heq⟩ := bind_eq_ok.mp hresult
    cases heq
    exact ⟨r, stopReason, hread, hrows, hbudget, (truncated_iff ..).symm.trans htruncated⟩
  · rintro ⟨r, stopReason, hread, hrows, hbudget, hreason⟩
    rw [hread]
    exact ⟨_, rfl, hrows, hbudget, (truncated_iff ..).trans hreason⟩

variable (py budgets limit items) in
/-- The paging of a list is exact if and only if the list fits. -/
theorem pagingExact_iff : PagingExact py budgets limit items ↔
    Fits budgets (pageLimit limit) items :=
  pagingExact_iff_readsExact.trans (readsExact_iff pageLimit_pos)

/-- One transaction and a budget of one row: it is returned and a truncation is noted. -/
theorem not_pagingExact_spent :
    ¬PagingExact plainPlatform ⟨1, 20, by decide⟩ 500 [.obj []] := by
  rw [pagingExact_iff_readsExact, readsExact_iff pageLimit_pos]
  intro hfits
  exact absurd (hfits.notSpent rfl (by decide)) (by decide)

end Result

end LotusReport.Transactions
